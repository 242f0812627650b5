import FormEngine.Schema.Wellformed
import Mathlib.Data.List.Induction
import Mathlib.Data.List.Nodup

/-!
Which ids are reported as duplicates: those that are not empty and stand more than once, each once and in
the order in which they stand for the second time. The search keeps the ids that it has seen and those
that it has found again. What both have to do with the ids that came before is their tally, which is kept
by every id that comes next, and so by the whole search.
-/

namespace FormEngine

namespace Wellformed

/-- A text stands at a place for the second time. -/
def Recurs (ids : List String) (id : String) (place : Nat) : Prop :=
  ids[place]? = some id ∧ (ids.take place).count id = 1

/-- One text stands for the second time before another does. -/
def RecursBefore (ids : List String) (id other : String) : Prop :=
  ∃ m n, Recurs ids id m ∧ Recurs ids other n ∧ m < n

variable {ids before seen found : List String} {id other : String} {m n : Nat}

theorem Recurs.lt_length (h : Recurs ids id n) : n < ids.length := (List.getElem?_eq_some_iff.mp h.1).1

theorem Recurs.append (h : Recurs ids id n) (more : List String) : Recurs (ids ++ more) id n := by
  unfold Recurs
  rw [List.getElem?_append_left h.lt_length, List.take_append_of_le_length (Nat.le_of_lt h.lt_length)]
  exact h

theorem recurs_last (once : before.count id = 1) : Recurs (before ++ [id]) id before.length :=
  ⟨List.getElem?_concat_length, by rwa [List.take_left]⟩

/-- There is but one place at which a text stands for the second time. -/
theorem Recurs.place_le (h : Recurs ids id m) (h' : Recurs ids id n) : n ≤ m := by
  by_contra later
  have twice : (ids.take (m + 1)).count id = 2 := by
    rw [List.take_add_one, h.1, Option.toList_some, List.count_append, h.2, List.count_singleton_self]
  have within : (ids.take (m + 1)).count id ≤ (ids.take n).count id :=
    (List.take_sublist_take_left (Nat.lt_of_not_le later)).count_le id
  rw [twice, h'.2] at within
  omega

theorem exists_recurs (twice : 2 ≤ ids.count id) : ∃ n, Recurs ids id n := by
  induction ids using List.reverseRecOn with
  | nil => simp at twice
  | append_singleton ids last ih =>
    by_cases already : 2 ≤ ids.count id
    · obtain ⟨n, recurs⟩ := ih already
      exact ⟨n, recurs.append [last]⟩
    · rw [List.count_append, List.count_singleton] at twice
      split at twice
      · next same =>
        obtain rfl : last = id := beq_iff_eq.mp same
        exact ⟨ids.length, recurs_last (by omega)⟩
      · omega

theorem RecursBefore.append (h : RecursBefore ids id other) (more : List String) :
    RecursBefore (ids ++ more) id other := by
  obtain ⟨m, n, recurs, later, lt⟩ := h
  exact ⟨m, n, recurs.append more, later.append more, lt⟩

theorem RecursBefore.ne (h : RecursBefore ids id other) : id ≠ other := by
  rintro rfl
  obtain ⟨m, n, recurs, later, lt⟩ := h
  exact Nat.not_lt.mpr (recurs.place_le later) lt

/-- What the ids that were seen and those that were found again have to do with those that came
before. -/
structure Tally (before seen found : List String) : Prop where
  seen : ∀ id, id ∈ seen ↔ id ≠ "" ∧ id ∈ before
  again : ∀ id, id ∈ found ↔ id ≠ "" ∧ 2 ≤ before.count id
  ordered : found.Pairwise (RecursBefore before)

namespace Tally

theorem start : Tally [] [] [] := ⟨by simp, by simp, .nil⟩

theorem nodup (h : Tally before seen found) : found.Nodup := h.ordered.imp RecursBefore.ne

/-- An id that was seen and not found again stands once. -/
theorem count_eq_one_iff (h : Tally before seen found) (named : id ≠ "") :
    id ∈ seen ∧ id ∉ found ↔ before.count id = 1 := by
  rw [h.seen, h.again, ← List.count_pos_iff]
  simp only [named, ne_eq, not_false_eq_true, true_and]
  omega

theorem skip (h : Tally before seen found) : Tally (before ++ [""]) seen found where
  seen other := by
    rw [h.seen, List.mem_append, List.mem_singleton]
    tauto
  again other := by
    rw [h.again, List.count_append]
    refine and_congr_right fun named => ?_
    rw [List.count_eq_zero_of_not_mem (l := [""]) (by simpa using named), Nat.add_zero]
  ordered := h.ordered.imp fun earlier => earlier.append [""]

/-- An id that stands for the first time, or for the third time or later, is but seen. -/
theorem note (h : Tally before seen found) (named : id ≠ "") (notOnce : before.count id ≠ 1) :
    Tally (before ++ [id]) (id :: seen) found where
  seen other := by
    rw [List.mem_cons, h.seen, List.mem_append, List.mem_singleton]
    constructor
    · rintro (rfl | ⟨filled, seen⟩)
      · exact ⟨named, .inr rfl⟩
      · exact ⟨filled, .inl seen⟩
    · rintro ⟨filled, seen | same⟩
      · exact .inr ⟨filled, seen⟩
      · exact .inl same
  again other := by
    rw [h.again, List.count_append, List.count_singleton]
    refine and_congr_right fun _ => ?_
    split
    · next same =>
      obtain rfl : id = other := beq_iff_eq.mp same
      omega
    · rfl
  ordered := h.ordered.imp fun earlier => earlier.append [id]

/-- An id that stands for the second time is found again, after all that were found before. -/
theorem find (h : Tally before seen found) (named : id ≠ "") (once : before.count id = 1) :
    Tally (before ++ [id]) seen (found ++ [id]) where
  seen other := by
    have already : id ∈ before := List.count_pos_iff.mp (once ▸ Nat.one_pos)
    rw [h.seen, List.mem_append, List.mem_singleton]
    refine and_congr_right fun _ => ⟨.inl, ?_⟩
    rintro (seen | rfl)
    · exact seen
    · exact already
  again other := by
    rw [List.mem_append, List.mem_singleton, h.again, List.count_append, List.count_singleton]
    split
    · next same =>
      obtain rfl : id = other := beq_iff_eq.mp same
      exact iff_of_true (.inr rfl) ⟨named, by omega⟩
    · next differs =>
      have ne : other ≠ id := fun same => differs (beq_iff_eq.mpr same.symm)
      simp [ne]
  ordered := by
    refine List.pairwise_append.mpr
      ⟨h.ordered.imp fun earlier => earlier.append [id], List.pairwise_singleton _ _, ?_⟩
    intro earlier he last hl
    obtain rfl := List.mem_singleton.mp hl
    obtain ⟨m, recurs⟩ := exists_recurs ((h.again earlier).mp he).2
    exact ⟨m, before.length, recurs.append [last], recurs_last once, recurs.lt_length⟩

/-- The search keeps the tally to its end. -/
theorem run (h : Tally before seen found) (rest : List String) :
    ∃ seen', Tally (before ++ rest) seen' (duplicates seen found rest) := by
  induction rest generalizing before seen found with
  | nil => exact ⟨seen, by rwa [List.append_nil]⟩
  | cons id rest ih =>
    rw [List.append_cons]
    unfold duplicates
    split
    · next empty =>
      obtain rfl : id = "" := String.isEmpty_iff.mp empty
      exact ih h.skip
    · next filled =>
      have named : id ≠ "" := fun empty => filled (String.isEmpty_iff.mpr empty)
      have decided : (seen.contains id && !found.contains id) = true ↔ before.count id = 1 := by
        simpa using h.count_eq_one_iff named
      split
      · next once => exact ih (h.find named (decided.mp once))
      · next other => exact ih (h.note named fun once => other (decided.mpr once))

end Tally

theorem tally_duplicates (ids : List String) : ∃ seen, Tally ids seen (duplicates [] [] ids) :=
  Tally.start.run ids

theorem duplicates_eq_nil : duplicates [] [] ids = [] ↔ (ids.filter fun id => !id.isEmpty).Nodup := by
  obtain ⟨seen, tally⟩ := tally_duplicates ids
  rw [List.eq_nil_iff_forall_not_mem, List.nodup_iff_count_le_one]
  refine forall_congr' fun id => ?_
  rw [tally.again]
  by_cases empty : id = ""
  · have absent : id ∉ ids.filter fun id => !id.isEmpty := by simp [empty]
    rw [List.count_eq_zero_of_not_mem absent]
    exact iff_of_true (fun h => h.1 empty) (Nat.zero_le 1)
  · rw [List.count_filter (by simpa using empty)]
    simp only [empty, ne_eq, not_false_eq_true, true_and]
    omega

theorem duplicateErrors_eq_nil {ids : List String} :
    duplicateErrors ids = [] ↔ (ids.filter fun id => !id.isEmpty).Nodup := by
  rw [← duplicates_eq_nil]
  unfold duplicateErrors
  cases duplicates [] [] ids <;> simp

/-- Nothing is reported just if the ids that are not empty are distinct. Otherwise one message lists those
that stand at least twice, each once, in the order in which they stand for the second time. -/
theorem repeated_ids_reported (ids : List String) :
    (duplicateErrors ids = [] ↔ (ids.filter fun id => !id.isEmpty).Nodup) ∧
    (¬ (ids.filter fun id => !id.isEmpty).Nodup → ∃ found,
      duplicateErrors ids = ["Duplicate field IDs found: " ++ ", ".intercalate found] ∧
      found.Nodup ∧ (∀ id, id ∈ found ↔ id ≠ "" ∧ 2 ≤ ids.count id) ∧
      found.Pairwise (RecursBefore ids)) := by
  refine ⟨duplicateErrors_eq_nil, fun repeated => ?_⟩
  obtain ⟨seen, tally⟩ := tally_duplicates ids
  refine ⟨duplicates [] [] ids, ?_, tally.nodup, tally.again, tally.ordered⟩
  rw [← duplicates_eq_nil] at repeated
  unfold duplicateErrors
  split
  · next none => exact absurd none repeated
  · rfl

/-- Two ids that stand again in the order in which they do not stand first. -/
def crossedIds : List String := ["a", "b", "", "b", "", "a", "b"]

theorem crossedIds_reported :
    ¬ (crossedIds.filter fun id => !id.isEmpty).Nodup ∧ ∃ found,
      duplicateErrors crossedIds = ["Duplicate field IDs found: " ++ ", ".intercalate found] ∧
      found.Nodup ∧ (∀ id, id ∈ found ↔ id ≠ "" ∧ 2 ≤ crossedIds.count id) ∧
      found.Pairwise (RecursBefore crossedIds) := by
  have repeated : ¬ (crossedIds.filter fun id => !id.isEmpty).Nodup := by decide
  exact ⟨repeated, (repeated_ids_reported crossedIds).2 repeated⟩

example : duplicateErrors ["a", "b", "", "b", "", "a", "b"] = ["Duplicate field IDs found: b, a"] := by
  decide

end Wellformed

end FormEngine
