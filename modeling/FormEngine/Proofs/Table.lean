import FormEngine.Table
import Mathlib.Data.List.Induction
import Mathlib.Data.List.Nodup

/-!
What is found in a table after whole tables are laid over it, or after all its values change.
-/

namespace FormEngine

namespace Table

variable {α β : Type}

theorem get?_merge_of_not_mem (t : Table α) {changes : Table α} {key : String}
    (h : key ∉ changes.keys) : get? (merge t changes) key = get? t key := by
  induction changes generalizing t with
  | nil => rfl
  | cons e changes ih =>
      simp only [keys, List.map_cons, List.mem_cons, not_or] at h
      rw [show merge t (e :: changes) = merge (put t e.1 e.2) changes from rfl, ih _ h.2,
        get?_put_ne _ _ h.1]

theorem get?_map (t : Table α) (f : α → β) (key : String) :
    get? (t.map fun e => (e.1, f e.2)) key = (get? t key).map f := by
  induction t with
  | nil => rfl
  | cons e t ih =>
      obtain ⟨k, x⟩ := e
      rw [List.map_cons, get?_cons, get?_cons, ih]
      split <;> rfl

/-- Leaving out entries by their keys leaves what there was under the other keys. -/
theorem get?_filter_keys (t : Table α) {p : String → Bool} {key : String} (h : p key = true) :
    get? (t.filter fun e => p e.1) key = get? t key := by
  induction t with
  | nil => rfl
  | cons e t ih =>
      obtain ⟨k, x⟩ := e
      rw [List.filter_cons, get?_cons]
      by_cases same : key = k
      · subst same
        rw [if_pos h, if_pos rfl, get?_cons, if_pos rfl]
      · rw [if_neg same]
        split
        · rw [get?_cons, if_neg same, ih]
        · exact ih

theorem get?_of_mem {t : Table α} (h : (keys t).Nodup) {key : String} {x : α}
    (hm : (key, x) ∈ t) : get? t key = some x := by
  induction t with
  | nil => cases hm
  | cons e t ih =>
      obtain ⟨k, y⟩ := e
      obtain ⟨absent, rest⟩ := List.nodup_cons.mp h
      rw [get?_cons]
      rcases List.mem_cons.mp hm with he | later
      · obtain ⟨rfl, rfl⟩ := Prod.ext_iff.mp he
        exact if_pos rfl
      · have differs : key ≠ k := by
          rintro rfl
          exact absent (List.mem_map.mpr ⟨(key, x), later, rfl⟩)
        rw [if_neg differs]
        exact ih rest later

theorem put_of_not_mem (t : Table α) {key : String} (x : α) (h : key ∉ keys t) :
    put t key x = t ++ [(key, x)] := by
  induction t with
  | nil => rfl
  | cons e t ih =>
      obtain ⟨k, y⟩ := e
      simp only [keys, List.map_cons, List.mem_cons, not_or] at h
      unfold put
      rw [if_neg (Ne.symm h.1), ih h.2]
      rfl

theorem merge_eq_append (t : Table α) {changes : Table α} (h : (keys (t ++ changes)).Nodup) :
    merge t changes = t ++ changes := by
  induction changes generalizing t with
  | nil => simp
  | cons e changes ih =>
      obtain ⟨k, x⟩ := e
      have absent : k ∉ keys t := by
        intro hm
        rw [keys, List.map_append, List.nodup_append] at h
        exact h.2.2 k hm k List.mem_cons_self rfl
      rw [merge_cons, put_of_not_mem t x absent, ih, List.append_assoc]
      · rfl
      · rw [List.append_assoc]
        exact h

theorem nodup_keys_ofEntries (entries : List (String × α)) : (keys (ofEntries entries)).Nodup :=
  nodup_keys_merge (t := []) List.nodup_nil entries

/-- Of the entries for a key the last one counts. -/
theorem get?_ofEntries_iff {entries : List (String × α)} {key : String} {x : α} :
    get? (ofEntries entries) key = some x ↔
      ∃ before after, entries = before ++ (key, x) :: after ∧ key ∉ keys after := by
  constructor
  · intro found
    induction entries using List.reverseRecOn with
    | nil => cases found
    | append_singleton entries e ih =>
      have last : ofEntries (entries ++ [e]) = put (ofEntries entries) e.1 e.2 :=
        List.foldl_append
      rw [last, get?_put] at found
      split at found
      · next same =>
        subst same
        cases found
        exact ⟨entries, [], rfl, by simp [keys]⟩
      · next differs =>
        obtain ⟨before, after, rfl, absent⟩ := ih found
        refine ⟨before, after ++ [e], by simp, ?_⟩
        simpa [keys, differs] using absent
  · rintro ⟨before, after, rfl, absent⟩
    have last : ofEntries (before ++ (key, x) :: after) =
        merge (put (ofEntries before) key x) after := List.foldl_append
    rw [last, get?_merge_of_not_mem _ absent, get?_put_self]

/-- Entries with distinct keys are a table as they stand. -/
theorem ofEntries_eq {entries : List (String × α)} (h : (keys entries).Nodup) :
    ofEntries entries = entries := by
  unfold ofEntries
  rw [merge_eq_append [] h]
  rfl

theorem get?_merge_congr {t u : Table α} {key : String} (h : get? t key = get? u key)
    (changes : Table α) : get? (merge t changes) key = get? (merge u changes) key := by
  induction changes generalizing t u with
  | nil => exact h
  | cons e changes ih =>
      refine ih ?_
      rw [get?_put, get?_put, h]

/-- What is put under one key of a table makes no difference to what is found under another when the
table is laid over one. -/
theorem get?_merge_put (t u : Table α) {key other : String} (x : α) (h : other ≠ key) :
    get? (merge t (put u key x)) other = get? (merge t u) other := by
  induction u generalizing t with
  | nil => exact get?_put_ne t x h
  | cons e u ih =>
      obtain ⟨k, y⟩ := e
      unfold put
      split
      · next hk =>
        subst hk
        refine get?_merge_congr ?_ u
        rw [get?_put_ne _ _ h, get?_put_ne _ _ h]
      · exact ih _

theorem get?_merge_merge (t u : Table α) {changes : Table α} {key : String}
    (h : key ∉ keys changes) : get? (merge t (merge u changes)) key = get? (merge t u) key := by
  induction changes generalizing u with
  | nil => rfl
  | cons e changes ih =>
      simp only [keys, List.map_cons, List.mem_cons, not_or] at h
      rw [show merge u (e :: changes) = merge (put u e.1 e.2) changes from rfl, ih _ h.2,
        get?_merge_put _ _ _ h.1]

theorem mem_keys_of_foldl_drop {t : Table α} (dropped : List String) {key : String}
    (h : key ∈ keys (dropped.foldl drop t)) : key ∈ keys t := by
  induction dropped generalizing t with
  | nil => exact h
  | cons other dropped ih =>
      have rest := ih h
      rw [keys_drop] at rest
      exact (List.mem_filter.mp rest).1

theorem mem_keys_merge (t changes : Table α) (key : String) :
    key ∈ keys (merge t changes) ↔ key ∈ keys t ∨ key ∈ keys changes := by
  induction changes generalizing t with
  | nil => simp [keys]
  | cons e changes ih =>
      have first : key ∈ keys (put t e.1 e.2) ↔ key ∈ keys t ∨ key = e.1 := by
        rw [mem_keys, mem_keys, has, has, get?_put]
        split
        · next same => simp [same]
        · next differs => simp [differs]
      rw [show merge t (e :: changes) = merge (put t e.1 e.2) changes from rfl, ih, first,
        show keys (e :: changes) = e.1 :: keys changes from rfl, List.mem_cons, or_assoc]

theorem get?_merge_of_mem (t : Table α) {changes : Table α} (h : (keys changes).Nodup)
    {key : String} {x : α} (hm : (key, x) ∈ changes) : get? (merge t changes) key = some x := by
  induction changes generalizing t with
  | nil => cases hm
  | cons e changes ih =>
      obtain ⟨absent, rest⟩ := List.nodup_cons.mp h
      rw [show merge t (e :: changes) = merge (put t e.1 e.2) changes from rfl]
      rcases List.mem_cons.mp hm with rfl | later
      · rw [get?_merge_of_not_mem _ absent, get?_put_self]
      · exact ih _ rest later

theorem mem_of_get? {t : Table α} {key : String} {x : α} (h : get? t key = some x) :
    (key, x) ∈ t := by
  induction t with
  | nil => cases h
  | cons e t ih =>
      obtain ⟨k, y⟩ := e
      rw [get?_cons] at h
      split at h
      · next same =>
        rw [same, Option.some.inj h]
        exact List.mem_cons_self
      · exact List.mem_cons_of_mem _ (ih h)

theorem get?_eq_none {t : Table α} {key : String} (h : key ∉ keys t) : get? t key = none := by
  rw [mem_keys, has] at h
  simpa using h

/-- A table that is laid over another one is looked at first. -/
theorem get?_merge (t : Table α) {changes : Table α} (h : (keys changes).Nodup) (key : String) :
    get? (merge t changes) key = (get? changes key).or (get? t key) := by
  cases there : get? changes key with
  | some x => exact get?_merge_of_mem t h (mem_of_get? there)
  | none =>
      refine get?_merge_of_not_mem t fun hk => ?_
      rw [mem_keys, has, there] at hk
      cases hk

/-- Leaving out some entries leaves nothing under their keys, and what there was under the others. -/
theorem get?_filter {t : Table α} (h : (keys t).Nodup) (p : String × α → Bool) (key : String) :
    get? (t.filter p) key = (get? t key).filter fun x => p (key, x) := by
  induction t with
  | nil => rfl
  | cons e t ih =>
      obtain ⟨k, x⟩ := e
      obtain ⟨absent, rest⟩ := List.nodup_cons.mp h
      rw [List.filter_cons, get?_cons]
      split
      · next kept =>
        rw [get?_cons]
        split
        · next same => simp [same, Option.filter, kept]
        · exact ih rest
      · next dropped =>
        rw [ih rest]
        split
        · next same => simp [same, get?_eq_none absent, Option.filter, dropped]
        · rfl

theorem mem_put {t : Table α} {key : String} {x : α} {e : String × α} (h : e ∈ put t key x) :
    e = (key, x) ∨ e ∈ t := by
  induction t with
  | nil => exact .inl (List.mem_singleton.mp h)
  | cons first t ih =>
      obtain ⟨k, y⟩ := first
      unfold put at h
      split at h
      · exact (List.mem_cons.mp h).imp_right (List.mem_cons_of_mem _)
      · rcases List.mem_cons.mp h with rfl | h
        · exact .inr List.mem_cons_self
        · exact (ih h).imp_right (List.mem_cons_of_mem _)

theorem mem_merge {t changes : Table α} {e : String × α} (h : e ∈ merge t changes) :
    e ∈ t ∨ e ∈ changes := by
  induction changes generalizing t with
  | nil => exact .inl h
  | cons first changes ih =>
      rcases ih h with laid | later
      · rcases mem_put laid with rfl | before
        · exact .inr List.mem_cons_self
        · exact .inl before
      · exact .inr (List.mem_cons_of_mem _ later)

theorem put_self {t : Table α} {key : String} {x : α} (h : get? t key = some x) :
    put t key x = t := by
  induction t with
  | nil => cases h
  | cons e t ih =>
      obtain ⟨k, y⟩ := e
      rw [get?_cons] at h
      unfold put
      split
      · next same =>
        rw [if_pos same.symm] at h
        rw [same, Option.some.inj h]
      · next differs =>
        rw [if_neg fun same => differs same.symm] at h
        rw [ih h]

theorem put_put (t : Table α) (key : String) (x y : α) : put (put t key x) key y = put t key y := by
  induction t with
  | nil => simp [put]
  | cons e t ih =>
      obtain ⟨k, z⟩ := e
      by_cases h : k = key
      · simp [put, h]
      · simp [put, h, ih]

/-- Laying over a table what it has already changes nothing. -/
theorem merge_self {t changes : Table α} (h : ∀ e ∈ changes, get? t e.1 = some e.2) :
    merge t changes = t := by
  induction changes with
  | nil => rfl
  | cons e changes ih =>
      rw [show merge t (e :: changes) = merge (put t e.1 e.2) changes from rfl,
        put_self (h e List.mem_cons_self)]
      exact ih fun e he => h e (List.mem_cons_of_mem _ he)

theorem merge_append (t changes more : Table α) :
    merge t (changes ++ more) = merge (merge t changes) more := List.foldl_append

end Table

end FormEngine
