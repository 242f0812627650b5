import FormEngine.Form.State

/-!
Conditions on what has happened to a form, each on a milestone and all that came before it.
-/

namespace FormEngine

/-- A condition holds of each milestone and those before it, the latest first. -/
def History (P : List Milestone → Milestone → Prop) : List Milestone → Prop
  | [] => True
  | m :: earlier => P earlier m ∧ History P earlier

namespace History

variable {P : List Milestone → Milestone → Prop}

theorem append {later earlier : List Milestone} (h : History P (later ++ earlier)) :
    History P earlier := by
  induction later with
  | nil => exact h
  | cons _ _ ih => exact ih h.2

/-- A condition that does not mind what came earlier holds of one stretch after another. -/
theorem append_mono {later earlier : List Milestone}
    (mono : ∀ m before more, P before m → P (before ++ more) m) (h : History P later)
    (h' : History P earlier) : History P (later ++ earlier) := by
  induction later with
  | nil => exact h'
  | cons m later ih => exact ⟨mono m later earlier h.1, ih h.2⟩

theorem iff_forall (journal : List Milestone) :
    History P journal ↔ ∀ later m earlier, journal = later ++ m :: earlier → P earlier m := by
  constructor
  · rintro h later m earlier rfl
    exact h.append.1
  · intro h
    induction journal with
    | nil => trivial
    | cons m earlier ih =>
        refine ⟨h [] m earlier rfl, ih ?_⟩
        rintro later other before rfl
        exact h (m :: later) other before rfl

end History

/-- A list about one of its entries. -/
theorem exists_split {α : Type} {l : List α} {p : α → Bool} (i : Nat)
    (h : (l[i]?).any p = true) : ∃ x, p x = true ∧ l = l.take i ++ x :: l.drop (i + 1) := by
  cases hx : l[i]? with
  | none =>
      rw [hx] at h
      cases h
  | some x =>
      rw [hx] at h
      obtain ⟨hi, rfl⟩ := List.getElem?_eq_some_iff.mp hx
      refine ⟨l[i], h, ?_⟩
      rw [List.getElem_cons_drop, List.take_append_drop]

end FormEngine
