import FormEngine.Number.Binary64
import Mathlib.Algebra.Order.Ring.Unbundled.Rat

/-!
The order of doubles: two that are no NaN can be compared, the comparison the other way round says the
opposite, and what is not beyond a double is before all that the double is before.
-/

namespace FormEngine

namespace Extended

theorem compare_swap (a b : Extended) : (a.compare b).swap = b.compare a := by
  cases a with
  | below => cases b <;> rfl
  | above => cases b <;> rfl
  | point p =>
    cases b with
    | below => rfl
    | above => rfl
    | point q =>
      rcases lt_trichotomy p q with h | h | h
      · simp [compare, h, not_lt_of_gt h, ne_of_gt h]
      · simp [compare, h]
      · simp [compare, h, not_lt_of_gt h, ne_of_gt h]

theorem compare_point {p q : ℚ} : ((point p).compare (point q) = .lt ↔ p < q) ∧
    ((point p).compare (point q) = .eq ↔ p = q) := by
  rcases lt_trichotomy p q with h | h | h
  · simp [compare, h, h.ne]
  · simp [compare, h]
  · simp [compare, not_lt_of_gt h, h.ne']

/-- What is not beyond another is before all that the other is before. -/
theorem compare_trans {a b c : Extended} (h : a.compare b = .lt ∨ a.compare b = .eq)
    (later : b.compare c = .lt) : a.compare c = .lt := by
  cases b with
  | below =>
    cases a with
    | below => exact later
    | _ => rcases h with h | h <;> cases h
  | above => cases c <;> cases later
  | point q =>
    cases c with
    | below => cases later
    | above =>
      cases a with
      | above => rcases h with h | h <;> cases h
      | _ => rfl
    | point r =>
      cases a with
      | below => rfl
      | above => rcases h with h | h <;> cases h
      | point p =>
        have upto : p ≤ q := h.elim (fun h => (compare_point.1.mp h).le) fun h => (compare_point.2.mp h).le
        exact compare_point.1.mpr (upto.trans_lt (compare_point.1.mp later))

end Extended

namespace Binary64

theorem compare?_swap (x y : Binary64) : (x.compare? y).map Ordering.swap = y.compare? x := by
  unfold compare?
  cases x.toExtended? with
  | none => cases y.toExtended? <;> rfl
  | some a =>
    cases y.toExtended? with
    | none => rfl
    | some b => exact congrArg some (Extended.compare_swap a b)

theorem compare?_isSome {x y : Binary64} (hx : x.isNaN = false) (hy : y.isNaN = false) :
    (x.compare? y).isSome = true := by
  cases x <;> cases y <;> simp_all [compare?, toExtended?, isNaN]

end Binary64

end FormEngine
