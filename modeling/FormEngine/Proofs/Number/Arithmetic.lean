import FormEngine.Proofs.Number.Exact

/-!
Arithmetic of doubles. A product or a quotient of finite ones is the exact one, rounded, and an infinite
double if that is out of range. The integer nearest to a double is one that a double is equal to.
-/

namespace FormEngine

namespace Binary64

/-- The exact value of a double, zero if it is not finite. -/
def value (x : Binary64) : ℚ := x.toRat?.getD 0

theorem toRat?_of_isFinite {x : Binary64} (h : x.isFinite = true) : x.toRat? = some x.value := by
  cases x with
  | nan payload => cases h
  | infinite negative => cases h
  | finite negative mantissa exponent => rfl

theorem natAbs_roundToInt? {x : Binary64} {q : ℚ} {k : Int} (hq : x.toRat? = some q)
    (hk : x.roundToInt? = some k) : k.natAbs = roundDiv q.num.natAbs q.den := by
  unfold roundToInt? at hk
  rw [hq] at hk
  dsimp only [Option.bind_eq_bind, Option.bind_some, Option.pure_def] at hk
  split at hk <;> obtain rfl := Option.some.inj hk
  · rw [Int.natAbs_neg, Int.natAbs_natCast]
  · rw [Int.natAbs_natCast]

theorem isSome_roundToInt? {x : Binary64} (h : x.isFinite = true) : x.roundToInt?.isSome = true := by
  unfold roundToInt?
  rw [toRat?_of_isFinite h]
  rfl

/-- The integer nearest to a double is one that a double is equal to. -/
theorem InRange.holds_roundToInt {x : Binary64} (h : x.InRange) {k : Int}
    (hk : x.roundToInt? = some k) : Holds k := by
  cases x with
  | nan payload => cases hk
  | infinite negative => cases hk
  | finite negative mantissa exponent =>
    obtain ⟨bits, -, most⟩ := h
    have hq := toRat?_of_isFinite (x := finite negative mantissa exponent) rfl
    have size := abs_of_toRat? hq
    have rounded := natAbs_roundToInt? hq hk
    generalize (finite negative mantissa exponent).value = q at *
    rw [abs_eq_natAbs_div] at size
    have pos : (0 : ℚ) < q.den := by exact_mod_cast q.pos
    rcases le_or_gt 0 exponent with whole | fraction
    · obtain ⟨shift, rfl⟩ := Int.eq_ofNat_of_zero_le whole
      refine ⟨mantissa, shift, bits, most, ?_⟩
      rw [zpow_natCast, div_eq_iff pos.ne'] at size
      have product : q.num.natAbs = mantissa * 2 ^ shift * q.den := by exact_mod_cast size
      rw [rounded, product, roundDiv_mul_self q.pos]
    · have below : (q.num.natAbs : ℚ) / q.den ≤ mantissa := by
        rw [size]
        exact mul_le_of_le_one_right (Nat.cast_nonneg _) (zpow_le_one_of_nonpos₀ one_le_two fraction.le)
      rw [div_le_iff₀ pos] at below
      have fewer := roundDiv_le q.pos (by exact_mod_cast below : q.num.natAbs ≤ mantissa * q.den)
      exact holds_of_natAbs_le (rounded ▸ fewer.trans bits.le)

theorem Holds.isFinite_ofInt {i : Int} (h : Holds i) : (ofInt i).isFinite = true := by
  have exact := h.toRat?_ofInt
  cases hx : ofInt i with
  | finite negative mantissa exponent => rfl
  | nan payload =>
    rw [hx] at exact
    cases exact
  | infinite negative =>
    rw [hx] at exact
    cases exact

theorem Holds.value_ofInt {i : Int} (h : Holds i) : (ofInt i).value = i := by
  unfold value
  rw [h.toRat?_ofInt]
  rfl

/-- What is rounded to no finite double is rounded to an infinite one. -/
theorem ofRat_eq_infinite {q : ℚ} {negativeZero : Bool} (h : (ofRat q negativeZero).isFinite = false) :
    ∃ negative, ofRat q negativeZero = .infinite negative := by
  have number : (ofRat q negativeZero).isNaN = false := isNaN_ofQuotient _ _ _
  cases hx : ofRat q negativeZero with
  | infinite negative => exact ⟨negative, rfl⟩
  | nan payload =>
    rw [hx] at number
    cases number
  | finite negative mantissa exponent =>
    rw [hx] at h
    cases h

section Arithmetic

variable {x y : Binary64} (hx : x.isFinite = true) (hy : y.isFinite = true)

include hx hy

theorem div_eq : ∃ negativeZero, x.div y = ofRat (x.value / y.value) negativeZero := by
  cases x with
  | nan payload => cases hx
  | infinite negative => cases hx
  | finite negative mantissa exponent =>
    cases y with
    | nan payload => cases hy
    | infinite negative => cases hy
    | finite negative' mantissa' exponent' => exact ⟨_, rfl⟩

theorem mul_eq : ∃ negativeZero, x.mul y = ofRat (x.value * y.value) negativeZero := by
  cases x with
  | nan payload => cases hx
  | infinite negative => cases hx
  | finite negative mantissa exponent =>
    cases y with
    | nan payload => cases hy
    | infinite negative => cases hy
    | finite negative' mantissa' exponent' => exact ⟨_, rfl⟩

end Arithmetic

end Binary64

end FormEngine
