import FormEngine.Proofs.Number.Range
import FormEngine.Value.Order

/-!
Integers that a double is equal to. Rounding one of them gives that double back, so that comparing the
rounded ones is comparing the integers.
-/

namespace FormEngine

theorem roundDiv_mul_self {den : Nat} (pos : 0 < den) (k : Nat) : roundDiv (k * den) den = k := by
  unfold roundDiv
  dsimp only
  rw [Nat.mul_mod_left, Nat.mul_div_cancel k pos, if_pos (by simpa using pos)]

namespace Binary64

/-- An integer that some double is equal to: 53 bits, and zeros after them. -/
def Holds (i : Int) : Prop :=
  ∃ mantissa shift : Nat, mantissa < 2 ^ 53 ∧ (shift : Int) ≤ greatestExponent ∧
    i.natAbs = mantissa * 2 ^ shift

/-- The bits of an integer, moved up or down to make 53 of them. -/
def leading (n : Nat) : Nat :=
  if 52 ≤ n.log2 then n / 2 ^ (n.log2 - 52) else n * 2 ^ (52 - n.log2)

theorem leading_lt (n : Nat) : leading n < 2 ^ 53 := by
  have below := Nat.lt_log2_self (n := n)
  unfold leading
  split
  · next long =>
    rw [Nat.div_lt_iff_lt_mul (Nat.two_pow_pos _), ← Nat.pow_add]
    rwa [show 53 + (n.log2 - 52) = n.log2 + 1 by omega]
  · next short =>
    calc n * 2 ^ (52 - n.log2) < 2 ^ (n.log2 + 1) * 2 ^ (52 - n.log2) :=
          Nat.mul_lt_mul_of_pos_right below (Nat.two_pow_pos _)
      _ = 2 ^ 53 := by rw [← Nat.pow_add, show n.log2 + 1 + (52 - n.log2) = 53 by omega]

section Bits

variable {n mantissa shift : Nat} (bits : mantissa < 2 ^ 53) (hn : n = mantissa * 2 ^ shift)
  (nonzero : n ≠ 0)

include bits hn nonzero in
theorem log2_lt_of_bits : n.log2 < 53 + shift := by
  rw [Nat.log2_lt nonzero, hn, Nat.pow_add]
  exact Nat.mul_lt_mul_of_pos_right bits (Nat.two_pow_pos shift)

include bits hn nonzero in
/-- What is cut off below 53 bits are zeros. -/
theorem leading_mul (long : 52 ≤ n.log2) : leading n * 2 ^ (n.log2 - 52) = n := by
  have size := log2_lt_of_bits bits hn nonzero
  have zeros : 2 ^ (n.log2 - 52) ∣ mantissa * 2 ^ shift :=
    Dvd.dvd.mul_left (Nat.pow_dvd_pow 2 (by omega)) mantissa
  rw [← hn] at zeros
  unfold leading
  rw [if_pos long, Nat.div_mul_cancel zeros]

include bits hn nonzero in
theorem ofQuotient_eq (negative : Bool) (range : (shift : Int) ≤ greatestExponent) :
    ofQuotient negative n 1 = .finite negative (leading n) (n.log2 - 52) := by
  have size := log2_lt_of_bits bits hn nonzero
  have notBelow : quotientBelow n 1 n.log2 = false := by
    simpa [quotientBelow] using Nat.log2_self_le nonzero
  have one : (Nat.log2 1 : Int) = 0 := rfl
  have exponent : max ((n.log2 : Int) - 52) leastExponent = n.log2 - 52 := by
    unfold leastExponent
    omega
  have rounded : (if 0 ≤ (n.log2 : Int) - 52 then
      roundDiv n (1 * Nat.pow 2 ((n.log2 : Int) - 52).toNat)
      else roundDiv (n * Nat.pow 2 (-((n.log2 : Int) - 52)).toNat) 1) = leading n := by
    split
    · next long =>
      have exact := leading_mul bits hn nonzero (by omega)
      rw [show ((n.log2 : Int) - 52).toNat = n.log2 - 52 by omega, Nat.one_mul, Nat.pow_eq]
      nth_rewrite 1 [← exact]
      exact roundDiv_mul_self (Nat.two_pow_pos _) _
    · next short =>
      have scaled : leading n = n * 2 ^ (52 - n.log2) := if_neg (by omega)
      rw [show (-((n.log2 : Int) - 52)).toNat = 52 - n.log2 by omega, Nat.pow_eq, scaled]
      simpa using roundDiv_mul_self Nat.one_pos (n * 2 ^ (52 - n.log2))
  have fits : leading n ≠ mantissaLimit := (leading_lt n).ne
  unfold ofQuotient
  dsimp only
  rw [if_neg nonzero, one, sub_zero, notBelow, if_neg Bool.false_ne_true, exponent, rounded,
    if_neg fits, if_neg (by omega)]

include bits hn nonzero in
theorem leading_value : (leading n : ℚ) * powerOfTwo ((n.log2 : Int) - 52) = n := by
  rw [powerOfTwo_eq]
  by_cases long : 52 ≤ n.log2
  · rw [show (n.log2 : Int) - 52 = ((n.log2 - 52 : Nat) : Int) by omega, zpow_natCast]
    exact_mod_cast leading_mul bits hn nonzero long
  · have scaled : leading n = n * 2 ^ (52 - n.log2) := if_neg long
    rw [scaled, show (n.log2 : Int) - 52 = -((52 - n.log2 : Nat) : Int) by omega, zpow_neg,
      zpow_natCast]
    push_cast
    rw [mul_assoc, mul_inv_cancel₀ (by positivity), mul_one]

end Bits

/-- Such an integer is rounded to a double that is equal to it. -/
theorem Holds.toRat?_ofInt {i : Int} (h : Holds i) : (ofInt i).toRat? = some (i : ℚ) := by
  obtain ⟨mantissa, shift, bits, range, size⟩ := h
  by_cases zero : i = 0
  · subst zero
    simp [ofInt, ofQuotient, Binary64.zero, toRat?]
  have nonzero : i.natAbs ≠ 0 := Int.natAbs_ne_zero.mpr zero
  unfold ofInt
  rw [ofQuotient_eq bits size nonzero _ range]
  unfold toRat?
  dsimp only
  rw [leading_value bits size nonzero]
  by_cases negative : i < 0
  · rw [if_pos (decide_eq_true negative), Nat.cast_natAbs, abs_of_neg negative]
    simp
  · rw [if_neg (by simpa using negative), Nat.cast_natAbs, abs_of_nonneg (not_lt.mp negative)]

theorem holds_of_natAbs_le {i : Int} (h : i.natAbs ≤ 2 ^ 53) : Holds i := by
  rcases h.lt_or_eq with less | same
  · exact ⟨i.natAbs, 0, less, by decide, (Nat.mul_one _).symm⟩
  · exact ⟨2 ^ 52, 1, by decide, by decide, same⟩

/-- The integer that a double is equal to is one of them. -/
theorem InRange.holds {x : Binary64} (h : x.InRange) {i : Int} (hi : x.toInt? = some i) :
    Holds i := by
  cases x with
  | nan payload => cases hi
  | infinite negative => cases hi
  | finite negative mantissa exponent =>
    obtain ⟨bits, -, most⟩ := h
    have size := cast_of_toInt? hi
    rcases le_or_gt 0 exponent with whole | fraction
    · obtain ⟨shift, rfl⟩ := Int.eq_ofNat_of_zero_le whole
      rw [zpow_natCast] at size
      exact ⟨mantissa, shift, bits, most, by exact_mod_cast size⟩
    · obtain ⟨digits, rfl⟩ : ∃ digits : Nat, exponent = -digits := ⟨(-exponent).toNat, by omega⟩
      rw [zpow_neg, zpow_natCast, ← div_eq_mul_inv, eq_div_iff (by positivity)] at size
      have least : i.natAbs ≤ mantissa := by
        have product : i.natAbs * 2 ^ digits = mantissa := by exact_mod_cast size
        rw [← product]
        exact Nat.le_mul_of_pos_right _ (Nat.two_pow_pos digits)
      exact holds_of_natAbs_le (least.trans bits.le)

end Binary64

end FormEngine
