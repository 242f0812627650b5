import FormEngine.Number.Binary64
import Mathlib.Algebra.Order.Field.Power
import Mathlib.Data.Rat.Cast.Order
import Mathlib.Tactic.Linarith
import Mathlib.Tactic.NormNum
import Mathlib.Tactic.Positivity
import Mathlib.Tactic.Ring

/-!
The range of doubles. A quotient is rounded to a finite double exactly if it is less than half a unit
beyond the greatest one, and to zero only if it is less than the least double. An integer that a double
is equal to lies within the range, so that rounding it to a double does not lead out of it.
-/

namespace FormEngine

theorem roundDiv_le {num den k : Nat} (pos : 0 < den) (h : num ≤ k * den) :
    roundDiv num den ≤ k := by
  have split := Nat.div_add_mod num den
  have below : num / den ≤ k := Nat.div_le_of_le_mul (by rwa [Nat.mul_comm] at h)
  unfold roundDiv
  dsimp only
  rcases Nat.lt_or_eq_of_le below with less | same
  · split
    · exact below
    · split
      · exact less
      · split
        · exact below
        · exact less
  · have rest : num % den = 0 := by
      rw [same, Nat.mul_comm] at split
      omega
    rw [rest, if_pos (by simpa using pos)]
    exact below

/-- A quotient is rounded to an integer no further than half a unit away, which is even if there are two. -/
theorem roundDiv_nearest (num : Nat) {den : Nat} (pos : 0 < den) :
    2 * num ≤ 2 * (roundDiv num den * den) + den ∧ 2 * (roundDiv num den * den) ≤ 2 * num + den ∧
      (2 * num = 2 * (roundDiv num den * den) + den → roundDiv num den % 2 = 0) := by
  have split := Nat.div_add_mod num den
  have rest := Nat.mod_lt num pos
  have next : (num / den + 1) * den = num / den * den + den := Nat.succ_mul _ _
  rw [Nat.mul_comm] at split
  unfold roundDiv
  dsimp only
  split
  · omega
  · split
    · omega
    · split <;> omega

theorem le_roundDiv {num den k : Nat} (pos : 0 < den) (h : k * den ≤ num) : k ≤ roundDiv num den := by
  by_contra less
  have above := (roundDiv_nearest num pos).1
  have step : (roundDiv num den + 1) * den ≤ k * den := Nat.mul_le_mul_right den (by omega)
  rw [Nat.add_mul] at step
  omega

/-- A quotient is rounded to an even number, or beyond it, from half a unit below it on. -/
theorem le_roundDiv_iff {num den k : Nat} (pos : 0 < den) (even : k % 2 = 0) :
    k ≤ roundDiv num den ↔ 2 * (k * den) ≤ 2 * num + den := by
  obtain ⟨above, below, tie⟩ := roundDiv_nearest num pos
  constructor
  · intro h
    have := Nat.mul_le_mul_right den h
    omega
  · intro h
    by_contra less
    have step : (roundDiv num den + 1) * den ≤ k * den :=
      Nat.mul_le_mul_right den (Nat.lt_of_not_le less)
    rw [Nat.add_mul] at step
    -- only a tie is left, and the even neighbour of a tie is not the one before an even number
    have far : (roundDiv num den + 2) * den ≤ k * den :=
      Nat.mul_le_mul_right den (by have := tie (by omega); omega)
    rw [Nat.add_mul] at far
    omega

namespace Binary64

/-- A number that a double can be: 53 bits and an exponent within bounds, unless it is not finite. -/
def InRange : Binary64 → Prop
  | .finite _ mantissa exponent =>
    mantissa < mantissaLimit ∧ leastExponent ≤ exponent ∧ exponent ≤ greatestExponent
  | _ => True

theorem powerOfTwo_eq (e : Int) : powerOfTwo e = (2 : ℚ) ^ e := by
  unfold powerOfTwo
  split
  · next nonneg =>
    obtain ⟨n, rfl⟩ := Int.eq_ofNat_of_zero_le nonneg
    rw [Rat.mkRat_eq_div]
    simp
  · next negative =>
    obtain ⟨n, rfl⟩ : ∃ n : Nat, e = -n := ⟨(-e).toNat, by omega⟩
    rw [Rat.mkRat_eq_div]
    simp

theorem quotientBelow_iff {num den : Nat} (pos : 0 < den) (e : Int) :
    quotientBelow num den e = true ↔ (num : ℚ) / den < 2 ^ e := by
  have positive : (0 : ℚ) < den := by exact_mod_cast pos
  unfold quotientBelow
  split
  · next nonneg =>
    obtain ⟨n, rfl⟩ := Int.eq_ofNat_of_zero_le nonneg
    rw [decide_eq_true_iff, div_lt_iff₀' positive, zpow_natCast]
    exact_mod_cast Iff.rfl
  · next negative =>
    obtain ⟨n, rfl⟩ : ∃ n : Nat, e = -n := ⟨(-e).toNat, by omega⟩
    rw [decide_eq_true_iff, zpow_neg, zpow_natCast, div_lt_iff₀' positive, ← div_eq_mul_inv,
      lt_div_iff₀ (by positivity)]
    simp only [neg_neg, Int.toNat_natCast, Nat.pow_eq]
    exact_mod_cast Iff.rfl

/-- The power of two at or below a quotient. -/
def binade (num den : Nat) : Int :=
  let guess : Int := (num.log2 : Int) - (den.log2 : Int)
  if quotientBelow num den guess then guess - 1 else guess

theorem cast_log2_bounds {n : Nat} (h : n ≠ 0) :
    (2 : ℚ) ^ (n.log2 : Int) ≤ n ∧ (n : ℚ) < 2 ^ ((n.log2 : Int) + 1) := by
  have above := Nat.lt_log2_self (n := n)
  constructor
  · exact_mod_cast Nat.log2_self_le h
  · exact_mod_cast above

theorem binade_bounds {num den : Nat} (nonzero : num ≠ 0) (pos : 0 < den) :
    (2 : ℚ) ^ binade num den ≤ (num : ℚ) / den ∧ (num : ℚ) / den < 2 ^ (binade num den + 1) := by
  have positive : (0 : ℚ) < den := by exact_mod_cast pos
  obtain ⟨least, most⟩ := cast_log2_bounds nonzero
  obtain ⟨least', most'⟩ := cast_log2_bounds pos.ne'
  unfold binade
  dsimp only
  split
  · next below =>
    refine ⟨?_, ?_⟩
    · rw [le_div_iff₀ positive]
      calc (2 : ℚ) ^ ((num.log2 : Int) - den.log2 - 1) * den
          ≤ 2 ^ ((num.log2 : Int) - den.log2 - 1) * 2 ^ ((den.log2 : Int) + 1) := by gcongr
        _ = 2 ^ (num.log2 : Int) := by
          rw [← zpow_add₀ two_ne_zero]
          congr 1
          ring
        _ ≤ num := least
    · rw [sub_add_cancel]
      exact (quotientBelow_iff pos _).mp below
  · next notBelow =>
    refine ⟨le_of_not_gt (mt (quotientBelow_iff pos _).mpr notBelow), ?_⟩
    rw [div_lt_iff₀ positive]
    calc (num : ℚ) < 2 ^ ((num.log2 : Int) + 1) := most
      _ = 2 ^ ((num.log2 : Int) - den.log2 + 1) * 2 ^ (den.log2 : Int) := by
          rw [← zpow_add₀ two_ne_zero]
          congr 1
          ring
      _ ≤ 2 ^ ((num.log2 : Int) - den.log2 + 1) * den := by gcongr

/-- The bits of a quotient in units of a power of two. -/
def scaled (num den : Nat) (e : Int) : Nat :=
  if 0 ≤ e then roundDiv num (den * Nat.pow 2 e.toNat) else roundDiv (num * Nat.pow 2 (-e).toNat) den

theorem scaled_le {num den : Nat} (pos : 0 < den) {e : Int} {k : Nat}
    (h : (num : ℚ) / den ≤ k * 2 ^ e) : scaled num den e ≤ k := by
  have positive : (0 : ℚ) < den := by exact_mod_cast pos
  rw [div_le_iff₀ positive] at h
  unfold scaled
  split
  · next nonneg =>
    obtain ⟨n, rfl⟩ := Int.eq_ofNat_of_zero_le nonneg
    refine roundDiv_le (Nat.mul_pos pos (Nat.two_pow_pos n)) ?_
    rw [zpow_natCast] at h
    have whole : num ≤ k * 2 ^ n * den := by exact_mod_cast h
    simpa [Nat.mul_assoc, Nat.mul_comm, Nat.mul_left_comm] using whole
  · next negative =>
    obtain ⟨n, rfl⟩ : ∃ n : Nat, e = -n := ⟨(-e).toNat, by omega⟩
    refine roundDiv_le pos ?_
    rw [zpow_neg, zpow_natCast, mul_assoc, inv_mul_eq_div, mul_div_assoc', le_div_iff₀ (by positivity)] at h
    rw [neg_neg, Int.toNat_natCast, Nat.pow_eq]
    exact_mod_cast h

theorem le_scaled {num den : Nat} (pos : 0 < den) {e : Int} {k : Nat}
    (h : k * (2 : ℚ) ^ e ≤ num / den) : k ≤ scaled num den e := by
  have positive : (0 : ℚ) < den := by exact_mod_cast pos
  rw [le_div_iff₀ positive] at h
  unfold scaled
  split
  · next nonneg =>
    obtain ⟨n, rfl⟩ := Int.eq_ofNat_of_zero_le nonneg
    refine le_roundDiv (Nat.mul_pos pos (Nat.two_pow_pos n)) ?_
    rw [zpow_natCast] at h
    have whole : k * 2 ^ n * den ≤ num := by exact_mod_cast h
    simpa [Nat.mul_assoc, Nat.mul_comm, Nat.mul_left_comm] using whole
  · next negative =>
    obtain ⟨n, rfl⟩ : ∃ n : Nat, e = -n := ⟨(-e).toNat, by omega⟩
    refine le_roundDiv pos ?_
    rw [zpow_neg, zpow_natCast, mul_right_comm, ← div_eq_mul_inv, div_le_iff₀ (by positivity)] at h
    rw [neg_neg, Int.toNat_natCast, Nat.pow_eq]
    exact_mod_cast h

/-- Half a unit beyond the greatest finite double. -/
def overflow : ℚ := (mantissaLimit - 1 / 2) * 2 ^ greatestExponent

theorem le_overflow {e : Int} (h : e ≤ greatestExponent + 52) : (2 : ℚ) ^ e ≤ overflow := by
  calc (2 : ℚ) ^ e ≤ 2 ^ (52 + greatestExponent) := zpow_le_zpow_right₀ one_le_two (by omega)
    _ = 2 ^ (52 : Int) * 2 ^ greatestExponent := zpow_add₀ two_ne_zero _ _
    _ ≤ overflow := mul_le_mul_of_nonneg_right (by norm_num [mantissaLimit]) (by positivity)

theorem overflow_le {e : Int} (h : greatestExponent + 53 ≤ e) : overflow ≤ (2 : ℚ) ^ e := by
  calc overflow ≤ 2 ^ (53 : Int) * 2 ^ greatestExponent :=
        mul_le_mul_of_nonneg_right (by norm_num [mantissaLimit]) (by positivity)
    _ = 2 ^ (53 + greatestExponent) := (zpow_add₀ two_ne_zero _ _).symm
    _ ≤ 2 ^ e := zpow_le_zpow_right₀ one_le_two (by omega)

/-- A double of some bits, unless it is beyond the greatest one. -/
def bounded (negative : Bool) (mantissa : Nat) (exponent : Int) : Binary64 :=
  if greatestExponent < exponent then .infinite negative else .finite negative mantissa exponent

theorem bounded_isFinite_iff {negative : Bool} {mantissa : Nat} {exponent : Int} :
    (bounded negative mantissa exponent).isFinite = true ↔ exponent ≤ greatestExponent := by
  unfold bounded
  split
  · exact iff_of_false Bool.false_ne_true (by omega)
  · exact iff_of_true rfl (by omega)

theorem isNaN_bounded (negative : Bool) (mantissa : Nat) (exponent : Int) :
    (bounded negative mantissa exponent).isNaN = false := by
  unfold bounded
  split <;> rfl

theorem bounded_inRange {negative : Bool} {mantissa : Nat} {exponent : Int}
    (bits : mantissa < mantissaLimit) (least : leastExponent ≤ exponent) :
    (bounded negative mantissa exponent).InRange := by
  unfold bounded
  split
  · trivial
  · exact ⟨bits, least, by omega⟩

theorem carried_eq (negative : Bool) (mantissa : Nat) (exponent : Int) :
    (let (mantissa, exponent) :=
        if mantissa = mantissaLimit then (mantissaLimit / 2, exponent + 1) else (mantissa, exponent)
      if greatestExponent < exponent then .infinite negative
      else .finite negative mantissa exponent) =
      if mantissa = mantissaLimit then bounded negative (mantissaLimit / 2) (exponent + 1)
      else bounded negative mantissa exponent := by
  by_cases carried : mantissa = mantissaLimit
  · rw [if_pos carried, if_pos carried]
    rfl
  · rw [if_neg carried, if_neg carried]
    rfl

/-- A quotient is rounded to the bits of its binade, one binade up if they do not fit. -/
theorem ofQuotient_of_ne_zero {negative : Bool} {num den : Nat} (nonzero : num ≠ 0) :
    ofQuotient negative num den =
      let exponent := max (binade num den - 52) leastExponent
      if scaled num den exponent = mantissaLimit then
        bounded negative (mantissaLimit / 2) (exponent + 1)
      else bounded negative (scaled num den exponent) exponent :=
  (if_neg nonzero).trans (carried_eq negative _ _)

/-- The bits of a quotient do not exceed a mantissa. -/
theorem scaled_le_limit {num den : Nat} (nonzero : num ≠ 0) (pos : 0 < den) :
    scaled num den (max (binade num den - 52) leastExponent) ≤ mantissaLimit := by
  refine scaled_le pos ((binade_bounds nonzero pos).2.le.trans ?_)
  calc (2 : ℚ) ^ (binade num den + 1)
      ≤ 2 ^ (53 + max (binade num den - 52) leastExponent) :=
        zpow_le_zpow_right₀ one_le_two (by omega)
    _ = (mantissaLimit : ℚ) * 2 ^ max (binade num den - 52) leastExponent := by
        rw [zpow_add₀ two_ne_zero]
        rfl

theorem inRange_ofQuotient (negative : Bool) (num : Nat) {den : Nat} (pos : 0 < den) :
    (ofQuotient negative num den).InRange := by
  by_cases zero : num = 0
  · rw [zero]
    exact ⟨by decide, by decide, by decide⟩
  have most := scaled_le_limit zero pos
  have least := le_max_right (binade num den - 52) leastExponent
  rw [ofQuotient_of_ne_zero zero]
  dsimp only
  split
  · exact bounded_inRange (by decide) (by omega)
  · exact bounded_inRange (by omega) least

theorem isNaN_ofQuotient (negative : Bool) (num den : Nat) :
    (ofQuotient negative num den).isNaN = false := by
  by_cases zero : num = 0
  · rw [zero]
    rfl
  rw [ofQuotient_of_ne_zero zero]
  dsimp only
  split <;> exact isNaN_bounded _ _ _

theorem isNegative_ofQuotient (negative : Bool) (num den : Nat) :
    (ofQuotient negative num den).isNegative = negative := by
  have sign (mantissa : Nat) (exponent : Int) :
      (bounded negative mantissa exponent).isNegative = negative := by
    unfold bounded
    split <;> rfl
  by_cases zero : num = 0
  · rw [zero]
    rfl
  rw [ofQuotient_of_ne_zero zero]
  dsimp only
  split <;> exact sign _ _

/-- A quotient is not rounded to zero from the least double on. -/
theorem isZero_ofQuotient {negative : Bool} {num den : Nat} (pos : 0 < den)
    (h : (2 : ℚ) ^ leastExponent ≤ num / den) : (ofQuotient negative num den).isZero = false := by
  have bits {mantissa : Nat} (exponent : Int) (nonzero : mantissa ≠ 0) :
      (bounded negative mantissa exponent).isZero = false := by
    unfold bounded
    split
    · rfl
    · exact beq_eq_false_iff_ne.mpr nonzero
  have nonzero : num ≠ 0 := by
    rintro rfl
    rw [Nat.cast_zero, zero_div] at h
    exact (zpow_pos two_pos _).not_ge h
  have unit : (2 : ℚ) ^ max (binade num den - 52) leastExponent ≤ num / den := by
    rcases max_choice (binade num den - 52) leastExponent with same | same
    · rw [same]
      exact (zpow_le_zpow_right₀ one_le_two (by omega)).trans (binade_bounds nonzero pos).1
    · rwa [same]
  have one : 1 ≤ scaled num den (max (binade num den - 52) leastExponent) := by
    apply le_scaled pos
    rwa [Nat.cast_one, one_mul]
  rw [ofQuotient_of_ne_zero nonzero]
  dsimp only
  split
  · exact bits _ (by decide)
  · exact bits _ (by omega)

/-- In the last binade, a quotient is rounded up to the first power of two that is no double from half a
unit below it on. -/
theorem limit_le_scaled_iff (num : Nat) {den : Nat} (pos : 0 < den) :
    mantissaLimit ≤ scaled num den greatestExponent ↔ overflow ≤ (num : ℚ) / den := by
  have positive : (0 : ℚ) < den := by exact_mod_cast pos
  obtain ⟨top, ht⟩ : ∃ top : Nat, greatestExponent = top := ⟨greatestExponent.toNat, rfl⟩
  unfold scaled overflow
  rw [ht, if_pos (Int.natCast_nonneg top), zpow_natCast, Int.toNat_natCast, Nat.pow_eq,
    le_roundDiv_iff (Nat.mul_pos pos (Nat.two_pow_pos top)) (by decide), le_div_iff₀ positive]
  constructor
  · intro h
    have h : 2 * ((mantissaLimit : ℚ) * (den * 2 ^ top)) ≤ 2 * num + den * 2 ^ top := by exact_mod_cast h
    linarith
  · intro h
    have h : 2 * ((mantissaLimit : ℚ) * (den * 2 ^ top)) ≤ 2 * num + den * 2 ^ top := by linarith
    exact_mod_cast h

/-- A quotient is rounded to a finite double just below the threshold. -/
theorem ofQuotient_isFinite_iff {negative : Bool} {num den : Nat} (pos : 0 < den) :
    (ofQuotient negative num den).isFinite = true ↔ (num : ℚ) / den < overflow := by
  by_cases zero : num = 0
  · rw [zero]
    refine iff_of_true rfl ?_
    rw [Nat.cast_zero, zero_div]
    exact (zpow_pos two_pos 0).trans_le (le_overflow (by decide))
  have most := scaled_le_limit zero pos
  have last := limit_le_scaled_iff num pos
  obtain ⟨least, above⟩ := binade_bounds zero pos
  have gap : leastExponent < greatestExponent := by decide
  rw [ofQuotient_of_ne_zero zero]
  dsimp only
  rcases lt_trichotomy (max (binade num den - 52) leastExponent) greatestExponent with low | same | high
  · have below := above.trans_le (le_overflow (by omega))
    split <;> exact iff_of_true (bounded_isFinite_iff.mpr (by omega)) below
  · rw [same] at most ⊢
    rw [← not_le, ← last]
    split
    · next carried => exact iff_of_false (mt bounded_isFinite_iff.mp (by omega)) (not_not_intro carried.ge)
    · exact iff_of_true (bounded_isFinite_iff.mpr le_rfl) (by omega)
  · have beyond := not_lt.mpr ((overflow_le (by omega)).trans least)
    split <;> exact iff_of_false (mt bounded_isFinite_iff.mp (by omega)) beyond

theorem toRat?_finite (negative : Bool) (mantissa : Nat) (exponent : Int) :
    (finite negative mantissa exponent).toRat? =
      some (if negative then -((mantissa : ℚ) * 2 ^ exponent) else mantissa * 2 ^ exponent) := by
  rw [← powerOfTwo_eq]
  rfl

theorem abs_of_toRat? {negative : Bool} {mantissa : Nat} {exponent : Int} {q : ℚ}
    (h : (finite negative mantissa exponent).toRat? = some q) : |q| = mantissa * 2 ^ exponent := by
  have nonneg : (0 : ℚ) ≤ mantissa * 2 ^ exponent := by positivity
  rw [toRat?_finite] at h
  obtain rfl := Option.some.inj h
  cases negative with
  | true => rw [if_pos rfl, abs_neg, abs_of_nonneg nonneg]
  | false => rw [if_neg Bool.false_ne_true, abs_of_nonneg nonneg]

/-- A finite double is within the threshold. -/
theorem InRange.abs_lt_overflow {x : Binary64} (h : x.InRange) {q : ℚ} (hq : x.toRat? = some q) :
    |q| < overflow := by
  cases x with
  | nan payload => cases hq
  | infinite negative => cases hq
  | finite negative mantissa exponent =>
    obtain ⟨bits, -, most⟩ := h
    have digits : (mantissa : ℚ) ≤ mantissaLimit - 1 := by
      have : mantissa + 1 ≤ mantissaLimit := bits
      have : (mantissa : ℚ) + 1 ≤ mantissaLimit := by exact_mod_cast this
      linarith
    have power : (2 : ℚ) ^ exponent ≤ 2 ^ greatestExponent := zpow_le_zpow_right₀ one_le_two most
    calc |q| = mantissa * 2 ^ exponent := abs_of_toRat? hq
      _ ≤ (mantissaLimit - 1) * 2 ^ greatestExponent :=
          mul_le_mul digits power (by positivity) (by norm_num [mantissaLimit])
      _ < overflow := mul_lt_mul_of_pos_right (by linarith) (by positivity)

theorem abs_eq_natAbs_div (q : ℚ) : |q| = q.num.natAbs / q.den := by
  have pos : (0 : ℚ) < q.den := by exact_mod_cast q.pos
  nth_rewrite 1 [← Rat.num_div_den q]
  rw [abs_div, abs_of_pos pos, Nat.cast_natAbs, Int.cast_abs]

theorem ofRat_isFinite_iff {q : ℚ} {negativeZero : Bool} :
    (ofRat q negativeZero).isFinite = true ↔ |q| < overflow := by
  rw [abs_eq_natAbs_div]
  exact ofQuotient_isFinite_iff q.pos

theorem inRange_ofRat (q : ℚ) (negativeZero : Bool) : (ofRat q negativeZero).InRange :=
  inRange_ofQuotient _ _ q.pos

theorem ofInt_isFinite_iff {i : Int} : (ofInt i).isFinite = true ↔ |(i : ℚ)| < overflow := by
  unfold ofInt
  rw [ofQuotient_isFinite_iff Nat.one_pos, Nat.cast_one, div_one, Nat.cast_natAbs, Int.cast_abs]

theorem toRat?_of_toInt? {x : Binary64} {i : Int} (h : x.toInt? = some i) : x.toRat? = some (i : ℚ) := by
  obtain ⟨q, hq, whole⟩ := Option.bind_eq_some_iff.mp h
  split at whole
  · next integral =>
    obtain rfl := Option.some.inj whole
    rw [hq, Rat.coe_int_num_of_den_eq_one integral]
  · cases whole

theorem cast_of_toInt? {negative : Bool} {mantissa : Nat} {exponent i : Int}
    (h : (finite negative mantissa exponent).toInt? = some i) :
    (i.natAbs : ℚ) = mantissa * (2 : ℚ) ^ exponent := by
  rw [Nat.cast_natAbs, Int.cast_abs, abs_of_toRat? (toRat?_of_toInt? h)]

/-- The integer that a double is equal to is not rounded to an infinite one. -/
theorem InRange.isFinite_ofInt {x : Binary64} (h : x.InRange) {i : Int} (hi : x.toInt? = some i) :
    (ofInt i).isFinite = true :=
  ofInt_isFinite_iff.mpr (h.abs_lt_overflow (toRat?_of_toInt? hi))

end Binary64

end FormEngine
