import FormEngine.Clock.Time
import FormEngine.Proofs.Number.Comparison
import FormEngine.Proofs.Number.Range

/-!
Times and spans in the order of doubles. A time that is no later than another is before all that the
other is before, so that what has expired stays so. A number of milliseconds takes time just if it is
positive, for none is so small that it would be rounded to nothing.
-/

namespace FormEngine

namespace Time

/-- Whether one time is no later than another. -/
def NotAfter (s t : Time) : Prop := s.compare? t = some .lt ∨ s.compare? t = some .eq

theorem before_iff {s t : Time} : s.before t = true ↔ s.compare? t = some .lt := beq_iff_eq

theorem NotAfter.before {s t u : Time} (h : s.NotAfter t) (later : t.before u = true) :
    s.before u = true := by
  rw [before_iff] at later ⊢
  unfold NotAfter Binary64.compare? at h
  unfold Binary64.compare? at later ⊢
  cases hs : s.toExtended? with
  | none => simp [hs] at h
  | some a =>
    cases ht : t.toExtended? with
    | none => simp [ht] at later
    | some b =>
      cases hu : u.toExtended? with
      | none => simp [hu] at later
      | some c =>
        rw [hs, ht] at h
        rw [ht, hu] at later
        have first : a.compare b = .lt ∨ a.compare b = .eq := h.imp Option.some.inj Option.some.inj
        exact congrArg some (Extended.compare_trans first (Option.some.inj later))

theorem size_pos {mantissa : Nat} (h : mantissa ≠ 0) (exponent : Int) :
    0 < (mantissa : ℚ) * Binary64.powerOfTwo exponent := by
  have bits : 0 < (mantissa : ℚ) := by exact_mod_cast Nat.pos_of_ne_zero h
  rw [Binary64.powerOfTwo_eq]
  positivity

/-- After the start come the positive times. -/
theorem start_before_iff {t : Time} :
    start.before t = true ↔ t.isNaN = false ∧ t.isNegative = false ∧ t.isZero = false := by
  have origin : start.toExtended? = some (.point 0) := by decide +kernel
  rw [before_iff]
  unfold Binary64.compare?
  rw [origin]
  cases t with
  | nan payload => simp [Binary64.toExtended?, Binary64.isNaN]
  | infinite negative =>
    cases negative <;>
      simp [Binary64.toExtended?, Extended.compare, Binary64.isNaN, Binary64.isNegative, Binary64.isZero]
  | finite negative mantissa exponent =>
    by_cases zero : mantissa = 0
    · subst zero
      have none : (Binary64.finite negative 0 exponent).isZero = true := rfl
      rw [none]
      cases negative <;> simp [Binary64.toExtended?, Extended.compare]
    · have size := size_pos zero exponent
      have some : (Binary64.finite negative mantissa exponent).isZero = false := beq_eq_false_iff_ne.mpr zero
      rw [some]
      cases negative with
      | true => simp [Binary64.toExtended?, Extended.compare, Binary64.isNegative, size.le, size.ne']
      | false => simp [Binary64.toExtended?, Extended.compare, Binary64.isNaN, Binary64.isNegative, size]

/-- Milliseconds take time just if they are positive. -/
theorem passes_seconds (milliseconds : Int) :
    passes (seconds milliseconds) = decide (0 < milliseconds) := by
  rw [Bool.eq_iff_iff, decide_eq_true_iff]
  unfold passes seconds
  rw [start_before_iff, Binary64.isNaN_ofQuotient, Binary64.isNegative_ofQuotient]
  constructor
  · rintro ⟨-, nonneg, nonzero⟩
    have : milliseconds ≠ 0 := by
      rintro rfl
      cases nonzero
    have := of_decide_eq_false nonneg
    omega
  · intro pos
    refine ⟨rfl, decide_eq_false (by omega), Binary64.isZero_ofQuotient (by decide) ?_⟩
    have least : (2 : ℚ) ^ Binary64.leastExponent ≤ 2 ^ (-10 : Int) :=
      zpow_le_zpow_right₀ one_le_two (by decide)
    have one : (1 : ℚ) ≤ milliseconds.natAbs := by
      have : 1 ≤ milliseconds.natAbs := by omega
      exact_mod_cast this
    calc (2 : ℚ) ^ Binary64.leastExponent ≤ 2 ^ (-10 : Int) := least
      _ ≤ 1 / (1000 : ℕ) := by norm_num
      _ ≤ milliseconds.natAbs / (1000 : ℕ) := by gcongr

/-- Milliseconds can be told in seconds as long as these are within the range of doubles. -/
theorem isSpan_iff {milliseconds : Int} :
    isSpan milliseconds = true ↔ |(milliseconds : ℚ)| / 1000 < Binary64.overflow := by
  unfold isSpan seconds
  rw [Binary64.ofQuotient_isFinite_iff (by decide), Nat.cast_natAbs, Int.cast_abs]
  rfl

/-- Positive milliseconds cannot be told in seconds if these are beyond all doubles. -/
theorem endless_iff {milliseconds : Int} :
    0 < milliseconds ∧ isSpan milliseconds = false ↔ 1000 * Binary64.overflow ≤ milliseconds := by
  have positive : (0 : ℚ) < Binary64.overflow :=
    (zpow_pos two_pos 0).trans_le (Binary64.le_overflow (by decide))
  have cast : 0 < milliseconds ↔ (0 : ℚ) < milliseconds := Int.cast_pos.symm
  rw [← Bool.not_eq_true, isSpan_iff, not_lt, le_div_iff₀ (by norm_num), cast]
  constructor
  · rintro ⟨pos, beyond⟩
    rw [abs_of_pos pos] at beyond
    linarith
  · intro beyond
    have pos : (0 : ℚ) < milliseconds := by linarith
    refine ⟨pos, ?_⟩
    rw [abs_of_pos pos]
    linarith

end Time

end FormEngine
