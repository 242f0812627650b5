import FormEngine.Proofs.Number.Arithmetic
import FormEngine.Render.Component

/-!
Steps of the number input. The nearest multiple of a step is found by dividing in doubles, counting the
steps and multiplying again. Each of the three can lead beyond the greatest double, with large numbers
or small steps; wherever none does, a finite number is reported, or an empty text.
-/

namespace FormEngine

namespace Number

open Binary64

/-- The double that stands for a number in divisions. -/
def nearest : Number → Binary64
  | .int i => .ofInt i
  | .float x => x

/-- How many steps come nearest to a number. -/
def count (n : Number) (step : Binary64) : Int := ((n.nearest.div step).roundToInt?).getD 0

/-- The nearest multiple of a step is within the range of doubles, and so is all on the way to it. -/
structure InReach (n : Number) (step : Binary64) : Prop where
  held (i : Int) : n = .int i → |(i : ℚ)| < overflow
  counted : |n.nearest.value / step.value| < overflow
  drawn : |n.count step * step.value| < overflow

/-- The fault of an integer beyond all doubles. -/
def unheld : Fault := .overflow "int too large to convert to float"

/-- The fault of a number that is more steps than a double can count. -/
def uncounted : Fault := .overflow "cannot convert float infinity to integer"

section Snapping

variable {n : Number} {step : Binary64} (hn : n.isFinite = true) (hs : step.isFinite = true)

include hn in
theorem nearest_isFinite (held : ∀ i : Int, n = .int i → |(i : ℚ)| < overflow) :
    n.nearest.isFinite = true := by
  cases n with
  | int i => exact ofInt_isFinite_iff.mpr (held i rfl)
  | float x => exact hn

include hn in
theorem quotient_eq (held : ∀ i : Int, n = .int i → |(i : ℚ)| < overflow) :
    quotient n (.float step) = .ok (n.nearest.div step) := by
  cases n with
  | int i =>
    change (do return (← toDouble i).div step) = _
    unfold toDouble
    dsimp only
    rw [if_pos (ofInt_isFinite_iff.mpr (held i rfl))]
    rfl
  | float x => rfl

theorem quotient_unheld {i : Int} (beyond : overflow ≤ |(i : ℚ)|) :
    quotient (.int i) (.float step) = .error unheld := by
  change (do return (← toDouble i).div step) = _
  unfold toDouble
  dsimp only
  rw [if_neg (mt ofInt_isFinite_iff.mp (not_lt.mpr beyond))]
  rfl

theorem nearestInt_eq {x : Binary64} (hx : x.isFinite = true) :
    nearestInt x = .ok (x.roundToInt?.getD 0) := by
  cases x with
  | nan payload => cases hx
  | infinite negative => cases hx
  | finite negative mantissa exponent => rfl

theorem holds_count {q : ℚ} {negativeZero : Bool} (divided : n.nearest.div step = ofRat q negativeZero)
    (counted : (n.nearest.div step).isFinite = true) : Holds (n.count step) := by
  have inRange : (n.nearest.div step).InRange := divided ▸ inRange_ofRat q negativeZero
  obtain ⟨k, hk⟩ := Option.isSome_iff_exists.mp (isSome_roundToInt? counted)
  unfold count
  rw [hk]
  exact inRange.holds_roundToInt hk

theorem multiple_eq {k : Int} (held : Holds k) :
    multiple k (.float step) = .ok (.float ((ofInt k).mul step)) := by
  change (do return Number.float ((← toDouble k).mul step)) = _
  unfold toDouble
  dsimp only
  rw [if_pos held.isFinite_ofInt]
  rfl

theorem snap_sizable {step : Number} (sizable : step.isTrivialStep = false) :
    snap n step = quotient n step >>= fun q => nearestInt q >>= fun k => multiple k step := by
  unfold snap
  rw [if_neg (Bool.eq_false_iff.mp sizable)]

theorem snap_unheld (sizable : (Number.float step).isTrivialStep = false) {i : Int}
    (beyond : overflow ≤ |(i : ℚ)|) : snap (.int i) (.float step) = .error unheld := by
  rw [snap_sizable sizable, quotient_unheld beyond]
  rfl

section Held

variable (sizable : (Number.float step).isTrivialStep = false)
  (held : ∀ i : Int, n = .int i → |(i : ℚ)| < overflow)

include hn hs sizable held

theorem snap_uncounted (beyond : overflow ≤ |n.nearest.value / step.value|) :
    snap n (.float step) = .error uncounted := by
  obtain ⟨negativeZero, divided⟩ := div_eq (nearest_isFinite hn held) hs
  have unbounded : (ofRat (n.nearest.value / step.value) negativeZero).isFinite = false :=
    Bool.eq_false_iff.mpr (mt ofRat_isFinite_iff.mp (not_lt.mpr beyond))
  obtain ⟨negative, infinite⟩ := ofRat_eq_infinite unbounded
  rw [snap_sizable sizable, quotient_eq hn held, divided, infinite]
  rfl

theorem snap_counted (counted : |n.nearest.value / step.value| < overflow) :
    ∃ negativeZero, snap n (.float step) =
      .ok (.float (ofRat (n.count step * step.value) negativeZero)) := by
  obtain ⟨negativeZero, divided⟩ := div_eq (nearest_isFinite hn held) hs
  have finite : (n.nearest.div step).isFinite = true := by
    rw [divided]
    exact ofRat_isFinite_iff.mpr counted
  have whole := holds_count divided finite
  obtain ⟨negativeZero', drawn⟩ := mul_eq whole.isFinite_ofInt hs
  refine ⟨negativeZero', ?_⟩
  rw [snap_sizable sizable, quotient_eq hn held]
  change (nearestInt (n.nearest.div step) >>= fun k => multiple k (.float step)) = _
  rw [nearestInt_eq finite, ← whole.value_ofInt, ← drawn]
  exact multiple_eq whole

end Held

/-- What becomes of a number: it is beyond all doubles, or it is more steps than can be counted, or a
multiple of the step is made. -/
theorem snap_cases (hn : n.isFinite = true) (hs : step.isFinite = true)
    (sizable : (Number.float step).isTrivialStep = false) :
    (∃ i : Int, n = .int i ∧ overflow ≤ |(i : ℚ)| ∧ snap n (.float step) = .error unheld) ∨
    (overflow ≤ |n.nearest.value / step.value| ∧ snap n (.float step) = .error uncounted) ∨
    (∀ i : Int, n = .int i → |(i : ℚ)| < overflow) ∧ |n.nearest.value / step.value| < overflow ∧
      ∃ negativeZero, snap n (.float step) =
        .ok (.float (ofRat (n.count step * step.value) negativeZero)) := by
  by_cases held : ∀ i : Int, n = .int i → |(i : ℚ)| < overflow
  · rcases lt_or_ge |n.nearest.value / step.value| overflow with counted | beyond
    · exact .inr (.inr ⟨held, counted, snap_counted hn hs sizable held counted⟩)
    · exact .inr (.inl ⟨beyond, snap_uncounted hn hs sizable held beyond⟩)
  · push Not at held
    obtain ⟨i, rfl, beyond⟩ := held
    exact .inl ⟨i, rfl, beyond, snap_unheld sizable beyond⟩

/-- A step draws a finite number to a finite one just if the multiple is in reach. -/
theorem snap_answers_iff (hn : n.isFinite = true) (hs : step.isFinite = true)
    (sizable : (Number.float step).isTrivialStep = false) :
    (∃ m, snap n (.float step) = .ok m ∧ m.isFinite = true) ↔ InReach n step := by
  obtain ⟨i, rfl, beyond, failed⟩ | ⟨beyond, failed⟩ | ⟨held, counted, negativeZero, drawn⟩ :=
    snap_cases hn hs sizable
  · rw [failed]
    exact iff_of_false (fun ⟨_, same, _⟩ => nomatch same) fun h =>
      absurd (h.held i rfl) (not_lt.mpr beyond)
  · rw [failed]
    exact iff_of_false (fun ⟨_, same, _⟩ => nomatch same) fun h => absurd h.counted (not_lt.mpr beyond)
  · rw [drawn]
    constructor
    · rintro ⟨m, same, finite⟩
      obtain rfl := Except.ok.inj same
      exact ⟨held, counted, ofRat_isFinite_iff.mp finite⟩
    · exact fun h => ⟨_, rfl, ofRat_isFinite_iff.mpr h.drawn⟩

/-- What fails is a conversion to a double, or counting the steps. -/
theorem snap_error (hn : n.isFinite = true) (hs : step.isFinite = true)
    (sizable : (Number.float step).isTrivialStep = false) {e : Fault}
    (h : snap n (.float step) = .error e) : e = unheld ∨ e = uncounted := by
  obtain ⟨i, -, -, failed⟩ | ⟨-, failed⟩ | ⟨-, -, negativeZero, drawn⟩ := snap_cases hn hs sizable
  · exact .inl (Except.error.inj (h.symm.trans failed))
  · exact .inr (Except.error.inj (h.symm.trans failed))
  · rw [drawn] at h
    cases h

end Snapping

/-! ### The input -/

/-- The finite number in what was typed, before a step draws it. -/
def typed? (typed : Value) : Option Number :=
  let number := match typed with
    | .bool _ => none
    | .int i => some (Number.int i)
    | .float x => some (.float x)
    | v => if v.truthy then ofText? v.display else none
  number.filter isFinite

theorem parse_eq (typed : Value) (step : Option Number) :
    parse typed step = match typed? typed, step with
      | none, _ => .ok none
      | some n, none => .ok (some n)
      | some n, some step => some <$> snap n step := rfl

theorem isFinite_of_typed? {typed : Value} {n : Number} (h : typed? typed = some n) :
    n.isFinite = true :=
  (Option.filter_eq_some_iff.mp h).2

/-- What a step asks of what was typed: the multiple is in reach, unless nothing is to be drawn. -/
def Answerable (typed : Value) (step : Option Binary64) : Prop :=
  ∀ n s, typed? typed = some n → step = some s → (Number.float s).isTrivialStep = false → InReach n s

theorem answerable_iff {typed : Value} {s : Binary64} {n : Number} (number : typed? typed = some n)
    (sizable : (Number.float s).isTrivialStep = false) : Answerable typed (some s) ↔ InReach n s := by
  constructor
  · exact fun h => h n s number rfl sizable
  · rintro h _ _ number' ⟨⟩ -
    obtain rfl := Option.some.inj (number.symm.trans number')
    exact h

/-- Without a step that draws it, a number is taken as it is. -/
theorem parse_undrawn {typed : Value} {step : Option Binary64}
    (plain : ∀ n s, typed? typed = some n → step = some s → (Number.float s).isTrivialStep = true) :
    parse typed (step.map .float) = .ok (typed? typed) := by
  rw [parse_eq]
  cases number : typed? typed with
  | none => rfl
  | some n =>
    cases step with
    | none => rfl
    | some s =>
      change some <$> snap n (.float s) = _
      unfold snap
      rw [if_pos (plain n s number rfl)]
      rfl

theorem parse_drawn {typed : Value} {s : Binary64} {n : Number} (number : typed? typed = some n) :
    parse typed ((some s).map .float) = some <$> snap n (.float s) := by
  rw [parse_eq, number]
  rfl

/-- Either a step draws the number that was typed, or the number is taken as it is. -/
theorem drawn_or_plain (typed : Value) (step : Option Binary64) :
    (∃ n s, typed? typed = some n ∧ step = some s ∧ (Number.float s).isTrivialStep = false) ∨
    ∀ n s, typed? typed = some n → step = some s → (Number.float s).isTrivialStep = true := by
  by_cases drawn : ∃ n s, typed? typed = some n ∧ step = some s ∧ (Number.float s).isTrivialStep = false
  · exact .inl drawn
  · refine .inr fun n s number same => ?_
    by_contra sizable
    exact drawn ⟨n, s, number, same, Bool.eq_false_iff.mpr sizable⟩

section Parse

variable {typed : Value} {step : Option Binary64} (finite : ∀ s, step = some s → s.isFinite = true)

include finite

/-- A finite number or none is read just if the multiple of the step is in reach. -/
theorem parse_answers_iff :
    (∃ r, parse typed (step.map .float) = .ok r ∧ ∀ n, r = some n → n.isFinite = true) ↔
      Answerable typed step := by
  rcases drawn_or_plain typed step with ⟨n, s, number, rfl, sizable⟩ | plain
  · have answers := snap_answers_iff (isFinite_of_typed? number) (finite s rfl) sizable
    rw [parse_drawn number]
    rw [answerable_iff number sizable, ← answers]
    cases snap n (.float s) with
    | error e => exact iff_of_false (fun ⟨_, read, _⟩ => nomatch read) fun ⟨_, read, _⟩ => nomatch read
    | ok m =>
      constructor
      · rintro ⟨_, ⟨⟩, whole⟩
        exact ⟨m, rfl, whole m rfl⟩
      · rintro ⟨_, ⟨⟩, whole⟩
        refine ⟨some m, rfl, ?_⟩
        rintro _ ⟨⟩
        exact whole
  · refine iff_of_true ⟨_, parse_undrawn plain, fun n number => isFinite_of_typed? number⟩ ?_
    intro n s number same sizable
    rw [plain n s number same] at sizable
    cases sizable

theorem parse_error {e : Fault} (h : parse typed (step.map .float) = .error e) :
    e = unheld ∨ e = uncounted := by
  rcases drawn_or_plain typed step with ⟨n, s, number, rfl, sizable⟩ | plain
  · rw [parse_drawn number] at h
    cases snapped : snap n (.float s) with
    | ok m =>
      rw [snapped] at h
      cases h
    | error e' =>
      rw [snapped] at h
      obtain rfl := Except.error.inj h
      exact snap_error (isFinite_of_typed? number) (finite s rfl) sizable snapped
  · rw [parse_undrawn plain] at h
    cases h

end Parse

/-- What the number input reports: an empty text, or a finite number. -/
def Reported (v : Value) : Prop := v = .str "" ∨ ∃ n : Number, n.isFinite = true ∧ v = n.toValue

theorem toValue_injective : Function.Injective toValue := by
  intro n m same
  cases n <;> cases m <;> cases same <;> rfl

theorem enterNumeric_answers_iff (typed : Value) (step : Option Binary64) :
    (∃ v, Handler.enterNumeric step typed = .ok (.report ⟨.change, [v]⟩) ∧ Reported v) ↔
      ∃ r, parse typed (step.map .float) = .ok r ∧ ∀ n, r = some n → n.isFinite = true := by
  unfold Handler.enterNumeric
  cases parse typed (step.map .float) with
  | error e => exact iff_of_false (fun ⟨_, h, _⟩ => nomatch h) fun ⟨_, h, _⟩ => nomatch h
  | ok r =>
    cases r with
    | none => exact iff_of_true ⟨_, rfl, .inl rfl⟩ ⟨_, rfl, fun _ h => nomatch h⟩
    | some n =>
      constructor
      · rintro ⟨_, ⟨⟩, empty | ⟨m, whole, same⟩⟩
        · cases n <;> cases empty
        · refine ⟨_, rfl, ?_⟩
          rintro _ ⟨⟩
          rw [toValue_injective same]
          exact whole
      · rintro ⟨_, ⟨⟩, whole⟩
        exact ⟨_, rfl, .inr ⟨n, whole n rfl, rfl⟩⟩

/-- With a step that a field can have, the number input takes every text, number or null without a fault
and reports a finite number or an empty text, just if the nearest multiple of the step is in reach of
doubles and so is all on the way to it. Otherwise it reports an infinite number or raises an overflow. -/
theorem number_input_answers_iff (typed : Value) (step : Option Binary64)
    (finite : ∀ s, step = some s → s.isFinite = true) :
    ((∃ r, parse typed (step.map .float) = .ok r ∧ ∀ n, r = some n → n.isFinite = true) ↔
      Answerable typed step) ∧
    (∀ e, parse typed (step.map .float) = .error e → e = unheld ∨ e = uncounted) ∧
    ∀ (visible : Bool) (p : FieldProps), p.field.step = step →
      ∃ h, ((Component.ofBuiltIn .number).render visible p).handlers.get? "on_change" = some h ∧
        ((∃ v, h.call [typed] = .ok (.report ⟨.change, [v]⟩) ∧ Reported v) ↔
          Answerable typed step) := by
  refine ⟨parse_answers_iff finite, fun _ h => parse_error finite h, ?_⟩
  rintro visible p rfl
  exact ⟨_, rfl, (enterNumeric_answers_iff typed p.field.step).trans (parse_answers_iff finite)⟩

/-- Seven is a number in reach of steps of five: one step is nearest to it. -/
theorem answerable_seven : Answerable (.str "7") (some (.ofInt 5)) := by
  have small : (2 : ℚ) ^ (10 : Int) ≤ overflow := le_overflow (by decide)
  have count : (Number.int 7).count (.ofInt 5) = 1 := by decide +kernel
  have five : (Binary64.ofInt 5).value = ((5 : Int) : ℚ) := (holds_of_natAbs_le (by decide)).value_ofInt
  have seven : (Number.int 7).nearest.value = ((7 : Int) : ℚ) := (holds_of_natAbs_le (by decide)).value_ofInt
  refine (answerable_iff (n := .int 7) (by decide +kernel) (by decide +kernel)).mpr ⟨?_, ?_, ?_⟩
  · rintro _ ⟨⟩
    exact lt_of_lt_of_le (by norm_num) small
  · rw [five, seven]
    exact lt_of_lt_of_le (by norm_num [abs_of_nonneg]) small
  · rw [count, five]
    exact lt_of_lt_of_le (by norm_num) small

/-- A tenth, as near as a double comes to it. -/
def tenth : Binary64 := .ofQuotient false 1 10

/-- There are numbers that are more tenths than a double can count. -/
theorem parse_tenths : ¬∃ r, parse (.str "1e308") (some (.float tenth)) = .ok r := by
  have none : (parse (.str "1e308") (some (.float tenth))).toOption = .none := by decide +kernel
  rintro ⟨r, read⟩
  rw [read] at none
  cases none

/-- Seven is drawn to a multiple of five, but the tenths of a large number are out of reach. -/
theorem multiples_in_and_out_of_reach :
    (∃ r, parse (.str "7") (some (.float (.ofInt 5))) = .ok r ∧ ∀ n, r = some n → n.isFinite = true) ∧
      ¬Answerable (.str "1e308") (some tenth) := by
  have fives := number_input_answers_iff (.str "7") (some (.ofInt 5)) (by rintro _ ⟨⟩; decide +kernel)
  have tenths := number_input_answers_iff (.str "1e308") (some tenth) (by rintro _ ⟨⟩; decide +kernel)
  refine ⟨fives.1.mpr answerable_seven, fun h => ?_⟩
  obtain ⟨r, read, -⟩ := tenths.1.mpr h
  exact parse_tenths ⟨r, read⟩

/-- A number can be more steps than a double can count, and then there is no answer; or its nearest
multiple is beyond all doubles, and then the answer is infinite. -/
theorem steps_out_of_reach : tenth.isFinite = true ∧
    (¬∃ r, parse (.str "1e308") (some (.float tenth)) = .ok r) ∧
    (parse (.float (.ofDecimal false 17 307)) (some (.float (.ofDecimal false 1 308)))).toOption =
      some (some (.float (.infinite false))) :=
  ⟨by decide +kernel, parse_tenths, by decide +kernel⟩

end Number
end FormEngine
