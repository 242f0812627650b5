import FormEngine.Proofs.Schema.Specimen
import FormEngine.Proofs.Text.Numeral
import FormEngine.Render.Component

/-!
Integers in the number input. Signs of currency and percent, commas and blanks are dropped wherever they
stand, so that an integer is read out of any text that is its decimal with such characters put in. What
the input shows for an integer is one of these texts.
-/

namespace FormEngine

namespace Number

/-- A text with signs of currency and percent, commas and blanks put into it, anywhere. -/
inductive Strewn : List Char → List Char → Prop
  | nil : Strewn [] []
  | keep (c : Char) {cs ds : List Char} : Strewn cs ds → Strewn (c :: cs) (c :: ds)
  | put {c : Char} (mark : c = '$' ∨ c = ',' ∨ c = '%' ∨ isBlank c = true) {cs ds : List Char} :
      Strewn cs ds → Strewn cs (c :: ds)

theorem isIgnored_iff {c : Char} :
    isIgnored c = true ↔ c = '$' ∨ c = ',' ∨ c = '%' ∨ isBlank c = true := by
  simp [isIgnored, or_assoc]

namespace Strewn

variable {cs ds : List Char}

theorem filter_eq (h : Strewn cs ds) : ds.filter (!isIgnored ·) = cs.filter (!isIgnored ·) := by
  induction h with
  | nil => rfl
  | keep c _ ih => rw [List.filter_cons, List.filter_cons, ih]
  | put mark _ ih =>
    rw [List.filter_cons, isIgnored_iff.mpr mark]
    exact ih

theorem refl (cs : List Char) : Strewn cs cs := by
  induction cs with
  | nil => exact .nil
  | cons c cs ih => exact .keep c ih

/-- What is left of a text. -/
theorem of_filter (ds : List Char) : Strewn (ds.filter (!isIgnored ·)) ds := by
  induction ds with
  | nil => exact .nil
  | cons c ds ih =>
    rw [List.filter_cons]
    cases ignored : isIgnored c with
    | true => exact .put (isIgnored_iff.mp ignored) ih
    | false => exact .keep c ih

end Strewn

/-! ### Reading -/

variable {i : Int} {cs : List Char}

theorem isIgnored_of_spells (h : Numeral.Spells i cs) : ∀ c ∈ cs, isIgnored c = false := by
  intro c hc
  rcases h.mem c hc with digit | rfl | rfl
  · refine Bool.eq_false_iff.mpr (isIgnored_iff.not.mpr ?_)
    rintro (rfl | rfl | rfl | blank)
    case inr.inr.inr =>
      rw [Numeral.isBlank_of_isDigit digit] at blank
      cases blank
    all_goals exact absurd digit (by decide)
  · decide
  · decide

theorem isWhole_eq (cs : List Char) :
    isWhole cs = (!(Numeral.takeSign cs).2.isEmpty && (Numeral.takeSign cs).2.all isDigit) := by
  unfold isWhole Numeral.takeSign
  split
  · rfl
  · rfl
  · next noPlus noMinus =>
    split
    · next minus => exact (noMinus _ rfl).elim
    · next plus => exact (noPlus _ rfl).elim
    · rfl

theorem isWhole_of_spells (h : Numeral.Spells i cs) : isWhole cs = true := by
  have digits : ∀ c ∈ Nat.toDigits 10 i.natAbs, isDigit c = true := by
    intro c hc
    rw [isDigit, Numeral.digitValue?_of_isDigit (Numeral.isDigit_toDigits _ c hc)]
    rfl
  have unsigned : (Numeral.takeSign cs).2 = Nat.toDigits 10 i.natAbs := by
    rcases h.cases with ⟨-, rfl⟩ | ⟨-, rfl | rfl⟩
    · rfl
    · rw [Numeral.takeSign_toDigits]
    · rfl
  rw [isWhole_eq, unsigned]
  simpa [Nat.toDigits_ne_nil] using digits

/-- An integer is read out of its decimal with ignored characters in it. -/
theorem ofText?_strewn (spelled : Numeral.Spells i cs)
    (short : (Nat.toDigits 10 i.natAbs).length ≤ Numeral.digitLimit) {text : String}
    (strewn : Strewn cs text.toList) : ofText? text = some (.int i) := by
  have left : text.toList.filter (!isIgnored ·) = cs := by
    rw [strewn.filter_eq, List.filter_eq_self]
    intro c hc
    rw [isIgnored_of_spells spelled c hc]
    rfl
  unfold ofText?
  dsimp only
  rw [left, if_pos (isWhole_of_spells spelled), spelled.integerOfText? short]
  rfl

theorem snap_trivial {n step : Number} (plain : step.isTrivialStep = true) : snap n step = .ok n :=
  if_pos plain

theorem parse_of_ofText? {text : String} {n : Number} (filled : text ≠ "") (read : ofText? text = some n)
    (finite : n.isFinite = true) {step : Option Number}
    (plain : ∀ t, step = some t → t.isTrivialStep = true) : parse (.str text) step = .ok (some n) := by
  have typed : (Value.str text).truthy = true := by simpa [Value.truthy] using filled
  have display : (Value.str text).display = text := rfl
  unfold parse
  simp only [typed, display, read, if_true]
  rw [Option.filter_some, if_pos finite]
  cases step with
  | none => rfl
  | some t =>
    change some <$> snap n t = _
    rw [snap_trivial (plain t rfl)]
    rfl

theorem parse_strewn (spelled : Numeral.Spells i cs)
    (short : (Nat.toDigits 10 i.natAbs).length ≤ Numeral.digitLimit) {text : String}
    (strewn : Strewn cs text.toList) {step : Option Number}
    (plain : ∀ t, step = some t → t.isTrivialStep = true) :
    parse (.str text) step = .ok (some (.int i)) := by
  have read := ofText?_strewn spelled short strewn
  have filled : text ≠ "" := by
    rintro rfl
    cases read
  exact parse_of_ofText? filled read rfl plain

end Number

theorem Component.display_value_eq (visible : Bool) (p : FieldProps) :
    ((ofBuiltIn .number).render visible p).props.get? "display_value" =
      some (.str (if p.value.isEmpty then "" else p.value.display)) := by
  unfold render baseProps lengthProps
  dsimp only
  split <;> rfl

namespace Number

/-- An integer of no more digits than are read is read out of its decimal, with or without a plus sign,
with ignored characters anywhere in it, unless a step draws it elsewhere. So the number input reports the
integer that it shows when what it shows is typed. -/
theorem number_input_reads_integers {i : Int} (short : (Nat.toDigits 10 i.natAbs).length ≤ 4300) :
    (∀ (cs : List Char) (text : String) (step : Option Number), Numeral.Spells i cs →
      Strewn cs text.toList → (∀ t, step = some t → t.isTrivialStep = true) →
      parse (.str text) step = .ok (some (.int i))) ∧
    (∀ (visible : Bool) (p : FieldProps), p.value = .int i →
      (∀ x, p.field.step = some x → (Number.float x).isTrivialStep = true) →
      ∃ h shown, ((Component.ofBuiltIn .number).render visible p).handlers.get? "on_change" = some h ∧
        ((Component.ofBuiltIn .number).render visible p).props.get? "display_value" = some (.str shown) ∧
        h.call [.str shown] = .ok (.report ⟨.change, [.int i]⟩)) := by
  refine ⟨fun cs text step spelled strewn plain => parse_strewn spelled short strewn plain, ?_⟩
  intro visible p value plain
  have shown : ((Component.ofBuiltIn .number).render visible p).props.get? "display_value" =
      some (.str (toString i)) := by
    rw [Component.display_value_eq, value]
    rfl
  refine ⟨_, _, rfl, shown, ?_⟩
  have steps : ∀ t, p.field.step.map Number.float = some t → t.isTrivialStep = true := by
    intro t ht
    obtain ⟨x, hx, rfl⟩ := Option.map_eq_some_iff.mp ht
    exact plain x hx
  change Handler.enterNumeric p.field.step (.str (toString i)) = _
  unfold Handler.enterNumeric
  rw [parse_strewn (.inl rfl) short (.refl _) steps]
  rfl

/-- Steps of zero and one, whole or not, leave a number where it is. -/
theorem isTrivialStep_small :
    ∀ t ∈ [Number.int 0, .int 1, .float (.ofInt 0), .float (.ofInt 1)], t.isTrivialStep = true := by
  decide +kernel

theorem grouped_integer_read : parse (.str " -$1,234 5 %") (some (.float (.ofInt 1))) =
    .ok (some (.int (-12345))) := by
  have reads := (number_input_reads_integers (i := -12345) (by decide)).1
  refine reads "-12345".toList _ _ (.inl (by decide)) (Strewn.of_filter " -$1,234 5 %".toList) ?_
  rintro t ⟨⟩
  exact isTrivialStep_small _ (by simp)

end Number

end FormEngine
