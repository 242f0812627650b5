import FormEngine.Proofs.Schema.Specimen
import FormEngine.Proofs.Text.Case
import FormEngine.Render.Component

/-!
What text inputs report. A typed text that is longer than the field admits is not reported, and any other
is reported as it has been altered. Altering it can make it longer in one input alone.
-/

namespace FormEngine

/-- The text that an input makes of a typed one. -/
def BuiltIn.entered (c : BuiltIn) (s : String) : String :=
  if c = .email then stripBlank (toLower s) else s

theorem Value.length?_of_text {v : Value} {s : String} (h : v.text? = some s) :
    v.length? = some s.length := by
  cases v with
  | str t =>
    cases h
    rfl
  | name vocabulary t =>
    cases h
    rfl
  | _ => cases h

namespace Component

theorem limit?_eq_none {limit : Option Int} (free : limit = none ∨ limit = some 0) :
    limit? limit = none := by
  rcases free with rfl | rfl <;> rfl

theorem limit?_eq_some {limit : Option Int} {n : Nat} (positive : 0 < n) (set : limit = some (n : Int)) :
    limit? limit = some (n : Int) := by
  subst set
  simp [limit?]
  omega

end Component

namespace BuiltIn

variable {c : BuiltIn}

theorem changeHandler_eq (textual : c ≠ .number) (visible : Bool) (p : FieldProps) :
    ((Component.ofBuiltIn c).render visible p).handlers.get? "on_change" =
      some (.enterText (Component.ofBuiltIn c).transform p.field.maxLength) := by
  cases c with
  | number => exact absurd rfl textual
  | _ => rfl

theorem apply_transform (c : BuiltIn) {typed : Value} {s : String} (text : typed.text? = some s) :
    ∃ w, (Component.ofBuiltIn c).transform.apply typed = .ok w ∧ w.text? = some (c.entered s) := by
  cases c with
  | email =>
    refine ⟨.str (stripBlank (toLower s)), ?_, rfl⟩
    change Transform.lowerTrimmed.apply typed = _
    unfold Transform.apply
    rw [text]
  | _ => exact ⟨typed, rfl, text⟩

section Call

variable (c : BuiltIn) {limit : Option Int} {typed w : Value} {s : String} (text : typed.text? = some s)
  (altered : (Component.ofBuiltIn c).transform.apply typed = .ok w)

include altered in
theorem call_unlimited (free : limit = none ∨ limit = some 0) :
    (Handler.enterText (Component.ofBuiltIn c).transform limit).call [typed] =
      .ok (.report ⟨.change, [w]⟩) := by
  have within : Handler.exceeds limit typed = .ok false := by
    unfold Handler.exceeds
    rw [Component.limit?_eq_none free]
  change Handler.enter _ limit typed = _
  unfold Handler.enter
  rw [within, altered]
  rfl

include text altered in
theorem call_limited {n : Nat} (positive : 0 < n) (set : limit = some (n : Int)) :
    (Handler.enterText (Component.ofBuiltIn c).transform limit).call [typed] =
      .ok (if n < s.length then .quiet else .report ⟨.change, [w]⟩) := by
  have compared : Handler.exceeds limit typed = .ok (decide (n < s.length)) := by
    unfold Handler.exceeds
    rw [Component.limit?_eq_some positive set, Value.length?_of_text text]
    simp
  change Handler.enter _ limit typed = _
  unfold Handler.enter
  rw [compared, altered]
  by_cases long : n < s.length
  · rw [if_pos long, decide_eq_true long]
    rfl
  · rw [if_neg long, decide_eq_false long]
    rfl

end Call

theorem entered_length_le_iff (c : BuiltIn) {s : String} {n : Nat} (short : s.length ≤ n) :
    (c.entered s).length ≤ n ↔ (c = .email → (stripBlank s).length + s.toList.count 'İ' ≤ n) := by
  unfold entered
  split
  · next email =>
    rw [length_stripBlank_toLower]
    exact ⟨fun h _ => h, fun h => h email⟩
  · next other => exact iff_of_true short fun email => absurd email other

theorem entered_length_le (c : BuiltIn) {s : String} (plain : 'İ' ∉ s.toList) :
    (c.entered s).length ≤ s.length := by
  unfold entered
  split
  · rw [length_stripBlank_toLower, List.count_eq_zero.mpr plain, Nat.add_zero]
    exact length_stripBlank_le s
  · exact le_rfl

/-- A text input without a limit reports what it makes of a typed text, and one with a limit does so just
if the typed text keeps it. What is reported then keeps the limit too, except in the email input: lower
case adds a character for each dotted capital, and trimming need not make up for them. -/
theorem text_input_respects_limit {c : BuiltIn} (textual : c ≠ .number) (visible : Bool) (p : FieldProps)
    {typed : Value} {s : String} (text : typed.text? = some s) :
    ∃ h w, ((Component.ofBuiltIn c).render visible p).handlers.get? "on_change" = some h ∧
      (Component.ofBuiltIn c).transform.apply typed = .ok w ∧ w.text? = some (c.entered s) ∧
      (p.field.maxLength = none ∨ p.field.maxLength = some 0 →
        h.call [typed] = .ok (.report ⟨.change, [w]⟩)) ∧
      ∀ n : Nat, 0 < n → p.field.maxLength = some (n : Int) →
        h.call [typed] = .ok (if n < s.length then .quiet else .report ⟨.change, [w]⟩) ∧
        (s.length ≤ n → ((c.entered s).length ≤ n ↔
          (c = .email → (stripBlank s).length + s.toList.count 'İ' ≤ n)) ∧
          ('İ' ∉ s.toList → (c.entered s).length ≤ n)) := by
  obtain ⟨w, altered, made⟩ := c.apply_transform text
  refine ⟨_, w, changeHandler_eq textual visible p, altered, made, call_unlimited c altered, ?_⟩
  intro n positive set
  refine ⟨call_limited c text altered positive set, fun short => ⟨c.entered_length_le_iff short, ?_⟩⟩
  exact fun plain => (c.entered_length_le plain).trans short

/-- An email field that admits three characters. -/
def shortAddress : FieldProps := { field := { FormField.plain "e" "email" with maxLength := some 3 } }

theorem shortAddress_trimmed : ∃ h, ((Component.ofBuiltIn .email).render false shortAddress).handlers.get?
    "on_change" = some h ∧ h.call [.str "AB "] = .ok (.report ⟨.change, [.str "ab"]⟩) := by
  have text : (Value.str "AB ").text? = some "AB " := rfl
  obtain ⟨h, w, there, altered, -, -, limited⟩ :=
    text_input_respects_limit (c := .email) (by decide) false shortAddress text
  have made : w = .str "ab" := by
    cases altered
    exact congrArg Value.str (by decide +kernel)
  exact ⟨h, there, made ▸ (limited 3 (by decide) rfl).1⟩

/-- Three characters become four. -/
theorem shortAddress_exceeded : ∃ h t,
    ((Component.ofBuiltIn .email).render false shortAddress).handlers.get? "on_change" = some h ∧
      h.call [.str "aİb"] = .ok (.report ⟨.change, [.str t]⟩) ∧ t.length = 4 :=
  ⟨_, _, rfl, rfl, by decide +kernel⟩

end BuiltIn

end FormEngine
