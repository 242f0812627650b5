import FormEngine.Host.Script
import FormEngine.Proofs.Except
import FormEngine.Proofs.Schema.Specimen
import FormEngine.Rule.Compile

/-!
Emptiness and required values. A rule that is derived from a field wraps its shape, one way if a value is
required and another if it is not, and an explicit rule is preceded by a test. All three come to the same:
an empty value is refused or passed without a look at the shape, and the shape alone decides about others.
-/

namespace FormEngine

theorem Value.isEmpty_of_isNull {v : Value} (h : v.isNull = true) : v.isEmpty = true := by
  cases v with
  | null => rfl
  | _ => cases h

theorem Guarded.verdict_ofShape (s : Shape) (required : Bool) (v : Value) :
    (Guarded.ofShape s required).verdict v =
      if v.isEmpty then if required then .say requiredMessage else .issues []
      else s.verdict v := by
  cases empty : v.isEmpty with
  | true => cases required <;> simp [ofShape, verdict, rejectEmpty, emptyToNull, empty, Value.isNull]
  | false =>
    have present : v.isNull = false := by
      cases null : v.isNull with
      | false => rfl
      | true => rw [Value.isEmpty_of_isNull null] at empty; cases empty
    cases required <;> simp [ofShape, verdict, rejectEmpty, emptyToNull, empty, present]

/-- The field with neither of its marks as required. -/
def FormField.unrequired (f : FormField) : FormField :=
  let declared := f.validation.getD ⟨none, .null, none, [], [], none⟩
  { f with required := false, validation := some { declared with required := none } }

namespace FieldRule

/-- Whether emptiness is settled before the shape is looked at. -/
def settlesEmptiness (r : FieldRule) : Bool :=
  r.description.explicit.isNull || r.description.checkPresence

/-- Whichever way emptiness is settled, the shape has no part in it. -/
theorem verdict_eq (r : FieldRule) (v : Value) : r.verdict v =
    if r.settlesEmptiness && v.isEmpty then
      if r.description.required then .say requiredMessage else .issues []
    else r.shape.verdict v := by
  unfold verdict settlesEmptiness guarded
  cases derived : r.description.explicit.isNull with
  | true =>
    rw [if_pos rfl, Guarded.verdict_ofShape]
    cases r.description.checkPresence <;> cases v.isEmpty <;> rfl
  | false => rfl

/-! ### Rules that settle emptiness -/

variable {r : FieldRule} (settles : r.settlesEmptiness = true)

include settles in
theorem violations_of_isEmpty (host : Host) {v : Value} (empty : v.isEmpty = true) :
    r.violations host v =
      pure (.ok (if r.description.required then [⟨[], requiredMessage⟩] else [])) := by
  unfold violations
  rw [verdict_eq, settles, empty]
  cases r.description.required <;> rfl

include settles in
theorem check_of_isEmpty (host : Host) {v : Value} (empty : v.isEmpty = true) :
    r.check host v = pure (.ok (if r.description.required then [requiredMessage] else [])) := by
  unfold check
  rw [violations_of_isEmpty settles host empty]
  cases r.description.required <;> rfl

theorem verdict_of_present (r : FieldRule) {v : Value} (present : v.isEmpty = false) :
    r.verdict v = r.shape.verdict v := by
  rw [verdict_eq, present, Bool.and_false, if_neg Bool.false_ne_true]

/-- Nothing is said of a value. -/
def Accepts (host : Host) (r : FieldRule) (v : Value) : Prop := r.check host v = pure (.ok [])

theorem check_of_verdict {host : Host} {v : Value} {complaint : Option String}
    (h : r.verdict v = .sayIf complaint) : r.check host v = pure (.ok complaint.toList) := by
  unfold check violations
  rw [h]
  cases complaint <;> rfl

/-- A rule that complains at most once accepts what it does not complain of. -/
theorem accepts_iff_of_verdict {host : Host} {v : Value} {complaint : Option String}
    (h : r.verdict v = .sayIf complaint) : r.Accepts host v ↔ complaint = none := by
  unfold Accepts
  rw [check_of_verdict h]
  cases complaint with
  | none => simp
  | some message => exact iff_of_false (fun h => nomatch congrArg Logged.value h) (fun h => nomatch h)

/-! ### The rule of a field with a mark and without it -/

theorem description_of_make {d : RuleDescription} (h : make d = .ok r) : r.description = d := by
  unfold make at h
  split at h
  all_goals
    obtain ⟨_, -, made⟩ := Except.bind_eq_ok.mp h
    cases made
    rfl

/-- The mark of a rule bears on nothing else that is made with it. -/
theorem make_marked {d : RuleDescription} (h : make d = .ok r) (required : Bool) :
    make { d with required } = .ok ⟨{ d with required }, r.shape⟩ := by
  unfold make at h ⊢
  split at h
  all_goals
    next hd =>
      obtain ⟨s, shape, made⟩ := Except.bind_eq_ok.mp h
      cases made
      first | rw [if_pos hd] | rw [if_neg hd]
      exact Except.bind_eq_ok.mpr ⟨s, shape, rfl⟩

theorem given_unrequired (f : FormField) :
    f.unrequired.validation.elim .null FieldValidation.rule =
      f.validation.elim .null FieldValidation.rule := by
  unfold FormField.unrequired
  cases f.validation <;> rfl

theorem constraintsOf_unrequired (f : FormField) (base : String) :
    constraintsOf f.unrequired base = constraintsOf f base := by
  unfold constraintsOf regexOf FormField.unrequired
  cases f.validation <;> rfl

variable {f g : FormField}
  (own : hostRule? (f.validation.elim .null FieldValidation.rule) = none)

include own in
theorem describe_eq_marked :
    describe f = { describe f.unrequired with required := f.isRequired } := by
  unfold describe
  dsimp only
  rw [given_unrequired, own]
  dsimp only
  split
  · rw [constraintsOf_unrequired]
    rfl
  · rfl

include own in
theorem settlesEmptiness_of_compile (h : compile f = .ok r) : r.settlesEmptiness = true := by
  unfold settlesEmptiness
  rw [description_of_make h]
  unfold describe
  dsimp only
  rw [own]
  dsimp only
  split <;> simp [Value.isNull]

include own in
/-- Whether a field is marked as required decides about empty values, and about no others. -/
theorem requiredness_settles_emptiness_only (same : f.unrequired = g.unrequired) {r' : FieldRule}
    (hf : compile f = .ok r) (hg : compile g = .ok r') (host : Host) (v : Value) :
    (v.isEmpty = true →
      r.check host v = pure (.ok (if f.isRequired then [requiredMessage] else [])) ∧
      r'.check host v = pure (.ok (if g.isRequired then [requiredMessage] else []))) ∧
    (v.isEmpty = false → r.violations host v = r'.violations host v) := by
  have own' : hostRule? (g.validation.elim .null FieldValidation.rule) = none := by
    rw [← given_unrequired g, ← same, given_unrequired f, own]
  have marked : describe g = { describe f with required := g.isRequired } := by
    rw [describe_eq_marked own', describe_eq_marked own, same]
  constructor
  · intro empty
    have required : r.description.required = f.isRequired := by
      rw [description_of_make hf, describe_eq_marked own]
    have required' : r'.description.required = g.isRequired := by
      rw [description_of_make hg, marked]
    rw [check_of_isEmpty (settlesEmptiness_of_compile own hf) host empty, required,
      check_of_isEmpty (settlesEmptiness_of_compile own' hg) host empty, required']
    exact ⟨rfl, rfl⟩
  · intro present
    have shape : r'.shape = r.shape := by
      unfold compile at hg
      rw [marked, make_marked hf] at hg
      cases hg
      rfl
    unfold violations
    rw [verdict_of_present r present, verdict_of_present r' present, shape]

/-- A short name, which may have to be given. -/
def shortName (required : Bool) : FormField :=
  { FormField.plain "a" "text" with required, maxLength := some 3 }

def shortNameRule (required : Bool) : FieldRule where
  description := { fieldId := "a", base := "string", required, constraints := [("max_length", .int 3)] }
  shape := .text none (some 3) false none

theorem compile_shortName (required : Bool) :
    compile (shortName required) = .ok (shortNameRule required) := by
  cases required <;> rfl

theorem shortName_blank_or_long :
    ((shortNameRule true).check Script.host (.str " ") = pure (.ok [requiredMessage]) ∧
      (shortNameRule false).check Script.host (.str " ") = pure (.ok [])) ∧
    (shortNameRule true).violations Script.host (.str "Berta") =
      (shortNameRule false).violations Script.host (.str "Berta") :=
  have law := requiredness_settles_emptiness_only (f := shortName true) (g := shortName false) rfl rfl
    (compile_shortName true) (compile_shortName false) Script.host
  ⟨(law (.str " ")).1 (by decide), (law (.str "Berta")).2 (by decide)⟩

end FieldRule

end FormEngine
