import FormEngine.Proofs.Number.Exact
import FormEngine.Proofs.Pattern.Search
import FormEngine.Proofs.Rule.Making
import FormEngine.Proofs.Rule.Presence

/-!
What a rule that is derived from a field accepts. The limits that the field declares, and that bear on
values of its type, come through the constraints and the shape of the rule as they are declared.
-/

namespace FormEngine

/-- A number lies within limits, each of which can be left out. -/
def Within (least most : Option Int) (n : Int) : Prop :=
  (∀ m, least = some m → m ≤ n) ∧ ∀ m, most = some m → n ≤ m

/-- The regular expression of a field has a match in a text; an empty one counts as none. -/
def FieldAttributes.PatternOccurs (f : FieldAttributes) (s : String) : Prop :=
  ∀ text, f.validation.bind FieldValidation.regex = some text → text ≠ "" →
    ∃ p, Pattern.read text = .ok p ∧
      ∃ before after, s.toList = before ++ after ∧ p.MatchesAt before after

section Complaints

variable {least most : Option Nat} {n : Nat}

theorem within_natCast_iff : Within (least.map Nat.cast) (most.map Nat.cast) n ↔
    (∀ m, least = some m → m ≤ n) ∧ ∀ m, most = some m → n ≤ m := by
  simp [Within]

theorem filter_lt_eq_none_iff : least.filter (n < ·) = none ↔ ∀ m, least = some m → m ≤ n := by
  simp [Option.filter_eq_none_iff]

theorem filter_gt_eq_none_iff : most.filter (· < n) = none ↔ ∀ m, most = some m → n ≤ m := by
  simp [Option.filter_eq_none_iff]

theorem Limits.textIssue?_eq_none_iff {s : String} :
    textIssue? least most s = none ↔ Within (least.map Nat.cast) (most.map Nat.cast) s.length := by
  unfold textIssue? tooShort? tooLong?
  rw [Option.or_eq_none_iff, Option.map_eq_none_iff, Option.map_eq_none_iff, filter_lt_eq_none_iff,
    filter_gt_eq_none_iff, within_natCast_iff]

end Complaints

theorem Shape.textIssue?_eq_none_iff {least most : Option Nat} {email : Bool} {p : Option Pattern}
    {s : String} : textIssue? least most email p s = none ↔
      Within (least.map Nat.cast) (most.map Nat.cast) s.length ∧
      (email = true → Email.accepts s = true) ∧ ∀ q, p = some q → q.occursIn s = true := by
  unfold textIssue?
  dsimp only
  rw [Option.or_eq_none_iff, Option.or_eq_none_iff, Limits.textIssue?_eq_none_iff, and_assoc]
  refine and_congr_right fun _ => and_congr ?_ ?_
  · cases email <;> simp
  · cases p <;> simp

namespace Shape

theorem lengthLimit_eq_ok {limit : Option Int} {n : Option Nat}
    (h : lengthLimit (FieldRule.length limit) = .ok n) : limit = n.map Nat.cast := by
  cases limit with
  | none =>
    cases h
    rfl
  | some i =>
    have made : lengthLimit (.int i) =
        if Word.isUnsigned i then .ok (some i.toNat) else .error .badRule := by
      cases unsigned : Word.isUnsigned i <;>
        simp [lengthLimit, Datatype.lengthBound, Test.count?, Value.isNull, unsigned]
    change lengthLimit (.int i) = _ at h
    rw [made] at h
    split at h
    · next unsigned =>
      cases h
      have nonneg : 0 ≤ i := of_decide_eq_true (Bool.and_eq_true _ _ ▸ unsigned).1
      exact congrArg some (Int.toNat_of_nonneg nonneg).symm
    · cases h

theorem pattern_eq_ok {f : FormField} {p : Option Pattern}
    (h : pattern (FieldRule.regexOf f) = .ok p) (s : String) :
    (∀ q, p = some q → q.occursIn s = true) ↔ f.PatternOccurs s := by
  unfold FieldAttributes.PatternOccurs
  unfold FieldRule.regexOf at h
  cases regex : f.validation.bind FieldValidation.regex with
  | none =>
    rw [regex] at h
    cases h
    simp
  | some text =>
    rw [regex] at h
    by_cases empty : text = ""
    · subst empty
      cases h
      simp
    · have read : some <$> Pattern.read text = .ok p := by
        simpa [pattern, Value.truthy, Value.text?, empty] using h
      obtain ⟨q, hq, made⟩ := Except.bind_eq_ok.mp read
      cases made
      simp [empty, hq, Pattern.occursIn_iff]

end Shape

namespace FieldRule

variable {f : FormField} {shape : Shape}

theorem shape_eq_text {base : String} {email : Bool} (hb : base = "string" ∨ base = "email")
    (h : Shape.ofText email (constraintsOf f base) = .ok shape) :
    ∃ least most p, shape = .text least most email p ∧ f.minLength = least.map Nat.cast ∧
      f.maxLength = most.map Nat.cast ∧ Shape.pattern (regexOf f) = .ok p := by
  have keys : (Table.keys [("min_length", length f.minLength), ("max_length", length f.maxLength),
      ("regex", regexOf f)]).Nodup := by simp [Table.keys]
  unfold constraintsOf at h
  rw [if_pos hb] at h
  obtain ⟨p, hp, h⟩ := Except.bind_eq_ok.mp h
  obtain ⟨least, hl, h⟩ := Except.bind_eq_ok.mp h
  obtain ⟨most, hm, h⟩ := Except.bind_eq_ok.mp h
  rw [Value.entry_filter_isNull keys] at hp hl hm
  cases h
  exact ⟨least, most, p, rfl, Shape.lengthLimit_eq_ok hl, Shape.lengthLimit_eq_ok hm, hp⟩

section Derived

variable (derived : (f.validation.elim .null FieldValidation.rule).isNull = true)

include derived in
theorem compile_derived : compile f = (do
    return ⟨describe f, ← Shape.ofBase (FieldType.ruleBase f.type)
      (constraintsOf f (FieldType.ruleBase f.type))⟩) := by
  unfold compile describe
  dsimp only
  rw [Value.eq_null_of_isNull derived]
  rfl

include derived in
theorem shape_of_compile {r : FieldRule} (compiles : compile f = .ok r) {type : String}
    (tag : f.type = type) :
    Shape.ofBase (FieldType.ruleBase type) (constraintsOf f (FieldType.ruleBase type)) =
      .ok r.shape := by
  rw [compile_derived derived, tag] at compiles
  obtain ⟨shape, made, rest⟩ := Except.bind_eq_ok.mp compiles
  cases rest
  exact made

end Derived

/-! ### What the rules accept -/

variable {r : FieldRule} (host : Host)

theorem verdict_text {least most : Option Nat} {email : Bool} {p : Option Pattern}
    (shape : r.shape = .text least most email p) {v : Value} (present : v.isEmpty = false) :
    r.verdict v = .sayIf (v.text?.elim (some "Input should be a valid string")
      (Shape.textIssue? least most email p)) := by
  rw [verdict_of_present r present, shape]
  unfold Shape.verdict
  cases v.text? <;> rfl

theorem accepts_text_iff (email : Bool) {base : String} (hb : base = "string" ∨ base = "email")
    (h : Shape.ofText email (constraintsOf f base) = .ok r.shape) {v : Value}
    (present : v.isEmpty = false) : r.Accepts host v ↔
      ∃ s, v.text? = some s ∧ Within f.minLength f.maxLength s.length ∧ f.PatternOccurs s ∧
        (email = true → Email.accepts s = true) := by
  obtain ⟨least, most, p, shape, hl, hm, hp⟩ := shape_eq_text hb h
  rw [accepts_iff_of_verdict (verdict_text shape present)]
  cases v.text? with
  | none => simp
  | some s =>
    rw [hl, hm]
    simp [Shape.textIssue?_eq_none_iff, Shape.pattern_eq_ok hp, and_comm]

/-- A field with limits of every kind, of which its type picks its own. -/
def limited (type : String) : FormField :=
  { FormField.plain "a" type with
    minLength := some 2, maxLength := some 3, minItems := some 1, maxItems := some 2,
    min := some (.ofInt 1), max := some (.ofInt 5) }

end FieldRule

end FormEngine
