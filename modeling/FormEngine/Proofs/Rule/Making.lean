import FormEngine.Proofs.Except
import FormEngine.Proofs.Schema.Acceptance
import FormEngine.Rule.Compile

/-!
Which rules can be made. The rule that is derived from the type of a field and its limits can, if the
limits of lengths are whole numbers of things and the regular expression is one. Where a rule cannot be
made the fault is none of the form family.
-/

namespace FormEngine

/-- A fault that does not belong to the form family. -/
def Fault.Outside (e : Fault) : Prop := e.report? = none

/-! ### What the making of a rule fails with -/

theorem Pattern.Refusal.fault_outside (r : Pattern.Refusal) : r.fault.Outside := by
  cases r <;> rfl

theorem Pattern.read_raises (text : String) : RaisesOnly Fault.Outside (Pattern.read text) :=
  .mapError Refusal.fault_outside

namespace Datatype

theorem wholeBound_raises (v : Value) : RaisesOnly Fault.Outside (wholeBound v) := by
  unfold wholeBound
  split
  · exact .ok _
  · exact .ok _
  · exact .error rfl

theorem doubleBound_raises (v : Value) : RaisesOnly Fault.Outside (doubleBound v) := by
  unfold doubleBound
  split
  · exact .ok _
  · dsimp only
    split
    · exact .ok _
    · exact .error rfl
  · exact .ok _
  · exact .error rfl

theorem lengthBound_raises (v : Value) : RaisesOnly Fault.Outside (lengthBound v) := by
  unfold lengthBound
  split
  · exact .ok _
  · exact .error rfl

theorem limited_raises (t : Datatype) (test : Test) :
    RaisesOnly Fault.Outside (t.limited test) := by
  unfold limited
  split
  all_goals first
    | exact (wholeBound_raises _).bind fun _ => .ok _
    | exact (doubleBound_raises _).bind fun _ => .ok _
    | exact (lengthBound_raises _).bind fun _ => .ok _
    | exact .ok _

end Datatype

theorem TypeText.read_raises (s : String) : RaisesOnly Fault.Outside (TypeText.read s) := by
  unfold TypeText.read
  split
  · exact .error rfl
  · split
    · exact .error rfl
    · dsimp only
      split
      · exact .ok _
      · next stop _ =>
        cases stop with
        | unknownWord => exact .ok none
        | notAType => exact .error rfl
        | attributeOfType => exact .error rfl
        | unreadable v => exact .error rfl

namespace ExplicitRule

theorem ofWord_raises (word : String) : RaisesOnly Fault.Outside (ofWord word) := by
  refine (TypeText.read_raises word).bind fun t => ?_
  cases t with
  | none => exact .error rfl
  | some t => exact .ok t

theorem typedAttribute_raises (e : String × Table Value) :
    RaisesOnly Fault.Outside (typedAttribute e) := by
  refine (ofWord_raises _).bind fun t => ?_
  refine (RaisesOnly.foldlM t Datatype.limited_raises).bind fun t => ?_
  exact .ok _

theorem model_raises (entries : Table Value) : RaisesOnly Fault.Outside (model entries) := by
  unfold model
  dsimp only
  split
  · exact .error rfl
  · exact (RaisesOnly.mapM fun e _ => typedAttribute_raises e).bind fun _ => .ok _

theorem ofRecord_raises (entries : Table Value) : RaisesOnly Fault.Outside (ofRecord entries) := by
  unfold ofRecord
  split
  · exact .error rfl
  · split
    · exact .error rfl
    · refine RaisesOnly.foldlM _ fun t test => ?_
      refine (Datatype.limited_raises t test).bind fun t => ?_
      split
      · exact .ok _
      · exact .ok _

theorem ofDescription_raises (v : Value) : RaisesOnly Fault.Outside (ofDescription v) := by
  unfold ofDescription
  split
  · exact (ofWord_raises _).map
  · exact (model_raises _).map
  · exact .error rfl

theorem ofValue_raises (v : Value) : RaisesOnly Fault.Outside (ofValue v) := by
  unfold ofValue
  split
  · split
    · exact .ok _
    · exact .ok _
    · exact ofDescription_raises _
    · exact ofDescription_raises _
    · exact ofDescription_raises _
    · exact ofDescription_raises _
    · exact .error rfl
  · exact (ofRecord_raises _).map
  · exact .error rfl
  · split
    · exact .error rfl
    · refine (TypeText.read_raises _).bind fun t => ?_
      cases t with
      | none => exact .ok _
      | some t => exact .ok _

end ExplicitRule

namespace Shape

theorem lengthLimit_raises (v : Value) : RaisesOnly Fault.Outside (lengthLimit v) := by
  unfold lengthLimit
  split
  · exact .ok none
  · exact (Datatype.lengthBound_raises v).map

theorem numberLimit_raises (v : Value) : RaisesOnly Fault.Outside (numberLimit v) := by
  unfold numberLimit
  split
  · exact .ok none
  · exact (Datatype.doubleBound_raises v).map

theorem pattern_raises (v : Value) : RaisesOnly Fault.Outside (pattern v) := by
  unfold pattern
  split
  · exact .ok none
  · split
    · exact (Pattern.read_raises _).map
    · exact .error rfl

theorem ofText_raises (email : Bool) (constraints : Table Value) :
    RaisesOnly Fault.Outside (ofText email constraints) := by
  refine (pattern_raises _).bind fun _ => ?_
  refine (lengthLimit_raises _).bind fun _ => ?_
  refine (lengthLimit_raises _).bind fun _ => ?_
  exact .ok _

theorem ofBase_raises (base : String) (constraints : Table Value) :
    RaisesOnly Fault.Outside (ofBase base constraints) := by
  unfold ofBase
  split
  · exact ofText_raises false constraints
  · exact ofText_raises true constraints
  · exact (numberLimit_raises _).bind fun _ => (numberLimit_raises _).bind fun _ => .ok _
  · exact .ok _
  · exact .ok _
  · exact .ok _
  · exact .ok _
  · exact .ok _
  · exact (lengthLimit_raises _).bind fun _ => (lengthLimit_raises _).bind fun _ => .ok _
  · exact .ok _
  · exact .ok _

end Shape

theorem FieldRule.make_raises (d : RuleDescription) : RaisesOnly Fault.Outside (make d) := by
  unfold make
  split
  · exact (Shape.ofBase_raises d.base d.constraints).bind fun _ => .ok _
  · exact (ExplicitRule.ofValue_raises d.explicit).bind fun _ => .ok _

theorem FormRules.compile_raises (s : FormSchema) : RaisesOnly Fault.Outside (compile s) := by
  unfold compile
  have globally : RaisesOnly Fault.Outside
      ((FieldRule.describeGlobal? s).mapM FieldRule.make) := by
    cases FieldRule.describeGlobal? s with
    | none => exact .ok none
    | some d => exact (FieldRule.make_raises d).map
  refine globally.bind fun _ => ?_
  refine RaisesOnly.bind (.mapM fun f _ => ?_) fun _ => .ok _
  exact (FieldRule.make_raises _).bind fun _ => .ok _

/-! ### When a rule can be made -/

/-- The limit of a length, if there is one, is a number of things that fits into a word. -/
def LengthFits (limit : Option Int) : Prop := ∀ i, limit = some i → 0 ≤ i ∧ i < 2 ^ 64

/-- The bound of a number, if there is one that is whole, is near to a double. -/
def BoundFits (bound : Option Binary64) : Prop :=
  ∀ x, bound = some x → ∀ i, x.toInt? = some i → (Binary64.ofInt i).isFinite = true

/-- The regular expression of a field, if it has one, can be read. -/
def FieldAttributes.PatternReads (f : FieldAttributes) : Prop :=
  ∀ s, f.validation.bind FieldValidation.regex = some s → s ≠ "" → ∃ p, Pattern.read s = .ok p

/-- The limits of a field that bear on values of a type fit into a rule. -/
def FieldAttributes.LimitsFit (f : FieldAttributes) : FieldType → Prop
  | .text | .password | .textarea | .color | .email =>
    f.PatternReads ∧ LengthFits f.minLength ∧ LengthFits f.maxLength
  | .number | .slider => BoundFits f.min ∧ BoundFits f.max
  | .rating => BoundFits f.max
  | .multiselect => LengthFits f.maxSelections
  | .array => LengthFits f.minItems ∧ LengthFits f.maxItems
  | _ => True

/-- A value that is given as a rule makes one. -/
def MakesRule (v : Value) : Prop :=
  match FieldRule.hostRule? v with
  | some d => ∃ r, FieldRule.make d = .ok r
  | none => ∃ r, ExplicitRule.ofValue v = .ok r

/-- The rule given with a field makes one; where there is none, its limits do. -/
def FieldAttributes.Compilable (f : FieldAttributes) : Prop :=
  let given := f.validation.elim .null FieldValidation.rule
  if given.isNull then ∀ t : FieldType, f.type = t.tag → f.LimitsFit t else MakesRule given

structure FormSchema.Compilable (s : FormSchema) : Prop where
  field : ∀ f ∈ s.fields, f.Compilable
  whole : ∀ v, s.validation.elim .null GlobalValidation.rule = v → v.isNull = false → MakesRule v

namespace Shape

theorem exists_lengthLimit_iff {limit : Option Int} :
    (∃ n, lengthLimit (FieldRule.length limit) = .ok n) ↔ LengthFits limit := by
  unfold LengthFits
  cases limit with
  | none => exact iff_of_true ⟨none, rfl⟩ (by simp)
  | some i =>
    have fits : Word.isUnsigned i = true ↔ 0 ≤ i ∧ i < 2 ^ 64 := by
      unfold Word.isUnsigned
      rw [Bool.and_eq_true, decide_eq_true_iff, decide_eq_true_iff]
      rfl
    simp only [Option.some.injEq, forall_eq', ← fits]
    by_cases h : Word.isUnsigned i = true
    · simp [lengthLimit, FieldRule.length, Datatype.lengthBound, Test.count?, h, Value.isNull]
    · simp [lengthLimit, FieldRule.length, Datatype.lengthBound, Test.count?, h, Value.isNull]

theorem exists_numberLimit_iff {bound : Option Binary64} :
    (∃ n, numberLimit (FieldRule.bound bound) = .ok n) ↔ BoundFits bound := by
  unfold BoundFits
  cases bound with
  | none => exact iff_of_true ⟨none, rfl⟩ (by simp)
  | some x =>
    simp only [Option.some.injEq, forall_eq']
    cases h : x.toInt? with
    | none =>
      have kept : FieldRule.bound (some x) = .float x := by simp [FieldRule.bound, h]
      rw [kept]
      exact iff_of_true ⟨some x, rfl⟩ (by simp)
    | some i =>
      have whole : FieldRule.bound (some x) = .int i := by simp [FieldRule.bound, h]
      rw [whole]
      by_cases finite : (Binary64.ofInt i).isFinite = true
      · simp [numberLimit, Datatype.doubleBound, finite, Value.isNull]
      · simp [numberLimit, Datatype.doubleBound, finite, Value.isNull]

theorem exists_pattern_iff {f : FormField} :
    (∃ p, pattern (FieldRule.regexOf f) = .ok p) ↔ f.PatternReads := by
  unfold FieldAttributes.PatternReads FieldRule.regexOf
  cases f.validation.bind FieldValidation.regex with
  | none => exact iff_of_true ⟨none, rfl⟩ (by simp)
  | some s =>
    by_cases empty : s = ""
    · subst empty
      exact iff_of_true ⟨none, rfl⟩ (by simp)
    · simp [pattern, Value.truthy, Value.text?, empty, Except.exists_map_iff]

theorem exists_ofText_iff {email : Bool} {constraints : Table Value} :
    (∃ shape, ofText email constraints = .ok shape) ↔
      (∃ p, pattern (Value.entry constraints "regex") = .ok p) ∧
      (∃ n, lengthLimit (Value.entry constraints "min_length") = .ok n) ∧
      (∃ n, lengthLimit (Value.entry constraints "max_length") = .ok n) := by
  constructor
  · intro made
    obtain ⟨p, hp, made⟩ := Except.exists_bind_iff.mp made
    exact ⟨⟨p, hp⟩, Except.exists_both_iff.mp made⟩
  · rintro ⟨⟨p, hp⟩, lengths⟩
    exact Except.exists_bind_iff.mpr ⟨p, hp, Except.exists_both_iff.mpr lengths⟩

end Shape

theorem Value.eq_null_of_isNull {v : Value} (h : v.isNull = true) : v = .null := by
  cases v <;> first | rfl | cases h

/-- Entries that are null can be left out. -/
theorem Value.entry_filter_isNull {entries : Table Value} (h : entries.keys.Nodup) (key : String) :
    Value.entry (entries.filter fun e => !e.2.isNull) key = Value.entry entries key := by
  unfold Value.entry
  rw [Table.get?_filter h]
  cases entries.get? key with
  | none => rfl
  | some v => cases v <;> rfl

namespace FieldRule

theorem exists_text_iff {f : FormField} {base : String} (hb : base = "string" ∨ base = "email")
    {email : Bool} : (∃ shape, Shape.ofText email (constraintsOf f base) = .ok shape) ↔
      f.PatternReads ∧ LengthFits f.minLength ∧ LengthFits f.maxLength := by
  have keys : (Table.keys [("min_length", length f.minLength), ("max_length", length f.maxLength),
      ("regex", regexOf f)]).Nodup := by simp [Table.keys]
  unfold constraintsOf
  rw [if_pos hb, Shape.exists_ofText_iff, ← Shape.exists_pattern_iff,
    ← Shape.exists_lengthLimit_iff, ← Shape.exists_lengthLimit_iff]
  simp only [Value.entry_filter_isNull keys]
  rfl

/-- A rule for numbers with two bounds, each of which can be left out. -/
theorem exists_number_iff {least most : Value} :
    (∃ shape, Shape.ofBase "number"
      ([("ge", least), ("le", most)].filter fun e => !e.2.isNull) = .ok shape) ↔
    (∃ n, Shape.numberLimit least = .ok n) ∧ ∃ n, Shape.numberLimit most = .ok n := by
  have keys : (Table.keys [("ge", least), ("le", most)]).Nodup := by simp [Table.keys]
  refine (Except.exists_both_iff (f := Shape.number)).trans ?_
  simp only [Value.entry_filter_isNull keys]
  rfl

/-- A rule for lists with two limits, each of which can be left out. -/
theorem exists_list_iff {least most : Value} :
    (∃ shape, Shape.ofBase "list"
      ([("min_length", least), ("max_length", most)].filter fun e => !e.2.isNull) = .ok shape) ↔
    (∃ n, Shape.lengthLimit least = .ok n) ∧ ∃ n, Shape.lengthLimit most = .ok n := by
  have keys : (Table.keys [("min_length", least), ("max_length", most)]).Nodup := by
    simp [Table.keys]
  refine (Except.exists_both_iff (f := Shape.list)).trans ?_
  simp only [Value.entry_filter_isNull keys]
  rfl

/-! ### The constraints for each type -/

theorem constraintsOf_number {f : FormField}
    (h : f.type = FieldType.number.tag ∨ f.type = FieldType.slider.tag) :
    constraintsOf f "number" =
      [("ge", bound f.min), ("le", bound f.max)].filter fun e => !e.2.isNull := by
  rcases h with h | h <;> simp [constraintsOf, h, FieldType.tag]

theorem constraintsOf_rating {f : FormField} (h : f.type = FieldType.rating.tag) :
    constraintsOf f "number" =
      [("ge", .int 0), ("le", bound f.max)].filter fun e => !e.2.isNull := by
  simp [constraintsOf, h]

theorem constraintsOf_multiselect {f : FormField} (h : f.type = FieldType.multiselect.tag) :
    constraintsOf f "list" =
      [("min_length", length none), ("max_length", length f.maxSelections)].filter
        fun e => !e.2.isNull := by
  simp [constraintsOf, h, FieldType.tag, length, List.filter_cons, Value.isNull]

theorem constraintsOf_array {f : FormField} (h : f.type = FieldType.array.tag) :
    constraintsOf f "list" =
      [("min_length", length f.minItems), ("max_length", length f.maxItems)].filter
        fun e => !e.2.isNull := by
  simp [constraintsOf, h, FieldType.tag]

/-- A rule can be derived from a field just if the limits fit that bear on its type. -/
theorem exists_ofBase_iff (f : FormField) :
    (∃ shape, Shape.ofBase (FieldType.ruleBase f.type)
      (constraintsOf f (FieldType.ruleBase f.type)) = .ok shape) ↔
    ∀ t : FieldType, f.type = t.tag → f.LimitsFit t := by
  rw [FieldType.forall_tag_iff]
  cases h : FieldType.ofTag? f.type with
  | none =>
    have base : FieldType.ruleBase f.type = "any" := by simp [FieldType.ruleBase, h]
    rw [base]
    exact iff_of_true ⟨.anything, rfl⟩ (by simp)
  | some t =>
    have tag := FieldType.ofTag?_eq_some.mp h
    have base : FieldType.ruleBase f.type = FieldType.ruleBase t.tag := by rw [tag]
    simp only [Option.some.injEq, forall_eq']
    rw [base]
    cases t with
    | text | password | textarea | color => exact exists_text_iff (.inl rfl)
    | email => exact exists_text_iff (.inr rfl)
    | number =>
      refine Iff.trans ?_ (and_congr Shape.exists_numberLimit_iff Shape.exists_numberLimit_iff)
      rw [← exists_number_iff, ← constraintsOf_number (.inl tag)]
      rfl
    | slider =>
      refine Iff.trans ?_ (and_congr Shape.exists_numberLimit_iff Shape.exists_numberLimit_iff)
      rw [← exists_number_iff, ← constraintsOf_number (.inr tag)]
      rfl
    | rating =>
      have zero : ∃ n, Shape.numberLimit (.int 0) = .ok n := ⟨_, rfl⟩
      refine Iff.trans ?_ ((and_iff_right zero).trans Shape.exists_numberLimit_iff)
      rw [← exists_number_iff, ← constraintsOf_rating tag]
      rfl
    | multiselect =>
      have none : ∃ n, Shape.lengthLimit (length none) = .ok n := ⟨_, rfl⟩
      refine Iff.trans ?_ ((and_iff_right none).trans Shape.exists_lengthLimit_iff)
      rw [← exists_list_iff, ← constraintsOf_multiselect tag]
      rfl
    | array =>
      refine Iff.trans ?_ (and_congr Shape.exists_lengthLimit_iff Shape.exists_lengthLimit_iff)
      rw [← exists_list_iff, ← constraintsOf_array tag]
      rfl
    | _ => exact iff_of_true ⟨_, rfl⟩ trivial

theorem exists_make_derived_iff {d : RuleDescription} (h : d.explicit.isNull = true) :
    (∃ r, make d = .ok r) ↔ ∃ shape, Shape.ofBase d.base d.constraints = .ok shape := by
  unfold make
  rw [if_pos h]
  exact Except.exists_return_iff

theorem exists_make_explicit_iff {d : RuleDescription} (h : d.explicit.isNull = false) :
    (∃ r, make d = .ok r) ↔ ∃ r, ExplicitRule.ofValue d.explicit = .ok r := by
  unfold make
  rw [if_neg (by simp [h])]
  exact Except.exists_return_iff

/-- The rule of a field can be made just if what the field declares about its values makes one. -/
theorem exists_compile_iff (f : FormField) : (∃ r, compile f = .ok r) ↔ f.Compilable := by
  unfold compile describe FieldAttributes.Compilable
  dsimp only
  generalize f.validation.elim .null FieldValidation.rule = given
  cases null : given.isNull with
  | true =>
    obtain rfl := Value.eq_null_of_isNull null
    rw [if_pos rfl, ← exists_ofBase_iff]
    exact exists_make_derived_iff rfl
  | false =>
    unfold MakesRule
    rw [if_neg Bool.false_ne_true]
    cases hostRule? given with
    | some d => exact Iff.rfl
    | none =>
      dsimp only
      rw [if_neg Bool.false_ne_true]
      exact exists_make_explicit_iff null

/-- The rule for all values together can be made, if there is one, just if what is given makes it. -/
theorem exists_describeGlobal_iff (s : FormSchema) :
    (∃ r, (describeGlobal? s).mapM make = .ok r) ↔
      ∀ v, s.validation.elim .null GlobalValidation.rule = v → v.isNull = false → MakesRule v := by
  unfold describeGlobal?
  dsimp only
  generalize s.validation.elim .null GlobalValidation.rule = given
  rw [forall_eq']
  cases null : given.isNull with
  | true =>
    rw [if_pos rfl]
    exact iff_of_true ⟨none, rfl⟩ (by simp)
  | false =>
    unfold MakesRule
    rw [if_neg Bool.false_ne_true]
    refine Except.exists_map_iff.trans ?_
    cases hostRule? given with
    | some d => simp
    | none => simpa using exists_make_explicit_iff null

end FieldRule

/-- The rules of a form can be made just if each of them can. -/
theorem FormRules.exists_compile_iff (s : FormSchema) :
    (∃ rules, compile s = .ok rules) ↔ s.Compilable := by
  unfold compile
  rw [Except.exists_both_iff, FieldRule.exists_describeGlobal_iff, Except.exists_mapM_iff]
  have field (f : FormField) : (∃ e, (do return (f.id, ← FieldRule.compile f)) = .ok e) ↔
      f.Compilable :=
    Except.exists_return_iff.trans (FieldRule.exists_compile_iff f)
  simp only [field]
  exact ⟨fun ⟨whole, fields⟩ => ⟨fields, whole⟩, fun ⟨fields, whole⟩ => ⟨whole, fields⟩⟩

end FormEngine
