import FormEngine.Proofs.Number.Comparison
import FormEngine.Proofs.Schema.Dependents
import FormEngine.Proofs.Schema.Specimen

/-!
Which schemas nothing is found wrong with: those that are well formed. What that means is said apart
from the search for errors: of a field by induction over the fields nested in it, of a schema by its
fields, their ids, and the conditions of its fields.
-/

namespace FormEngine

/-- What a type asks of the attributes of its fields, nested fields apart. -/
def FieldAttributes.Suits (f : FieldAttributes) : FieldType → Prop
  | .select | .multiselect =>
    ∃ choices, f.options = some choices ∧
      ∀ d, choices = .dynamic d → d.source = .api → ∃ url, d.url = some url ∧ url ≠ ""
  | .radio => ∃ options, f.options = some (.fixed options)
  | .slider => ∃ low high, f.min = some low ∧ f.max = some high ∧ low.compare? high = some .lt
  | .rating => ∃ high, f.max = some high ∧ (Binary64.zero false).compare? high = some .lt
  | _ => True

/-- A field with all that its type asks for. The items of a list and the members of a group have to be
well formed themselves, and the members need ids of their own. -/
inductive FormField.WellFormed : FormField → Prop
  | intro {f : FormField} (id : f.id ≠ "") (label : f.label ≠ "") (type : f.type ≠ "")
      (suits : ∀ t : FieldType, f.type = t.tag → f.Suits t)
      (hasItem : f.type = FieldType.array.tag → f.itemSchema ≠ none)
      (item : ∀ i, f.type = FieldType.array.tag → f.itemSchema = some i → i.WellFormed)
      (hasMembers : f.type = FieldType.object.tag → f.fields ≠ none)
      (member : ∀ ms, f.type = FieldType.object.tag → f.fields = some ms →
        ∀ m ∈ ms, m.WellFormed)
      (distinct : ∀ ms, f.type = FieldType.object.tag → f.fields = some ms →
        (ms.map fun m => m.id).Nodup) :
      f.WellFormed

/-- A property of the attributes of a field and of all fields nested in it. -/
inductive FormField.Throughout (p : FieldAttributes → Prop) : FormField → Prop
  | intro {f : FormField} (own : p f.toFieldAttributes)
      (item : ∀ i, f.itemSchema = some i → i.Throughout p)
      (member : ∀ ms, f.fields = some ms → ∀ m ∈ ms, m.Throughout p) :
      f.Throughout p

/-- The bounds of a field, as far as it has any, are no NaN. -/
def FieldAttributes.BoundsComparable (f : FieldAttributes) : Prop :=
  ∀ x, f.min = some x ∨ f.max = some x → x.isNaN = false

/-- A rule that refers to one of some ids, by one of the known operators; a custom one has a
predicate. -/
structure ConditionalRule.WellFormed (ids : List String) (r : ConditionalRule) : Prop where
  refers : r.field ∈ ids
  operator : ∃ o : Operator, r.operator = some o.word
  predicate : r.operator = some Operator.custom.word → r.predicate ≠ none

structure FormSchema.WellFormed (s : FormSchema) : Prop where
  id : s.id ≠ ""
  field : ∀ f ∈ s.fields, f.WellFormed
  distinct : s.fieldIds.Nodup
  rule : ∀ f ∈ s.fields, ∀ c, f.conditional = some c →
    ∀ e : Effect, ∀ r ∈ c.rules e, r.WellFormed s.fieldIds

namespace Wellformed

theorem onlyIf_clean {condition : Prop} [Decidable condition] {found : Findings} :
    (if condition then found else {}).errors = [] ↔ (condition → found.errors = []) := by
  split <;> simp [*]

/-- A limit is above another just if it is not found to be missing or not above it. -/
theorem notAbove_eq_false {low high : Binary64} (hl : low.isNaN = false)
    (hh : high.isNaN = false) : notAbove low high = false ↔ low.compare? high = some .lt := by
  have comparable := Binary64.compare?_isSome hl hh
  unfold notAbove
  rw [← Binary64.compare?_swap low high]
  cases h : low.compare? high with
  | none => simp [h] at comparable
  | some o => cases o <;> simp [Ordering.swap]

theorem typeFindings_clean {f : FieldAttributes} (comparable : f.BoundsComparable) {path : String}
    {warnUnknown : Bool} : (typeFindings f path warnUnknown).errors = [] ↔
      ∀ t : FieldType, f.type = t.tag → f.Suits t := by
  rw [FieldType.forall_tag_iff]
  cases h : FieldType.ofTag? f.type with
  | none => simp [typeFindings, h]
  | some t =>
    simp only [Option.some.injEq, forall_eq']
    unfold typeFindings FieldAttributes.Suits
    rw [h]
    cases t with
    | select | multiselect =>
      cases hc : f.options with
      | none => simp [error]
      | some choices =>
        cases choices with
        | fixed _ => simp
        | dynamic d => cases hu : d.url <;> simp [errorIf_clean, hu]
    | radio =>
      cases hc : f.options with
      | none => simp [error]
      | some choices => cases choices <;> simp [error]
    | slider =>
      cases hl : f.min with
      | none => simp [error]
      | some low =>
        cases hh : f.max with
        | none => simp [error]
        | some high =>
          simp [errorIf_clean,
            notAbove_eq_false (comparable low (.inl hl)) (comparable high (.inr hh))]
    | rating =>
      cases hh : f.max with
      | none => simp [errorIf_clean]
      | some high =>
        have zero : (Binary64.zero false).isNaN = false := rfl
        simp [errorIf_clean, notAbove_eq_false zero (comparable high (.inr hh))]
    | _ => simp

/-- Of ids none of which is empty none is repeated just if all are distinct. -/
theorem duplicateErrors_clean {fields : List FormField} (named : ∀ f ∈ fields, f.id ≠ "") :
    duplicateErrors (fields.map fun f => f.id) = [] ↔ (fields.map fun f => f.id).Nodup := by
  rw [duplicateErrors_eq_nil, List.filter_eq_self.mpr]
  intro id hid
  obtain ⟨f, hf, rfl⟩ := List.mem_map.mp hid
  simpa using named f hf

end Wellformed

theorem FormField.WellFormed.id_ne {f : FormField} (h : f.WellFormed) : f.id ≠ "" := by
  cases h with
  | intro id => exact id

/-- What it takes for a field to be well formed, in the order in which it is looked at. -/
theorem FormField.wellFormed_iff {f : FormField} : f.WellFormed ↔
    (f.id ≠ "" ∧ f.label ≠ "" ∧ f.type ≠ "") ∧ (∀ t : FieldType, f.type = t.tag → f.Suits t) ∧
      (f.type = FieldType.array.tag →
        f.itemSchema ≠ none ∧ ∀ i, f.itemSchema = some i → i.WellFormed) ∧
      (f.type = FieldType.object.tag → f.fields ≠ none ∧ ∀ ms, f.fields = some ms →
        (∀ m ∈ ms, m.WellFormed) ∧ (ms.map fun m => m.id).Nodup) := by
  constructor
  · rintro ⟨id, label, type, suits, hasItem, item, hasMembers, member, distinct⟩
    exact ⟨⟨id, label, type⟩, suits, fun array => ⟨hasItem array, fun i => item i array⟩,
      fun object => ⟨hasMembers object, fun ms hms => ⟨member ms object hms, distinct ms object hms⟩⟩⟩
  · rintro ⟨⟨id, label, type⟩, suits, array, object⟩
    exact .intro id label type suits (fun h => (array h).1) (fun i h => (array h).2 i)
      (fun h => (object h).1) (fun ms h hms => ((object h).2 ms hms).1)
      fun ms h hms => ((object h).2 ms hms).2

namespace Wellformed

mutual

/-- Nothing is found wrong with a field just if it is well formed. -/
theorem fieldFindings_clean {warnUnknown : Bool} : (f : FormField) →
    f.Throughout FieldAttributes.BoundsComparable → (path : String) →
      ((fieldFindings warnUnknown path f).errors = [] ↔ f.WellFormed)
  | ⟨f, itemSchema, fields⟩, comparable, path => by
    obtain ⟨own, item, member⟩ := comparable
    rw [FormField.wellFormed_iff]
    unfold fieldFindings
    split
    · next empty =>
      -- a field without a type is looked at no further
      have untyped : f.type = "" := String.isEmpty_iff.mp empty
      simp [presence_clean, untyped]
    · simp only [errors_append, List.append_eq_nil_iff, and_assoc, presence_clean,
        typeFindings_clean own, onlyIf_clean, beq_iff_eq, itemFindings_clean itemSchema item path,
        groupFindings_clean fields member path]

theorem itemFindings_clean {warnUnknown : Bool} : (itemSchema : Option FormField) →
    (∀ i, itemSchema = some i → i.Throughout FieldAttributes.BoundsComparable) → (path : String) →
      ((itemFindings warnUnknown path itemSchema).errors = [] ↔
        itemSchema ≠ none ∧ ∀ i, itemSchema = some i → i.WellFormed)
  | none, _, path => by simp [itemFindings, error]
  | some f, comparable, path => by
    unfold itemFindings
    rw [fieldFindings_clean f (comparable f rfl)]
    simp

theorem groupFindings_clean {warnUnknown : Bool} : (fields : Option (List FormField)) →
    (∀ ms, fields = some ms → ∀ m ∈ ms, m.Throughout FieldAttributes.BoundsComparable) →
    (path : String) → ((groupFindings warnUnknown path fields).errors = [] ↔
      fields ≠ none ∧ ∀ ms, fields = some ms →
        (∀ m ∈ ms, m.WellFormed) ∧ (ms.map fun m => m.id).Nodup)
  | none, _, path => by simp [groupFindings, error]
  | some fs, comparable, path => by
    unfold groupFindings
    rw [errors_append, List.append_eq_nil_iff, memberFindings_clean fs (comparable fs rfl) path 0,
      List.map_eq_nil_iff]
    constructor
    · rintro ⟨wellFormed, distinct⟩
      refine ⟨by simp, ?_⟩
      rintro ms ⟨⟩
      exact ⟨wellFormed, (duplicateErrors_clean fun m hm => (wellFormed m hm).id_ne).mp distinct⟩
    · rintro ⟨-, h⟩
      obtain ⟨wellFormed, distinct⟩ := h fs rfl
      exact ⟨wellFormed, (duplicateErrors_clean fun m hm => (wellFormed m hm).id_ne).mpr distinct⟩

theorem memberFindings_clean {warnUnknown : Bool} : (fields : List FormField) →
    (∀ m ∈ fields, m.Throughout FieldAttributes.BoundsComparable) → (path : String) → (n : Nat) →
      ((memberFindings warnUnknown path n fields).errors = [] ↔ ∀ m ∈ fields, m.WellFormed)
  | [], _, _, _ => by simp [memberFindings]
  | f :: fs, comparable, path, n => by
    obtain ⟨first, others⟩ := List.forall_mem_cons.mp comparable
    unfold memberFindings
    rw [errors_append, List.append_eq_nil_iff, fieldFindings_clean f first,
      memberFindings_clean fs others, List.forall_mem_cons]

end

/-- Nothing is found wrong with a rule just if it is well formed, where no id that it can refer to is
empty. -/
theorem ruleErrors_eq_nil {ids : List String} {place : String} {r : ConditionalRule}
    (named : ∀ id ∈ ids, id ≠ "") : ruleErrors ids place r = [] ↔ r.WellFormed ids := by
  have field : (if r.field.isEmpty then [place ++ ".field is required"]
      else if !ids.contains r.field then
        [place ++ ".field references unknown field: " ++ r.field]
      else []) = [] ↔ r.field ∈ ids := by
    by_cases empty : r.field = ""
    · have absent : "" ∉ ids := fun hm => named "" hm rfl
      simp [empty, absent]
    · by_cases hm : r.field ∈ ids <;> simp [empty, hm]
  have operator : (if (r.operator.getD "").isEmpty then [place ++ ".operator is required"]
      else if (Operator.ofWord? (r.operator.getD "")).isNone then
        [place ++ ".operator '" ++ r.operator.getD "" ++ "' is not supported"]
      else []) = [] ↔ ∃ o : Operator, r.operator = some o.word := by
    cases hr : r.operator with
    | none => simp
    | some word =>
      by_cases empty : word = ""
      · have wordless : ∀ o : Operator, "" ≠ o.word := by
          intro o
          cases o <;> decide
        simp [empty, wordless]
      · cases ho : Operator.ofWord? word with
        | none =>
          have unknown : ∀ o : Operator, word ≠ o.word := by
            intro o same
            rw [Operator.ofWord?_eq_some.mpr same] at ho
            cases ho
          simp [ho, empty, unknown]
        | some o => simpa [ho, empty] using ⟨o, Operator.ofWord?_eq_some.mp ho⟩
  have predicate : (if r.operator.getD "" == Operator.custom.word && r.predicate.isNone then
        [place ++ " with custom operator requires custom_predicate"]
      else []) = [] ↔ (r.operator = some Operator.custom.word → r.predicate ≠ none) := by
    cases hr : r.operator with
    | none => simp [Operator.word]
    | some word => cases hp : r.predicate <;> simp
  unfold ruleErrors
  simp only [List.append_eq_nil_iff, field, operator, predicate]
  constructor
  · rintro ⟨⟨refers, operator⟩, predicate⟩
    exact ⟨refers, operator, predicate⟩
  · rintro ⟨refers, operator, predicate⟩
    exact ⟨⟨refers, operator⟩, predicate⟩

/-- Nothing is found wrong with the conditions of a field just if all their rules are well formed. -/
theorem conditionErrors_eq_nil {ids : List String} {c : Conditions} (named : ∀ id ∈ ids, id ≠ "") :
    conditionErrors ids c = [] ↔ ∀ e : Effect, ∀ r ∈ c.rules e, r.WellFormed ids := by
  have list (word : String) (rules : List ConditionalRule) :
      (rules.zipIdx.flatMap fun r => ruleErrors ids (rulePlace word r.2) r.1) = [] ↔
        ∀ r ∈ rules, r.WellFormed ids := by
    rw [List.flatMap_eq_nil_iff]
    constructor
    · intro clean r hr
      obtain ⟨n, hn, rfl⟩ := List.mem_iff_getElem.mp hr
      have indexed : (rules[n], n) ∈ rules.zipIdx :=
        List.mk_mem_zipIdx_iff_getElem?.mpr (List.getElem?_eq_getElem hn)
      exact (ruleErrors_eq_nil named).mp (clean _ indexed)
    · intro wellFormed r hr
      exact (ruleErrors_eq_nil named).mpr (wellFormed r.1 (List.fst_mem_of_mem_zipIdx hr))
  unfold conditionErrors
  rw [List.flatMap_eq_nil_iff]
  simp only [list]
  constructor
  · intro listed e r hr
    exact listed _ (mem_lists hr) r hr
  · intro wellFormed l hl r hr
    obtain ⟨e, -, rfl⟩ := List.mem_map.mp (List.mem_filter.mp hl).1
    exact wellFormed e r hr

/-- What holds of all entries that are fields, wherever they stand. -/
theorem forall_fields {fields : List FormField} {p : Entry × Nat → Prop} {q : FormField → Prop}
    (h : ∀ f ∈ fields, ∀ n, p (.field f, n) ↔ q f) :
    (∀ e ∈ (fields.map Entry.field).zipIdx, p e) ↔ ∀ f ∈ fields, q f := by
  constructor
  · intro all f hf
    obtain ⟨n, hn, he⟩ := List.mem_iff_getElem.mp (List.mem_map_of_mem (f := Entry.field) hf)
    have indexed : (Entry.field f, n) ∈ (fields.map Entry.field).zipIdx :=
      List.mk_mem_zipIdx_iff_getElem?.mpr (he ▸ List.getElem?_eq_getElem hn)
    exact (h f hf n).mp (all _ indexed)
  · rintro all ⟨e, n⟩ he
    obtain ⟨f, hf, rfl⟩ := List.mem_map.mp (List.fst_mem_of_mem_zipIdx he)
    exact (h f hf n).mpr (all f hf)

/-- Nothing is found wrong with the fields of a schema just if they are well formed, distinct, and
subject to well formed rules only. -/
theorem entriesFindings_clean {warnUnknown : Bool} {fields : List FormField}
    (comparable : ∀ f ∈ fields, f.Throughout FieldAttributes.BoundsComparable) :
    (entriesFindings warnUnknown (fields.map Entry.field).zipIdx).errors = [] ↔
      (∀ f ∈ fields, f.WellFormed) ∧ (fields.map fun f => f.id).Nodup ∧
        ∀ f ∈ fields, ∀ c, f.conditional = some c → ∀ e : Effect, ∀ r ∈ c.rules e,
          r.WellFormed (fields.map fun f => f.id) := by
  have structural : (Findings.concat ((fields.map Entry.field).zipIdx.map fun e =>
      e.1.findings warnUnknown (entryPath e.2))).errors = [] ↔ ∀ f ∈ fields, f.WellFormed := by
    unfold Findings.concat
    dsimp only
    rw [List.flatMap_map, List.flatMap_eq_nil_iff]
    exact forall_fields fun f hf n => fieldFindings_clean f (comparable f hf) (entryPath n)
  unfold entriesFindings
  dsimp only
  rw [errors_append, errors_append, List.append_eq_nil_iff, List.append_eq_nil_iff, structural,
    and_assoc]
  refine and_congr_right fun wellFormed => ?_
  have listed : ((fields.map Entry.field).zipIdx.filterMap fun e => e.1.id?) =
      fields.map fun f => f.id :=
    (filterMap_fields Entry.id? fields).trans (congrFun List.filterMap_eq_map fields)
  have named : ∀ f ∈ fields, f.id ≠ "" := fun f hf => (wellFormed f hf).id_ne
  have ids : ∀ id ∈ fields.map fun f => f.id, id ≠ "" := by
    intro id hid
    obtain ⟨f, hf, rfl⟩ := List.mem_map.mp hid
    exact named f hf
  have available : ((fields.map fun f => f.id).filter fun id => !id.isEmpty) =
      fields.map fun f => f.id := List.filter_eq_self.mpr fun id hid => by simpa using ids id hid
  rw [listed, duplicateErrors_clean named, available, List.flatMap_eq_nil_iff]
  refine and_congr_right fun _ => forall_fields fun f _ n => ?_
  unfold Entry.conditionErrors
  dsimp only
  cases f.conditional with
  | none => simp
  | some c => simpa using conditionErrors_eq_nil ids

end Wellformed

/-- Nothing is found wrong with a schema whose bounds are no NaN just if it is well formed. -/
theorem FormSchema.accepted_iff (environment : Environment) (s : FormSchema)
    (comparable : ∀ f ∈ s.fields, f.Throughout FieldAttributes.BoundsComparable) :
    ((SchemaSource.loaded s).report environment).errors = [] ↔ s.WellFormed := by
  have named : (if s.id.isEmpty then ["Schema id is required"] else []) = [] ↔ s.id ≠ "" := by
    by_cases empty : s.id = "" <;> simp [empty]
  unfold SchemaSource.report Wellformed.reportLoaded
  dsimp only
  rw [List.append_eq_nil_iff, named, Wellformed.entriesFindings_clean comparable]
  constructor
  · rintro ⟨id, field, distinct, rule⟩
    exact ⟨id, field, distinct, rule⟩
  · rintro ⟨id, field, distinct, rule⟩
    exact ⟨id, field, distinct, rule⟩

/-- A schema with a track inside a group, and a field that is shown by its own value. -/
def FormSchema.tracked : FormSchema :=
  .plain [
    { FormField.plain "g" "object" with
      fields := some [{ FormField.plain "g" "slider" with
        min := some (.infinite true), max := some (.zero false) }] },
    { FormField.plain "a" "text" with
      conditional := some ⟨some [⟨"a", some "is_empty", .null, none⟩], none, none, none, none⟩ }]

theorem FormSchema.tracked_wellFormed :
    (∀ f ∈ tracked.fields, f.Throughout FieldAttributes.BoundsComparable) ∧
      tracked.WellFormed := by
  have comparable : ∀ f ∈ tracked.fields, f.Throughout FieldAttributes.BoundsComparable := by
    simp only [tracked, plain, List.forall_mem_cons]
    refine ⟨.intro (by rintro x (h | h) <;> cases h) (by rintro i ⟨⟩) ?_,
      .intro (by rintro x (h | h) <;> cases h) (by rintro i ⟨⟩) (by rintro ms ⟨⟩), by simp⟩
    rintro ms ⟨⟩ m hm
    obtain rfl := List.mem_singleton.mp hm
    exact .intro (by rintro x (h | h) <;> cases h <;> rfl) (by rintro i ⟨⟩) (by rintro ms ⟨⟩)
  exact ⟨comparable, (accepted_iff [] tracked comparable).mp (by decide +kernel)⟩

end FormEngine
