import FormEngine.Proofs.Schema.Loading
import FormEngine.Proofs.Schema.Parsing

/-!
The parts of a parsed schema. Each of them is found by another pass and looked up under the id of a
field; that they belong together is due to the ids, of which a schema without errors has one for each
field.
-/

namespace FormEngine

/-- The fields that a source declares, in order: those of a schema that is loaded, or one for each entry
of the list in the data. -/
inductive SchemaSource.Declares : SchemaSource → List FormField → Prop
  | loaded (s : FormSchema) : Declares (.loaded s) s.fields
  | raw {entries : Table Value} {items : List Value} {fields : List FormField}
      (list : Value.entry entries "fields" = .list items)
      (each : List.Forall₂ (fun v f => Load.formField v = .ok f) items fields) :
      Declares (.raw (.record entries)) fields

namespace Wellformed

/-- An entry about which loading has no complaint is a field. -/
theorem Entry.loaded_of_loadErrors {v : Value} {path : String}
    (clean : (Entry.ofValue v).loadErrors path = []) :
    ∃ f, Entry.ofValue v = .field f ∧ Load.formField v = .ok f := by
  fun_induction Entry.ofValue v with
  | case1 entries f loads => exact ⟨f, rfl, loads⟩
  | case2 entries is fails =>
    have silent : is = [] := List.map_eq_nil_iff.mp clean
    exact absurd (fails.trans (congrArg Checked.failed silent)) (Load.formField_telling _)
  | case3 key description ih =>
    rw [Load.formField_entity]
    exact ih clean
  | case4 v record loaded => cases clean

/-- Entries about which loading has no complaint are the fields that they are loaded as. -/
theorem forall₂_of_loadErrors {items : List Value} {n : Nat}
    (clean : (((items.map Entry.ofValue).zipIdx n).flatMap fun e =>
      e.1.loadErrors (entryPath e.2)) = []) :
    List.Forall₂ (fun v f => Load.formField v = .ok f) items
      (((items.map Entry.ofValue).zipIdx n).filterMap fun e => e.1.loaded?) := by
  induction items generalizing n with
  | nil => exact .nil
  | cons v items ih =>
    rw [List.map_cons, List.zipIdx_cons, List.flatMap_cons, List.append_eq_nil_iff] at clean
    obtain ⟨f, entry, loaded⟩ := Entry.loaded_of_loadErrors clean.1
    rw [List.map_cons, List.zipIdx_cons, entry]
    exact .cons loaded (ih clean.2)

end Wellformed

/-- The fields of a schema that nothing is wrong with are those that its source declares. -/
theorem SchemaSource.Accepted.declares {source : SchemaSource} {environment : Environment}
    {s : FormSchema} (h : source.Accepted environment s) : source.Declares s.fields := by
  obtain ⟨loaded, valid⟩ := h
  have clean : (source.report environment).errors = [] := List.isEmpty_iff.mp valid
  cases source with
  | loaded schema =>
    obtain rfl : schema = s := Option.some.inj loaded
    exact .loaded schema
  | raw v =>
    cases v with
    | record entries =>
      unfold report Wellformed.reportRaw at loaded clean
      dsimp only at loaded clean
      cases list : Value.entry entries "fields" with
      | list items =>
        rw [list] at loaded clean
        simp only [List.append_eq_nil_iff] at clean
        obtain rfl := Option.some.inj loaded
        exact .raw list (Wellformed.forall₂_of_loadErrors clean.1.1.2)
      | _ =>
        rw [list] at loaded
        cases loaded
    | _ => cases loaded

namespace FormRules

/-- Rules for fields, one for each of them in order, each under the id of its field. -/
def Cover (fields : List FormField) (rules : Table FieldRule) : Prop :=
  List.Forall₂ (fun f e => e.1 = f.id ∧ FieldRule.compile f = .ok e.2) fields rules

namespace Cover

variable {fields : List FormField} {rules : Table FieldRule}

theorem keys_eq (h : Cover fields rules) : rules.keys = fields.map fun f => f.id := by
  induction h with
  | nil => rfl
  | cons head _ ih => exact congrArg₂ List.cons head.1 ih

theorem exists_mem (h : Cover fields rules) {f : FormField} (hf : f ∈ fields) :
    ∃ r, FieldRule.compile f = .ok r ∧ (f.id, r) ∈ rules := by
  induction h with
  | nil => cases hf
  | @cons g e fields rules head _ ih =>
    rcases List.mem_cons.mp hf with rfl | later
    · exact ⟨e.2, head.2, by simp [← head.1]⟩
    · obtain ⟨r, made, hr⟩ := ih later
      exact ⟨r, made, List.mem_cons_of_mem _ hr⟩

end Cover

/-- Where ids are distinct, the rules that are compiled cover the fields. -/
theorem cover_of_compile {s : FormSchema} {rules : FormRules} (made : compile s = .ok rules)
    (distinct : s.fieldIds.Nodup) : Cover s.fields rules.fields := by
  obtain ⟨globally, -, rest⟩ := Except.bind_eq_ok.mp made
  obtain ⟨entries, listed, assembled⟩ := Except.bind_eq_ok.mp rest
  cases assembled
  have cover : Cover s.fields entries := by
    refine (Except.mapM_eq_ok listed).imp fun f e h => ?_
    obtain ⟨r, hr, same⟩ := Except.bind_eq_ok.mp h
    cases same
    exact ⟨rfl, hr⟩
  dsimp only
  rw [Table.ofEntries_eq (cover.keys_eq ▸ distinct)]
  exact cover

end FormRules

/-- The parts of a parsed schema belong together. -/
structure ParsedSchema.Coherent (s : ParsedSchema) : Prop where
  /-- one parsed field for each field, in order -/
  fields : s.fields.map ParsedField.field = s.schema.fields
  distinct : s.fieldIds.Nodup
  found : ∀ p ∈ s.fields, s.field? p.id = some p
  dependencies : ∀ p ∈ s.fields, p.dependencies = p.field.dependencies
  conditions : ∀ p ∈ s.fields, p.conditionalRules = p.field.conditional.elim [] fun c =>
    c.rules .shows ++ c.rules .hides ++ c.rules .enables ++ c.rules .disables ++ c.rules .requires
  rule : ∀ p ∈ s.fields, ∃ r, FieldRule.compile p.field = .ok r ∧ p.rule = some r
  /-- an entry for each field that reads others, and no other entry -/
  graph : s.dependencies =
    (s.schema.fields.map fun f => (f.id, f.dependencies)).filter fun e => !e.2.isEmpty
  acyclic : s.dependencies.Acyclic
  /-- one compiled rule for each field -/
  compiled : s.rules.fields.keys = s.fieldIds
  joined : s.conditionalRules = s.schema.fields.flatMap fun f => f.conditionalRules

namespace ParsedSchema

/-- What is parsed is coherent, and has the fields that its source declares. -/
theorem parse_coherent {environment : Environment} {source : SchemaSource} {s : ParsedSchema}
    (h : parse environment source = .ok s) : s.Coherent ∧ source.Declares s.schema.fields := by
  obtain ⟨schema, rules, loaded, valid, cycle, made, rfl⟩ := parse_eq_ok h
  have accepted : source.Accepted environment schema := ⟨loaded, valid⟩
  have distinct := (Wellformed.sound_of_report loaded valid).distinct
  have ids := fieldIds_assemble schema (DependencyGraph.ofFields schema.fields) rules
  have each {p : ParsedField}
      (hp : p ∈ (assemble schema (DependencyGraph.ofFields schema.fields) rules).fields) :
      ∃ f ∈ schema.fields, p = ⟨f, f.dependencies, f.conditionalRules, rules.fields.get? f.id⟩ := by
    obtain ⟨f, hf, rfl⟩ := List.mem_map.mp hp
    exact ⟨f, hf, by rw [DependencyGraph.dependenciesOf_ofFields distinct hf]⟩
  have cover := FormRules.cover_of_compile made distinct
  refine ⟨⟨?fields, ids ▸ distinct, ?found, ?dependencies, ?conditions, ?rule, ?graph, ?acyclic,
    ?compiled, ?joined⟩, accepted.declares⟩
  case fields =>
    unfold assemble
    rw [List.map_map]
    exact List.map_id _
  case found =>
    intro p hp
    exact field?_of_mem (ids ▸ distinct) hp
  case dependencies =>
    intro p hp
    obtain ⟨f, -, rfl⟩ := each hp
    rfl
  case conditions =>
    intro p hp
    obtain ⟨f, -, rfl⟩ := each hp
    cases hc : f.conditional with
    | none => simp [FieldAttributes.conditionalRules, hc]
    | some c =>
      simp [FieldAttributes.conditionalRules, hc, Conditions.allRules, Effect.all]
  case rule =>
    intro p hp
    obtain ⟨f, hf, rfl⟩ := each hp
    obtain ⟨r, compiled, hr⟩ := cover.exists_mem hf
    exact ⟨r, compiled, Table.get?_of_mem (cover.keys_eq ▸ distinct) hr⟩
  case graph => exact DependencyGraph.ofFields_eq distinct
  case acyclic => exact DependencyGraph.cycle?_eq_none_iff.mp cycle
  case compiled => exact cover.keys_eq.trans ids.symm
  case joined =>
    unfold conditionalRules assemble
    rw [List.flatMap_map]

/-- A schema with a field that is shown while the one behind it is empty. -/
def revealing : FormSchema :=
  .plain [
    { FormField.plain "b" "text" with
      conditional := some ⟨some [⟨"a", some "is_empty", .null, none⟩], none, none, none, none⟩ },
    .plain "a" "number"]

theorem revealing_coherent :
    parse [] (.loaded revealing) = .ok (revealing.parsed []) ∧ (revealing.parsed []).Coherent ∧
      (SchemaSource.loaded revealing).Declares (revealing.parsed []).schema.fields := by
  have parsed : parse [] (.loaded revealing) = .ok (revealing.parsed []) :=
    FormSchema.parse_eq (by decide +kernel)
  exact ⟨parsed, parse_coherent parsed⟩

end ParsedSchema

end FormEngine
