import FormEngine.Proofs.Schema.Acceptance
import FormEngine.Proofs.Schema.Coherence
import FormEngine.Proofs.Schema.Search
import FormEngine.Proofs.Schema.Sources

/-!
To what the dependencies of a schema that parses refer. Each field is listed with all that it names, and
what its conditions name are fields of the schema, since conditions are checked against the ids. What
options depend on is checked against nothing: the graph is closed just if that happens to name fields.
-/

namespace FormEngine

/-- Of the ids in a graph each is among some. -/
def DependencyGraph.IsClosed (g : DependencyGraph) (ids : List String) : Prop :=
  ∀ e ∈ g, e.1 ∈ ids ∧ ∀ id ∈ e.2, id ∈ ids

instance (g : DependencyGraph) (ids : List String) : Decidable (g.IsClosed ids) :=
  inferInstanceAs (Decidable (∀ e ∈ g, e.1 ∈ ids ∧ ∀ id ∈ e.2, id ∈ ids))

/-- Nothing is found wrong with the entries that are the fields of an accepted schema. -/
theorem SchemaSource.Accepted.findings {source : SchemaSource} {environment : Environment}
    {s : FormSchema} (h : source.Accepted environment s) :
    ∃ warnUnknown, (Wellformed.entriesFindings warnUnknown
      (s.fields.map Wellformed.Entry.field).zipIdx).errors = [] := by
  refine ⟨(Setting.warnUnknownTypes.read environment).truthy, ?_⟩
  have clean : (source.report environment).errors = [] := List.isEmpty_iff.mp h.valid
  have declares := h.declares
  generalize fields : s.fields = declared at declares
  cases declares with
  | loaded schema => exact (List.append_eq_nil_iff.mp clean).2
  | @raw entries items _ list each =>
    have same : items.map Wellformed.Entry.ofValue = declared.map Wellformed.Entry.field := by
      refine (congrFun₂ List.forall₂_eq_eq_eq _ _).mp ?_
      rw [List.forall₂_map_left_iff, List.forall₂_map_right_iff]
      exact each.imp fun _ _ => Wellformed.Entry.ofValue_of_ok
    unfold report Wellformed.reportRaw at clean
    dsimp only at clean
    rw [list] at clean
    rw [← same]
    exact (List.append_eq_nil_iff.mp clean).2

/-- The conditions of an accepted schema name fields of it. -/
theorem SchemaSource.Accepted.refers {source : SchemaSource} {environment : Environment}
    {s : FormSchema} (h : source.Accepted environment s) {f : FormField} (hf : f ∈ s.fields)
    {r : ConditionalRule} (hr : r ∈ f.conditionalRules) : r.field ∈ s.fieldIds := by
  obtain ⟨warnUnknown, clean⟩ := h.findings
  have conditions := List.flatMap_eq_nil_iff.mp (List.append_eq_nil_iff.mp clean).2
  have listed : ((s.fields.map Wellformed.Entry.field).zipIdx.filterMap fun e => e.1.id?) =
      s.fieldIds :=
    (Wellformed.filterMap_fields Wellformed.Entry.id? s.fields).trans
      (congrFun List.filterMap_eq_map s.fields)
  rw [listed] at conditions
  have each (f : FormField) (_ : f ∈ s.fields) (_ : Nat) : ((Wellformed.Entry.field f).conditionErrors
      (s.fieldIds.filter fun id => !id.isEmpty)) = [] ↔ _ := Iff.rfl
  have silent := (Wellformed.forall_fields each).mp conditions f hf
  have named : ∀ id ∈ s.fieldIds.filter fun id => !id.isEmpty, id ≠ "" := by
    intro id hid
    simpa using (List.mem_filter.mp hid).2
  unfold FieldAttributes.conditionalRules at hr
  unfold Wellformed.Entry.conditionErrors at silent
  dsimp only at silent
  cases conditional : f.conditional with
  | none =>
    rw [conditional] at hr
    cases hr
  | some c =>
    rw [conditional] at hr silent
    obtain ⟨e, -, hr⟩ := List.mem_flatMap.mp hr
    have wellFormed := (Wellformed.conditionErrors_eq_nil named).mp silent e r hr
    exact (List.mem_filter.mp wellFormed.refers).1

/-- Where ids are distinct, the entries of the graph are the fields that depend on others. -/
theorem DependencyGraph.mem_ofFields_iff {fields : List FormField}
    (distinct : (fields.map fun f => f.id).Nodup) {e : String × List String} :
    e ∈ ofFields fields ↔ ∃ f ∈ fields, f.dependencies ≠ [] ∧ (f.id, f.dependencies) = e := by
  rw [ofFields_eq distinct, List.mem_filter, List.mem_map]
  constructor
  · rintro ⟨⟨f, hf, rfl⟩, some⟩
    exact ⟨f, hf, by simpa using some, rfl⟩
  · rintro ⟨f, hf, some, rfl⟩
    exact ⟨⟨f, hf, rfl⟩, by simpa using some⟩

/-- The graph of an accepted schema is closed just if what options depend on are fields. -/
theorem SchemaSource.Accepted.isClosed_iff {source : SchemaSource} {environment : Environment}
    {s : FormSchema} (h : source.Accepted environment s) :
    (DependencyGraph.ofFields s.fields).IsClosed s.fieldIds ↔
      ∀ f ∈ s.fields, ∀ id ∈ f.optionDependencies, id ≠ "" → id ∈ s.fieldIds := by
  have distinct := (Wellformed.sound_of_report h.loaded h.valid).distinct
  constructor
  · intro closed f hf id hid named
    have depends : id ∈ f.dependencies := FieldAttributes.mem_dependencies_iff.mpr ⟨named, .inr hid⟩
    have entry := (DependencyGraph.mem_ofFields_iff distinct).mpr
      ⟨f, hf, List.ne_nil_of_mem depends, rfl⟩
    exact (closed _ entry).2 id depends
  · intro options e he
    obtain ⟨f, hf, -, rfl⟩ := (DependencyGraph.mem_ofFields_iff distinct).mp he
    refine ⟨List.mem_map_of_mem hf, fun id hid => ?_⟩
    obtain ⟨named, ⟨r, hr, rfl⟩ | option⟩ := FieldAttributes.mem_dependencies_iff.mp hid
    · exact h.refers hf hr
    · exact options f hf id option named

/-- A schema with a selection whose options depend on what has some id. -/
def FormSchema.choosing (id : String) : FormSchema :=
  .plain [
    .plain "a" "text",
    { FormField.plain "b" "select" with
      options := some (.dynamic ⟨.api, some "u", .get, [], [], none, none, none, [id], true, none,
        300000, 0, 1000⟩) }]

namespace ParsedSchema

/-- In the graph of a schema that parses fields are listed, each with what it names, and no other id; the
conditions name fields of the schema, and the graph is closed just if the options depend on such too. -/
theorem graph_closed_iff {environment : Environment} {source : SchemaSource} {s : ParsedSchema}
    (h : parse environment source = .ok s) :
    (∀ id ∈ s.dependencies.keys, id ∈ s.schema.fieldIds) ∧
    (∀ id other, s.dependencies.Reads id other ↔
      ∃ f ∈ s.schema.fields, f.id = id ∧ f.Names other) ∧
    (∀ f ∈ s.schema.fields, ∀ r ∈ f.conditionalRules, r.field ∈ s.schema.fieldIds) ∧
    (s.dependencies.IsClosed s.schema.fieldIds ↔
      ∀ f ∈ s.schema.fields, ∀ id ∈ f.optionDependencies, id ≠ "" → id ∈ s.schema.fieldIds) := by
  obtain ⟨schema, rules, loaded, valid, -, -, rfl⟩ := parse_eq_ok h
  have accepted : source.Accepted environment schema := ⟨loaded, valid⟩
  have distinct := (Wellformed.sound_of_report loaded valid).distinct
  refine ⟨fun id hid => ?_, fun id other => ?_, fun f hf r hr => accepted.refers hf hr,
    accepted.isClosed_iff⟩
  · obtain ⟨e, he, rfl⟩ := List.mem_map.mp hid
    obtain ⟨f, hf, -, rfl⟩ := (DependencyGraph.mem_ofFields_iff distinct).mp he
    exact List.mem_map_of_mem hf
  · exact FormSchema.reads_ofFields_iff.trans (FormSchema.dependsOn_iff distinct)

theorem choosing_closed :
    parse [] (.loaded (.choosing "a")) = .ok ((FormSchema.choosing "a").parsed []) ∧
      ((FormSchema.choosing "a").parsed []).dependencies.IsClosed
        ((FormSchema.choosing "a").parsed []).schema.fieldIds := by
  have parsed : parse [] (.loaded (.choosing "a")) = .ok ((FormSchema.choosing "a").parsed []) :=
    FormSchema.parse_eq (by decide +kernel)
  exact ⟨parsed, (graph_closed_iff parsed).2.2.2.mpr (by decide +kernel)⟩

/-- What the options of a selection depend on need not be a field. -/
theorem stray_option_dependency :
    ¬ ∀ (environment : Environment) (source : SchemaSource) (s : ParsedSchema),
      parse environment source = .ok s → s.dependencies.IsClosed s.schema.fieldIds := by
  intro closed
  have parsed : parse [] (.loaded (.choosing "c")) = .ok ((FormSchema.choosing "c").parsed []) :=
    FormSchema.parse_eq (by decide +kernel)
  exact absurd (closed _ _ _ parsed) (by decide +kernel)

end ParsedSchema

end FormEngine
