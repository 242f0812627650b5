import FormEngine.Parsed
import FormEngine.Proofs.Except
import FormEngine.Proofs.Schema.Repeats
import FormEngine.Proofs.Table

/-!
What is known of a schema that parses: its fields have distinct ids, its conditions name fields, and
every field is listed among the dependents of each field that its conditions read.
-/

namespace FormEngine

/-- The last of some texts is kept unless it is empty or stands before. -/
theorem distinctIds_append_singleton (ids : List String) (id : String) :
    distinctIds (ids ++ [id]) =
      if id.isEmpty || (distinctIds ids).contains id then distinctIds ids
      else distinctIds ids ++ [id] :=
  List.foldl_append

/-- Of the texts in a list none but the empty one is left out. -/
theorem mem_distinctIds_iff {ids : List String} {id : String} :
    id ∈ distinctIds ids ↔ id ≠ "" ∧ id ∈ ids := by
  induction ids using List.reverseRecOn with
  | nil => simp [distinctIds]
  | append_singleton ids last ih =>
    rw [distinctIds_append_singleton, List.mem_append, List.mem_singleton]
    split
    · next skipped =>
      rw [ih]
      constructor
      · rintro ⟨named, before⟩
        exact ⟨named, .inl before⟩
      · rintro ⟨named, before | rfl⟩
        · exact ⟨named, before⟩
        · have filled : id.isEmpty = false := by simpa using named
          rwa [filled, Bool.false_or, List.contains_iff_mem, ih] at skipped
    · next fresh =>
      have named : last ≠ "" := by
        rintro rfl
        exact fresh rfl
      rw [List.mem_append, List.mem_singleton, ih]
      constructor
      · rintro (⟨h, before⟩ | rfl)
        · exact ⟨h, .inl before⟩
        · exact ⟨named, .inr rfl⟩
      · rintro ⟨h, before | rfl⟩
        · exact .inl ⟨h, before⟩
        · exact .inr rfl

theorem mem_distinctIds {ids : List String} {id : String} (named : id ≠ "") (h : id ∈ ids) :
    id ∈ distinctIds ids :=
  mem_distinctIds_iff.mpr ⟨named, h⟩

/-- The texts are kept in the order in which they first stand. -/
theorem distinctIds_firstSeen (ids : List String) :
    (distinctIds ids).Pairwise fun a b => ids.idxOf a < ids.idxOf b := by
  induction ids using List.reverseRecOn with
  | nil => exact .nil
  | append_singleton ids last ih =>
    have listed {a : String} (ha : a ∈ distinctIds ids) : a ∈ ids := (mem_distinctIds_iff.mp ha).2
    have place {a : String} (ha : a ∈ distinctIds ids) :
        (ids ++ [last]).idxOf a = ids.idxOf a := List.idxOf_append_of_mem (listed ha)
    have kept : (distinctIds ids).Pairwise fun a b =>
        (ids ++ [last]).idxOf a < (ids ++ [last]).idxOf b := by
      refine ih.imp_of_mem fun ha hb earlier => ?_
      rwa [place ha, place hb]
    rw [distinctIds_append_singleton]
    split
    · exact kept
    · next fresh =>
      refine List.pairwise_append.mpr ⟨kept, List.pairwise_singleton _ _, fun a ha b hb => ?_⟩
      obtain rfl := List.mem_singleton.mp hb
      have absent : b ∉ ids := by
        intro before
        rw [Bool.or_eq_true, not_or, List.contains_iff_mem, mem_distinctIds_iff] at fresh
        exact fresh.2 ⟨by simpa using fresh.1, before⟩
      rw [place ha, List.idxOf_append_of_notMem absent]
      exact Nat.lt_add_right _ (List.idxOf_lt_length_of_mem (listed ha))

theorem nodup_distinctIds (ids : List String) : (distinctIds ids).Nodup := by
  refine (distinctIds_firstSeen ids).imp fun earlier same => ?_
  rw [same] at earlier
  exact Nat.lt_irrefl _ earlier

namespace DependencyGraph

variable {g : DependencyGraph} {ids : List String} {key id other : String}

theorem dependenciesOf_of_mem (table : g.keys.Nodup) {e : String × List String} (he : e ∈ g) :
    g.dependenciesOf e.1 = e.2 := by
  unfold dependenciesOf
  rw [Table.get?_of_mem table he, Option.getD_some]

/-- Leaving out the ids that read nothing changes no list. -/
theorem dependenciesOf_filter (table : g.keys.Nodup) (id : String) :
    dependenciesOf (g.filter fun e => !e.2.isEmpty) id = g.dependenciesOf id := by
  unfold dependenciesOf
  rw [Table.get?_filter table]
  cases g.get? id with
  | none => rfl
  | some read => cases read <;> rfl

theorem dependenciesOf_append : (g.append key id).dependenciesOf other =
    g.dependenciesOf other ++ if other = key then [id] else [] := by
  unfold append dependenciesOf
  rw [Table.get?_put]
  split
  · next same => rw [same, Option.getD_some]
  · rw [List.append_nil]

/-- Adding a field to the lists of all that it reads, as often as it reads them. -/
theorem dependenciesOf_foldl_append :
    (ids.foldl (fun r other => append r other id) g).dependenciesOf other =
      g.dependenciesOf other ++ List.replicate (ids.count other) id := by
  induction ids generalizing g with
  | nil => rw [List.count_nil, List.replicate_zero, List.append_nil]; rfl
  | cons first ids ih =>
    rw [List.foldl_cons, ih, dependenciesOf_append, List.append_assoc, List.count_cons]
    congr 1
    by_cases same : other = first
    · rw [if_pos same, if_pos (beq_iff_eq.mpr same.symm), List.replicate_succ]; rfl
    · rw [if_neg same, if_neg fun h => same (beq_iff_eq.mp h).symm]; rfl

/-- The dependents of a field are those that read it, in the order of the graph and as often as they
do. -/
theorem dependenciesOf_dependents : g.dependents.dependenciesOf other =
    g.flatMap fun e => List.replicate (e.2.count other) e.1 := by
  have added (rest before : DependencyGraph) :
      (rest.foldl (fun r e => e.2.foldl (fun r id => append r id e.1) r) before).dependenciesOf other =
        before.dependenciesOf other ++ rest.flatMap fun e => List.replicate (e.2.count other) e.1 := by
    induction rest generalizing before with
    | nil => rw [List.flatMap_nil, List.append_nil]; rfl
    | cons e rest ih =>
      rw [List.foldl_cons, ih, dependenciesOf_foldl_append, List.flatMap_cons, List.append_assoc]
  exact added g []

theorem mem_dependents_iff :
    id ∈ g.dependents.dependenciesOf other ↔ ∃ read, (id, read) ∈ g ∧ other ∈ read := by
  rw [dependenciesOf_dependents, List.mem_flatMap]
  constructor
  · rintro ⟨⟨_, read⟩, he, stands⟩
    obtain ⟨often, rfl⟩ := List.mem_replicate.mp stands
    exact ⟨read, he, List.count_pos_iff.mp (Nat.pos_of_ne_zero often)⟩
  · rintro ⟨read, he, reads⟩
    exact ⟨(id, read), he, List.mem_replicate.mpr ⟨Nat.ne_of_gt (List.count_pos_iff.mpr reads), rfl⟩⟩

/-- Where ids are distinct, the graph has an entry for each field that reads others, in order. -/
theorem ofFields_eq {fields : List FormField} (distinct : (fields.map fun f => f.id).Nodup) :
    ofFields fields =
      (fields.map fun f => (f.id, f.dependencies)).filter fun e => !e.2.isEmpty := by
  refine Table.ofEntries_eq (.sublist (List.filter_sublist.map Prod.fst) ?_)
  rw [List.map_map]
  exact distinct

/-- The graph says of each field what the field reads. -/
theorem dependenciesOf_ofFields {fields : List FormField}
    (distinct : (fields.map fun f => f.id).Nodup) {f : FormField} (hf : f ∈ fields) :
    (ofFields fields).dependenciesOf f.id = f.dependencies := by
  have nodup : (Table.keys (fields.map fun f => (f.id, f.dependencies))).Nodup := by
    unfold Table.keys
    rw [List.map_map]
    exact distinct
  rw [ofFields_eq distinct, dependenciesOf_filter nodup]
  exact dependenciesOf_of_mem nodup (List.mem_map.mpr ⟨f, hf, rfl⟩)

theorem resolve_eq_ok {s : FormSchema} {g : DependencyGraph} (h : resolve s = .ok g) :
    (ofFields s.fields).cycle? = none ∧ g = ofFields s.fields := by
  unfold resolve at h
  dsimp only at h
  split at h
  · cases h
  · next none => exact ⟨none, (Except.ok.inj h).symm⟩

end DependencyGraph

namespace FieldAttributes

/-- A field depends on every field that its conditions read. -/
theorem mem_dependencies {f : FieldAttributes} {r : ConditionalRule} (h : r ∈ f.conditionalRules)
    (named : r.field ≠ "") : r.field ∈ f.dependencies :=
  mem_distinctIds named (List.mem_append_left _ (List.mem_map.mpr ⟨r, h, rfl⟩))

/-- A field names another in a condition, or among those that its options depend on. -/
def Names (f : FieldAttributes) (other : String) : Prop :=
  other ≠ "" ∧ ((∃ r ∈ f.conditionalRules, r.field = other) ∨ other ∈ f.optionDependencies)

theorem mem_dependencies_iff {f : FieldAttributes} {other : String} :
    other ∈ f.dependencies ↔ f.Names other := by
  unfold dependencies Names
  rw [mem_distinctIds_iff, List.mem_append, List.mem_map]

end FieldAttributes

namespace Wellformed

/-- The fields of a schema in which nothing is found wrong. -/
structure Sound (fields : List FormField) : Prop where
  distinct : (fields.map fun f => f.id).Nodup
  named : ∀ f ∈ fields, f.id ≠ ""
  refers : ∀ f ∈ fields, ∀ r ∈ f.conditionalRules, r.field ≠ ""

theorem errors_append (a b : Findings) : (a ++ b).errors = a.errors ++ b.errors := rfl

theorem errorIf_clean {condition : Bool} {message : String} :
    (errorIf condition message).errors = [] ↔ condition = false := by
  cases condition <;> simp [errorIf, error]

theorem presence_clean {f : FieldAttributes} {path : String} :
    (presence f path).errors = [] ↔ f.id ≠ "" ∧ f.label ≠ "" ∧ f.type ≠ "" := by
  simp [presence, errors_append, errorIf_clean]

/-- A field in which nothing is found wrong has an id. -/
theorem named_of_findings {warnUnknown : Bool} {path : String} {f : FormField}
    (h : (fieldFindings warnUnknown path f).errors = []) : f.id ≠ "" := by
  have present : (presence f.toFieldAttributes path).errors = [] := by
    obtain ⟨attributes, itemSchema, fields⟩ := f
    unfold fieldFindings at h
    split at h
    · exact h
    · simp only [errors_append, List.append_eq_nil_iff] at h
      exact h.1.1.1
  exact (presence_clean.mp present).1

/-- A list of conditions with a rule in it is looked at. -/
theorem mem_lists {c : Conditions} {e : Effect} {r : ConditionalRule} (h : r ∈ c.rules e) :
    (e.word, c.rules e) ∈ c.lists := by
  have inhabited : (c.rules e).isEmpty = false := by
    rw [List.isEmpty_eq_false_iff]
    exact List.ne_nil_of_mem h
  have known : e ∈ Effect.all := by cases e <;> simp [Effect.all]
  exact List.mem_filter.mpr ⟨List.mem_map.mpr ⟨e, known, rfl⟩, by simp [inhabited]⟩

/-- A rule in which nothing is found wrong names a field. -/
theorem refers_of_conditionErrors {available : List String} {c : Conditions}
    (h : conditionErrors available c = []) : ∀ r ∈ c.allRules, r.field ≠ "" := by
  intro r hr
  obtain ⟨e, -, hr⟩ := List.mem_flatMap.mp hr
  have listed := List.flatMap_eq_nil_iff.mp h _ (mem_lists hr)
  obtain ⟨n, hn, rfl⟩ := List.mem_iff_getElem.mp hr
  have errors := List.flatMap_eq_nil_iff.mp listed
    ((c.rules e)[n], n) (List.mk_mem_zipIdx_iff_getElem?.mpr (List.getElem?_eq_getElem hn))
  unfold ruleErrors at errors
  simp only [List.append_eq_nil_iff] at errors
  intro empty
  have field := errors.1.1
  rw [empty] at field
  simp at field

/-- What is picked out of entries that are all fields. -/
theorem filterMap_fields {α : Type} (pick : Entry → Option α) (fields : List FormField) :
    ((fields.map Entry.field).zipIdx.filterMap fun e => pick e.1) =
      fields.filterMap fun f => pick (.field f) := by
  have firsts := List.filterMap_map (l := (fields.map Entry.field).zipIdx)
    (f := Prod.fst) (g := pick)
  rw [List.zipIdx_map_fst, List.filterMap_map] at firsts
  exact firsts.symm

/-- The ids of the fields are among those of all entries. -/
theorem ids_sublist (entries : List (Entry × Nat)) :
    ((entries.filterMap fun e => e.1.loaded?).map fun f => f.id).Sublist
      (entries.filterMap fun e => e.1.id?) := by
  induction entries with
  | nil => exact .slnil
  | cons e entries ih =>
      obtain ⟨e, n⟩ := e
      cases e with
      | field f => exact ih.cons_cons f.id
      | broken fields issues => exact ih.cons _
      | notARecord => exact ih

/-- The fields among entries in which nothing is found wrong. -/
theorem sound_of_findings {warnUnknown : Bool} {entries : List (Entry × Nat)}
    (h : (entriesFindings warnUnknown entries).errors = []) :
    Sound (entries.filterMap fun e => e.1.loaded?) := by
  unfold entriesFindings at h
  simp only [errors_append, List.append_eq_nil_iff] at h
  obtain ⟨⟨structural, distinct⟩, conditions⟩ := h
  have loaded (f : FormField) (hf : f ∈ entries.filterMap fun e => e.1.loaded?) :
      ∃ n, (Entry.field f, n) ∈ entries := by
    obtain ⟨⟨e, n⟩, he, hl⟩ := List.mem_filterMap.mp hf
    cases e with
    | field g =>
        obtain rfl : g = f := Option.some.inj hl
        exact ⟨n, he⟩
    | broken _ _ => cases hl
    | notARecord => cases hl
  have named : ∀ f ∈ entries.filterMap fun e => e.1.loaded?, f.id ≠ "" := by
    intro f hf
    obtain ⟨n, he⟩ := loaded f hf
    have found := List.flatMap_eq_nil_iff.mp structural _
      (List.mem_map.mpr ⟨(Entry.field f, n), he, rfl⟩)
    exact named_of_findings found
  refine ⟨?_, named, ?_⟩
  · have sublist := ids_sublist entries
    refine .sublist ?_ (duplicateErrors_eq_nil.mp distinct)
    have kept := sublist.filter fun id => !id.isEmpty
    rw [List.filter_eq_self.mpr] at kept
    · exact kept
    · intro id hid
      obtain ⟨f, hf, rfl⟩ := List.mem_map.mp hid
      simpa using named f hf
  · intro f hf r hr
    obtain ⟨n, he⟩ := loaded f hf
    have found := List.flatMap_eq_nil_iff.mp conditions _ he
    unfold FieldAttributes.conditionalRules at hr
    unfold Entry.conditionErrors at found
    dsimp only at found
    cases hc : f.conditional with
    | none =>
        rw [hc] at hr
        cases hr
    | some c =>
        rw [hc] at hr found
        exact refers_of_conditionErrors found r hr

/-- Nothing is found wrong in the fields of a schema that is reported valid. -/
theorem sound_of_report {environment : Environment} {source : SchemaSource} {s : FormSchema}
    (hs : (source.report environment).schema = some s)
    (valid : (source.report environment).isValid = true) : Sound s.fields := by
  have clean : (source.report environment).errors = [] := List.isEmpty_iff.mp valid
  have raw (raw : Table Value) (hs : (reportRaw
      (Setting.warnUnknownTypes.read environment).truthy raw).schema = some s)
      (clean : (reportRaw (Setting.warnUnknownTypes.read environment).truthy raw).errors = []) :
      Sound s.fields := by
    unfold reportRaw at hs clean
    dsimp only at hs clean
    cases hv : Value.entry raw "fields" with
    | list items =>
        rw [hv] at hs clean
        rw [← Option.some.inj hs]
        exact sound_of_findings (List.append_eq_nil_iff.mp clean).2
    | _ =>
        rw [hv] at hs
        cases hs
  cases source with
  | raw v =>
      cases v with
      | record entries => exact raw entries hs clean
      | _ => cases hs
  | loaded schema =>
      obtain rfl : schema = s := Option.some.inj hs
      have errors : (entriesFindings (Setting.warnUnknownTypes.read environment).truthy
          (schema.fields.map Entry.field).zipIdx).errors = [] :=
        (List.append_eq_nil_iff.mp clean).2
      have fields : ((schema.fields.map Entry.field).zipIdx.filterMap fun e => e.1.loaded?) =
          schema.fields :=
        (filterMap_fields Entry.loaded? schema.fields).trans List.filterMap_some
      rw [← fields]
      exact sound_of_findings errors

end Wellformed

/-- What is known of a schema that was parsed. -/
structure ParsedSchema.Sound (s : ParsedSchema) : Prop where
  distinct : s.fieldIds.Nodup
  named : ∀ p ∈ s.fields, p.id ≠ ""
  refers : ∀ p ∈ s.fields, ∀ r ∈ p.field.conditionalRules, r.field ∈ p.field.dependencies
  /-- a field is among the dependents of all that it depends on -/
  listed : ∀ p ∈ s.fields, ∀ id ∈ p.field.dependencies,
    p.id ∈ s.dependencies.dependents.dependenciesOf id

namespace ParsedSchema

/-- Each field is found under its id. -/
theorem field?_of_mem {s : ParsedSchema} (distinct : s.fieldIds.Nodup) {p : ParsedField}
    (h : p ∈ s.fields) : s.field? p.id = some p := by
  unfold fieldIds at distinct
  unfold field?
  generalize s.fields = fields at distinct h
  induction fields with
  | nil => cases h
  | cons q fields ih =>
      obtain ⟨absent, rest⟩ := List.nodup_cons.mp distinct
      rw [List.find?_cons]
      rcases List.mem_cons.mp h with rfl | later
      · simp
      · have differs : (q.id == p.id) = false := by
          rw [beq_eq_false_iff_ne]
          intro same
          exact absent (List.mem_map.mpr ⟨p, later, same.symm⟩)
        rw [differs]
        exact ih rest later

theorem field?_withDefault (s : ParsedSchema) (id other : String) (v : Value) :
    (s.withDefault id v).field? other =
      (s.field? other).map fun p =>
        if p.id == id then { p with field.defaultValue := v } else p := by
  unfold field? withDefault
  rw [List.find?_map]
  congr 2
  funext p
  simp only [Function.comp]
  split <;> rfl

theorem fieldIds_withDefault (s : ParsedSchema) (id : String) (v : Value) :
    (s.withDefault id v).fieldIds = s.fieldIds := by
  unfold fieldIds withDefault
  rw [List.map_map]
  apply List.map_congr_left
  intro p _
  simp only [Function.comp]
  split <;> rfl

theorem fieldIds_assemble (s : FormSchema) (dependencies : DependencyGraph) (rules : FormRules) :
    (assemble s dependencies rules).fieldIds = s.fields.map fun f => f.id := by
  unfold fieldIds assemble
  rw [List.map_map]
  rfl

/-- A parsed schema is assembled from one that was reported valid, in whose dependencies no cycle was
found, and of its rules. -/
theorem parse_eq_ok {environment : Environment} {source : SchemaSource} {s : ParsedSchema}
    (h : parse environment source = .ok s) :
    ∃ schema rules, (source.report environment).schema = some schema ∧
      (source.report environment).isValid = true ∧
      (DependencyGraph.ofFields schema.fields).cycle? = none ∧
      FormRules.compile schema = .ok rules ∧
      s = assemble schema (DependencyGraph.ofFields schema.fields) rules := by
  unfold parse at h
  dsimp only at h
  split at h
  · next schema hs valid =>
    obtain ⟨dependencies, resolved, rest⟩ := Except.bind_eq_ok.mp h
    obtain ⟨rules, made, assembled⟩ := Except.bind_eq_ok.mp rest
    obtain ⟨acyclic, rfl⟩ := DependencyGraph.resolve_eq_ok resolved
    exact ⟨schema, rules, hs, valid, acyclic, made, (Except.ok.inj assembled).symm⟩
  · cases h

theorem sound_of_parse {environment : Environment} {source : SchemaSource} {s : ParsedSchema}
    (h : parse environment source = .ok s) : s.Sound := by
  obtain ⟨schema, rules, hs, valid, -, -, rfl⟩ := parse_eq_ok h
  have sound := Wellformed.sound_of_report hs valid
  have field {p : ParsedField}
      (hp : p ∈ (assemble schema (DependencyGraph.ofFields schema.fields) rules).fields) :
      p.field ∈ schema.fields := by
    obtain ⟨f, hf, rfl⟩ := List.mem_map.mp hp
    exact hf
  refine ⟨?_, fun p hp => sound.named _ (field hp), fun p hp r hr => ?_, fun p hp id reads => ?_⟩
  · rw [fieldIds_assemble]
    exact sound.distinct
  · exact FieldAttributes.mem_dependencies hr (sound.refers _ (field hp) r hr)
  · refine DependencyGraph.mem_dependents_iff.mpr ⟨_, ?_, reads⟩
    rw [show (assemble schema (DependencyGraph.ofFields schema.fields) rules).dependencies =
      DependencyGraph.ofFields schema.fields from rfl, DependencyGraph.ofFields_eq sound.distinct]
    refine List.mem_filter.mpr ⟨List.mem_map.mpr ⟨p.field, field hp, rfl⟩, ?_⟩
    rw [Bool.not_eq_true', List.isEmpty_eq_false_iff]
    exact List.ne_nil_of_mem reads

theorem sound_withDefault {s : ParsedSchema} (h : s.Sound) (id : String) (v : Value) :
    (s.withDefault id v).Sound := by
  have same {p : ParsedField} (hp : p ∈ (s.withDefault id v).fields) :
      ∃ q ∈ s.fields, p.id = q.id ∧ p.field.conditionalRules = q.field.conditionalRules ∧
        p.field.dependencies = q.field.dependencies := by
    obtain ⟨q, hq, rfl⟩ := List.mem_map.mp hp
    refine ⟨q, hq, ?_⟩
    split
    · exact ⟨rfl, rfl, rfl⟩
    · exact ⟨rfl, rfl, rfl⟩
  refine ⟨?_, fun p hp => ?_, fun p hp r hr => ?_, fun p hp other reads => ?_⟩
  · rw [fieldIds_withDefault]
    exact h.distinct
  · obtain ⟨q, hq, hid, -⟩ := same hp
    rw [hid]
    exact h.named q hq
  · obtain ⟨q, hq, -, rules, depends⟩ := same hp
    rw [depends]
    exact h.refers q hq r (rules ▸ hr)
  · obtain ⟨q, hq, hid, -, depends⟩ := same hp
    rw [hid]
    exact h.listed q hq other (depends ▸ reads)

end ParsedSchema

end FormEngine
