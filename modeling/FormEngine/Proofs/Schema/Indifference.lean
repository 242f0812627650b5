import FormEngine.Proofs.Schema.Isolation
import FormEngine.Proofs.Schema.Respelling

/-!
The spelling of attributes does not matter: a declaration is loaded as its plain form, with the same
attributes that are not declared, however deep fields are nested in it; as much is wrong with it, and it
is parsed to the same.
-/

namespace FormEngine

namespace Spelling

open Load

variable {k : Kind} {c : Content} {a : Attribute} {α : Type} {es : Table Value} {level : Nat}

/-! ## Fields -/

theorem formFieldList_eq (level : Nat) (v : Value) :
    formFieldList level v = Scalar.listOf (formFieldWithin level) v := by
  have items (n : Nat) (xs : List Value) :
      formFieldItems level n xs = Checked.items (formFieldWithin level) n xs := by
    induction xs generalizing n with
    | nil => rfl
    | cons x xs ih => rw [formFieldItems, Checked.items, ih]
  cases v with
  | list xs | tuple xs | set xs => exact items 0 xs
  | _ => rfl

theorem find?_of_get? {α β : Type} {t : Table α} {u : Table β} {f : α → β} {keys : List String}
    (h : ∀ key ∈ keys, u.get? key = (t.get? key).map f) :
    find? u keys = (find? t keys).map fun e => (e.1, f e.2) := by
  induction keys with
  | nil => rfl
  | cons key keys ih =>
    obtain ⟨first, rest⟩ := List.forall_mem_cons.mp h
    unfold find?
    rw [first, ih rest]
    cases t.get? key <;> rfl

/-- The nested fields are loaded from the entries that stand under a spelling of their attribute. -/
theorem nestedFields_eq (level : Nat) (es : Table Value) :
    nestedFields level es = {
      items := (es.filter fun e => (spellings "item_schema").contains e.1).map fun e =>
        (e.1, Scalar.optional (formFieldWithin level) e.2)
      groups := (es.filter fun e => (spellings "fields").contains e.1).map fun e =>
        (e.1, Scalar.optional (formFieldList level) e.2) } := by
  have apart : ∀ key ∈ spellings "item_schema", key ∉ spellings "fields" := by decide +kernel
  induction es with
  | nil => rfl
  | cons e es ih =>
    rw [nestedFields, nestedField, ih, List.filter_cons, List.filter_cons]
    by_cases item : (spellings "item_schema").contains e.1 = true
    · have group : ¬ (spellings "fields").contains e.1 = true := fun group =>
        apart e.1 (List.contains_iff_mem.mp item) (List.contains_iff_mem.mp group)
      rw [if_pos item, if_pos item, if_neg group]
      rfl
    · rw [if_neg item, if_neg item]
      split <;> rfl

/-- An attribute that is loaded from the entries under its spellings is loaded like any other. -/
theorem nestedAttribute_eq (es : Table Value) (name : String) (load : Value → Checked α) :
    nestedAttribute ((es.filter fun e => (spellings name).contains e.1).map fun e =>
      (e.1, Scalar.optional load e.2)) name = Load.optional es name load := by
  unfold nestedAttribute Load.optional entry among
  rw [find?_of_get? (t := es) (f := Scalar.optional load) fun key listed => ?_]
  · cases find? es (spellings name) <;> rfl
  · rw [Table.get?_map, Table.get?_filter_keys es (List.contains_iff_mem.mpr listed)]

theorem names_of_field :
    (∀ a ∈ Kind.attributes .field, a.name ∈ fieldAttributes) ∧
      ∀ name ∈ fieldAttributes, ∃ a ∈ Kind.attributes .field, a.name = name := by
  decide +kernel

theorem keys_of_field (ha : a ∈ Kind.attributes .field) : a.keys = spellings a.name := by
  rcases List.mem_append.mp ha with ha | ha
  · obtain ⟨name, -, rfl⟩ := List.mem_map.mp ha
    rfl
  · have usual : ∀ a ∈ Kind.parts .field, a.keys = spellings a.name := by
      simp [Kind.parts, Attribute.usual]
    exact usual a ha

/-- The keys that are not used are those that are not declared. -/
theorem usedKeys_iff (apart : (Table.keys (es.map (plainEntry .field))).Nodup) {e : String × Value}
    (he : e ∈ es) : e.1 ∈ usedKeys es ↔ (Kind.attribute? .field e.1).isSome = true := by
  obtain ⟨own, all⟩ := names_of_field
  unfold usedKeys
  rw [List.mem_filterMap]
  constructor
  · rintro ⟨name, listed, used⟩
    obtain ⟨found, hf, key⟩ := Option.map_eq_some_iff.mp used
    obtain ⟨a, ha, rfl⟩ := all name listed
    rw [← keys_of_field ha] at hf
    rw [Kind.attribute?_of_mem ha (key ▸ find?_key hf)]
    rfl
  · intro declared
    obtain ⟨a, declared⟩ := Option.isSome_iff_exists.mp declared
    obtain ⟨ha, hk⟩ := Kind.mem_of_attribute? declared
    obtain ⟨e', found⟩ := find?_isSome he hk
    refine ⟨a.name, own a ha, ?_⟩
    rw [← keys_of_field ha, found, eq_of_apart apart ha he (find?_mem found) hk (find?_key found)]
    rfl

/-- The attributes of a field that are not declared. -/
def undeclared (es : Table Value) : Table Value :=
  es.filter fun e => (Kind.attribute? .field e.1).isNone

theorem extra_eq (apart : (Table.keys (es.map (plainEntry .field))).Nodup) :
    (es.filter fun e => !(usedKeys es).contains e.1) = undeclared es := by
  refine List.filter_congr fun e he => ?_
  rw [← Option.not_isSome, Bool.not_inj_iff, Bool.eq_iff_iff, List.contains_iff_mem]
  exact usedKeys_iff apart he

theorem undeclared_plain (es : Table Value) :
    undeclared (es.map (plainEntry .field)) = undeclared es := by
  have kept : ((fun e => (Kind.attribute? .field e.1).isNone) ∘ plainEntry .field) =
      fun e : String × Value => (Kind.attribute? .field e.1).isNone :=
    funext fun e => congrArg Option.isNone (attribute?_plainEntry e)
  unfold undeclared
  rw [List.filter_map, kept]
  refine (List.map_congr_left fun e he => ?_).trans (List.map_id _)
  exact plainEntry_of_none (Option.isNone_iff_eq_none.mp (List.mem_filter.mp he).2) e.2

/-- In the plain form no record gives an attribute twice. -/
theorem apart_plain (apart : (Table.keys (es.map (plainEntry k))).Nodup) :
    (Table.keys ((es.map (plainEntry k)).map (plainEntry k))).Nodup := by
  have same : Table.keys ((es.map (plainEntry k)).map (plainEntry k)) =
      Table.keys (es.map (plainEntry k)) := by
    unfold Table.keys
    rw [List.map_map, List.map_map, List.map_map]
    exact List.map_congr_left fun e _ => plainEntry_key e
  rw [same]
  exact apart

/-- A field is loaded as its plain form, if the fields nested in it are. -/
theorem assembleField_alike (h : Indifferent (.one .field) (formFieldWithin level))
    (once : OnceIn .field es) :
    (assembleField es (nestedFields level es)).Alike
      (assembleField (es.map (plainEntry .field))
        (nestedFields level (es.map (plainEntry .field)))) := by
  unfold assembleField
  rw [extra_eq once.apart, extra_eq (apart_plain once.apart), undeclared_plain, nestedFields_eq,
    nestedFields_eq, nestedAttribute_eq, nestedAttribute_eq, nestedAttribute_eq, nestedAttribute_eq]
  have group : Indifferent (.many .field) (formFieldList level) := by
    rw [funext (formFieldList_eq level)]
    exact .listOf rfl h
  exact (once.entry (by decide) _ _).map
    |>.seq (once.entry (by decide) _ _)
    |>.seq (once.entry (by decide) _ _)
    |>.seq (once.optional (by decide) _)
    |>.seq (once.optional (by decide) _)
    |>.seq (once.entry (by decide) _ _)
    |>.seq (once.entry (by decide) _ _)
    |>.seq (once.entry (by decide) _ _)
    |>.seq (once.entry (by decide) _ _)
    |>.seq (once.optionalPart (.head _) fieldValidation_indifferent)
    |>.seq (once.optionalPart (.tail _ (.head _)) conditions_indifferent)
    |>.seq (once.optionalPart (.tail _ (.tail _ (.head _))) choices_indifferent)
    |>.seq (once.optional (by decide) _)
    |>.seq (once.optional (by decide) _)
    |>.seq (once.optional (by decide) _)
    |>.seq (once.optional (by decide) _)
    |>.seq (once.optional (by decide) _)
    |>.seq (once.optional (by decide) _)
    |>.seq (once.optional (by decide) _)
    |>.seq (once.optional (by decide) _)
    |>.seq (once.optional (by decide) _)
    |>.seq (once.optionalPart (.tail _ (.tail _ (.tail _ (.head _)))) h)
    |>.seq (once.optionalPart (.tail _ (.tail _ (.tail _ (.tail _ (.head _))))) group)
    |>.seq (once.optional (by decide) _)
    |>.seq (once.optional (by decide) _)
    |>.seq (once.optional (by decide) _)
    |>.seq (once.optional (by decide) _)

/-- However many levels deep fields are nested, each is loaded as its plain form. -/
theorem formFieldWithin_indifferent (level : Nat) : Indifferent (.one .field) (formFieldWithin level) := by
  induction level with
  | zero =>
    intro v _
    rw [formFieldWithin, formFieldWithin]
    exact .refl _
  | succ level ih =>
    intro v once
    cases v with
    | record es =>
      rw [plain_record rfl, formFieldWithin, formFieldWithin]
      exact assembleField_alike ih ((once_record_iff rfl).mp once)
    | _ => exact .refl _

theorem formFieldList_indifferent (level : Nat) :
    Indifferent (.many .field) (formFieldList level) := by
  rw [funext (formFieldList_eq level)]
  exact .listOf rfl (formFieldWithin_indifferent level)

theorem formSchema_indifferent : Indifferent (.one .schema) formSchema := by
  refine .record rfl _ fun es once => ?_
  exact (once.entry (by decide) _ _).map
    |>.seq (once.optional (by decide) _)
    |>.seq (once.optional (by decide) _)
    |>.seq (once.part (.head _) _ (formFieldList_indifferent deepest))
    |>.seq (once.optionalPart (.tail _ (.head _)) globalValidation_indifferent)
    |>.seq (once.optionalPart (.tail _ (.tail _ (.head _))) layout_indifferent)
    |>.seq (once.optionalPart (.tail _ (.tail _ (.tail _ (.head _)))) behavior_indifferent)

/-! ## What stands in a schema -/

/-- An attribute with one spelling is found under it. -/
theorem OnceIn.get? (once : OnceIn k es) (ha : a ∈ k.attributes) (only : a.keys = [a.name, a.name]) :
    Table.get? (es.map (plainEntry k)) a.name = (Table.get? es a.name).map (plain a.content) := by
  have find (t : Table Value) :
      Load.find? t a.keys = (Table.get? t a.name).map fun v => (a.name, v) := by
    rw [only]
    unfold Load.find? Load.find? Load.find?
    cases Table.get? t a.name <;> rfl
  rcases once.find? ha with ⟨none, none'⟩ | ⟨key, v, some, some', -⟩
  · rw [find, Option.map_eq_none_iff] at none none'
    rw [none, none']
    rfl
  · rw [find, Option.map_eq_some_iff] at some some'
    obtain ⟨_, found, same⟩ := some
    obtain ⟨_, found', same'⟩ := some'
    cases same
    cases same'
    rw [found, found']
    rfl

theorem OnceIn.entry_id (once : OnceIn .schema es) :
    Value.entry (es.map (plainEntry .schema)) "id" = Value.entry es "id" := by
  have found : Table.get? (es.map (plainEntry .schema)) "id" = (Table.get? es "id").map (plain .free) :=
    once.get? (Kind.usual_mem (by decide)) (by decide +kernel)
  unfold Value.entry
  rw [found]
  cases Table.get? es "id" with
  | none => rfl
  | some v => exact plain_free v

theorem fields_mem : Attribute.usual "fields" (.many .field) ∈ Kind.attributes .schema :=
  Kind.part_mem (.head _)

theorem fields_keys : (Attribute.usual "fields" (.many .field)).keys = ["fields", "fields"] := by
  decide +kernel

theorem OnceIn.entry_fields (once : OnceIn .schema es) :
    Value.entry (es.map (plainEntry .schema)) "fields" =
      plain (.many .field) (Value.entry es "fields") := by
  have found : Table.get? (es.map (plainEntry .schema)) "fields" =
      (Table.get? es "fields").map (plain (.many .field)) := once.get? fields_mem fields_keys
  unfold Value.entry
  rw [found]
  cases Table.get? es "fields" <;> rfl

/-- Where a key is that of one attribute only, it makes no difference whether the plain form is taken
before or after something is put under it. -/
theorem map_put {g : String × Value → String × Value} {key : String} {x y : Value}
    (own : ∀ e ∈ es, (g e).1 = key ↔ e.1 = key) (put : g (key, x) = (key, y)) :
    (Table.put es key x).map g = Table.put (es.map g) key y := by
  induction es with
  | nil => rw [List.map_nil, Table.put, Table.put, List.map_singleton, put]
  | cons e es ih =>
    obtain ⟨first, rest⟩ := List.forall_mem_cons.mp own
    rw [List.map_cons, Table.put, Table.put]
    by_cases same : e.1 = key
    · rw [if_pos same, if_pos (first.mpr same), List.map_cons, put]
    · rw [if_neg same, if_neg fun h => same (first.mp h), List.map_cons, ih rest]

theorem map_put_fields (es : Table Value) :
    (Table.put es "fields" (.list [])).map (plainEntry .schema) =
      Table.put (es.map (plainEntry .schema)) "fields" (.list []) := by
  have listed (key : String) :
      key ∈ (Attribute.usual "fields" (.many .field)).keys ↔ key = "fields" := by
    rw [fields_keys]
    simp
  refine map_put (fun e _ => ?_) (plainEntry_of_mem fields_mem ((listed _).mpr rfl) _)
  rw [← listed, ← listed]
  exact plainEntry_mem_keys fields_mem e

theorem OnceIn.put_fields (once : OnceIn .schema es) :
    OnceIn .schema (Table.put es "fields" (.list [])) where
  apart := by
    rw [map_put_fields]
    exact Table.nodup_keys_put once.apart _ _
  inside e he a declared := by
    rcases Table.mem_put he with rfl | he
    · rw [Kind.attribute?_of_mem fields_mem (by rw [fields_keys]; simp)] at declared
      cases declared
      rfl
    · exact once.inside e he a declared

end Spelling

namespace Wellformed

open Spelling

variable {es : Table Value}

/-- What is around the fields of a schema is that of its plain form. -/
theorem schemaShell_plain (once : OnceIn .schema es) :
    (schemaShell (es.map (plainEntry .schema))).1 = (schemaShell es).1 ∧
      ((schemaShell (es.map (plainEntry .schema))).2 = [] ↔ (schemaShell es).2 = []) := by
  have alike := formSchema_indifferent _ ((once_record_iff rfl).mpr once.put_fields)
  rw [plain_record rfl, map_put_fields] at alike
  have told := Load.formSchema_telling (.record (es.put "fields" (.list [])))
  have told' := Load.formSchema_telling
    (.record (Table.put (es.map (plainEntry .schema)) "fields" (.list [])))
  unfold schemaShell
  rw [once.entry_id]
  rcases alike.cases told told' with ⟨s, loads, loads'⟩ | ⟨is, js, fails, fails', some, some'⟩
  · rw [loads, loads']
    exact ⟨rfl, Iff.rfl⟩
  · rw [fails, fails']
    exact ⟨rfl, iff_of_false some' some⟩

/-- Two entries that are the same, or neither of which could be loaded. -/
inductive Entry.Alike : Entry → Entry → Prop
  | same (e : Entry) : Entry.Alike e e
  | broken (entries entries' : Table Value) {is js : List Issue} (some : is ≠ []) (some' : js ≠ []) :
    Entry.Alike (.broken entries is) (.broken entries' js)

theorem Entry.ofValue_plain {v : Value} (once : Once (.one .field) v) :
    Entry.Alike (ofValue v) (ofValue (plain (.one .field) v)) := by
  cases v with
  | record es =>
    have alike : (Load.formField _).Alike (Load.formField _) :=
      formFieldWithin_indifferent Load.deepest _ once
    have told := Load.formField_telling (.record es)
    have told' := Load.formField_telling (plain (.one .field) (.record es))
    rw [plain_record rfl] at alike told' ⊢
    unfold ofValue
    rcases alike.cases told told' with ⟨f, loads, loads'⟩ | ⟨is, js, fails, fails', some, some'⟩
    · rw [loads, loads']
      exact .same _
    · rw [fails, fails']
      exact .broken _ _ some some'
  | _ => exact .same _

namespace Entry.Alike

variable {e e' : Entry} {entries others : List Entry}

theorem loaded? (h : Entry.Alike e e') : e.loaded? = e'.loaded? := by
  cases h <;> rfl

theorem Findings.warnings_append (a b : Findings) : (a ++ b).warnings = a.warnings ++ b.warnings := rfl

/-- Of what is no field nothing is warned. -/
theorem warnings (h : Entry.Alike e e') (warnUnknown : Bool) (path : String) :
    (e.findings warnUnknown path).warnings = (e'.findings warnUnknown path).warnings := by
  have silent (condition : Bool) (message : String) : (errorIf condition message).warnings = [] := by
    unfold errorIf
    split <;> rfl
  cases h with
  | same e => rfl
  | broken entries entries' =>
    unfold Entry.findings
    simp only [Findings.warnings_append, silent]

/-- Two lists of such entries are the same, or something is said of each. -/
theorem same_or_broken (h : List.Forall₂ Entry.Alike entries others) (n : Nat) :
    entries = others ∨
      ((entries.zipIdx n).flatMap (fun e => e.1.loadErrors (entryPath e.2)) ≠ [] ∧
        (others.zipIdx n).flatMap (fun e => e.1.loadErrors (entryPath e.2)) ≠ []) := by
  induction h generalizing n with
  | nil => exact .inl rfl
  | cons first rest ih =>
    simp only [List.zipIdx_cons, List.flatMap_cons, ne_eq, List.append_eq_nil_iff, not_and_or]
    cases first with
    | same e =>
      rcases ih (n + 1) with rfl | ⟨some, some'⟩
      · exact .inl rfl
      · exact .inr ⟨.inr some, .inr some'⟩
    | broken _ _ some some' =>
      refine .inr ⟨.inl ?_, .inl ?_⟩ <;> unfold Entry.loadErrors <;>
        rw [List.map_eq_nil_iff] <;> assumption

theorem filterMap_loaded? (h : List.Forall₂ Entry.Alike entries others) :
    entries.filterMap Entry.loaded? = others.filterMap Entry.loaded? := by
  induction h with
  | nil => rfl
  | cons first rest ih => rw [List.filterMap_cons, List.filterMap_cons, first.loaded?, ih]

theorem entriesFindings_warnings (h : List.Forall₂ Entry.Alike entries others)
    (warnUnknown : Bool) :
    (entriesFindings warnUnknown entries.zipIdx).warnings =
      (entriesFindings warnUnknown others.zipIdx).warnings := by
  have whole (es : List (Entry × Nat)) : (entriesFindings warnUnknown es).warnings =
      es.flatMap fun e => (e.1.findings warnUnknown (entryPath e.2)).warnings := by
    unfold entriesFindings Findings.concat
    rw [Findings.warnings_append, Findings.warnings_append, List.append_nil, List.append_nil]
    exact List.flatMap_map ..
  rw [whole, whole]
  generalize 0 = n
  induction h generalizing n with
  | nil => rfl
  | cons first rest ih =>
    rw [List.zipIdx_cons, List.zipIdx_cons, List.flatMap_cons, List.flatMap_cons,
      first.warnings, ih]

end Entry.Alike

/-- Two reports that differ in the errors, if there are any in both. -/
structure SameVerdict (r r' : SchemaReport) : Prop where
  valid : r.isValid = r'.isValid
  warnings : r.warnings = r'.warnings
  schema : r.schema = r'.schema

theorem reportRaw_plain (once : OnceIn .schema es)
    (inside : Once (.many .field) (Value.entry es "fields")) (warnUnknown : Bool) :
    SameVerdict (reportRaw warnUnknown es)
      (reportRaw warnUnknown (es.map (plainEntry .schema))) := by
  obtain ⟨shell, complaints⟩ := schemaShell_plain once
  unfold reportRaw
  rw [once.entry_id, once.entry_fields]
  cases list : Value.entry es "fields" with
  | list items =>
    rw [list] at inside
    have alike : List.Forall₂ Entry.Alike (items.map Entry.ofValue)
        ((items.map (plain (.one .field))).map Entry.ofValue) := by
      rw [List.map_map, List.forall₂_map_left_iff, List.forall₂_map_right_iff]
      refine List.forall₂_same.mpr fun v hv => ?_
      exact Entry.ofValue_plain (inside.elements rfl rfl v hv)
    rw [plain_list rfl]
    dsimp only
    generalize items.map Entry.ofValue = entries at alike ⊢
    generalize (items.map (plain (.one .field))).map Entry.ofValue = others at alike ⊢
    refine ⟨?_, Entry.Alike.entriesFindings_warnings alike _, ?_⟩
    · unfold SchemaReport.isValid
      dsimp only
      rw [Bool.eq_iff_iff, List.isEmpty_iff, List.isEmpty_iff]
      simp only [List.append_eq_nil_iff, List.map_eq_nil_iff]
      rcases Entry.Alike.same_or_broken alike 0 with rfl | ⟨some, some'⟩
      · rw [complaints]
      · exact iff_of_false (fun h => some h.1.1.2) fun h => some' h.1.1.2
    · rw [filterMap_fst, filterMap_fst, Entry.Alike.filterMap_loaded? alike, shell]
  | _ => exact ⟨rfl, rfl, rfl⟩

end Wellformed

namespace SchemaSource

open Spelling Wellformed

/-- As much is found in a schema as in its plain form. -/
theorem report_plain {v : Value} (once : Once (.one .schema) v) (environment : Environment) :
    SameVerdict ((raw v).report environment) ((raw (plain (.one .schema) v)).report environment) := by
  cases v with
  | record es =>
    rw [plain_record rfl]
    have once := (once_record_iff rfl).mp once
    refine reportRaw_plain once ?_ _
    unfold Value.entry
    cases found : Table.get? es "fields" with
    | none => rfl
    | some v =>
      exact once.inside _ (Table.mem_of_get? found) _ (Kind.attribute?_name fields_mem)
  | _ => exact ⟨rfl, rfl, rfl⟩

theorem parse_of_sameVerdict {environment : Environment} {source other : SchemaSource}
    (same : SameVerdict (source.report environment) (other.report environment)) :
    ((source.report environment).isValid = true →
      ParsedSchema.parse environment source = ParsedSchema.parse environment other) ∧
      (ParsedSchema.parse environment source).toOption =
        (ParsedSchema.parse environment other).toOption := by
  obtain ⟨valid, -, schema⟩ := same
  unfold ParsedSchema.parse
  dsimp only
  rw [← valid, ← schema]
  cases (source.report environment).schema with
  | none =>
    refine ⟨fun isValid => ?_, rfl⟩
    have silent : (source.report environment).errors = [] := List.isEmpty_iff.mp isValid
    have silent' : (other.report environment).errors = [] := List.isEmpty_iff.mp (valid.symm.trans isValid)
    rw [silent, silent']
  | some s =>
    cases (source.report environment).isValid with
    | true => exact ⟨fun _ => rfl, rfl⟩
    | false => exact ⟨nofun, rfl⟩

end SchemaSource

namespace Spelling

/-- Two declarations that differ in the spelling of declared attributes only, however deep these are. -/
def Respelled (c : Content) (v w : Value) : Prop := plain c v = plain c w

/-- Renaming the key of an attribute is one way to spell a record differently. -/
theorem Respelled.key {c : Content} {k : Kind} {a : Attribute} (whole : c.whole = some k)
    (ha : a ∈ k.attributes) {key key' : String} (hk : key ∈ a.keys) (hk' : key' ∈ a.keys)
    {v w : Value} (inside : Respelled a.content v w) (before after : Table Value) :
    Respelled c (.record (before ++ (key, v) :: after)) (.record (before ++ (key', w) :: after)) := by
  have inside : plain a.content v = plain a.content w := inside
  unfold Respelled
  rw [plain_record whole, plain_record whole, List.map_append, List.map_append, List.map_cons,
    List.map_cons, plainEntry_of_mem ha hk, plainEntry_of_mem ha hk', inside]

/-- And so is to spell a record in a list differently. -/
theorem Respelled.item {c : Content} {k : Kind} (items : c.items = some k) {v w : Value}
    (inside : Respelled (.one k) v w) (before after : List Value) :
    Respelled c (.list (before ++ v :: after)) (.list (before ++ w :: after)) := by
  have inside : plain (.one k) v = plain (.one k) w := inside
  unfold Respelled
  rw [plain_list items, plain_list items, List.map_append, List.map_append, List.map_cons,
    List.map_cons, inside]

theorem Once.respelled {c : Content} {v w : Value} (once : Once c v) (h : Respelled c v w) :
    Once c w := by
  unfold Once
  rw [← h]
  exact once

theorem Indifferent.respelled {α : Type} {c : Content} {load : Value → Checked α}
    (h : Indifferent c load) {v w : Value} (once : Once c v) (respelled : Respelled c v w) :
    (load v).toOption = (load w).toOption := by
  have own := h v once
  rw [respelled] at own
  exact own.trans (h w (once.respelled respelled)).symm

/-- Under which of its spellings an attribute stands does not matter. Where no record gives an attribute
twice, a field and a schema that are spelled differently are loaded as the same, or not at all; the
schemas are valid or not alike, with the same warnings; and they are parsed to the same, where they are
valid also with the same fault. -/
theorem spelling_indifferent (v w : Value) :
    (Once (.one .field) v → Respelled (.one .field) v w →
      (Load.formField v).toOption = (Load.formField w).toOption) ∧
    (Once (.one .schema) v → Respelled (.one .schema) v w →
      (Load.formSchema v).toOption = (Load.formSchema w).toOption ∧
      ∀ environment,
        let report := (SchemaSource.raw v).report environment
        let report' := (SchemaSource.raw w).report environment
        report.isValid = report'.isValid ∧ report.warnings = report'.warnings ∧
          report.schema = report'.schema ∧
          (report.isValid = true → ParsedSchema.parse environment (.raw v) =
            ParsedSchema.parse environment (.raw w)) ∧
          (ParsedSchema.parse environment (.raw v)).toOption =
            (ParsedSchema.parse environment (.raw w)).toOption) := by
  refine ⟨(formFieldWithin_indifferent Load.deepest).respelled, fun once respelled =>
    ⟨formSchema_indifferent.respelled once respelled, fun environment => ?_⟩⟩
  have own := SchemaSource.report_plain once environment
  have other := SchemaSource.report_plain (once.respelled respelled) environment
  rw [← respelled] at other
  have same : Wellformed.SameVerdict ((SchemaSource.raw v).report environment)
      ((SchemaSource.raw w).report environment) :=
    ⟨own.valid.trans other.valid.symm, own.warnings.trans other.warnings.symm,
      own.schema.trans other.schema.symm⟩
  exact ⟨same.valid, same.warnings, same.schema, SchemaSource.parse_of_sameVerdict same⟩

/-- A list whose items have a default, a rule that waits and a condition with a predicate, beside an
attribute that is not declared; the keys are those given. -/
def listOfItems (items default async debounce predicate : String) : Value :=
  .record [("id", .str "a"), ("type", .str "array"), ("label", .str "A"), ("tabIndex", .int 1),
    (items, .record [
      ("id", .str "b"), ("type", .str "text"), ("label", .str "B"), (default, .str "x"),
      ("validation", .record [(async, .list [.record [
        ("name", .str "r"), ("message", .str "m"), ("validator", .entity .deferredFunction 0 .null),
        (debounce, .int 5)]])]),
      ("conditional", .record [("show", .list [.record [
        ("field", .str "a"), ("operator", .str "custom"),
        (predicate, .entity .function 1 .null)]])])])]

theorem listOfItems_indifferent :
    let field := listOfItems "itemSchema" "defaultValue" "async" "debounceMs" "customRule"
    let field' := listOfItems "item_schema" "default_value" "async_rules" "debounce_ms" "custom_predicate"
    let schema := Value.record [("id", .str "form"), ("fields", .list [field])]
    let schema' := Value.record [("id", .str "form"), ("fields", .list [field'])]
    (Once (.one .field) field ∧ Respelled (.one .field) field field' ∧
      (Load.formField field').toOption.isSome = true ∧
      (Load.formField field).toOption = (Load.formField field').toOption) ∧
    Once (.one .schema) schema ∧ Respelled (.one .schema) schema schema' ∧
      (Load.formSchema schema).toOption = (Load.formSchema schema').toOption ∧
      (ParsedSchema.parse [] (.raw schema)).toOption =
        (ParsedSchema.parse [] (.raw schema')).toOption := by
  intro field field' schema schema'
  have once : Once (.one .schema) schema := by decide +kernel
  have onceFields : Once (.many .field) (.list [field]) :=
    ((once_record_iff rfl).mp once).inside ("fields", .list [field]) (by simp) _
      (Kind.attribute?_name fields_mem)
  have onceField : Once (.one .field) field := onceFields.elements rfl rfl field List.mem_cons_self
  have respelledField : Respelled (.one .field) field field' := by
    have items : Attribute.usual "item_schema" (.one .field) ∈ Kind.attributes .field :=
      Kind.part_mem (.tail _ (.tail _ (.tail _ (.head _))))
    exact .key rfl items (by decide +kernel) (by decide +kernel) (by rfl)
      [("id", .str "a"), ("type", .str "array"), ("label", .str "A"), ("tabIndex", .int 1)] []
  have fields : Respelled (.many .field) (.list [field]) (.list [field']) :=
    .item rfl respelledField [] []
  have respelled : Respelled (.one .schema) schema schema' :=
    .key rfl fields_mem (by decide +kernel) (by decide +kernel) fields [("id", .str "form")] []
  obtain ⟨same, verdict⟩ := (spelling_indifferent schema schema').2 once respelled
  refine ⟨⟨onceField, respelledField, by decide +kernel, ?_⟩, once, respelled, same,
    (verdict []).2.2.2.2⟩
  exact (spelling_indifferent field field').1 onceField respelledField

end Spelling

end FormEngine
