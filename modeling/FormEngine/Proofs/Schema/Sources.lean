import FormEngine.Proofs.Schema.Coherence

/-!
A schema that is given as data and the schema that it is loaded as. The data is looked at field by
field, and what is around the fields without them; the schema is loaded in one step. Where loading it
has nothing to complain about, both ways see the same fields and the same attributes, so that nothing
that is said of one is not said of the other.
-/

namespace FormEngine

namespace Checked

variable {α β : Type}

theorem map_eq_ok {f : α → β} {x : Checked α} {b : β} :
    f <$> x = .ok b ↔ ∃ a, x = .ok a ∧ f a = b := by
  cases x with
  | ok a =>
    refine ⟨fun h => ⟨a, rfl, ok.inj h⟩, ?_⟩
    rintro ⟨_, ⟨⟩, rfl⟩
    rfl
  | failed is => exact ⟨fun h => (nomatch h), fun ⟨_, h, _⟩ => (nomatch h)⟩

theorem seq_eq_ok {f : Checked (α → β)} {x : Checked α} {b : β} :
    f <*> x = .ok b ↔ ∃ g, f = .ok g ∧ ∃ a, x = .ok a ∧ g a = b := by
  cases f with
  | ok g =>
    have whole : (Checked.ok g <*> x) = g <$> x := by cases x <;> rfl
    rw [whole, map_eq_ok]
    exact ⟨fun h => ⟨g, rfl, h⟩, fun ⟨_, same, h⟩ => by cases same; exact h⟩
  | failed is =>
    have whole : ∃ js, ((Checked.failed is : Checked (α → β)) <*> x) = .failed js := by
      cases x with
      | ok a => exact ⟨is, rfl⟩
      | failed js => exact ⟨is ++ js, rfl⟩
    obtain ⟨js, whole⟩ := whole
    rw [whole]
    exact ⟨fun h => (nomatch h), fun ⟨_, h, _⟩ => (nomatch h)⟩

theorem under_eq_ok {step : PathStep} {x : Checked α} {a : α} : x.under step = .ok a ↔ x = .ok a := by
  cases x with
  | ok b => exact Iff.rfl
  | failed is => exact ⟨fun h => (nomatch h), fun h => (nomatch h)⟩

end Checked

namespace Load

open Checked (map_eq_ok seq_eq_ok under_eq_ok)

variable {α : Type} {entries : Table Value}

theorem find?_congr {others : Table Value} {keys : List String}
    (same : ∀ key ∈ keys, entries.get? key = others.get? key) :
    find? entries keys = find? others keys := by
  induction keys with
  | nil => rfl
  | cons key keys ih =>
    obtain ⟨first, rest⟩ := List.forall_mem_cons.mp same
    unfold find?
    rw [first, ih rest]

/-- What an attribute is loaded as is due to what stands under its spellings. -/
theorem entry_congr {others : Table Value} {name : String}
    (same : ∀ key ∈ spellings name, entries.get? key = others.get? key) (missing : α)
    (load : Value → Checked α) : entry entries name missing load = entry others name missing load := by
  unfold entry among
  rw [find?_congr same]

theorem entry_put {name key : String} (v : Value) (other : key ∉ spellings name) (missing : α)
    (load : Value → Checked α) :
    entry (entries.put key v) name missing load = entry entries name missing load := by
  refine entry_congr (fun spelling listed => ?_) missing load
  exact Table.get?_put_ne entries v fun same => other (same ▸ listed)

theorem entry_found {name : String} {v : Value} (found : entries.get? name = some v)
    (only : spellings name = [name, name]) (missing : α) (load : Value → Checked α) :
    entry entries name missing load = (load v).underKey name := by
  unfold entry among
  rw [only]
  unfold find?
  rw [found]

theorem entry_missing {name : String} (missed : entries.get? name = none)
    (only : spellings name = [name, name]) (missing : α) (load : Value → Checked α) :
    entry entries name missing load = .ok missing := by
  unfold entry among
  rw [only]
  unfold find?
  rw [missed]
  unfold find?
  rw [missed]
  rfl

theorem text_eq_ok {v : Value} {s : String} : Scalar.text v = .ok s ↔ v.text? = some s := by
  unfold Scalar.text
  cases v.text? with
  | none => exact ⟨fun h => (nomatch h), fun h => (nomatch h)⟩
  | some t => exact ⟨fun h => congrArg some (Checked.ok.inj h), fun h => congrArg _ (Option.some.inj h)⟩

/-- A missing or empty text is one that does not count as true. -/
theorem truthy_of_text {s : String} {v : Value} (h : v.text? = some s) : v.truthy = !s.isEmpty := by
  have counts : (s != "") = !s.isEmpty := by
    rw [Bool.eq_iff_iff]
    simp
  cases v with
  | str t =>
    cases h
    exact counts
  | name vocabulary t =>
    cases h
    exact counts
  | _ => cases h

/-- An id that can be loaded is the text in the data, or empty. -/
theorem id_of_ok {id : String} (loads : entry entries "id" "" Scalar.text = .ok id) :
    ((Value.entry entries "id").text?).getD "" = id ∧
      (Value.entry entries "id").truthy = !id.isEmpty := by
  have only : spellings "id" = ["id", "id"] := by decide +kernel
  unfold Value.entry
  cases found : entries.get? "id" with
  | none =>
    rw [entry_missing found only] at loads
    cases loads
    exact ⟨rfl, rfl⟩
  | some v =>
    rw [entry_found found only, Checked.underKey, under_eq_ok, text_eq_ok] at loads
    rw [Option.getD_some, loads]
    exact ⟨rfl, truthy_of_text loads⟩

/-- A schema is loaded attribute by attribute. -/
theorem formSchema_eq_ok {s : FormSchema} :
    formSchema (.record entries) = .ok s ↔
      entry entries "id" "" Scalar.text = .ok s.id ∧
        optional entries "title" Scalar.text = .ok s.title ∧
        optional entries "description" Scalar.text = .ok s.description ∧
        entry entries "fields" [] (formFieldList deepest) = .ok s.fields ∧
        optional entries "validation" globalValidation = .ok s.validation ∧
        optional entries "layout" layout = .ok s.layout ∧
        optional entries "behavior" behavior = .ok s.behavior := by
  unfold formSchema record
  dsimp only [Value.record?]
  simp only [seq_eq_ok, map_eq_ok]
  constructor
  · rintro ⟨_, ⟨_, ⟨_, ⟨_, ⟨_, ⟨_, ⟨id, hid, rfl⟩, title, ht, rfl⟩, description, hd, rfl⟩, fields, hf,
      rfl⟩, validation, hv, rfl⟩, layout, hl, rfl⟩, behavior, hb, rfl⟩
    exact ⟨hid, ht, hd, hf, hv, hl, hb⟩
  · rintro ⟨hid, ht, hd, hf, hv, hl, hb⟩
    exact ⟨_, ⟨_, ⟨_, ⟨_, ⟨_, ⟨_, ⟨_, hid, rfl⟩, _, ht, rfl⟩, _, hd, rfl⟩, _, hf, rfl⟩, _, hv, rfl⟩,
      _, hl, rfl⟩, _, hb, rfl⟩

/-- The attributes around the fields are loaded as they are when there are no fields. -/
theorem formSchema_emptied {s : FormSchema} (loads : formSchema (.record entries) = .ok s) :
    formSchema (.record (entries.put "fields" (.list []))) = .ok { s with fields := [] } := by
  obtain ⟨hid, ht, hd, -, hv, hl, hb⟩ := formSchema_eq_ok.mp loads
  have only : spellings "fields" = ["fields", "fields"] := by decide +kernel
  have none : entry (entries.put "fields" (.list [])) "fields" [] (formFieldList deepest) = .ok [] := by
    rw [entry_found (Table.get?_put_self ..) only]
    rfl
  exact formSchema_eq_ok.mpr ⟨(entry_put _ (by decide +kernel) _ _).trans hid,
    (entry_put _ (by decide +kernel) _ _).trans ht, (entry_put _ (by decide +kernel) _ _).trans hd,
    none, (entry_put _ (by decide +kernel) _ _).trans hv,
    (entry_put _ (by decide +kernel) _ _).trans hl, (entry_put _ (by decide +kernel) _ _).trans hb⟩

theorem formFieldItems_eq_ok {level n : Nat} {vs : List Value} {fs : List FormField}
    (h : formFieldItems level n vs = .ok fs) :
    List.Forall₂ (fun v f => formFieldWithin level v = .ok f) vs fs := by
  induction vs generalizing n fs with
  | nil =>
    cases h
    exact .nil
  | cons v vs ih =>
    rw [formFieldItems, seq_eq_ok] at h
    obtain ⟨_, first, rest, others, rfl⟩ := h
    obtain ⟨f, loads, rfl⟩ := map_eq_ok.mp first
    exact .cons (under_eq_ok.mp loads) (ih others)

theorem get?_of_list {key : String} {items : List Value}
    (list : Value.entry entries key = .list items) : entries.get? key = some (.list items) := by
  unfold Value.entry at list
  cases found : entries.get? key with
  | none =>
    rw [found] at list
    cases list
  | some v =>
    rw [found] at list
    exact congrArg some list

/-- The fields of a schema that is loaded in one step are those that its entries are loaded as. -/
theorem fields_of_formSchema {s : FormSchema} {items : List Value}
    (list : Value.entry entries "fields" = .list items)
    (loads : formSchema (.record entries) = .ok s) :
    List.Forall₂ (fun v f => formField v = .ok f) items s.fields := by
  have only : spellings "fields" = ["fields", "fields"] := by decide +kernel
  have fields := (formSchema_eq_ok.mp loads).2.2.2.1
  rw [entry_found (get?_of_list list) only, Checked.underKey, under_eq_ok, formFieldList] at fields
  exact formFieldItems_eq_ok fields

end Load

namespace Wellformed

theorem Entry.ofValue_of_ok {v : Value} {f : FormField} (loads : Load.formField v = .ok f) :
    Entry.ofValue v = .field f := by
  fun_induction Entry.ofValue v with
  | case1 entries g same =>
    rw [loads] at same
    cases same
    rfl
  | case2 entries is fails =>
    rw [loads] at fails
    cases fails
  | case3 key description ih =>
    rw [Load.formField_entity] at loads
    exact ih loads
  | case4 v record loaded =>
    rw [Load.formField_other record loaded] at loads
    cases loads

variable {raw : Table Value} {items : List Value} {s : FormSchema}

/-- The entries of a schema that is loaded in one step are its fields. -/
theorem entries_of_formSchema (list : Value.entry raw "fields" = .list items)
    (loads : Load.formSchema (.record raw) = .ok s) :
    items.map Entry.ofValue = s.fields.map Entry.field := by
  have each := (Load.fields_of_formSchema list loads).imp fun _ _ => Entry.ofValue_of_ok
  refine (congrFun₂ List.forall₂_eq_eq_eq _ _).mp ?_
  rw [List.forall₂_map_left_iff, List.forall₂_map_right_iff]
  exact each

/-- A choice that does not look at the positions. -/
theorem filterMap_fst {α β : Type} (g : α → Option β) (xs : List α) (n : Nat) :
    ((xs.zipIdx n).filterMap fun e => g e.1) = xs.filterMap g := by
  conv => rhs; rw [← List.zipIdx_map_fst n xs]
  rw [List.filterMap_map]
  rfl

/-- Of a schema that is loaded in one step as much is found in the data as in what it is loaded as. -/
theorem reportRaw_eq_reportLoaded (list : Value.entry raw "fields" = .list items)
    (loads : Load.formSchema (.record raw) = .ok s) (warnUnknown : Bool) :
    reportRaw warnUnknown raw = reportLoaded warnUnknown s := by
  have entries := entries_of_formSchema list loads
  obtain ⟨-, truthy⟩ := Load.id_of_ok (Load.formSchema_eq_ok.mp loads).1
  -- the schema around the entries is loaded apart from them, as if it had none
  have shell : schemaShell raw = ({ s with fields := [] }, []) := by
    unfold schemaShell
    rw [Load.formSchema_emptied loads]
  have complaints : ((s.fields.map Entry.field).zipIdx.flatMap fun e =>
      e.1.loadErrors (entryPath e.2)) = [] := by
    rw [List.flatMap_eq_nil_iff]
    intro e he
    obtain ⟨f, -, hf⟩ := List.mem_map.mp (List.fst_mem_of_mem_zipIdx he)
    rw [← hf]
    rfl
  have kept : ((s.fields.map Entry.field).zipIdx.filterMap fun e => e.1.loaded?) = s.fields := by
    rw [filterMap_fst, List.filterMap_map]
    exact List.filterMap_some
  unfold reportRaw reportLoaded
  dsimp only
  rw [list]
  dsimp only
  rw [entries, shell, complaints, kept, truthy]
  cases s.id.isEmpty <;> rfl

end Wellformed

theorem ParsedSchema.parse_congr {environment : Environment} {source other : SchemaSource}
    (same : source.report environment = other.report environment) :
    parse environment source = parse environment other := by
  unfold parse
  rw [same]

namespace SchemaSource

/-- A schema that can be loaded in one step is treated as what it is loaded as: as much is found in one
as in the other, what the data is parsed to is what its own schema is parsed to, and a fault with which
the data is refused is the one with which the schema is. -/
theorem data_as_loaded (environment : Environment) {entries : Table Value} {items : List Value}
    {s : FormSchema} (list : Value.entry entries "fields" = .list items)
    (loads : Load.formSchema (.record entries) = .ok s) :
    (raw (.record entries)).report environment = (loaded s).report environment ∧
      ((raw (.record entries)).report environment).schema = some s ∧
      (∀ parsed, ParsedSchema.parse environment (.raw (.record entries)) = .ok parsed →
        ParsedSchema.parse environment (.loaded parsed.schema) = .ok parsed) ∧
      ∀ e, ParsedSchema.parse environment (.raw (.record entries)) = .error e →
        ParsedSchema.parse environment (.loaded s) = .error e := by
  have same : (raw (.record entries)).report environment = (loaded s).report environment :=
    Wellformed.reportRaw_eq_reportLoaded list loads _
  have alike := ParsedSchema.parse_congr same
  refine ⟨same, congrArg SchemaReport.schema same, ?_, ?_⟩
  · intro parsed made
    rw [alike] at made
    obtain ⟨schema, rules, found, -, -, -, assembled⟩ := ParsedSchema.parse_eq_ok made
    have own : parsed.schema = s := by
      rw [assembled]
      exact (Option.some.inj found).symm
    rwa [own]
  · intro e refused
    rwa [← alike]

def plainEntry : Value :=
  .record [("id", .str "a"), ("type", .str "text"), ("label", .str "A")]

/-- The data of a schema that has a field twice, as it is and as a field that is loaded already. -/
def repeatedData : Table Value :=
  [("id", .str "form"), ("fields", .list [plainEntry, .entity .field 0 plainEntry])]

theorem repeatedData_as_loaded : ∃ s,
    Value.entry repeatedData "fields" = .list [plainEntry, .entity .field 0 plainEntry] ∧
      Load.formSchema (.record repeatedData) = .ok s ∧
      (raw (.record repeatedData)).report [] = (loaded s).report [] := by
  cases loads : Load.formSchema (.record repeatedData) with
  | failed is =>
    have done : (Load.formSchema (.record repeatedData)).toOption.isSome = true := by
      decide +kernel
    rw [loads] at done
    cases done
  | ok s => exact ⟨s, rfl, rfl, (data_as_loaded [] rfl loads).1⟩

end SchemaSource

end FormEngine
