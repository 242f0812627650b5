import FormEngine.Proofs.Schema.Sources

/-!
What is found in one entry of a schema hides nothing that is found in another. The messages on an entry
are due to it and its position, those on its conditions to it and to the ids that there are; whether
warnings are asked for makes no difference to them. Hence an entry can be exchanged for one with the same
id, well or badly made, and all other messages stay as they are and where they are.
-/

namespace FormEngine

namespace Load

/-- What holds of the results of a function that was made, whatever it is given, holds of the result
for the next part. -/
theorem seq_yields {α β : Type} {f : Checked (α → β)} {x : Checked α} {p : β → Prop}
    (h : ∀ g, f = .ok g → ∀ a, p (g a)) : ∀ b, f <*> x = .ok b → p b := by
  intro b made
  obtain ⟨g, hg, a, -, rfl⟩ := Checked.seq_eq_ok.mp made
  exact h g hg a

/-- The id of a field is loaded first, and no later attribute alters it. -/
theorem id_of_assembleField {entries : Table Value} {nested : Nested} :
    ∀ f, assembleField entries nested = .ok f → entry entries "id" "" Scalar.text = .ok f.id := by
  unfold assembleField
  iterate 26 refine seq_yields ?_
  intro g first
  obtain ⟨id, loads, rfl⟩ := Checked.map_eq_ok.mp first
  intros
  exact loads

theorem id_of_formField {entries : Table Value} {f : FormField}
    (loads : formField (.record entries) = .ok f) :
    ((Value.entry entries "id").text?).getD "" = f.id := by
  unfold formField deepest at loads
  rw [formFieldWithin] at loads
  exact (id_of_ok (id_of_assembleField f loads)).1

end Load

namespace Wellformed

theorem Findings.errors_append (a b : Findings) : (a ++ b).errors = a.errors ++ b.errors := rfl

theorem typeFindings_errors (f : FieldAttributes) (path : String) (w w' : Bool) :
    (typeFindings f path w).errors = (typeFindings f path w').errors := by
  unfold typeFindings
  split <;> rfl

mutual

/-- Asking for warnings makes no difference to the errors in a field. -/
theorem fieldFindings_errors (w w' : Bool) (path : String) : (f : FormField) →
    (fieldFindings w path f).errors = (fieldFindings w' path f).errors
  | ⟨f, itemSchema, fields⟩ => by
    unfold fieldFindings
    split
    · rfl
    · have items := itemFindings_errors w w' path itemSchema
      have group := groupFindings_errors w w' path fields
      simp only [Findings.errors_append, typeFindings_errors f path w w']
      split <;> split <;> simp only [items, group]

theorem itemFindings_errors (w w' : Bool) (path : String) : (f : Option FormField) →
    (itemFindings w path f).errors = (itemFindings w' path f).errors
  | none => rfl
  | some f => fieldFindings_errors w w' (path ++ ".item_schema") f

theorem groupFindings_errors (w w' : Bool) (path : String) : (fs : Option (List FormField)) →
    (groupFindings w path fs).errors = (groupFindings w' path fs).errors
  | none => rfl
  | some fs => by
    unfold groupFindings
    rw [Findings.errors_append, Findings.errors_append, memberFindings_errors w w' path 0 fs]

theorem memberFindings_errors (w w' : Bool) (path : String) : (n : Nat) → (fs : List FormField) →
    (memberFindings w path n fs).errors = (memberFindings w' path n fs).errors
  | _, [] => rfl
  | n, f :: fs => by
    unfold memberFindings
    rw [Findings.errors_append, Findings.errors_append,
      fieldFindings_errors w w' (path ++ ".fields[" ++ toString n ++ "]") f,
      memberFindings_errors w w' path (n + 1) fs]

end

/-- The id of an entry that is an object; one that is no text counts as empty. -/
def objectId? : Value → Option String
  | .record entries => some (((Value.entry entries "id").text?).getD "")
  | .entity .field _ description => objectId? description
  | _ => none

theorem Entry.id?_ofValue (v : Value) : (ofValue v).id? = objectId? v := by
  fun_induction Entry.ofValue v with
  | case1 entries f loads => exact congrArg some (Load.id_of_formField loads).symm
  | case2 entries is fails => rfl
  | case3 key description ih => exact ih
  | case4 v record loaded =>
    unfold objectId?
    split
    · next entries => exact absurd rfl (record entries)
    · next key description => exact absurd rfl (loaded key description)
    · rfl

theorem Entry.loaded?_ofValue (v : Value) : (ofValue v).loaded? = (Load.formField v).toOption := by
  fun_induction Entry.ofValue v with
  | case1 entries f loads =>
    rw [loads]
    rfl
  | case2 entries is fails =>
    rw [fails]
    rfl
  | case3 key description ih => rw [ih, Load.formField_entity]
  | case4 v record loaded =>
    rw [Load.formField_other record loaded]
    rfl

theorem Entry.findings_errors (e : Entry) (w w' : Bool) (path : String) :
    (e.findings w path).errors = (e.findings w' path).errors := by
  cases e with
  | field f => exact fieldFindings_errors w w' path f
  | broken entries is => rfl
  | notARecord => rfl

/-- What is said of an entry at a position because it is no object or cannot be loaded. -/
def loadMessages (n : Nat) (v : Value) : List String :=
  (Entry.ofValue v).loadErrors (entryPath n)

/-- What is said of the attributes of an entry at a position and of those nested in it. -/
def structuralMessages (n : Nat) (v : Value) : List String :=
  ((Entry.ofValue v).findings false (entryPath n)).errors

/-- What is said of the conditions of an entry, given the ids that can be referred to. -/
def conditionalMessages (available : List String) (v : Value) : List String :=
  (Entry.ofValue v).conditionErrors available

/-- What is said of a schema before its entries are looked at. -/
def schemaMessages (raw : Table Value) : List String :=
  if (Value.entry raw "id").truthy then [] else ["Schema id is required"]

/-- What loading the attributes of a schema without its fields complains of. -/
def shellMessages (raw : Table Value) : List String :=
  (schemaShell raw).2.map (issueText "")

/-- The ids to which conditions of a list of entries can refer. -/
def availableIds (items : List Value) : List String :=
  (items.filterMap objectId?).filter fun id => !id.isEmpty

variable {raw : Table Value} {items : List Value}

/-- The messages on a schema, in order: each entry contributes to three places of them. -/
theorem errors_reportRaw (list : Value.entry raw "fields" = .list items) (warnUnknown : Bool) :
    (reportRaw warnUnknown raw).errors =
      schemaMessages raw ++ items.zipIdx.flatMap (fun e => loadMessages e.2 e.1) ++
        shellMessages raw ++ items.zipIdx.flatMap (fun e => structuralMessages e.2 e.1) ++
        duplicateErrors (items.filterMap objectId?) ++
        items.flatMap (conditionalMessages (availableIds items)) := by
  have ids : ((items.map Entry.ofValue).zipIdx.filterMap fun e => e.1.id?) =
      items.filterMap objectId? := by
    rw [filterMap_fst, List.filterMap_map]
    exact congrArg (items.filterMap ·) (funext Entry.id?_ofValue)
  have conditions : (items.zipIdx.flatMap fun e =>
      conditionalMessages (availableIds items) e.1) =
        items.flatMap (conditionalMessages (availableIds items)) := by
    conv => rhs; enter [2]; rw [← List.zipIdx_map_fst 0 items]
    rw [List.flatMap_map]
  have structural : (items.zipIdx.flatMap fun e =>
      ((Entry.ofValue e.1).findings warnUnknown (entryPath e.2)).errors) =
        items.zipIdx.flatMap fun e => structuralMessages e.2 e.1 :=
    congrArg (items.zipIdx.flatMap ·) (funext fun e => Entry.findings_errors _ _ _ _)
  rw [← structural, ← conditions]
  unfold reportRaw
  dsimp only
  rw [list]
  unfold entriesFindings
  dsimp only
  rw [ids, List.zipIdx_map]
  simp only [Findings.errors_append, Findings.concat, List.flatMap_map, ← List.append_assoc]
  rfl

/-- The schema keeps the entries that loaded, in order. -/
theorem fields_reportRaw (list : Value.entry raw "fields" = .list items) (warnUnknown : Bool) :
    (reportRaw warnUnknown raw).schema.map FormSchema.fields =
      some (items.filterMap fun v => (Load.formField v).toOption) := by
  unfold reportRaw
  dsimp only
  rw [list]
  dsimp only
  rw [filterMap_fst, List.filterMap_map]
  exact congrArg (fun g => some (items.filterMap g)) (funext Entry.loaded?_ofValue)

/-- All messages on a schema but those on one of its entries, with a gap for each of the three kinds of
them. -/
structure Surroundings where
  before : List String
  behindLoad : List String
  behindStructure : List String
  behindConditions : List String

def Surroundings.around (s : Surroundings) (load structural conditional : List String) :
    List String :=
  s.before ++ load ++ s.behindLoad ++ structural ++ s.behindStructure ++ conditional ++
    s.behindConditions

/-- The messages on a list of entries, as those on one of them with those on the others around it. -/
theorem flatMap_zipIdx_split {α β : Type} (f : α × Nat → List β) (before after : List α) (a : α) :
    (before ++ a :: after).zipIdx.flatMap f =
      before.zipIdx.flatMap f ++ f (a, before.length) ++
        (after.zipIdx (before.length + 1)).flatMap f := by
  rw [List.zipIdx_append, List.zipIdx_cons, List.flatMap_append, List.flatMap_cons, Nat.zero_add,
    List.append_assoc]

/-- An entry is exchanged for one with the same id, and the messages on the others stay. -/
theorem errors_exchanged (raw : Table Value) (before after : List Value) (v : Value) :
    ∃ s : Surroundings, ∀ warnUnknown w, objectId? w = objectId? v →
      (reportRaw warnUnknown (raw.put "fields" (.list (before ++ w :: after)))).errors =
        s.around (loadMessages before.length w) (structuralMessages before.length w)
          (conditionalMessages (availableIds (before ++ v :: after)) w) := by
  let load := fun e : Value × Nat => loadMessages e.2 e.1
  let structural := fun e : Value × Nat => structuralMessages e.2 e.1
  let ids := (before ++ v :: after).filterMap objectId?
  let conditional := conditionalMessages (availableIds (before ++ v :: after))
  refine ⟨{
    before := schemaMessages raw ++ before.zipIdx.flatMap load
    behindLoad := (after.zipIdx (before.length + 1)).flatMap load ++ shellMessages raw ++
      before.zipIdx.flatMap structural
    behindStructure := (after.zipIdx (before.length + 1)).flatMap structural ++ duplicateErrors ids ++
      before.flatMap conditional
    behindConditions := after.flatMap conditional }, fun warnUnknown w same => ?_⟩
  -- what is said of the others depends on the entry through its id only
  have known : (before ++ w :: after).filterMap objectId? = ids := by
    unfold ids
    rw [List.filterMap_append, List.filterMap_append, List.filterMap_cons, List.filterMap_cons, same]
  have put : Value.entry (raw.put "fields" (.list (before ++ w :: after))) "fields" =
      .list (before ++ w :: after) := by
    unfold Value.entry
    rw [Table.get?_put_self]
    rfl
  have own : schemaMessages (raw.put "fields" (.list (before ++ w :: after))) = schemaMessages raw := by
    unfold schemaMessages Value.entry
    rw [Table.get?_put_ne _ _ (by decide)]
  have shell : shellMessages (raw.put "fields" (.list (before ++ w :: after))) = shellMessages raw := by
    unfold shellMessages schemaShell Value.entry
    rw [Table.put_put, Table.get?_put_ne _ _ (by decide)]
  rw [errors_reportRaw put, own, shell, known, availableIds, known, flatMap_zipIdx_split,
    flatMap_zipIdx_split, List.flatMap_append, List.flatMap_cons]
  simp only [Surroundings.around, load, structural, conditional, List.append_assoc]
  rfl

/-- On an entry that is no object nothing is said but that. -/
theorem messages_of_no_object {v : Value} (none : objectId? v = none) (n : Nat)
    (available : List String) :
    loadMessages n v = [entryPath n ++ " must be an object"] ∧ structuralMessages n v = [] ∧
      conditionalMessages available v = [] := by
  have entry : Entry.ofValue v = .notARecord := by
    rw [← Entry.id?_ofValue] at none
    cases h : Entry.ofValue v with
    | notARecord => rfl
    | _ =>
      rw [h] at none
      cases none
  unfold loadMessages structuralMessages conditionalMessages
  rw [entry]
  exact ⟨rfl, rfl, rfl⟩

end Wellformed

namespace SchemaSource

open Wellformed

/-- No entry of a schema hides what is found in another: the messages are those on the schema, on each
entry, on the attributes around them and on ids that occur twice, in this order; all entries that can be
loaded are kept; and where an entry is exchanged for one with the same id, its own messages are
exchanged and all others stay. -/
theorem entries_isolated {entries : Table Value} {items : List Value}
    (list : Value.entry entries "fields" = .list items) :
    (∀ environment,
      ((raw (.record entries)).report environment).errors =
        schemaMessages entries ++ items.zipIdx.flatMap (fun e => loadMessages e.2 e.1) ++
          shellMessages entries ++ items.zipIdx.flatMap (fun e => structuralMessages e.2 e.1) ++
          duplicateErrors (items.filterMap objectId?) ++
          items.flatMap (conditionalMessages (availableIds items)) ∧
      ((raw (.record entries)).report environment).schema.map FormSchema.fields =
        some (items.filterMap fun v => (Load.formField v).toOption)) ∧
      (∀ v ∈ items, objectId? v = none → ∀ n,
        loadMessages n v = [entryPath n ++ " must be an object"] ∧ structuralMessages n v = [] ∧
          conditionalMessages (availableIds items) v = []) ∧
      ∀ before v after, items = before ++ v :: after → ∃ s : Surroundings, ∀ environment,
        ((raw (.record entries)).report environment).errors =
          s.around (loadMessages before.length v) (structuralMessages before.length v)
            (conditionalMessages (availableIds items) v) ∧
        ∀ w, objectId? w = objectId? v →
          ((raw (.record (entries.put "fields" (.list (before ++ w :: after))))).report
              environment).errors =
            s.around (loadMessages before.length w) (structuralMessages before.length w)
              (conditionalMessages (availableIds items) w) := by
  refine ⟨fun environment => ⟨errors_reportRaw list _, fields_reportRaw list _⟩,
    fun v _ none n => messages_of_no_object none n _, ?_⟩
  rintro before v after rfl
  obtain ⟨s, exchanged⟩ := errors_exchanged entries before after v
  refine ⟨s, fun environment => ⟨?_, fun w same => exchanged _ w same⟩⟩
  have own : entries.put "fields" (.list (before ++ v :: after)) = entries :=
    Table.put_self (Load.get?_of_list list)
  have errors := exchanged (Setting.warnUnknownTypes.read environment).truthy v rfl
  rw [own] at errors
  exact errors

/-- An entry whose label is no text, one that is no object and one that can be loaded. -/
def mixedEntries : List Value :=
  [.record [("id", .str "a"), ("type", .str "text"), ("label", .int 1)], .int 3, plainEntry]

theorem mixedEntries_isolated :
    Value.entry [("id", .str "form"), ("fields", .list mixedEntries)] "fields" = .list mixedEntries ∧
      ((raw (.record [("id", .str "form"), ("fields", .list mixedEntries)])).report []).schema.map
          FormSchema.fields =
        some (mixedEntries.filterMap fun v => (Load.formField v).toOption) :=
  ⟨rfl, ((entries_isolated rfl).1 []).2⟩

end SchemaSource

end FormEngine
