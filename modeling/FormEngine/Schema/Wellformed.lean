import FormEngine.Dependency
import FormEngine.Schema.Load
import FormEngine.Settings

/-!
Whether a schema is well formed. Everything wrong with it is reported: each field is loaded on its
own, so that one that cannot be loaded hides nothing in the others.
-/

namespace FormEngine

/-- A schema as a host gives it. -/
inductive SchemaSource
  | raw (data : Value)
  | loaded (schema : FormSchema)

structure SchemaReport where
  errors : List String
  warnings : List String
  schema : Option FormSchema

namespace SchemaReport

def isValid (r : SchemaReport) : Bool := r.errors.isEmpty

end SchemaReport

namespace Wellformed

/-- Errors and warnings, each in the order in which they are found. -/
structure Findings where
  errors : List String := []
  warnings : List String := []

instance : Append Findings where
  append a b := ⟨a.errors ++ b.errors, a.warnings ++ b.warnings⟩

def Findings.concat (fs : List Findings) : Findings :=
  ⟨fs.flatMap Findings.errors, fs.flatMap Findings.warnings⟩

def error (message : String) : Findings := ⟨[message], []⟩

def errorIf (condition : Bool) (message : String) : Findings :=
  if condition then error message else {}

/-- The way to a part, as keys joined by dots and positions in brackets. -/
def pathText : List PathStep → String
  | [] => "schema"
  | steps =>
    let text := steps.foldl
      (fun path step =>
        match step with
        | .index n => path ++ "[" ++ toString n ++ "]"
        | .key name => if path.isEmpty then name else path ++ "." ++ name)
      ""
    if text.isEmpty then "schema" else text

def issueText (owner : String) (i : Issue) : String :=
  let path :=
    if owner.isEmpty then pathText i.place
    else if i.place.isEmpty then owner
    else owner ++ "." ++ pathText i.place
  path ++ ": " ++ i.message

/-- The texts that occur more than once, each where it stands the second time. -/
def duplicates : List String → List String → List String → List String
  | _, found, [] => found
  | seen, found, id :: rest =>
    if id.isEmpty then duplicates seen found rest
    else if seen.contains id && !found.contains id then duplicates seen (found ++ [id]) rest
    else duplicates (id :: seen) found rest

def duplicateErrors (ids : List String) : List String :=
  match duplicates [] [] ids with
  | [] => []
  | found => ["Duplicate field IDs found: " ++ ", ".intercalate found]

/-- A limit that is missing or not above another. -/
def notAbove (low high : Binary64) : Bool :=
  match high.compare? low with
  | some .lt | some .eq => true
  | _ => false

/-- What the type of a field asks of it, nested fields apart. -/
def typeFindings (f : FieldAttributes) (path : String) (warnUnknown : Bool) : Findings :=
  match FieldType.ofTag? f.type with
  | some .select | some .multiselect =>
    match f.options with
    | none => error (path ++ " of type " ++ f.type ++ " requires options")
    | some (.dynamic d) =>
      errorIf (d.source == .api && (d.url.getD "").isEmpty)
        (path ++ " dynamic options from api require url")
    | some (.fixed _) => {}
  | some .radio =>
    match f.options with
    | some (.fixed _) => {}
    | _ => error (path ++ " of type radio requires options array")
  | some .slider =>
    match f.min, f.max with
    | some low, some high =>
      errorIf (notAbove low high) (path ++ " of type slider requires min < max")
    | _, _ => error (path ++ " of type slider requires min and max numbers")
  | some .rating =>
    errorIf (f.max.all fun high => notAbove (.zero false) high)
      (path ++ " of type rating requires max number > 0")
  | some _ => {}
  | none => ⟨[], if warnUnknown then [path ++ " uses non built-in type '" ++ f.type ++ "'"] else []⟩

def presence (f : FieldAttributes) (path : String) : Findings :=
  errorIf f.id.isEmpty (path ++ ".id is required") ++
    errorIf f.label.isEmpty (path ++ ".label is required") ++
    errorIf f.type.isEmpty (path ++ ".type is required")

mutual

/-- What is wrong with a field and the fields nested in it. -/
def fieldFindings (warnUnknown : Bool) (path : String) : FormField → Findings
  | ⟨f, itemSchema, fields⟩ =>
    if f.type.isEmpty then presence f path
    else
      presence f path ++ typeFindings f path warnUnknown ++
        (if f.type == FieldType.array.tag then itemFindings warnUnknown path itemSchema else {}) ++
        (if f.type == FieldType.object.tag then groupFindings warnUnknown path fields else {})
termination_by structural f => f

def itemFindings (warnUnknown : Bool) (path : String) : Option FormField → Findings
  | none => error (path ++ " of type array requires item_schema")
  | some f => fieldFindings warnUnknown (path ++ ".item_schema") f
termination_by structural f => f

def groupFindings (warnUnknown : Bool) (path : String) : Option (List FormField) → Findings
  | none => error (path ++ " of type object requires fields array")
  | some fs =>
    memberFindings warnUnknown path 0 fs ++
      ⟨(duplicateErrors (fs.map fun f => f.id)).map fun m => path ++ ".fields: " ++ m, []⟩
termination_by structural fs => fs

def memberFindings (warnUnknown : Bool) (path : String) : Nat → List FormField → Findings
  | _, [] => {}
  | n, f :: fs =>
    fieldFindings warnUnknown (path ++ ".fields[" ++ toString n ++ "]") f ++
      memberFindings warnUnknown path (n + 1) fs
termination_by structural _ fs => fs

end

def ruleErrors (available : List String) (place : String) (r : ConditionalRule) : List String :=
  let operator := r.operator.getD ""
  let field :=
    if r.field.isEmpty then [place ++ ".field is required"]
    else if !available.contains r.field then
      [place ++ ".field references unknown field: " ++ r.field]
    else []
  let operatorErrors :=
    if operator.isEmpty then [place ++ ".operator is required"]
    else if (Operator.ofWord? operator).isNone then
      [place ++ ".operator '" ++ operator ++ "' is not supported"]
    else []
  let predicate :=
    if operator == Operator.custom.word && r.predicate.isNone then
      [place ++ " with custom operator requires custom_predicate"]
    else []
  field ++ operatorErrors ++ predicate

def rulePlace (list : String) (n : Nat) : String :=
  "conditional." ++ list ++ "[" ++ toString n ++ "]"

/-- What is wrong with the conditions of a field, given the ids that can be referred to. -/
def conditionErrors (available : List String) (c : Conditions) : List String :=
  c.lists.flatMap fun l =>
    (l.2.zipIdx.flatMap fun r => ruleErrors available (rulePlace l.1 r.2) r.1)

/-- Unknown ids in one list of conditions that could not be loaded. -/
def rawListErrors (available : List String) (list : String) (rules : List Value) : List String :=
  rules.zipIdx.flatMap fun r =>
    match r.1 with
    | .record entries =>
      let named := Value.entry entries "field"
      match named.text? with
      | some ref =>
        if !ref.isEmpty && !available.contains ref then
          [rulePlace list r.2 ++ ".field references unknown field: " ++ named.display]
        else []
      | none => []
    | _ => []

def rawConditionErrors (available : List String) (conditional : Value) : List String :=
  match conditional with
  | .record entries =>
    match Load.conditions conditional with
    | .ok c => conditionErrors available c
    | .failed _ =>
      Effect.all.flatMap fun e =>
        match Value.entry entries e.word with
        | .list rules => rawListErrors available e.word rules
        | _ => []
  | _ => []

/-- One entry of the fields of a schema. -/
inductive Entry
  | field (f : FormField)
  /-- a record that is no field, with the complaints about it -/
  | broken (entries : Table Value) (issues : List Issue)
  | notARecord

namespace Entry

/-- A field that is loaded already is the one that its description says. -/
def ofValue : Value → Entry
  | .record entries =>
    match Load.formField (.record entries) with
    | .ok f => .field f
    | .failed is => .broken entries is
  | .entity .field _ description => ofValue description
  | _ => .notARecord

def loaded? : Entry → Option FormField
  | .field f => some f
  | _ => none

def loadErrors (path : String) : Entry → List String
  | .field _ => []
  | .broken _ is => is.map (issueText path)
  | .notARecord => [path ++ " must be an object"]

def id? : Entry → Option String
  | .field f => some f.id
  | .broken entries _ => some (((Value.entry entries "id").text?).getD "")
  | .notARecord => none

def findings (warnUnknown : Bool) (path : String) : Entry → Findings
  | .field f => fieldFindings warnUnknown path f
  | .broken entries _ =>
    errorIf (!(Value.entry entries "id").truthy) (path ++ ".id is required") ++
      errorIf (!(Value.entry entries "label").truthy) (path ++ ".label is required") ++
      errorIf (!(Value.entry entries "type").truthy) (path ++ ".type is required")
  | .notARecord => {}

def conditionErrors (available : List String) : Entry → List String
  | .field f => f.conditional.elim [] (Wellformed.conditionErrors available)
  | .broken entries _ => rawConditionErrors available (Value.entry entries "conditional")
  | .notARecord => []

end Entry

def entryPath (n : Nat) : String := "fields[" ++ toString n ++ "]"

/-- The findings on the entries of a schema, each with its position. -/
def entriesFindings (warnUnknown : Bool) (entries : List (Entry × Nat)) : Findings :=
  let structural := Findings.concat (entries.map fun e => e.1.findings warnUnknown (entryPath e.2))
  let ids := entries.filterMap fun e => e.1.id?
  let available := ids.filter fun id => !id.isEmpty
  structural ++ ⟨duplicateErrors ids, []⟩ ++
    ⟨entries.flatMap fun e => e.1.conditionErrors available, []⟩

def emptySchema (id : String) : FormSchema := ⟨id, none, none, [], none, none, none⟩

/-- Loads the attributes of a schema other than its fields; a bad one leaves only the id. -/
def schemaShell (raw : Table Value) : FormSchema × List Issue :=
  match Load.formSchema (.record (raw.put "fields" (.list []))) with
  | .ok s => (s, [])
  | .failed is => (emptySchema (((Value.entry raw "id").text?).getD ""), is)

def reportRaw (warnUnknown : Bool) (raw : Table Value) : SchemaReport :=
  let idErrors :=
    if (Value.entry raw "id").truthy then [] else ["Schema id is required"]
  match Value.entry raw "fields" with
  | .list items =>
    let entries := (items.map Entry.ofValue).zipIdx
    let loadErrors := entries.flatMap fun e => e.1.loadErrors (entryPath e.2)
    let (shell, issues) := schemaShell raw
    let found := entriesFindings warnUnknown entries
    ⟨idErrors ++ loadErrors ++ issues.map (issueText "") ++ found.errors, found.warnings,
      some { shell with fields := entries.filterMap fun e => e.1.loaded? }⟩
  | _ => ⟨idErrors ++ ["Schema fields must be an array"], [], none⟩

def reportLoaded (warnUnknown : Bool) (s : FormSchema) : SchemaReport :=
  let found := entriesFindings warnUnknown (s.fields.map Entry.field).zipIdx
  ⟨(if s.id.isEmpty then ["Schema id is required"] else []) ++ found.errors, found.warnings, some s⟩

end Wellformed

namespace SchemaSource

/-- Everything found in a schema. -/
def report (environment : Environment) (source : SchemaSource) : SchemaReport :=
  let warnUnknown := (Setting.warnUnknownTypes.read environment).truthy
  match source with
  | .raw .null => ⟨["Schema is required"], [], none⟩
  | .raw (.record entries) => Wellformed.reportRaw warnUnknown entries
  | .raw _ => ⟨["Schema must be an object"], [], none⟩
  | .loaded s => Wellformed.reportLoaded warnUnknown s

/-- The schema itself, loaded if it was not. -/
def load : SchemaSource → Except Fault FormSchema
  | .raw data => (Load.formSchema data).toExcept
  | .loaded s => .ok s

end SchemaSource

end FormEngine
