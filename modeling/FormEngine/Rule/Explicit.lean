import FormEngine.Host.Basic
import FormEngine.Rule.TypeText

/-!
Explicit rules: what a schema gives in place of limits. It can be a type, a text that names one, a
model with attributes, a type described by a record, or a function that takes the value apart into its
arguments and objects by raising.
-/

namespace FormEngine

inductive ExplicitRule
  | datatype (t : Datatype)
  /-- a text in which a word is not known -/
  | undefined (text : String)
  | function (f : Callable)

/-- What a rule says of a value: its complaints, or that it cannot be held against the rule, or what a
function has to be asked. -/
inductive Verdict
  | issues (found : List Issue)
  | fault (e : Fault)
  | asks (f : Callable) (arguments : List Value)

namespace Verdict

def say (message : String) : Verdict := .issues [⟨[], message⟩]

def sayIf (message : Option String) : Verdict := message.elim (.issues []) say

def ofReading : Reading → Verdict
  | .ok checked => .issues checked.issues
  | .error e => .fault e

/-- The complaints in the end. What a function gives is no complaint. -/
def settle (host : Host) : Verdict → Logged (Except Fault (List Issue))
  | .issues found => pure (.ok found)
  | .fault e => pure (.error e)
  | .asks f arguments => do return (← host.call f arguments).map fun _ => []

end Verdict

namespace ExplicitRule

def misuse (message slug : String) : Fault :=
  .foreign "PydanticUserError" (message ++
    "\n\nFor further information visit https://errors.pydantic.dev/2.14/u/" ++ slug)

/-- The fault of holding a value against a type that was left open. -/
def notDefined (text : String) : Fault :=
  misuse ("\x60TypeAdapter[" ++ text ++ "]\x60 is not fully defined; you should define \x60" ++ text ++
    "\x60 and all referenced types, then call \x60.rebuild()\x60 on the instance.")
    "class-not-fully-defined"

/-- The fault of an attribute whose name begins with an underscore. -/
def hiddenName (name : String) : Fault :=
  let bare := String.ofList (name.toList.dropWhile (· == '_'))
  let proposal := if bare.isEmpty then "my_field" else bare
  .foreign "PydanticUserError"
    ("Fields must not use names with leading underscores; e.g., use " ++ Quoted.quote proposal ++
      " instead of " ++ Quoted.quote name ++ ".")

/-- The type that a word stands for, which has to be known. -/
def ofWord (word : String) : Except Fault Datatype := do
  match ← TypeText.read word with
  | some t => return t
  | none => throw (.missingKey (.str word))

/-- An attribute of a model: its type with its limits. -/
def typedAttribute (e : String × Table Value) : Except Fault (String × Datatype × Bool) := do
  let t ← ofWord (((Value.entry e.2 "type").text?).getD "")
  let t ← (Datatype.testsOf e.2).foldlM Datatype.limited t
  return (e.1, t, Table.has e.2 "default")

/-- The model of a description. Of two attributes of one name the later one counts. -/
def model (entries : Table Value) : Except Fault Datatype := do
  let listed := ((Value.entry entries "fields").elements?.getD []).filterMap fun v =>
    match v with
    | .list [.str name, .record entries] => some (name, entries)
    | _ => none
  let given := Table.ofEntries listed
  match given.keys.find? fun name => name.toList.head? == some '_' with
  | some name => throw (hiddenName name)
  | none =>
    return .model (((Value.entry entries "name").text?).getD "") (← given.mapM typedAttribute)

/-- A type under the word for it in records that describe types. -/
def described? : String → Option Datatype
  | "any" => some .anything
  | "none" => some .nothing
  | "bool" => some .boolean
  | "int" => some Datatype.plainInteger
  | "float" => some Datatype.plainNumber
  | "str" => some Datatype.plainText
  | "date" => some .date
  | "time" => some .time
  | "datetime" => some .moment
  | "list" => some (Datatype.listOf .anything)
  | "dict" => some (Datatype.recordOf .anything .anything)
  | _ => none

/-- The type that a record describes, with the limits that it knows. -/
def ofRecord (entries : Table Value) : Except Fault Datatype :=
  match entries.get? "type" with
  | none => .error (.missingKey (.str "type"))
  | some word =>
    match word.text?.bind described? with
    | none => .error .badRule
    | some t => (Datatype.testsOf entries).foldlM (fun t test => do
        match ← t.limited test with
        | .tested t _ => return t
        | t => return t) t

/-- The type that an entity describes. -/
def ofDescription : Value → Except Fault ExplicitRule
  | .str word => (ofWord word).map .datatype
  | .record entries => (model entries).map .datatype
  | v => .error (TypeText.unreadable v)

/-- What a value stands for as an explicit rule. -/
def ofValue (v : Value) : Except Fault ExplicitRule :=
  match v with
  | .entity kind _ description =>
    match kind, Callable.ofValue? v, description with
    | .function, some f, _ | .deferredFunction, some f, _ => .ok (.function f)
    | .type, _, description | .model, _, description => ofDescription description
    | .adapter, _, .entity _ _ description => ofDescription description
    | .adapter, _, description => ofDescription description
    | _, _, _ => .error (.missingAttribute "no type")
  | .record entries => (ofRecord entries).map .datatype
  | .mapping _ => .error (.missingKey (.str "type"))
  | v =>
    match v.text? with
    | none => .error (TypeText.unreadable v)
    | some s => do
      match ← TypeText.read s with
      | some t => return .datatype t
      | none => return .undefined v.display

/-- The arguments that a function finds in a value. -/
def ask (f : Callable) (v : Value) : Verdict :=
  match v with
  | .list xs | .tuple xs => .asks f xs
  | v =>
    match v.pairs? with
    | none => .say "Arguments must be a tuple, list or a dictionary"
    | some [] => .asks f []
    | some pairs =>
      .issues (pairs.map fun p => ⟨[Reading.step p.1], "Unexpected keyword argument"⟩)

def verdict (r : ExplicitRule) (v : Value) : Verdict :=
  match r with
  | .datatype t => .ofReading (t.read v)
  | .undefined text => .fault (notDefined text)
  | .function f => ask f v

end ExplicitRule

end FormEngine
