import FormEngine.Number.Binary64
import FormEngine.Table

/-!
Values: what fields hold, what schemas are written in and what host functions are given. A name out
of a fixed vocabulary behaves as its text. An entity is an object of the host application, known by
a key that tells it from others and by a description that says what it is.
-/

namespace FormEngine

/-- The vocabularies whose names can stand for themselves in a schema. -/
inductive Vocabulary
  | fieldType
  | operator
  deriving DecidableEq, Repr

inductive EntityKind
  | function
  | deferredFunction
  /-- a deferred function that was called and not waited for -/
  | pending
  | type
  | adapter
  | model
  | rule
  | field
  deriving DecidableEq, Repr

inductive Value
  | null
  | bool (b : Bool)
  | int (i : Int)
  | float (x : Binary64)
  | str (s : String)
  | list (items : List Value)
  | tuple (items : List Value)
  | set (items : List Value)
  | record (entries : List (String × Value))
  /-- a record of which some keys are no texts -/
  | mapping (entries : List (Value × Value))
  | name (vocabulary : Vocabulary) (text : String)
  | entity (kind : EntityKind) (key : Nat) (description : Value)
  deriving Inhabited

namespace Value

def isNull : Value → Bool
  | .null => true
  | _ => false

/-- The characters of a text or a name. -/
def text? : Value → Option String
  | .str s => some s
  | .name _ s => some s
  | _ => none

def isNumber : Value → Bool
  | .bool _ | .int _ | .float _ => true
  | _ => false

/-- A place on the number line; a NaN has none, truth values count as 0 and 1. -/
def number? : Value → Option Extended
  | .bool b => some (.point (if b then 1 else 0))
  | .int i => some (.point i)
  | .float x => x.toExtended?
  | _ => none

/-- The elements of a list, tuple or set. -/
def elements? : Value → Option (List Value)
  | .list xs => some xs
  | .tuple xs => some xs
  | .set xs => some xs
  | _ => none

def record? : Value → Option (Table Value)
  | .record entries => some entries
  | _ => none

/-- The keys and values of a record of either kind. -/
def pairs? : Value → Option (List (Value × Value))
  | .record entries => some (entries.map fun e => (.str e.1, e.2))
  | .mapping entries => some entries
  | _ => none

/-- The value of a record under a key, null when there is none. -/
def entry (entries : Table Value) (key : String) : Value := (entries.get? key).getD .null

/-- Whether a value counts as true: not null, zero or empty. -/
def truthy : Value → Bool
  | .null => false
  | .bool b => b
  | .int i => i != 0
  | .float x => !x.isZero
  | .str s | .name _ s => s != ""
  | .list xs => !xs.isEmpty
  | .tuple xs => !xs.isEmpty
  | .set xs => !xs.isEmpty
  | .record entries => !entries.isEmpty
  | .mapping entries => !entries.isEmpty
  | .entity .. => true

/-- The number of characters of a text, or of elements of a collection. -/
def length? : Value → Option Nat
  | .str s => some s.length
  | .name _ s => some s.length
  | .list xs => some xs.length
  | .tuple xs => some xs.length
  | .set xs => some xs.length
  | .record entries => some entries.length
  | .mapping entries => some entries.length
  | _ => none

/-- The word for the kind of a value in messages. -/
def kindName : Value → String
  | .null => "NoneType"
  | .bool _ => "bool"
  | .int _ => "int"
  | .float _ => "float"
  | .str _ => "str"
  | .list _ => "list"
  | .tuple _ => "tuple"
  | .set _ => "set"
  | .record _ | .mapping _ => "dict"
  | .name .fieldType _ => "FieldType"
  | .name .operator _ => "ConditionalOperator"
  | .entity kind _ _ =>
    match kind with
    | .function | .deferredFunction => "function"
    | .pending => "coroutine"
    | .type => "type"
    | .adapter => "TypeAdapter"
    | .model => "ModelMetaclass"
    | .rule => "FieldRule"
    | .field => "FormField"

end Value

end FormEngine
