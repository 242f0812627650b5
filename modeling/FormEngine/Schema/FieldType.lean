import FormEngine.Fault
import FormEngine.Text.Blank
import FormEngine.Value.Equality

/-!
The built-in field types: the shape of the value each holds, and what a field of it has to declare.
Other types are open texts; their values can be anything.
-/

namespace FormEngine

inductive FieldType
  | text
  | password
  | email
  | textarea
  | number
  | slider
  | rating
  | select
  | multiselect
  | radio
  | checkbox
  | switch
  | date
  | time
  | datetime
  | file
  | color
  | array
  | object
  | custom
  deriving DecidableEq, Repr

inductive ValueKind
  | string
  | number
  | boolean
  | date
  | time
  | datetime
  | list
  | record
  | any
  deriving DecidableEq, Repr

namespace ValueKind

def word : ValueKind → String
  | .string => "string"
  | .number => "number"
  | .boolean => "boolean"
  | .date => "date"
  | .time => "time"
  | .datetime => "datetime"
  | .list => "list"
  | .record => "record"
  | .any => "any"

end ValueKind

/-- What is known of a built-in field type. -/
structure TypeTraits where
  valueKind : ValueKind
  description : String
  itemKind : Option ValueKind := none
  requires : List String := []
  textLike : Bool := false
  deriving DecidableEq, Repr

namespace FieldType

def all : List FieldType := [
  .text, .password, .email, .textarea, .number, .slider, .rating, .select, .multiselect, .radio,
  .checkbox, .switch, .date, .time, .datetime, .file, .color, .array, .object, .custom]

def tag : FieldType → String
  | .text => "text"
  | .password => "password"
  | .email => "email"
  | .textarea => "textarea"
  | .number => "number"
  | .slider => "slider"
  | .rating => "rating"
  | .select => "select"
  | .multiselect => "multiselect"
  | .radio => "radio"
  | .checkbox => "checkbox"
  | .switch => "switch"
  | .date => "date"
  | .time => "time"
  | .datetime => "datetime"
  | .file => "file"
  | .color => "color"
  | .array => "array"
  | .object => "object"
  | .custom => "custom"

def ofTag? (tag : String) : Option FieldType := all.find? fun t => t.tag == tag

theorem ofTag?_eq_some {tag : String} {t : FieldType} : ofTag? tag = some t ↔ tag = t.tag := by
  constructor
  · intro h
    have same := List.find?_some h
    exact (beq_iff_eq.mp same).symm
  · rintro rfl
    cases t <;> rfl

/-- All types with a tag are the one that is found. -/
theorem forall_tag_iff {tag : String} {p : FieldType → Prop} :
    (∀ t : FieldType, tag = t.tag → p t) ↔ ∀ t, ofTag? tag = some t → p t := by
  simp only [ofTag?_eq_some]

def isBuiltIn (tag : String) : Bool := (ofTag? tag).isSome

/-- The tag that a value is. What is no text is none, if it can be looked up at all. -/
def tagOf (v : Value) : Except Fault (Option String) :=
  match v.text?, v.occursIn? (.set []) with
  | some tag, _ => .ok (some tag)
  | none, some _ => .ok none
  | none, none => .error (.typeMismatch "a type cannot be looked up")

def traits : FieldType → TypeTraits
  | .text => ⟨.string, "Single-line free text input", none, [], true⟩
  | .password => ⟨.string, "Masked single-line text input for secrets", none, [], true⟩
  | .email => ⟨.string, "Single-line text input for an email address", none, [], true⟩
  | .textarea => ⟨.string, "Multi-line free text input", none, [], true⟩
  | .number => ⟨.number, "Numeric input with optional min/max bounds", none, [], false⟩
  | .slider => ⟨.number, "Numeric value picked on a bounded track", none, ["min", "max"], false⟩
  | .rating => ⟨.number, "Star-style rating from 0 up to max", none, ["max"], false⟩
  | .select =>
    ⟨.string, "Single choice from a static or dynamic option list", none, ["options"], false⟩
  | .multiselect =>
    ⟨.list, "Multiple choices from a static or dynamic option list", some .string, ["options"],
      false⟩
  | .radio => ⟨.any, "Single choice from an inline static option list", none, ["options"], false⟩
  | .checkbox => ⟨.boolean, "Boolean tick box", none, [], false⟩
  | .switch => ⟨.boolean, "Boolean on/off toggle", none, [], false⟩
  | .date => ⟨.date, "Calendar date picker", none, [], false⟩
  | .time => ⟨.time, "Time of day picker", none, [], false⟩
  | .datetime => ⟨.datetime, "Combined date and time picker", none, [], false⟩
  | .file => ⟨.any, "File attachment picker", none, [], false⟩
  | .color => ⟨.string, "Colour picker producing a colour string", none, [], false⟩
  | .array =>
    ⟨.list, "Repeatable list of items sharing one item schema", some .any, ["item_schema"], false⟩
  | .object => ⟨.record, "Group of nested fields producing a mapping", none, ["fields"], false⟩
  | .custom => ⟨.any, "Host-provided component referenced by name", none, [], false⟩

/-- The kind of value a type holds, anything for a type that is not built in. -/
def valueKindOf (tag : String) : ValueKind :=
  (ofTag? tag).elim .any fun t => t.traits.valueKind

/-- The value shown for a field that has none. -/
def emptyValueOf (tag : String) : Value :=
  match valueKindOf tag with
  | .list => .list []
  | .record => .record []
  | .boolean => .bool false
  | _ => .str ""

/-- Whether a field of the type counts as unanswered while it is false. -/
def isBoolean (tag : String) : Bool := tag == checkbox.tag || tag == switch.tag

/-- Whether the options of a field of the type can be loaded. -/
def isSelection (tag : String) : Bool := tag == select.tag || tag == multiselect.tag

end FieldType

namespace Value

/-- Null, blank texts and collections without elements are empty; numbers and truth values never. -/
def isEmpty : Value → Bool
  | .null => true
  | .str s => stripBlank s == ""
  | .name _ s => stripBlank s == ""
  | .list xs => xs.isEmpty
  | .tuple xs => xs.isEmpty
  | .set xs => xs.isEmpty
  | .record entries => entries.isEmpty
  | _ => false

end Value

end FormEngine
