import FormEngine.Input.Email
import FormEngine.Input.Number
import FormEngine.Input.Password
import FormEngine.Render.Node

/-!
The built-in components. A component shows the field's value and settings, and reports what is typed;
text longer than the field admits is not reported at all.
-/

namespace FormEngine

inductive BuiltIn
  | text
  | email
  | password
  | textarea
  | number
  deriving DecidableEq, Repr

namespace BuiltIn

/-- In the order in which they are registered. -/
def all : List BuiltIn := [.text, .email, .password, .textarea, .number]

/-- The field type that a component is for. -/
def fieldType : BuiltIn → FieldType
  | .text => .text
  | .email => .email
  | .password => .password
  | .textarea => .textarea
  | .number => .number

def nodeKind : BuiltIn → String
  | .text => "text_input"
  | .email => "email_input"
  | .password => "password_input"
  | .textarea => "textarea"
  | .number => "number_input"

def inputMode : BuiltIn → String
  | .text => "text"
  | .email => "email"
  | .password => "password"
  | .textarea => "text"
  | .number => "numeric"

end BuiltIn

structure Component where
  builtIn : BuiltIn
  transform : Transform

namespace Component

def ofBuiltIn : BuiltIn → Component
  | .email => ⟨.email, .lowerTrimmed⟩
  | c => ⟨c, .asTyped⟩

/-- The rows of a text area that declares none. -/
def defaultRows : Int := 4

/-- A limit that is declared and not zero. -/
def limit? (n : Option Int) : Option Int := n.filter (· != 0)

def characterCount (v : Value) : Nat := (v.text?.map String.length).getD 0

def lengthProps (p : FieldProps) : Table Value :=
  match limit? p.field.maxLength with
  | some n => [("max_length", .int n), ("character_count", .int (characterCount p.value))]
  | none => []

def optionalText (s : Option String) : Value := s.elim .null .str
def optionalDouble (x : Option Binary64) : Value := x.elim .null .float

def baseProps (c : Component) (p : FieldProps) : Table Value := [
  ("label", .str p.field.label), ("placeholder", optionalText p.field.placeholder),
  ("description", optionalText p.field.description), ("value", p.value),
  ("required", .bool p.required), ("disabled", .bool p.disabled),
  ("readonly", .bool p.field.readonly), ("error", optionalText p.errorMessage),
  ("input_mode", .str c.builtIn.inputMode)] ++ lengthProps p

/-- The text that a text component shows, empty for other values. -/
def shownText (v : Value) : String := v.text?.getD ""

def strengthProps (password : String) : Table Value :=
  if password.isEmpty then []
  else
    let s := PasswordStrength.ofPassword password
    [("strength", .record [("score", .int s.score), ("max_score", .int PasswordStrength.maxScore),
      ("label", .str s.label)])]

/-- What one component shows beyond the others. -/
def ownProps (c : Component) (visible : Bool) (p : FieldProps) : Table Value :=
  let text := shownText p.value
  match c.builtIn with
  | .text => []
  | .email => [
      ("format_valid", .bool (text.isEmpty || EmailInput.isWellFormed text)),
      ("suggestion", optionalText (EmailInput.suggestion? text))]
  | .password => ("masked", .bool (!visible)) :: strengthProps text
  | .textarea => [("rows", .int ((limit? p.field.rows).getD defaultRows))]
  | .number => [
      ("display_value", .str (if p.value.isEmpty then "" else p.value.display)),
      ("min", optionalDouble p.field.min), ("max", optionalDouble p.field.max),
      ("step", optionalDouble p.field.step)]

def changeHandler (c : Component) (p : FieldProps) : Handler :=
  match c.builtIn with
  | .number => .enterNumber p.field.step
  | _ => .enterText c.transform p.field.maxLength

def handlers (c : Component) (p : FieldProps) : Table Handler :=
  let common : Table Handler := [
    ("on_change", c.changeHandler p), ("on_blur", .pass .blur), ("on_focus", .pass .focus)]
  match c.builtIn with
  | .email => common ++ [("on_accept_suggestion", .acceptSuggestion p.value)]
  | .password => common ++ [("on_toggle_visibility", .toggleVisibility)]
  | _ => common

/-- The node of a component; `visible` says whether a password is shown. -/
def render (c : Component) (visible : Bool) (p : FieldProps) : Node where
  kind := c.builtIn.nodeKind
  fieldId := p.field.id
  fieldType := p.field.type
  props := c.baseProps p ++ c.ownProps visible p
  handlers := c.handlers p

end Component

namespace Transform

/-- What becomes of a typed value; only a text has letters to change. -/
def apply (t : Transform) (typed : Value) : Except Fault Value :=
  match t with
  | .asTyped => .ok typed
  | .lowerTrimmed =>
    match typed.text? with
    | some s => .ok (.str (stripBlank (toLower s)))
    | none => .error (.missingAttribute s!"'{typed.kindName}' object has no attribute 'lower'")
  | .upper =>
    match typed.text? with
    | some s => .ok (.str (toUpper s))
    | none => .error (.missingAttribute s!"'{typed.kindName}' object has no attribute 'upper'")

end Transform

namespace Handler

/-- Whether a typed value is longer than admitted; it has to have a length. -/
def exceeds (maxLength : Option Int) (typed : Value) : Except Fault Bool :=
  match Component.limit? maxLength with
  | none => .ok false
  | some n =>
    match typed.length? with
    | some length => .ok (n < length)
    | none => .error (.typeMismatch s!"object of type '{typed.kindName}' has no len()")

def wrongArguments : Fault := .typeMismatch "wrong number of arguments"

/-- The response to what was typed. -/
def enter (transform : Transform) (maxLength : Option Int) (typed : Value) :
    Except Fault Response := do
  if ← exceeds maxLength typed then return .quiet
  return .report ⟨.change, [← transform.apply typed]⟩

def enterNumeric (step : Option Binary64) (typed : Value) : Except Fault Response := do
  let n ← Number.parse typed (step.map Number.float)
  return .report ⟨.change, [n.elim (.str "") Number.toValue]⟩

def suggest (value : Value) : Except Fault Response := do
  match ← EmailInput.suggestionFor value with
  | some s => return if s.isEmpty then .quiet else .report ⟨.change, [.str s]⟩
  | none => return .quiet

/-- Calls a handler. -/
def call (h : Handler) (arguments : List Value) : Except Fault Response :=
  match h, arguments with
  | .pass callback, _ => .ok (.report ⟨callback, arguments⟩)
  | .enterText transform maxLength, [typed] => enter transform maxLength typed
  | .enterNumber step, [typed] => enterNumeric step typed
  | .acceptSuggestion value, [] => suggest value
  | .toggleVisibility, [] => .ok .toggled
  | _, _ => .error wrongArguments

end Handler

namespace Report

/-- The number of arguments a callback takes, besides the field it belongs to. -/
def arity : Callback → Nat
  | .change => 1
  | .blur | .focus => 0

/-- Whether a callback can take the arguments. -/
def fits (r : Report) : Bool := r.arguments.length == arity r.callback

end Report

end FormEngine
