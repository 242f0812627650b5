import FormEngine.Event
import FormEngine.Schema.Model

/-!
What a renderer is given for a field and what it makes of it: a node with presentation data, and
handlers that a host wires to its widgets.
-/

namespace FormEngine

/-- The inputs of a renderer for one field. -/
structure FieldProps where
  field : FormField
  value : Value := .null
  errors : List String := []
  touched : Bool := false
  disabled : Bool := false
  showError : Bool := false
  required : Bool := false

namespace FieldProps

/-- The first error, if errors are to be shown. -/
def errorMessage (p : FieldProps) : Option String :=
  if p.showError then p.errors.head? else none

end FieldProps

/-- The callbacks through which a component reports back. -/
inductive Callback
  | change
  | blur
  | focus
  deriving DecidableEq, Repr

/-- A call of a callback. -/
structure Report where
  callback : Callback
  arguments : List Value

/-- How a component alters the text that was typed. -/
inductive Transform
  | asTyped
  | lowerTrimmed
  | upper
  deriving DecidableEq, Repr

inductive Handler
  /-- hands its arguments on to a callback -/
  | pass (callback : Callback)
  | enterText (transform : Transform) (maxLength : Option Int)
  | enterNumber (step : Option Binary64)
  | acceptSuggestion (value : Value)
  | toggleVisibility

structure Node where
  kind : String
  fieldId : String
  fieldType : String
  props : Table Value := []
  handlers : Table Handler := []
  children : List Node := []

/-- What comes of calling a handler. -/
inductive Response
  | quiet
  | report (r : Report)
  | toggled

end FormEngine
