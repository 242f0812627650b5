import FormEngine.Condition
import FormEngine.Render.Registry
import FormEngine.Settings

/-!
Rendering fields. A failure stays with its field: a placeholder stands in its place, and an observer
is told.
-/

namespace FormEngine

/-- What a renderer gives back, which should be a node. -/
inductive Rendered
  | node (n : Node)
  | other (v : Value)

/-- Makes something of the inputs for a field, or fails. A function does it at once; a class makes a
component of the inputs, which is drawn afterwards. -/
inductive FieldRenderer
  | function (draw : FieldProps → Except Fault Rendered)
  | component (construct : FieldProps → Except Fault (Unit → Except Fault Rendered))

/-- The state of a form as far as rendering goes. -/
structure RenderContext where
  values : Table Value := []
  errors : Table (List String) := []
  touched : Table Bool := []
  isSubmitting : Bool := false
  disabled : Bool := false
  isValid : Bool := true
  isDirty : Bool := false
  hasSubmitted : Bool := false
  states : Table FieldState := []

/-- Renderers by type, and who is told of failures. -/
structure RenderSettings where
  registry : Registry FieldRenderer := {}
  observer : Option (Fault → Logged (Except Fault Unit)) := none
  /-- whether a placeholder says what went wrong -/
  debug : Bool := false

namespace RenderContext

/-- The value of a field, else its default, else the empty value of its type. -/
def valueOf (c : RenderContext) (f : FormField) : Value :=
  let value := Value.entry c.values f.id
  if !value.isNull then value
  else if !f.defaultValue.isNull then f.defaultValue
  else FieldType.emptyValueOf f.type

def propsOf (c : RenderContext) (f : FormField) : FieldProps :=
  let state := c.states.get? f.id
  let errors := (c.errors.get? f.id).getD []
  let touched := (c.touched.get? f.id).getD false
  { field := f
    value := c.valueOf f
    errors
    touched
    disabled := c.disabled || f.disabled || state.any fun s => !s.enabled
    showError := !errors.isEmpty && (touched || c.hasSubmitted)
    required := state.elim f.isRequired FieldState.required }

end RenderContext

namespace Node

/-- Stands for a field whose type has no renderer. -/
def unsupported (f : FormField) : Node where
  kind := "unsupported"
  fieldId := f.id
  fieldType := f.type
  props := [("message", .str ("Unsupported field type: " ++ f.type))]

/-- Stands for a field whose renderer failed. -/
def failed (f : FormField) (cause : Fault) (debug : Bool) : Node where
  kind := "render_error"
  fieldId := f.id
  fieldType := f.type
  props := [("message", .str ("Error rendering field " ++ f.id))] ++
    if debug then [("detail", .str cause.message)] else []

end Node

namespace FieldRenderer

/-- What a renderer gives back for the inputs. -/
def draw (r : FieldRenderer) (p : FieldProps) : Except Fault Rendered :=
  match r with
  | .function draw => draw p
  | .component construct => do (← construct p) ()

/-- The fault of a renderer for a type that gave back something other than a node. -/
def notANode (type : String) (v : Value) : Fault :=
  .typeMismatch s!"Renderer for '{type}' returned {v.kindName}, expected RenderedNode"

/-- The node that a renderer makes; anything else is a failure. -/
def nodeOf (r : FieldRenderer) (p : FieldProps) : Except Fault Node := do
  match ← r.draw p with
  | .node n => return n
  | .other v => throw (notANode p.field.type v)

def ofComponent (c : Component) : FieldRenderer :=
  .component fun p => .ok fun _ => .ok (.node (c.render false p))

end FieldRenderer

namespace RenderSettings

/-- The built-in components, and no observer. -/
def standard (debug : Bool) : RenderSettings where
  registry := Registry.registerBuiltIns {} fun c => .ofComponent (.ofBuiltIn c)
  debug

/-- Tells the observer of a failure; what the observer does with it has no effect. -/
def report (s : RenderSettings) (e : Fault) : Logged Unit :=
  match s.observer with
  | none => pure ()
  | some observe => ⟨(), (observe e).events⟩

/-- Renders one field. -/
def render (s : RenderSettings) (c : RenderContext) (f : FormField) : Logged Node :=
  match s.registry.get? f.type with
  | none => pure (.unsupported f)
  | some renderer =>
    match renderer.nodeOf (c.propsOf f) with
    | .ok n => pure n
    | .error cause => do
      s.report (.fieldRender f.id f.type cause)
      return .failed f cause s.debug

def renderFields (s : RenderSettings) (c : RenderContext) : List FormField → Logged (List Node)
  | [] => pure []
  | f :: fs => do
    let n ← s.render c f
    let ns ← renderFields s c fs
    return n :: ns

end RenderSettings

end FormEngine
