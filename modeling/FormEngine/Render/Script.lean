import FormEngine.Render.Renderer

/-!
Scripted renderers and observers: simple ones that stand in for those of an application.
-/

namespace FormEngine

/-- How a scripted observer takes a failure. -/
inductive ObserverScript
  | record
  | recordAndRaise
  deriving DecidableEq, Repr

namespace ObserverScript

def observe (o : ObserverScript) (e : Fault) : Logged (Except Fault Unit) := do
  Logged.emit (.observed e)
  return match o with
    | .record => .ok ()
    | .recordAndRaise => .error (.runtime "observer")

end ObserverScript

inductive RendererScript
  /-- shows its inputs -/
  | echo
  /-- a node of a kind, with numbered children -/
  | plain (kind : String) (children : Nat)
  | raises (fault : Fault)
  /-- no component can be made -/
  | unmade (fault : Fault)
  | returns (v : Value)
  | component (c : Component)

namespace RendererScript

def echoNode (p : FieldProps) : Node where
  kind := "echo"
  fieldId := p.field.id
  fieldType := p.field.type
  props := [
    ("value", p.value), ("error", .list (p.errors.map .str)), ("touched", .bool p.touched),
    ("disabled", .bool p.disabled), ("show_error", .bool p.showError),
    ("required", .bool p.required), ("error_message", p.errorMessage.elim .null .str)]
  handlers := [
    ("on_change", .pass .change), ("on_blur", .pass .blur), ("on_focus", .pass .focus)]

def childNode (p : FieldProps) (n : Nat) : Node where
  kind := "child"
  fieldId := p.field.id
  fieldType := p.field.type
  props := [("n", .int n)]

def plainNode (kind : String) (children : Nat) (p : FieldProps) : Node where
  kind := kind
  fieldId := p.field.id
  fieldType := p.field.type
  props := [("value", p.value)]
  handlers := [("on_blur", .pass .blur)]
  children := (List.range children).map (childNode p)

def renderer : RendererScript → FieldRenderer
  | .echo => .function fun p => .ok (.node (echoNode p))
  | .plain kind children => .component fun p => .ok fun _ => .ok (.node (plainNode kind children p))
  | .raises fault => .function fun _ => .error fault
  | .unmade fault => .component fun _ => .error fault
  | .returns v => .function fun _ => .ok (.other v)
  | .component c => FieldRenderer.ofComponent c

end RendererScript

end FormEngine
