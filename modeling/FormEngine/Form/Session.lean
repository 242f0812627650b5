import FormEngine.Form.Agenda
import FormEngine.Store.Bridge

/-!
A form in the application that embeds it. The application supplies functions and settings and is
called back on some occasions; a script can make it answer a callback with a command, once. The form
may be linked to an external store.
-/

namespace FormEngine

/-- When an application is called back. -/
inductive Occasion
  | change
  | submit
  | restore
  | validation
  | mount
  | unmount
  | focus
  | blur
  deriving DecidableEq, Repr

namespace Occasion

def all : List Occasion := [.change, .submit, .restore, .validation, .mount, .unmount, .focus, .blur]

def word : Occasion → String
  | .change => "change"
  | .submit => "submit"
  | .restore => "reset"
  | .validation => "validation_change"
  | .mount => "mount"
  | .unmount => "unmount"
  | .focus => "field_focus"
  | .blur => "field_blur"

end Occasion

namespace Event

/-- The occasion of which an event tells, if it is a callback. -/
def occasion? : Event → Option Occasion
  | .changed _ => some .change
  | .submitted _ => some .submit
  | .restored => some .restore
  | .validated .. => some .validation
  | .mounted => some .mount
  | .unmounted => some .unmount
  | .focused _ => some .focus
  | .blurred _ => some .blur
  | _ => none

end Event

inductive StoreOperation
  | get
  | set
  | subscribe
  | unsubscribe
  deriving DecidableEq, Repr

/-- What can be asked of a form at once, without waiting. -/
inductive FormCommand
  | change (id : String) (value : Value)
  | setValues (values : Value)
  | blur (id : String)
  | focus (id : String)
  | validate
  | validateField (id : String)
  | reset
  | mount
  | unmount
  | setSchema (schema : Value)
  | setSnapshot (values : Value)
  | render
  /-- calls a handler of the node that was last rendered for a field -/
  | handle (id handler : String) (arguments : List Value)
  /-- replaces the state of the external store -/
  | setStore (state : Value)
  /-- from now on these operations of the external store fail -/
  | breakStore (operations : List StoreOperation)
  /-- does nothing; what is to be known can be read off the form -/
  | look

/-- A command with which the application answers the first callback on an occasion. -/
structure Reaction where
  occasion : Occasion
  command : FormCommand

/-- A store to which a form is linked through a bridge, or would be if the bridge were connected. -/
structure StoreLink where
  view : StoreView
  connected : Bool := true

structure Application where
  host : Host
  environment : Environment := []
  settings : RenderSettings
  disabled : Bool := false
  /-- whether jobs wait for their turn; else validity is checked at once and nothing is inquired -/
  defers : Bool := true
  link : Option StoreLink := none
  /-- the occasions on which it is called back -/
  hears : Occasion → Bool := fun _ => true
  /-- the occasions on which its callback raises -/
  raises : Occasion → Bool := fun _ => false
  /-- what it does with submitted values -/
  handler : Option Callable := none

structure Session where
  form : Form
  agenda : Agenda := {}
  store : Store := { state := .record [] }
  /-- the operations of the store that fail -/
  broken : List StoreOperation := []
  /-- the listener of the form on the store -/
  subscription : Option Nat := none
  nextToken : Nat := 0
  reactions : List Reaction := []
  /-- the submissions that were opened to be waited for later, the first one first -/
  submissions : List Nat := []
  /-- the node last rendered for each field -/
  nodes : Table Node := []
  events : List Event := []

/-- Tells the application of an event; its callback may raise. -/
abbrev Notifier := Session → Event → Session × Except Fault Unit

namespace Session

/-- Takes note of the events on the way to a result. -/
def note {α : Type} (s : Session) (x : Logged α) : Session × α :=
  ({ s with events := s.events ++ x.events }, x.value)

/-- Replaces the form by one that comes with events. -/
def become (s : Session) (f : Logged Form) : Session :=
  { s with events := s.events ++ f.events, form := f.value }

def isBroken (s : Session) (o : StoreOperation) : Bool := s.broken.contains o

/-- Tells the application of an event; whatever it raises is contained. -/
def tell (notify : Notifier) (s : Session) (e : Event) : Session := (notify s e).1

/-- Takes out the first reaction to an occasion. -/
def takeReaction? (s : Session) (o : Occasion) : Option (FormCommand × Session) :=
  (s.reactions.find? fun r => r.occasion == o).map fun r =>
    (r.command, { s with reactions := s.reactions.eraseP fun r => r.occasion == o })

end Session

end FormEngine
