import FormEngine.Form.Session

/-!
Edits of a form. Changes are committed, the application is told, the values are shared with the store,
and what has to be checked is checked or put on the agenda. The store in turn tells the form of its
state, and the form takes over what differs; meanwhile it shares nothing, so that there is no echo.
-/

namespace FormEngine

namespace Session

variable (app : Application) (notify : Notifier)

/-- Checks the validity of the form, or leaves that to a job. -/
def reviewValidity (s : Session) : Session :=
  if app.defers then { s with agenda := s.agenda.add .checkValidity }
  else { s with form := s.form.checkValidity }

/-- Opens an inquiry about a field with rules that take time. The inquiries before it are superseded,
also where none is made. -/
def inquire (s : Session) (id : String) : Session :=
  match s.form.parsed.field? id with
  | none => s
  | some p =>
    if (p.field.validation.elim [] FieldValidation.asyncRules).isEmpty then s
    else
      let (generation, form) := s.form.nextGeneration id
      let s := { s with form }
      if app.defers then
        { s with
          form := s.form.mark (.inquired s.agenda.nextTask id (s.form.value id))
          agenda := s.agenda.openInquiry ⟨p, generation, s.form.value id⟩ }
      else s

/-- Checks one field, and takes note of the events on the way. -/
def recheck (id : String) (s : Session) : Session × Except Fault Unit :=
  let (s, form, outcome) := s.note (s.form.recheck app.host id)
  ({ s with form }, outcome)

/-- Checks a changed field, if changes are checked, and inquires about it. -/
def reconsider (s : Session) (id : String) : Session × Except Fault Unit :=
  let (s, outcome) := if s.form.validatesOnChange then s.recheck app id else (s, .ok ())
  match outcome with
  | .ok () => (s.inquire app id, .ok ())
  | .error e => (s, .error e)

/-- Reconsiders fields, up to one that cannot be checked. -/
def reconsiderAll (s : Session) : List String → Session × Except Fault Unit
  | [] => (s, .ok ())
  | id :: ids =>
    match s.reconsider app id with
    | (s, .ok ()) => reconsiderAll s ids
    | (s, .error e) => ({ s with form := s.form.mark (.cutShort (id :: ids)) }, .error e)

/-- Commits changes and tells the application; then the values are shared, and the changed fields
reconsidered. -/
def commit (share : Session → Session) (changes : Table Value) (s : Session) :
    Session × Except Fault Unit :=
  let s := s.become ((s.form.put changes).refresh app.host changes.keys)
  let s := s.tell notify (.changed s.form.state.values)
  match (share s).reconsiderAll app changes.keys with
  | (s, .ok ()) => (s.reviewValidity app, .ok ())
  | (s, .error e) => (s, .error e)

/-- Takes over the values that differ, without sharing them again. -/
def takeOver (values : Value) (s : Session) : Session × Except Fault Unit :=
  let changes := s.form.differing (Form.namedEntries values)
  if changes.isEmpty then (s, .ok ())
  else
    let (s, outcome) := commit app notify (fun s => s) changes { s with form.syncing := true }
    ({ s with form.syncing := false }, outcome)

/-- The store tells the form of a state. What goes wrong is contained. -/
def hear (view : StoreView) (state : Value) (s : Session) : Session :=
  let (s, outcome) := s.note (view.read app.host state)
  match outcome with
  | .ok values => if s.form.syncing then s else (s.takeOver app notify values).1
  | .error _ => s

/-- Replaces the state of the store, and tells the listeners it has at that moment. -/
def setStore (state : Value) (s : Session) : Session × Except Fault Unit :=
  if s.isBroken .set then (s, .error (.runtime "set failed"))
  else
    let view := app.link.elim {} StoreLink.view
    let listeners := s.store.listeners
    let s := { s with store := s.store.write state }
    (listeners.foldl (fun s _ => s.hear app notify view state) s, .ok ())

/-- Shares the values of the form with the store. What goes wrong is contained. -/
def share (s : Session) : Session :=
  match app.link with
  | none => s
  | some link =>
    if s.form.syncing || !link.connected || s.isBroken .get then s
    else
      let (s, written) := s.note (link.view.write app.host s.store.state
        (.record s.form.state.values))
      let s := { s with store.state := written.altered }
      match written.outcome with
      | .ok state => (s.setStore app notify state).1
      | .error _ => s

/-- Commits several changes at once, given as a record or as pairs. -/
def setValues (changes : Value) (s : Session) : Session × Except Fault Unit :=
  if !changes.truthy then (s, .ok ())
  else
    match Construct.record changes with
    | .ok changes => s.commit app notify (share app notify) (Form.entriesOf changes)
    | .error e => (s, .error e)

def change (id : String) (v : Value) (s : Session) : Session × Except Fault Unit :=
  s.commit app notify (share app notify) [(id, v)]

def blur (id : String) (s : Session) : Session × Except Fault Unit :=
  let s := { s with form := s.form.touch id }
  let s := s.tell notify (.blurred id)
  if s.form.validatesOnBlur then s.recheck app id else (s, .ok ())

def focus (id : String) (s : Session) : Session := s.tell notify (.focused id)

/-- Checks all fields and the form, unless that goes wrong. What is reported are the complaints as they
stand once the application was told of them. -/
def validate (s : Session) : Session × Except Fault Complaints :=
  let (s, form, outcome) := s.note (s.form.complaints app.host)
  match outcome with
  | .error e => ({ s with form }, .error e)
  | .ok found =>
    let s := { s with form := form.settle found }
    let s := s.tell notify (.validated s.form.state.isValid found)
    let (errors, form) := s.form.report
    ({ s with form }, .ok errors)

/-- Restores the snapshot. -/
def reset (s : Session) : Session :=
  let s := s.become (s.form.seed app.host)
  share app notify (s.tell notify .restored)

/-- Listens to the store, unless it refuses. -/
def listen (s : Session) : Session :=
  if s.isBroken .subscribe then s
  else
    { s with
      store := s.store.subscribe s.nextToken
      subscription := some s.nextToken
      nextToken := s.nextToken + 1 }

/-- Takes over the values of the store and listens to it. A store that fails is no fault of the form. -/
def attach (link : StoreLink) (s : Session) : Session × Except Fault Unit :=
  if !link.connected then (s, .ok ())
  else if s.isBroken .get then (s.listen, .ok ())
  else
    let (s, read) := s.note (link.view.read app.host s.store.state)
    match read.map fun values => s.takeOver app notify values with
    | .ok (s, .error e) => (s, .error e)
    | .ok (s, .ok ()) => (s.listen, .ok ())
    | .error _ => (s.listen, .ok ())

def mount (s : Session) : Session × Except Fault Unit :=
  if s.form.mounted then (s, .ok ())
  else
    let s := { s with form.mounted := true }
    let (s, outcome) := match app.link with
      | some link => s.attach app notify link
      | none => (s, .ok ())
    match outcome with
    | .ok () => (s.tell notify .mounted, .ok ())
    | .error e => (s, .error e)

/-- Stops listening to the store; a store that fails to let go goes on telling the form. -/
def detach (s : Session) : Session :=
  match s.subscription with
  | none => s
  | some token =>
    { s with
      store := if s.isBroken .unsubscribe then s.store else s.store.unsubscribe token
      subscription := none }

def unmount (s : Session) : Session :=
  if !s.form.mounted then s
  else
    let s := { s with form.mounted := false }.detach
    let s := { s with form := s.form.supersedeAll.mark .unmounted }
    s.tell notify .unmounted

/-- Begins anew with another schema, if it parses. -/
def replaceSchema (input : SchemaInput) (s : Session) : Session × Except Fault Unit :=
  match input.parse app.environment with
  | .ok parsed => (s.become (s.form.setSchema app.host parsed), .ok ())
  | .error e => (s, .error e)

def setSchema (schema : Value) (s : Session) : Session × Except Fault Unit :=
  s.replaceSchema app (.unparsed (.raw schema))

def setSnapshot (values : Value) (s : Session) : Session × Except Fault Unit :=
  match Construct.record values with
  | .ok values => (s.become (s.form.setSnapshot app.host (Form.entriesOf values)), .ok ())
  | .error e => (s, .error e)

/-- Renders the shown fields, and remembers their nodes. -/
def render (s : Session) : Session × List Node :=
  let (s, nodes) := s.note (s.form.render app.settings app.disabled)
  ({ s with nodes := nodes.foldl (fun kept n => kept.put n.fieldId n) s.nodes }, nodes)

end Session

end FormEngine
