import FormEngine.Form.Work

/-!
Running a form. Commands are carried out at once; an application may answer a callback with one, and
each such reaction has its turn once, so that their number bounds how deep callbacks nest. Waiting lets
jobs have their turn until a goal is reached.
-/

namespace FormEngine

inductive FormAnswer
  | nothing
  | verdict (errors : Complaints)
  | messages (texts : List String)
  | nodes (nodes : List Node)
  | missingNode (id : String)
  | missingHandler (name : String)

namespace Session

/-- Carries out what a component reports for a field. -/
def applyReport (app : Application) (notify : Notifier) (id : String) (r : Report) (s : Session) :
    Session × Except Fault Unit :=
  match r.callback, r.arguments with
  | .change, [v] => s.change app notify id v
  | .blur, [] => s.blur app notify id
  | .focus, [] => (s.focus notify id, .ok ())
  | _, _ => (s, .error Handler.wrongArguments)

def respond (app : Application) (notify : Notifier) (id : String) (r : Response) (s : Session) :
    Session × Except Fault Unit :=
  match r with
  | .report r => s.applyReport app notify id r
  | .quiet | .toggled => (s, .ok ())

/-- Calls a handler of the node that was last rendered for a field. -/
def handle (app : Application) (notify : Notifier) (id name : String) (arguments : List Value)
    (s : Session) : Session × Except Fault FormAnswer :=
  match s.nodes.get? id with
  | none => (s, .ok (.missingNode id))
  | some n =>
    match n.handlers.get? name with
    | none => (s, .ok (.missingHandler name))
    | some h =>
      match h.call arguments with
      | .error e => (s, .error e)
      | .ok response =>
        let (s, outcome) := s.respond app notify n.fieldId response
        (s, outcome.map fun _ => .nothing)

/-- Carries out a command. -/
def run (app : Application) (notify : Notifier) (s : Session) (command : FormCommand) :
    Session × Except Fault FormAnswer :=
  let done := fun (s : Session) => (s, Except.ok FormAnswer.nothing)
  let attempted := fun (r : Session × Except Fault Unit) =>
    (r.1, r.2.map fun _ => FormAnswer.nothing)
  match command with
  | .change id v => attempted (s.change app notify id v)
  | .setValues values => attempted (s.setValues app notify values)
  | .blur id => attempted (s.blur app notify id)
  | .focus id => done (s.focus notify id)
  | .validate =>
    let (s, outcome) := s.validate app notify
    (s, outcome.map .verdict)
  | .validateField id =>
    let (s, form, outcome) := s.note (s.form.complaintsAt app.host id)
    ({ s with form }, outcome.map .messages)
  | .reset => done (s.reset app notify)
  | .mount => attempted (s.mount app notify)
  | .unmount => done (s.unmount notify)
  | .setSchema schema => attempted (s.setSchema app schema)
  | .setSnapshot values => attempted (s.setSnapshot app values)
  | .render =>
    let (s, nodes) := s.render app
    (s, .ok (.nodes nodes))
  | .handle id name arguments => s.handle app notify id name arguments
  | .setStore state => attempted (s.setStore app notify state)
  | .breakStore operations => done { s with broken := operations }
  | .look => done s

/-- Calls the application back, if it hears of an event: the event is recorded, the application
answers, and then its callback may raise. -/
def callBack (app : Application)
    (answer : Occasion → Session → Session × Except Fault Unit) : Notifier := fun s e =>
  match e.occasion?.filter app.hears with
  | none => (s, .ok ())
  | some o =>
    let (s, outcome) := answer o { s with
      events := s.events ++ [e]
      form := s.form.mark (.calledBack s.form.state.isSubmitting) }
    (s, outcome.bind fun _ => if app.raises o then .error (.runtime o.word) else .ok ())

/-- The reactions to an occasion have their turn, until one raises. -/
def react (app : Application) : Nat → Occasion → Session → Session × Except Fault Unit
  | 0, _, s => (s, .ok ())
  | fuel + 1, o, s =>
    match s.takeReaction? o with
    | none => (s, .ok ())
    | some (command, s) =>
      match s.run app (callBack app (react app fuel)) command with
      | (s, .error e) => (s, .error e)
      | (s, .ok _) => react app fuel o s

/-- Tells the application of an event, with all its reactions. -/
def notify (app : Application) : Notifier := fun s e =>
  callBack app (react app s.reactions.length) s e

/-- Carries out a command of the application. -/
def perform (app : Application) (s : Session) (command : FormCommand) :
    Session × Except Fault FormAnswer :=
  s.run app (notify app) command

/-- A form that has just been made, for a schema in which no fault was found. -/
def start (app : Application) (parsed : ParsedSchema) (snapshot : Table Value) (store : Store)
    (reactions : List Reaction) : Session :=
  let form := Form.start app.host parsed snapshot
  { form := form.value, events := form.events, store, reactions }

/-- Does jobs until none is ready and a goal is reached, at most a number of them. -/
def runFor (app : Application) (goal : Session → Bool) : Nat → Session → Session
  | 0, s => s
  | fuel + 1, s =>
    match s.turn? app (notify app) goal with
    | none => s
    | some s => runFor app goal fuel s

/-- Does all there is to do, a number of times over. -/
def runRounds (app : Application) (goal : Session → Bool) : Nat → Session → Session
  | 0, s => s
  | rounds + 1, s => runRounds app goal rounds (s.runFor app goal s.agenda.work)

/-- Does jobs until none is ready and a goal is reached. What there is to do only grows where a
reaction has its turn or a submission goes on, which bounds the number of rounds. -/
def runUntil (app : Application) (goal : Session → Bool) (s : Session) : Session :=
  s.runRounds app goal (s.reactions.length + s.agenda.submissionSteps + 1)

/-- Does all jobs that are ready, and those that they bring up. -/
def settle (app : Application) (s : Session) : Session := s.runUntil app fun _ => true

/-- Lets some time pass. -/
def pause (app : Application) (span : Span) (s : Session) : Session :=
  let s := s.settle app
  let (id, agenda) := s.agenda.openPause span
  { s with agenda }.runUntil app fun s => (s.agenda.outcome? id).isSome

/-- Waits until all inquiries have ended. -/
def drain (app : Application) (s : Session) : Session :=
  (s.settle app).runUntil app fun s => s.agenda.pending.isEmpty

/-- Opens a submission, which begins with the next turn. -/
def openSubmission (s : Session) : Nat × Session :=
  let (id, agenda) := s.agenda.openSubmission
  (id, { s with agenda })

/-- Opens a submission that is waited for later. -/
def startSubmission (s : Session) : Session :=
  let (id, s) := s.openSubmission
  { s with submissions := s.submissions ++ [id] }

/-- Waits for a submission and gives its outcome. -/
def join (app : Application) (id : Nat) (s : Session) : Session × Option Bool :=
  let s := (s.settle app).runUntil app fun s => (s.agenda.outcome? id).isSome
  (s, s.agenda.outcome? id)

/-- Waits for a submission that was opened before, by its number; a negative one counts from the
last. -/
def joinStarted (app : Application) (n : Int) (s : Session) : Session × Except Fault (Option Bool) :=
  let position := if n < 0 then n + s.submissions.length else n
  match if position < 0 then none else s.submissions[position.toNat]? with
  | none => (s.settle app, .error (.outOfRange "list index out of range"))
  | some id =>
    let (s, outcome) := s.join app id
    (s, .ok outcome)

end Session

end FormEngine
