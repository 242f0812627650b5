import FormEngine.Clock.Timers
import FormEngine.Form.Check

/-!
What waits to be done for a form: jobs that are ready, in the order in which they came up, and tasks
that sleep until a time. A task that sleeps has its turn after the jobs that are ready when its timer
goes off. Time moves on only when no job is ready.
-/

namespace FormEngine

/-- A validation of a field's value that takes time. -/
structure Inquiry where
  field : ParsedField
  generation : Nat
  value : Value

namespace Inquiry

def rules (q : Inquiry) : List AsyncRule :=
  q.field.field.validation.elim [] FieldValidation.asyncRules

/-- The pause before the first question: the longest that a rule asks for. A rule without one has
that of the field, else that of the settings. -/
def debounce (environment : Environment) (q : Inquiry) : Int :=
  let general := (q.field.field.validation.bind FieldValidation.debounce).getD
    (match Setting.defaultDebounce.read environment with
      | .int i => i
      | _ => 0)
  ((q.rules.map fun r => r.debounce.getD general).max?).getD 0

/-- Whether a later validation or a later value has taken its place. -/
def isStale (f : Form) (q : Inquiry) : Bool := f.isStale q.field.id q.generation q.value

/-- Whether it is the latest inquiry about its field, and the value is still the one it is about. -/
def isCurrent (f : Form) (q : Inquiry) : Bool :=
  f.generations.get? q.field.id == some q.generation && !f.replaced.contains q.field.id

/-- The inquiry with the value as it is now, which may have been altered in place since. -/
def refreshed (f : Form) (q : Inquiry) : Inquiry :=
  if q.isCurrent f then { q with value := f.value q.field.id } else q

/-- Whether there is nothing to ask about. -/
def isMoot (f : Form) (q : Inquiry) : Bool := q.value.isEmpty || !f.isVisible q.field.id

end Inquiry

/-- How far an inquiry has come. -/
inductive InquiryStage
  | begun
  /-- the pause before the first question is over -/
  | rested
  /-- a rule is about to be asked, with the values of the form when the inquiry rested -/
  | asking (rule : AsyncRule) (later : List AsyncRule) (values : Table Value)
      (messages : List String)

/-- How far a submission has come. -/
inductive SubmissionStage
  | begun
  /-- the handler of the application is about to run; the epoch is that in which it began -/
  | handing (epoch : Nat) (handler : Callable) (values : Table Value)

inductive Task
  | inquiry (id : Nat) (inquiry : Inquiry) (stage : InquiryStage)
  | submission (id : Nat) (stage : SubmissionStage)
  | pause (id : Nat)

inductive Job
  | checkValidity
  /-- a task goes on -/
  | resume (task : Task)
  /-- the timer of a task has gone off -/
  | wake (task : Task)
  /-- an inquiry has ended -/
  | forget (id : Nat)

namespace Task

/-- A bound on the turns that a task has still to take. One that sleeps takes two more to wake up, and
an inquiry that ends is forgotten in a turn of its own. -/
def work : Task → Nat
  | .inquiry _ q .begun => 3 * (q.rules.length + 2)
  | .inquiry _ q .rested => 3 * (q.rules.length + 1)
  | .inquiry _ _ (.asking _ later ..) => 3 * (later.length + 1)
  | .submission _ .begun => 4
  | .submission _ (.handing ..) => 1
  | .pause _ => 1

/-- How many steps a submission may still take. -/
def submissionSteps : Task → Nat
  | .submission _ .begun => 2
  | .submission _ (.handing ..) => 1
  | _ => 0

end Task

namespace Job

def work : Job → Nat
  | .checkValidity => 1
  | .resume task => task.work
  | .wake task => task.work + 1
  | .forget _ => 1

def submissionSteps : Job → Nat
  | .resume task => task.submissionSteps
  | .wake task => task.submissionSteps
  | _ => 0

end Job

structure Agenda where
  now : Time := .start
  ready : List Job := []
  timers : Timers Task := #[]
  /-- the inquiries that have not ended -/
  pending : List Nat := []
  /-- the pauses and submissions that have ended, with what came of them -/
  outcomes : List (Nat × Bool) := []
  nextTask : Nat := 0

namespace Agenda

def add (a : Agenda) (job : Job) : Agenda := { a with ready := a.ready ++ [job] }

/-- Lets a task sleep for some time; with none it only waits for its next turn. -/
def sleep (a : Agenda) (span : Span) (task : Task) : Agenda :=
  if Time.passes span then { a with timers := a.timers.insert (a.now.after span) task }
  else a.add (.resume task)

def openInquiry (a : Agenda) (inquiry : Inquiry) : Agenda :=
  let id := a.nextTask
  { a.add (.resume (.inquiry id inquiry .begun)) with
    pending := a.pending ++ [id]
    nextTask := id + 1 }

def openSubmission (a : Agenda) : Nat × Agenda :=
  let id := a.nextTask
  (id, { a.add (.resume (.submission id .begun)) with nextTask := id + 1 })

def openPause (a : Agenda) (span : Span) : Nat × Agenda :=
  let id := a.nextTask
  (id, { a.sleep span (.pause id) with nextTask := id + 1 })

def conclude (a : Agenda) (id : Nat) (outcome : Bool) : Agenda :=
  { a with outcomes := a.outcomes ++ [(id, outcome)] }

def outcome? (a : Agenda) (id : Nat) : Option Bool := a.outcomes.lookup id

/-- Work that is in the hands of submissions, in steps. -/
def submissionSteps (a : Agenda) : Nat :=
  a.timers.foldl (fun n t => n + t.action.submissionSteps)
    (a.ready.foldl (fun n job => n + job.submissionSteps) 0)

/-- A bound on the turns in which all there is to do now is done, timers included. -/
def work (a : Agenda) : Nat :=
  a.timers.foldl (fun n t => n + t.action.work + 2) (a.ready.foldl (fun n job => n + job.work) 0)

/-- How much earlier than its deadline a timer may go off, in seconds. -/
def resolution : Binary64 := .ofQuotient false 1 1000000000

/-- Moves time on to the first deadline; all timers that are due then go off. -/
def toNextTimer? (a : Agenda) : Option Agenda :=
  a.timers.first?.map fun t =>
    let now := if a.now.before t.deadline then t.deadline else a.now
    let horizon := Binary64.add now resolution
    let (tasks, timers) := a.timers.takeWhile (fun d => d.before horizon) a.timers.size
    { a with now, timers, ready := a.ready ++ tasks.map .wake }

end Agenda

end FormEngine
