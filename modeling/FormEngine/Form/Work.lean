import FormEngine.Form.Edit

/-!
Tasks of a form, step by step. A submission validates, hands the values to the application and waits
for its handler; a second one meanwhile is refused. An inquiry pauses, asks its rules in order and
keeps what they complain of, unless it has been superseded.
-/

namespace FormEngine

/-- The complaints of an inquiry become the form's own. -/
def Form.complain (id : Nat) (q : Inquiry) (messages : List String) (f : Form) : Form :=
  { f.mark (.complained id q.field.id q.value (f.value q.field.id)) with
    state.errors := f.state.errors.put q.field.id messages
    state.isValid := false }

namespace Session

variable (app : Application) (notify : Notifier)

def conclude (id : Nat) (outcome : Bool) (s : Session) : Session :=
  { s with agenda := s.agenda.conclude id outcome }

/-- A submission ends without success, for a reason if the application is to blame. -/
def abandon (id epoch : Nat) (cause : Option Fault) (s : Session) : Session :=
  let form := { s.form with submitFault := cause.or s.form.submitFault }
  { s with form := form.endSubmission id epoch }.conclude id false

/-- A submission ends with success; the form may then be reset. -/
def complete (id epoch : Nat) (s : Session) : Session :=
  let s := { s with form := s.form.endSubmission id epoch }
  let s := if s.form.resetsOnSubmit then s.reset app notify else s
  s.conclude id true

/-- Runs the handler of a submission. It is taken to alter nothing in place inside the values. -/
def handIn (id epoch : Nat) (handler : Callable) (values : Table Value) (s : Session) : Session :=
  let reply := app.host.run handler [.record values]
  let s := { s with events := s.events ++ reply.events }
  match reply.outcome with
  | .ok _ => s.complete app notify id epoch
  | .error e => s.abandon id epoch (some e)

/-- Hands values to the application. A deferred handler sleeps before it runs. -/
def handOver (id epoch : Nat) (values : Table Value) (s : Session) : Session :=
  let (s, outcome) := notify { s with form := s.form.mark (.handed id values) } (.submitted values)
  match outcome, app.handler with
  | .error e, _ => s.abandon id epoch (some e)
  | .ok _, none => s.complete app notify id epoch
  | .ok _, some handler =>
    let delay := app.host.delay handler [.record values]
    if !handler.isDeferred || delay.isZero then s.handIn app notify id epoch handler values
    else
      { s with agenda :=
          s.agenda.sleep delay (.submission id (.handing epoch handler values)) }

/-- Begins a submission. -/
def submit (id : Nat) (s : Session) : Session :=
  if s.form.state.isSubmitting then s.conclude id false
  else
    let epoch := s.form.epoch
    let s := { s with form := s.form.beginSubmission id }
    let (s, outcome) :=
      if s.form.validatesOnSubmit then s.validate app notify else (s, .ok [])
    match outcome with
    | .error e => s.abandon id epoch (some e)
    | .ok errors =>
      if !errors.isEmpty then s.abandon id epoch none
      else if app.hears .submit then s.handOver app notify id epoch s.form.resolved
      else s.complete app notify id epoch

/-- Keeps what an inquiry found, unless it is stale. -/
def settleInquiry (id : Nat) (q : Inquiry) (messages : List String) (s : Session) : Session :=
  let s :=
    if q.isStale s.form || messages.isEmpty then s
    else { s with form := s.form.complain id q messages }
  { s with agenda := s.agenda.add (.forget id) }

/-- Asks a rule; what it complains of is added to the messages. A value that it alters in place is
altered in the form as well, as long as the inquiry is about the present one. -/
def ask (q : Inquiry) (rule : AsyncRule) (values : Table Value) (messages : List String)
    (s : Session) : Session × Inquiry × List String :=
  let reply := app.host.awaited rule.validator [q.value, .record values]
  let s := { s with events := s.events ++ reply.events }
  let messages := (complaint? reply.outcome rule.message).elim messages (addDistinct messages)
  match reply.altered with
  | none => (s, q, messages)
  | some v =>
    let form := if q.isCurrent s.form then s.form.amend q.field.id v else s.form
    ({ s with form }, { q with value := v }, messages)

/-- Asks rules in order, up to one that sleeps first. -/
def askAll (id : Nat) (values : Table Value) :
    Inquiry → List String → List AsyncRule → Session → Session
  | q, messages, [], s => s.settleInquiry id q messages
  | q, messages, rule :: later, s =>
    let arguments : List Value := [q.value, .record values]
    let delay := app.host.delay rule.validator arguments
    if !rule.validator.isDeferred || delay.isZero then
      let (s, q, messages) := s.ask app q rule values messages
      askAll id values q messages later s
    else
      { s with agenda :=
          s.agenda.sleep delay (.inquiry id q (.asking rule later values messages)) }

/-- An inquiry whose pause is over looks whether it is still wanted. -/
def openQuestions (id : Nat) (q : Inquiry) (s : Session) : Session :=
  if q.isStale s.form || q.isMoot s.form then { s with agenda := s.agenda.add (.forget id) }
  else
    let s := { s with form := s.form.mark (.asked id q.field.id q.value (s.form.value q.field.id)) }
    s.askAll app id s.form.resolved q [] q.rules

/-- Takes an inquiry one step on. One whose pause cannot be told in seconds ends at once. -/
def inquireOn (id : Nat) (inquiry : Inquiry) (s : Session) (stage : InquiryStage) : Session :=
  let q := inquiry.refreshed s.form
  match stage with
  | .begun =>
    let delay := q.debounce app.environment
    if !Time.isSpan delay then { s with agenda := s.agenda.add (.forget id) }
    else if 0 < delay then
      { s with agenda := s.agenda.sleep (Time.seconds delay) (.inquiry id q .rested) }
    else s.openQuestions app id q
  | .rested => s.openQuestions app id q
  | .asking rule later values messages =>
    let (s, q, messages) := s.ask app q rule values messages
    s.askAll app id values q messages later

def resume (s : Session) : Task → Session
  | .inquiry id q stage => s.inquireOn app id q stage
  | .submission id .begun => s.submit app notify id
  | .submission id (.handing epoch handler values) =>
    s.handIn app notify id epoch handler values
  | .pause id => s.conclude id true

/-- Does a job that is due. -/
def work (s : Session) : Job → Session
  | .checkValidity => { s with form := s.form.checkValidity }
  | .resume task => s.resume app notify task
  | .wake task => { s with agenda := s.agenda.add (.resume task) }
  | .forget id => { s with agenda.pending := s.agenda.pending.erase id }

/-- Does the first job that is ready. With none, time moves on, unless a goal has been reached. -/
def turn? (goal : Session → Bool) (s : Session) : Option Session :=
  match s.agenda.ready with
  | job :: ready => some ({ s with agenda.ready := ready }.work app notify job)
  | [] =>
    if goal s then none
    else s.agenda.toNextTimer?.map fun agenda => { s with agenda }

end Session

end FormEngine
