import FormEngine.Proofs.Session.Twin

/-!
Two runs in step. Turn for turn the same job is done in two sessions that look the same, so that what is
waited for is over in both at the same turn. Whatever is asked of both, one thing after the other, they
answer and show the same.
-/

namespace FormEngine

namespace Inquiry

theorem value_shift (k : Kinship) (q : Inquiry) : (q.shift k).value = q.value := rfl

variable {k : Kinship} {opened : Nat} {f g : Form} (twin : Form.Twin k opened f g) {q : Inquiry}
include twin

theorem isMoot_shift : (q.shift k).isMoot f = q.isMoot g := by
  unfold isMoot
  rw [twin.isVisible]
  rfl

variable (begun : k.begun q.field.id)
include begun

theorem isStale_shift : (q.shift k).isStale f = q.isStale g :=
  (twin.isStale begun q.generation q.value).symm

theorem isCurrent_shift : (q.shift k).isCurrent f = q.isCurrent g := by
  have numbered : (f.generations.get? q.field.id == some (q.generation + k.generations q.field.id)) =
      (g.generations.get? q.field.id == some q.generation) := by
    rw [Bool.eq_iff_iff, beq_iff_eq, beq_iff_eq]
    exact twin.generations_eq_iff begun q.generation
  unfold isCurrent shift
  dsimp only
  rw [numbered, twin.replaced _ (twin.begun _ begun)]

theorem refreshed_shift : (q.shift k).refreshed f = (q.refreshed g).shift k := by
  unfold refreshed
  rw [isCurrent_shift twin begun]
  split
  · rw [twin.valueOf]
    rfl
  · rfl

end Inquiry

theorem Form.Twin.complain {k : Kinship} {opened : Nat} {f g : Form} (twin : Form.Twin k opened f g)
    (id : Nat) (q : Inquiry) (messages : List String) :
    Form.Twin k opened (f.complain id (q.shift k) messages) (g.complain id q messages) := by
  have marked := twin.mark (.complained id q.field.id q.value (f.value q.field.id))
    (.complained id q.field.id q.value (g.value q.field.id)) rfl
  exact { marked with
    state := congrArg (fun st : FormState =>
      { st with errors := st.errors.put q.field.id messages, isValid := false }) twin.state }

namespace Session

namespace Comparison

variable {c : Comparison} {opened : Nat} {s t : Session}

namespace Looks

variable {generations : String → Nat} {begun : String → Prop} {f g : Form} {a b : Agenda}
  (looks : c.Looks generations begun opened f g a b)
include looks

theorem added (job : Job) (admitted : ∀ task ∈ job.task?, c.Admits begun task) :
    c.Looks generations begun opened f g
      (a.add (job.map (Task.shift (c.kinship generations begun)))) (b.add job) := by
  refine { looks with agenda := ?_, admitted := fun task ht => ?_ }
  · rw [looks.agenda]
    exact Agenda.add_map _ b job
  · rcases List.mem_append.mp ((b.tasks_add job).mem_iff.mp ht) with new | old
    · exact admitted task (Option.mem_toList.mp new)
    · exact looks.admitted task old

theorem slept (task : Task) (admitted : c.Admits begun task) (span : Span) :
    c.Looks generations begun opened f g
      (a.sleep span (task.shift (c.kinship generations begun))) (b.sleep span task) := by
  refine { looks with agenda := ?_, admitted := fun other ho => ?_ }
  · rw [looks.agenda]
    exact Agenda.sleep_map _ b span task
  · rcases List.mem_cons.mp ((b.tasks_sleep span task).mem_iff.mp ho) with rfl | old
    · exact admitted
    · exact looks.admitted other old

theorem nextTask : a.nextTask = b.nextTask := by
  rw [looks.agenda]
  rfl

/-- The next task gets the same number. -/
theorem numbered (next : Nat) : c.Looks generations begun opened f g { a with nextTask := next }
    { b with nextTask := next } := by
  refine { looks with agenda := ?_, admitted := fun task ht => looks.admitted task ht }
  rw [looks.agenda]
  rfl

end Looks

namespace Twins

theorem conclude (twins : c.Twins opened s t) (id : Nat) (outcome : Bool) :
    c.Twins opened (s.conclude id outcome) (t.conclude id outcome) := by
  refine twins.arranged (fun k same => ?_) fun _ ht => ht
  rw [same]
  rfl

section Submissions

/-- The epoch in which a submission began is as much later as the form is ahead. -/
theorem abandon (twins : c.Twins opened s t) (id epoch : Nat) (cause : Option Fault) :
    c.Twins opened (s.abandon id (epoch + c.epochs) cause) (t.abandon id epoch cause) :=
  (twins.formed fun _ _ twin => (twin.blame cause).endSubmission id epoch).conclude id false

variable {notify notify' : Notifier} (alike : c.Alike notify notify')
include alike

theorem complete (twins : c.Twins opened s t) (id epoch : Nat) :
    c.Twins opened (s.complete c.app notify id (epoch + c.epochs))
      (t.complete c.other notify' id epoch) := by
  have ended : c.Twins opened { s with form := s.form.endSubmission id (epoch + c.epochs) }
      { t with form := t.form.endSubmission id epoch } :=
    twins.formed fun _ _ twin => twin.endSubmission id epoch
  have resets : (t.form.endSubmission id epoch).resetsOnSubmit =
      (s.form.endSubmission id (epoch + c.epochs)).resetsOnSubmit := by
    obtain ⟨_, _, looks⟩ := ended.looks
    exact looks.twin.resetsOnSubmit
  unfold Session.complete
  dsimp only
  rw [resets]
  split
  · exact (ended.reset alike).conclude id true
  · exact ended.conclude id true

theorem handIn (twins : c.Twins opened s t) (id epoch : Nat) {handler : Callable}
    (own : c.app.handler = some handler) (values : Table Value) :
    c.Twins opened (s.handIn c.app notify id (epoch + c.epochs) handler values)
      (t.handIn c.other notify' id epoch handler values) := by
  have noted := twins.emitted (c.app.host.run handler [.record values]).events
  unfold Session.handIn
  rw [c.handled handler own]
  dsimp only
  cases (c.app.host.run handler [.record values]).outcome with
  | ok _ => exact noted.complete alike id epoch
  | error e => exact noted.abandon id epoch (some e)

/-- What the callback on a submission raises is raised in both. -/
theorem handOver (twins : c.Twins opened s t) (id epoch : Nat) (values : Table Value) :
    c.Twins opened (s.handOver c.app notify id (epoch + c.epochs) values)
      (t.handOver c.other notify' id epoch values) := by
  have handed : c.Twins opened { s with form := s.form.mark (.handed id values) }
      { t with form := t.form.mark (.handed id values) } :=
    twins.formed fun _ _ twin => twin.mark _ _ rfl
  obtain ⟨told, raised⟩ := alike opened _ _ handed (.submitted values)
  unfold Session.handOver
  dsimp only
  rw [raised rfl, c.handler, c.excuses.delay]
  cases (notify { s with form := s.form.mark (.handed id values) } (.submitted values)).2 with
  | error e => exact told.abandon id epoch (some e)
  | ok _ =>
    cases own : c.app.handler with
    | none => exact told.complete alike id epoch
    | some handler =>
      dsimp only
      split
      · exact told.handIn alike id epoch own values
      · obtain ⟨_, _, looks⟩ := told.looks
        exact { told with
          looks := ⟨_, _, looks.slept (.submission id (.handing epoch handler values)) own _⟩ }

theorem submit (twins : c.Twins opened s t) (id : Nat) :
    c.Twins opened (s.submit c.app notify id) (t.submit c.other notify' id) := by
  obtain ⟨_, _, looks⟩ := twins.looks
  have epoch : s.form.epoch = t.form.epoch + c.epochs := looks.twin.epoch
  have accepted : c.Twins opened { s with form := s.form.beginSubmission id }
      { t with form := t.form.beginSubmission id } :=
    twins.formed fun _ _ twin => twin.beginSubmission id
  have checked : Paired (c.Twins opened)
      (if (s.form.beginSubmission id).validatesOnSubmit then
        { s with form := s.form.beginSubmission id }.validate c.app notify
      else ({ s with form := s.form.beginSubmission id }, .ok []))
      (if (t.form.beginSubmission id).validatesOnSubmit then
        { t with form := t.form.beginSubmission id }.validate c.other notify'
      else ({ t with form := t.form.beginSubmission id }, .ok [])) := by
    rw [(looks.twin.beginSubmission id).validatesOnSubmit]
    split
    · exact accepted.validate alike
    · exact .intro accepted _
  unfold Session.submit
  rw [twins.state, epoch]
  split
  · exact twins.conclude id false
  · obtain ⟨a, b, outcome, ha, hb, found⟩ := checked
    dsimp only
    rw [ha, hb]
    cases outcome with
    | error e => exact found.abandon id _ _
    | ok errors =>
      have resolved : b.form.resolved = a.form.resolved := by
        obtain ⟨_, _, looks⟩ := found.looks
        exact looks.twin.resolved
      dsimp only
      rw [c.hears, resolved]
      split
      · exact found.abandon id _ none
      · split
        · exact found.handOver alike id _ _
        · exact found.complete alike id _

end Submissions

section Inquiries

theorem forget (twins : c.Twins opened s t) (id : Nat) :
    c.Twins opened { s with agenda := s.agenda.add (.forget id) }
      { t with agenda := t.agenda.add (.forget id) } := by
  obtain ⟨_, _, looks⟩ := twins.looks
  exact { twins with looks := ⟨_, _, looks.added (.forget id) fun _ h => by cases h⟩ }

variable {generations : String → Nat} {begun : String → Prop}

theorem settleInquiry (twins : c.Twins opened s t)
    (looks : c.Looks generations begun opened s.form t.form s.agenda t.agenda) {q : Inquiry}
    (known : begun q.field.id) (id : Nat) (messages : List String) : c.Twins opened
    (s.settleInquiry id (q.shift (c.kinship generations begun)) messages)
    (t.settleInquiry id q messages) := by
  unfold Session.settleInquiry
  rw [Inquiry.isStale_shift looks.twin known]
  dsimp only
  split
  · exact twins.forget id
  · have complained : c.Twins opened
        { s with form := s.form.complain id (q.shift (c.kinship generations begun)) messages }
        { t with form := t.form.complain id q messages } :=
      { twins with looks := ⟨_, _, { looks with twin := looks.twin.complain id q messages }⟩ }
    exact complained.forget id

/-- A rule is asked about the same value. What it alters is altered in both forms or in none. -/
theorem ask (twins : c.Twins opened s t)
    (looks : c.Looks generations begun opened s.form t.form s.agenda t.agenda) {q : Inquiry}
    (known : begun q.field.id) (rule : AsyncRule) (values : Table Value) (messages : List String) :
    ∃ s' t' q' messages',
      s.ask c.app (q.shift (c.kinship generations begun)) rule values messages =
          (s', q'.shift (c.kinship generations begun), messages') ∧
        t.ask c.other q rule values messages = (t', q', messages') ∧ q'.field = q.field ∧
        c.Twins opened s' t' ∧
        c.Looks generations begun opened s'.form t'.form s'.agenda t'.agenda := by
  obtain ⟨outcome, complains, same⟩ :=
    c.excuses.awaited_frame rule.validator [q.value, .record values] rule.message
  have noted := twins.emitted (c.app.host.awaited rule.validator [q.value, .record values]).events
  unfold Session.ask
  rw [same]
  dsimp only
  rw [Inquiry.isCurrent_shift looks.twin known, complains]
  dsimp only [Inquiry.shift]
  cases (c.app.host.awaited rule.validator [q.value, .record values]).altered with
  | none => exact ⟨_, _, q, _, rfl, rfl, rfl, noted, looks⟩
  | some v =>
    have twin : Form.Twin (c.kinship generations begun) opened
        (if q.isCurrent t.form then s.form.amend q.field.id v else s.form)
        (if q.isCurrent t.form then t.form.amend q.field.id v else t.form) := by
      split
      · exact looks.twin.amend q.field.id v
      · exact looks.twin
    have looks := { looks with twin }
    exact ⟨_, _, { q with value := v }, _, rfl, rfl, rfl,
      { noted with looks := ⟨_, _, looks⟩ }, looks⟩

theorem askAll (twins : c.Twins opened s t)
    (looks : c.Looks generations begun opened s.form t.form s.agenda t.agenda) {q : Inquiry}
    (known : begun q.field.id) (id : Nat) (values : Table Value) (messages : List String)
    (rules : List AsyncRule) : c.Twins opened
    (s.askAll c.app id values (q.shift (c.kinship generations begun)) messages rules)
    (t.askAll c.other id values q messages rules) := by
  induction rules generalizing s t q messages with
  | nil => exact twins.settleInquiry looks known id messages
  | cons rule later ih =>
    unfold Session.askAll
    dsimp only
    rw [c.excuses.delay, Inquiry.value_shift]
    by_cases now : (!rule.validator.isDeferred ||
        (c.app.host.delay rule.validator [q.value, .record values]).isZero) = true
    · rw [if_pos now, if_pos now]
      obtain ⟨s', t', q', messages', hs, ht, field, twins, looks⟩ :=
        twins.ask looks known rule values messages
      rw [hs, ht]
      exact ih twins looks (by rwa [field]) messages'
    · rw [if_neg now, if_neg now]
      exact { twins with looks := ⟨_, _,
        looks.slept (.inquiry id q (.asking rule later values messages)) known _⟩ }

theorem openQuestions (twins : c.Twins opened s t)
    (looks : c.Looks generations begun opened s.form t.form s.agenda t.agenda) {q : Inquiry}
    (known : begun q.field.id) (id : Nat) : c.Twins opened
    (s.openQuestions c.app id (q.shift (c.kinship generations begun)))
    (t.openQuestions c.other id q) := by
  unfold Session.openQuestions
  rw [Inquiry.isStale_shift looks.twin known, Inquiry.isMoot_shift looks.twin]
  split
  · exact twins.forget id
  · have marked := looks.twin.mark (.asked id q.field.id q.value (s.form.value q.field.id))
      (.asked id q.field.id q.value (t.form.value q.field.id)) rfl
    have resolved := marked.resolved
    dsimp only
    rw [resolved]
    have looks := { looks with twin := marked }
    have twins : c.Twins opened
        { s with form := s.form.mark (.asked id q.field.id q.value (s.form.value q.field.id)) }
        { t with form := t.form.mark (.asked id q.field.id q.value (t.form.value q.field.id)) } :=
      { twins with looks := ⟨_, _, looks⟩ }
    exact twins.askAll looks known id _ [] q.rules

/-- An inquiry is taken one step on. -/
theorem inquireOn (twins : c.Twins opened s t)
    (looks : c.Looks generations begun opened s.form t.form s.agenda t.agenda) {q : Inquiry}
    (known : begun q.field.id) (id : Nat) (stage : InquiryStage) : c.Twins opened
    (s.inquireOn c.app id (q.shift (c.kinship generations begun)) stage)
    (t.inquireOn c.other id q stage) := by
  have field : (q.refreshed t.form).field = q.field := by
    unfold Inquiry.refreshed
    split <;> rfl
  have refreshed := Inquiry.refreshed_shift looks.twin known
  have known : begun (q.refreshed t.form).field.id := by rwa [field]
  unfold Session.inquireOn
  dsimp only
  rw [refreshed, c.environment]
  cases stage with
  | begun =>
    have debounce : ((q.refreshed t.form).shift (c.kinship generations begun)).debounce
        c.app.environment = (q.refreshed t.form).debounce c.app.environment := rfl
    dsimp only
    rw [debounce]
    by_cases endless : (!Time.isSpan ((q.refreshed t.form).debounce c.app.environment)) = true
    · rw [if_pos endless, if_pos endless]
      exact twins.forget id
    rw [if_neg endless, if_neg endless]
    by_cases waits : 0 < (q.refreshed t.form).debounce c.app.environment
    · rw [if_pos waits, if_pos waits]
      exact { twins with looks := ⟨_, _, looks.slept (.inquiry id (q.refreshed t.form) .rested) known _⟩ }
    · rw [if_neg waits, if_neg waits]
      exact twins.openQuestions looks known id
  | rested => exact twins.openQuestions looks known id
  | asking rule later values messages =>
    obtain ⟨s', t', q', messages', hs, ht, field, twins, looks⟩ :=
      twins.ask looks known rule values messages
    dsimp only
    rw [hs, ht]
    exact twins.askAll looks (by rwa [field]) id values messages' later

end Inquiries

section Turns

variable {notify notify' : Notifier} (alike : c.Alike notify notify')
include alike

theorem resume (twins : c.Twins opened s t) {generations : String → Nat} {begun : String → Prop}
    (looks : c.Looks generations begun opened s.form t.form s.agenda t.agenda) {task : Task}
    (admitted : c.Admits begun task) : c.Twins opened
    (s.resume c.app notify (task.shift (c.kinship generations begun)))
    (t.resume c.other notify' task) := by
  cases task with
  | inquiry id q stage => exact twins.inquireOn looks admitted id stage
  | submission id stage =>
    cases stage with
    | begun => exact twins.submit alike id
    | handing epoch handler values => exact twins.handIn alike id epoch admitted values
  | pause id => exact twins.conclude id true

theorem work (twins : c.Twins opened s t) {generations : String → Nat} {begun : String → Prop}
    (looks : c.Looks generations begun opened s.form t.form s.agenda t.agenda) {job : Job}
    (admitted : ∀ task ∈ job.task?, c.Admits begun task) : c.Twins opened
    (s.work c.app notify (job.map (Task.shift (c.kinship generations begun))))
    (t.work c.other notify' job) := by
  cases job with
  | checkValidity => exact twins.formed fun _ _ twin => twin.checkValidity
  | resume task => exact twins.resume alike looks (admitted task rfl)
  | wake task => exact { twins with looks := ⟨_, _, looks.added (.resume task) admitted⟩ }
  | forget id =>
    refine twins.arranged (fun k same => ?_) fun _ ht => ht
    rw [same]
    rfl

/-- Both do the first job that is ready, or wait for the same timer. -/
theorem turn? (twins : c.Twins opened s t) {goal : Session → Bool} (goals : goal t = goal s) :
    s.turn? c.app notify goal = none ∧ t.turn? c.other notify' goal = none ∨
      ∃ s' t', s.turn? c.app notify goal = some s' ∧ t.turn? c.other notify' goal = some t' ∧
        c.Twins opened s' t' := by
  obtain ⟨generations, begun, looks⟩ := twins.looks
  have ready : s.agenda.ready =
      t.agenda.ready.map (Job.map (Task.shift (c.kinship generations begun))) :=
    congrArg Agenda.ready looks.agenda
  unfold Session.turn?
  rw [ready, goals]
  cases hr : t.agenda.ready with
  | nil =>
    dsimp only [List.map_nil]
    by_cases reached : goal s = true
    · rw [if_pos reached, if_pos reached]
      exact .inl ⟨rfl, rfl⟩
    rw [if_neg reached, if_neg reached, looks.agenda, Agenda.shift, Agenda.toNextTimer?_map]
    cases later : t.agenda.toNextTimer? with
    | none => exact .inl ⟨rfl, rfl⟩
    | some b =>
      have elapsed : c.Looks generations begun opened s.form t.form
          (b.shift (c.kinship generations begun)) b :=
        ⟨looks.twin, rfl, fun task ht =>
          looks.admitted task ((Agenda.tasks_toNextTimer later).mem_iff.mp ht)⟩
      exact .inr ⟨_, _, rfl, rfl, { twins with looks := ⟨_, _, elapsed⟩ }⟩
  | cons job rest =>
    have tasks := Agenda.tasks_ready hr
    have popped : c.Looks generations begun opened s.form t.form
        { s.agenda with ready := rest.map (Job.map (Task.shift (c.kinship generations begun))) }
        { t.agenda with ready := rest } := by
      refine { looks with agenda := ?_, admitted := fun task ht => ?_ }
      · rw [looks.agenda]
        rfl
      · exact looks.admitted task (by rw [tasks]; exact List.mem_append_right _ ht)
    have admitted : ∀ task ∈ job.task?, c.Admits begun task := fun task ht =>
      looks.admitted task (by rw [tasks]; exact List.mem_append_left _ (Option.mem_toList.mpr ht))
    have twins : c.Twins opened
        { s with agenda.ready := rest.map (Job.map (Task.shift (c.kinship generations begun))) }
        { t with agenda.ready := rest } := { twins with looks := ⟨_, _, popped⟩ }
    exact .inr ⟨_, _, rfl, rfl, twins.work alike popped admitted⟩

end Turns

section Waiting

variable {goal : Session → Bool}

theorem runFor (goals : ∀ s t, c.Twins opened s t → goal t = goal s) (fuel : Nat)
    (twins : c.Twins opened s t) :
    c.Twins opened (s.runFor c.app goal fuel) (t.runFor c.other goal fuel) := by
  induction fuel generalizing s t with
  | zero => exact twins
  | succ fuel ih =>
    unfold Session.runFor
    rcases twins.turn? c.alike_notify (goals s t twins) with ⟨hs, ht⟩ | ⟨s', t', hs, ht, twins⟩
    · rw [hs, ht]
      exact twins
    · rw [hs, ht]
      exact ih twins

theorem runRounds (goals : ∀ s t, c.Twins opened s t → goal t = goal s) (rounds : Nat)
    (twins : c.Twins opened s t) :
    c.Twins opened (s.runRounds c.app goal rounds) (t.runRounds c.other goal rounds) := by
  induction rounds generalizing s t with
  | zero => exact twins
  | succ rounds ih =>
    obtain ⟨_, _, looks⟩ := twins.looks
    have ran := twins.runFor goals t.agenda.work
    unfold Session.runRounds
    rw [looks.agenda, Agenda.work_shift]
    exact ih ran

/-- The same amount of work is to be done. -/
theorem runUntil (goals : ∀ s t, c.Twins opened s t → goal t = goal s) (twins : c.Twins opened s t) :
    c.Twins opened (s.runUntil c.app goal) (t.runUntil c.other goal) := by
  obtain ⟨_, _, looks⟩ := twins.looks
  have ran := twins.runRounds goals (s.reactions.length + t.agenda.submissionSteps + 1)
  unfold Session.runUntil
  rw [looks.agenda, Agenda.submissionSteps_shift, twins.reactions]
  exact ran

theorem outcome? (twins : c.Twins opened s t) (id : Nat) :
    t.agenda.outcome? id = s.agenda.outcome? id := by
  obtain ⟨_, _, looks⟩ := twins.looks
  rw [looks.agenda]
  rfl

theorem settle (twins : c.Twins opened s t) :
    c.Twins opened (s.settle c.app) (t.settle c.other) :=
  twins.runUntil fun _ _ _ => rfl

theorem pause (twins : c.Twins opened s t) (span : Span) :
    c.Twins opened (s.pause c.app span) (t.pause c.other span) := by
  have settled := twins.settle
  obtain ⟨_, _, looks⟩ := settled.looks
  have paused := (looks.slept (.pause (t.settle c.other).agenda.nextTask) trivial span).numbered
    ((t.settle c.other).agenda.nextTask + 1)
  unfold Session.pause Agenda.openPause
  dsimp only
  rw [looks.nextTask]
  exact runUntil (fun _ _ twins => congrArg Option.isSome (twins.outcome? _))
    { settled with looks := ⟨_, _, paused⟩ }

theorem openSubmission (twins : c.Twins opened s t) : t.openSubmission.1 = s.openSubmission.1 ∧
    c.Twins opened s.openSubmission.2 t.openSubmission.2 := by
  obtain ⟨_, _, looks⟩ := twins.looks
  have opened := (looks.added (.resume (.submission t.agenda.nextTask .begun))
    fun task ht => by cases ht; trivial).numbered (t.agenda.nextTask + 1)
  unfold Session.openSubmission Agenda.openSubmission
  dsimp only
  rw [looks.nextTask]
  exact ⟨rfl, { twins with looks := ⟨_, _, opened⟩ }⟩

theorem join (twins : c.Twins opened s t) (id : Nat) :
    Paired (c.Twins opened) (s.join c.app id) (t.join c.other id) := by
  have waited : c.Twins opened
      ((s.settle c.app).runUntil c.app fun s => (s.agenda.outcome? id).isSome)
      ((t.settle c.other).runUntil c.other fun t => (t.agenda.outcome? id).isSome) :=
    twins.settle.runUntil fun _ _ twins => congrArg Option.isSome (twins.outcome? id)
  exact .of waited (waited.outcome? id)

end Waiting

end Twins

end Comparison

/-- What an application does with a form: it gives commands, submits and waits for what comes of it, submits
without waiting, or lets time pass. -/
inductive Move
  | command (command : FormCommand)
  | submit
  | begin
  | pause (span : Span)

/-- What a move comes to. -/
inductive MoveAnswer
  | answered (outcome : Except Fault FormAnswer)
  | submitted (outcome : Option Bool)
  | silent

/-- All that is seen of a move: its answer, the events on the way, and the form after it. -/
structure Sight where
  answer : MoveAnswer
  events : List Event
  state : FormState
  values : Table Value
  fieldStates : Table FieldState

def play (app : Application) (s : Session) : Move → Session × MoveAnswer
  | .command command =>
    let (s, outcome) := s.perform app command
    (s, .answered outcome)
  | .submit =>
    let (id, s) := s.openSubmission
    let (s, outcome) := s.join app id
    (s, .submitted outcome)
  | .begin => (s.startSubmission, .silent)
  | .pause span => (s.pause app span, .silent)

/-- What is seen of a session that came from another by a move. -/
def sight (s t : Session) (answer : MoveAnswer) : Sight where
  answer := answer
  events := t.events.drop s.events.length
  state := t.form.state
  values := t.form.resolved
  fieldStates := t.form.fieldStates

/-- Move after move, and what is seen of each. -/
def playAll (app : Application) : List Move → Session → Session × List Sight
  | [], s => (s, [])
  | move :: moves, s =>
    let (t, answer) := s.play app move
    let (u, sights) := playAll app moves t
    (u, s.sight t answer :: sights)

/-- The moves of which all commands are ordinary ones. -/
def Move.Ordinary (mounts parses : Bool) : Move → Prop
  | .command c => Session.Ordinary mounts parses c
  | .submit | .begin | .pause _ => True

namespace Comparison.Twins

variable {c : Comparison} {opened : Nat} {s t s' t' : Session}

theorem play (twins : c.Twins opened s t) {move : Move} (ordinary : move.Ordinary c.mounts c.parses) :
    Paired (c.Twins opened) (s.play c.app move) (t.play c.other move) := by
  cases move with
  | command command => exact (twins.perform ordinary).map MoveAnswer.answered
  | submit =>
    obtain ⟨same, opened⟩ := twins.openSubmission
    unfold Session.play
    dsimp only
    rw [same]
    exact (opened.join _).map MoveAnswer.submitted
  | begin =>
    obtain ⟨-, opened⟩ := twins.openSubmission
    exact .intro { opened with } _
  | pause span => exact .intro (twins.pause span) _

theorem sight (before : c.Twins opened s t) (after : c.Twins opened s' t') (answer : MoveAnswer) :
    t.sight t' answer = s.sight s' answer := by
  obtain ⟨news, first, second⟩ := before.events
  obtain ⟨news', first', second'⟩ := after.events
  obtain ⟨_, _, looks⟩ := after.looks
  have events : t'.events.drop t.events.length = s'.events.drop s.events.length := by
    rw [first, second, first', second', List.length_append, List.length_append, List.drop_length_add_append,
      List.drop_length_add_append]
  unfold Session.sight
  rw [events, looks.twin.state, looks.twin.resolved, looks.twin.fieldStates]

/-- Whatever is done with two forms that look the same, they show the same. -/
theorem playAll {moves : List Move} (ordinary : ∀ move ∈ moves, move.Ordinary c.mounts c.parses)
    (twins : c.Twins opened s t) :
    Paired (c.Twins opened) (s.playAll c.app moves) (t.playAll c.other moves) := by
  induction moves generalizing s t with
  | nil => exact .intro twins _
  | cons move moves ih =>
    obtain ⟨first, rest⟩ := List.forall_mem_cons.mp ordinary
    have played := twins.play first
    have others := ih rest played.fst
    have seen := twins.sight played.fst (s.play c.app move).2
    unfold Session.playAll
    dsimp only
    rw [played.snd, seen]
    exact others.map (s.sight (s.play c.app move).1 (s.play c.app move).2 :: ·)

end Comparison.Twins

end Session

end FormEngine
