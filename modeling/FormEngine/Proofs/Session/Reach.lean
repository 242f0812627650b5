import FormEngine.Proofs.Session.Law
import FormEngine.Proofs.Session.Tasks

/-!
What a session can lead to. The application issues commands and opens submissions and pauses at any
moment, and at any moment the first job has its turn or time moves on; the loops that run a session
choose among these orders. A passage is an accord that tasks keep to as well, a course such a law.
-/

namespace FormEngine

namespace Session

/-- What may come of a session, with allowed commands, in any order of steps. -/
inductive Leads (app : Application) (allowed : FormCommand → Prop) (s : Session) : Session → Prop
  | refl : Leads app allowed s s
  | command {t : Session} (c : FormCommand) :
      Leads app allowed s t → allowed c → Leads app allowed s (t.perform app c).1
  | submission {t : Session} (submissions : List Nat) :
      Leads app allowed s t → Leads app allowed s { t.openSubmission.2 with submissions }
  | pause {t : Session} (span : Span) :
      Leads app allowed s t → Leads app allowed s { t with agenda := (t.agenda.openPause span).2 }
  | work {t : Session} {job : Job} {ready : List Job} :
      Leads app allowed s t → t.agenda.ready = job :: ready →
      Leads app allowed s ({ t with agenda.ready := ready }.work app (notify app) job)
  | elapse {t : Session} {agenda : Agenda} :
      Leads app allowed s t → t.agenda.toNextTimer? = some agenda →
      Leads app allowed s { t with agenda }

/-- A form that has just been made for a schema that parses, linked to a fresh store. -/
def Begins (app : Application) (s : Session) : Prop :=
  ∃ source parsed given snapshot state reactions,
    ParsedSchema.parse app.environment source = .ok parsed ∧
    Form.initialValues given = .ok snapshot ∧
    s = start app parsed snapshot (.starting state) reactions

/-- The sessions that a form can come to, whatever is asked of it in whatever order. -/
def Reachable (app : Application) (s : Session) : Prop :=
  ∃ begun, Begins app begun ∧ Leads app (fun _ => True) begun s

namespace Leads

variable {app : Application} {allowed : FormCommand → Prop} {s t : Session}

theorem trans {u : Session} (h : Leads app allowed s t) (h' : Leads app allowed t u) :
    Leads app allowed s u := by
  induction h' with
  | refl => exact h
  | command c _ hc ih => exact ih.command c hc
  | submission submissions _ ih => exact ih.submission submissions
  | pause span _ ih => exact ih.pause span
  | work _ hr ih => exact ih.work hr
  | elapse _ ha ih => exact ih.elapse ha

/-- What few commands lead to, more do. -/
theorem mono {more : FormCommand → Prop} (h : Leads app allowed s t) (sub : ∀ c, allowed c → more c) :
    Leads app more s t := by
  induction h with
  | refl => exact .refl
  | command c _ hc ih => exact ih.command c (sub c hc)
  | submission submissions _ ih => exact ih.submission submissions
  | pause span _ ih => exact ih.pause span
  | work _ hr ih => exact ih.work hr
  | elapse _ ha ih => exact ih.elapse ha

theorem turn {u : Session} {goal : Session → Bool} (h : Leads app allowed s t)
    (ht : t.turn? app (notify app) goal = some u) : Leads app allowed s u := by
  unfold turn? at ht
  split at ht
  · next job ready hr =>
    rw [← Option.some.inj ht]
    exact h.work hr
  · split at ht
    · cases ht
    · obtain ⟨agenda, ha, rfl⟩ := Option.map_eq_some_iff.mp ht
      exact h.elapse ha

theorem runFor {goal : Session → Bool} (fuel : Nat) (h : Leads app allowed s t) :
    Leads app allowed s (t.runFor app goal fuel) := by
  induction fuel generalizing t with
  | zero => exact h
  | succ fuel ih =>
      unfold Session.runFor
      split
      · exact h
      · next u hu => exact ih (h.turn hu)

theorem runRounds {goal : Session → Bool} (rounds : Nat) (h : Leads app allowed s t) :
    Leads app allowed s (t.runRounds app goal rounds) := by
  induction rounds generalizing t with
  | zero => exact h
  | succ rounds ih => exact ih (h.runFor _)

theorem runUntil {goal : Session → Bool} (h : Leads app allowed s t) :
    Leads app allowed s (t.runUntil app goal) :=
  h.runRounds _

theorem settle (h : Leads app allowed s t) : Leads app allowed s (t.settle app) := h.runUntil

/-- Letting time pass is among the orders of steps, and so is waiting for what is under way. -/
theorem waited (h : Leads app allowed s t) (span : Span) :
    Leads app allowed s (t.pause app span) :=
  (h.settle.pause span).runUntil

theorem drain (h : Leads app allowed s t) : Leads app allowed s (t.drain app) :=
  h.settle.runUntil

theorem join (h : Leads app allowed s t) (id : Nat) : Leads app allowed s (t.join app id).1 :=
  h.settle.runUntil

end Leads

theorem Reachable.leads {app : Application} {s t : Session} (h : Reachable app s)
    (h' : Leads app (fun _ => True) s t) : Reachable app t := by
  obtain ⟨begun, hb, h⟩ := h
  exact ⟨begun, hb, h.trans h'⟩

end Session

/-- The inquiry of a task, if it is one. -/
def Task.inquiry? : Task → Option (Nat × Inquiry × InquiryStage)
  | .inquiry id q stage => some (id, q, stage)
  | _ => none

/-- The rules that an inquiry has still to ask when it goes on. -/
def InquiryStage.rules (q : Inquiry) : InquiryStage → List AsyncRule
  | .begun | .rested => q.rules
  | .asking rule later .. => rule :: later

/-- What an inquiry complains of so far. -/
def InquiryStage.messages : InquiryStage → List String
  | .begun | .rested => []
  | .asking _ _ _ messages => messages

/-- The inquiries that are under way. -/
def Agenda.inquiries (a : Agenda) : List (Nat × Inquiry × InquiryStage) :=
  a.tasks.filterMap Task.inquiry?

namespace Session

/-- An accord that the steps of submissions keep to, a check of the validity that waited, and every
change of the agenda that keeps the inquiries and the checks that wait. -/
structure Passage (app : Application) (allowed : FormCommand → Prop)
    (R : Session → Session → Prop) : Prop extends Accord app allowed R where
  arranged (s agenda) : agenda.inquiries.Perm s.agenda.inquiries →
    agenda.checks = s.agenda.checks → R s { s with agenda }
  reviewed (s ready) : s.agenda.ready = .checkValidity :: ready →
    R s { s with agenda.ready := ready, form := s.form.checkValidity }
  accepted (s id) : s.form.state.isSubmitting = false →
    R s { s with form := s.form.beginSubmission id }
  handed (s id values) : R s { s with form := s.form.mark (.handed id values) }
  ended (s id epoch fault) :
    R s { s with form := { s.form with submitFault := fault }.endSubmission id epoch }

/-- A law that the steps of submissions keep to, and every change of the agenda that keeps the
inquiries. -/
structure Course (app : Application) (allowed : FormCommand → Prop)
    (R : Session → Session → Prop) : Prop extends Law app allowed R where
  arranged (s agenda) : agenda.inquiries.Perm s.agenda.inquiries → R s { s with agenda }
  accepted (s id) : s.form.state.isSubmitting = false →
    R s { s with form := s.form.beginSubmission id }
  handed (s id values) : R s { s with form := s.form.mark (.handed id values) }
  ended (s id epoch fault) :
    R s { s with form := { s.form with submitFault := fault }.endSubmission id epoch }

namespace Course

/-- Two relations that sessions keep to are kept to together. -/
theorem and {app : Application} {allowed : FormCommand → Prop} {R S : Session → Session → Prop}
    (h : Course app allowed R) (h' : Course app allowed S) :
    Course app allowed fun s t => R s t ∧ S s t where
  refl s := ⟨h.refl s, h'.refl s⟩
  trans r r' := ⟨h.trans r.1 r'.1, h'.trans r.2 r'.2⟩
  remembered s nodes reactions submissions sub :=
    ⟨h.remembered s nodes reactions submissions sub, h'.remembered s nodes reactions submissions sub⟩
  noted s events silent := ⟨h.noted s events silent, h'.noted s events silent⟩
  calledBack s e o ho hears arises :=
    ⟨h.calledBack s e o ho hears arises, h'.calledBack s e o ho hears arises⟩
  committed s t changes r := ⟨h.committed s t changes r.1, h'.committed s t changes r.2⟩
  weighed s := ⟨h.weighed s, h'.weighed s⟩
  deferred s := ⟨h.deferred s, h'.deferred s⟩
  tookOver s t o r := ⟨h.tookOver s t o r.1, h'.tookOver s t o r.2⟩
  altered s link hl := ⟨h.altered s link hl, h'.altered s link hl⟩
  shared s link state values v hl hv :=
    ⟨h.shared s link state values v hl hv, h'.shared s link state values v hl hv⟩
  touched s id := ⟨h.touched s id, h'.touched s id⟩
  rechecked s id := ⟨h.rechecked s id, h'.rechecked s id⟩
  probed s id := ⟨h.probed s id, h'.probed s id⟩
  checked s := ⟨h.checked s, h'.checked s⟩
  settled s errors found := ⟨h.settled s errors found, h'.settled s errors found⟩
  reported s := ⟨h.reported s, h'.reported s⟩
  seeded s := ⟨h.seeded s, h'.seeded s⟩
  stored s v a := ⟨h.stored s v a, h'.stored s v a⟩
  broke s operations a := ⟨h.broke s operations a, h'.broke s operations a⟩
  mounted s a := ⟨h.mounted s a, h'.mounted s a⟩
  listened s a := ⟨h.listened s a, h'.listened s a⟩
  unmounted s a m := ⟨h.unmounted s a m, h'.unmounted s a m⟩
  schemaSet s v parsed a hp := ⟨h.schemaSet s v parsed a hp, h'.schemaSet s v parsed a hp⟩
  snapshotSet s v values a hv := ⟨h.snapshotSet s v values a hv, h'.snapshotSet s v values a hv⟩
  arranged s agenda hp := ⟨h.arranged s agenda hp, h'.arranged s agenda hp⟩
  accepted s id idle := ⟨h.accepted s id idle, h'.accepted s id idle⟩
  handed s id values := ⟨h.handed s id values, h'.handed s id values⟩
  ended s id epoch fault := ⟨h.ended s id epoch fault, h'.ended s id epoch fault⟩

/-- Taking the first job off takes nothing off the inquiries, unless it resumes one. -/
theorem inquiries_popped {s : Session} {job : Job} {ready : List Job}
    (hr : s.agenda.ready = job :: ready) (h : job.task?.bind Task.inquiry? = none) :
    Agenda.inquiries { s.agenda with ready } = s.agenda.inquiries := by
  unfold Agenda.inquiries
  rw [Agenda.tasks_ready hr, List.filterMap_append]
  cases ht : job.task? with
  | none => rfl
  | some task =>
      rw [ht] at h
      simp [show task.inquiry? = none from h]

/-- A course lets the checks that wait come and go. -/
theorem passage {app : Application} {allowed : FormCommand → Prop} {R : Session → Session → Prop}
    (course : Course app allowed R) : Passage app allowed R where
  toAccord := course.toAccord
  arranged s agenda h _ := course.arranged s agenda h
  reviewed s _ h :=
    course.trans (course.arranged s _ (.of_eq (inquiries_popped h rfl))) (course.weighed _)
  accepted := course.accepted
  handed := course.handed
  ended := course.ended

end Course

namespace Passage

variable {app : Application} {allowed : FormCommand → Prop} {R : Session → Session → Prop}
  (passage : Passage app allowed R)
include passage

theorem follows_arranged (s : Session) (agenda : Agenda)
    (h : agenda.inquiries.Perm s.agenda.inquiries) (checks : agenda.checks = s.agenda.checks) :
    Follows allowed R s { s with agenda } :=
  Accord.follows_of (passage.arranged s agenda h checks) rfl

theorem follows_conclude (s : Session) (id : Nat) (outcome : Bool) :
    Follows allowed R s (s.conclude id outcome) :=
  passage.follows_arranged s _ (.refl _) rfl

section Submitting

variable {notify : Notifier} (hn : Obeys allowed R notify)
include hn

omit hn in
theorem follows_abandon (s : Session) (id epoch : Nat) (cause : Option Fault) :
    Follows allowed R s (s.abandon id epoch cause) :=
  passage.follows_trans (Accord.follows_of (passage.ended s id epoch _) rfl)
    (passage.follows_conclude _ id false)

theorem follows_complete (s : Session) (id epoch : Nat) :
    Follows allowed R s (s.complete app notify id epoch) := by
  have ended : Follows allowed R s { s with form := s.form.endSubmission id epoch } :=
    Accord.follows_of (passage.ended s id epoch s.form.submitFault) rfl
  unfold complete
  dsimp only
  split
  · exact passage.follows_trans ended
      (passage.follows_trans (passage.follows_reset hn _) (passage.follows_conclude _ id true))
  · exact passage.follows_trans ended (passage.follows_conclude _ id true)

theorem follows_handIn (s : Session) (id epoch : Nat) (handler : Callable) (values : Table Value) :
    Follows allowed R s (s.handIn app notify id epoch handler values) := by
  have noted := passage.follows_noted s fun discreet => discreet.host handler [.record values]
  unfold handIn
  dsimp only
  split
  · exact passage.follows_trans noted (passage.follows_complete hn _ id epoch)
  · exact passage.follows_trans noted (passage.follows_abandon _ id epoch _)

theorem follows_handOver (s : Session) (id epoch : Nat) (values : Table Value) :
    Follows allowed R s (s.handOver app notify id epoch values) := by
  have told : Follows allowed R s
      (notify { s with form := s.form.mark (.handed id values) } (.submitted values)).1 :=
    passage.follows_trans (Accord.follows_of (passage.handed s id values) rfl)
      (hn _ (.submitted values) trivial)
  unfold handOver
  dsimp only
  split
  · exact passage.follows_trans told (passage.follows_abandon _ id epoch _)
  · exact passage.follows_trans told (passage.follows_complete hn _ id epoch)
  · next handler _ _ =>
    split
    · exact passage.follows_trans told (passage.follows_handIn hn _ id epoch handler values)
    · refine passage.follows_trans told (passage.follows_arranged _ _ ?_ (Agenda.checks_sleep _ _ _))
      exact (Agenda.tasks_sleep _ _ _).filterMap Task.inquiry?

theorem follows_submit (s : Session) (id : Nat) :
    Follows allowed R s (s.submit app notify id) := by
  unfold submit
  split
  · exact passage.follows_conclude s id false
  · next h =>
    have accepted : Follows allowed R s { s with form := s.form.beginSubmission id } :=
      Accord.follows_of (passage.accepted s id (Bool.eq_false_iff.mpr h)) rfl
    have checked : Follows allowed R s
        (if (s.form.beginSubmission id).validatesOnSubmit then
          { s with form := s.form.beginSubmission id }.validate app notify
        else ({ s with form := s.form.beginSubmission id }, .ok [])).1 := by
      split
      · exact passage.follows_trans accepted (passage.follows_validate hn _)
      · exact accepted
    dsimp only
    split
    · exact passage.follows_trans checked (passage.follows_abandon _ id _ _)
    · split
      · exact passage.follows_trans checked (passage.follows_abandon _ id _ _)
      · split
        · exact passage.follows_trans checked (passage.follows_handOver hn _ id _ _)
        · exact passage.follows_trans checked (passage.follows_complete hn _ id _)

/-- Whatever a submission does in its turn keeps to the passage. -/
theorem follows_resume (s : Session) (id : Nat) (stage : SubmissionStage) :
    Follows allowed R s (s.resume app notify (.submission id stage)) := by
  cases stage with
  | begun => exact passage.follows_submit hn s id
  | handing epoch handler values => exact passage.follows_handIn hn s id epoch handler values

end Submitting

/-- A job that does not resume an inquiry keeps to the passage, its leaving the agenda included. -/
theorem follows_work {s : Session} {job : Job} {ready : List Job}
    (hr : s.agenda.ready = job :: ready)
    (hj : ∀ id q stage, job ≠ .resume (.inquiry id q stage)) :
    Follows allowed R s ({ s with agenda.ready := ready }.work app (Session.notify app) job) := by
  have popped (h : job.task?.bind Task.inquiry? = none) (waits : job.isCheck = false) :
      Follows allowed R s { s with agenda.ready := ready } := by
    refine passage.follows_arranged s _ (.of_eq (Course.inquiries_popped hr h)) ?_
    rw [Agenda.checks_ready hr, waits]
    rfl
  cases job with
  | checkValidity => exact Accord.follows_of (passage.reviewed s ready hr) rfl
  | resume task =>
      cases task with
      | inquiry id q stage => exact absurd rfl (hj id q stage)
      | submission id stage =>
          exact passage.follows_trans (popped rfl rfl)
            (passage.follows_resume passage.obeys _ id stage)
      | pause id =>
          exact passage.follows_trans (popped rfl rfl) (passage.follows_conclude _ id true)
  | wake task =>
      refine passage.follows_arranged s _ ?_ ?_
      · refine .filterMap Task.inquiry? ((Agenda.tasks_add _ _).trans (.of_eq ?_))
        rw [Agenda.tasks_ready hr]
        rfl
      · exact (Agenda.checks_add _ _).trans (Agenda.checks_ready hr).symm
  | forget id =>
      exact passage.follows_trans (popped rfl rfl) (passage.follows_arranged _ _ (.refl _) rfl)

end Passage

/-- A relation that the single changes of an inquiry keep to, where the agenda takes on nothing but
inquiries and jobs without a task. Only some rules are asked, and only some messages are collected. -/
structure Inquiring (app : Application) (q : Inquiry) (asks : AsyncRule → Prop)
    (tells : List String → Prop) (R : Session → Session → Prop) : Prop where
  silent : tells []
  told {messages} (message) : tells messages → tells (addDistinct messages message)
  trans {s t u} : R s t → R t u → R s u
  noted (s : Session) (events) : (app.Discreet → Silent events) →
    R s { s with events := s.events ++ events }
  asked (s : Session) (id field value) :
    R s { s with form := s.form.mark (.asked id field value (s.form.value field)) }
  amended (s : Session) (rule arguments v) : asks rule → q.isCurrent s.form = true →
    (app.host.awaited rule.validator arguments).altered = some v →
      R s { s with form := s.form.amend q.field.id v }
  complained (s : Session) (id v messages) : { q with value := v }.isStale s.form = false →
    messages ≠ [] → tells messages →
      R s { s with form := s.form.complain id { q with value := v } messages }
  slept (s : Session) (span id v stage) : tells stage.messages →
    R s { s with agenda := s.agenda.sleep span (.inquiry id { q with value := v } stage) }
  forgot (s : Session) (id) : R s { s with agenda := s.agenda.add (.forget id) }

namespace Inquiring

variable {app : Application} {q : Inquiry} {asks : AsyncRule → Prop} {tells : List String → Prop}
  {R : Session → Session → Prop} (inquiring : Inquiring app q asks tells R)
include inquiring

/-- Asking a rule keeps to the relation; what changes about the inquiry is its value. -/
theorem follows_ask (v : Value) {rule : AsyncRule} (hr : asks rule) (values : Table Value)
    (messages : List String) (hm : tells messages) (s : Session) :
    R s (s.ask app { q with value := v } rule values messages).1 ∧
      (∃ w, (s.ask app { q with value := v } rule values messages).2.1 = { q with value := w }) ∧
      tells (s.ask app { q with value := v } rule values messages).2.2 := by
  let reply := app.host.awaited rule.validator [v, .record values]
  have noted := inquiring.noted s reply.events fun discreet => discreet.host.awaited _ _
  have told : tells ((complaint? reply.outcome rule.message).elim messages
      (addDistinct messages)) := by
    cases complaint? reply.outcome rule.message with
    | none => exact hm
    | some message => exact inquiring.told message hm
  unfold ask
  dsimp only
  split
  · exact ⟨noted, ⟨v, rfl⟩, told⟩
  · next w hw =>
    refine ⟨?_, ⟨w, rfl⟩, told⟩
    dsimp only
    split
    · next current =>
      exact inquiring.trans noted (inquiring.amended _ rule _ w hr current hw)
    · exact noted

theorem follows_askAll (id : Nat) (values : Table Value) (v : Value) {messages : List String}
    (hm : tells messages) {rules : List AsyncRule} (hr : ∀ rule ∈ rules, asks rule) (s : Session) :
    R s (s.askAll app id values { q with value := v } messages rules) := by
  induction rules generalizing v messages s with
  | nil =>
      unfold askAll settleInquiry
      dsimp only
      split
      · exact inquiring.forgot s id
      · next complains =>
        rw [Bool.or_eq_true, not_or, Bool.not_eq_true, List.isEmpty_iff] at complains
        exact inquiring.trans (inquiring.complained s id v messages complains.1 complains.2 hm)
          (inquiring.forgot _ id)
  | cons rule later ih =>
      unfold askAll
      dsimp only
      split
      · obtain ⟨asked, ⟨w, hw⟩, told⟩ :=
          inquiring.follows_ask v (hr rule List.mem_cons_self) values messages hm s
        rw [hw]
        exact inquiring.trans asked (ih w told (fun r h => hr r (List.mem_cons_of_mem _ h)) _)
      · exact inquiring.slept s _ id v _ hm

theorem follows_openQuestions (id : Nat) (v : Value) (hr : ∀ rule ∈ q.rules, asks rule)
    (s : Session) : R s (s.openQuestions app id { q with value := v }) := by
  unfold openQuestions
  split
  · exact inquiring.forgot s id
  · exact inquiring.trans (inquiring.asked s id q.field.id v)
      (inquiring.follows_askAll id _ v inquiring.silent hr _)

theorem follows_inquireOn (id : Nat) {stage : InquiryStage} (hm : tells stage.messages)
    (hr : ∀ rule ∈ stage.rules q, asks rule) (s : Session) :
    R s (s.inquireOn app id q stage) := by
  obtain ⟨v, hv⟩ : ∃ v, q.refreshed s.form = { q with value := v } := by
    unfold Inquiry.refreshed
    split
    · exact ⟨_, rfl⟩
    · exact ⟨q.value, rfl⟩
  unfold inquireOn
  rw [hv]
  dsimp only
  cases stage with
  | begun =>
      dsimp only
      split
      · exact inquiring.forgot s id
      · split
        · exact inquiring.slept s _ id v .rested hm
        · exact inquiring.follows_openQuestions id v hr s
  | rested => exact inquiring.follows_openQuestions id v hr s
  | asking rule later values messages =>
      obtain ⟨asked, ⟨w, hw⟩, told⟩ :=
        inquiring.follows_ask v (hr rule List.mem_cons_self) values messages hm s
      dsimp only
      rw [hw]
      exact inquiring.trans asked
        (inquiring.follows_askAll id values w told (fun r h => hr r (List.mem_cons_of_mem _ h)) _)

end Inquiring

theorem reactions_inquireOn (app : Application) (id : Nat) (q : Inquiry) (stage : InquiryStage)
    (s : Session) : (s.inquireOn app id q stage).reactions = s.reactions := by
  have inquiring : Inquiring app q (fun _ => True) (fun _ => True)
      fun s t => t.reactions = s.reactions := {
    silent := trivial
    told := fun _ _ => trivial
    trans := fun h h' => h'.trans h
    noted := fun _ _ _ => rfl
    asked := fun _ _ _ _ => rfl
    amended := fun _ _ _ _ _ _ _ => rfl
    complained := fun _ _ _ _ _ _ _ => rfl
    slept := fun _ _ _ _ _ _ => rfl
    forgot := fun _ _ => rfl }
  exact inquiring.follows_inquireOn id trivial (fun _ _ => trivial) s

/-- An invariant that a passage keeps, and inquiries too, holds of all that a session leads to. -/
theorem Leads.keepsAlong {app : Application} {allowed : FormCommand → Prop}
    {R : Session → Session → Prop} {I : Session → Prop} {s t : Session}
    (passage : Passage app allowed R) (kept : ∀ {s t}, R s t → I s → I t)
    (inquiry : ∀ {u ready} id q stage, Leads app allowed s u → I u →
      u.agenda.ready = .resume (.inquiry id q stage) :: ready →
      I ({ u with agenda.ready := ready }.inquireOn app id q stage))
    (h : Leads app allowed s t) (tame : s.Tame allowed) (hs : I s) :
    I t ∧ t.Tame allowed := by
  have follows {t u : Session} (ht : I t ∧ t.Tame allowed) (h : Follows allowed R t u) :
      I u ∧ u.Tame allowed :=
    ⟨kept (h ht.2).1 ht.1, (h ht.2).2⟩
  induction h with
  | refl => exact ⟨hs, tame⟩
  | @command t c _ hc ih => exact follows ih (passage.performs t c hc)
  | @submission t submissions _ ih =>
      have arranged := passage.follows_arranged t t.agenda.openSubmission.2
        (t.agenda.tasks_openSubmission.filterMap Task.inquiry?) (Agenda.checks_add _ _)
      exact follows (follows ih arranged)
        (Accord.follows_of (passage.remembered _ t.nodes t.reactions submissions (.refl _)) rfl)
  | @pause t span _ ih =>
      exact follows ih (passage.follows_arranged t _
        ((t.agenda.tasks_openPause span).filterMap Task.inquiry?) (Agenda.checks_sleep _ _ _))
  | @work t job ready led hr ih =>
      by_cases hj : ∃ id q stage, job = .resume (.inquiry id q stage)
      · obtain ⟨id, q, stage, rfl⟩ := hj
        refine ⟨inquiry id q stage led ih.1 hr, ?_⟩
        have same : ({ t with agenda.ready := ready }.inquireOn app id q stage).reactions =
            t.reactions := reactions_inquireOn app id q stage _
        intro r hr
        exact ih.2 r (same ▸ hr)
      · refine follows ih (passage.follows_work hr ?_)
        intro id q stage h
        exact hj ⟨id, q, stage, h⟩
  | @elapse t agenda _ ha ih =>
      exact follows ih (passage.follows_arranged t agenda
        ((Agenda.tasks_toNextTimer ha).filterMap Task.inquiry?) (Agenda.checks_toNextTimer ha))

/-- An invariant that a course keeps, and inquiries too, holds of all that a session leads to. -/
theorem Leads.keeps {app : Application} {allowed : FormCommand → Prop}
    {R : Session → Session → Prop} {I : Session → Prop} {s t : Session}
    (course : Course app allowed R) (kept : ∀ {s t}, R s t → I s → I t)
    (inquiry : ∀ {u ready} id q stage, Leads app allowed s u → I u →
      u.agenda.ready = .resume (.inquiry id q stage) :: ready →
      I ({ u with agenda.ready := ready }.inquireOn app id q stage))
    (h : Leads app allowed s t) (tame : s.Tame allowed) (hs : I s) :
    I t ∧ t.Tame allowed :=
  h.keepsAlong course.passage kept inquiry tame hs

end Session

end FormEngine
