import FormEngine.Proofs.Form.History
import FormEngine.Proofs.Session.Specimen
import FormEngine.Proofs.Session.Upkeep

/-!
Submissions exclude one another. A submission is in flight from when it is accepted until it ends,
among those accepted since the state was last made anew. That there is one is just what the flag of the
present state says; a submission accepted by an earlier state still ends, and the flag stays as it is.
-/

namespace FormEngine

namespace Milestone

/-- The submissions accepted since the state was last made anew that have not ended. -/
def inFlight : List Milestone → List (Nat × Nat)
  | [] => []
  | .reseeded :: _ => []
  | .accepted id epoch :: earlier => (id, epoch) :: inFlight earlier
  | .ended id epoch :: earlier => (inFlight earlier).erase (id, epoch)
  | _ :: earlier => inFlight earlier

/-- A milestone that neither begins nor ends a submission, nor tells of one. -/
def IsQuiet : Milestone → Prop
  | .reseeded | .accepted .. | .ended .. | .calledBack _ => False
  | _ => True

/-- A submission is accepted only while none is in flight. One ends that was accepted before; it alone
was in flight, unless the state was made anew since, and then what is in flight stays so. A callback
finds the flag raised just while a submission is in flight. -/
def Exclusive (earlier : List Milestone) : Milestone → Prop
  | .accepted _ _ => inFlight earlier = []
  | .ended id epoch => ∃ since before, earlier = since ++ .accepted id epoch :: before ∧
      (.reseeded ∈ since ∧ inFlight (.ended id epoch :: earlier) = inFlight earlier ∨
        .reseeded ∉ since ∧ inFlight earlier = [(id, epoch)])
  | .calledBack submitting => submitting = !(inFlight earlier).isEmpty
  | _ => True

theorem inFlight_quiet {m : Milestone} (hm : m.IsQuiet) (earlier : List Milestone) :
    inFlight (m :: earlier) = inFlight earlier := by
  cases m <;> first | rfl | exact hm.elim

theorem exclusive_quiet {m : Milestone} (hm : m.IsQuiet) (earlier : List Milestone) :
    m.Exclusive earlier := by
  cases m <;> trivial

/-- At most one submission is in flight at any moment. -/
theorem length_inFlight_le {journal : List Milestone} (h : History (fun e m => m.Exclusive e) journal) :
    (inFlight journal).length ≤ 1 := by
  induction journal with
  | nil => exact Nat.zero_le _
  | cons m earlier ih =>
      have before := ih h.2
      cases m with
      | reseeded => exact Nat.zero_le _
      | accepted id epoch =>
          have none : inFlight earlier = [] := h.1
          simp [inFlight, none]
      | ended id epoch => exact Nat.le_trans List.length_erase_le before
      | _ => exact before

end Milestone

open Milestone

/-- The submission of a task whose values were handed over, with the epoch in which it began. -/
def Task.flight? : Task → Option (Nat × Nat)
  | .submission id (.handing epoch ..) => some (id, epoch)
  | _ => none

/-- Submissions that go on, as the form tells of them. -/
structure Exclusion (flights : List (Nat × Nat)) (f : Form) : Prop where
  /-- each was accepted, by the present state if it is of the present epoch -/
  accepted : ∀ p ∈ flights, p.2 ≤ f.epoch ∧ ∃ since before,
    f.journal = since ++ .accepted p.1 p.2 :: before ∧ (p.2 = f.epoch ↔ .reseeded ∉ since)
  current : (flights.filter fun p => p.2 = f.epoch).Perm (inFlight f.journal)
  history : History (fun e m => m.Exclusive e) f.journal
  flag : f.state.isSubmitting = !(inFlight f.journal).isEmpty

namespace Exclusion

variable {flights : List (Nat × Nat)} {f g : Form}

theorem perm {others : List (Nat × Nat)} (hp : flights.Perm others) (h : Exclusion flights f) :
    Exclusion others f where
  accepted p hm := h.accepted p (hp.mem_iff.mpr hm)
  current := (hp.symm.filter _).trans h.current
  history := h.history
  flag := h.flag

theorem congr (h : Exclusion flights f) (epoch : g.epoch = f.epoch)
    (journal : g.journal = f.journal)
    (submitting : g.state.isSubmitting = f.state.isSubmitting) : Exclusion flights g where
  accepted := by
    rw [epoch, journal]
    exact h.accepted
  current := by
    rw [epoch, journal]
    exact h.current
  history := by
    rw [journal]
    exact h.history
  flag := by
    rw [journal, submitting]
    exact h.flag

/-- A milestone that is no new beginning leaves it open which state accepted a submission. -/
theorem accepted_mark {m : Milestone} (hm : m ≠ .reseeded) (h : Exclusion flights f) :
    ∀ p ∈ flights, p.2 ≤ f.epoch ∧ ∃ since before,
      m :: f.journal = since ++ .accepted p.1 p.2 :: before ∧
        (p.2 = f.epoch ↔ .reseeded ∉ since) := by
  intro p hp
  obtain ⟨past, since, before, hj, hs⟩ := h.accepted p hp
  refine ⟨past, m :: since, before, by rw [hj]; rfl, ?_⟩
  rw [hs, List.mem_cons, not_or]
  exact ⟨fun h => ⟨hm.symm, h⟩, And.right⟩

theorem quiet {m : Milestone} (hm : m.IsQuiet) (h : Exclusion flights f) :
    Exclusion flights (f.mark m) where
  accepted := h.accepted_mark (by rintro rfl; exact hm)
  current := by
    rw [show (f.mark m).journal = m :: f.journal from rfl, inFlight_quiet hm]
    exact h.current
  history := ⟨exclusive_quiet hm f.journal, h.history⟩
  flag := by
    rw [show (f.mark m).journal = m :: f.journal from rfl, inFlight_quiet hm]
    exact h.flag

theorem calledBack (h : Exclusion flights f) :
    Exclusion flights (f.mark (.calledBack f.state.isSubmitting)) where
  accepted := h.accepted_mark (by simp)
  current := h.current
  history := ⟨h.flag, h.history⟩
  flag := h.flag

/-- With a new beginning, nothing that goes on is in flight any more. -/
theorem reseeded (h : Exclusion flights f) (epoch : g.epoch = f.epoch + 1)
    (journal : g.journal = .reseeded :: f.journal) (submitting : g.state.isSubmitting = false) :
    Exclusion flights g where
  accepted p hp := by
    obtain ⟨past, since, before, hj, -⟩ := h.accepted p hp
    refine ⟨by omega, .reseeded :: since, before, by rw [journal, hj]; rfl, ?_⟩
    simp
    omega
  current := by
    rw [journal, epoch]
    refine .of_eq (List.filter_eq_nil_iff.mpr ?_)
    intro p hp
    have past := (h.accepted p hp).1
    simp
    omega
  history := by
    rw [journal]
    exact ⟨trivial, h.history⟩
  flag := by
    rw [journal, submitting]
    rfl

theorem accept (id : Nat) (idle : f.state.isSubmitting = false) (h : Exclusion flights f) :
    Exclusion ((id, f.epoch) :: flights) (f.beginSubmission id) := by
  have none : inFlight f.journal = [] := by
    have flag := h.flag
    rw [idle] at flag
    simpa using flag.symm
  constructor
  · intro p hp
    rcases List.mem_cons.mp hp with rfl | hp
    · exact ⟨Nat.le_refl _, [], f.journal, rfl, by simp [Form.beginSubmission, Form.mark]⟩
    · exact h.accepted_mark (m := .accepted id f.epoch) (by simp) p hp
  · have current := h.current
    refine .trans (.of_eq ?_) (current.cons (id, f.epoch))
    exact List.filter_cons_of_pos (by simp [Form.beginSubmission, Form.mark])
  · exact ⟨none, h.history⟩
  · rfl

/-- A submission of the present epoch is the only one in flight. -/
theorem inFlight_eq {id : Nat} (h : Exclusion ((id, f.epoch) :: flights) f) :
    inFlight f.journal = [(id, f.epoch)] ∧ (flights.filter fun p => p.2 = f.epoch) = [] := by
  have current := h.current
  rw [List.filter_cons_of_pos (by simp)] at current
  have none : (flights.filter fun p => p.2 = f.epoch) = [] := by
    have length := current.length_eq
    have single := length_inFlight_le h.history
    rw [List.length_cons] at length
    exact List.length_eq_zero_iff.mp (by omega)
  rw [none] at current
  exact ⟨List.perm_singleton.mp current.symm, none⟩

/-- One of an earlier epoch is not in flight. -/
theorem not_mem_inFlight {p : Nat × Nat} (h : Exclusion flights f) (hp : p.2 ≠ f.epoch) :
    p ∉ inFlight f.journal := by
  intro hm
  have mem := h.current.mem_iff.mpr hm
  simp [hp] at mem

/-- A submission ends; the flag is taken down only by one of the present epoch. -/
theorem finish (id epoch : Nat) (fault : Option Fault)
    (h : Exclusion ((id, epoch) :: flights) f) :
    Exclusion flights ({ f with submitFault := fault }.endSubmission id epoch) := by
  obtain ⟨-, since, before, hj, hs⟩ := h.accepted (id, epoch) List.mem_cons_self
  have accepted := h.accepted_mark (m := .ended id epoch) (by simp)
  have others : ∀ p ∈ flights, p ∈ (id, epoch) :: flights := fun p => List.mem_cons_of_mem _
  by_cases he : f.epoch = epoch
  · subst he
    obtain ⟨alone, rest⟩ := h.inFlight_eq
    have finished : inFlight (.ended id f.epoch :: f.journal) = [] := by simp [inFlight, alone]
    have ended : { f with submitFault := fault }.endSubmission id f.epoch =
        { f with submitFault := fault, journal := .ended id f.epoch :: f.journal,
                 state.isSubmitting := false } := if_pos rfl
    rw [ended]
    refine ⟨fun p hp => accepted p (others p hp), ?_, ?_, ?_⟩
    · exact .of_eq (rest.trans finished.symm)
    · exact ⟨⟨since, before, hj, .inr ⟨hs.mp rfl, alone⟩⟩, h.history⟩
    · simp [finished]
  · have stays : inFlight (.ended id epoch :: f.journal) = inFlight f.journal :=
      List.erase_of_not_mem (h.not_mem_inFlight (Ne.symm he))
    have reseeded : .reseeded ∈ since :=
      Classical.byContradiction fun absent => he (hs.mpr absent).symm
    have ended : { f with submitFault := fault }.endSubmission id epoch =
        { f with submitFault := fault, journal := .ended id epoch :: f.journal } := if_neg he
    rw [ended]
    refine ⟨fun p hp => accepted p (others p hp), ?_, ?_, ?_⟩
    · have current := h.current
      rw [List.filter_cons_of_neg (by simpa using Ne.symm he)] at current
      exact current.trans (.of_eq stays.symm)
    · exact ⟨⟨since, before, hj, .inl ⟨reseeded, stays⟩⟩, h.history⟩
    · rw [show f.state.isSubmitting = _ from h.flag]
      simp only [stays]

end Exclusion

namespace Session

variable (app : Application)

theorem exclusion_upkeep : Upkeep app Task.flight? Exclusion where
  perm := Exclusion.perm
  calledBack := Exclusion.calledBack
  put {_ f} changes h := by
    obtain ⟨states, hf⟩ := Form.refresh_frame app.host changes.keys (f.put changes)
    rw [hf]
    exact (h.quiet (m := .committed changes.keys) trivial).congr rfl rfl rfl
  cutShort _ h := h.quiet trivial
  superseded _ _ h := h.congr rfl rfl rfl
  inquired {_ f} task id p _ _ _ h :=
    (h.congr (g := (f.nextGeneration id).2) rfl rfl rfl).quiet
      (m := .inquired task id (f.value id)) trivial
  weighed h := h.congr rfl rfl rfl
  syncing _ h := h.congr rfl rfl rfl
  mounted h := h.congr rfl rfl rfl
  unmounted {_ f} _ h :=
    (h.congr (g := { f with mounted := false }.supersedeAll) rfl rfl rfl).quiet
      (m := .unmounted) trivial
  touched _ h := h.congr rfl rfl rfl
  amended hg h := by
    obtain ⟨values, parsed, rfl⟩ := hg.frame
    exact h.congr rfl rfl rfl
  blamed _ _ _ h := h.congr rfl rfl rfl
  settled _ _ h := (h.quiet (m := .validated) trivial).congr rfl rfl rfl
  reported {_ f} h := by
    obtain ⟨reported, frame⟩ := f.report_frame
    rw [frame]
    exact h.congr rfl rfl rfl
  seeded {_ f} parsed snapshot _ _ h := by
    obtain ⟨states, hf⟩ := Form.seed_frame app.host { f with parsed, snapshot }
    rw [hf]
    exact h.reseeded rfl rfl rfl

/-- The invariant for a session in which a submission may be running. -/
def Excludes (running : List (Nat × Nat)) (s : Session) : Prop :=
  Exclusion (running ++ s.seen Task.flight?) s.form

variable {app}

theorem Excludes.follows {running : List (Nat × Nat)} {s t : Session} (h : s.Excludes running)
    (hf : Follows (fun _ => True) (Keeps Task.flight? Exclusion) s t) : t.Excludes running :=
  (hf fun _ _ => trivial).1 running h

/-- What the agenda holds besides may change. -/
theorem Excludes.arranged {running others : List (Nat × Nat)} {s : Session} {agenda : Agenda}
    (h : s.Excludes running)
    (hp : (others ++ agenda.tasks.filterMap Task.flight?).Perm (running ++ s.seen Task.flight?)) :
    Excludes others { s with agenda } :=
  h.perm hp.symm

theorem abandon_excludes {id epoch : Nat} {s : Session} (cause : Option Fault)
    (h : s.Excludes [(id, epoch)]) : (s.abandon id epoch cause).Excludes [] :=
  h.finish id epoch _

theorem complete_excludes {id epoch : Nat} {s : Session} (h : s.Excludes [(id, epoch)]) :
    (s.complete app (notify app) id epoch).Excludes [] := by
  have ended : Excludes [] { s with form := s.form.endSubmission id epoch } :=
    h.finish id epoch s.form.submitFault
  have law := (exclusion_upkeep app).law fun _ => True
  unfold complete
  dsimp only
  split
  · exact ended.follows (law.follows_reset (notify_obeys law) _)
  · exact ended

theorem handIn_excludes {id epoch : Nat} {s : Session} (handler : Callable)
    (values : Table Value) (h : s.Excludes [(id, epoch)]) :
    (s.handIn app (notify app) id epoch handler values).Excludes [] := by
  unfold handIn
  dsimp only
  split
  · exact complete_excludes h
  · exact abandon_excludes _ h

theorem handOver_excludes {id epoch : Nat} {s : Session} (values : Table Value)
    (h : s.Excludes [(id, epoch)]) :
    (s.handOver app (notify app) id epoch values).Excludes [] := by
  have law := (exclusion_upkeep app).law fun _ => True
  have handed : Excludes [(id, epoch)] { s with form := s.form.mark (.handed id values) } :=
    h.quiet (m := .handed id values) trivial
  have told := handed.follows (notify_obeys law _ (.submitted values) trivial)
  unfold handOver
  dsimp only
  split
  · exact abandon_excludes _ told
  · exact complete_excludes told
  · next handler _ _ =>
    split
    · exact handIn_excludes handler values told
    · exact told.arranged ((Agenda.tasks_sleep _ _ _).filterMap Task.flight?)

theorem submit_excludes {s : Session} (id : Nat) (h : s.Excludes []) :
    (s.submit app (notify app) id).Excludes [] := by
  have law := (exclusion_upkeep app).law fun _ => True
  unfold submit
  split
  · exact h
  · next idle =>
    have accepted : Excludes [(id, s.form.epoch)] { s with form := s.form.beginSubmission id } :=
      Exclusion.accept id (Bool.eq_false_iff.mpr idle) h
    have checked : Excludes [(id, s.form.epoch)]
        (if (s.form.beginSubmission id).validatesOnSubmit then
          { s with form := s.form.beginSubmission id }.validate app (notify app)
        else ({ s with form := s.form.beginSubmission id }, .ok [])).1 := by
      split
      · exact accepted.follows (law.follows_validate (notify_obeys law) _)
      · exact accepted
    dsimp only
    split
    · exact abandon_excludes _ checked
    · split
      · exact abandon_excludes _ checked
      · split
        · exact handOver_excludes _ checked
        · exact complete_excludes checked

theorem inquireOn_excludes {s : Session} (id : Nat) (q : Inquiry) (stage : InquiryStage)
    (h : s.Excludes []) : (s.inquireOn app id q stage).Excludes [] := by
  have inquiring : Inquiring app q (fun _ => True) (fun _ => True)
      fun s t => s.Excludes [] → t.Excludes [] := {
    silent := trivial
    told := fun _ _ => trivial
    trans := fun h h' hs => h' (h hs)
    noted := fun _ _ _ hs => hs
    asked := fun _ _ _ _ hs => hs.quiet trivial
    amended := fun s _ _ v _ _ _ hs => by
      obtain ⟨values, parsed, hf, -⟩ := Form.amend_frame q.field.id v s.form
      rw [hf]
      exact hs.congr rfl rfl rfl
    complained := fun s id v messages _ _ _ hs =>
      (Exclusion.quiet (m := .complained id q.field.id v _) trivial hs).congr rfl rfl rfl
    slept := fun s span id _ stage _ hs =>
      hs.arranged ((s.agenda.tasks_sleep span (.inquiry id _ stage)).filterMap Task.flight?)
    forgot := fun s id hs => by
      refine hs.arranged (.of_eq ?_)
      rw [s.agenda.tasks_add_none (.forget id) rfl]
      rfl }
  exact inquiring.follows_inquireOn id trivial (fun _ _ => trivial) s h

theorem work_excludes {s : Session} {job : Job} {ready : List Job}
    (hr : s.agenda.ready = job :: ready) (h : s.Excludes []) :
    ({ s with agenda.ready := ready }.work app (notify app) job).Excludes [] := by
  -- the job's own task goes on running while it is off the agenda
  have running : Excludes (job.task?.bind Task.flight?).toList { s with agenda.ready := ready } := by
    exact h.arranged (.of_eq (seen_ready Task.flight? hr).symm)
  cases job with
  | checkValidity => exact Exclusion.congr running rfl rfl rfl
  | resume task =>
      cases task with
      | inquiry id q stage => exact inquireOn_excludes id q stage running
      | submission id stage =>
          cases stage with
          | begun => exact submit_excludes id running
          | handing epoch handler values => exact handIn_excludes handler values running
      | pause id => exact running
  | wake task =>
      refine running.arranged ((Agenda.tasks_add _ _).filterMap Task.flight? |>.trans ?_)
      exact .of_eq (filterMap_cons_toList Task.flight? task _)
  | forget id => exact running

theorem begins_excludes {s : Session} (h : Begins app s) : s.Excludes [] := by
  obtain ⟨source, parsed, given, snapshot, state, reactions, -, -, rfl⟩ := h
  have blank : Exclusion [] ({ parsed, snapshot } : Form) :=
    ⟨by simp, .refl _, trivial, rfl⟩
  exact (exclusion_upkeep app).seeded parsed snapshot (.inl rfl) (.inl rfl) blank

/-- In every session that a form can come to, submissions exclude one another. -/
theorem Reachable.excludes {s : Session} (h : Reachable app s) : s.Excludes [] := by
  obtain ⟨begun, hb, h⟩ := h
  have law := (exclusion_upkeep app).law fun _ => True
  induction h with
  | refl => exact begins_excludes hb
  | command c _ _ ih => exact ih.follows (perform_follows law _ c trivial)
  | @submission t submissions _ ih =>
      exact ih.arranged (t.agenda.tasks_openSubmission.filterMap Task.flight?)
  | @pause t span _ ih =>
      exact ih.arranged ((t.agenda.tasks_openPause span).filterMap Task.flight?)
  | work _ hr ih => exact work_excludes hr ih
  | elapse _ ha ih => exact ih.arranged ((Agenda.tasks_toNextTimer ha).filterMap Task.flight?)

/-- At any moment at most one submission accepted by the present state is in flight; the flag says
whether one is, to callbacks too; those in flight wait for a handler; one that comes meanwhile ends
without success and changes nothing else; and the end of one accepted by an earlier state changes
nothing about what is in flight. -/
theorem submissions_exclusive {s : Session} (h : Reachable app s) :
    (∀ later earlier, s.form.journal = later ++ earlier → (inFlight earlier).length ≤ 1) ∧
    (∀ later submitting earlier, s.form.journal = later ++ .calledBack submitting :: earlier →
      (submitting = true ↔ inFlight earlier ≠ [])) ∧
    (s.form.state.isSubmitting = true ↔ inFlight s.form.journal ≠ []) ∧
    ((s.seen Task.flight?).filter fun p => p.2 = s.form.epoch).Perm (inFlight s.form.journal) ∧
    (∀ id, s.form.state.isSubmitting = true → s.submit app (notify app) id =
      { s with agenda.outcomes := s.agenda.outcomes ++ [(id, false)] }) ∧
    ∀ later id epoch earlier, s.form.journal = later ++ .ended id epoch :: earlier →
      ∃ since before, earlier = since ++ .accepted id epoch :: before ∧
        (.reseeded ∈ since ∧ inFlight (.ended id epoch :: earlier) = inFlight earlier ∨
          .reseeded ∉ since ∧ inFlight earlier = [(id, epoch)] ∧
            inFlight (.ended id epoch :: earlier) = []) := by
  have excludes := h.excludes
  have history := (History.iff_forall s.form.journal).mp excludes.history
  refine ⟨?_, ?_, ?_, excludes.current, ?_, ?_⟩
  · intro later earlier hj
    have whole := excludes.history
    rw [hj] at whole
    exact length_inFlight_le whole.append
  · intro later submitting earlier hj
    have told : submitting = _ := history later _ earlier hj
    simp [told]
  · simp [excludes.flag]
  · intro id busy
    unfold submit
    rw [if_pos busy]
    rfl
  · intro later id epoch earlier hj
    obtain ⟨since, before, hb, h | ⟨absent, alone⟩⟩ := history later _ earlier hj
    · exact ⟨since, before, hb, .inl h⟩
    · exact ⟨since, before, hb, .inr ⟨absent, alone, by simp [inFlight, alone]⟩⟩

/-- An application that takes a second over each submission. -/
def slowApplication : Application where
  host := .constant .null (Time.seconds 1000)
  settings := {}
  handler := some ⟨.deferredFunction, 0, .null⟩

/-- A form that a submission was opened for. -/
def openedSubmission : Session :=
  { ((FormSchema.plain [.plain "a" "text"]).begin slowApplication).openSubmission.2 with
    submissions := [] }

/-- The same form when the submission has been handed over. -/
def slowSubmission : Session :=
  { openedSubmission with agenda.ready := [] }.work slowApplication (notify slowApplication)
    (.resume (.submission 0 .begun))

theorem slowSubmission_reachable : Reachable slowApplication slowSubmission := by
  have opened : Leads slowApplication (fun _ => True)
      ((FormSchema.plain [.plain "a" "text"]).begin slowApplication) openedSubmission :=
    .submission [] .refl
  exact ⟨_, FormSchema.begins (by decide +kernel), opened.work rfl⟩

/-- While it is in flight, another one is refused. -/
theorem slowSubmission_refuses :
    (slowSubmission.form.state.isSubmitting = true ∧ inFlight slowSubmission.form.journal ≠ []) ∧
    (slowSubmission.submit slowApplication (notify slowApplication) 1).agenda.outcomes =
      [(1, false)] := by
  obtain ⟨-, -, flag, -, refused, -⟩ := submissions_exclusive slowSubmission_reachable
  have busy : slowSubmission.form.state.isSubmitting = true := by decide +kernel
  refine ⟨⟨busy, flag.mp busy⟩, ?_⟩
  rw [refused 1 busy]
  decide +kernel

end Session

end FormEngine
