import FormEngine.Proofs.Session.Hiding
import FormEngine.Proofs.Session.Verdict

/-!
What becomes of the verdict once a form is made anew. A reset takes the form to be valid without a check,
and outruns the inquiries that are under way; but checks of the validity that were put off before still
have their turn. So the verdict lasts until values are put in or all is checked, or one of those checks
finds that a value is missing.
-/

namespace FormEngine

/-- Values are put in, or all is checked. -/
def Milestone.Disturbs : Milestone → Prop
  | .committed _ | .validated => True
  | _ => False

namespace Inquiry

/-- A later validation of the field has begun, so that nothing comes of this one. -/
def IsOutrun (f : Form) (q : Inquiry) : Prop :=
  ∃ n, f.generations.get? q.fieldId = some n ∧ q.generation < n

variable {f g : Form} {q : Inquiry}

theorem IsOutrun.congr (h : q.IsOutrun f) (generations : g.generations = f.generations) :
    q.IsOutrun g := by
  unfold IsOutrun
  rw [generations]
  exact h

theorem IsOutrun.raised (h : q.IsOutrun f) (generations : g.generations = f.supersedeAll.generations) :
    q.IsOutrun g := by
  obtain ⟨n, hn, older⟩ := h
  refine ⟨n + 1, ?_, by omega⟩
  have found := Table.get?_map f.generations (· + 1) q.fieldId
  rw [hn] at found
  rw [generations]
  exact found

theorem IsOutrun.not_isLatest (h : q.IsOutrun f) : ¬ q.IsLatest f := by
  obtain ⟨n, hn, older⟩ := h
  intro latest
  unfold IsLatest at latest
  rw [hn, Option.some.injEq] at latest
  omega

end Inquiry

namespace Form.Alike

variable {f g h : Form}

theorem trans (alike : f.Alike g) (alike' : g.Alike h) : f.Alike h :=
  ⟨alike'.parsed.trans alike.parsed, alike'.values.trans alike.values,
    alike'.fieldStates.trans alike.fieldStates⟩

theorem isComplete (alike : f.Alike g) : g.isComplete = f.isComplete := by
  unfold Form.isComplete Form.fieldState Form.resolved
  rw [alike.parsed, alike.values, alike.fieldStates]

end Form.Alike

namespace Session

variable {app : Application}

section Lasting

variable {breaks : Milestone → Prop} {P : Session → Prop} {s t u : Session}

/-- The journal goes on, and a condition is kept unless a milestone is noted that may break it. -/
def Lasts (breaks : Milestone → Prop) (P : Session → Prop) (s t : Session) : Prop :=
  ∃ added, t.form.journal = added ++ s.form.journal ∧
    ((∀ m ∈ added, ¬ breaks m) → P s → P t)

/-- A change that adds nothing to the journal. -/
theorem lasts_of (journal : t.form.journal = s.form.journal) (kept : P s → P t) :
    Lasts breaks P s t :=
  ⟨[], journal, fun _ => kept⟩

/-- A milestone is noted. -/
theorem lasts_mark {m : Milestone} (journal : t.form.journal = m :: s.form.journal)
    (kept : ¬ breaks m → P s → P t) : Lasts breaks P s t :=
  ⟨[m], journal, fun calm => kept (calm m List.mem_cons_self)⟩

theorem Lasts.trans (h : Lasts breaks P s t) (h' : Lasts breaks P t u) : Lasts breaks P s u := by
  obtain ⟨first, hf, kept⟩ := h
  obtain ⟨second, hs, kept'⟩ := h'
  refine ⟨second ++ first, by rw [hs, hf, List.append_assoc], fun calm hp => ?_⟩
  refine kept' (fun m hm => calm m (List.mem_append_left _ hm)) ?_
  exact kept (fun m hm => calm m (List.mem_append_right _ hm)) hp

/-- What lasts holds at the end, if nothing that is noted meanwhile may break it. -/
theorem Lasts.holds (h : Lasts breaks P s t) {since : List Milestone}
    (journal : t.form.journal = since ++ s.form.journal) (calm : ∀ m ∈ since, ¬ breaks m)
    (hp : P s) : P t := by
  obtain ⟨added, hj, kept⟩ := h
  obtain rfl : since = added := List.append_cancel_right (journal.symm.trans hj)
  exact kept calm hp

/-- Following a commit up only adds to the journal. -/
theorem followUp_journal (app : Application) (s : Session) (ids : List String) :
    ∃ added, (s.followUp app ids).form.journal = added ++ s.form.journal := by
  let Grows := fun s t : Session => ∃ added, t.form.journal = added ++ s.form.journal
  have trans {s t u : Session} : Grows s t → Grows t u → Grows s u := by
    rintro ⟨first, hf⟩ ⟨second, hs⟩
    exact ⟨second ++ first, by rw [hs, hf, List.append_assoc]⟩
  obtain ⟨added, journal, -⟩ := reconsiderAll_journal app s ids
  exact followUp_keeps (R := Grows) trans (fun _ => ⟨[], rfl⟩) (fun _ => ⟨[], rfl⟩)
    ⟨added, journal⟩

/-- A commit breaks what its milestone may break. -/
theorem lasts_committed (breaking : ∀ ids, breaks (.committed ids)) {changes : Table Value}
    (h : Lasts breaks P
      { s with form := ((s.form.put changes).refresh app.host changes.keys).value } t) :
    Lasts breaks P s (t.followUp app changes.keys) := by
  obtain ⟨states, frame⟩ := Form.refresh_frame app.host changes.keys (s.form.put changes)
  obtain ⟨told, ht, -⟩ := h
  obtain ⟨added, journal⟩ := followUp_journal app t changes.keys
  refine ⟨added ++ told ++ [.committed changes.keys], ?_, fun calm _ => ?_⟩
  · rw [journal, ht, frame, List.append_assoc, List.append_assoc]
    rfl
  · exact absurd (breaking _) (calm _ (List.mem_append_right _ (List.mem_singleton_self _)))

end Lasting

/-- The verdict and the number of checks that wait are as a condition has it, and no inquiry under way
will have an effect. -/
structure Optimistic (V : Bool → Nat → Prop) (s : Session) : Prop where
  verdict : V s.form.state.isValid s.agenda.checks
  outrun : ∀ t ∈ s.seen Task.inquiry?, t.2.1.IsOutrun s.form

namespace Optimistic

variable {V : Bool → Nat → Prop} {s t : Session}

theorem congr (h : s.Optimistic V) (agenda : t.agenda = s.agenda)
    (isValid : t.form.state.isValid = s.form.state.isValid)
    (generations : t.form.generations = s.form.generations) : t.Optimistic V where
  verdict := by
    rw [isValid, agenda]
    exact h.verdict
  outrun u hu := by
    unfold seen at hu
    rw [agenda] at hu
    exact (h.outrun u hu).congr generations

/-- Made anew, a form is taken to be valid, and inquiries stay outrun. -/
theorem anew (h : s.Optimistic V) (optimistic : ∀ b n, V b n → V true n) {f : Form}
    (isValid : f.state.isValid = true)
    (generations : f.generations = s.form.supersedeAll.generations) :
    Optimistic V { s with form := f } where
  verdict := isValid ▸ optimistic _ _ h.verdict
  outrun u hu := (h.outrun u hu).raised generations

theorem amended {ps : List ParsedField} {f : Form} (hg : s.form.Amended app.host ps f)
    (h : s.Optimistic V) : Optimistic V { s with form := f } := by
  obtain ⟨values, parsed, rfl⟩ := hg.frame
  exact h.congr rfl rfl rfl

theorem rechecked (app : Application) (id : String) (h : s.Optimistic V) :
    (s.recheck app id).1.Optimistic V := by
  obtain ⟨g, hg, same | ⟨messages, -, same⟩⟩ := Form.recheck_amended app.host s.form id
  · have same : (s.recheck app id).1.form = g := same
    exact (amended hg h).congr rfl (by rw [same]) (by rw [same])
  · have same : (s.recheck app id).1.form = g.setErrors id messages := same
    exact (amended hg h).congr rfl (by rw [same]; rfl) (by rw [same]; rfl)

/-- Whatever operations do, callbacks included, the verdict lasts until it is disturbed. -/
theorem accord (optimistic : ∀ b n, V b n → V true n) (allowed : FormCommand → Prop) :
    Accord app allowed (Lasts Milestone.Disturbs (Optimistic V)) where
  refl _ := lasts_of rfl id
  trans := Lasts.trans
  remembered _ _ _ _ _ := lasts_of rfl fun h => h.congr rfl rfl rfl
  noted _ _ _ := lasts_of rfl fun h => h.congr rfl rfl rfl
  calledBack _ _ _ _ _ _ := lasts_mark rfl fun _ h => h.congr rfl rfl rfl
  followedUp _ _ _ := lasts_committed fun _ => trivial
  tookOver s t _ h := by
    have began : Lasts Milestone.Disturbs (Optimistic V) s { s with form.syncing := true } :=
      lasts_of rfl fun h => h.congr rfl rfl rfl
    exact (began.trans h).trans (lasts_of rfl fun h => h.congr rfl rfl rfl)
  altered _ _ _ := lasts_of rfl fun h => h.congr rfl rfl rfl
  shared _ _ _ _ _ _ _ := lasts_of rfl fun h => h.congr rfl rfl rfl
  touched _ _ := lasts_of rfl fun h => h.congr rfl rfl rfl
  blurred s id _ := lasts_of (Form.recheck_frame app.host s.form id).1 fun h => h.rechecked app id
  probed s id := by
    have hg := Form.complaintsAt_amended app.host s.form id
    exact lasts_of hg.journal fun h => h.amended hg
  checked s := by
    have hg := Form.complaints_amended app.host s.form
    exact lasts_of hg.journal fun h => h.amended hg
  settled _ _ _ := lasts_mark (m := .validated) rfl fun calm => absurd trivial calm
  reported s := by
    obtain ⟨reported, frame⟩ := s.form.report_frame
    rw [frame]
    exact lasts_of rfl fun h => h.congr rfl rfl rfl
  seeded _ := lasts_mark rfl fun _ h => h.anew optimistic rfl rfl
  stored _ _ _ := lasts_of rfl fun h => h.congr rfl rfl rfl
  broke _ _ _ := lasts_of rfl fun h => h.congr rfl rfl rfl
  mounted _ _ := lasts_of rfl fun h => h.congr rfl rfl rfl
  listened s _ := by
    unfold listen
    split
    · exact lasts_of rfl fun h => h.congr rfl rfl rfl
    · exact lasts_of rfl fun h => h.congr rfl rfl rfl
  unmounted s _ _ := by
    refine lasts_mark (m := .unmounted) ?_ fun _ h => ⟨?_, fun u hu => ?_⟩
    · rw [detach_form]
      rfl
    · dsimp only
      rw [detach_form, detach_agenda]
      exact h.verdict
    · unfold seen at hu
      dsimp only at hu ⊢
      rw [detach_agenda] at hu
      rw [detach_form]
      exact (h.outrun u hu).raised rfl
  schemaSet _ _ _ _ _ := lasts_mark rfl fun _ h => h.anew optimistic rfl rfl
  snapshotSet s v values _ _ := by
    unfold Form.setSnapshot
    split
    · exact lasts_of rfl id
    · exact lasts_mark rfl fun _ h => h.anew optimistic rfl rfl

/-- Submissions do not disturb the verdict either, unless they validate. A check that waited may. -/
theorem passage (optimistic : ∀ b n, V b n → V true n) (reviewed : ∀ b c n, V b (n + 1) → V c n)
    (allowed : FormCommand → Prop) :
    Passage app allowed (Lasts Milestone.Disturbs (Optimistic V)) where
  toAccord := accord optimistic allowed
  arranged s agenda inquiries checks := by
    refine lasts_of rfl fun h => ⟨?_, fun u hu => h.outrun u (inquiries.mem_iff.mp hu)⟩
    dsimp only
    rw [checks]
    exact h.verdict
  reviewed s ready hr := by
    refine lasts_of rfl fun h => ⟨?_, fun u hu => ?_⟩
    · have one := Agenda.checks_ready hr
      have verdict := h.verdict
      rw [one] at verdict
      exact reviewed _ _ _ verdict
    · refine (h.outrun u ?_).congr rfl
      unfold seen
      rw [Agenda.tasks_ready hr]
      exact hu
  accepted s id _ := lasts_mark (m := .accepted id s.form.epoch) rfl fun _ h => h.congr rfl rfl rfl
  handed _ _ _ := lasts_mark rfl fun _ h => h.congr rfl rfl rfl
  ended s id epoch fault := by
    obtain ⟨submitting, frame⟩ :=
      Form.endSubmission_frame id epoch { s.form with submitFault := fault }
    rw [frame]
    exact lasts_mark (m := .ended id epoch) rfl fun _ h => h.congr rfl rfl rfl

end Optimistic

/-- What a turn of an inquiry without effect leaves alone. -/
structure Spares (q : Inquiry) (s t : Session) : Prop where
  state : t.form.state = s.form.state
  parsed : t.form.parsed = s.form.parsed
  fieldStates : t.form.fieldStates = s.form.fieldStates
  generations : t.form.generations = s.form.generations
  checks : t.agenda.checks = s.agenda.checks
  inquiries : ∀ u ∈ t.seen Task.inquiry?, u ∈ s.seen Task.inquiry? ∨
    u.2.1.fieldId = q.fieldId ∧ u.2.1.generation = q.generation

namespace Spares

variable {q : Inquiry} {s t u : Session}

/-- A change of what is noted. -/
theorem of {journal : List Milestone} {events : List Event} :
    Spares q s { s with form.journal := journal, events } :=
  ⟨rfl, rfl, rfl, rfl, rfl, fun _ hu => .inl hu⟩

theorem trans (h : Spares q s t) (h' : Spares q t u) : Spares q s u where
  state := h'.state.trans h.state
  parsed := h'.parsed.trans h.parsed
  fieldStates := h'.fieldStates.trans h.fieldStates
  generations := h'.generations.trans h.generations
  checks := h'.checks.trans h.checks
  inquiries v hv := by
    rcases h'.inquiries v hv with hv | same
    · exact h.inquiries v hv
    · exact .inr same

theorem slept (s : Session) (span : Span) (id : Nat) (v : Value) (stage : InquiryStage) :
    Spares q s { s with agenda := s.agenda.sleep span (.inquiry id { q with value := v } stage) } where
  state := rfl
  parsed := rfl
  fieldStates := rfl
  generations := rfl
  checks := Agenda.checks_sleep _ _ _
  inquiries u hu := by
    rcases List.mem_cons.mp (mem_seen_sleep hu) with rfl | hu
    · exact .inr ⟨rfl, rfl⟩
    · exact .inl hu

theorem forgot (s : Session) (id : Nat) :
    Spares q s { s with agenda := s.agenda.add (.forget id) } where
  state := rfl
  parsed := rfl
  fieldStates := rfl
  generations := rfl
  checks := Agenda.checks_add _ _
  inquiries u hu := by
    unfold seen at hu
    rw [Agenda.tasks_add_none _ _ rfl] at hu
    exact .inl hu

end Spares

/-- An inquiry that is outrun has no effect, at whatever stage it is. -/
theorem inquireOn_spares (app : Application) {s : Session} (id : Nat) {q : Inquiry}
    (stage : InquiryStage) (outrun : q.IsOutrun s.form) :
    Spares q s (s.inquireOn app id q stage) := by
  have inquiring : Inquiring app q (fun _ => True) (fun _ => True)
      fun s t => q.IsOutrun s.form → q.IsOutrun t.form ∧ Spares q s t := {
    silent := trivial
    told := fun _ _ => trivial
    trans := fun h h' outrun => by
      obtain ⟨outrun, first⟩ := h outrun
      obtain ⟨outrun, second⟩ := h' outrun
      exact ⟨outrun, first.trans second⟩
    noted := fun _ _ _ outrun => ⟨outrun, .of⟩
    asked := fun _ _ _ _ outrun => ⟨outrun, .of⟩
    amended := fun _ _ _ _ _ current _ outrun =>
      absurd (Inquiry.isLatest_of_isCurrent current) outrun.not_isLatest
    complained := fun s _ v _ current _ _ outrun => by
      have latest : q.IsLatest s.form := Inquiry.isLatest_of_not_isStale (q := { q with value := v })
        current
      exact absurd latest outrun.not_isLatest
    slept := fun s span id v stage _ outrun => ⟨outrun, .slept s span id v stage⟩
    forgot := fun s id outrun => ⟨outrun, .forgot s id⟩ }
  exact (inquiring.follows_inquireOn id trivial (fun _ _ => trivial) s outrun).2

/-- Jobs have their turn and time moves on, while nothing is asked of the form and no submission goes
on. -/
inductive Turns (app : Application) (s : Session) : Session → Prop
  | refl : Turns app s s
  | work {t : Session} {job : Job} {ready : List Job} :
      Turns app s t → t.agenda.ready = job :: ready → job.submissionSteps = 0 →
      Turns app s ({ t with agenda.ready := ready }.work app (notify app) job)
  | elapse {t : Session} {agenda : Agenda} :
      Turns app s t → t.agenda.toNextTimer? = some agenda → Turns app s { t with agenda }

namespace Turns

variable {s t : Session}

theorem leads {allowed : FormCommand → Prop} (h : Turns app s t) : Leads app allowed s t := by
  induction h with
  | refl => exact .refl
  | work _ hr _ ih => exact ih.work hr
  | elapse _ ha ih => exact ih.elapse ha

/-- What turns keep: the agenda may change, but for the inquiries and the checks that wait; one of
those checks may be made; an inquiry may go on. -/
theorem keeps {P : Session → Prop}
    (arranged : ∀ (t : Session) (agenda : Agenda), agenda.inquiries.Perm t.agenda.inquiries →
      agenda.checks = t.agenda.checks → P t → P { t with agenda })
    (reviewed : ∀ (t : Session) ready, t.agenda.ready = .checkValidity :: ready → P t →
      P { t with agenda.ready := ready, form := t.form.checkValidity })
    (inquiry : ∀ (t : Session) ready id q stage, Turns app s t →
      t.agenda.ready = .resume (.inquiry id q stage) :: ready → P t →
      P ({ t with agenda.ready := ready }.inquireOn app id q stage))
    (h : Turns app s t) (hs : P s) : P t := by
  induction h with
  | refl => exact hs
  | @elapse t agenda _ ha ih =>
      exact arranged t agenda ((Agenda.tasks_toNextTimer ha).filterMap Task.inquiry?)
        (Agenda.checks_toNextTimer ha) ih
  | @work t job ready led hr idle ih =>
      have checks := Agenda.checks_ready hr
      cases job with
      | checkValidity => exact reviewed t ready hr ih
      | resume task =>
          cases task with
          | inquiry id q stage => exact inquiry t ready id q stage led hr ih
          | submission id stage =>
              cases stage with
              | begun => cases idle
              | handing epoch handler values => cases idle
          | pause id =>
              exact arranged t _ (.of_eq (Course.inquiries_popped hr rfl)) checks.symm ih
      | wake task =>
          refine arranged t _ ?_ ?_ ih
          · refine .filterMap Task.inquiry? ((Agenda.tasks_add _ _).trans (.of_eq ?_))
            rw [Agenda.tasks_ready hr]
            rfl
          · exact (Agenda.checks_add _ _).trans checks.symm
      | forget id =>
          exact arranged t _ (.of_eq (Course.inquiries_popped hr rfl)) checks.symm ih

end Turns

/-- What has become of a session in which nothing but its verdict was reviewed: the verdict is as it was
until the first check that waited has its turn, and then as any of them finds it. -/
structure Reviewed (s t : Session) : Prop where
  alike : s.form.Alike t.form
  state : t.form.state = { s.form.state with isValid := t.form.state.isValid }
  checks : t.agenda.checks ≤ s.agenda.checks
  verdict : t.form.state.isValid =
    if t.agenda.checks = s.agenda.checks then s.form.state.isValid
    else s.form.checkValidity.state.isValid

namespace Reviewed

variable {s t u : Session}

theorem refl (s : Session) : Reviewed s s where
  alike := ⟨rfl, rfl, rfl⟩
  state := rfl
  checks := Nat.le_refl _
  verdict := by simp

theorem arranged (h : Reviewed s t) (agenda : Agenda) (checks : agenda.checks = t.agenda.checks) :
    Reviewed s { t with agenda } where
  alike := h.alike
  state := h.state
  checks := by
    dsimp only
    rw [checks]
    exact h.checks
  verdict := by
    dsimp only
    rw [checks]
    exact h.verdict

theorem spared {q : Inquiry} (h : Reviewed s t) (spares : Spares q t u) : Reviewed s u where
  alike := h.alike.trans ⟨spares.parsed, congrArg FormState.values spares.state, spares.fieldStates⟩
  state := by
    rw [spares.state]
    exact h.state
  checks := by
    rw [spares.checks]
    exact h.checks
  verdict := by
    rw [spares.state, spares.checks]
    exact h.verdict

/-- A check that waited has its turn. -/
theorem checked (h : Reviewed s t) {ready : List Job}
    (hr : t.agenda.ready = .checkValidity :: ready) :
    Reviewed s { t with agenda.ready := ready, form := t.form.checkValidity } := by
  have one : t.agenda.checks = Agenda.checks { t.agenda with ready } + 1 := Agenda.checks_ready hr
  have before := h.checks
  have errors : t.form.state.errors = s.form.state.errors := by rw [h.state]
  have verdict : t.form.checkValidity.state.isValid = s.form.checkValidity.state.isValid := by
    unfold Form.checkValidity
    rw [errors, h.alike.isComplete]
  have less : Agenda.checks { t.agenda with ready } < s.agenda.checks := by omega
  refine ⟨h.alike.trans ⟨rfl, rfl, rfl⟩, ?_, Nat.le_of_lt less, ?_⟩
  · unfold Form.checkValidity
    rw [h.state]
  · exact verdict.trans (if_neg (Nat.ne_of_lt less)).symm

end Reviewed

namespace Optimistic

variable {V : Bool → Nat → Prop} {s t : Session}

/-- The inquiry whose turn it is is outrun, and so are those behind it. -/
theorem popped {id : Nat} {q : Inquiry} {stage : InquiryStage} {ready : List Job}
    (h : s.Optimistic V) (hr : s.agenda.ready = .resume (.inquiry id q stage) :: ready) :
    q.IsOutrun s.form ∧ Optimistic V { s with agenda.ready := ready } := by
  have seen := seen_ready Task.inquiry? hr
  have checks := Agenda.checks_ready hr
  have outrun := h.outrun
  rw [seen] at outrun
  refine ⟨outrun _ List.mem_cons_self, ?_, fun u hu => outrun u (List.mem_cons_of_mem _ hu)⟩
  have verdict := h.verdict
  rw [checks] at verdict
  exact verdict

theorem spared {q : Inquiry} (h : s.Optimistic V) (outrun : q.IsOutrun s.form)
    (spares : Spares q s t) : t.Optimistic V where
  verdict := by
    rw [spares.state, spares.checks]
    exact h.verdict
  outrun u hu := by
    rcases spares.inquiries u hu with hu | ⟨field, generation⟩
    · exact (h.outrun u hu).congr spares.generations
    · obtain ⟨n, hn, older⟩ := outrun
      refine ⟨n, ?_, by omega⟩
      rw [spares.generations, field]
      exact hn

/-- The turn of an inquiry is no disturbance. -/
theorem inquireOn {id : Nat} {q : Inquiry} {stage : InquiryStage} {ready : List Job}
    (hr : s.agenda.ready = .resume (.inquiry id q stage) :: ready) :
    Lasts Milestone.Disturbs (Optimistic V) s
      ({ s with agenda.ready := ready }.inquireOn app id q stage) := by
  obtain ⟨added, journal⟩ := inquireOn_journal app { s with agenda.ready := ready } id q stage
  refine ⟨added, journal.symm, fun _ h => ?_⟩
  obtain ⟨outrun, rest⟩ := h.popped hr
  exact rest.spared outrun (inquireOn_spares app id stage outrun)

/-- In whatever order steps are made, the verdict lasts until it is disturbed. -/
theorem leads (optimistic : ∀ b n, V b n → V true n) (reviewed : ∀ b c n, V b (n + 1) → V c n)
    {allowed : FormCommand → Prop} (h : Leads app allowed s t) (tame : s.Tame allowed) :
    Lasts Milestone.Disturbs (Optimistic V) s t :=
  (h.keepsAlong (passage optimistic reviewed allowed) (fun step led => led.trans step)
    (fun _ _ _ _ led hr => led.trans (inquireOn hr)) tame (lasts_of rfl id)).1

end Optimistic

section Resetting

variable {V : Bool → Nat → Prop} {s : Session}

/-- With the state the verdict is made anew, and a reset does nothing else to it that goes without a
milestone. -/
theorem reset_lasts (optimistic : ∀ b n, V b n → V true n) (s : Session) :
    Lasts Milestone.Disturbs (Optimistic V) (s.become (s.form.seed app.host))
      (s.perform app .reset).1 := by
  have accord : Accord app (fun _ => True) (Lasts Milestone.Disturbs (Optimistic V)) :=
    Optimistic.accord optimistic fun _ => True
  have shared := accord.follows_trans (accord.obeys (s.become (s.form.seed app.host)) .restored trivial)
    (accord.follows_share accord.obeys _)
  exact (shared fun _ _ => trivial).1

theorem seed_optimistic (h : Reachable app s) (anew : V true s.agenda.checks) :
    (s.become (s.form.seed app.host)).Optimistic V :=
  ⟨anew, fun u hu => h.sound.inquiries.raised rfl u hu⟩

/-- As long as jobs merely have their turn while all inquiries are outrun, the verdict alone is
reviewed. -/
theorem Turns.reviewed {t : Session} (optimistic : s.Optimistic V) (h : Turns app s t) :
    Reviewed s t := by
  have kept : Reviewed s t ∧ ∀ u ∈ t.seen Task.inquiry?, u.2.1.IsOutrun t.form := by
    refine h.keeps (P := fun t => Reviewed s t ∧ ∀ u ∈ t.seen Task.inquiry?, u.2.1.IsOutrun t.form)
      ?_ ?_ ?_ ⟨.refl s, optimistic.outrun⟩
    · rintro t agenda inquiries checks ⟨reviewed, outrun⟩
      exact ⟨reviewed.arranged agenda checks, fun u hu => outrun u (inquiries.mem_iff.mp hu)⟩
    · rintro t ready hr ⟨reviewed, outrun⟩
      refine ⟨reviewed.checked hr, fun u hu => (outrun u ?_).congr rfl⟩
      unfold seen
      rw [Agenda.tasks_ready hr]
      exact hu
    · rintro t ready id q stage - hr ⟨reviewed, outrun⟩
      have before : t.Optimistic fun _ _ => True := ⟨trivial, outrun⟩
      obtain ⟨passed, rest⟩ := before.popped hr
      have spares := inquireOn_spares (s := { t with agenda.ready := ready }) app id stage passed
      have popped := reviewed.arranged { t.agenda with ready } (Agenda.checks_ready hr).symm
      exact ⟨popped.spared spares, (rest.spared passed spares).outrun⟩
  exact kept.1

/-- After a reset the form is taken to be valid until it is disturbed, in whatever order steps are made,
unless one of the checks that had been put off before has had its turn; inquiries have no effect. As
long as jobs merely have their turn, the verdict changes just if such a check is made and finds that
something is missing, and nothing else changes. -/
theorem reset_validity_lasts (h : Reachable app s) :
    (∀ u, Leads app (fun _ => True) (s.perform app .reset).1 u →
      ∃ since, u.form.journal = since ++ .reseeded :: s.form.journal ∧
        ((∀ m ∈ since, ¬ m.Disturbs) →
          (u.form.state.isValid = true ∧ u.agenda.checks = s.agenda.checks ∨
            u.agenda.checks < s.agenda.checks) ∧
          ∀ id q stage ready, u.agenda.ready = .resume (.inquiry id q stage) :: ready →
            ({ u with agenda.ready := ready }.inquireOn app id q stage).form.state =
              u.form.state)) ∧
    ∃ since, (s.perform app .reset).1.form.journal = since ++ .reseeded :: s.form.journal ∧
      ((∀ m ∈ since, ¬ m.Disturbs) → ∀ u, Turns app (s.perform app .reset).1 u →
        u.agenda.checks ≤ s.agenda.checks ∧
        u.form.state = { (s.perform app .reset).1.form.state with
          isValid := u.agenda.checks = s.agenda.checks ∨
            (s.perform app .reset).1.form.checkValidity.state.isValid = true }) := by
  constructor
  · intro u led
    have lasts := Optimistic.leads (V := fun b n =>
      b = true ∧ n = s.agenda.checks ∨ n < s.agenda.checks)
      (fun _ _ h => h.imp_left fun h => ⟨rfl, h.2⟩) (fun _ _ n h => .inr (by omega)) led
      fun _ _ => trivial
    obtain ⟨since, journal, kept⟩ :=
      (reset_lasts (fun _ _ h => h.imp_left fun h => ⟨rfl, h.2⟩) s).trans lasts
    refine ⟨since, journal, fun calm => ?_⟩
    have optimistic := kept calm (seed_optimistic h (.inl ⟨rfl, rfl⟩))
    refine ⟨optimistic.verdict, fun id q stage ready hr => ?_⟩
    have outrun := (optimistic.popped hr).1
    exact (inquireOn_spares (s := { u with agenda.ready := ready }) app id stage outrun).state
  · have lasts : Lasts Milestone.Disturbs (Optimistic fun b n => b = true ∧ n = s.agenda.checks)
        (s.become (s.form.seed app.host)) (s.perform app .reset).1 :=
      reset_lasts (fun _ _ h => ⟨rfl, h.2⟩) s
    obtain ⟨since, journal, kept⟩ := lasts
    refine ⟨since, journal, fun calm u turns => ?_⟩
    have optimistic := kept calm (seed_optimistic h ⟨rfl, rfl⟩)
    have reviewed := turns.reviewed optimistic
    obtain ⟨valid, waiting⟩ := optimistic.verdict
    have fewer := reviewed.checks
    have verdict := reviewed.verdict
    rw [waiting] at fewer verdict
    refine ⟨fewer, ?_⟩
    rw [reviewed.state, verdict, valid]
    by_cases none : u.agenda.checks = s.agenda.checks
    · simp [none]
    · simp [none]

end Resetting

/-- A form in which a value is missing, changed at another field; the check of its validity waits. -/
def editedSession : Session :=
  ((FormSchema.demanding.begin .content).perform .content (.change "b" (.str "x"))).1

theorem editedSession_reachable : Reachable .content editedSession :=
  ⟨_, FormSchema.begins (by decide +kernel), Leads.refl.command _ trivial⟩

/-- A reset leaves the form valid, with that check. -/
theorem editedSession_restored : editedSession.agenda.checks = 1 ∧
    (editedSession.perform .content .reset).1.form.state.isValid = true ∧
    (editedSession.perform .content .reset).1.agenda.checks = 1 := by
  obtain ⟨lasts, -⟩ := reset_validity_lasts editedSession_reachable
  obtain ⟨since, journal, lasts⟩ := lasts _ .refl
  have told : (editedSession.perform .content .reset).1.form.journal =
      [.calledBack false] ++ .reseeded :: editedSession.form.journal := rfl
  obtain rfl : since = [.calledBack false] := List.append_cancel_right (journal.symm.trans told)
  have waiting : editedSession.agenda.checks = 1 := by decide +kernel
  obtain ⟨⟨valid, same⟩ | fewer, -⟩ := lasts (by simp [Milestone.Disturbs])
  · exact ⟨waiting, valid, same.trans waiting⟩
  · have left : (editedSession.perform .content .reset).1.agenda.checks = 1 := by decide +kernel
    omega

/-- The check has its turn after the reset, and the form is no longer taken to be valid. -/
theorem waiting_check_outlives_reset : ¬ ∀ (app : Application) (s u : Session) since,
    Reachable app s → Leads app (fun _ => True) (s.perform app .reset).1 u →
      u.form.journal = since ++ .reseeded :: s.form.journal → (∀ m ∈ since, ¬ m.Disturbs) →
        u.form.state.isValid = true := by
  intro always
  have led : Leads .content (fun _ => True) (editedSession.perform .content .reset).1
      ((editedSession.perform .content .reset).1.settle .content) := Leads.refl.settle
  have valid := always .content editedSession _ [.calledBack false] editedSession_reachable led rfl
    (by simp [Milestone.Disturbs])
  have invalid : ((editedSession.perform .content .reset).1.settle .content).form.state.isValid =
      false := by decide +kernel
  exact Bool.noConfusion (valid.symm.trans invalid)

end Session

end FormEngine
