import FormEngine.Proofs.Session.Freshness
import FormEngine.Proofs.Session.Restore
import FormEngine.Proofs.Session.Validation

/-!
What leaves the values and the store alone. Where no function of a field alters values and no callback
answers, only edits change the values of a form and only they are shared with the store; checks,
inquiries, blurs and what is merely told of them leave both as they are.
-/

namespace FormEngine

/-- The commands that neither edit a form nor write its store, nor set it up. -/
def FormCommand.IsIdle : FormCommand → Prop
  | .blur _ | .focus _ | .validate | .validateField _ | .render | .look => True
  | _ => False

namespace Session

variable {app : Application}

/-- The values of the form are the same and what they depend on, and so is the store. -/
structure Steady (s t : Session) : Prop where
  values : t.form.state.values = s.form.state.values
  parsed : t.form.parsed = s.form.parsed
  snapshot : t.form.snapshot = s.form.snapshot
  syncing : t.form.syncing = s.form.syncing
  store : t.store = s.store
  broken : t.broken = s.broken
  reactions : t.reactions = s.reactions

namespace Steady

variable {s t u : Session}

/-- A change of the form, and of what is seen. -/
theorem of {f : Form} (events : List Event) (values : f.state.values = s.form.state.values)
    (parsed : f.parsed = s.form.parsed) (snapshot : f.snapshot = s.form.snapshot)
    (syncing : f.syncing = s.form.syncing) : Steady s { s with form := f, events } :=
  ⟨values, parsed, snapshot, syncing, rfl, rfl, rfl⟩

/-- A change of the agenda. -/
theorem arranged (s : Session) (agenda : Agenda) : Steady s { s with agenda } :=
  ⟨rfl, rfl, rfl, rfl, rfl, rfl, rfl⟩

theorem refl (s : Session) : Steady s s := .arranged s s.agenda

theorem trans (h : Steady s t) (h' : Steady t u) : Steady s u where
  values := h'.values.trans h.values
  parsed := h'.parsed.trans h.parsed
  snapshot := h'.snapshot.trans h.snapshot
  syncing := h'.syncing.trans h.syncing
  store := h'.store.trans h.store
  broken := h'.broken.trans h.broken
  reactions := h'.reactions.trans h.reactions

/-- Where no function of a field alters values, checks amend nothing. -/
theorem amended (keeps : s.form.parsed.KeepsValues app.host) {f : Form} (events : List Event)
    (hg : s.form.Amended app.host s.form.parsed.fields f) :
    Steady s { s with form := f, events } := by
  rw [hg.unaltered keeps]
  exact .of events rfl rfl rfl rfl

/-- Telling of an event that is not answered. -/
theorem told (calm : s.reactions = []) (e : Event) : Steady s (s.tell (notify app) e) := by
  obtain ⟨journal, events, noted⟩ := notify_calm app (s := s) (e := e) (by simp [calm])
  unfold tell
  rw [noted]
  exact .of events rfl rfl rfl rfl

theorem rechecked (keeps : s.form.parsed.KeepsValues app.host) (id : String) :
    Steady s (s.recheck app id).1 := by
  obtain ⟨g, hg, h⟩ := Form.recheck_amended app.host s.form id
  have same : g = s.form := hg.of_field?.unaltered keeps
  have checked : Steady s { s with
      form := (s.form.recheck app.host id).value.1
      events := s.events ++ (s.form.recheck app.host id).events } := by
    rcases h with h | ⟨messages, -, h⟩
    · rw [h, same]
      exact .of _ rfl rfl rfl rfl
    · rw [h, same]
      exact .of _ rfl rfl rfl rfl
  exact checked

theorem inquired (app : Application) (s : Session) (id : String) :
    Steady s (s.inquire app id) := by
  unfold inquire
  split
  · exact .refl s
  · split
    · exact .refl s
    · dsimp only
      split
      · exact ⟨rfl, rfl, rfl, rfl, rfl, rfl, rfl⟩
      · exact .of s.events rfl rfl rfl rfl

/-- Following a commit up. -/
theorem followedUp (keeps : s.form.parsed.KeepsValues app.host) (ids : List String) :
    Steady s (s.followUp app ids) := by
  -- whether functions alter values is decided by the schema, which stays
  have trans {s t u : Session} (h : s.form.parsed.KeepsValues app.host → Steady s t)
      (h' : t.form.parsed.KeepsValues app.host → Steady t u)
      (keeps : s.form.parsed.KeepsValues app.host) : Steady s u :=
    (h keeps).trans (h' ((h keeps).parsed ▸ keeps))
  have reconsidered : s.form.parsed.KeepsValues app.host → Steady s (s.reconsiderAll app ids).1 :=
    reconsiderAll_keeps (R := fun s t => s.form.parsed.KeepsValues app.host → Steady s t)
      (fun s _ => .refl s) trans (fun _ _ id _ keeps => .rechecked keeps id)
      (fun s id _ _ => .inquired app s id) (fun s _ _ => .of s.events rfl rfl rfl rfl) s
  exact followUp_keeps (R := fun s t => s.form.parsed.KeepsValues app.host → Steady s t) trans
    (fun s _ => .of s.events rfl rfl rfl rfl) (fun s _ => .arranged s _) reconsidered keeps

theorem validated (keeps : s.form.parsed.KeepsValues app.host) (calm : s.reactions = []) :
    Steady s (s.validate app (notify app)).1 := by
  have same : (s.form.complaints app.host).value.1 = s.form :=
    (Form.complaints_amended app.host s.form).unaltered keeps
  obtain ⟨fails, succeeds⟩ := validate_calm app (s := s) (f := s.form) (by simp [calm])
  cases ho : (s.form.complaints app.host).value.2 with
  | error e =>
      obtain ⟨events, failed⟩ := fails e (Prod.ext same ho)
      rw [failed]
      exact .of events rfl rfl rfl rfl
  | ok errors =>
      obtain ⟨journal, reported, events, filed⟩ := succeeds errors (Prod.ext same ho)
      rw [filed]
      exact .of events rfl rfl rfl rfl

theorem blurred (keeps : s.form.parsed.KeepsValues app.host) (calm : s.reactions = [])
    (id : String) : Steady s (s.blur app (notify app) id).1 := by
  have touched : Steady s { s with form := s.form.touch id } := .of s.events rfl rfl rfl rfl
  have told : Steady s
      (tell (notify app) { s with form := s.form.touch id } (.blurred id)) :=
    touched.trans (.told (touched.reactions.trans calm) (.blurred id))
  unfold blur
  dsimp only
  split
  · exact told.trans (.rechecked (told.parsed ▸ keeps) id)
  · exact told

/-- An idle command. -/
theorem performed (keeps : s.form.parsed.KeepsValues app.host) (calm : s.reactions = [])
    {c : FormCommand} (idle : c.IsIdle) : Steady s (s.perform app c).1 := by
  cases c with
  | blur id => exact .blurred keeps calm id
  | focus id => exact .told calm (.focused id)
  | validate => exact .validated keeps calm
  | validateField id =>
      exact .amended keeps _ (Form.complaintsAt_amended app.host s.form id).of_field?
  | render => exact ⟨rfl, rfl, rfl, rfl, rfl, rfl, rfl⟩
  | look => exact .refl s
  | _ => exact idle.elim

/-- The turn of an inquiry. -/
theorem inquiredOn (reached : Reachable app s) (keeps : s.form.parsed.KeepsValues app.host)
    {id : Nat} {q : Inquiry} {stage : InquiryStage} {ready : List Job}
    (hr : s.agenda.ready = .resume (.inquiry id q stage) :: ready) :
    Steady s ({ s with agenda.ready := ready }.inquireOn app id q stage) := by
  have inquiring : Inquiring app q (fun rule => rule ∈ q.rules) (fun _ => True) fun s t =>
      q.IsKnown s.form ∧ s.form.parsed.KeepsValues app.host →
        (q.IsKnown t.form ∧ t.form.parsed.KeepsValues app.host) ∧ Steady s t := {
    silent := trivial
    told := fun _ _ => trivial
    trans := fun h h' hs => by
      obtain ⟨ht, first⟩ := h hs
      obtain ⟨hu, second⟩ := h' ht
      exact ⟨hu, first.trans second⟩
    noted := fun s events _ hs => ⟨hs, .of (s.events ++ events) rfl rfl rfl rfl⟩
    asked := fun s _ _ _ hs => ⟨hs, .of s.events rfl rfl rfl rfl⟩
    amended := fun s rule arguments v hr now hv hs => by
      rw [← hs.1 now] at hr
      exact absurd hs.2 (Form.not_keepsValues_of_asks hr hv)
    complained := fun s _ _ _ _ _ _ hs => ⟨hs, .of s.events rfl rfl rfl rfl⟩
    slept := fun s _ _ _ _ _ hs => ⟨hs, .arranged s _⟩
    forgot := fun s _ hs => ⟨hs, .arranged s _⟩ }
  have popped : Steady s { s with agenda.ready := ready } := .arranged s _
  exact popped.trans (inquiring.follows_inquireOn id trivial (reached.asks hr).2
    { s with agenda.ready := ready } ⟨reached.known hr, keeps⟩).2

end Steady

/-- Values are not being taken over from the store, if they were not before. -/
def Quiets (s t : Session) : Prop := s.form.syncing = false → t.form.syncing = false

theorem quiet_course (app : Application) : Course app (fun _ => True) Quiets where
  refl _ quiet := quiet
  trans h h' quiet := h' (h quiet)
  remembered _ _ _ _ _ quiet := quiet
  noted _ _ _ quiet := quiet
  calledBack _ _ _ _ _ _ quiet := quiet
  committed s t changes h := by
    intro quiet
    obtain ⟨states, frame⟩ := Form.refresh_frame app.host changes.keys (s.form.put changes)
    rw [frame] at h
    exact (reconsiderAll_rests t changes.keys).syncing.trans (h quiet)
  weighed _ quiet := quiet
  deferred _ quiet := quiet
  tookOver _ _ _ _ _ := rfl
  altered _ _ _ quiet := quiet
  shared _ _ _ _ _ _ _ quiet := quiet
  touched _ _ quiet := quiet
  rechecked s id quiet := (recheck_rests s id).syncing.trans quiet
  probed s id quiet := by
    obtain ⟨values, parsed, frame⟩ := (Form.complaintsAt_amended app.host s.form id).frame
    rw [frame]
    exact quiet
  checked s quiet := by
    obtain ⟨values, parsed, frame⟩ := (Form.complaints_amended app.host s.form).frame
    rw [frame]
    exact quiet
  settled _ _ _ quiet := quiet
  reported s quiet := by
    obtain ⟨reported, frame⟩ := s.form.report_frame
    rw [frame]
    exact quiet
  seeded _ quiet := quiet
  stored _ _ _ quiet := quiet
  broke _ _ _ quiet := quiet
  mounted _ _ quiet := quiet
  listened s _ quiet := (congrArg Form.syncing s.listen_form).trans quiet
  unmounted s _ _ quiet :=
    (congrArg Form.syncing (detach_form { s with form.mounted := false })).trans quiet
  schemaSet _ _ _ _ _ quiet := quiet
  snapshotSet s v values _ _ quiet := by
    unfold Form.setSnapshot
    split
    · exact quiet
    · exact quiet
  arranged _ _ _ quiet := quiet
  accepted _ _ _ quiet := quiet
  handed _ _ _ quiet := quiet
  ended s id epoch fault quiet := by
    obtain ⟨submitting, frame⟩ :=
      Form.endSubmission_frame id epoch { s.form with submitFault := fault }
    rw [frame]
    exact quiet

/-- Between the steps of a session values are not being taken over. -/
theorem Reachable.quiet {s : Session} (h : Reachable app s) : s.form.syncing = false := by
  obtain ⟨begun, hb, led⟩ := h
  have blank : begun.form.syncing = false := by
    obtain ⟨source, parsed, given, snapshot, state, reactions, -, -, rfl⟩ := hb
    rfl
  refine (led.keeps (I := fun s => s.form.syncing = false) (quiet_course app) (fun h => h) ?_
    (fun _ _ => trivial) blank).1
  intro u ready id q stage _ quiet _
  exact (inquireOn_carries { u with agenda.ready := ready } id q stage).quiet quiet

end Session

end FormEngine
