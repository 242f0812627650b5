import FormEngine.Proofs.Form.Complaints
import FormEngine.Proofs.Session.Restore
import FormEngine.Proofs.Session.Supersession

/-!
What every state of a form looks like. Complaints are filed by checks of fields and of the form, by
edits that drop them and by inquiries that add some; whichever of them comes last, the keys are known
and the messages distinct. The form is dirty just if its values are not those of the snapshot, which
nothing replaces but another one.
-/

namespace FormEngine

namespace Form

variable {host : Host} {f g : Form}

/-- The form is dirty just if its values differ from the snapshot, its complaints are filed properly,
and there is one state for each field of its schema. -/
structure Integral (host : Host) (f : Form) : Prop where
  isDirty : f.parsed.KeepsValues host →
    f.state.isDirty = !(Value.record f.state.values).equal (.record f.snapshot)
  errors : f.state.errors.Proper f.parsed.fieldIds
  states : f.fieldStates.keys = f.parsed.fieldIds
  distinct : f.parsed.fieldIds.Nodup

/-- Evaluating fields leaves one state for each that there was one for. -/
theorem keys_evaluateFields (values : Table Value) (ids : List String)
    (h : f.fieldStates.keys = f.parsed.fieldIds) :
    (ids.foldlM (evaluateField host values) f).value.fieldStates.keys = f.parsed.fieldIds := by
  induction ids generalizing f with
  | nil => exact h
  | cons id ids ih =>
      have parsed : (f.evaluateField host values id).value.parsed = f.parsed := by
        obtain ⟨states, hs⟩ := evaluateField_frame host values f id
        rw [hs]
      rw [List.foldlM_cons, Logged.value_bind, ← parsed]
      refine ih ?_
      rw [parsed]
      unfold evaluateField
      split
      · exact h
      · next p hp =>
        have known : id ∈ f.fieldStates.keys := by
          rw [h]
          exact ParsedSchema.mem_fieldIds hp
        change (Table.put f.fieldStates id _).keys = _
        rw [Table.keys_put, if_pos ((Table.mem_keys _ _).mp known), h]

theorem keys_evaluateAll (distinct : f.parsed.fieldIds.Nodup) :
    (f.evaluateAll host).value.fieldStates.keys = f.parsed.fieldIds := by
  let states := f.parsed.fields.map fun p => (p.id, (p.field.state host f.resolved).value)
  have keys : Table.keys states = f.parsed.fieldIds := List.map_map
  have evaluated : (f.evaluateAll host).value.fieldStates = Table.ofEntries states := by
    unfold evaluateAll
    rw [Logged.value_bind, Logged.value_mapM]
    rfl
  rw [evaluated, Table.ofEntries_eq (keys ▸ distinct), keys]

/-- A field with rules that take time is one of the schema. -/
theorem mem_fieldIds_of_asks {id : String} (h : f.asks id ≠ []) : id ∈ f.parsed.fieldIds := by
  unfold asks at h
  cases hp : f.parsed.field? id with
  | none => simp [hp] at h
  | some p => exact ParsedSchema.mem_fieldIds hp

namespace Integral

theorem congr (h : Integral host f) (parsed : g.parsed = f.parsed)
    (snapshot : g.snapshot = f.snapshot) (values : g.state.values = f.state.values)
    (isDirty : g.state.isDirty = f.state.isDirty) (errors : g.state.errors = f.state.errors)
    (fieldStates : g.fieldStates = f.fieldStates) : Integral host g where
  isDirty := by
    rw [parsed, snapshot, values, isDirty]
    exact h.isDirty
  errors := by
    rw [parsed, errors]
    exact h.errors
  states := by
    rw [parsed, fieldStates]
    exact h.states
  distinct := parsed ▸ h.distinct

/-- A form with other complaints. -/
theorem complaints (h : Integral host f) {errors : Complaints}
    (proper : errors.Proper f.parsed.fieldIds) :
    Integral host { f with state.errors := errors } :=
  ⟨h.isDirty, proper, h.states, h.distinct⟩

theorem put (changes : Table Value) (h : Integral host f) :
    Integral host ((f.put changes).refresh host changes.keys).value := by
  have states : ((f.put changes).refresh host changes.keys).value.fieldStates.keys =
      f.parsed.fieldIds :=
    keys_evaluateFields (f := f.put changes) _ _ h.states
  obtain ⟨fieldStates, frame⟩ := refresh_frame host changes.keys (f.put changes)
  rw [frame] at states ⊢
  refine ⟨fun _ => rfl, ?_, states, h.distinct⟩
  have dropped (keys : List String) (errors : Complaints)
      (proper : errors.Proper f.parsed.fieldIds) :
      Complaints.Proper f.parsed.fieldIds (keys.foldl Table.drop errors) := by
    induction keys generalizing errors with
    | nil => exact proper
    | cons key keys ih => exact ih _ (proper.drop key)
  exact dropped changes.keys f.state.errors h.errors

/-- Where functions alter values, it is open whether the form is dirty. -/
theorem amend (id : String) (v : Value) (alters : ¬ f.parsed.KeepsValues host)
    (h : Integral host f) : Integral host (f.amend id v) := by
  have fieldIds := fieldIds_amend id v f
  have keeps : (f.amend id v).parsed.KeepsValues host → f.parsed.KeepsValues host :=
    keepsValues_of_amend
  obtain ⟨values, parsed, frame, -⟩ := amend_frame id v f
  rw [frame] at fieldIds keeps ⊢
  refine ⟨fun kept => absurd (keeps kept) alters, ?_, ?_, ?_⟩
  · rw [fieldIds]
    exact h.errors
  · rw [fieldIds]
    exact h.states
  · rw [fieldIds]
    exact h.distinct

theorem amended (hg : f.Amended host f.parsed.fields g) (h : Integral host f) :
    Integral host g := by
  induction hg with
  | refl => exact h
  | amend p r v hg hp hr hv ih =>
      have alters := not_keepsValues hp hr hv
      exact ih.amend p.id v fun keeps => alters (hg.keepsValues keeps)

theorem setErrors {id : String} {messages : List String} (h : Integral host f)
    (found : ∃ g : Form, (g.complaintsAt host id).value = (f, .ok messages)) :
    Integral host (f.setErrors id messages) := by
  obtain ⟨g, hg⟩ := found
  refine h.complaints ?_
  split
  · exact h.errors.drop id
  · next some_ =>
    have some_ : messages ≠ [] := by simpa using some_
    exact h.errors.put (.inr (mem_fieldIds_of_complaintsAt hg some_)) some_
      (nodup_complaintsAt (congrArg Prod.snd hg))

theorem seed (distinct : f.parsed.fieldIds.Nodup) : Integral host (f.seed host).value where
  isDirty _ := by
    change false = !(Value.record f.snapshot).equal (.record f.snapshot)
    rw [Value.equal_record_self]
    rfl
  errors := .none _
  states := keys_evaluateAll (f := { ((f.replaceErrors []).supersedeAll).mark .reseeded with
    state := { values := f.snapshot }, epoch := f.epoch + 1 }) distinct
  distinct := distinct

end Integral

end Form

namespace Session

variable {app : Application}

open Form (Integral)

/-- The messages of every inquiry that goes on are distinct, and the form is as it has to be. -/
structure Intact (app : Application) (ts : List (Nat × Inquiry × InquiryStage)) (f : Form) :
    Prop where
  distinct : ∀ t ∈ ts, t.2.2.messages.Nodup
  integral : Integral app.host f

namespace Intact

variable {ts us : List (Nat × Inquiry × InquiryStage)} {f g : Form}

theorem perm (hp : ts.Perm us) (h : Intact app ts f) : Intact app us f :=
  ⟨fun t ht => h.distinct t (hp.mem_iff.mpr ht), h.integral⟩

/-- A change of the form alone. -/
theorem change (h : Intact app ts f) (kept : Integral app.host f → Integral app.host g) :
    Intact app ts g :=
  ⟨h.distinct, kept h.integral⟩

end Intact

theorem intact_upkeep (app : Application) : Upkeep app Task.inquiry? (Intact app) where
  perm := Intact.perm
  calledBack h := h.change fun i => i.congr rfl rfl rfl rfl rfl rfl
  put changes h := h.change fun i => i.put changes
  cutShort _ h := h.change fun i => i.congr rfl rfl rfl rfl rfl rfl
  superseded _ _ h := h.change fun i => i.congr rfl rfl rfl rfl rfl rfl
  inquired _ _ _ _ _ _ h := by
    refine ⟨List.forall_mem_cons.mpr ⟨List.nodup_nil, h.distinct⟩, ?_⟩
    exact h.integral.congr rfl rfl rfl rfl rfl rfl
  weighed h := h.change fun i => i.congr rfl rfl rfl rfl rfl rfl
  syncing _ h := h.change fun i => i.congr rfl rfl rfl rfl rfl rfl
  mounted h := h.change fun i => i.congr rfl rfl rfl rfl rfl rfl
  unmounted _ h := h.change fun i => i.congr rfl rfl rfl rfl rfl rfl
  touched _ h := h.change fun i => i.congr rfl rfl rfl rfl rfl rfl
  amended hg h := h.change fun i => i.amended hg
  blamed _ _ found h := h.change fun i => i.setErrors found
  settled {_ f} errors found h := by
    obtain ⟨g, hg⟩ := found
    exact h.change fun i =>
      (i.complaints (Form.complaints_proper hg)).congr rfl rfl rfl rfl rfl rfl
  reported {_ f} h := by
    obtain ⟨reported, frame⟩ := f.report_frame
    rw [frame]
    exact h.change fun i => i.congr rfl rfl rfl rfl rfl rfl
  seeded {_ f} parsed snapshot origin _ h := by
    refine h.change fun i => Integral.seed ?_
    rcases origin with rfl | ⟨source, hp⟩
    · exact i.distinct
    · exact (ParsedSchema.sound_of_parse hp).distinct

theorem intact_course (app : Application) (allowed : FormCommand → Prop) :
    Course app allowed (Keeps Task.inquiry? (Intact app)) where
  toLaw := (intact_upkeep app).law allowed
  arranged _ _ hp running h := h.perm (.append_left running hp.symm)
  accepted _ _ _ _ h := h.change fun i => i.congr rfl rfl rfl rfl rfl rfl
  handed _ _ _ _ h := h.change fun i => i.congr rfl rfl rfl rfl rfl rfl
  ended s id epoch fault _ h := by
    obtain ⟨submitting, frame⟩ :=
      Form.endSubmission_frame id epoch { s.form with submitFault := fault }
    rw [frame]
    exact h.change fun i => i.congr rfl rfl rfl rfl rfl rfl

/-- A session in which an inquiry is running: the others are intact, and as long as it is the latest
about its field, its rules are those of the schema. -/
structure Inquires (app : Application) (q : Inquiry) (s : Session) : Prop where
  intact : Intact app (s.seen Task.inquiry?) s.form
  rules : q.IsLatest s.form → s.form.asks q.fieldId = q.rules

/-- A step of an inquiry leaves the form as it has to be. -/
theorem inquireOn_intact {s : Session} {id : Nat} {q : Inquiry} {stage : InquiryStage}
    (rules : q.rules ≠ [] ∧ ∀ rule ∈ stage.rules q, rule ∈ q.rules)
    (distinct : stage.messages.Nodup) (h : Inquires app q s) :
    Inquires app q (s.inquireOn app id q stage) := by
  have inquiring : Inquiring app q (fun rule => rule ∈ q.rules) List.Nodup fun s t =>
      Inquires app q s → Inquires app q t := {
    silent := List.nodup_nil
    told := fun message hm => nodup_addDistinct hm message
    trans := fun h h' hs => h' (h hs)
    noted := fun _ _ _ hs => ⟨hs.intact, hs.rules⟩
    asked := fun _ _ _ _ hs =>
      ⟨hs.intact.change fun i => i.congr rfl rfl rfl rfl rfl rfl, hs.rules⟩
    amended := fun s rule arguments v hr current hv hs => by
      have latest : q.IsLatest s.form := Inquiry.isLatest_of_isCurrent current
      have alters : ¬ s.form.parsed.KeepsValues app.host := by
        rw [← hs.rules latest] at hr
        exact Form.not_keepsValues_of_asks hr hv
      refine ⟨hs.intact.change fun i => i.amend _ v alters, fun _ => ?_⟩
      exact (Form.asks_amend s.form _ _ v).trans (hs.rules latest)
    complained := fun s id v messages current some_ hm hs => by
      have latest : q.IsLatest s.form :=
        Inquiry.isLatest_of_not_isStale (q := { q with value := v }) current
      have known : q.fieldId ∈ s.form.parsed.fieldIds := by
        refine Form.mem_fieldIds_of_asks ?_
        rw [hs.rules latest]
        exact rules.1
      refine ⟨hs.intact.change fun i => ?_, hs.rules⟩
      exact (i.complaints (i.errors.put (.inr known) some_ hm)).congr rfl rfl rfl rfl rfl rfl
    slept := fun s span id v stage hm hs => by
      refine ⟨?_, hs.rules⟩
      refine Intact.perm ((s.agenda.tasks_sleep span _).filterMap Task.inquiry?).symm ?_
      exact ⟨List.forall_mem_cons.mpr ⟨hm, hs.intact.distinct⟩, hs.intact.integral⟩
    forgot := fun s id hs => by
      refine ⟨?_, hs.rules⟩
      unfold seen
      rw [s.agenda.tasks_add_none (.forget id) rfl]
      exact hs.intact }
  exact inquiring.follows_inquireOn id distinct rules.2 s h

theorem begins_intact {s : Session} (h : Begins app s) :
    Intact app (s.seen Task.inquiry?) s.form := by
  obtain ⟨source, parsed, given, snapshot, state, reactions, hp, -, rfl⟩ := h
  exact ⟨by simp [seen, start, Agenda.tasks],
    Integral.seed (f := { parsed, snapshot }) (ParsedSchema.sound_of_parse hp).distinct⟩

/-- Every session that a form can come to is intact. -/
theorem Reachable.intact {s : Session} (h : Reachable app s) :
    Intact app (s.seen Task.inquiry?) s.form := by
  obtain ⟨begun, hb, h⟩ := h
  refine (h.keeps (I := fun s => Intact app (s.seen Task.inquiry?) s.form)
    (intact_course app fun _ => True) (fun keeps => keeps []) ?_ (fun _ _ => trivial)
    (begins_intact hb)).1
  intro s ready id q stage led intact hr
  have reached : Reachable app s := ⟨begun, hb, led⟩
  rw [seen_ready Task.inquiry? hr] at intact
  obtain ⟨distinct, others⟩ := List.forall_mem_cons.mp intact.distinct
  exact (inquireOn_intact (s := { s with agenda.ready := ready }) (reached.asks hr) distinct
    ⟨⟨others, intact.integral⟩, fun latest => (reached.stands hr latest).rules⟩).intact

end Session

/-- Commands that put another snapshot in the place of the present one. -/
def FormCommand.SetsSnapshot : FormCommand → Prop
  | .setSnapshot _ => True
  | _ => False

namespace Session

variable {app : Application}

/-- No other command, and no task, changes the snapshot. -/
theorem snapshot_course (app : Application) :
    Course app (fun c => ¬ c.SetsSnapshot) fun s t => t.form.snapshot = s.form.snapshot where
  refl _ := rfl
  trans h h' := h'.trans h
  remembered _ _ _ _ _ := rfl
  noted _ _ _ := rfl
  calledBack _ _ _ _ _ _ := rfl
  committed s t changes h := by
    obtain ⟨states, frame⟩ := Form.refresh_frame app.host changes.keys (s.form.put changes)
    rw [frame] at h
    exact (reconsiderAll_rests t changes.keys).snapshot.trans h
  weighed _ := rfl
  deferred _ := rfl
  tookOver _ _ _ h := h
  altered _ _ _ := rfl
  shared _ _ _ _ _ _ _ := rfl
  touched _ _ := rfl
  rechecked s id := (recheck_rests s id).snapshot
  probed s id := (Carries.amended (Form.complaintsAt_amended app.host s.form id)).snapshot
  checked s := (Carries.amended (Form.complaints_amended app.host s.form)).snapshot
  settled _ _ _ := rfl
  reported s := by
    obtain ⟨reported, frame⟩ := s.form.report_frame
    rw [frame]
  seeded _ := rfl
  stored _ _ _ := rfl
  broke _ _ _ := rfl
  mounted _ _ := rfl
  listened s _ := by
    rw [listen_form]
  unmounted s _ _ := by
    dsimp only
    rw [detach_form]
    rfl
  schemaSet _ _ _ _ _ := rfl
  snapshotSet _ _ _ other _ := absurd trivial other
  arranged _ _ _ := rfl
  accepted _ _ _ := rfl
  handed _ _ _ := rfl
  ended s id epoch fault := by
    obtain ⟨submitting, frame⟩ :=
      Form.endSubmission_frame id epoch { s.form with submitFault := fault }
    rw [frame]
    rfl

theorem Leads.snapshot {s t : Session} (h : Leads app (fun c => ¬ c.SetsSnapshot) s t)
    (tame : s.Tame fun c => ¬ c.SetsSnapshot) : t.form.snapshot = s.form.snapshot := by
  refine (h.keeps (I := fun t => t.form.snapshot = s.form.snapshot) (snapshot_course app)
    (fun h h' => h.trans h') ?_ tame rfl).1
  intro u ready id q stage _ same _
  exact (inquireOn_carries { u with agenda.ready := ready } id q stage).snapshot.trans same

end Session

end FormEngine
