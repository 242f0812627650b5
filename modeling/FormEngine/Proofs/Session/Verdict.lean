import FormEngine.Proofs.Session.Supersession
import FormEngine.Proofs.Session.Validation

/-!
The verdict on a form and its complaints. Where nothing waits for its turn, every operation that changes
the complaints reviews whether the form is valid, except that leaving a field may check the field and
does no more. A form that is taken to be valid although it is complained of was found fault with when a
field was left, unless a commit was cut short.
-/

namespace FormEngine

namespace Form

/-- A form that is taken to be valid is not complained of. -/
def IsTruthful (f : Form) : Prop := f.state.isValid = true → f.state.errors = []

/-- A form that is taken to be valid although it is complained of checks fields that are left, and is
complained of as checks of its fields would have it now. -/
def IsExcused (host : Host) (f : Form) : Prop :=
  f.state.isValid = true → f.state.errors ≠ [] → f.validatesOnBlur = true ∧
    (f.parsed.KeepsValues host → ∀ key messages, f.state.errors.get? key = some messages →
      (f.complaintsAt host key).value.2 = .ok messages)

variable {host : Host} {f g : Form}

theorem IsTruthful.isExcused (h : f.IsTruthful) : f.IsExcused host :=
  fun valid complained => absurd (h valid) complained

theorem checkValidity_isTruthful (f : Form) : f.checkValidity.IsTruthful := by
  intro valid
  have light : (f.state.errors.isEmpty && f.isComplete) = true := valid
  rw [Bool.and_eq_true] at light
  exact List.isEmpty_iff.mp light.1

theorem settle_isTruthful (f : Form) (errors : Complaints) : (f.settle errors).IsTruthful :=
  fun valid => List.isEmpty_iff.mp valid

/-- Made anew, a form is not complained of. -/
theorem seed_isTruthful (host : Host) (f : Form) : (f.seed host).value.IsTruthful :=
  fun _ => rfl

/-- Filing messages under a key makes a truthful form untruthful just if there are some and the form is
taken to be valid. -/
theorem setErrors_isTruthful_iff (truthful : f.IsTruthful) {id : String} {messages : List String} :
    (f.setErrors id messages).IsTruthful ↔ (f.state.isValid = true → messages = []) := by
  constructor
  · intro h valid
    have none : (f.setErrors id messages).state.errors = [] := h valid
    rw [setErrors, truthful valid] at none
    split at none
    · next empty => exact List.isEmpty_iff.mp empty
    · cases none
  · intro h valid
    have valid : f.state.isValid = true := valid
    simp [setErrors, h valid, truthful valid, Table.drop]

theorem Amended.validatesOnBlur {ps : List ParsedField} (h : f.Amended host ps g) :
    g.validatesOnBlur = f.validatesOnBlur := by
  obtain ⟨fields, parsed⟩ := h.parsed
  unfold Form.validatesOnBlur
  rw [parsed]

namespace IsExcused

/-- What the verdict rests on is the schema, the values, what is made of the fields, and the complaints. -/
theorem congr (h : f.IsExcused host) (alike : f.Alike g) (errors : g.state.errors = f.state.errors)
    (isValid : g.state.isValid = f.state.isValid) : g.IsExcused host := by
  intro valid complained
  rw [errors] at complained ⊢
  obtain ⟨checks, found⟩ := h (isValid ▸ valid) complained
  refine ⟨?_, fun keeps key messages there => ?_⟩
  · unfold validatesOnBlur
    rw [alike.parsed]
    exact checks
  · rw [alike.parsed] at keeps
    rw [(alike.agrees host).complaintsAt keeps]
    exact found keeps key messages there

theorem amended (h : f.IsExcused host) (hg : f.Amended host f.parsed.fields g) :
    g.IsExcused host := by
  intro valid complained
  obtain ⟨values, parsed, frame⟩ := hg.frame
  have errors : g.state.errors = f.state.errors := by rw [frame]
  have isValid : g.state.isValid = f.state.isValid := by rw [frame]
  rw [errors] at complained ⊢
  obtain ⟨checks, found⟩ := h (isValid ▸ valid) complained
  refine ⟨?_, fun keeps => ?_⟩
  · rw [hg.validatesOnBlur]
    exact checks
  · have keeps := hg.keepsValues keeps
    rw [hg.unaltered keeps]
    exact found keeps

/-- Filing what a check of a field has found about it leaves the form excused, if it checks fields that
are left. -/
theorem blamed (h : f.IsExcused host) (checks : f.validatesOnBlur = true) {id : String}
    {messages : List String} (hm : (f.complaintsAt host id).value = (g, .ok messages)) :
    (g.setErrors id messages).IsExcused host := by
  intro valid _
  have hg : f.Amended host f.parsed.fields g := by
    have amended := complaintsAt_amended host f id
    rw [hm] at amended
    exact amended.of_field?
  refine ⟨?_, fun keeps key others there => ?_⟩
  · exact hg.validatesOnBlur.trans checks
  · have keeps : f.parsed.KeepsValues host := hg.keepsValues keeps
    obtain rfl : g = f := hg.unaltered keeps
    have alike : g.Alike (g.setErrors id messages) := ⟨rfl, rfl, rfl⟩
    rw [(alike.agrees host).complaintsAt keeps]
    have before (different : key ≠ id) (there : g.state.errors.get? key = some others) :
        (g.complaintsAt host key).value.2 = .ok others := by
      refine (h valid ?_).2 keeps key others there
      intro none
      rw [none] at there
      cases there
    simp only [setErrors] at there
    split at there
    · by_cases same : key = id
      · rw [same, Table.get?_drop, if_pos rfl] at there
        cases there
      · rw [Table.get?_drop, if_neg same] at there
        exact before same there
    · by_cases same : key = id
      · rw [same, Table.get?_put_self] at there
        rw [same, hm, Option.some.inj there]
      · rw [Table.get?_put_ne _ _ same] at there
        exact before same there

end IsExcused

end Form

namespace Session

variable {app : Application}

/-- The journal goes on, and a form that was excused stays so unless a commit was cut short. -/
def StaysExcused (app : Application) (s t : Session) : Prop :=
  ∃ added, t.form.journal = added ++ s.form.journal ∧
    ((∀ ids, .cutShort ids ∉ added) → s.form.IsExcused app.host → t.form.IsExcused app.host)

/-- A change that adds nothing to the journal. -/
theorem staysExcused_of {s t : Session} (journal : t.form.journal = s.form.journal)
    (kept : s.form.IsExcused app.host → t.form.IsExcused app.host) : StaysExcused app s t :=
  ⟨[], journal, fun _ => kept⟩

/-- A milestone is noted. -/
theorem staysExcused_mark {s t : Session} {m : Milestone}
    (journal : t.form.journal = m :: s.form.journal)
    (kept : s.form.IsExcused app.host → t.form.IsExcused app.host) : StaysExcused app s t :=
  ⟨[m], journal, fun _ => kept⟩

theorem StaysExcused.trans {s t u : Session} (h : StaysExcused app s t)
    (h' : StaysExcused app t u) : StaysExcused app s u := by
  obtain ⟨first, hf, kept⟩ := h
  obtain ⟨second, hs, kept'⟩ := h'
  refine ⟨second ++ first, by rw [hs, hf, List.append_assoc], fun whole excused => ?_⟩
  refine kept' (fun ids h => whole ids (List.mem_append_left _ h)) ?_
  exact kept (fun ids h => whole ids (List.mem_append_right _ h)) excused

theorem reconsider_journal (app : Application) (s : Session) (id : String) :
    ∃ added, (s.reconsider app id).1.form.journal = added ++ s.form.journal := by
  have checked : (s.recheck app id).1.form.journal = s.form.journal :=
    (Form.recheck_frame app.host s.form id).1
  unfold reconsider
  cases s.form.validatesOnChange with
  | false =>
      obtain ⟨added, inquired⟩ := inquire_reconsidered app s id
      exact ⟨added, inquired.journal⟩
  | true =>
      obtain ⟨added, inquired⟩ := inquire_reconsidered app (s.recheck app id).1 id
      simp only [if_true]
      split
      · exact ⟨added, inquired.journal.trans (congrArg (added ++ ·) checked)⟩
      · exact ⟨[], checked⟩

/-- Reconsidering that fails is noted as cut short. -/
theorem reconsiderAll_journal (app : Application) (s : Session) (ids : List String) :
    ∃ added, (s.reconsiderAll app ids).1.form.journal = added ++ s.form.journal ∧
      ∀ e, (s.reconsiderAll app ids).2 = .error e → ∃ cut, .cutShort cut ∈ added := by
  induction ids generalizing s with
  | nil => exact ⟨[], rfl, fun e h => by cases h⟩
  | cons id ids ih =>
      obtain ⟨first, hf⟩ := reconsider_journal app s id
      rw [reconsiderAll]
      split
      · next t h =>
        obtain ⟨rest, hr, failed⟩ := ih t
        rw [h] at hf
        refine ⟨rest ++ first, by rw [hr, hf, List.append_assoc], fun e he => ?_⟩
        obtain ⟨cut, hc⟩ := failed e he
        exact ⟨cut, List.mem_append_left _ hc⟩
      · next t e h =>
        rw [h] at hf
        refine ⟨.cutShort (id :: ids) :: first, congrArg _ hf, fun _ _ => ?_⟩
        exact ⟨id :: ids, List.mem_cons_self⟩

section Immediate

variable (immediate : app.defers = false)
include immediate

theorem reviewValidity_eq (s : Session) :
    s.reviewValidity app = { s with form := s.form.checkValidity } := by
  unfold reviewValidity
  rw [immediate]
  rfl

/-- Following a commit up ends with a review, or is cut short. -/
theorem followUp_truthful (s : Session) (ids : List String) :
    ∃ added, (s.followUp app ids).form.journal = added ++ s.form.journal ∧
      ((∀ ids, .cutShort ids ∉ added) → (s.followUp app ids).form.IsTruthful) := by
  obtain ⟨added, journal, failed⟩ := reconsiderAll_journal app s ids
  unfold followUp
  split
  · next t h =>
    rw [h] at journal
    rw [reviewValidity_eq immediate]
    exact ⟨added, journal, fun _ => t.form.checkValidity_isTruthful⟩
  · next t e h =>
    rw [h] at journal failed
    obtain ⟨cut, hc⟩ := failed e rfl
    exact ⟨added, journal, fun whole => absurd hc (whole cut)⟩

/-- A commit that succeeds leaves the form truthful, whatever it was before. -/
theorem commit_truthful {notify : Notifier} {share : Session → Session} {s : Session}
    {changes : Table Value} (h : (s.commit app notify share changes).2 = .ok ()) :
    (s.commit app notify share changes).1.form.IsTruthful := by
  unfold commit at h ⊢
  dsimp only at h ⊢
  split at h
  · next t ht =>
    dsimp only
    rw [reviewValidity_eq immediate]
    exact t.form.checkValidity_isTruthful
  · cases h

/-- Operations of all kinds keep a form excused, and so do the callbacks that they lead to. -/
theorem excused_accord (allowed : FormCommand → Prop) : Accord app allowed (StaysExcused app) where
  refl _ := staysExcused_of rfl id
  trans := StaysExcused.trans
  remembered _ _ _ _ _ := staysExcused_of rfl id
  noted _ _ _ := staysExcused_of rfl id
  calledBack _ _ _ _ _ _ := staysExcused_mark rfl fun h => h.congr ⟨rfl, rfl, rfl⟩ rfl rfl
  followedUp s t changes h := by
    obtain ⟨states, refreshed⟩ := Form.refresh_frame app.host changes.keys (s.form.put changes)
    obtain ⟨told, ht, -⟩ := h
    obtain ⟨added, journal, truthful⟩ := followUp_truthful immediate t changes.keys
    refine ⟨added ++ told ++ [.committed changes.keys], ?_, fun whole _ => ?_⟩
    · rw [journal, ht, refreshed, List.append_assoc, List.append_assoc]
      rfl
    · refine (truthful fun ids h => whole ids ?_).isExcused
      exact List.mem_append_left _ (List.mem_append_left _ h)
  tookOver s t _ h := by
    obtain ⟨added, journal, kept⟩ := h
    refine ⟨added, journal, fun whole excused => ?_⟩
    have before := excused.congr (g := { s.form with syncing := true }) ⟨rfl, rfl, rfl⟩ rfl rfl
    exact (kept whole before).congr ⟨rfl, rfl, rfl⟩ rfl rfl
  altered _ _ _ := staysExcused_of rfl id
  shared _ _ _ _ _ _ _ := staysExcused_of rfl id
  touched _ _ := staysExcused_of rfl fun h => h.congr ⟨rfl, rfl, rfl⟩ rfl rfl
  blurred s id checks := by
    obtain ⟨g, hg, h⟩ := Form.recheck_amended app.host s.form id
    refine staysExcused_of (Form.recheck_frame app.host s.form id).1 fun excused => ?_
    change (s.form.recheck app.host id).value.1.IsExcused app.host
    rcases h with h | ⟨messages, hm, h⟩
    · rw [h]
      exact excused.amended hg.of_field?
    · rw [h]
      exact excused.blamed checks hm
  probed s id := by
    have amended := Form.complaintsAt_amended app.host s.form id
    exact staysExcused_of amended.journal fun h => h.amended amended.of_field?
  checked s := by
    have amended := Form.complaints_amended app.host s.form
    exact staysExcused_of amended.journal fun h => h.amended amended
  settled s errors _ := staysExcused_mark rfl fun _ => (s.form.settle_isTruthful errors).isExcused
  reported s := by
    obtain ⟨reported, frame⟩ := s.form.report_frame
    rw [frame]
    exact staysExcused_of rfl fun h => h.congr ⟨rfl, rfl, rfl⟩ rfl rfl
  seeded s := staysExcused_mark rfl fun _ => (Form.seed_isTruthful app.host s.form).isExcused
  stored _ _ _ := staysExcused_of rfl id
  broke _ _ _ := staysExcused_of rfl id
  mounted _ _ := staysExcused_of rfl fun h => h.congr ⟨rfl, rfl, rfl⟩ rfl rfl
  listened s _ := staysExcused_of (congrArg Form.journal s.listen_form) fun h => s.listen_form ▸ h
  unmounted s _ _ := by
    refine staysExcused_mark (m := .unmounted) ?_ fun h => ?_
    · rw [detach_form]
      rfl
    · dsimp only
      rw [detach_form]
      exact h.congr ⟨rfl, rfl, rfl⟩ rfl rfl
  schemaSet s v parsed _ _ := staysExcused_mark rfl fun _ =>
    (Form.seed_isTruthful app.host { s.form with parsed := parsed }).isExcused
  snapshotSet s v values _ _ := by
    unfold Form.setSnapshot
    split
    · exact staysExcused_of rfl id
    · exact staysExcused_mark rfl fun _ => (Form.seed_isTruthful app.host _).isExcused

end Immediate

/-- Leaving a field makes a truthful form untruthful just if the field is checked, something is found, and
the form was taken to be valid. -/
theorem blur_truthful_iff {s : Session} (truthful : s.form.IsTruthful)
    (keeps : s.form.parsed.KeepsValues app.host) (calm : ∀ r ∈ s.reactions, r.occasion ≠ .blur)
    (id : String) : (s.blur app (notify app) id).1.form.IsTruthful ↔
      (s.form.validatesOnBlur = true → s.form.state.isValid = true → ∀ messages,
        (s.form.complaintsAt app.host id).value.2 = .ok messages → messages = []) := by
  let touched : Session := { s with form := s.form.touch id }
  obtain ⟨journal, events, told⟩ := notify_calm app (s := touched) (e := .blurred id)
    fun r hr same => calm r hr (Option.some.inj same).symm
  let left : Form := { touched.form with journal }
  have alike : s.form.Alike left := ⟨rfl, rfl, rfl⟩
  have kept : (left.complaintsAt app.host id).value.1 = left :=
    (Form.complaintsAt_amended app.host left id).of_field?.unaltered keeps
  have found : (left.complaintsAt app.host id).value.2 =
      (s.form.complaintsAt app.host id).value.2 := (alike.agrees app.host).complaintsAt keeps id
  unfold blur tell
  dsimp only
  rw [show (notify app touched (.blurred id)).1 = { touched with form := left, events } from told]
  cases checks : s.form.validatesOnBlur with
  | false =>
      have same : left.validatesOnBlur = false := checks
      simp only [same]
      exact ⟨fun _ h => (nomatch h), fun _ => truthful⟩
  | true =>
      have same : left.validatesOnBlur = true := checks
      simp only [same, if_true, forall_const]
      change (left.recheck app.host id).value.1.IsTruthful ↔ _
      unfold Form.recheck
      rw [Logged.value_bind]
      cases ho : (s.form.complaintsAt app.host id).value.2 with
      | error e =>
          rw [show (left.complaintsAt app.host id).value = (left, .error e) from
            Prod.ext kept (found.trans ho)]
          exact ⟨fun _ _ _ h => (nomatch h), fun _ => truthful⟩
      | ok messages =>
          rw [show (left.complaintsAt app.host id).value = (left, .ok messages) from
            Prod.ext kept (found.trans ho)]
          have filed : (left.setErrors id messages).IsTruthful ↔
              (left.state.isValid = true → messages = []) :=
            Form.setErrors_isTruthful_iff truthful
          refine filed.trans (forall_congr' fun _ => ?_)
          exact ⟨fun none _ h => Except.ok.inj h ▸ none, fun h => h messages rfl⟩

/-- Carries out commands one after the other. -/
def performAll (app : Application) (commands : List FormCommand) (s : Session) : Session :=
  commands.foldl (fun s c => (s.perform app c).1) s

/-- A validation that is not answered leaves the form truthful, whatever it was before. -/
theorem validate_truthful {s : Session} {errors : Complaints}
    (calm : ∀ r ∈ s.reactions, r.occasion ≠ .validation)
    (h : (s.validate app (notify app)).2 = .ok errors) :
    (s.validate app (notify app)).1.form.IsTruthful := by
  obtain ⟨f, journal, reported, events, -, validated⟩ := validate_files calm h
  rw [validated]
  exact fun valid => List.isEmpty_iff.mp valid

theorem begins_truthful {s : Session} (h : Begins app s) : s.form.IsTruthful := by
  obtain ⟨source, parsed, given, snapshot, state, reactions, -, -, rfl⟩ := h
  exact Form.seed_isTruthful app.host { parsed, snapshot }

/-- Commands of any kind keep a form excused. -/
theorem performAll_staysExcused (immediate : app.defers = false) (commands : List FormCommand)
    (s : Session) : StaysExcused app s (s.performAll app commands) := by
  have accord := excused_accord immediate fun _ => True
  induction commands generalizing s with
  | nil => exact accord.refl s
  | cons c commands ih =>
      have performed := (accord.performs s c trivial fun _ _ => trivial).1
      exact performed.trans (ih (s.perform app c).1)

/-- Where nothing waits for its turn, the verdict contradicts the complaints in one way only, apart from
commits that are cut short. To begin with there are no complaints. Whatever commands follow, the form is
not taken to be valid while it is complained of, unless fields are checked when they are left; then the
complaints are those that checks of the fields would find now. A change that succeeds ends this, and so
does a validation that is not answered. Leaving a field brings it about just if the field is checked and
found fault with while the form is taken to be valid. -/
theorem verdict_contradicted_by_blur (immediate : app.defers = false) :
    (∀ s, Begins app s → s.form.IsTruthful) ∧
    (∀ (s : Session) (commands : List FormCommand), s.form.IsTruthful →
      ∃ since, (s.performAll app commands).form.journal = since ++ s.form.journal ∧
        ((∀ ids, .cutShort ids ∉ since) →
          (s.performAll app commands).form.IsExcused app.host)) ∧
    (∀ (s : Session) id v, (s.change app (notify app) id v).2 = .ok () →
      (s.perform app (.change id v)).1.form.IsTruthful) ∧
    (∀ (s : Session) errors, (∀ r ∈ s.reactions, r.occasion ≠ .validation) →
      (s.validate app (notify app)).2 = .ok errors →
        (s.perform app .validate).1.form.IsTruthful) ∧
    ∀ (s : Session) id, s.form.IsTruthful → s.form.parsed.KeepsValues app.host →
      (∀ r ∈ s.reactions, r.occasion ≠ .blur) →
      ((s.perform app (.blur id)).1.form.IsTruthful ↔
        (s.form.validatesOnBlur = true → s.form.state.isValid = true → ∀ messages,
          (s.form.complaintsAt app.host id).value.2 = .ok messages → messages = [])) := by
  refine ⟨fun s => begins_truthful, fun s commands truthful => ?_, fun s id v h => ?_, ?_, ?_⟩
  · obtain ⟨since, journal, kept⟩ := performAll_staysExcused immediate commands s
    exact ⟨since, journal, fun whole => kept whole truthful.isExcused⟩
  · exact commit_truthful immediate h
  · intro s errors calm h
    exact validate_truthful calm h
  · intro s id truthful keeps calm
    exact blur_truthful_iff truthful keeps calm id

/-- A schema whose fields are checked when they are left. -/
def leavingSchema : FormSchema :=
  { FormSchema.demanding with validation := some ⟨.null, [], false, true, true⟩ }

/-- An application in which nothing waits for its turn. -/
def promptApplication : Application := { Application.content with defers := false }

/-- The field that lacks a value has been left. -/
def leftSession : Session :=
  (leavingSchema.begin promptApplication).performAll promptApplication [.blur "a"]

/-- The form is complained of as a check of the field has it, and it is taken to be valid. -/
theorem leftSession_excused : leftSession.form.state.isValid = true ∧
    leftSession.form.state.errors = [("a", ["a is required"])] ∧
    (leftSession.form.complaintsAt promptApplication.host "a").value.2 =
      .ok ["a is required"] := by
  have immediate : promptApplication.defers = false := rfl
  obtain ⟨begun, runs, -⟩ := verdict_contradicted_by_blur immediate
  have begins : Begins promptApplication (leavingSchema.begin promptApplication) :=
    FormSchema.begins (by decide +kernel)
  obtain ⟨since, journal, excused⟩ := runs _ [.blur "a"] (begun _ begins)
  have uncut : leftSession.form.journal = [.calledBack false, .reseeded] := rfl
  have valid : leftSession.form.state.isValid = true := by decide +kernel
  have errors : leftSession.form.state.errors = [("a", ["a is required"])] := by decide +kernel
  have complained : leftSession.form.state.errors ≠ [] := by simp [errors]
  have there : leftSession.form.state.errors.get? "a" = some ["a is required"] := by
    rw [errors]
    rfl
  refine ⟨valid, errors, (excused (fun ids h => ?_) valid complained).2 ?_ "a" _ there⟩
  · have noted : .cutShort ids ∈ leftSession.form.journal := by
      rw [show leftSession.form.journal = _ from journal]
      exact List.mem_append_left _ h
    simp [uncut] at noted
  · exact fun _ _ _ _ _ => rfl

/-- A form can be taken to be valid although it is complained of. -/
theorem left_field_belies_verdict : ¬ ∀ (app : Application) (s : Session)
    (commands : List FormCommand), app.defers = false → Begins app s →
      (s.performAll app commands).form.state.errors ≠ [] →
        (s.performAll app commands).form.state.isValid = false := by
  intro always
  have invalid := always promptApplication (leavingSchema.begin promptApplication) [.blur "a"] rfl
    (FormSchema.begins (by decide +kernel)) (by decide +kernel)
  have valid : leftSession.form.state.isValid = true := by decide +kernel
  exact Bool.noConfusion (valid.symm.trans invalid)

end Session

end FormEngine
