import FormEngine.Proofs.Form.Faults
import FormEngine.Proofs.Session.Lockstep
import FormEngine.Proofs.Session.Restore

/-!
Which faults escape from the commands of a form. What callbacks raise is contained, and so is what goes
wrong with the store. What remains are the rules that the schema gives explicitly. The rules of a schema
stay what they are as long as no other schema is set, so that the fault of a command is due to a rule of
the schema with which the form was made.
-/

namespace FormEngine

/-- What is to be set is a mapping, or can be made one. -/
def FormCommand.GivesMapping : FormCommand → Prop
  | .setValues v => v.truthy = true → ∃ entries, Construct.record v = .ok entries
  | .setSnapshot v => ∃ entries, Construct.record v = .ok entries
  | _ => True

namespace Session

variable {app : Application}

/-- The rules of the schema are the same. -/
def KeepsRules (s t : Session) : Prop := t.form.parsed.compiledRules = s.form.parsed.compiledRules

theorem recheck_keepsRules (app : Application) (s : Session) (id : String) :
    KeepsRules s (s.recheck app id).1 := by
  obtain ⟨g, amended, h | ⟨messages, -, h⟩⟩ := Form.recheck_amended app.host s.form id
  · exact (congrArg (fun f : Form => f.parsed.compiledRules) h).trans amended.compiledRules
  · exact (congrArg (fun f : Form => f.parsed.compiledRules) h).trans amended.compiledRules

theorem inquire_keepsRules (app : Application) (s : Session) (id : String) :
    KeepsRules s (s.inquire app id) := by
  unfold inquire
  split
  · exact rfl
  · split
    · exact rfl
    · dsimp only
      split <;> exact rfl

theorem KeepsRules.trans {s t u : Session} (h : KeepsRules s t) (h' : KeepsRules t u) :
    KeepsRules s u :=
  Eq.trans h' h

theorem reconsider_keepsRules (app : Application) (s : Session) (id : String) :
    KeepsRules s (s.reconsider app id).1 := by
  unfold reconsider
  cases s.form.validatesOnChange with
  | false => exact inquire_keepsRules app s id
  | true =>
    have checked := recheck_keepsRules app s id
    simp only [if_true]
    split
    · exact checked.trans (inquire_keepsRules app _ id)
    · exact checked

theorem reconsiderAll_keepsRules (app : Application) (s : Session) (ids : List String) :
    KeepsRules s (s.reconsiderAll app ids).1 :=
  reconsiderAll_keeps (R := KeepsRules) (fun _ => rfl) KeepsRules.trans
    (fun s _ id _ => recheck_keepsRules app s id) (fun s id _ => inquire_keepsRules app s id)
    (fun _ _ => rfl) s

theorem put_keepsRules (host : Host) (s : Session) (changes : Table Value) :
    KeepsRules s { s with form := ((s.form.put changes).refresh host changes.keys).value } := by
  obtain ⟨states, frame⟩ := Form.refresh_frame host changes.keys (s.form.put changes)
  unfold KeepsRules
  rw [frame]
  rfl

/-- Unless another schema is set, the rules stay what they are. -/
theorem rules_course (app : Application) : Course app (Ordinary true false) KeepsRules where
  refl _ := rfl
  trans := KeepsRules.trans
  remembered _ _ _ _ _ := rfl
  noted _ _ _ := rfl
  calledBack _ _ _ _ _ _ := rfl
  committed s t changes h := by
    have put : KeepsRules s t := (put_keepsRules app.host s changes).trans h
    exact put.trans (reconsiderAll_keepsRules app t changes.keys)
  weighed _ := rfl
  deferred _ := rfl
  tookOver _ _ _ h := h
  altered _ _ _ := rfl
  shared _ _ _ _ _ _ _ := rfl
  touched _ _ := rfl
  rechecked s id := recheck_keepsRules app s id
  probed s id := (Form.complaintsAt_amended app.host s.form id).compiledRules
  checked s := (Form.complaints_amended app.host s.form).compiledRules
  settled _ _ _ := rfl
  reported s := by
    obtain ⟨reported, frame⟩ := s.form.report_frame
    unfold KeepsRules
    rw [frame]
  seeded s := rfl
  stored _ _ allowed := allowed.elim
  broke _ _ allowed := allowed.elim
  mounted _ _ := rfl
  listened s _ := congrArg (fun f : Form => f.parsed.compiledRules) s.listen_form
  unmounted s _ _ := by
    have left := congrArg (fun f : Form => f.parsed.compiledRules)
      (detach_form { s with form.mounted := false })
    exact left
  schemaSet _ _ _ allowed _ := by cases allowed
  snapshotSet s v values _ _ := by
    unfold KeepsRules Form.setSnapshot
    split <;> rfl
  arranged _ _ _ := rfl
  accepted _ _ _ := rfl
  handed _ _ _ := rfl
  ended s id epoch fault := by
    obtain ⟨submitting, frame⟩ :=
      Form.endSubmission_frame id epoch { s.form with submitFault := fault }
    unfold KeepsRules
    rw [frame]
    rfl

/-- The outcome of a command, if it is a fault, is one of a rule of the schema. -/
def Raised (app : Application) {α : Type} (s : Session) (outcome : Except Fault α) : Prop :=
  RaisesOnly (s.form.parsed.Raises app.host) outcome

/-- Faults that are due to the rules of what a session has become are due to its own. -/
theorem Raised.of_keepsRules {α : Type} {s t : Session} {outcome : Except Fault α}
    (kept : KeepsRules s t) (h : t.Raised app outcome) : s.Raised app outcome := by
  unfold Raised ParsedSchema.Raises at h ⊢
  rwa [kept] at h

theorem recheck_raised (app : Application) (s : Session) (id : String) :
    s.Raised app (s.recheck app id).2 :=
  Form.recheck_raises app.host s.form id

theorem reconsider_raised (app : Application) (s : Session) (id : String) :
    s.Raised app (s.reconsider app id).2 := by
  unfold reconsider
  cases s.form.validatesOnChange with
  | false => exact .ok _
  | true =>
    have checked := recheck_raised app s id
    simp only [if_true]
    split
    · exact .ok _
    · next e h =>
      rw [h] at checked
      exact .error (checked e rfl)

theorem reconsiderAll_raised (app : Application) (s : Session) (ids : List String) :
    s.Raised app (s.reconsiderAll app ids).2 := by
  induction ids generalizing s with
  | nil => exact .ok _
  | cons id ids ih =>
    have kept := reconsider_keepsRules app s id
    have first := reconsider_raised app s id
    rw [reconsiderAll]
    split
    · next t h =>
      rw [h] at kept
      exact (ih t).of_keepsRules kept
    · next t e h =>
      rw [h] at first
      exact .error (first e rfl)

section Commands

variable {notify : Notifier} (obeys : Obeys (Ordinary true false) KeepsRules notify)
include obeys

theorem commit_raised {share : Session → Session}
    (shares : ∀ s, Follows (Ordinary true false) KeepsRules s (share s)) {s : Session}
    (tame : s.Tame (Ordinary true false)) (changes : Table Value) :
    s.Raised app (s.commit app notify share changes).2 := by
  let put := s.become ((s.form.put changes).refresh app.host changes.keys)
  obtain ⟨told, tame⟩ := obeys put (.changed put.form.state.values) trivial tame
  obtain ⟨shared, -⟩ := shares (put.tell notify (.changed put.form.state.values)) tame
  have kept : KeepsRules s _ := (put_keepsRules app.host s changes).trans (KeepsRules.trans told shared)
  have reconsidered := (reconsiderAll_raised app _ changes.keys).of_keepsRules kept
  unfold commit
  dsimp only
  split
  · exact .ok _
  · next t e h =>
    rw [h] at reconsidered
    exact .error (reconsidered e rfl)

theorem takeOver_raised {s : Session} (tame : s.Tame (Ordinary true false)) (values : Value) :
    s.Raised app (s.takeOver app notify values).2 := by
  unfold takeOver
  dsimp only
  split
  · exact .ok _
  · exact commit_raised (s := { s with form.syncing := true }) obeys
      (rules_course app).follows_refl tame (s.form.differing (Form.namedEntries values))

theorem setValues_raised {s : Session} (tame : s.Tame (Ordinary true false)) {v : Value}
    (mapping : v.truthy = true → ∃ entries, Construct.record v = .ok entries) :
    s.Raised app (s.setValues app notify v).2 := by
  unfold setValues
  split
  · exact .ok _
  · next given =>
    obtain ⟨entries, reads⟩ := mapping (by simpa using given)
    rw [reads]
    exact commit_raised obeys ((rules_course app).follows_share obeys) tame _

theorem blur_raised {s : Session} (tame : s.Tame (Ordinary true false)) (id : String) :
    s.Raised app (s.blur app notify id).2 := by
  have told : KeepsRules s (tell notify { s with form := s.form.touch id } (.blurred id)) :=
    (obeys { s with form := s.form.touch id } (.blurred id) trivial tame).1
  unfold blur
  dsimp only
  split
  · exact (recheck_raised app _ id).of_keepsRules told
  · exact .ok _

omit obeys in
theorem validate_raised (s : Session) : s.Raised app (s.validate app notify).2 := by
  have checked : s.Raised app _ := Form.complaints_raises app.host s.form
  unfold validate note
  dsimp only
  split
  · next e h =>
    rw [h] at checked
    exact .error (checked e rfl)
  · exact .ok _

/-- What goes wrong with the store is contained; only taking its values over can fail. -/
theorem mount_raised {s : Session} (tame : s.Tame (Ordinary true false)) :
    s.Raised app (s.mount app notify).2 := by
  have attached (link : StoreLink) :
      s.Raised app ({ s with form.mounted := true }.attach app notify link).2 := by
    unfold attach note
    split
    · exact .ok _
    · split
      · exact .ok _
      · dsimp only
        cases (link.view.read app.host { s with form.mounted := true }.store.state).value with
        | error e => exact .ok _
        | ok values =>
          have taken : s.Raised app _ := takeOver_raised (s := { s with
            form.mounted := true
            events := s.events ++ (link.view.read app.host s.store.state).events }) obeys tame values
          dsimp only [Except.map]
          split
          · next t e h =>
            rw [Except.ok.inj h] at taken
            exact .error (taken e rfl)
          · exact .ok _
          · exact .ok _
  unfold mount
  split
  · exact .ok _
  · dsimp only
    cases app.link with
    | none => exact .ok _
    | some link =>
      have attached := attached link
      dsimp only
      split
      · exact .ok _
      · next e h =>
        rw [h] at attached
        exact .error (attached e rfl)

end Commands

/-- A command that escapes with a fault was given what is no mapping, or met a rule that raises. -/
theorem perform_raised {s : Session} (tame : s.Tame (Ordinary true false)) {command : FormCommand}
    (ordinary : Ordinary true false command) (mapping : command.GivesMapping) :
    s.Raised app (s.perform app command).2 := by
  have obeys := notify_obeys (rules_course app).toLaw
  cases command with
  | change id v =>
    exact (commit_raised obeys ((rules_course app).follows_share obeys) tame [(id, v)]).map
  | setValues v => exact (setValues_raised obeys tame mapping).map
  | blur id => exact (blur_raised obeys tame id).map
  | focus id => exact .ok _
  | validate => exact (validate_raised s).map
  | validateField id => exact (Form.complaintsAt_raises app.host s.form id).map
  | reset => exact .ok _
  | mount => exact (mount_raised obeys tame).map
  | unmount => exact .ok _
  | setSchema v => cases ordinary
  | setSnapshot v =>
    obtain ⟨entries, reads⟩ := mapping
    have set : (s.setSnapshot app v).2 = .ok () := by
      unfold setSnapshot
      rw [reads]
    have performed : (s.perform app (.setSnapshot v)).2 =
      (s.setSnapshot app v).2.map fun _ => FormAnswer.nothing := rfl
    rw [performed, set]
    exact .ok _
  | render => exact .ok _
  | look => exact .ok _
  | handle id name arguments => exact ordinary.elim
  | setStore v => exact ordinary.elim
  | breakStore operations => exact ordinary.elim

/-- A move is among the orders of steps that a session can lead to. -/
theorem Leads.play {mounts parses : Bool} {s : Session} {move : Move}
    (ordinary : move.Ordinary mounts parses) :
    Leads app (Ordinary mounts parses) s (s.play app move).1 := by
  cases move with
  | command command => exact Leads.refl.command command ordinary
  | submit => exact (Leads.refl.submission s.submissions).join s.openSubmission.1
  | begin => exact Leads.refl.submission _
  | pause span => exact Leads.refl.waited span

/-- What moves give is a mapping where it has to be one. -/
def Move.GivesMapping : Move → Prop
  | .command c => c.GivesMapping
  | .submit | .begin | .pause _ => True

end Session

end FormEngine
