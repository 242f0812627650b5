import FormEngine.Proofs.Form.History
import FormEngine.Proofs.Session.Supersession

/-!
The accounts of submissions and pauses: which of them wait for a turn, what came of those that ended,
and what the journal tells of them. Only their own turns move these accounts; commands, inquiries and
callbacks leave them as they are.
-/

namespace FormEngine

/-- What a milestone tells of a submission: that it was accepted, or the values that it handed over. -/
def Milestone.entry? : Milestone → Option (Nat × Option (Table Value))
  | .accepted id _ => some (id, none)
  | .handed id values => some (id, some values)
  | _ => none

/-- What a journal tells of submissions, the latest first. -/
def tally (journal : List Milestone) : List (Nat × Option (Table Value)) :=
  journal.filterMap Milestone.entry?

/-- The submission of a task with its stage, or else its pause. -/
def Task.errand? : Task → Option (Nat × Option SubmissionStage)
  | .submission id stage => some (id, some stage)
  | .pause id => some (id, none)
  | .inquiry .. => none

namespace Session

variable {app : Application}

/-- From one session to another some errands come to wait, some end, and some entries are made. -/
structure Moves (waiting : List (Nat × Option SubmissionStage)) (ended : List (Nat × Bool))
    (entries : List (Nat × Option (Table Value))) (s t : Session) : Prop where
  errands : (t.seen Task.errand?).Perm (waiting ++ s.seen Task.errand?)
  outcomes : t.agenda.outcomes = s.agenda.outcomes ++ ended
  tally : tally t.form.journal = entries ++ tally s.form.journal
  nextTask : s.agenda.nextTask ≤ t.agenda.nextTask
  calm : s.reactions = [] → t.reactions = []

/-- From one session to another nothing happens to the accounts. -/
abbrev Aside : Session → Session → Prop := Moves [] [] []

namespace Moves

variable {waiting more : List (Nat × Option SubmissionStage)} {ended later : List (Nat × Bool)}
  {entries others : List (Nat × Option (Table Value))} {s t u : Session}

theorem trans (h : Moves waiting ended entries s t) (h' : Moves more later others t u) :
    Moves (more ++ waiting) (ended ++ later) (others ++ entries) s u where
  errands := by
    rw [List.append_assoc]
    exact h'.errands.trans (.append_left more h.errands)
  outcomes := by rw [h'.outcomes, h.outcomes, List.append_assoc]
  tally := by rw [h'.tally, h.tally, List.append_assoc]
  nextTask := Nat.le_trans h.nextTask h'.nextTask
  calm calm := h'.calm (h.calm calm)

/-- Whatever happens aside before or after does not count. -/
theorem aside_trans (h : Aside s t) (h' : Moves more later others t u) :
    Moves more later others s u := by
  have whole := h.trans h'
  rw [List.append_nil, List.append_nil, List.nil_append] at whole
  exact whole

theorem trans_aside (h : Moves waiting ended entries s t) (h' : Aside t u) :
    Moves waiting ended entries s u := by
  have whole := h.trans h'
  rw [List.append_nil] at whole
  exact whole

/-- A task that goes to sleep waits. -/
theorem slept (s : Session) (span : Span) (task : Task) :
    Moves task.errand?.toList [] [] s { s with agenda := s.agenda.sleep span task } where
  errands := by
    rw [seen, seen, ← filterMap_cons_toList]
    exact (s.agenda.tasks_sleep span task).filterMap Task.errand?
  outcomes := by
    unfold Agenda.sleep
    split <;> exact (List.append_nil _).symm
  tally := rfl
  nextTask := by
    unfold Agenda.sleep
    split <;> exact Nat.le_refl _
  calm calm := calm

end Moves

namespace Aside

variable {s t : Session}

/-- A change that leaves the tasks and the outcomes alone, and of the journal what it tells of
submissions. -/
theorem of (tasks : t.agenda.tasks = s.agenda.tasks)
    (outcomes : t.agenda.outcomes = s.agenda.outcomes)
    (nextTask : t.agenda.nextTask = s.agenda.nextTask) (reactions : t.reactions = s.reactions)
    (entries : tally t.form.journal = tally s.form.journal) : Aside s t where
  errands := by
    unfold seen
    rw [tasks]
    exact .refl _
  outcomes := by rw [outcomes, List.append_nil]
  tally := entries
  nextTask := Nat.le_of_eq nextTask.symm
  calm calm := reactions.trans calm

/-- A change of the form alone, which adds to the journal at most what tells nothing of submissions. -/
theorem form {f : Form} (entries : tally f.journal = tally s.form.journal) :
    Aside s { s with form := f } :=
  .of rfl rfl rfl rfl entries

/-- A change of the agenda alone that moves no errand. -/
theorem agenda {a : Agenda}
    (errands : (a.tasks.filterMap Task.errand?).Perm (s.seen Task.errand?))
    (outcomes : a.outcomes = s.agenda.outcomes) (nextTask : s.agenda.nextTask ≤ a.nextTask) :
    Aside s { s with agenda := a } where
  errands := errands
  outcomes := by rw [outcomes, List.append_nil]
  tally := rfl
  nextTask := nextTask
  calm calm := calm

theorem refl (s : Session) : Aside s s := .of rfl rfl rfl rfl rfl

theorem inquire (s : Session) (id : String) : Aside s (s.inquire app id) := by
  unfold Session.inquire
  split
  · exact refl s
  · split
    · exact refl s
    · dsimp only
      split
      · refine (Aside.form (s := s) ?_).trans_aside (agenda ?_ rfl (Nat.le_succ _))
        · rfl
        · exact (s.agenda.tasks_openInquiry _).filterMap Task.errand?
      · exact .form rfl

theorem recheck (s : Session) (id : String) : Aside s (s.recheck app id).1 := by
  have journal : (s.recheck app id).1.form.journal = s.form.journal :=
    (Form.recheck_frame app.host s.form id).1
  exact .of rfl rfl rfl rfl (congrArg FormEngine.tally journal)

theorem forgot (s : Session) (job : Job) (h : job.task? = none) :
    Aside s { s with agenda := s.agenda.add job } := by
  refine agenda ?_ rfl (Nat.le_refl _)
  rw [Agenda.tasks_add_none _ _ h]
  exact .refl _

theorem amended {ps : List ParsedField} {f : Form} (h : s.form.Amended app.host ps f) :
    Aside s { s with form := f } :=
  .form (congrArg FormEngine.tally h.journal)

/-- Whatever the application commands leaves the accounts alone. -/
theorem law (app : Application) (allowed : FormCommand → Prop) : Law app allowed Aside where
  refl := refl
  trans := Moves.trans_aside
  remembered s _ _ _ sub := { refl s with
    calm := fun calm => List.sublist_nil.mp (calm ▸ sub) }
  noted _ _ _ := .of rfl rfl rfl rfl rfl
  calledBack _ _ _ _ _ _ := .of rfl rfl rfl rfl rfl
  committed s t changes h := by
    have put : Aside s { s with
        form := ((s.form.put changes).refresh app.host changes.keys).value } := by
      obtain ⟨states, frame⟩ := Form.refresh_frame app.host changes.keys (s.form.put changes)
      rw [frame]
      exact .form rfl
    refine put.trans_aside (h.trans_aside ?_)
    exact reconsiderAll_keeps refl Moves.trans_aside (fun s _ id _ => recheck s id)
      (fun s id _ => inquire s id) (fun _ _ => .form rfl) t
  weighed _ := .form rfl
  deferred s := forgot s .checkValidity rfl
  tookOver s t _ h := by
    have began : Aside s { s with form.syncing := true } := .form rfl
    have ended : Aside t { t with form.syncing := false } := .form rfl
    exact (began.trans_aside h).trans_aside ended
  altered _ _ _ := .of rfl rfl rfl rfl rfl
  shared _ _ _ _ _ _ _ := .of rfl rfl rfl rfl rfl
  touched _ _ := .form rfl
  rechecked := recheck
  probed s id := amended (Form.complaintsAt_amended app.host s.form id)
  checked s := amended (Form.complaints_amended app.host s.form)
  settled _ _ _ := .form rfl
  reported s := by
    obtain ⟨reported, frame⟩ := s.form.report_frame
    rw [frame]
    exact .form rfl
  seeded _ := .form rfl
  stored _ _ _ := .of rfl rfl rfl rfl rfl
  broke _ _ _ := .of rfl rfl rfl rfl rfl
  mounted _ _ := .form rfl
  listened s _ := by
    unfold listen
    split
    · exact refl s
    · exact .of rfl rfl rfl rfl rfl
  unmounted s _ _ := by
    unfold detach
    dsimp only
    split
    · exact .of rfl rfl rfl rfl rfl
    · exact .of rfl rfl rfl rfl rfl
  schemaSet _ _ _ _ _ := .form rfl
  snapshotSet s _ values _ _ := by
    unfold Form.setSnapshot
    split
    · exact refl s
    · exact .form rfl

theorem follows {s t : Session} (h : Follows (fun _ => True) Aside s t) : Aside s t :=
  (h fun _ _ => trivial).1

theorem notify (s : Session) (e : Event) : Aside s (notify app s e).1 :=
  follows (notify_obeys (law app _) s e (Event.arises e))

theorem perform (s : Session) (c : FormCommand) : Aside s (s.perform app c).1 :=
  follows (perform_follows (law app _) s c trivial)

theorem validate (s : Session) : Aside s (s.validate app (Session.notify app)).1 :=
  follows ((law app _).follows_validate (notify_obeys (law app _)) s)

theorem reset (s : Session) : Aside s (s.reset app (Session.notify app)) :=
  follows ((law app _).follows_reset (notify_obeys (law app _)) s)

/-- An inquiry that takes its turn leaves the accounts alone. -/
theorem inquireOn (s : Session) (id : Nat) (q : Inquiry) (stage : InquiryStage) :
    Aside s (s.inquireOn app id q stage) := by
  have inquiring : Inquiring app q (fun _ => True) (fun _ => True) Aside := {
    silent := trivial
    told := fun _ _ => trivial
    trans := Moves.trans_aside
    noted := fun _ _ _ => .of rfl rfl rfl rfl rfl
    asked := fun _ _ _ _ => .form rfl
    amended := fun s _ _ v _ _ _ => by
      obtain ⟨values, parsed, hf, -⟩ := Form.amend_frame q.field.id v s.form
      rw [hf]
      exact .form rfl
    complained := fun _ _ _ _ _ _ _ => .form rfl
    slept := fun s span id v stage _ => Moves.slept s span (.inquiry id { q with value := v } stage)
    forgot := fun s id => forgot s (.forget id) rfl }
  exact inquiring.follows_inquireOn id trivial (fun _ _ => trivial) s

end Aside

end Session

end FormEngine
