import FormEngine.Proofs.Form.Frame
import FormEngine.Proofs.Session.Reach

/-!
Invariants of a form together with what can be seen of its tasks. It is enough to look at the changes
of the form: what commands do to a session then keeps to the invariant, whatever tasks run meanwhile.
-/

namespace FormEngine

namespace Session

variable {τ : Type}

/-- What can be seen of the tasks of a session. -/
def seen (look : Task → Option τ) (s : Session) : List τ := s.agenda.tasks.filterMap look

theorem filterMap_cons_toList {α : Type} (look : α → Option τ) (x : α) (xs : List α) :
    (x :: xs).filterMap look = (look x).toList ++ xs.filterMap look := by
  rw [List.filterMap_cons]
  cases look x with
  | none => rfl
  | some t => rfl

/-- What is seen of the first job that is ready is seen of the rest no more. -/
theorem seen_ready (look : Task → Option τ) {s : Session} {job : Job} {ready : List Job}
    (h : s.agenda.ready = job :: ready) :
    s.seen look =
      (job.task?.bind look).toList ++ seen look { s with agenda.ready := ready } := by
  unfold seen
  rw [Agenda.tasks_ready h]
  cases job.task? with
  | none => rfl
  | some task => exact filterMap_cons_toList look task _

/-- An invariant is kept, whatever else is running. -/
def Keeps (look : Task → Option τ) (K : List τ → Form → Prop) (s t : Session) : Prop :=
  ∀ running, K (running ++ s.seen look) s.form → K (running ++ t.seen look) t.form

/-- An invariant that every change of a form keeps. -/
structure Upkeep (app : Application) (look : Task → Option τ) (K : List τ → Form → Prop) :
    Prop where
  perm {ts us f} : ts.Perm us → K ts f → K us f
  calledBack {ts f} : K ts f → K ts (f.mark (.calledBack f.state.isSubmitting))
  put {ts f} (changes : Table Value) :
    K ts f → K ts ((f.put changes).refresh app.host changes.keys).value
  cutShort {ts f} (ids) : K ts f → K ts (f.mark (.cutShort ids))
  superseded {ts f} (id) : f.asks id ≠ [] → K ts f → K ts (f.nextGeneration id).2
  /-- the new inquiry is seen -/
  inquired {ts f} (task id p) : f.parsed.field? id = some p → f.asks id ≠ [] → app.defers = true →
    K ts f →
    K ((look (.inquiry task ⟨p, (f.nextGeneration id).1, f.value id⟩ .begun)).toList ++ ts)
      ((f.nextGeneration id).2.mark (.inquired task id (f.value id)))
  weighed {ts f} : K ts f → K ts f.checkValidity
  syncing {ts f} (b) : K ts f → K ts { f with syncing := b }
  mounted {ts f} : K ts f → K ts { f with mounted := true }
  unmounted {ts f} : f.mounted = true → K ts f →
    K ts ({ f with mounted := false }.supersedeAll.mark .unmounted)
  touched {ts f} (id) : K ts f → K ts (f.touch id)
  amended {ts f g} : f.Amended app.host f.parsed.fields g → K ts f → K ts g
  blamed {ts f} (id messages) :
    (∃ g : Form, (g.complaintsAt app.host id).value = (f, .ok messages)) →
      K ts f → K ts (f.setErrors id messages)
  settled {ts f} (errors) : (∃ g : Form, (g.complaints app.host).value = (f, .ok errors)) →
    K ts f → K ts (f.settle errors)
  reported {ts f} : K ts f → K ts f.report.2
  /-- the state is made anew, perhaps for another schema or from another snapshot -/
  seeded {ts f} (parsed snapshot) :
    (parsed = f.parsed ∨ ∃ source, ParsedSchema.parse app.environment source = .ok parsed) →
    (snapshot = f.snapshot ∨ snapshot.keys.Nodup) → K ts f →
      K ts ({ f with parsed, snapshot }.seed app.host).value

namespace Upkeep

variable {app : Application} {look : Task → Option τ} {K : List τ → Form → Prop}
  (upkeep : Upkeep app look K)

/-- A change of the form alone. -/
theorem keeps_form {s : Session} {f : Form} (h : ∀ ts, K ts s.form → K ts f) :
    Keeps look K s { s with form := f } :=
  fun _ hs => h _ hs

theorem keeps_trans {s t u : Session} (h : Keeps look K s t) (h' : Keeps look K t u) :
    Keeps look K s u :=
  fun running hs => h' running (h running hs)

include upkeep

theorem keeps_recheck (s : Session) (id : String) : Keeps look K s (s.recheck app id).1 := by
  refine keeps_form (f := (s.form.recheck app.host id).value.1) fun ts hs => ?_
  obtain ⟨g, hg, h⟩ := Form.recheck_amended app.host s.form id
  have amended := upkeep.amended hg.of_field? hs
  rcases h with h | ⟨messages, hm, h⟩
  · rw [h]
    exact amended
  · rw [h]
    exact upkeep.blamed id messages ⟨s.form, hm⟩ amended

theorem keeps_inquire (s : Session) (id : String) : Keeps look K s (s.inquire app id) := by
  intro running hs
  unfold inquire
  split
  · exact hs
  · next p hp =>
    have rules : s.form.asks id = p.field.validation.elim [] FieldValidation.asyncRules := by
      unfold Form.asks
      rw [hp]
      rfl
    split
    · exact hs
    · next asked =>
      have asks : s.form.asks id ≠ [] := by
        rw [rules]
        simpa using asked
      dsimp only
      split
      · next defers =>
        have kept := upkeep.inquired s.agenda.nextTask id p hp asks defers hs
        refine upkeep.perm ?_ kept
        have tasks := (s.agenda.tasks_openInquiry
          ⟨p, (s.form.nextGeneration id).1, s.form.value id⟩).filterMap look
        rw [filterMap_cons_toList] at tasks
        refine .trans ?_ (.append_left running tasks.symm)
        rw [← List.append_assoc, ← List.append_assoc]
        exact .append_right _ List.perm_append_comm
      · exact upkeep.superseded id asks hs

theorem keeps_reconsiderAll (s : Session) (ids : List String) :
    Keeps look K s (s.reconsiderAll app ids).1 :=
  reconsiderAll_keeps (R := Keeps look K) (fun _ _ hs => hs) keeps_trans
    (fun s _ id _ => upkeep.keeps_recheck s id) (fun s id _ => upkeep.keeps_inquire s id)
    (fun _ _ => keeps_form fun _ => upkeep.cutShort _) s

/-- Commands of every kind keep an invariant that the changes of a form keep. -/
theorem law (allowed : FormCommand → Prop) : Law app allowed (Keeps look K) where
  refl _ _ hs := hs
  trans := keeps_trans
  remembered _ _ _ _ _ _ hs := hs
  noted _ _ _ _ hs := hs
  calledBack _ _ _ _ _ _ _ := upkeep.calledBack
  committed s t changes h := by
    refine keeps_trans (keeps_form fun _ => upkeep.put changes) (keeps_trans h ?_)
    exact upkeep.keeps_reconsiderAll t changes.keys
  weighed _ := keeps_form fun _ => upkeep.weighed
  deferred s running hs := by
    have same : seen look { s with agenda := s.agenda.add .checkValidity } = s.seen look := by
      unfold seen
      rw [Agenda.tasks_add_none _ _ rfl]
    rw [same]
    exact hs
  tookOver s t _ h := by
    refine keeps_trans (keeps_form fun _ => upkeep.syncing true) (keeps_trans h ?_)
    exact keeps_form fun _ => upkeep.syncing false
  altered _ _ _ _ hs := hs
  shared _ _ _ _ _ _ _ _ hs := hs
  touched _ id := keeps_form fun _ => upkeep.touched id
  rechecked := upkeep.keeps_recheck
  probed s id :=
    keeps_form fun _ => upkeep.amended (Form.complaintsAt_amended app.host s.form id).of_field?
  checked s := keeps_form fun _ => upkeep.amended (Form.complaints_amended app.host s.form)
  settled _ errors found := keeps_form fun _ => upkeep.settled errors found
  reported _ := keeps_form fun _ => upkeep.reported
  seeded s := keeps_form fun _ => upkeep.seeded s.form.parsed s.form.snapshot (.inl rfl) (.inl rfl)
  stored _ _ _ _ hs := hs
  broke _ _ _ _ hs := hs
  mounted _ _ := keeps_form fun _ => upkeep.mounted
  listened s _ running hs := by
    unfold listen
    split
    · exact hs
    · exact hs
  unmounted s _ mounted running hs := by
    unfold seen
    dsimp only
    rw [detach_form, detach_agenda]
    exact upkeep.unmounted mounted hs
  schemaSet s v parsed _ hp :=
    keeps_form fun _ => upkeep.seeded parsed s.form.snapshot (.inr ⟨_, hp⟩) (.inl rfl)
  snapshotSet s v values _ _ := by
    refine keeps_form fun ts hs => ?_
    unfold Form.setSnapshot
    split
    · exact hs
    · exact upkeep.seeded s.form.parsed _ (.inl rfl) (.inr (Table.nodup_keys_ofEntries _)) hs

end Upkeep

end Session

end FormEngine
