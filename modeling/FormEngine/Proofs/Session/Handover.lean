import FormEngine.Proofs.Except
import FormEngine.Proofs.Session.Errands
import FormEngine.Proofs.Session.Validation

/-!
Only validated data is submitted. A submission that is accepted is validated in its first turn, and in
the same turn its values are handed over, unless something was found wrong. The handler may run in a
later turn; with it the submission ends. What it returns follows from the form in which it was accepted.
-/

namespace FormEngine

/-- The form as the check leaves it with which a submission begins, and what is found wrong. -/
def Form.checked (host : Host) (f : Form) : Form × Except Fault Complaints :=
  if f.validatesOnSubmit then (f.complaints host).value else (f, .ok [])

/-- The values that a form hands over: those that were checked, if nothing was found wrong. -/
def Form.admitted? (host : Host) (f : Form) : Option (Table Value) :=
  match f.checked host with
  | (g, .ok []) => some g.resolved
  | _ => none

/-- What the application makes of values that are handed to it. -/
def Application.handled (app : Application) (values : Table Value) : Except Fault Unit :=
  if app.raises .submit then .error (.runtime Occasion.submit.word)
  else
    match app.handler with
    | none => .ok ()
    | some handler => (app.host.run handler [.record values]).outcome.map fun _ => ()

/-- Whether the handler takes its time over values that are handed to it. -/
def Application.takesTime (app : Application) (values : Table Value) : Bool :=
  !app.raises .submit && app.handler.any fun handler =>
    handler.isDeferred && !(app.host.delay handler [.record values]).isZero

/-- Whether a form is submitted with success. -/
def Form.succeeds (app : Application) (f : Form) : Bool :=
  match f.admitted? app.host with
  | none => false
  | some values => !app.hears .submit || (app.handled values).isOk

/-- What a form hands over to the application, if that wants to hear of it. -/
def Form.handing (app : Application) (f : Form) : List (Table Value) :=
  if app.hears .submit then (f.admitted? app.host).toList else []

namespace Form

end Form

namespace Session

variable {app : Application}

theorem tally_endSubmission (id epoch : Nat) (f : Form) :
    tally (f.endSubmission id epoch).journal = tally f.journal := by
  obtain ⟨submitting, frame⟩ := Form.endSubmission_frame id epoch f
  rw [frame]
  rfl

theorem conclude_moves (s : Session) (id : Nat) (ok : Bool) :
    Moves [] [(id, ok)] [] s (s.conclude id ok) :=
  ⟨.refl _, rfl, rfl, Nat.le_refl _, fun calm => calm⟩

theorem abandon_moves (s : Session) (id epoch : Nat) (cause : Option Fault) :
    Moves [] [(id, false)] [] s (s.abandon id epoch cause) :=
  have ended : Aside s { s with form :=
      { s.form with submitFault := cause.or s.form.submitFault }.endSubmission id epoch } :=
    .form (tally_endSubmission id epoch _)
  ended.aside_trans (conclude_moves _ id false)

theorem complete_moves (s : Session) (id epoch : Nat) :
    Moves [] [(id, true)] [] s (s.complete app (notify app) id epoch) := by
  have ended : Aside s { s with form := s.form.endSubmission id epoch } :=
    .form (tally_endSubmission id epoch _)
  unfold complete
  dsimp only
  split
  · exact ended.aside_trans ((Aside.reset _).aside_trans (conclude_moves _ id true))
  · exact ended.aside_trans (conclude_moves _ id true)

/-- The end of a submission whose handler has been run. -/
def close (app : Application) (id epoch : Nat) (s : Session) : Except Fault Unit → Session
  | .ok _ => s.complete app (notify app) id epoch
  | .error e => s.abandon id epoch (some e)

theorem close_moves (s : Session) (id epoch : Nat) (outcome : Except Fault Unit) :
    Moves [] [(id, outcome.isOk)] [] s (s.close app id epoch outcome) := by
  cases outcome with
  | ok _ => exact complete_moves s id epoch
  | error e => exact abandon_moves s id epoch (some e)

theorem handIn_eq (s : Session) (id epoch : Nat) (handler : Callable) (values : Table Value) :
    s.handIn app (notify app) id epoch handler values =
      { s with events := s.events ++ (app.host.run handler [.record values]).events }.close app
        id epoch ((app.host.run handler [.record values]).outcome.map fun _ => ()) := by
  unfold handIn
  dsimp only
  cases (app.host.run handler [.record values]).outcome with
  | ok _ => rfl
  | error e => rfl

/-- The handler decides what a submission returns. -/
theorem handIn_moves (app : Application) (s : Session) (id epoch : Nat) (handler : Callable)
    (values : Table Value) :
    Moves [] [(id, (app.host.run handler [.record values]).outcome.isOk)] [] s
      (s.handIn app (notify app) id epoch handler values) := by
  have noted : Aside s { s with
      events := s.events ++ (app.host.run handler [.record values]).events } :=
    .of rfl rfl rfl rfl rfl
  rw [handIn_eq, ← Except.isOk_map _ fun _ => ()]
  exact noted.aside_trans (close_moves _ id epoch _)

/-- An application that answers no callback raises or not when values are handed to it. -/
theorem notify_submitted {s : Session} (calm : s.reactions = []) (hears : app.hears .submit = true)
    (values : Table Value) : (notify app s (.submitted values)).2 =
      if app.raises .submit then .error (.runtime Occasion.submit.word) else .ok () := by
  have heard : (Event.submitted values).occasion?.filter app.hears = some .submit :=
    Option.filter_eq_some_iff.mpr ⟨rfl, hears⟩
  unfold notify callBack
  rw [heard, calm]
  rfl

/-- Values that are handed over either are dealt with at once, or wait for a handler that takes its
time. -/
theorem handOver_eq {s : Session} (calm : s.reactions = []) (hears : app.hears .submit = true)
    (id epoch : Nat) (values : Table Value) :
    ∃ events,
      let told : Session := { (notify app { s with form := s.form.mark (.handed id values) }
        (.submitted values)).1 with events }
      (app.takesTime values = false ∧ s.handOver app (notify app) id epoch values =
          told.close app id epoch (app.handled values)) ∨
        app.takesTime values = true ∧
          ∃ handler, app.handler = some handler ∧ app.raises .submit = false ∧
            s.handOver app (notify app) id epoch values = { told with
              agenda := told.agenda.sleep (app.host.delay handler [.record values])
                (.submission id (.handing epoch handler values)) } := by
  have raised := notify_submitted (s := { s with form := s.form.mark (.handed id values) })
    calm hears values
  unfold handOver Application.takesTime Application.handled
  dsimp only
  rw [raised]
  cases app.raises .submit with
  | true => exact ⟨_, .inl ⟨rfl, rfl⟩⟩
  | false =>
      cases app.handler with
      | none => exact ⟨_, .inl ⟨rfl, rfl⟩⟩
      | some handler =>
          simp only [Bool.false_eq_true, if_false, Option.any_some, Bool.not_false, Bool.true_and]
          split
          · next quick =>
            have negated : ∀ deferred zero : Bool,
                (!deferred || zero) = true → (deferred && !zero) = false := by decide
            exact ⟨_, .inl ⟨negated _ _ quick, handIn_eq _ id epoch handler values⟩⟩
          · next slow =>
            have negated : ∀ deferred zero : Bool,
                ¬ (!deferred || zero) = true → (deferred && !zero) = true := by decide
            exact ⟨_, .inr ⟨negated _ _ slow, handler, rfl, trivial, rfl⟩⟩

theorem handOver_moves {s : Session} (calm : s.reactions = []) (hears : app.hears .submit = true)
    (id epoch : Nat) (values : Table Value) :
    Moves [] [(id, (app.handled values).isOk)] [(id, some values)] s
        (s.handOver app (notify app) id epoch values) ∨
      ∃ handler, app.handler = some handler ∧ app.raises .submit = false ∧
        Moves [(id, some (.handing epoch handler values))] [] [(id, some values)] s
          (s.handOver app (notify app) id epoch values) := by
  have told (events) : Moves [] [] [(id, some values)] s { (notify app
      { s with form := s.form.mark (.handed id values) } (.submitted values)).1 with events } := by
    have entered : Moves [] [] [(id, some values)] s
        { s with form := s.form.mark (.handed id values) } :=
      ⟨.refl _, (List.append_nil _).symm, rfl, Nat.le_refl _, fun calm => calm⟩
    exact (entered.trans_aside (Aside.notify _ _)).trans_aside (.of rfl rfl rfl rfl rfl)
  obtain ⟨events, ⟨-, h⟩ | ⟨-, handler, hh, raises, h⟩⟩ :=
    handOver_eq calm hears id epoch values
  · rw [h]
    exact .inl ((told events).trans (close_moves _ id epoch _))
  · rw [h]
    exact .inr ⟨handler, hh, raises, (told events).trans
      (Moves.slept _ _ (.submission id (.handing epoch handler values)))⟩

/-- A submission that comes while another is in flight is refused. -/
theorem submit_refused {s : Session} (busy : s.form.state.isSubmitting = true) (id : Nat) :
    Moves [] [(id, false)] [] s (s.submit app (notify app) id) := by
  unfold submit
  rw [if_pos busy]
  exact conclude_moves s id false

/-- The check with which a submission begins. -/
def checkIn (app : Application) (s : Session) : Session × Except Fault Complaints :=
  if s.form.validatesOnSubmit then s.validate app (notify app) else (s, .ok [])

theorem submit_eq {s : Session} (idle : s.form.state.isSubmitting = false) (id : Nat) :
    s.submit app (notify app) id =
      let checked := checkIn app { s with form := s.form.beginSubmission id }
      match checked.2 with
      | .error e => checked.1.abandon id s.form.epoch (some e)
      | .ok errors =>
        if !errors.isEmpty then checked.1.abandon id s.form.epoch none
        else if app.hears .submit then
          checked.1.handOver app (notify app) id s.form.epoch checked.1.form.resolved
        else checked.1.complete app (notify app) id s.form.epoch := by
  unfold submit
  rw [if_neg (Bool.eq_false_iff.mp idle)]
  rfl

theorem checkIn_aside (app : Application) (s : Session) : Aside s (checkIn app s).1 := by
  unfold checkIn
  split
  · exact .validate s
  · exact .refl s

/-- The check leaves the form as it is checked, apart from what it tells of complaints. -/
theorem checkIn_calm (app : Application) {s : Session} (calm : s.reactions = []) :
    ∃ events journal reported errors isValid, checkIn app s =
      ({ s with events, form := { (s.form.checked app.host).1 with
          journal, reported
          state := { (s.form.checked app.host).1.state with errors, isValid } } },
        (s.form.checked app.host).2) := by
  unfold checkIn Form.checked
  split
  · obtain ⟨fails, succeeds⟩ := validate_calm app (s := s)
      (f := (s.form.complaints app.host).value.1) (by simp [calm])
    rcases hc : (s.form.complaints app.host).value with ⟨f, outcome⟩
    rw [hc] at fails succeeds
    cases outcome with
    | error e =>
        obtain ⟨events, he⟩ := fails e rfl
        exact ⟨events, f.journal, f.reported, f.state.errors, f.state.isValid, he⟩
    | ok errors =>
        obtain ⟨journal, reported, events, he⟩ := succeeds errors rfl
        exact ⟨events, journal, reported, errors, errors.isEmpty, he⟩
  · exact ⟨s.events, s.form.journal, s.form.reported, s.form.state.errors, s.form.state.isValid, rfl⟩

/-- The check finds nothing just if the values are admitted, and then they are those it leaves. -/
theorem checkIn_admits (app : Application) {s : Session} (calm : s.reactions = []) :
    (checkIn app s).2 = .ok [] ∧
        s.form.admitted? app.host = some (checkIn app s).1.form.resolved ∨
      (checkIn app s).2 ≠ .ok [] ∧ s.form.admitted? app.host = none := by
  obtain ⟨events, journal, reported, errors, isValid, h⟩ := checkIn_calm app calm
  rw [h]
  unfold Form.admitted?
  rcases s.form.checked app.host with ⟨f, outcome⟩
  cases outcome with
  | error e => exact .inr ⟨by simp, rfl⟩
  | ok found =>
      cases found with
      | nil => exact .inl ⟨rfl, rfl⟩
      | cons e found => exact .inr ⟨by simp, rfl⟩

section Beginning

variable {s t : Session} {id : Nat}

/-- A submission whose values are not admitted ends without success. -/
theorem rejected_moves (accepted : Moves [] [] [(id, none)] s t) {f : Form} (epoch : Nat)
    (rejected : f.admitted? app.host = none) (cause : Option Fault) :
    Moves [] [(id, f.succeeds app)]
      ((f.handing app).map (fun values => (id, some values)) ++ [(id, none)]) s
      (t.abandon id epoch cause) := by
  have nothing : f.handing app = [] := by
    unfold Form.handing
    rw [rejected]
    split <;> rfl
  have fails : f.succeeds app = false := by
    unfold Form.succeeds
    rw [rejected]
  rw [nothing, fails]
  exact accepted.trans (abandon_moves t id epoch cause)

/-- One whose values are admitted hands them over, to an application that wants to hear of it. -/
theorem admitted_moves (accepted : Moves [] [] [(id, none)] s t) {f : Form} (epoch : Nat)
    (calm : t.reactions = []) (admitted : f.admitted? app.host = some t.form.resolved) :
    Moves [] [(id, f.succeeds app)]
        ((f.handing app).map (fun values => (id, some values)) ++ [(id, none)]) s
        (if app.hears .submit then t.handOver app (notify app) id epoch t.form.resolved
        else t.complete app (notify app) id epoch) ∨
      ∃ handler, app.handler = some handler ∧ app.raises .submit = false ∧
        app.hears .submit = true ∧
        Moves [(id, some (.handing epoch handler t.form.resolved))] []
          ((f.handing app).map (fun values => (id, some values)) ++ [(id, none)]) s
          (if app.hears .submit then t.handOver app (notify app) id epoch t.form.resolved
          else t.complete app (notify app) id epoch) := by
  unfold Form.handing Form.succeeds
  rw [admitted]
  cases hears : app.hears .submit with
  | false => exact .inl (accepted.trans (complete_moves t id epoch))
  | true =>
      rcases handOver_moves calm hears id epoch t.form.resolved with h | ⟨handler, hh, raises, h⟩
      · exact .inl (accepted.trans h)
      · exact .inr ⟨handler, hh, raises, rfl, accepted.trans h⟩

/-- What a submission hands over when it is accepted, and what it returns unless it waits. -/
theorem submit_moves (app : Application) (calm : s.reactions = [])
    (idle : s.form.state.isSubmitting = false) (id : Nat) :
    let f := s.form.beginSubmission id
    let entries := (f.handing app).map (fun values => (id, some values)) ++ [(id, none)]
    Moves [] [(id, f.succeeds app)] entries s (s.submit app (notify app) id) ∨
      ∃ handler values, app.handler = some handler ∧ app.raises .submit = false ∧
        app.hears .submit = true ∧ f.admitted? app.host = some values ∧
        Moves [(id, some (.handing s.form.epoch handler values))] [] entries s
          (s.submit app (notify app) id) := by
  intro f entries
  let begun : Session := { s with form := f }
  have begins : Moves [] [] [(id, none)] s begun :=
    ⟨.refl _, (List.append_nil _).symm, rfl, Nat.le_refl _, fun calm => calm⟩
  have accepted := begins.trans_aside (checkIn_aside app begun)
  rw [submit_eq idle]
  dsimp only
  rcases checkIn_admits app (s := begun) calm with ⟨found, admitted⟩ | ⟨found, rejected⟩
  · rw [found]
    rcases admitted_moves accepted s.form.epoch (accepted.calm calm) admitted with
      h | ⟨handler, hh, raises, hears, h⟩
    · exact .inl h
    · exact .inr ⟨handler, _, hh, raises, hears, admitted, h⟩
  · left
    have ends := rejected_moves accepted s.form.epoch rejected
    cases ho : (checkIn app begun).2 with
    | error e => exact ends (some e)
    | ok errors =>
        have some_ : errors.isEmpty = false := by
          rw [List.isEmpty_eq_false_iff]
          rintro rfl
          exact found ho
        dsimp only
        rw [some_]
        exact ends none

end Beginning

/-- From one session to another a submission fails for a reason; neither the values nor the touched
fields change. -/
structure Fails (id : Nat) (e : Fault) (s t : Session) : Prop where
  returned : (id, false) ∈ t.agenda.outcomes
  fault : t.form.submitFault = some e
  values : t.form.state.values = s.form.state.values
  touched : t.form.state.touched = s.form.state.touched

end Session

end FormEngine
