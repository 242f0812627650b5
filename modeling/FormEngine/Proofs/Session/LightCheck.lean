import FormEngine.Proofs.Session.Freshness
import FormEngine.Proofs.Session.Optimism

/-!
The light check of validity next to validation. The light check only asks whether there are complaints
and whether something required is missing; a form of which validation finds nothing to complain passes
it as well. So the checks that were put off before a validation confirm its verdict, until an inquiry
complains or the form is asked for something else.
-/

namespace FormEngine

namespace Form

variable {host : Host} {f : Form}

/-- A field that is complained of for nothing is hidden, not required, or has a value. -/
theorem not_missing_of_fieldComplaints {p : ParsedField}
    (h : (f.fieldComplaints host p).value.2 = .ok []) :
    (f.fieldState p.id).visible = true → (f.fieldState p.id).required = true →
      lacks p (Value.entry f.resolved p.id) = false := by
  intro shown required
  refine Bool.eq_false_iff.mpr fun missing => ?_
  unfold fieldComplaints at h
  dsimp only at h
  simp [shown, missing, required, Logged.value_pure] at h

/-- A form none of whose fields is complained of is complete. -/
theorem isComplete_of_complaintsAt (distinct : f.parsed.fieldIds.Nodup)
    (h : ∀ p ∈ f.parsed.fields, (f.complaintsAt host p.id).value.2 = .ok []) :
    f.isComplete = true := by
  unfold isComplete
  rw [List.all_eq_true]
  intro p hp
  have own := h p hp
  unfold complaintsAt at own
  rw [ParsedSchema.field?_of_mem distinct hp] at own
  have present := not_missing_of_fieldComplaints own
  cases shown : (f.fieldState p.id).visible with
  | false => simp [shown]
  | true =>
      cases required : (f.fieldState p.id).required with
      | false => simp [required]
      | true => simp [present shown required]

/-- Where validation finds nothing to complain, the light check finds nothing missing. -/
theorem isComplete_of_complaints (keeps : f.parsed.KeepsValues host)
    (distinct : f.parsed.fieldIds.Nodup) (h : (f.complaints host).value.2 = .ok []) :
    f.isComplete = true := by
  obtain ⟨issues, -, combined⟩ := combined_of_ok keeps distinct h
  exact isComplete_of_complaintsAt distinct (combined.empty.mp rfl).1

end Form

/-- An inquiry writes complaints. -/
def Milestone.IsComplaint : Milestone → Prop
  | .complained .. => True
  | _ => False

namespace Session

variable {app : Application}

/-- Where no function of a field alters values, the turn of an inquiry changes nothing but what is noted,
unless it complains. -/
theorem inquireOn_lasts (begun : Session) {s : Session} {id : Nat} {q : Inquiry} {stage : InquiryStage}
    (rules : ∀ rule ∈ stage.rules q, rule ∈ q.rules) (known : q.IsKnown s.form)
    (keeps : s.form.parsed.KeepsValues app.host) :
    (s.inquireOn app id q stage).form.parsed.KeepsValues app.host ∧
      Lasts Milestone.IsComplaint (Reviewed begun) s (s.inquireOn app id q stage) := by
  have inquiring : Inquiring app q (fun rule => rule ∈ q.rules) (fun _ => True) fun s t =>
      q.IsKnown s.form ∧ s.form.parsed.KeepsValues app.host →
        (q.IsKnown t.form ∧ t.form.parsed.KeepsValues app.host) ∧
          Lasts Milestone.IsComplaint (Reviewed begun) s t := {
    silent := trivial
    told := fun _ _ => trivial
    trans := fun h h' hs => by
      obtain ⟨ht, first⟩ := h hs
      obtain ⟨hu, second⟩ := h' ht
      exact ⟨hu, first.trans second⟩
    noted := fun s _ _ hs => ⟨hs, lasts_of rfl fun h => h.spared (q := q) .of⟩
    asked := fun s _ _ _ hs => ⟨hs, lasts_mark rfl fun _ h => h.spared (q := q) .of⟩
    amended := fun s rule arguments v hr now hv hs => by
      rw [← hs.1 now] at hr
      exact absurd hs.2 (Form.not_keepsValues_of_asks hr hv)
    complained := fun _ _ _ _ _ _ _ hs =>
      ⟨hs, lasts_mark rfl fun calm => absurd trivial calm⟩
    slept := fun s span id v stage _ hs =>
      ⟨hs, lasts_of rfl fun h => h.spared (.slept s span id v stage)⟩
    forgot := fun s id hs => ⟨hs, lasts_of rfl fun h => h.spared (q := q) (.forgot s id)⟩ }
  obtain ⟨⟨-, kept⟩, lasts⟩ := inquiring.follows_inquireOn id trivial rules s ⟨known, keeps⟩
  exact ⟨kept, lasts⟩

/-- As long as jobs merely have their turn, the verdict alone is reviewed, until an inquiry complains. -/
theorem Turns.lasts {s t : Session} (h : Reachable app s)
    (keeps : s.form.parsed.KeepsValues app.host) (turns : Turns app s t) :
    Lasts Milestone.IsComplaint (Reviewed s) s t := by
  have kept : t.form.parsed.KeepsValues app.host ∧
      Lasts Milestone.IsComplaint (Reviewed s) s t := by
    refine turns.keeps (P := fun t => t.form.parsed.KeepsValues app.host ∧
      Lasts Milestone.IsComplaint (Reviewed s) s t) ?_ ?_ ?_ ⟨keeps, lasts_of rfl id⟩
    · rintro t agenda - checks ⟨keeps, lasts⟩
      exact ⟨keeps, lasts.trans (lasts_of rfl fun h => h.arranged agenda checks)⟩
    · rintro t ready hr ⟨keeps, lasts⟩
      exact ⟨keeps, lasts.trans (lasts_of rfl fun h => h.checked hr)⟩
    · rintro t ready id q stage led hr ⟨keeps, lasts⟩
      have reached : Reachable app t := h.leads led.leads
      have popped : Lasts Milestone.IsComplaint (Reviewed s) t
          { t with agenda.ready := ready } :=
        lasts_of rfl fun h => h.arranged { t.agenda with ready } (Agenda.checks_ready hr).symm
      obtain ⟨keeps, went⟩ := inquireOn_lasts s (s := { t with agenda.ready := ready })
        (reached.asks hr).2 (reached.known hr) keeps
      exact ⟨keeps, (lasts.trans popped).trans went⟩
  exact kept.2

/-- Where no function of a field alters values and no callback answers the validation: if it finds nothing
to complain, nothing required is missing, and in any case the light check comes to the same verdict. So
as long as jobs merely have their turn, among them the checks that were put off before, the verdict is
that of the validation and the complaints are those it found, until an inquiry complains. -/
theorem light_check_agrees {s : Session} (h : Reachable app s)
    (keeps : s.form.parsed.KeepsValues app.host)
    (calm : ∀ r ∈ s.reactions, r.occasion ≠ .validation) {errors : Complaints}
    (validated : (s.validate app (notify app)).2 = .ok errors) :
    (errors = [] → (s.perform app .validate).1.form.isComplete = true) ∧
    (s.perform app .validate).1.form.state.isValid = errors.isEmpty ∧
    (s.perform app .validate).1.form.checkValidity.state.isValid = errors.isEmpty ∧
    ∀ u, Turns app (s.perform app .validate).1 u → ∃ since,
      u.form.journal = since ++ (s.perform app .validate).1.form.journal ∧
        ((∀ m ∈ since, ¬ m.IsComplaint) →
          u.form.state.errors = errors ∧ u.form.state.isValid = errors.isEmpty) := by
  have distinct := h.intact.integral.distinct
  obtain ⟨f, journal, reported, events, found, files⟩ := validate_files calm validated
  have same : f = s.form := by
    have amended := Form.complaints_amended app.host s.form
    rw [found] at amended
    exact amended.unaltered keeps
  subst same
  have reached : Reachable app (s.perform app .validate).1 :=
    h.leads (Leads.refl.command .validate trivial)
  have performed : (s.perform app .validate).1 = { s with events, form := { s.form with
      journal, reported
      state := { s.form.state with errors, isValid := errors.isEmpty } } } := files
  rw [performed] at reached ⊢
  have complete : errors = [] → s.form.isComplete = true := by
    rintro rfl
    exact Form.isComplete_of_complaints keeps distinct (congrArg Prod.snd found)
  have light : (errors.isEmpty && s.form.isComplete) = errors.isEmpty := by
    cases errors with
    | nil => exact complete rfl
    | cons _ _ => rfl
  refine ⟨complete, rfl, light, fun u turns => ?_⟩
  obtain ⟨since, noted, kept⟩ := turns.lasts reached keeps
  refine ⟨since, noted, fun quiet => ?_⟩
  have reviewed := kept quiet (.refl _)
  refine ⟨by rw [reviewed.state], reviewed.verdict.trans ?_⟩
  split
  · rfl
  · exact light

/-- A form in which nothing is missing, with a check of its validity that waits. -/
def filledSession : Session :=
  ((FormSchema.demanding.begin .content).perform .content (.change "a" (.str "x"))).1

/-- The form is validated, nothing is found, and the check that waited comes to the same. -/
theorem filledSession_confirmed : filledSession.agenda.checks = 1 ∧
    (filledSession.perform .content .validate).1.form.isComplete = true ∧
    ∃ u, Turns .content (filledSession.perform .content .validate).1 u ∧ u.agenda.checks = 0 ∧
      u.form.state.isValid = true := by
  have reached : Reachable .content filledSession :=
    ⟨_, FormSchema.begins (by decide +kernel), Leads.refl.command _ trivial⟩
  have calm : ∀ r ∈ filledSession.reactions, r.occasion ≠ .validation := by
    have none : filledSession.reactions.isEmpty = true := by decide +kernel
    simp [List.isEmpty_iff.mp none]
  have keeps : filledSession.form.parsed.KeepsValues Application.content.host :=
    fun _ _ _ _ _ => rfl
  have validated : (filledSession.validate .content (notify .content)).2 = .ok [] :=
    Except.eq_ok_of_toOption (by decide +kernel)
  obtain ⟨complete, -, -, later⟩ := light_check_agrees reached keeps calm validated
  have waits : (filledSession.perform .content .validate).1.agenda.ready = [.checkValidity] := rfl
  have turns : Turns .content (filledSession.perform .content .validate).1 _ :=
    Turns.refl.work waits rfl
  obtain ⟨since, journal, verdict⟩ := later _ turns
  obtain rfl : since = [] := List.self_eq_append_left.mp journal
  exact ⟨by decide +kernel, complete rfl, _, turns, rfl, (verdict (by simp)).2⟩

/-- Validation can find nothing to complain of a form in which something required is missing. -/
theorem answered_validation_overlooks : ¬ ∀ (app : Application) (s : Session), Reachable app s →
    s.form.parsed.KeepsValues app.host → (s.validate app (notify app)).2 = .ok [] →
      (s.perform app .validate).1.form.isComplete = true := by
  intro always
  have begun : Begins .content answeringSession :=
    ⟨.loaded .demanding, _, .null, [], .null, _, FormSchema.parse_eq (by decide +kernel), rfl, rfl⟩
  have complete := always .content answeringSession ⟨_, begun, .refl⟩ (fun _ _ _ _ _ => rfl)
    (Except.eq_ok_of_toOption (by decide +kernel))
  have missing : (answeringSession.perform .content .validate).1.form.isComplete = false := by
    decide +kernel
  exact Bool.noConfusion (complete.symm.trans missing)

end Session

end FormEngine
