import FormEngine.Proofs.Form.Combination
import FormEngine.Proofs.Session.Integrity

/-!
Validation as a whole. What it reports are the complaints as they stand once the application was told of
them: where the application does not answer with a change, these are all that was found, put together
field by field, and nothing but the complaints of the form changes. An answer can take some of them
away before they are reported.
-/

namespace FormEngine

namespace Session

variable {app : Application}

/-- A validation that is not answered files what was found and reports it. -/
theorem validate_calm (app : Application) {s : Session}
    (calm : ∀ r ∈ s.reactions, r.occasion ≠ .validation) {f : Form} :
    (∀ e, (s.form.complaints app.host).value = (f, .error e) →
      ∃ events, s.validate app (notify app) = ({ s with events, form := f }, .error e)) ∧
    ∀ errors, (s.form.complaints app.host).value = (f, .ok errors) →
      ∃ journal reported events, s.validate app (notify app) =
        ({ s with events, form := { f with
            journal, reported
            state := { f.state with errors, isValid := errors.isEmpty } } }, .ok errors) := by
  constructor
  · intro e he
    refine ⟨s.events ++ (s.form.complaints app.host).events, ?_⟩
    have hf : (s.form.complaints app.host).value.1 = f := congrArg Prod.fst he
    have ho : (s.form.complaints app.host).value.2 = .error e := congrArg Prod.snd he
    unfold validate note
    dsimp only
    rw [ho, hf]
  · intro errors he
    let settled : Session := { s with
      form := f.settle errors
      events := s.events ++ (s.form.complaints app.host).events }
    obtain ⟨journal, events, told⟩ := notify_calm app (s := settled)
      (e := .validated settled.form.state.isValid errors)
      fun r hr same => calm r hr (Option.some.inj same).symm
    refine ⟨journal, (f.replaceErrors errors).reported, events, ?_⟩
    have hf : (s.form.complaints app.host).value.1 = f := congrArg Prod.fst he
    have ho : (s.form.complaints app.host).value.2 = .ok errors := congrArg Prod.snd he
    unfold validate note tell
    dsimp only
    rw [ho, hf]
    dsimp only
    rw [show (notify app _ _).1 = _ from told]
    rfl

/-- A validation that is not answered reports what checks find. -/
theorem validate_reports {s : Session} (calm : ∀ r ∈ s.reactions, r.occasion ≠ .validation) :
    (s.validate app (notify app)).2 = (s.form.complaints app.host).value.2 := by
  obtain ⟨fails, succeeds⟩ := validate_calm app (f := (s.form.complaints app.host).value.1) calm
  cases ho : (s.form.complaints app.host).value.2 with
  | error e =>
      obtain ⟨events, failed⟩ := fails e (Prod.ext rfl ho)
      rw [failed]
  | ok errors =>
      obtain ⟨journal, reported, events, validated⟩ := succeeds errors (Prod.ext rfl ho)
      rw [validated]

/-- One that succeeds has found what it reports, and leaves it with the form. -/
theorem validate_files {s : Session} {errors : Complaints}
    (calm : ∀ r ∈ s.reactions, r.occasion ≠ .validation)
    (h : (s.validate app (notify app)).2 = .ok errors) :
    ∃ f journal reported events, (s.form.complaints app.host).value = (f, .ok errors) ∧
      (s.validate app (notify app)).1 = { s with events, form := { f with
        journal, reported
        state := { f.state with errors, isValid := errors.isEmpty } } } := by
  rw [validate_reports calm] at h
  obtain ⟨-, succeeds⟩ := validate_calm app (f := (s.form.complaints app.host).value.1) calm
  obtain ⟨journal, reported, events, validated⟩ := succeeds errors (Prod.ext rfl h)
  refine ⟨_, journal, reported, events, Prod.ext rfl h, ?_⟩
  rw [validated]

/-- Where no function of a field alters values, and no callback answers a validation: it fails just if a
field or the form cannot be checked. What it reports is put together from the complaints about each
field and those about the form; the form is valid just if there are none, which become its own, while
all else stays as it is; and to validate it again comes to the same. -/
theorem validation_combines {s : Session} (h : Reachable app s)
    (keeps : s.form.parsed.KeepsValues app.host)
    (calm : ∀ r ∈ s.reactions, r.occasion ≠ .validation) :
    ((∃ e, (s.validate app (notify app)).2 = .error e) ↔
      (∃ key e, (s.form.complaintsAt app.host key).value.2 = .error e) ∨
        ∃ e, s.form.violations app.host = .error e) ∧
    ∀ errors, (s.validate app (notify app)).2 = .ok errors →
      (∃ issues, s.form.violations app.host = .ok issues ∧
        s.form.Combined app.host issues errors) ∧
      (∃ journal reported events, (s.validate app (notify app)).1 =
        { s with events, form := { s.form with
            journal, reported
            state := { s.form.state with errors, isValid := errors.isEmpty } } }) ∧
      ∃ journal reported events,
        (s.validate app (notify app)).1.validate app (notify app) =
          ({ (s.validate app (notify app)).1 with events, form :=
            { (s.validate app (notify app)).1.form with journal, reported } }, .ok errors) := by
  have distinct := h.intact.integral.distinct
  have same : (s.form.complaints app.host).value.1 = s.form :=
    (Form.complaints_amended app.host s.form).unaltered keeps
  obtain ⟨fails, succeeds⟩ := validate_calm app (f := s.form) calm
  cases ho : (s.form.complaints app.host).value.2 with
  | error e =>
      obtain ⟨events, he⟩ := fails e (Prod.ext same ho)
      refine ⟨⟨fun _ => (Form.complaints_error_iff keeps distinct).mp ⟨e, ho⟩, fun _ => ⟨e, ?_⟩⟩, ?_⟩
      · rw [he]
      · intro errors hr
        rw [he] at hr
        cases hr
  | ok found =>
      obtain ⟨journal, reported, events, hv⟩ := succeeds found (Prod.ext same ho)
      refine ⟨⟨?_, fun impossible => ?_⟩, fun errors hr => ?_⟩
      · rintro ⟨e, he⟩
        rw [hv] at he
        cases he
      · obtain ⟨e, he⟩ := (Form.complaints_error_iff keeps distinct).mpr impossible
        rw [ho] at he
        cases he
      · rw [hv] at hr ⊢
        cases hr
        refine ⟨Form.combined_of_ok keeps distinct ho, ⟨journal, reported, events, rfl⟩, ?_⟩
        let filed : Form := { s.form with
          journal, reported
          state := { s.form.state with errors := found, isValid := found.isEmpty } }
        -- the second time the form finds what it has found already
        have alike : s.form.Alike filed := ⟨rfl, rfl, rfl⟩
        have again : (filed.complaints app.host).value = (filed, .ok found) :=
          Prod.ext ((Form.complaints_amended app.host filed).unaltered keeps)
            ((alike.complaints keeps).trans ho)
        obtain ⟨journal', reported', events', ha⟩ :=
          (validate_calm app (s := { s with events, form := filed }) calm).2 found again
        exact ⟨journal', reported', events', ha⟩

/-- An application whose functions find fault with everything. -/
def faultFinder : Application where
  host := .constant (.bool false) (.zero false)
  settings := {}

/-- A schema with a function that checks two fields together, of which there is only one. -/
def pairedSchema : FormSchema :=
  { FormSchema.demanding with
    validation := some ⟨.null, [⟨"both", "give both", ⟨.function, 0, .null⟩, ["a", "z"]⟩],
      false, false, true⟩ }

/-- Its complaint is found at the one that is shown, after that of the field. -/
theorem pairedSchema_combines :
    ∃ errors issues, ((pairedSchema.begin faultFinder).validate faultFinder
        (notify faultFinder)).2 = .ok errors ∧
      errors = [("a", ["a is required", "give both"])] ∧
      (pairedSchema.begin faultFinder).form.Combined faultFinder.host issues errors := by
  have reached : Reachable faultFinder (pairedSchema.begin faultFinder) :=
    ⟨_, FormSchema.begins (s := pairedSchema) (by decide +kernel), .refl⟩
  have reported : ((pairedSchema.begin faultFinder).validate faultFinder
      (notify faultFinder)).2 = .ok [("a", ["a is required", "give both"])] :=
    Except.eq_ok_of_toOption (by decide +kernel)
  obtain ⟨-, combines⟩ := validation_combines reached (fun _ _ _ _ _ => rfl) (by
    intro r hr
    cases hr)
  obtain ⟨⟨issues, -, combined⟩, -⟩ := combines _ reported
  exact ⟨_, issues, reported, rfl, combined⟩

/-- A form whose application answers a validation by changing the field that lacks a value. -/
def answeringSession : Session :=
  start .content (FormSchema.demanding.parsed []) [] (.starting .null)
    [⟨.validation, .change "a" (.str "")⟩]

/-- A complaint about a field can be missing from what a validation reports, although the field is
complained of before and after. -/
theorem answered_validation_forgets : ¬ ∀ (app : Application) (s : Session) (errors : Complaints),
    Reachable app s → s.form.parsed.KeepsValues app.host →
    (s.validate app (notify app)).2 = .ok errors → ∀ key own,
      (s.form.complaintsAt app.host key).value.2 = .ok own →
      ((s.validate app (notify app)).1.form.complaintsAt app.host key).value.2 = .ok own →
        ∀ m ∈ own, ∃ messages, errors.get? key = some messages ∧ m ∈ messages := by
  intro always
  have begun : Begins .content answeringSession :=
    ⟨.loaded .demanding, _, .null, [], .null, _, FormSchema.parse_eq (by decide +kernel), rfl, rfl⟩
  obtain ⟨messages, found, -⟩ := always .content answeringSession [] ⟨_, begun, .refl⟩
    (fun _ _ _ _ _ => rfl) (Except.eq_ok_of_toOption (by decide +kernel)) "a" ["a is required"]
    (Except.eq_ok_of_toOption (by decide +kernel)) (Except.eq_ok_of_toOption (by decide +kernel))
    "a is required" (List.mem_singleton_self _)
  cases found

end Session

end FormEngine
