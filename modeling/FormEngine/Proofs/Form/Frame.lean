import FormEngine.Form.Check
import FormEngine.Proofs.Schema.Dependents
import FormEngine.Proofs.Table

/-!
What the operations of a form leave alone. Conditions change what is made of fields and nothing else;
checks change complaints, and values only where a function of a field alters one in place.
-/

namespace FormEngine

namespace Host

variable (host : Host) {f : Callable} {arguments : List Value}

theorem carryOut_unaltered (h : (host.run f arguments).altered = none) :
    (host.carryOut f arguments).altered = none := by
  unfold carryOut
  dsimp only
  split
  · exact h
  · rfl

theorem reply_unaltered (h : (host.run f arguments).altered = none) :
    (host.reply f arguments).altered = none := by
  unfold reply
  split
  · rfl
  · exact host.carryOut_unaltered h

theorem reply_plain (h : (arguments.headD .null).hasParts = false) :
    (host.reply f arguments).altered = none := by
  unfold reply carryOut
  split
  · rfl
  · dsimp only
    rw [if_neg (Bool.eq_false_iff.mp h)]

theorem awaited_unaltered (h : (host.run f arguments).altered = none) :
    (host.awaited f arguments).altered = none := by
  unfold awaited
  dsimp only
  split
  · exact host.carryOut_unaltered h
  · exact host.carryOut_unaltered h

end Host

namespace ParsedField

/-- The functions of a field that check its value. -/
def custom (p : ParsedField) : List CustomRule := p.field.validation.elim [] FieldValidation.custom

/-- The functions that come with a field. -/
def functions (p : ParsedField) : List Callable :=
  p.field.conditionalRules.filterMap (fun r => r.predicate) ++ p.custom.map (fun r => r.validator) ++
    (p.field.validation.elim [] FieldValidation.asyncRules).map fun r => r.validator

end ParsedField

namespace Form

variable (host : Host)

theorem evaluateField_frame (values : Table Value) (f : Form) (id : String) :
    ∃ fieldStates, (f.evaluateField host values id).value = { f with fieldStates } := by
  unfold evaluateField
  split
  · exact ⟨f.fieldStates, rfl⟩
  · exact ⟨_, rfl⟩

theorem evaluateFields_frame (values : Table Value) (f : Form) (ids : List String) :
    ∃ fieldStates, (ids.foldlM (evaluateField host values) f).value = { f with fieldStates } := by
  induction ids generalizing f with
  | nil => exact ⟨f.fieldStates, rfl⟩
  | cons id ids ih =>
      obtain ⟨before, hb⟩ := evaluateField_frame host values f id
      obtain ⟨after, ha⟩ := ih { f with fieldStates := before }
      refine ⟨after, ?_⟩
      rw [List.foldlM_cons, Logged.value_bind, hb, ha]

theorem refresh_frame (changed : List String) (f : Form) :
    ∃ fieldStates, (f.refresh host changed).value = { f with fieldStates } :=
  evaluateFields_frame host f.resolved f _

/-- Begun anew, a form has the snapshot for its values and is otherwise blank. -/
theorem seed_frame (f : Form) :
    ∃ fieldStates, (f.seed host).value = { f with
      fieldStates
      state := { values := f.snapshot }
      generations := f.supersedeAll.generations
      epoch := f.epoch + 1
      reported := (f.replaceErrors []).reported
      journal := .reseeded :: f.journal } :=
  ⟨_, rfl⟩

/-- Ending a submission leaves a note in the journal, and may take back that one is under way. -/
theorem endSubmission_frame (id epoch : Nat) (f : Form) :
    ∃ isSubmitting, f.endSubmission id epoch =
      { f.mark (.ended id epoch) with state.isSubmitting := isSubmitting } := by
  unfold endSubmission
  dsimp only
  split
  · exact ⟨false, rfl⟩
  · exact ⟨f.state.isSubmitting, rfl⟩

theorem report_frame (f : Form) : ∃ reported, f.report.2 = { f with reported } := by
  unfold report
  split
  · exact ⟨f.reported, rfl⟩
  · exact ⟨_, rfl⟩

/-- The second form is the first with values altered in place, by functions of some fields that check
them. -/
inductive Amended (ps : List ParsedField) (f : Form) : Form → Prop
  | refl : Amended ps f f
  | amend {g : Form} (p : ParsedField) (r : CustomRule) (v : Value) :
      Amended ps f g → p ∈ ps → r ∈ p.custom →
      (host.reply r.validator [Value.entry g.resolved p.id, .record g.resolved]).altered = some v →
      Amended ps f (g.amend p.id v)

/-- Altering a value in place changes the values or a default. -/
theorem amend_frame (id : String) (v : Value) (f : Form) :
    ∃ values parsed, f.amend id v = { f with parsed, state.values := values } ∧
      (parsed = f.parsed ∨ parsed = f.parsed.withDefault id v) := by
  unfold amend
  split
  · exact ⟨_, f.parsed, rfl, .inl rfl⟩
  · exact ⟨f.state.values, _, rfl, .inr rfl⟩

/-- Of the schema it changes at most the fields. -/
theorem parsed_amend (id : String) (v : Value) (f : Form) :
    ∃ fields, (f.amend id v).parsed = { f.parsed with fields } := by
  obtain ⟨values, parsed, frame, rfl | rfl⟩ := amend_frame id v f
  · rw [frame]
    exact ⟨f.parsed.fields, rfl⟩
  · rw [frame]
    exact ⟨_, rfl⟩

theorem mem_keys_amend (id : String) (v : Value) (f : Form) {key : String}
    (h : key ∈ f.state.values.keys) : key ∈ (f.amend id v).state.values.keys := by
  unfold amend
  split
  · refine (Table.mem_keys_merge f.state.values [(id, v)] key).mpr (.inl h)
  · exact h

/-- The rules of a field that take time. -/
def asks (f : Form) (id : String) : List AsyncRule :=
  ((f.parsed.field? id).bind fun p => p.field.validation).elim [] FieldValidation.asyncRules

theorem asks_amend (f : Form) (id other : String) (v : Value) :
    (f.amend id v).asks other = f.asks other := by
  unfold amend
  split
  · rfl
  · unfold asks
    rw [ParsedSchema.field?_withDefault, Option.bind_map]
    congr 2
    funext p
    simp only [Function.comp]
    split <;> rfl

variable {host} {ps : List ParsedField}

theorem Amended.frame {f g : Form} (h : Amended host ps f g) :
    ∃ values parsed, g = { f with parsed, state.values := values } := by
  induction h with
  | refl => exact ⟨f.state.values, f.parsed, rfl⟩
  | @amend g p r v _ _ _ _ ih =>
      obtain ⟨values, parsed, rfl⟩ := ih
      obtain ⟨values', parsed', h, -⟩ := amend_frame p.id v { f with parsed, state.values := values }
      exact ⟨values', parsed', h⟩

theorem Amended.parsed {f g : Form} (h : Amended host ps f g) :
    ∃ fields, g.parsed = { f.parsed with fields } := by
  induction h with
  | refl => exact ⟨f.parsed.fields, rfl⟩
  | @amend g p r v _ _ _ _ ih =>
      obtain ⟨before, hb⟩ := ih
      obtain ⟨after, ha⟩ := parsed_amend p.id v g
      exact ⟨after, by rw [ha, hb]⟩

theorem Amended.journal {f g : Form} (h : Amended host ps f g) : g.journal = f.journal := by
  obtain ⟨values, parsed, rfl⟩ := h.frame
  rfl

theorem Amended.asks {f g : Form} (h : Amended host ps f g) (id : String) : g.asks id = f.asks id := by
  induction h with
  | refl => rfl
  | amend p r v _ _ _ _ ih => rw [asks_amend, ih]

theorem Amended.mono {qs : List ParsedField} {f g : Form} (h : Amended host ps f g)
    (sub : ∀ p ∈ ps, p ∈ qs) : Amended host qs f g := by
  induction h with
  | refl => exact .refl
  | amend p r v _ hp hr hv ih => exact ih.amend p r v (sub p hp) hr hv

/-- What a field may alter is among what all fields may. -/
theorem Amended.of_field? {f g : Form} {id : String}
    (h : Amended host (f.parsed.field? id).toList f g) : Amended host f.parsed.fields f g :=
  h.mono fun _ hp => List.mem_of_find?_eq_some (Option.mem_toList.mp hp)

/-- Where no function alters the value that it checks, nothing is amended. -/
theorem Amended.eq {f g : Form} (h : Amended host ps f g)
    (keeps : ∀ p ∈ ps, ∀ r ∈ p.custom,
      (host.reply r.validator [Value.entry f.resolved p.id, .record f.resolved]).altered = none) :
    g = f := by
  induction h with
  | refl => rfl
  | amend p r v _ hp hr hv ih =>
      rw [ih, keeps p hp r hr] at hv
      cases hv

section Checking

variable {f g : Form} {p : ParsedField}

theorem askRule_amended (hg : Amended host ps f g) (hp : p ∈ ps) {r : CustomRule}
    (hr : r ∈ p.custom) (messages : List String) :
    Amended host ps f (askRule host p.id (g, messages) r).value.1 := by
  unfold askRule
  dsimp only
  cases hv : (host.reply r.validator [Value.entry g.resolved p.id, .record g.resolved]).altered with
  | none => exact hg
  | some v => exact hg.amend p r v hp hr hv

theorem askRules_amended (rules : List CustomRule) (hg : Amended host ps f g)
    (hp : p ∈ ps) (hr : ∀ r ∈ rules, r ∈ p.custom) (messages : List String) :
    Amended host ps f (rules.foldlM (askRule host p.id) (g, messages)).value.1 := by
  induction rules generalizing g messages with
  | nil => exact hg
  | cons r rules ih =>
      rw [List.foldlM_cons, Logged.value_bind]
      exact ih (askRule_amended hg hp (hr r List.mem_cons_self) messages)
        (fun r h => hr r (List.mem_cons_of_mem _ h)) _

theorem valueComplaints_amended (hg : Amended host ps f g) (hp : p ∈ ps) (v : Value) :
    Amended host ps f (g.valueComplaints host p v).value.1 := by
  unfold valueComplaints
  dsimp only
  split
  · rw [Logged.value_bind]
    split
    · exact hg
    · exact askRules_amended _ hg hp (fun _ h => h) _
  · exact askRules_amended _ hg hp (fun _ h => h) _

theorem fieldComplaints_amended (hg : Amended host ps f g) (hp : p ∈ ps) :
    Amended host ps f (g.fieldComplaints host p).value.1 := by
  unfold fieldComplaints
  dsimp only
  split
  · exact hg
  · split
    · exact hg
    · exact valueComplaints_amended hg hp _

variable (host) in
/-- Checking a field calls the functions of that field only. -/
theorem complaintsAt_amended (f : Form) (id : String) :
    Amended host (f.parsed.field? id).toList f (f.complaintsAt host id).value.1 := by
  unfold complaintsAt
  split
  · next p hp => exact fieldComplaints_amended .refl (by simp [hp])
  · exact .refl

theorem fieldsComplaints_amended (asked : List ParsedField) (hg : Amended host ps f g)
    (hp : ∀ p ∈ asked, p ∈ ps) : Amended host ps f (g.fieldsComplaints host asked).value.1 := by
  induction asked generalizing g with
  | nil => exact hg
  | cons p asked ih =>
      have hq := fieldComplaints_amended hg (hp p List.mem_cons_self)
      unfold fieldsComplaints
      rw [Logged.value_bind]
      split
      · next g' e h =>
        rw [h] at hq
        exact hq
      · next g' messages h =>
        rw [h] at hq
        exact ih hq fun p h => hp p (List.mem_cons_of_mem _ h)

variable (host) in
theorem complaints_amended (f : Form) :
    Amended host f.parsed.fields f (f.complaints host).value.1 := by
  have hf : Amended host f.parsed.fields f (f.fieldsComplaints host f.parsed.fields).value.1 :=
    fieldsComplaints_amended f.parsed.fields .refl fun _ h => h
  unfold complaints
  rw [Logged.value_bind]
  split
  · next g e h =>
    rw [h] at hf
    exact hf
  · next g found h =>
    rw [h] at hf
    exact hf

variable (host) in
/-- Checking one field amends the form, and then the complaints about that field. -/
theorem recheck_amended (f : Form) (id : String) :
    ∃ g, Amended host (f.parsed.field? id).toList f g ∧ ((f.recheck host id).value.1 = g ∨
      ∃ messages, (f.complaintsAt host id).value = (g, .ok messages) ∧
        (f.recheck host id).value.1 = g.setErrors id messages) := by
  have hf := complaintsAt_amended host f id
  unfold recheck
  rw [Logged.value_bind]
  split
  next g outcome h =>
    rw [h] at hf
    refine ⟨g, hf, ?_⟩
    split
    · exact .inl rfl
    · next messages => exact .inr ⟨messages, h, rfl⟩

variable (host) in
theorem recheck_frame (f : Form) (id : String) :
    (f.recheck host id).value.1.journal = f.journal ∧
      ∀ other, (f.recheck host id).value.1.asks other = f.asks other := by
  obtain ⟨g, hg, h | ⟨messages, -, h⟩⟩ := recheck_amended host f id
  · rw [h]
    exact ⟨hg.journal, hg.asks⟩
  · rw [h]
    exact ⟨hg.journal, hg.asks⟩

end Checking

end Form

end FormEngine
