import FormEngine.Proofs.Form.Complaints

/-!
All complaints, where no function alters values. They are those about each field with those about the
form added key by key; and they depend on the schema, the values and what is made of the fields alone.
-/

namespace FormEngine

namespace Form

variable {host : Host} {f g : Form}

theorem Amended.unaltered (keeps : f.parsed.KeepsValues host)
    (h : f.Amended host f.parsed.fields g) : g = f := by
  refine h.eq fun p hp r hr => Option.eq_none_iff_forall_ne_some.mpr fun v hv => ?_
  exact not_keepsValues hp hr hv keeps

/-- What fields are complained of is what each of them is complained of, up to one that cannot be
checked. -/
theorem fieldsComplaints_cons (keeps : f.parsed.KeepsValues host) {p : ParsedField}
    (hp : p ∈ f.parsed.fields) (asked : List ParsedField) :
    (f.fieldsComplaints host (p :: asked)).value.2 =
      (f.fieldComplaints host p).value.2.bind fun messages =>
        (f.fieldsComplaints host asked).value.2.map fun others =>
          if messages.isEmpty then others else (p.id, messages) :: others := by
  have same : (f.fieldComplaints host p).value.1 = f :=
    (fieldComplaints_amended .refl hp).unaltered keeps
  rw [fieldsComplaints, Logged.value_bind]
  split
  · next checked e h =>
    rw [h]
    rfl
  · next checked messages h =>
    rw [h] at same ⊢
    obtain rfl : checked = f := same
    rfl

section Asked

variable (keeps : f.parsed.KeepsValues host) {asked : List ParsedField}
  (known : ∀ p ∈ asked, p ∈ f.parsed.fields)
include keeps known

/-- The messages found about each field are its own. -/
theorem fieldComplaints_eq_ok (distinct : (asked.map ParsedField.id).Nodup) {found : Complaints}
    (h : (f.fieldsComplaints host asked).value.2 = .ok found) :
    ∀ p ∈ asked, (f.fieldComplaints host p).value.2 = .ok ((found.get? p.id).getD []) := by
  induction asked generalizing found with
  | nil => simp
  | cons p asked ih =>
      rw [List.forall_mem_cons] at known
      obtain ⟨absent, distinct⟩ := List.nodup_cons.mp distinct
      rw [fieldsComplaints_cons keeps known.1] at h
      cases own : (f.fieldComplaints host p).value.2 with
      | error e =>
          rw [own] at h
          cases h
      | ok messages =>
          cases rest : (f.fieldsComplaints host asked).value.2 with
          | error e =>
              rw [own, rest] at h
              cases h
          | ok others =>
              rw [own, rest] at h
              cases h
              have none : others.get? p.id = none := Table.get?_eq_none fun hm =>
                absent ((fieldsComplaints_entries rest).1.subset hm)
              refine List.forall_mem_cons.mpr ⟨?_, fun q hq => ?_⟩
              · rw [own]
                split
                · next empty => rw [none, List.isEmpty_iff.mp empty]; rfl
                · rw [Table.get?_cons, if_pos rfl]; rfl
              · rw [ih known.2 distinct rest q hq]
                split
                · rfl
                · rw [Table.get?_cons, if_neg]
                  rintro same
                  exact absent (List.mem_map.mpr ⟨q, hq, same⟩)

theorem fieldsComplaints_error_iff : (∃ e, (f.fieldsComplaints host asked).value.2 = .error e) ↔
    ∃ p ∈ asked, ∃ e, (f.fieldComplaints host p).value.2 = .error e := by
  induction asked with
  | nil => simp [fieldsComplaints]
  | cons p asked ih =>
      rw [List.forall_mem_cons] at known
      simp only [List.mem_cons, exists_eq_or_imp]
      rw [fieldsComplaints_cons keeps known.1, ← ih known.2]
      cases (f.fieldComplaints host p).value.2 with
      | error e => simp [Except.bind]
      | ok messages =>
          cases (f.fieldsComplaints host asked).value.2 with
          | error e => simp [Except.bind, Except.map]
          | ok others => simp [Except.bind, Except.map]

end Asked

/-- All complaints are put together from those about fields and those about the form. -/
theorem complaints_eq (keeps : f.parsed.KeepsValues host) :
    (f.complaints host).value =
      (f, (f.fieldsComplaints host f.parsed.fields).value.2.bind fun found =>
        (f.violations host).map fun issues =>
          (f.failures host issues).foldl addComplaint (Table.ofEntries found)) := by
  have same : (f.fieldsComplaints host f.parsed.fields).value.1 = f :=
    (fieldsComplaints_amended f.parsed.fields .refl fun _ h => h).unaltered keeps
  unfold complaints
  rw [Logged.value_bind]
  split
  · next checked e h =>
    rw [h] at same ⊢
    exact Prod.ext same rfl
  · next checked found h =>
    rw [h] at same ⊢
    obtain rfl : checked = f := same
    rw [Logged.value_bind, formComplaints_eq]
    cases checked.violations host <;> rfl

/-- The messages that go to a place, in the order in which they came up. -/
def filedAt (added : List (String × String)) (key : String) : List String :=
  (added.filter fun c => c.1 == key).map Prod.snd

/-- Messages are added to those at their place. -/
theorem messages_addAll (errors : Complaints) (added : List (String × String)) (key : String) :
    ((added.foldl addComplaint errors).get? key).getD [] =
      joinMessages ((errors.get? key).getD []) (filedAt added key) := by
  rw [← foldl_addDistinct]
  induction added generalizing errors with
  | nil => rfl
  | cons c added ih =>
      rw [List.foldl_cons, ih, addComplaint, Table.get?_put]
      by_cases here : c.1 = key
      · simp [filedAt, here]
      · simp [filedAt, here, Ne.symm here]

/-- The complaints about one field are those found about it when all fields are checked. -/
theorem complaintsAt_eq_ok (keeps : f.parsed.KeepsValues host) (distinct : f.parsed.fieldIds.Nodup)
    {found : Complaints} (h : (f.fieldsComplaints host f.parsed.fields).value.2 = .ok found)
    (key : String) : (f.complaintsAt host key).value.2 = .ok ((found.get? key).getD []) := by
  unfold complaintsAt
  cases hp : f.parsed.field? key with
  | none =>
      have absent : key ∉ found.keys := by
        intro hk
        obtain ⟨p, hm, hid⟩ := List.mem_map.mp ((fieldsComplaints_entries h).1.subset hk)
        have known := ParsedSchema.field?_of_mem distinct hm
        rw [hid, hp] at known
        cases known
      rw [Table.get?_eq_none absent]
      rfl
  | some p =>
      have hid : p.id = key := by simpa using List.find?_some hp
      rw [← hid]
      exact fieldComplaints_eq_ok keeps (fun _ h => h) distinct h p (List.mem_of_find?_eq_some hp)

/-- A key that names no field that is shown is complained of by the form only. -/
theorem complaintsAt_hidden {key : String} (h : f.hasVisible key = false) :
    (f.complaintsAt host key).value.2 = .ok [] := by
  unfold complaintsAt
  split
  · next p hp =>
    have hid : p.id = key := by simpa using List.find?_some hp
    have hidden : (f.fieldState p.id).visible = false := by
      rw [hid]
      unfold hasVisible at h
      rw [hp] at h
      exact h
    unfold fieldComplaints
    dsimp only
    rw [hidden]
    rfl
  · rfl

theorem targets_ne_nil (f : Form) (r : FormRule) : f.targets r ≠ [] := by
  unfold targets
  dsimp only
  split
  · simp
  · next shown => simpa using shown

/-- Complaints are put together: at each key those about the field come first, then the new ones among
those that go there from the rule for the form, which found some issues, and from its functions. None
of these is lost. -/
structure Combined (host : Host) (f : Form) (issues : List Issue) (errors : Complaints) : Prop where
  entry : ∀ key, ∃ own, (f.complaintsAt host key).value.2 = .ok own ∧
    (f.hasVisible key = false → own = []) ∧
    ∀ messages, errors.get? key = some messages ↔
      messages ≠ [] ∧ messages = joinMessages own (filedAt (f.failures host issues) key)
  found : ∀ i ∈ issues, ∃ messages, errors.get? (f.placeOf i) = some messages ∧
    i.message ∈ messages
  told : ∀ r ∈ f.formRules, ∀ message, f.formMessage? host r = some message →
    f.targets r ≠ [] ∧ ∀ target ∈ f.targets r, ∃ messages, errors.get? target = some messages ∧
      message ∈ messages
  empty : errors = [] ↔ (∀ p ∈ f.parsed.fields, (f.complaintsAt host p.id).value.2 = .ok []) ∧
    issues = [] ∧ ∀ r ∈ f.formRules, f.formMessage? host r = none

section Combining

variable {issues : List Issue} {errors : Complaints}
  (entry : ∀ key, ∃ own, (f.complaintsAt host key).value.2 = .ok own ∧
    (f.hasVisible key = false → own = []) ∧
    ∀ messages, errors.get? key = some messages ↔
      messages ≠ [] ∧ messages = joinMessages own (filedAt (f.failures host issues) key))
include entry

/-- Whatever the form complains of is found at its place. -/
theorem exists_messages_of_mem {c : String × String} (hc : c ∈ f.failures host issues) :
    ∃ messages, errors.get? c.1 = some messages ∧ c.2 ∈ messages := by
  obtain ⟨own, -, -, found⟩ := entry c.1
  have there : c.2 ∈ joinMessages own (filedAt (f.failures host issues) c.1) := by
    refine mem_joinMessages.mpr (.inr (List.mem_map.mpr ⟨c, ?_, rfl⟩))
    exact List.mem_filter.mpr ⟨hc, beq_self_eq_true _⟩
  exact ⟨_, (found _).mpr ⟨List.ne_nil_of_mem there, rfl⟩, there⟩

/-- There are no complaints just if neither a field nor the form is complained of. -/
theorem eq_nil_iff_of_entry : errors = [] ↔
    (∀ p ∈ f.parsed.fields, (f.complaintsAt host p.id).value.2 = .ok []) ∧
      f.failures host issues = [] := by
  constructor
  · rintro rfl
    refine ⟨fun p hp => ?_, List.eq_nil_iff_forall_not_mem.mpr fun c hc => ?_⟩
    · obtain ⟨own, ho, -, found⟩ := entry p.id
      have none : joinMessages own (filedAt (f.failures host issues) p.id) = [] :=
        Decidable.byContradiction fun some_ => nomatch (found _).mpr ⟨some_, rfl⟩
      rw [ho, (joinMessages_eq_nil.mp none).1]
    · obtain ⟨messages, found, -⟩ := exists_messages_of_mem entry hc
      cases found
  · rintro ⟨fields, none⟩
    cases errors with
    | nil => rfl
    | cons e errors =>
        obtain ⟨key, messages⟩ := e
        obtain ⟨own, ho, hidden, found⟩ := entry key
        obtain ⟨some_, joined⟩ := (found messages).mp (by rw [Table.get?_cons, if_pos rfl])
        have own_ : own = [] := by
          by_cases shown : f.hasVisible key = true
          · obtain ⟨p, hp, rfl⟩ := List.mem_map.mp (mem_fieldIds_of_hasVisible shown)
            rw [fields p hp] at ho
            exact (Except.ok.inj ho).symm
          · exact hidden (Bool.eq_false_iff.mpr shown)
        rw [own_, none] at joined
        exact absurd joined some_

end Combining

/-- The form is complained of just if its rule finds an issue or one of its functions complains. -/
theorem failures_eq_nil_iff {issues : List Issue} : f.failures host issues = [] ↔
    issues = [] ∧ ∀ r ∈ f.formRules, f.formMessage? host r = none := by
  unfold failures
  rw [List.append_eq_nil_iff, List.map_eq_nil_iff, List.flatMap_eq_nil_iff]
  refine and_congr_right fun _ => forall₂_congr fun r _ => ?_
  cases f.formMessage? host r with
  | none => simp
  | some message => simp [targets_ne_nil]

/-- What all checks find is put together in this way. -/
theorem combined_of_ok (keeps : f.parsed.KeepsValues host) (distinct : f.parsed.fieldIds.Nodup)
    {errors : Complaints} (h : (f.complaints host).value.2 = .ok errors) :
    ∃ issues, f.violations host = .ok issues ∧ Combined host f issues errors := by
  have whole : (f.complaints host).value = (f, .ok errors) := by
    rw [← h, complaints_eq keeps]
  have proper := complaints_proper whole
  obtain ⟨found, issues, hf, hv, combined⟩ := complaints_eq_ok whole
  have hf : (f.fieldsComplaints host f.parsed.fields).value.2 = .ok found := congrArg Prod.snd hf
  have filed : Table.ofEntries found = found :=
    Table.ofEntries_eq ((fieldsComplaints_entries hf).1.nodup distinct)
  have entry (key : String) : ∃ own, (f.complaintsAt host key).value.2 = .ok own ∧
      (f.hasVisible key = false → own = []) ∧
      ∀ messages, errors.get? key = some messages ↔
        messages ≠ [] ∧ messages = joinMessages own (filedAt (f.failures host issues) key) := by
    have own := complaintsAt_eq_ok keeps distinct hf key
    refine ⟨_, own, fun hidden => ?_, fun messages => ?_⟩
    · exact Except.ok.inj (own.symm.trans (complaintsAt_hidden hidden))
    · rw [← messages_addAll, ← filed, ← combined]
      cases there : errors.get? key with
      | none => simp
      | some others =>
          have some_ := (proper.messages _ (Table.mem_of_get? there)).1
          simp only [Option.getD_some, Option.some.injEq]
          refine ⟨?_, fun h => h.2.symm⟩
          rintro rfl
          exact ⟨some_, rfl⟩
  refine ⟨issues, hv, entry, fun i hi => ?_, fun r hr message hm => ?_, ?_⟩
  · exact exists_messages_of_mem entry (c := (f.placeOf i, i.message))
      (List.mem_append_left _ (List.mem_map.mpr ⟨i, hi, rfl⟩))
  · refine ⟨targets_ne_nil f r, fun target ht => ?_⟩
    refine exists_messages_of_mem entry (c := (target, message)) (List.mem_append_right _ ?_)
    refine List.mem_flatMap.mpr ⟨r, hr, ?_⟩
    rw [hm]
    exact List.mem_map.mpr ⟨target, ht, rfl⟩
  · rw [eq_nil_iff_of_entry entry, failures_eq_nil_iff]

/-- Something cannot be checked just if some field cannot, or the rule for the form cannot be asked. -/
theorem complaints_error_iff (keeps : f.parsed.KeepsValues host)
    (distinct : f.parsed.fieldIds.Nodup) : (∃ e, (f.complaints host).value.2 = .error e) ↔
      (∃ key e, (f.complaintsAt host key).value.2 = .error e) ∨
        ∃ e, f.violations host = .error e := by
  have fields : (∃ key e, (f.complaintsAt host key).value.2 = .error e) ↔
      ∃ p ∈ f.parsed.fields, ∃ e, (f.fieldComplaints host p).value.2 = .error e := by
    constructor
    · rintro ⟨key, e, he⟩
      unfold complaintsAt at he
      split at he
      · next p hp => exact ⟨p, List.mem_of_find?_eq_some hp, e, he⟩
      · cases he
    · rintro ⟨p, hp, e, he⟩
      refine ⟨p.id, e, ?_⟩
      unfold complaintsAt
      rw [ParsedSchema.field?_of_mem distinct hp]
      exact he
  rw [complaints_eq keeps, fields, ← fieldsComplaints_error_iff keeps fun _ h => h]
  cases (f.fieldsComplaints host f.parsed.fields).value.2 with
  | error e => simp [Except.bind]
  | ok found => cases f.violations host <;> simp [Except.bind, Except.map]

theorem askRule_unaltered (keeps : f.parsed.KeepsValues host) {p : ParsedField}
    (hp : p ∈ f.parsed.fields) {r : CustomRule} (hr : r ∈ p.custom) (messages : List String) :
    (askRule host p.id (f, messages) r).value = (f,
      (complaint? (host.reply r.validator
        [Value.entry f.resolved p.id, .record f.resolved]).outcome r.message).elim messages
        (addDistinct messages)) := by
  have same : (askRule host p.id (f, messages) r).value.1 = f :=
    (askRule_amended .refl hp hr messages).unaltered keeps
  exact Prod.ext same rfl

end Form

/-- The functions of a schema that are given all values judge some as they judge others. -/
structure ParsedSchema.JudgesAlike (host : Host) (s : ParsedSchema) (values others : Table Value) :
    Prop where
  fields : ∀ p ∈ s.fields, ∀ r ∈ p.custom, ∀ v,
    (host.reply r.validator [v, .record others]).outcome =
      (host.reply r.validator [v, .record values]).outcome
  rule : ∀ r, s.rules.globalRule = some r →
    (r.violations host (.record others)).value = (r.violations host (.record values)).value
  form : ∀ r ∈ s.schema.validation.elim [] GlobalValidation.customRules,
    (host.call r.validator [.record others]).value = (host.call r.validator [.record values]).value

theorem ParsedSchema.JudgesAlike.refl {host : Host} {s : ParsedSchema} (values : Table Value) :
    s.JudgesAlike host values values :=
  ⟨fun _ _ _ _ _ => rfl, fun _ _ => rfl, fun _ _ => rfl⟩

namespace Form

variable {host : Host} {f g : Form}

/-- Forms with the same schema, of whose fields the same has been made, with values that are the same at
each key and that are judged alike. -/
structure Agrees (host : Host) (f g : Form) : Prop where
  parsed : g.parsed = f.parsed
  fieldState : ∀ p ∈ f.parsed.fields, g.fieldState p.id = f.fieldState p.id
  entry : ∀ key, Value.entry g.resolved key = Value.entry f.resolved key
  judged : f.parsed.JudgesAlike host f.resolved g.resolved

namespace Agrees

theorem hasVisible (agrees : f.Agrees host g) : g.hasVisible = f.hasVisible := by
  funext key
  unfold Form.hasVisible Form.isVisible
  rw [agrees.parsed]
  cases hp : f.parsed.field? key with
  | none => rfl
  | some p =>
      have hid : p.id = key := by simpa using List.find?_some hp
      rw [← hid, agrees.fieldState p (List.mem_of_find?_eq_some hp)]

theorem violations (agrees : f.Agrees host g) : g.violations host = f.violations host := by
  unfold Form.violations
  rw [agrees.parsed]
  cases hr : f.parsed.rules.globalRule with
  | none => rfl
  | some r => exact agrees.judged.rule r hr

theorem failures (agrees : f.Agrees host g) (issues : List Issue) :
    g.failures host issues = f.failures host issues := by
  have placed : g.placeOf = f.placeOf := by
    funext i
    unfold placeOf
    rw [agrees.hasVisible]
  have targeted : g.targets = f.targets := by
    funext r
    unfold targets
    rw [agrees.hasVisible]
  have rules : g.formRules = f.formRules := by
    unfold formRules
    rw [agrees.parsed]
  have told : ∀ r ∈ f.formRules, g.formMessage? host r = f.formMessage? host r := by
    intro r hr
    unfold formMessage?
    rw [agrees.judged.form r hr]
  unfold Form.failures
  rw [placed, targeted, rules]
  refine congrArg _ (List.flatMap_congr fun r hr => ?_)
  rw [told r hr]

section Asking

variable (agrees : f.Agrees host g) (keeps : f.parsed.KeepsValues host)
include agrees keeps

theorem askRules {p : ParsedField} (hp : p ∈ f.parsed.fields) {rules : List CustomRule}
    (hr : ∀ r ∈ rules, r ∈ p.custom) (messages : List String) :
    (rules.foldlM (askRule host p.id) (g, messages)).value.2 =
      (rules.foldlM (askRule host p.id) (f, messages)).value.2 := by
  induction rules generalizing messages with
  | nil => rfl
  | cons r rules ih =>
      rw [List.forall_mem_cons] at hr
      have keeps' : g.parsed.KeepsValues host := agrees.parsed.symm ▸ keeps
      have hp' : p ∈ g.parsed.fields := agrees.parsed.symm ▸ hp
      rw [List.foldlM_cons, List.foldlM_cons, Logged.value_bind, Logged.value_bind,
        askRule_unaltered keeps hp hr.1, askRule_unaltered keeps' hp' hr.1, agrees.entry,
        agrees.judged.fields p hp r hr.1]
      exact ih hr.2 _

theorem fieldComplaints {p : ParsedField} (hp : p ∈ f.parsed.fields) :
    (g.fieldComplaints host p).value.2 = (f.fieldComplaints host p).value.2 := by
  have asked (messages : List String) := agrees.askRules keeps hp (fun _ h => h) messages
  unfold Form.fieldComplaints
  rw [agrees.fieldState p hp, agrees.entry]
  dsimp only
  split
  · rfl
  · split
    · rfl
    · unfold valueComplaints
      cases p.rule with
      | none => exact congrArg Except.ok (asked [])
      | some r =>
          rw [Logged.value_bind, Logged.value_bind]
          cases (r.check host (Value.entry f.resolved p.id)).value with
          | error e => rfl
          | ok messages => exact congrArg Except.ok (asked messages)

/-- The same is complained of at each field. -/
theorem complaintsAt (key : String) :
    (g.complaintsAt host key).value.2 = (f.complaintsAt host key).value.2 := by
  unfold Form.complaintsAt
  rw [agrees.parsed]
  cases hp : f.parsed.field? key with
  | none => rfl
  | some p => exact agrees.fieldComplaints keeps (List.mem_of_find?_eq_some hp)

/-- The same is complained of. -/
theorem complaints : (g.complaints host).value.2 = (f.complaints host).value.2 := by
  have keeps' : g.parsed.KeepsValues host := agrees.parsed.symm ▸ keeps
  have fields (asked : List ParsedField) (known : ∀ p ∈ asked, p ∈ f.parsed.fields) :
      (g.fieldsComplaints host asked).value.2 = (f.fieldsComplaints host asked).value.2 := by
    induction asked with
    | nil => rfl
    | cons p asked ih =>
        rw [List.forall_mem_cons] at known
        have hp' : p ∈ g.parsed.fields := agrees.parsed.symm ▸ known.1
        rw [fieldsComplaints_cons keeps known.1, fieldsComplaints_cons keeps' hp',
          agrees.fieldComplaints keeps known.1, ih known.2]
  rw [complaints_eq keeps, complaints_eq keeps', agrees.parsed, fields _ fun _ h => h,
    agrees.violations]
  simp only [agrees.failures]

end Asking

end Agrees

/-- Forms with the same schema and values, of whose fields the same has been made. -/
structure Alike (f g : Form) : Prop where
  parsed : g.parsed = f.parsed
  values : g.state.values = f.state.values
  fieldStates : g.fieldStates = f.fieldStates

namespace Alike

theorem agrees (alike : f.Alike g) (host : Host) : f.Agrees host g := by
  have resolved : g.resolved = f.resolved := by
    unfold Form.resolved
    rw [alike.parsed, alike.values]
  refine ⟨alike.parsed, fun p _ => ?_, fun key => ?_, ?_⟩
  · unfold Form.fieldState
    rw [alike.fieldStates]
  · rw [resolved]
  · rw [resolved]
    exact .refl _

theorem complaints (alike : f.Alike g) (keeps : f.parsed.KeepsValues host) :
    (g.complaints host).value.2 = (f.complaints host).value.2 :=
  (alike.agrees host).complaints keeps

end Alike

end Form

end FormEngine
