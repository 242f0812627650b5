import FormEngine.Proofs.Form.Fresh

/-!
What checks complain of. Whatever functions do, the messages about one field are distinct, and all
complaints are filed under fields of the schema or under the form.
-/

namespace FormEngine

theorem nodup_addDistinct {messages : List String} (h : messages.Nodup) (message : String) :
    (addDistinct messages message).Nodup := by
  unfold addDistinct
  split
  · exact h
  · next absent =>
    rw [List.nodup_append]
    refine ⟨h, by simp, fun a ha b hb same => absent ?_⟩
    rw [List.contains_iff_mem, ← List.mem_singleton.mp hb, ← same]
    exact ha

theorem addDistinct_ne_nil (messages : List String) (message : String) :
    addDistinct messages message ≠ [] := by
  unfold addDistinct
  split
  · next there => exact List.ne_nil_of_mem (List.contains_iff_mem.mp there)
  · simp

/-- Messages of one kind, followed by those of another that are new, each once. -/
def joinMessages (own others : List String) : List String :=
  own ++ (others.filter fun m => !own.contains m).eraseDups

/-- Texts are added to messages in their order. -/
theorem foldl_addDistinct (messages texts : List String) :
    texts.foldl addDistinct messages = joinMessages messages texts := by
  unfold joinMessages
  induction texts generalizing messages with
  | nil => simp
  | cons t texts ih =>
      rw [List.foldl_cons, ih, addDistinct]
      split
      · next there => rw [List.filter_cons_of_neg (by simpa using there)]
      · next absent =>
        rw [List.filter_cons_of_pos (by simpa using absent), List.eraseDups_cons,
          List.filter_filter, List.append_assoc, List.singleton_append]
        congr 4
        funext other
        simp [Bool.and_comm, Bool.beq_eq_decide_eq]

theorem mem_joinMessages {own others : List String} {m : String} :
    m ∈ joinMessages own others ↔ m ∈ own ∨ m ∈ others := by
  unfold joinMessages
  by_cases old : m ∈ own
  · simp [old]
  · simp [old, List.mem_eraseDups]

theorem joinMessages_eq_nil {own others : List String} :
    joinMessages own others = [] ↔ own = [] ∧ others = [] := by
  simp only [List.eq_nil_iff_forall_not_mem, mem_joinMessages, not_or, forall_and]

theorem FieldRule.nodup_distinct (texts : List String) : (FieldRule.distinct texts).Nodup := by
  have added (rest kept : List String) (h : kept.Nodup) : (rest.foldl addDistinct kept).Nodup := by
    induction rest generalizing kept with
    | nil => exact h
    | cons t rest ih => exact ih _ (nodup_addDistinct h t)
  exact added texts [] List.nodup_nil

namespace Form

variable {host : Host} {f g : Form} {p : ParsedField}

theorem nodup_askRules (rules : List CustomRule) (id : String) {messages : List String}
    (h : messages.Nodup) : (rules.foldlM (askRule host id) (f, messages)).value.2.Nodup := by
  induction rules generalizing f messages with
  | nil => exact h
  | cons r rules ih =>
      rw [List.foldlM_cons, Logged.value_bind]
      refine ih (f := (askRule host id (f, messages) r).value.1) ?_
      cases complaint? _ r.message with
      | none => exact h
      | some message => exact nodup_addDistinct h message

/-- The messages about one field are distinct. -/
theorem nodup_valueComplaints {v : Value} {messages : List String}
    (h : (f.valueComplaints host p v).value.2 = .ok messages) : messages.Nodup := by
  have asked {before : List String} (hb : before.Nodup)
      (h : Except.ok (ε := Fault) ((p.custom.foldlM (askRule host p.id) (f, before)).value.2) =
        .ok messages) : messages.Nodup := by
    rw [← Except.ok.inj h]
    exact nodup_askRules p.custom p.id hb
  unfold valueComplaints at h
  dsimp only at h
  cases hr : p.rule with
  | none =>
      rw [hr] at h
      exact asked List.nodup_nil h
  | some r =>
      rw [hr, Logged.value_bind] at h
      have checked : (r.check host v).value = ((r.violations host v).value).map fun found =>
        FieldRule.distinct (found.map Issue.message) := rfl
      cases hv : (r.violations host v).value with
      | error e =>
          rw [checked, hv] at h
          cases h
      | ok found =>
          rw [checked, hv] at h
          exact asked (FieldRule.nodup_distinct _) h

theorem nodup_fieldComplaints {messages : List String}
    (h : (f.fieldComplaints host p).value.2 = .ok messages) : messages.Nodup := by
  unfold fieldComplaints at h
  dsimp only at h
  split at h
  · cases h
    exact List.nodup_nil
  · split at h
    · cases h
      split
      · exact List.pairwise_singleton _ _
      · exact List.nodup_nil
    · exact nodup_valueComplaints h

theorem nodup_complaintsAt {id : String} {messages : List String}
    (h : (f.complaintsAt host id).value.2 = .ok messages) : messages.Nodup := by
  unfold complaintsAt at h
  split at h
  · exact nodup_fieldComplaints h
  · cases h
    exact List.nodup_nil

/-- What the rule for the form finds wrong. -/
def violations (host : Host) (f : Form) : Except Fault (List Issue) :=
  f.parsed.rules.globalRule.elim (.ok []) fun r => (r.violations host (.record f.resolved)).value

/-- The functions that check the form as a whole. -/
def formRules (f : Form) : List FormRule :=
  f.parsed.schema.validation.elim [] GlobalValidation.customRules

/-- What a function of the form complains of. -/
def formMessage? (host : Host) (f : Form) (r : FormRule) : Option String :=
  complaint? (host.call r.validator [.record f.resolved]).value r.message

/-- The complaints of the rule for the form and then those of its functions, each with its place. -/
def failures (host : Host) (f : Form) (found : List Issue) : List (String × String) :=
  found.map (fun i => (f.placeOf i, i.message)) ++ f.formRules.flatMap fun r =>
    (f.formMessage? host r).elim [] fun message => (f.targets r).map fun target => (target, message)

theorem formComplaints_eq (host : Host) (f : Form) :
    (f.formComplaints host).value = (f.violations host).map (f.failures host) := by
  have asked (r : FormRule) : (askFormRule host f f.resolved r).value =
      (f.formMessage? host r).elim [] fun message =>
        (f.targets r).map fun target => (target, message) := by
    unfold askFormRule formMessage?
    rw [Logged.value_bind]
    cases complaint? _ r.message <;> rfl
  have ruled : (f.ruleComplaints host f.resolved).value =
      (f.violations host).map fun found => found.map fun i => (f.placeOf i, i.message) := by
    unfold ruleComplaints violations
    cases f.parsed.rules.globalRule <;> rfl
  unfold formComplaints
  dsimp only
  rw [Logged.value_bind, ruled]
  cases f.violations host with
  | error e => rfl
  | ok found =>
      change Except.ok (_ ++ (f.formRules.mapM (askFormRule host f f.resolved)).value.flatten) = _
      rw [Logged.value_mapM, funext asked]
      rfl

/-- Whatever complains, its complaint goes to a field that is shown, or else to the form. -/
theorem place_failures {found : List Issue} {c : String × String} (h : c ∈ f.failures host found) :
    c.1 = formKey ∨ f.hasVisible c.1 = true := by
  rcases List.mem_append.mp h with h | h
  · obtain ⟨i, -, rfl⟩ := List.mem_map.mp h
    unfold placeOf
    dsimp only
    split
    · split
      · next shown => exact .inr shown
      · exact .inl rfl
    · exact .inl rfl
  · obtain ⟨r, -, h⟩ := List.mem_flatMap.mp h
    cases hm : f.formMessage? host r with
    | none => simp [hm] at h
    | some message =>
        rw [hm] at h
        obtain ⟨target, ht, rfl⟩ := List.mem_map.mp h
        unfold targets at ht
        dsimp only at ht
        split at ht
        · exact .inl (List.mem_singleton.mp ht)
        · exact .inr (List.mem_filter.mp ht).2

theorem mem_fieldIds_of_hasVisible {key : String} (h : f.hasVisible key = true) :
    key ∈ f.parsed.fieldIds := by
  obtain ⟨p, hp⟩ := Option.isSome_iff_exists.mp (Bool.and_eq_true_iff.mp h).1
  exact ParsedSchema.mem_fieldIds hp

/-- All complaints are those about the fields with those about the form filed among them. -/
theorem complaints_eq_ok {errors : Complaints} (h : (f.complaints host).value = (g, .ok errors)) :
    ∃ found issues, (f.fieldsComplaints host f.parsed.fields).value = (g, .ok found) ∧
      g.violations host = .ok issues ∧
      errors = (g.failures host issues).foldl addComplaint (Table.ofEntries found) := by
  unfold complaints at h
  rw [Logged.value_bind] at h
  split at h
  · next checked e hc => cases h
  · next checked found hc =>
    rw [Logged.value_bind, formComplaints_eq] at h
    cases hv : checked.violations host with
    | error e =>
        rw [hv] at h
        cases h
    | ok issues =>
        rw [hv] at h
        cases h
        exact ⟨found, issues, hc, hv, rfl⟩

end Form

namespace Complaints

/-- Each entry is about a field with one of some ids, or about the form, and has messages, all of them
distinct. -/
structure Proper (ids : List String) (errors : Complaints) : Prop where
  distinct : errors.keys.Nodup
  known : ∀ e ∈ errors, e.1 = formKey ∨ e.1 ∈ ids
  messages : ∀ e ∈ errors, e.2 ≠ [] ∧ e.2.Nodup

namespace Proper

variable {ids : List String} {errors : Complaints}

theorem none (ids : List String) : Proper ids [] :=
  ⟨List.nodup_nil, by simp, by simp⟩

theorem drop (h : Proper ids errors) (key : String) : Proper ids (Table.drop errors key) where
  distinct := by
    rw [Table.keys_drop]
    exact h.distinct.filter _
  known e he := h.known e (List.mem_filter.mp he).1
  messages e he := h.messages e (List.mem_filter.mp he).1

theorem put (h : Proper ids errors) {key : String} {messages : List String}
    (known : key = formKey ∨ key ∈ ids) (some_ : messages ≠ []) (distinct : messages.Nodup) :
    Proper ids (Table.put errors key messages) where
  distinct := Table.nodup_keys_put h.distinct key messages
  known e he := by
    rcases Table.mem_put he with rfl | he
    · exact known
    · exact h.known e he
  messages e he := by
    rcases Table.mem_put he with rfl | he
    · exact ⟨some_, distinct⟩
    · exact h.messages e he

theorem merge (h : Proper ids errors) {others : Complaints}
    (known : ∀ e ∈ others, e.1 ∈ ids) (messages : ∀ e ∈ others, e.2 ≠ [] ∧ e.2.Nodup) :
    Proper ids (Table.merge errors others) := by
  induction others generalizing errors with
  | nil => exact h
  | cons e others ih =>
      rw [List.forall_mem_cons] at known messages
      exact ih (h.put (.inr known.1) messages.1.1 messages.1.2) known.2 messages.2

/-- Adding messages one by one leaves each of them once. -/
theorem addAll (h : Proper ids errors) {added : List (String × String)}
    (known : ∀ c ∈ added, c.1 = formKey ∨ c.1 ∈ ids) :
    Proper ids (added.foldl Form.addComplaint errors) := by
  induction added generalizing errors with
  | nil => exact h
  | cons c added ih =>
      rw [List.forall_mem_cons] at known
      refine ih (h.put known.1 (addDistinct_ne_nil _ _) (nodup_addDistinct ?_ _)) known.2
      cases there : Table.get? errors c.1 with
      | none => exact List.nodup_nil
      | some messages => exact (h.messages _ (Table.mem_of_get? there)).2

end Proper

end Complaints

namespace Form

variable {host : Host} {f g : Form}

/-- What is found about fields is found about those that were asked about, in their order. -/
theorem fieldsComplaints_entries {asked : List ParsedField} {found : Complaints}
    (h : (f.fieldsComplaints host asked).value.2 = .ok found) :
    found.keys.Sublist (asked.map ParsedField.id) ∧ ∀ e ∈ found, e.2 ≠ [] ∧ e.2.Nodup := by
  induction asked generalizing f found with
  | nil =>
      cases h
      exact ⟨.refl _, by simp⟩
  | cons p asked ih =>
      unfold fieldsComplaints at h
      rw [Logged.value_bind] at h
      split at h
      · cases h
      · next g messages hm =>
        rw [Logged.value_bind] at h
        cases ho : (g.fieldsComplaints host asked).value.2 with
        | error e =>
            simp only [ho] at h
            cases h
        | ok others =>
            obtain ⟨keys, entries⟩ := ih ho
            simp only [ho] at h
            cases h
            split
            · exact ⟨keys.cons _, entries⟩
            · next some_ =>
              refine ⟨keys.cons_cons _, List.forall_mem_cons.mpr ⟨⟨by simpa using some_, ?_⟩, entries⟩⟩
              exact nodup_fieldComplaints (congrArg Prod.snd hm)

theorem fieldIds_amend (id : String) (v : Value) (f : Form) :
    (f.amend id v).parsed.fieldIds = f.parsed.fieldIds := by
  obtain ⟨values, parsed, hf, rfl | rfl⟩ := amend_frame id v f
  · rw [hf]
  · rw [hf]
    exact ParsedSchema.fieldIds_withDefault _ _ _

theorem Amended.fieldIds {ps : List ParsedField} (h : f.Amended host ps g) :
    g.parsed.fieldIds = f.parsed.fieldIds := by
  induction h with
  | refl => rfl
  | amend p r v _ _ _ _ ih => rw [fieldIds_amend, ih]

/-- All complaints are filed properly. -/
theorem complaints_proper {errors : Complaints}
    (h : (f.complaints host).value = (g, .ok errors)) : errors.Proper g.parsed.fieldIds := by
  have fieldIds : g.parsed.fieldIds = f.parsed.fieldIds := by
    have amended := complaints_amended host f
    rw [h] at amended
    exact amended.fieldIds
  obtain ⟨found, issues, hf, -, rfl⟩ := complaints_eq_ok h
  obtain ⟨keys, entries⟩ := fieldsComplaints_entries (congrArg Prod.snd hf)
  have filed : Complaints.Proper g.parsed.fieldIds (Table.ofEntries found) := by
    refine (Complaints.Proper.none _).merge (fun e he => ?_) entries
    rw [fieldIds]
    exact keys.subset (List.mem_map.mpr ⟨e, he, rfl⟩)
  exact filed.addAll fun c hc => (place_failures hc).imp_right mem_fieldIds_of_hasVisible

/-- Messages about a field are about a field of the schema. -/
theorem mem_fieldIds_of_complaintsAt {id : String} {messages : List String}
    (h : (f.complaintsAt host id).value = (g, .ok messages)) (some_ : messages ≠ []) :
    id ∈ g.parsed.fieldIds := by
  have amended := complaintsAt_amended host f id
  rw [h] at amended
  rw [amended.fieldIds]
  unfold complaintsAt at h
  split at h
  · next p hp => exact ParsedSchema.mem_fieldIds hp
  · cases h
    exact absurd rfl some_

end Form

end FormEngine
