import FormEngine.Proofs.Form.Combination

/-!
Which fields are shown, and where complaints belong. A commit changes nothing about a field that does not
depend on what was put in, and checks change nothing about any. What they find goes to fields that are
shown, or to the form.
-/

namespace FormEngine

theorem ParsedSchema.isSome_field?_iff {s : ParsedSchema} {id : String} :
    (s.field? id).isSome = true ↔ id ∈ s.fieldIds := by
  unfold field? fieldIds
  simp [List.find?_isSome]

namespace Form

variable {host : Host} {f g : Form}

/-- Complaints belong under a key that names a field that is shown, or under that of the form. -/
def HasPlace (f : Form) (key : String) : Prop := key = formKey ∨ f.hasVisible key = true

theorem HasPlace.of_hasVisible {key : String} (h : f.HasPlace key)
    (same : g.hasVisible key = f.hasVisible key) : g.HasPlace key :=
  h.imp_right fun shown => same.trans shown

theorem hasVisible_congr {key : String} (fieldIds : g.parsed.fieldIds = f.parsed.fieldIds)
    (state : g.fieldState key = f.fieldState key) : g.hasVisible key = f.hasVisible key := by
  have known : (g.parsed.field? key).isSome = (f.parsed.field? key).isSome := by
    rw [Bool.eq_iff_iff, ParsedSchema.isSome_field?_iff, ParsedSchema.isSome_field?_iff, fieldIds]
  unfold hasVisible isVisible
  rw [known, state]

theorem fieldState_evaluateFields_of_not_mem (values : Table Value) (f : Form) {ids : List String}
    {key : String} (h : key ∉ ids) :
    (ids.foldlM (evaluateField host values) f).value.fieldState key = f.fieldState key := by
  induction ids generalizing f with
  | nil => rfl
  | cons id ids ih =>
      simp only [List.mem_cons, not_or] at h
      rw [List.foldlM_cons, Logged.value_bind, ih _ h.2]
      unfold evaluateField
      split
      · rfl
      · rw [Logged.value_bind]
        unfold fieldState
        dsimp only [Logged.value_pure]
        rw [Table.get?_put_ne _ _ h.1]

/-- A commit changes nothing about a field that does not depend on what was put in. -/
theorem hasVisible_refresh {changes : Table Value} {key : String}
    (h : key ∉ f.dependents changes.keys) :
    ((f.put changes).refresh host changes.keys).value.hasVisible key = f.hasVisible key := by
  obtain ⟨states, frame⟩ := refresh_frame host changes.keys (f.put changes)
  refine hasVisible_congr ?_ ?_
  · rw [frame]
    rfl
  · exact fieldState_evaluateFields_of_not_mem _ (f.put changes) h

theorem Amended.fieldStates {ps : List ParsedField} (h : f.Amended host ps g) :
    g.fieldStates = f.fieldStates := by
  obtain ⟨values, parsed, rfl⟩ := h.frame
  rfl

theorem hasVisible_amend (id : String) (v : Value) (f : Form) (key : String) :
    (f.amend id v).hasVisible key = f.hasVisible key := by
  refine hasVisible_congr (fieldIds_amend id v f) ?_
  obtain ⟨values, parsed, frame, -⟩ := amend_frame id v f
  rw [frame]
  rfl

theorem Amended.hasVisible {ps : List ParsedField} (h : f.Amended host ps g) (key : String) :
    g.hasVisible key = f.hasVisible key := by
  refine hasVisible_congr h.fieldIds ?_
  unfold fieldState
  rw [h.fieldStates]

/-- Only a field that is shown is complained of. -/
theorem hasVisible_of_complaintsAt {id : String} {messages : List String}
    (h : (f.complaintsAt host id).value = (g, .ok messages)) (some_ : messages ≠ []) :
    g.hasVisible id = true := by
  have amended := complaintsAt_amended host f id
  rw [h] at amended
  rw [amended.hasVisible]
  refine Decidable.byContradiction fun hidden => some_ ?_
  have none : (f.complaintsAt host id).value.2 = .ok [] :=
    complaintsAt_hidden (Bool.eq_false_iff.mpr hidden)
  rw [h] at none
  exact Except.ok.inj none

theorem isVisible_of_fieldComplaints {p : ParsedField} {messages : List String}
    (h : (f.fieldComplaints host p).value = (g, .ok messages)) (some_ : messages ≠ []) :
    f.isVisible p.id = true := by
  refine Decidable.byContradiction fun hidden => some_ ?_
  have hidden : (f.fieldState p.id).visible = false := Bool.eq_false_iff.mpr hidden
  unfold fieldComplaints at h
  dsimp only at h
  rw [hidden] at h
  exact (Except.ok.inj (congrArg Prod.snd h)).symm

/-- What is found about fields is found about those that are shown. -/
theorem isVisible_of_fieldsComplaints {asked : List ParsedField} {found : Complaints}
    (h : (f.fieldsComplaints host asked).value.2 = .ok found) :
    ∀ key ∈ found.keys, f.isVisible key = true := by
  induction asked generalizing f found with
  | nil =>
      cases h
      simp [Table.keys]
  | cons p asked ih =>
      have amended : f.Amended host [p] (f.fieldComplaints host p).value.1 :=
        fieldComplaints_amended .refl List.mem_cons_self
      unfold fieldsComplaints at h
      rw [Logged.value_bind] at h
      split at h
      · cases h
      · next g messages hm =>
        rw [hm] at amended
        rw [Logged.value_bind] at h
        cases ho : (g.fieldsComplaints host asked).value.2 with
        | error e =>
            simp only [ho] at h
            cases h
        | ok others =>
            have rest (key : String) (hk : key ∈ others.keys) : f.isVisible key = true := by
              have shown := ih ho key hk
              unfold isVisible fieldState at shown ⊢
              rw [amended.fieldStates] at shown
              exact shown
            simp only [ho] at h
            cases h
            split
            · exact rest
            · next some_ =>
              refine List.forall_mem_cons.mpr ⟨?_, rest⟩
              exact isVisible_of_fieldComplaints hm (by simpa using some_)

theorem mem_keys_addAll {errors : Complaints} {added : List (String × String)} {key : String}
    (h : key ∈ (added.foldl addComplaint errors).keys) :
    key ∈ errors.keys ∨ ∃ c ∈ added, c.1 = key := by
  induction added generalizing errors with
  | nil => exact .inl h
  | cons c added ih =>
      rcases ih h with h | ⟨d, hd, hk⟩
      · unfold addComplaint at h
        rcases (Table.mem_keys_merge errors [(c.1, _)] key).mp h with h | h
        · exact .inl h
        · exact .inr ⟨c, List.mem_cons_self, (List.mem_singleton.mp h).symm⟩
      · exact .inr ⟨d, List.mem_cons_of_mem _ hd, hk⟩

/-- All that checks find is found where it belongs. -/
theorem hasPlace_of_complaints {errors : Complaints} {key : String}
    (h : (f.complaints host).value = (g, .ok errors)) (hk : key ∈ errors.keys) :
    g.HasPlace key := by
  obtain ⟨found, issues, hf, -, rfl⟩ := complaints_eq_ok h
  have amended : f.Amended host f.parsed.fields g := by
    have amended := complaints_amended host f
    rwa [h] at amended
  rcases mem_keys_addAll hk with hk | ⟨c, hc, rfl⟩
  · have hk : key ∈ found.keys := by
      rcases (Table.mem_keys_merge [] found key).mp hk with hk | hk
      · cases hk
      · exact hk
    have found := congrArg Prod.snd hf
    have known : key ∈ f.parsed.fieldIds := (fieldsComplaints_entries found).1.subset hk
    refine .inr ?_
    rw [amended.hasVisible]
    exact Bool.and_eq_true_iff.mpr ⟨ParsedSchema.isSome_field?_iff.mpr known,
      isVisible_of_fieldsComplaints found key hk⟩
  · exact place_failures hc

end Form

end FormEngine
