import FormEngine.Proofs.Form.Frame

/-!
What is made of each field agrees with the values. After a commit only the fields that depend on
changed ones are looked at again; what the others read has not changed, so that looking at all of them
would come to the same.
-/

namespace FormEngine

namespace ConditionalRule

/-- The outcome of a predicate depends on its first argument only. -/
def IsLocal (host : Host) (r : ConditionalRule) : Prop :=
  ∀ f, r.predicate = some f → ∀ actual values others,
    (host.reply f [actual, values]).outcome = (host.reply f [actual, others]).outcome

/-- The outcome of a predicate depends on its first argument and on what is found under some keys. -/
def ReadsOnly (host : Host) (keys : List String) (r : ConditionalRule) : Prop :=
  ∀ f, r.predicate = some f → ∀ actual (values others : Table Value),
    (∀ key ∈ keys, values.get? key = others.get? key) →
    (host.reply f [actual, .record values]).outcome =
      (host.reply f [actual, .record others]).outcome

variable {host : Host} {values others : Table Value}

theorem IsLocal.readsOnly {r : ConditionalRule} (isLocal : r.IsLocal host) (keys : List String) :
    r.ReadsOnly host keys :=
  fun f hf actual values others _ => isLocal f hf actual (.record values) (.record others)

/-- A rule reads the field it refers to, and what its predicate does. -/
theorem evaluate_of_outcome {r : ConditionalRule}
    (outcome : ∀ f, r.predicate = some f → ∀ actual,
      (host.reply f [actual, .record values]).outcome =
        (host.reply f [actual, .record others]).outcome)
    (actual : Value.entry values r.field = Value.entry others r.field) :
    (r.evaluate host values).value = (r.evaluate host others).value := by
  have asked (actual : Value) :
      (r.ask host actual values).value = (r.ask host actual others).value := by
    unfold ask
    split
    · rfl
    · next f hf =>
      rw [Logged.value_bind, Logged.value_bind]
      unfold Host.call
      dsimp only
      rw [outcome f hf actual]
  unfold evaluate
  dsimp only
  rw [actual]
  split
  · rfl
  · exact asked _
  · rfl

theorem evaluate_congr {r : ConditionalRule} {keys : List String} (reads : r.ReadsOnly host keys)
    (refers : r.field ∈ keys) (same : ∀ key ∈ keys, values.get? key = others.get? key) :
    (r.evaluate host values).value = (r.evaluate host others).value := by
  refine evaluate_of_outcome (fun f hf actual => reads f hf actual values others same) ?_
  unfold Value.entry
  rw [same r.field refers]

/-- A rule whose predicate is local reads the field it refers to; a missing value is read as null. -/
theorem IsLocal.evaluate_congr {r : ConditionalRule} (isLocal : r.IsLocal host)
    (same : Value.entry values r.field = Value.entry others r.field) :
    (r.evaluate host values).value = (r.evaluate host others).value :=
  evaluate_of_outcome (fun f hf actual => isLocal f hf actual _ _) same

end ConditionalRule

namespace Conditions

variable {host : Host} {values others : Table Value}

theorem allHold_congr {rules : List ConditionalRule}
    (same : ∀ r ∈ rules, (r.evaluate host values).value = (r.evaluate host others).value) :
    (allHold host values rules).value = (allHold host others rules).value := by
  induction rules with
  | nil => rfl
  | cons r rules ih =>
      have rest := ih fun r hr => same r (List.mem_cons_of_mem _ hr)
      unfold allHold
      rw [Logged.value_bind, Logged.value_bind, same r List.mem_cons_self]
      split
      · exact rest
      · rfl

theorem someHolds_congr {rules : List ConditionalRule}
    (same : ∀ r ∈ rules, (r.evaluate host values).value = (r.evaluate host others).value) :
    (someHolds host values rules).value = (someHolds host others rules).value := by
  induction rules with
  | nil => rfl
  | cons r rules ih =>
      have rest := ih fun r hr => same r (List.mem_cons_of_mem _ hr)
      unfold someHolds
      rw [Logged.value_bind, Logged.value_bind, same r List.mem_cons_self]
      split
      · rfl
      · exact rest

theorem admits_congr {wanted unwanted : List ConditionalRule}
    (same : ∀ r ∈ wanted, (r.evaluate host values).value = (r.evaluate host others).value)
    (same' : ∀ r ∈ unwanted, (r.evaluate host values).value = (r.evaluate host others).value) :
    (admits host values wanted unwanted).value = (admits host others wanted unwanted).value := by
  unfold admits
  rw [Logged.value_bind, Logged.value_bind, allHold_congr same]
  split
  · rw [Logged.value_bind, Logged.value_bind, someHolds_congr same']
  · rfl

theorem mem_allRules {c : Conditions} {e : Effect} {r : ConditionalRule} (h : r ∈ c.rules e) :
    r ∈ c.allRules :=
  List.mem_flatMap.mpr ⟨e, by cases e <;> simp [Effect.all], h⟩

end Conditions

namespace FieldAttributes

/-- What conditions make of a field depends on which of its rules hold. -/
theorem state_of_evaluated {host : Host} {f : FieldAttributes} {values others : Table Value}
    (same : ∀ r ∈ f.conditionalRules,
      (r.evaluate host values).value = (r.evaluate host others).value) :
    (f.state host values).value = (f.state host others).value := by
  unfold state
  cases hc : f.conditional with
  | none => rfl
  | some c =>
      have rules : f.conditionalRules = c.allRules := by
        unfold conditionalRules
        rw [hc]
        rfl
      have evaluated (e : Effect) : ∀ r ∈ c.rules e,
          (r.evaluate host values).value = (r.evaluate host others).value :=
        fun r hr => same r (rules ▸ Conditions.mem_allRules hr)
      have visible := Conditions.admits_congr (evaluated .shows) (evaluated .hides)
      have enabled := Conditions.admits_congr (evaluated .enables) (evaluated .disables)
      have required := Conditions.someHolds_congr (evaluated .requires)
      simp only [Logged.value_bind, visible, enabled]
      cases f.isRequired with
      | true => rfl
      | false =>
          simp only [Bool.false_eq_true, if_false, Logged.value_bind, required]

/-- What conditions make of a field depends on the values that they read. -/
theorem state_congr {host : Host} {f : FieldAttributes} {keys : List String}
    {values others : Table Value}
    (reads : ∀ r ∈ f.conditionalRules, r.ReadsOnly host keys ∧ r.field ∈ keys)
    (same : ∀ key ∈ keys, values.get? key = others.get? key) :
    (f.state host values).value = (f.state host others).value :=
  state_of_evaluated fun r hr => ConditionalRule.evaluate_congr (reads r hr).1 (reads r hr).2 same

end FieldAttributes

namespace Logged

instance : LawfulMonad Logged := LawfulMonad.mk' Logged
  (fun x => congrArg (Logged.mk x.value) (List.append_nil x.events))
  (fun _ _ => rfl)
  (fun x _ _ => congrArg (Logged.mk _) (List.append_assoc x.events _ _))

theorem value_mapM {α β : Type} (f : α → Logged β) (xs : List α) :
    (xs.mapM f).value = xs.map fun x => (f x).value := by
  induction xs with
  | nil => rfl
  | cons x xs ih =>
      rw [List.mapM_cons, value_bind, value_bind, ih]
      rfl

end Logged

namespace ParsedSchema

/-- The outcome of each predicate depends on its first argument only. -/
def HasLocalPredicates (host : Host) (s : ParsedSchema) : Prop :=
  ∀ p ∈ s.fields, ∀ r ∈ p.field.conditionalRules, r.IsLocal host

/-- The outcome of each predicate depends on its first argument and on the values on which its field
depends. -/
def ReadsDependencies (host : Host) (s : ParsedSchema) : Prop :=
  ∀ p ∈ s.fields, ∀ r ∈ p.field.conditionalRules, r.ReadsOnly host p.field.dependencies

theorem HasLocalPredicates.reads {host : Host} {s : ParsedSchema}
    (isLocal : s.HasLocalPredicates host) : s.ReadsDependencies host :=
  fun p hp r hr => (isLocal p hp r hr).readsOnly _

/-- No function of a field, predicates included, alters its argument in place. -/
def KeepsValues (host : Host) (s : ParsedSchema) : Prop :=
  ∀ p ∈ s.fields, ∀ f ∈ p.functions, ∀ arguments, (host.run f arguments).altered = none

theorem keepsValues_of_withDefault {host : Host} {s : ParsedSchema} {id : String} {v : Value}
    (h : (s.withDefault id v).KeepsValues host) : s.KeepsValues host := by
  intro p hp
  have kept := h _ (List.mem_map.mpr ⟨p, hp, rfl⟩)
  dsimp only at kept
  split at kept
  · exact kept
  · exact kept

theorem mem_fieldIds {s : ParsedSchema} {id : String} {p : ParsedField} (h : s.field? id = some p) :
    id ∈ s.fieldIds := by
  have hid : p.id = id := by simpa using List.find?_some h
  exact List.mem_map.mpr ⟨p, List.mem_of_find?_eq_some h, hid⟩

end ParsedSchema

namespace Form

variable {host : Host} {f : Form}

/-- What is made of each field is what its conditions make of it for the present values. -/
def IsFresh (host : Host) (f : Form) : Prop :=
  ∀ p ∈ f.parsed.fields, f.fieldState p.id = (p.field.state host f.resolved).value

theorem IsFresh.congr {g : Form} (h : IsFresh host f) (parsed : g.parsed = f.parsed)
    (values : g.state.values = f.state.values) (fieldStates : g.fieldStates = f.fieldStates) :
    IsFresh host g := by
  unfold IsFresh fieldState resolved at h ⊢
  rw [parsed, values, fieldStates]
  exact h

theorem fieldState_evaluateField (values : Table Value) (distinct : f.parsed.fieldIds.Nodup)
    {p : ParsedField} (hp : p ∈ f.parsed.fields) (id : String) :
    (f.evaluateField host values id).value.fieldState p.id =
      if p.id = id then (p.field.state host values).value else f.fieldState p.id := by
  have found := ParsedSchema.field?_of_mem distinct hp
  unfold evaluateField
  split
  · next absent =>
    rw [if_neg]
    · rfl
    · rintro rfl
      rw [found] at absent
      cases absent
  · next q hq =>
    rw [Logged.value_bind]
    unfold fieldState
    dsimp only [Logged.value_pure]
    rw [Table.get?_put]
    split
    · next same =>
      rw [← same, found] at hq
      rw [Option.some.inj hq]
      rfl
    · rfl

/-- Evaluating some fields changes what is made of those and of no others. -/
theorem fieldState_evaluateFields (values : Table Value) (distinct : f.parsed.fieldIds.Nodup)
    {p : ParsedField} (hp : p ∈ f.parsed.fields) (ids : List String) :
    (ids.foldlM (evaluateField host values) f).value.fieldState p.id =
      if p.id ∈ ids then (p.field.state host values).value else f.fieldState p.id := by
  induction ids generalizing f with
  | nil => rfl
  | cons id ids ih =>
      have parsed : (f.evaluateField host values id).value.parsed = f.parsed := by
        obtain ⟨states, hs⟩ := evaluateField_frame host values f id
        rw [hs]
      rw [List.foldlM_cons, Logged.value_bind, ih (parsed ▸ distinct) (parsed ▸ hp),
        fieldState_evaluateField values distinct hp]
      by_cases hid : p.id = id
      · simp [hid]
      · simp [hid]

theorem fieldState_evaluateAll (distinct : f.parsed.fieldIds.Nodup) {p : ParsedField}
    (hp : p ∈ f.parsed.fields) :
    (f.evaluateAll host).value.fieldState p.id = (p.field.state host f.resolved).value := by
  let states := f.parsed.fields.map fun p => (p.id, (p.field.state host f.resolved).value)
  have evaluated : (f.evaluateAll host).value.fieldStates = Table.ofEntries states := by
    unfold evaluateAll
    rw [Logged.value_bind, Logged.value_mapM]
    rfl
  have nodup : (Table.keys states).Nodup := by
    rw [Table.keys, List.map_map]
    exact distinct
  have found := Table.get?_of_mem nodup (List.mem_map.mpr ⟨p, hp, rfl⟩)
  unfold fieldState
  rw [evaluated, Table.ofEntries_eq nodup, found]
  rfl

theorem evaluateAll_isFresh (distinct : f.parsed.fieldIds.Nodup) :
    IsFresh host (f.evaluateAll host).value :=
  fun _ hp => fieldState_evaluateAll distinct hp

theorem seed_isFresh (distinct : f.parsed.fieldIds.Nodup) : IsFresh host (f.seed host).value :=
  evaluateAll_isFresh distinct

/-- Changes make no difference to what the other keys resolve to. -/
theorem get?_resolved_put {changes : Table Value} {key : String} (h : key ∉ changes.keys) :
    (f.put changes).resolved.get? key = f.resolved.get? key :=
  Table.get?_merge_merge _ f.state.values h

/-- What conditions make of a field depends on the values on which the field depends. -/
theorem state_congr (sound : f.parsed.Sound) (reads : f.parsed.ReadsDependencies host)
    {p : ParsedField} (hp : p ∈ f.parsed.fields) {values others : Table Value}
    (same : ∀ key ∈ p.field.dependencies, values.get? key = others.get? key) :
    (p.field.state host values).value = (p.field.state host others).value :=
  FieldAttributes.state_congr (fun r hr => ⟨reads p hp r hr, sound.refers p hp r hr⟩) same

theorem mem_dependents_iff {ids : List String} {id : String} : id ∈ f.dependents ids ↔
    id ≠ "" ∧ ∃ changed ∈ ids, id ∈ f.parsed.dependencies.dependents.dependenciesOf changed := by
  unfold dependents
  rw [mem_distinctIds_iff, List.mem_flatMap]

theorem mem_dependents_append_iff {ids more : List String} {id : String} :
    id ∈ f.dependents (ids ++ more) ↔ id ∈ f.dependents ids ∨ id ∈ f.dependents more := by
  simp only [mem_dependents_iff, List.mem_append, or_and_right, exists_or, and_or_left]

theorem dependents_congr {g : Form} (dependencies : g.parsed.dependencies = f.parsed.dependencies)
    (ids : List String) : g.dependents ids = f.dependents ids := by
  unfold dependents
  rw [dependencies]

/-- A field depends on none of the changed ones unless it is among their dependents. -/
theorem not_mem_of_not_mem_dependents (sound : f.parsed.Sound) {p : ParsedField}
    (hp : p ∈ f.parsed.fields) {ids : List String} (spared : p.id ∉ f.dependents ids) {key : String}
    (depends : key ∈ p.field.dependencies) : key ∉ ids := fun changed =>
  spared (mem_dependents_iff.mpr ⟨sound.named p hp, key, changed, sound.listed p hp key depends⟩)

/-- It is enough to evaluate the fields that depend on changed ones. -/
theorem fieldState_refresh_of_reads (sound : f.parsed.Sound)
    (reads : f.parsed.ReadsDependencies host) (fresh : IsFresh host f) (changes : Table Value)
    {p : ParsedField} (hp : p ∈ f.parsed.fields) :
    ((f.put changes).refresh host changes.keys).value.fieldState p.id =
      (p.field.state host (f.put changes).resolved).value := by
  unfold refresh
  rw [fieldState_evaluateFields (f := f.put changes) _ sound.distinct hp]
  split
  · rfl
  · next independent =>
    refine (fresh p hp).trans (state_congr sound reads hp fun key depends => ?_)
    exact (get?_resolved_put (not_mem_of_not_mem_dependents sound hp independent depends)).symm

theorem refresh_isFresh (sound : f.parsed.Sound) (reads : f.parsed.ReadsDependencies host)
    (fresh : IsFresh host f) (changes : Table Value) :
    IsFresh host ((f.put changes).refresh host changes.keys).value := by
  have evaluated {p : ParsedField} :=
    fieldState_refresh_of_reads (p := p) sound reads fresh changes
  obtain ⟨states, hs⟩ := refresh_frame host changes.keys (f.put changes)
  rw [hs] at evaluated ⊢
  exact fun p hp => evaluated hp

/-- The schema is sound, and what is made of its fields is fresh where values stay as they are and
predicates read no others than those on which their field depends. -/
structure StaysFresh (host : Host) (f : Form) : Prop where
  sound : f.parsed.Sound
  reading : f.parsed.ReadsDependencies host → f.parsed.KeepsValues host → IsFresh host f

theorem keepsValues_of_amend {id : String} {v : Value}
    (h : (f.amend id v).parsed.KeepsValues host) : f.parsed.KeepsValues host := by
  obtain ⟨values, parsed, hf, rfl | rfl⟩ := amend_frame id v f
  · rw [hf] at h
    exact h
  · rw [hf] at h
    exact ParsedSchema.keepsValues_of_withDefault h

theorem Amended.keepsValues {ps : List ParsedField} {g : Form} (hg : f.Amended host ps g)
    (h : g.parsed.KeepsValues host) : f.parsed.KeepsValues host := by
  induction hg with
  | refl => exact h
  | amend p r v _ _ _ _ ih => exact ih (keepsValues_of_amend h)

/-- A function that checks a field alters no value where the functions of the fields do not. -/
theorem not_keepsValues {p : ParsedField} {r : CustomRule} {arguments : List Value} {v : Value}
    (hp : p ∈ f.parsed.fields) (hr : r ∈ p.custom)
    (hv : (host.reply r.validator arguments).altered = some v) : ¬ f.parsed.KeepsValues host := by
  intro keeps
  rw [host.reply_unaltered (keeps p hp r.validator ?_ arguments)] at hv
  · cases hv
  · refine List.mem_append_left _ (List.mem_append_right _ ?_)
    exact List.mem_map.mpr ⟨r, hr, rfl⟩

/-- So does a rule that takes time. -/
theorem not_keepsValues_of_asks {id : String} {rule : AsyncRule} {arguments : List Value} {v : Value}
    (h : rule ∈ f.asks id) (hv : (host.awaited rule.validator arguments).altered = some v) :
    ¬ f.parsed.KeepsValues host := by
  intro keeps
  unfold asks at h
  cases hp : f.parsed.field? id with
  | none => simp [hp] at h
  | some p =>
      rw [hp] at h
      rw [host.awaited_unaltered
        (keeps p (List.mem_of_find?_eq_some hp) rule.validator ?_ arguments)] at hv
      · cases hv
      · exact List.mem_append_right _ (List.mem_map.mpr ⟨rule, h, rfl⟩)

namespace StaysFresh

variable {g : Form}

theorem fresh (h : StaysFresh host f) (isLocal : f.parsed.HasLocalPredicates host)
    (keeps : f.parsed.KeepsValues host) : IsFresh host f :=
  h.reading isLocal.reads keeps

theorem congr (h : StaysFresh host f) (parsed : g.parsed = f.parsed)
    (values : g.state.values = f.state.values) (fieldStates : g.fieldStates = f.fieldStates) :
    StaysFresh host g where
  sound := parsed ▸ h.sound
  reading reads keeps := by
    rw [parsed] at reads keeps
    exact (h.reading reads keeps).congr parsed values fieldStates

theorem amend (id : String) (v : Value) (alters : ¬ f.parsed.KeepsValues host)
    (h : StaysFresh host f) : StaysFresh host (f.amend id v) where
  sound := by
    obtain ⟨values, parsed, hf, rfl | rfl⟩ := amend_frame id v f
    · rw [hf]
      exact h.sound
    · rw [hf]
      exact ParsedSchema.sound_withDefault h.sound id v
  reading _ keeps := absurd (keepsValues_of_amend keeps) alters

theorem amended (hg : f.Amended host f.parsed.fields g) (h : StaysFresh host f) :
    StaysFresh host g := by
  induction hg with
  | refl => exact h
  | amend p r v hg hp hr hv ih =>
      have alters := not_keepsValues hp hr hv
      exact ih.amend p.id v fun keeps => alters (hg.keepsValues keeps)

theorem put (changes : Table Value) (h : StaysFresh host f) :
    StaysFresh host ((f.put changes).refresh host changes.keys).value := by
  have parsed : ((f.put changes).refresh host changes.keys).value.parsed = f.parsed := by
    obtain ⟨states, hs⟩ := refresh_frame host changes.keys (f.put changes)
    rw [hs]
    rfl
  refine ⟨parsed ▸ h.sound, fun reads keeps => ?_⟩
  rw [parsed] at reads keeps
  exact refresh_isFresh h.sound reads (h.reading reads keeps) changes

theorem seed (sound : f.parsed.Sound) : StaysFresh host (f.seed host).value where
  sound := sound
  reading _ _ := seed_isFresh sound.distinct

end StaysFresh

end Form

end FormEngine
