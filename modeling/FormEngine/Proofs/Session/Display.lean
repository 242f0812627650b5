import FormEngine.Proofs.Render.Containment
import FormEngine.Proofs.Session.Freshness
import FormEngine.Proofs.Session.Integrity

/-!
What is rendered and what is validated. A renderer is given the value of a field, or else its default, or
else the empty value of its type; checks and the application see the resolved values, in which a default
stands in for a key that is missing but not for a null. The two differ at a null in the place of which a
default is rendered, and nowhere else.
-/

namespace FormEngine

namespace Form

variable {host : Host} {f g : Form}

/-- The values of a form and those it goes back to are found under distinct keys. -/
structure Keyed (f : Form) : Prop where
  values : f.state.values.keys.Nodup
  snapshot : f.snapshot.keys.Nodup

namespace Keyed

theorem congr (h : f.Keyed) (values : g.state.values = f.state.values)
    (snapshot : g.snapshot = f.snapshot) : g.Keyed :=
  ⟨values ▸ h.values, snapshot ▸ h.snapshot⟩

theorem amend (h : f.Keyed) (id : String) (v : Value) : (f.amend id v).Keyed := by
  unfold Form.amend
  split
  · exact ⟨Table.nodup_keys_put h.values id v, h.snapshot⟩
  · exact ⟨h.values, h.snapshot⟩

theorem amended {ps : List ParsedField} (h : f.Keyed) (hg : f.Amended host ps g) : g.Keyed := by
  induction hg with
  | refl => exact h
  | amend p r v _ _ _ _ ih => exact ih.amend p.id v

end Keyed

/-- Each field has its own default, if any, among those of the schema. -/
theorem get?_defaults (distinct : f.parsed.fieldIds.Nodup) {p : ParsedField}
    (hp : p ∈ f.parsed.fields) :
    (Table.ofEntries (f.parsed.fields.filterMap fun p =>
      if p.field.defaultValue.isNull then none else some (p.id, p.field.defaultValue))).get? p.id =
        if p.field.defaultValue.isNull then none else some p.field.defaultValue := by
  let declared := fun p : ParsedField =>
    if p.field.defaultValue.isNull then none else some (p.id, p.field.defaultValue)
  have keys : Table.keys (f.parsed.fields.filterMap declared) =
      (f.parsed.fields.filter fun p => !p.field.defaultValue.isNull).map ParsedField.id := by
    unfold Table.keys
    rw [List.map_filterMap, ← List.filterMap_eq_map, List.filterMap_filter]
    refine congrArg (List.filterMap · _) (funext fun p => ?_)
    cases hd : p.field.defaultValue.isNull <;> simp [declared, hd]
  have nodup : (Table.keys (f.parsed.fields.filterMap declared)).Nodup := by
    rw [keys]
    exact distinct.sublist (List.filter_sublist.map _)
  rw [Table.ofEntries_eq nodup]
  cases hd : p.field.defaultValue.isNull with
  | true =>
      refine Table.get?_eq_none fun hk => ?_
      rw [keys] at hk
      obtain ⟨q, hq, same⟩ := List.mem_map.mp hk
      obtain ⟨hq, some_⟩ := List.mem_filter.mp hq
      have found := ParsedSchema.field?_of_mem distinct hq
      rw [same, ParsedSchema.field?_of_mem distinct hp] at found
      simp [← Option.some.inj found, hd] at some_
  | false =>
      refine Table.get?_of_mem nodup (List.mem_filterMap.mpr ⟨p, hp, ?_⟩)
      simp [declared, hd]

/-- What a field resolves to is its value, even a null, or else its default. -/
theorem get?_resolved (keyed : f.Keyed) (distinct : f.parsed.fieldIds.Nodup) {p : ParsedField}
    (hp : p ∈ f.parsed.fields) : f.resolved.get? p.id = (f.state.values.get? p.id).or
      (if p.field.defaultValue.isNull then none else some p.field.defaultValue) := by
  rw [← get?_defaults distinct hp]
  exact Table.get?_merge _ keyed.values p.id

/-- A renderer is given what a field resolves to, or the empty value of its type, unless the value is a
null in the place of which a default is rendered. -/
theorem valueOf_eq_iff (keyed : f.Keyed) (distinct : f.parsed.fieldIds.Nodup) {p : ParsedField}
    (hp : p ∈ f.parsed.fields) (disabled : Bool) :
    ((f.context disabled).valueOf p.field =
      if (Value.entry f.resolved p.id).isNull then FieldType.emptyValueOf p.type
      else Value.entry f.resolved p.id) ↔
    ¬ (f.state.values.get? p.id = some .null ∧ p.field.defaultValue.isNull = false ∧
      p.field.defaultValue ≠ FieldType.emptyValueOf p.type) := by
  have resolved : Value.entry f.resolved p.id = ((f.state.values.get? p.id).or
      (if p.field.defaultValue.isNull then none else some p.field.defaultValue)).getD .null :=
    congrArg (fun v => v.getD Value.null) (get?_resolved keyed distinct hp)
  have value : Value.entry (f.context disabled).values p.field.id =
      (f.state.values.get? p.id).getD .null := rfl
  unfold RenderContext.valueOf
  rw [resolved, value]
  dsimp only [ParsedField.type]
  have null : Value.null.isNull = true := rfl
  cases f.state.values.get? p.id with
  | none => cases hd : p.field.defaultValue.isNull <;> simp [hd, null]
  | some v =>
      cases v with
      | null => cases hd : p.field.defaultValue.isNull <;> simp [null]
      | _ => simp [Value.isNull]

/-- The fields that are shown are rendered one by one. -/
theorem render_outcomes (f : Form) (settings : RenderSettings) (disabled : Bool) :
    List.Forall₂ (fun field n => ∃ failure, settings.Outcome (f.context disabled) field n failure)
      f.visibleFields (f.render settings disabled).value := by
  unfold Form.render
  rw [RenderSettings.renderFields_eq, List.forall₂_map_right_iff, List.forall₂_same]
  intro field _
  obtain ⟨n, failure, outcome⟩ := settings.exists_outcome (f.context disabled) field
  rw [outcome.render_eq]
  exact ⟨failure, outcome⟩

end Form

namespace Session

variable {app : Application}

open Form (Keyed)

theorem keyed_upkeep (app : Application) : Upkeep app overlook fun _ f => f.Keyed where
  perm _ h := h
  calledBack h := h.congr rfl rfl
  put {_ f} changes h := by
    obtain ⟨states, frame⟩ := Form.refresh_frame app.host changes.keys (f.put changes)
    rw [frame]
    exact ⟨Table.nodup_keys_merge h.values changes, h.snapshot⟩
  cutShort _ h := h.congr rfl rfl
  superseded _ _ h := h.congr rfl rfl
  inquired _ _ _ _ _ _ h := h.congr rfl rfl
  weighed h := h.congr rfl rfl
  syncing _ h := h.congr rfl rfl
  mounted h := h.congr rfl rfl
  unmounted _ h := h.congr rfl rfl
  touched _ h := h.congr rfl rfl
  amended hg h := h.amended hg
  blamed _ _ _ h := h.congr rfl rfl
  settled _ _ h := h.congr rfl rfl
  reported {_ f} h := by
    obtain ⟨reported, frame⟩ := f.report_frame
    rw [frame]
    exact h.congr rfl rfl
  seeded {_ f} parsed snapshot _ origin h := by
    obtain ⟨states, frame⟩ := Form.seed_frame app.host { f with parsed, snapshot }
    have distinct : snapshot.keys.Nodup := by
      rcases origin with rfl | distinct
      · exact h.snapshot
      · exact distinct
    rw [frame]
    exact ⟨distinct, distinct⟩

theorem keyed_course (app : Application) (allowed : FormCommand → Prop) :
    Course app allowed (Keeps overlook fun _ f => f.Keyed) where
  toLaw := (keyed_upkeep app).law allowed
  arranged _ _ _ _ h := h
  accepted _ _ _ _ h := h.congr rfl rfl
  handed _ _ _ _ h := h.congr rfl rfl
  ended s id epoch fault _ h := by
    obtain ⟨submitting, frame⟩ :=
      Form.endSubmission_frame id epoch { s.form with submitFault := fault }
    rw [frame]
    exact h.congr rfl rfl

theorem inquireOn_keyed (app : Application) (s : Session) (id : Nat) (q : Inquiry)
    (stage : InquiryStage) (h : s.form.Keyed) : (s.inquireOn app id q stage).form.Keyed := by
  have inquiring : Inquiring app q (fun _ => True) (fun _ => True)
      fun s t => s.form.Keyed → t.form.Keyed := {
    silent := trivial
    told := fun _ _ => trivial
    trans := fun h h' hs => h' (h hs)
    noted := fun _ _ _ hs => hs
    asked := fun _ _ _ _ hs => hs.congr rfl rfl
    amended := fun s _ _ v _ _ _ hs => hs.amend q.field.id v
    complained := fun _ _ _ _ _ _ _ hs => hs.congr rfl rfl
    slept := fun _ _ _ _ _ _ hs => hs
    forgot := fun _ _ hs => hs }
  exact inquiring.follows_inquireOn id trivial (fun _ _ => trivial) s h

/-- In every session that a form can come to, values are found under distinct keys. -/
theorem Reachable.keyed {s : Session} (h : Reachable app s) : s.form.Keyed := by
  obtain ⟨begun, hb, led⟩ := h
  have blank : begun.form.Keyed := by
    obtain ⟨source, parsed, given, snapshot, state, reactions, -, hg, rfl⟩ := hb
    exact ⟨nodup_initialValues hg, nodup_initialValues hg⟩
  refine (led.keeps (keyed_course app fun _ => True) (fun keeps => keeps []) ?_
    (fun _ _ => trivial) blank).1
  intro s ready id q stage _ keyed _
  exact inquireOn_keyed app { s with agenda.ready := ready } id q stage keyed

/-- In every session that a form can come to, the fields that are shown are rendered one by one, each from
its own props. The value that a renderer is given is the one that checks and submissions see, or the
empty value of the type where that is a null or missing, except just where the form holds a null and the
field has a default that is not the empty value: there the default is rendered. -/
theorem rendered_value_agrees_iff {s : Session} (h : Reachable app s) (settings : RenderSettings)
    (disabled : Bool) :
    List.Forall₂ (fun f n => ∃ failure, settings.Outcome (s.form.context disabled) f n failure)
      s.form.visibleFields (s.form.render settings disabled).value ∧
    ∀ f ∈ s.form.visibleFields,
      (((s.form.context disabled).propsOf f).value =
        (if (Value.entry s.form.resolved f.id).isNull then FieldType.emptyValueOf f.type
        else Value.entry s.form.resolved f.id) ↔
      ¬ (s.form.state.values.get? f.id = some .null ∧ f.defaultValue.isNull = false ∧
        f.defaultValue ≠ FieldType.emptyValueOf f.type)) ∧
      (s.form.state.values.get? f.id = some .null → f.defaultValue.isNull = false →
        ((s.form.context disabled).propsOf f).value = f.defaultValue ∧
          Value.entry s.form.resolved f.id = .null) := by
  refine ⟨s.form.render_outcomes settings disabled, fun f hf => ?_⟩
  obtain ⟨p, hp, rfl⟩ := List.mem_map.mp hf
  have hp := (List.mem_filter.mp hp).1
  have distinct := h.intact.integral.distinct
  refine ⟨s.form.valueOf_eq_iff h.keyed distinct hp disabled, fun null declared => ⟨?_, ?_⟩⟩
  · have value : Value.entry (s.form.context disabled).values p.field.id = .null :=
      congrArg (fun v => v.getD Value.null) null
    have unset : Value.null.isNull = true := rfl
    change (s.form.context disabled).valueOf p.field = _
    simp [RenderContext.valueOf, value, declared, unset]
  · have resolved := s.form.get?_resolved h.keyed distinct hp
    rw [show s.form.state.values.get? p.id = some .null from null] at resolved
    exact congrArg (fun v => v.getD Value.null) resolved

/-- A field with a default. -/
def defaultField : FormField := { FormField.plain "a" "text" with defaultValue := .str "x" }

def defaultSchema : FormSchema := .plain [defaultField, .plain "b" "text"]

/-- The field and another one without a default were set to null. -/
def nullSession : Session :=
  let s := ((defaultSchema.begin .content).perform .content (.change "a" .null)).1
  (s.perform .content (.change "b" .null)).1

theorem nullSession_reachable : Reachable .content nullSession :=
  ⟨_, FormSchema.begins (s := defaultSchema) (by decide +kernel),
    (Leads.refl.command _ trivial).command _ trivial⟩

theorem nullSession_visibleFields :
    nullSession.form.visibleFields = [defaultField, .plain "b" "text"] := rfl

/-- The field without a default is rendered as its type has it, the other one as its default. -/
theorem nullSession_displays :
    ((nullSession.form.context false).propsOf (.plain "b" "text")).value =
      FieldType.emptyValueOf "text" ∧
    ((nullSession.form.context false).propsOf defaultField).value = .str "x" := by
  obtain ⟨-, agrees⟩ := rendered_value_agrees_iff nullSession_reachable {} false
  rw [nullSession_visibleFields] at agrees
  obtain ⟨-, differs⟩ := agrees defaultField (by simp)
  obtain ⟨same, -⟩ := agrees (.plain "b" "text") (by simp)
  have undeclared : (FormField.plain "b" "text").defaultValue.isNull = true := rfl
  refine ⟨same.mpr fun h => ?_, (differs rfl rfl).1⟩
  exact Bool.noConfusion (undeclared.symm.trans h.2.1)

/-- What is rendered can be another value than the one that is checked. -/
theorem null_rendered_as_default : ¬ ∀ (app : Application) (s : Session), Reachable app s →
    ∀ f ∈ s.form.visibleFields, ((s.form.context app.disabled).propsOf f).value =
      if (Value.entry s.form.resolved f.id).isNull then FieldType.emptyValueOf f.type
      else Value.entry s.form.resolved f.id := by
  intro always
  have agrees := always .content nullSession nullSession_reachable defaultField (by
    rw [nullSession_visibleFields]
    exact List.mem_cons_self)
  have rendered : ((nullSession.form.context false).propsOf defaultField).value = .str "x" := rfl
  have resolved : Value.entry nullSession.form.resolved defaultField.id = .null := rfl
  have empty : FieldType.emptyValueOf defaultField.type = .str "" := rfl
  rw [resolved, empty] at agrees
  exact absurd (Value.str.inj (rendered.symm.trans agrees)) (by decide)

end Session

end FormEngine
