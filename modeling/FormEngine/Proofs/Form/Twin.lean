import FormEngine.Proofs.Form.Excuse
import FormEngine.Proofs.Form.Frame

/-!
Two forms that look the same but have different pasts. What a form remembers of its past are counts, of
validations and of beginnings, and what goes with them; counts are only compared with each other, so that
it makes no difference by how much those of one form are ahead of those of the other. Whatever is done to
both leaves them looking the same. The two may belong to different hosts, of which one says no where the
other raises.
-/

namespace FormEngine

namespace Logged

variable {α β γ δ : Type}

theorem mk_bind (a : α) (events : List Event) (f : α → Logged β) :
    (⟨a, events⟩ : Logged α) >>= f = ⟨(f a).value, events ++ (f a).events⟩ :=
  rfl

/-- Results that are related, with the same events on the way to them. -/
structure Matches (R : α → β → Prop) (x : Logged α) (y : Logged β) : Prop where
  value : R x.value y.value
  events : y.events = x.events

namespace Matches

variable {R : α → β → Prop} {Q : γ → δ → Prop}

theorem pure {a : α} {b : β} (h : R a b) : Matches R (Pure.pure a) (Pure.pure b) := ⟨h, rfl⟩

theorem bind {x : Logged α} {y : Logged β} {f : α → Logged γ} {g : β → Logged δ}
    (h : Matches R x y) (next : ∀ a b, R a b → Matches Q (f a) (g b)) :
    Matches Q (x >>= f) (y >>= g) :=
  ⟨(next _ _ h.value).value, congrArg₂ (· ++ ·) h.events (next _ _ h.value).events⟩

/-- The same result is used in both. -/
theorem bind_same {x : Logged α} {f : α → Logged γ} {g : α → Logged δ}
    (next : ∀ a, Matches Q (f a) (g a)) : Matches Q (x >>= f) (x >>= g) :=
  ⟨(next _).value, congrArg (x.events ++ ·) (next _).events⟩

theorem foldlM {ε : Type} {f : α → ε → Logged α} {g : β → ε → Logged β} {a : α} {b : β} {xs : List ε}
    (h : R a b) (step : ∀ x ∈ xs, ∀ a b, R a b → Matches R (f a x) (g b x)) :
    Matches R (xs.foldlM f a) (xs.foldlM g b) := by
  induction xs generalizing a b with
  | nil => exact pure h
  | cons x xs ih =>
    rw [List.foldlM_cons, List.foldlM_cons]
    refine (step x List.mem_cons_self a b h).bind fun a b h => ?_
    exact ih h fun y hy => step y (List.mem_cons_of_mem _ hy)

end Matches

end Logged

/-- The first parts are related, and the second parts are the same. -/
def Paired {α β γ : Type} (R : α → β → Prop) (x : α × γ) (y : β × γ) : Prop :=
  ∃ a b c, x = (a, c) ∧ y = (b, c) ∧ R a b

theorem Paired.intro {α β γ : Type} {R : α → β → Prop} {a : α} {b : β} (h : R a b) (c : γ) :
    Paired R (a, c) (b, c) :=
  ⟨a, b, c, rfl, rfl, h⟩

theorem Paired.of {α β γ : Type} {R : α → β → Prop} {a : α} {b : β} {c d : γ} (h : R a b)
    (same : d = c) : Paired R (a, c) (b, d) := by
  rw [same]
  exact .intro h c

namespace Paired

variable {α β γ : Type} {R : α → β → Prop} {x : α × γ} {y : β × γ} (h : Paired R x y)
include h

theorem fst : R x.1 y.1 := by
  obtain ⟨a, b, c, rfl, rfl, related⟩ := h
  exact related

theorem snd : y.2 = x.2 := by
  obtain ⟨a, b, c, rfl, rfl, related⟩ := h
  rfl

/-- The second parts are put into another form. -/
theorem map {δ : Type} (f : γ → δ) : Paired R (x.1, f x.2) (y.1, f y.2) := by
  rw [h.snd]
  exact .intro h.fst _

end Paired

/-- The rules that are compiled for a form. -/
def ParsedSchema.compiledRules (s : ParsedSchema) : List FieldRule :=
  s.rules.globalRule.toList ++ s.fields.filterMap ParsedField.rule

/-- The rules of a schema say the same with one host as with another. -/
def ParsedSchema.RulesAgree (host other : Host) (s : ParsedSchema) : Prop :=
  ∀ r ∈ s.compiledRules, ∀ v, r.violations other v = r.violations host v

theorem ParsedSchema.compiledRules_withDefault (s : ParsedSchema) (id : String) (v : Value) :
    (s.withDefault id v).compiledRules = s.compiledRules := by
  unfold compiledRules withDefault
  dsimp only
  rw [List.filterMap_map]
  congr 2
  funext p
  dsimp only [Function.comp]
  split <;> rfl

/-- How two forms with different pasts are related: the hosts they belong to, by how much the counts of
the first are ahead of those of the second, about which fields the second has begun validations, and
whether both have to be mounted or neither. -/
structure Kinship where
  host : Host
  other : Host
  /-- the counts of validations, field by field -/
  generations : String → Nat
  /-- the counts of beginnings -/
  epochs : Nat
  begun : String → Prop
  mounts : Bool

/-- A submission was accepted. -/
def Milestone.accepts : Milestone → Bool
  | .accepted .. => true
  | _ => false

namespace Form

theorem get?_supersedeAll (f : Form) (id : String) :
    f.supersedeAll.generations.get? id = (f.generations.get? id).map (· + 1) :=
  Table.get?_map f.generations (· + 1) id

theorem endSubmission_current {f : Form} {epoch : Nat} (id : Nat) (current : f.epoch = epoch) :
    f.endSubmission id epoch = { f.mark (.ended id epoch) with state.isSubmitting := false } :=
  if_pos current

theorem endSubmission_past {f : Form} {epoch : Nat} (id : Nat) (past : f.epoch ≠ epoch) :
    f.endSubmission id epoch = f.mark (.ended id epoch) :=
  if_neg past

/-- Two forms that look the same. Validations of fields about which the second has begun none make no
difference; so do reports that the first had still to give when the second was made. The fault of the
last submission is the same unless the second has accepted none yet. -/
structure Twin (k : Kinship) (opened : Nat) (f g : Form) : Prop where
  parsed : g.parsed = f.parsed
  snapshot : g.snapshot = f.snapshot
  state : g.state = f.state
  fieldStates : g.fieldStates = f.fieldStates
  syncing : g.syncing = f.syncing
  rules : f.parsed.RulesAgree k.host k.other
  mounted : k.mounts = true → g.mounted = f.mounted
  begun : ∀ id, k.begun id → (g.generations.get? id).isSome
  generations : ∀ id n, g.generations.get? id = some n →
    f.generations.get? id = some (n + k.generations id)
  replaced : ∀ id, (g.generations.get? id).isSome → g.replaced.contains id = f.replaced.contains id
  epoch : f.epoch = g.epoch + k.epochs
  opened : g.reported.length = opened
  reported : ∃ earlier, f.reported = g.reported ++ earlier
  fault : g.submitFault = f.submitFault ∨ g.journal.all fun m => !m.accepts

namespace Twin

variable {k : Kinship} {opened : Nat} {f g : Form}

section Looks

variable (twin : Twin k opened f g)
include twin

theorem resolved : g.resolved = f.resolved := by
  unfold Form.resolved
  rw [twin.parsed, twin.state]

theorem valueOf (id : String) : g.value id = f.value id := by
  unfold value
  rw [twin.state]

theorem fieldState (id : String) : g.fieldState id = f.fieldState id := by
  unfold Form.fieldState
  rw [twin.fieldStates]

theorem isVisible (id : String) : g.isVisible id = f.isVisible id := by
  unfold Form.isVisible
  rw [twin.fieldState]

theorem hasVisible : g.hasVisible = f.hasVisible := by
  funext key
  unfold Form.hasVisible
  rw [twin.parsed, twin.isVisible]

theorem isComplete : g.isComplete = f.isComplete := by
  unfold Form.isComplete
  rw [twin.parsed, twin.resolved]
  simp only [twin.fieldState]

theorem render (settings : RenderSettings) (disabled : Bool) :
    g.render settings disabled = f.render settings disabled := by
  have fields : g.visibleFields = f.visibleFields := by
    unfold visibleFields
    rw [twin.parsed]
    simp only [twin.isVisible]
  unfold Form.render context
  rw [fields, twin.state, twin.fieldStates]

theorem differing (values : Table Value) : g.differing values = f.differing values := by
  unfold Form.differing
  rw [twin.parsed, twin.state]

theorem validatesOnChange : g.validatesOnChange = f.validatesOnChange := by
  unfold Form.validatesOnChange
  rw [twin.parsed]

theorem validatesOnBlur : g.validatesOnBlur = f.validatesOnBlur := by
  unfold Form.validatesOnBlur
  rw [twin.parsed]

theorem validatesOnSubmit : g.validatesOnSubmit = f.validatesOnSubmit := by
  unfold Form.validatesOnSubmit
  rw [twin.parsed]

theorem resetsOnSubmit : g.resetsOnSubmit = f.resetsOnSubmit := by
  unfold Form.resetsOnSubmit
  rw [twin.parsed]

end Looks

theorem mark (twin : Twin k opened f g) (m m' : Milestone)
    (calm : m'.accepts = false) : Twin k opened (f.mark m) (g.mark m') :=
  { twin with
    fault := by
      refine twin.fault.imp_right fun none => ?_
      rw [Form.mark, List.all_cons, calm]
      exact none }

theorem amend (twin : Twin k opened f g) (id : String) (v : Value) :
    Twin k opened (f.amend id v) (g.amend id v) := by
  unfold Form.amend
  rw [twin.state]
  split
  · exact { twin with state := rfl }
  · refine { twin with parsed := congrArg (·.withDefault id v) twin.parsed, state := rfl, rules := ?_ }
    intro r hr
    rw [ParsedSchema.compiledRules_withDefault] at hr
    exact twin.rules r hr

theorem setErrors (twin : Twin k opened f g) (id : String) (messages : List String) :
    Twin k opened (f.setErrors id messages) (g.setErrors id messages) :=
  { twin with state := by rw [Form.setErrors, Form.setErrors, twin.state] }

theorem touch (twin : Twin k opened f g) (id : String) :
    Twin k opened (f.touch id) (g.touch id) :=
  { twin with state := by rw [Form.touch, Form.touch, twin.state] }

theorem checkValidity (twin : Twin k opened f g) :
    Twin k opened f.checkValidity g.checkValidity :=
  { twin with
    state := by rw [Form.checkValidity, Form.checkValidity, twin.isComplete, twin.state] }

theorem put (twin : Twin k opened f g) (changes : Table Value) :
    Twin k opened (f.put changes) (g.put changes) := by
  have marked := twin.mark (.committed changes.keys) (.committed changes.keys) rfl
  refine { marked with
    state := ?_
    replaced := fun id begun => ?_ }
  · unfold Form.put
    dsimp only
    rw [twin.state, twin.snapshot]
  · have same := twin.replaced id begun
    unfold Form.put
    dsimp only
    rw [Bool.eq_iff_iff, List.contains_iff_mem, List.contains_iff_mem] at same ⊢
    rw [List.mem_append, List.mem_append, List.mem_filter, List.mem_filter, same]

/-- What takes the place of the errors takes it in all reports that are still to be given. -/
theorem replaceErrors (twin : Twin k opened f g) (errors : Complaints) :
    Twin k opened (f.replaceErrors errors) (g.replaceErrors errors) := by
  obtain ⟨earlier, reported⟩ := twin.reported
  refine { twin with state := ?_, opened := ?_, reported := ?_ }
  · unfold Form.replaceErrors
    dsimp only
    rw [twin.state]
  · exact (List.length_map _).trans twin.opened
  · unfold Form.replaceErrors
    dsimp only
    rw [reported, List.map_append, twin.state]
    exact ⟨_, rfl⟩

theorem supersedeAll (twin : Twin k opened f g) :
    Twin k opened f.supersedeAll g.supersedeAll := by
  refine { twin with
    begun := fun id begun => ?_, generations := fun id n known => ?_, replaced := fun id begun => ?_ }
  · rw [get?_supersedeAll, Option.isSome_map]
    exact twin.begun id begun
  · rw [get?_supersedeAll] at known ⊢
    obtain ⟨m, hm, rfl⟩ := Option.map_eq_some_iff.mp known
    rw [twin.generations id m hm]
    exact congrArg some (Nat.add_right_comm ..)
  · refine twin.replaced id ?_
    rwa [get?_supersedeAll, Option.isSome_map] at begun

section Reviewed

variable (excuses : k.host.Excuses k.other)
include excuses

theorem evaluateField (twin : Twin k opened f g) (values : Table Value) (id : String) :
    Logged.Matches (Twin k opened) (f.evaluateField k.host values id)
      (g.evaluateField k.other values id) := by
  unfold Form.evaluateField
  rw [twin.parsed]
  split
  · exact .pure twin
  · next p _ =>
    rw [FieldAttributes.state_excused excuses]
    refine .bind_same fun state => .pure ?_
    exact { twin with parsed := rfl, fieldStates := congrArg (·.put id state) twin.fieldStates }

theorem refresh (twin : Twin k opened f g) (changed : List String) :
    Logged.Matches (Twin k opened) (f.refresh k.host changed) (g.refresh k.other changed) := by
  unfold Form.refresh dependents
  rw [twin.parsed, twin.resolved]
  exact .foldlM twin fun id _ _ _ twin => twin.evaluateField excuses _ id

theorem evaluateAll (twin : Twin k opened f g) :
    Logged.Matches (Twin k opened) (f.evaluateAll k.host) (g.evaluateAll k.other) := by
  unfold Form.evaluateAll
  simp only [FieldAttributes.state_excused excuses, twin.parsed, twin.resolved]
  exact .bind_same fun states => .pure { twin with parsed := rfl, fieldStates := rfl }

theorem seed (twin : Twin k opened f g) :
    Logged.Matches (Twin k opened) (f.seed k.host) (g.seed k.other) := by
  have superseded := (twin.replaceErrors []).supersedeAll.mark .reseeded .reseeded rfl
  exact evaluateAll excuses { superseded with
    state := congrArg (fun values => { values : FormState }) twin.snapshot
    epoch := by
      have counted : f.epoch = g.epoch + k.epochs := twin.epoch
      exact (congrArg (· + 1) counted).trans (Nat.add_right_comm ..) }

end Reviewed

section Counted

variable (twin : Twin k opened f g)
include twin

/-- The first validation of a field that the second form begins settles by how much the first form is
ahead with that field; with fields about which it has begun validations that stays as it is. -/
theorem nextGeneration (id : String) : ∃ generations : String → Nat,
    (∀ field, k.begun field → generations field = k.generations field) ∧
      (f.nextGeneration id).1 = (g.nextGeneration id).1 + generations id ∧
      Twin { k with generations, begun := fun field => k.begun field ∨ field = id } opened
        (f.nextGeneration id).2 (g.nextGeneration id).2 := by
  let own := (g.generations.get? id).getD 0
  let count := (f.generations.get? id).getD 0
  have counted (h : (g.generations.get? id).isSome) : count = own + k.generations id := by
    obtain ⟨n, hn⟩ := Option.isSome_iff_exists.mp h
    unfold count own
    rw [twin.generations id n hn, hn]
    rfl
  have most : own ≤ count := by
    cases h : g.generations.get? id with
    | none =>
      unfold own
      rw [h]
      exact Nat.zero_le _
    | some n => exact counted (by rw [h]; rfl) ▸ Nat.le_add_right ..
  refine ⟨fun field => if field = id then count - own else k.generations field, fun field h => ?_, ?_,
    { twin with begun := ?_, generations := ?_, replaced := ?_ }⟩
  · dsimp only
    split
    · next same =>
      subst same
      rw [counted (twin.begun _ h), Nat.add_sub_cancel_left]
    · rfl
  · unfold Form.nextGeneration
    dsimp only
    rw [if_pos rfl]
    omega
  · intro field h
    unfold Form.nextGeneration
    dsimp only
    rw [Table.get?_put]
    split
    · rfl
    · next differs => exact twin.begun field (h.resolve_right differs)
  · intro field n hn
    unfold Form.nextGeneration at hn ⊢
    dsimp only at hn ⊢
    rw [Table.get?_put] at hn ⊢
    split at hn
    · next same =>
      rw [if_pos same, if_pos same, ← Option.some.inj hn]
      exact congrArg some (by omega)
    · next differs =>
      rw [if_neg differs, if_neg differs]
      exact twin.generations field n hn
  · intro field h
    unfold Form.nextGeneration at h ⊢
    dsimp only at h ⊢
    rw [Table.get?_put] at h
    rw [Bool.eq_iff_iff, List.contains_iff_mem, List.contains_iff_mem, List.mem_filter,
      List.mem_filter]
    by_cases same : field = id
    · simp [same]
    · rw [if_neg same] at h
      have before := twin.replaced field h
      rw [Bool.eq_iff_iff, List.contains_iff_mem, List.contains_iff_mem] at before
      rw [before]

theorem generations_eq_iff {id : String} (begun : k.begun id) (n : Nat) :
    (f.generations.get? id = some (n + k.generations id)) ↔ g.generations.get? id = some n := by
  obtain ⟨m, hm⟩ := Option.isSome_iff_exists.mp (twin.begun id begun)
  rw [twin.generations id m hm, hm, Option.some.injEq, Option.some.injEq]
  exact Nat.add_right_cancel_iff

theorem isStale {id : String} (begun : k.begun id) (n : Nat) (v : Value) :
    g.isStale id n v = f.isStale id (n + k.generations id) v := by
  unfold Form.isStale
  rw [twin.valueOf]
  congr 1
  rw [Bool.eq_iff_iff, bne_iff_ne, bne_iff_ne]
  exact (not_congr (twin.generations_eq_iff begun n)).symm

theorem settle (errors : Complaints) :
    Twin k (opened + 1) (f.settle errors) (g.settle errors) := by
  have replaced := (twin.replaceErrors errors).mark .validated .validated rfl
  obtain ⟨earlier, reported⟩ := replaced.reported
  refine { replaced with
    state := congrArg (fun st : FormState => { st with isValid := errors.isEmpty }) replaced.state
    opened := congrArg (· + 1) replaced.opened
    reported := ⟨earlier, congrArg (none :: ·) reported⟩ }

theorem beginSubmission (id : Nat) :
    Twin k opened (f.beginSubmission id) (g.beginSubmission id) :=
  { twin with
    state := congrArg
      (fun st : FormState => { st with hasSubmitted := true, isSubmitting := true }) twin.state
    fault := .inl rfl }

theorem endSubmission (id epoch : Nat) :
    Twin k opened (f.endSubmission id (epoch + k.epochs))
      (g.endSubmission id epoch) := by
  have marked := twin.mark (.ended id (epoch + k.epochs)) (.ended id epoch) rfl
  by_cases current : g.epoch = epoch
  · have counted : f.epoch = epoch + k.epochs := current ▸ twin.epoch
    rw [endSubmission_current id counted, endSubmission_current id current]
    exact { marked with
      state := congrArg (fun st : FormState => { st with isSubmitting := false }) twin.state }
  · have counted : f.epoch ≠ epoch + k.epochs := by
      rw [twin.epoch]
      exact fun same => current (Nat.add_right_cancel same)
    rw [endSubmission_past id counted, endSubmission_past id current]
    exact marked

theorem blame (cause : Option Fault) : Twin k opened
    { f with submitFault := cause.or f.submitFault }
    { g with submitFault := cause.or g.submitFault } :=
  { twin with fault := twin.fault.imp_left (congrArg cause.or) }

end Counted

/-- The validation that was settled last reports the same. -/
theorem report (twin : Twin k (opened + 1) f g) :
    g.report.1 = f.report.1 ∧ Twin k opened f.report.2 g.report.2 := by
  obtain ⟨earlier, reported⟩ := twin.reported
  have length := twin.opened
  unfold Form.report
  cases h : g.reported with
  | nil =>
    rw [h] at length
    cases length
  | cons errors rest =>
    rw [h] at reported length
    rw [reported, List.cons_append]
    dsimp only
    refine ⟨by rw [twin.state], { twin with opened := Nat.succ.inj length, reported := ⟨earlier, rfl⟩ }⟩

section Checked

variable (excuses : k.host.Excuses k.other)
include excuses

theorem askRule (twin : Twin k opened f g) (id : String) (messages : List String)
    (r : CustomRule) : Logged.Matches (Paired (Twin k opened))
      (Form.askRule k.host id (f, messages) r) (Form.askRule k.other id (g, messages) r) := by
  unfold Form.askRule
  dsimp only
  rw [twin.resolved]
  obtain ⟨outcome, excused, same⟩ :=
    excuses.reply_frame r.validator [Value.entry f.resolved id, .record f.resolved]
  rw [same]
  dsimp only
  rw [complaint?_excused excused]
  refine ⟨.intro ?_ _, rfl⟩
  cases (k.host.reply r.validator [Value.entry f.resolved id, .record f.resolved]).altered with
  | none => exact twin
  | some v => exact twin.amend id v

theorem askRules (twin : Twin k opened f g) (id : String) (messages : List String)
    (rules : List CustomRule) : Logged.Matches (Paired (Twin k opened))
      (rules.foldlM (Form.askRule k.host id) (f, messages))
      (rules.foldlM (Form.askRule k.other id) (g, messages)) := by
  refine .foldlM (.intro twin messages) ?_
  rintro r - _ _ ⟨a, b, found, rfl, rfl, twin⟩
  exact askRule excuses twin id found r

theorem valueComplaints (twin : Twin k opened f g) {p : ParsedField}
    (agrees : ∀ r, p.rule = some r → ∀ v, r.violations k.other v = r.violations k.host v) (v : Value) :
    Logged.Matches (Paired (Twin k opened)) (f.valueComplaints k.host p v)
      (g.valueComplaints k.other p v) := by
  have asked (messages : List String) := (askRules excuses twin p.id messages
    (p.field.validation.elim [] FieldValidation.custom)).bind
      (Q := Paired (Twin k opened))
      (f := fun found => pure (found.1, Except.ok (ε := Fault) found.2))
      (g := fun found => pure (found.1, Except.ok (ε := Fault) found.2)) (by
        rintro _ _ ⟨a, b, found, rfl, rfl, twin⟩
        exact .pure (.intro twin _))
  unfold Form.valueComplaints
  cases h : p.rule with
  | none =>
    refine .bind_same fun outcome => ?_
    cases outcome with
    | error e => exact .pure (.intro twin _)
    | ok messages => exact asked messages
  | some r =>
    dsimp only [FieldRule.check]
    rw [agrees r h v]
    refine .bind_same fun outcome => ?_
    cases outcome with
    | error e => exact .pure (.intro twin _)
    | ok messages => exact asked messages

theorem fieldComplaints (twin : Twin k opened f g) {p : ParsedField}
    (agrees : ∀ r, p.rule = some r → ∀ v, r.violations k.other v = r.violations k.host v) :
    Logged.Matches (Paired (Twin k opened)) (f.fieldComplaints k.host p)
      (g.fieldComplaints k.other p) := by
  unfold Form.fieldComplaints
  dsimp only
  rw [twin.fieldState, twin.resolved]
  split
  · exact .pure (.intro twin _)
  · split
    · exact .pure (.intro twin _)
    · exact valueComplaints excuses twin agrees _

omit excuses in
theorem agrees_of_mem (twin : Twin k opened f g) {p : ParsedField}
    (hp : p ∈ f.parsed.fields) (r : FieldRule) (hr : p.rule = some r) (v : Value) :
    r.violations k.other v = r.violations k.host v :=
  twin.rules r (List.mem_append_right _ (List.mem_filterMap.mpr ⟨p, hp, hr⟩)) v

theorem complaintsAt (twin : Twin k opened f g) (id : String) :
    Logged.Matches (Paired (Twin k opened)) (f.complaintsAt k.host id)
      (g.complaintsAt k.other id) := by
  unfold Form.complaintsAt
  rw [twin.parsed]
  cases h : f.parsed.field? id with
  | none => exact .pure (.intro twin _)
  | some p =>
    exact fieldComplaints excuses twin (twin.agrees_of_mem (List.mem_of_find?_eq_some h))

theorem fieldsComplaints {ps : List ParsedField}
    (agree : ∀ p ∈ ps, ∀ r, p.rule = some r → ∀ v, r.violations k.other v = r.violations k.host v)
    (twin : Twin k opened f g) :
    Logged.Matches (Paired (Twin k opened)) (f.fieldsComplaints k.host ps)
      (g.fieldsComplaints k.other ps) := by
  induction ps generalizing f g with
  | nil => exact .pure (.intro twin _)
  | cons p ps ih =>
    obtain ⟨first, rest⟩ := List.forall_mem_cons.mp agree
    rw [Form.fieldsComplaints, Form.fieldsComplaints]
    refine (fieldComplaints excuses twin first).bind ?_
    rintro _ _ ⟨a, b, outcome, rfl, rfl, twin⟩
    cases outcome with
    | error e => exact .pure (.intro twin _)
    | ok messages =>
      refine (ih rest twin).bind ?_
      rintro _ _ ⟨a, b, outcome, rfl, rfl, twin⟩
      exact .pure (.intro twin _)

theorem askFormRule (twin : Twin k opened f g) (values : Table Value) (r : FormRule) :
    g.askFormRule k.other values r = f.askFormRule k.host values r := by
  have targets : g.targets r = f.targets r := by
    unfold Form.targets
    rw [twin.hasVisible]
  obtain ⟨outcome, excused, same⟩ := excuses.reply_frame r.validator [.record values]
  unfold Form.askFormRule
  dsimp only [Host.call]
  rw [same, targets, Logged.mk_bind, Logged.mk_bind, complaint?_excused excused]

/-- What is complained of about the form as a whole is due to how it looks. -/
theorem formComplaints (twin : Twin k opened f g) :
    g.formComplaints k.other = f.formComplaints k.host := by
  have placed : g.placeOf = f.placeOf := by
    funext i
    unfold Form.placeOf
    rw [twin.hasVisible]
  have ruled (values : Table Value) : g.ruleComplaints k.other values = f.ruleComplaints k.host values := by
    unfold Form.ruleComplaints
    rw [twin.parsed, placed]
    cases h : f.parsed.rules.globalRule with
    | none => rfl
    | some r =>
      dsimp only
      rw [twin.rules r (List.mem_append_left _ (by simp [h]))]
  have asked (values : Table Value) : g.askFormRule k.other values = f.askFormRule k.host values :=
    funext fun r => askFormRule excuses twin values r
  unfold Form.formComplaints
  dsimp only
  rw [ruled, twin.resolved, twin.parsed, asked]

theorem complaints (twin : Twin k opened f g) :
    Logged.Matches (Paired (Twin k opened)) (f.complaints k.host)
      (g.complaints k.other) := by
  unfold Form.complaints
  rw [twin.parsed]
  refine (fieldsComplaints excuses (fun p hp => twin.agrees_of_mem hp) twin).bind ?_
  rintro _ _ ⟨a, b, outcome, rfl, rfl, twin⟩
  cases outcome with
  | error e => exact .pure (.intro twin _)
  | ok found =>
    dsimp only
    rw [formComplaints excuses twin]
    exact .bind_same fun outcome => .pure (.intro twin _)

theorem recheck (twin : Twin k opened f g) (id : String) :
    Logged.Matches (Paired (Twin k opened)) (f.recheck k.host id)
      (g.recheck k.other id) := by
  unfold Form.recheck
  refine (complaintsAt excuses twin id).bind ?_
  rintro _ _ ⟨a, b, outcome, rfl, rfl, twin⟩
  cases outcome with
  | error e => exact .pure (.intro twin _)
  | ok messages => exact .pure (.intro (twin.setErrors id messages) _)

end Checked

end Twin

end Form

end FormEngine
