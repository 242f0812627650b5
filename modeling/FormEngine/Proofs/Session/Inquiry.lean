import FormEngine.Proofs.Form.History
import FormEngine.Proofs.Session.Upkeep
import FormEngine.Proofs.Table

/-!
Inquiries and generations. The generation of an inquiry never runs ahead of that of its field, and each
generation of a field belongs to at most one inquiry. While the two agree nothing has superseded the
inquiry: every milestone that does so raises the generation of the field, or ends the inquiry.
-/

namespace FormEngine

/-- A milestone after which the inquiries about a field that were opened before have no effect. -/
def Milestone.Supersedes (field : String) : Milestone → Prop
  | .reseeded | .unmounted => True
  | .inquired _ other _ | .complained _ other _ _ => other = field
  | _ => False

/-- No function of the host alters its argument in place. -/
def Host.KeepsValues (host : Host) : Prop := ∀ f arguments, (host.run f arguments).altered = none

theorem Host.KeepsValues.reply {host : Host} (keeps : host.KeepsValues) (f : Callable)
    (arguments : List Value) : (host.reply f arguments).altered = none :=
  host.reply_unaltered (keeps f arguments)

namespace Inquiry

def fieldId (q : Inquiry) : String := q.field.id

/-- No later validation of the field has begun. -/
def IsLatest (f : Form) (q : Inquiry) : Prop := f.generations.get? q.fieldId = some q.generation

/-- One that is not stale is the latest about its field. -/
theorem isLatest_of_not_isStale {f : Form} {q : Inquiry} (h : q.isStale f = false) :
    q.IsLatest f := by
  unfold isStale Form.isStale at h
  rw [Bool.or_eq_false_iff, bne_eq_false_iff_eq] at h
  exact h.1

theorem isLatest_of_isCurrent {f : Form} {q : Inquiry} (h : q.isCurrent f = true) :
    q.IsLatest f := by
  unfold isCurrent at h
  rw [Bool.and_eq_true, beq_iff_eq] at h
  exact h.1

/-- What is known of an inquiry as long as it is the latest about its field: nothing has superseded it
since it was opened, and its rules are those of the schema. Where no function alters values, it is about
the value for which it was opened, which the field has until another is put in. -/
structure Stands (host : Host) (f : Form) (id : Nat) (q : Inquiry) : Prop where
  opened : ∃ since value earlier, f.journal = since ++ .inquired id q.fieldId value :: earlier ∧
    (∀ m ∈ since, ¬ m.Supersedes q.fieldId) ∧ (host.KeepsValues → q.value = value)
  rules : f.asks q.fieldId = q.rules
  value : host.KeepsValues → q.isCurrent f = true → q.value = f.value q.fieldId

end Inquiry

/-- The inquiries that are under way, as the form knows of them. -/
structure Inquiries (app : Application) (ts : List (Nat × Inquiry × InquiryStage)) (f : Form) :
    Prop where
  known : ∀ t ∈ ts, ∃ n, f.generations.get? t.2.1.fieldId = some n ∧ t.2.1.generation ≤ n
  stands : ∀ t ∈ ts, t.2.1.IsLatest f → t.2.1.Stands app.host f t.1
  asks : ∀ t ∈ ts, t.2.1.rules ≠ [] ∧ ∀ rule ∈ t.2.2.rules t.2.1, rule ∈ t.2.1.rules
  distinct : (ts.map fun t => (t.2.1.fieldId, t.2.1.generation)).Nodup
  defers : ts ≠ [] → app.defers = true

namespace Inquiry.Stands

variable {host : Host} {f g : Form} {id : Nat} {q : Inquiry}

/-- A change that keeps the journal and the rules, and the values where none is altered in place. -/
theorem congr (h : q.Stands host f id) (journal : g.journal = f.journal)
    (asks : g.asks q.fieldId = f.asks q.fieldId)
    (value : host.KeepsValues → q.isCurrent g = true →
      q.isCurrent f = true ∧ g.value q.fieldId = f.value q.fieldId) : q.Stands host g id where
  opened := journal ▸ h.opened
  rules := asks.trans h.rules
  value keeps current := by
    obtain ⟨before, same⟩ := value keeps current
    rw [same]
    exact h.value keeps before

theorem mark {m : Milestone} (hm : ¬ m.Supersedes q.fieldId) (h : q.Stands host f id) :
    q.Stands host (f.mark m) id where
  opened := by
    obtain ⟨since, value, earlier, hj, hs, hv⟩ := h.opened
    refine ⟨m :: since, value, earlier, congrArg (m :: ·) hj, ?_, hv⟩
    intro other ho
    rcases List.mem_cons.mp ho with rfl | ho
    · exact hm
    · exact hs other ho
  rules := h.rules
  value := h.value

end Inquiry.Stands

namespace Inquiries

variable {app : Application} {ts us : List (Nat × Inquiry × InquiryStage)} {f g : Form}

theorem perm (hp : ts.Perm us) (h : Inquiries app ts f) : Inquiries app us f where
  known t ht := h.known t (hp.mem_iff.mpr ht)
  stands t ht := h.stands t (hp.mem_iff.mpr ht)
  asks t ht := h.asks t (hp.mem_iff.mpr ht)
  distinct := (hp.map _).nodup_iff.mp h.distinct
  defers hu := h.defers fun ht => hu (by rw [ht] at hp; exact hp.symm.eq_nil)

theorem tail {t : Nat × Inquiry × InquiryStage} (h : Inquiries app (t :: ts) f) :
    Inquiries app ts f where
  known t ht := h.known t (List.mem_cons_of_mem _ ht)
  stands t ht := h.stands t (List.mem_cons_of_mem _ ht)
  asks t ht := h.asks t (List.mem_cons_of_mem _ ht)
  distinct := (List.nodup_cons.mp h.distinct).2
  defers _ := h.defers (List.cons_ne_nil _ _)

/-- Of the inquiries about a field at most one is the latest. -/
theorem fieldId_ne {t : Nat × Inquiry × InquiryStage} (h : Inquiries app (t :: ts) f)
    (latest : t.2.1.IsLatest f) : ∀ u ∈ ts, u.2.1.IsLatest f → t.2.1.fieldId ≠ u.2.1.fieldId := by
  intro u hu latest' same
  have distinct := h.distinct
  rw [List.map_cons, List.nodup_cons] at distinct
  refine distinct.1 (List.mem_map.mpr ⟨u, hu, Prod.ext same.symm ?_⟩)
  unfold Inquiry.IsLatest at latest latest'
  rw [same, latest'] at latest
  exact Option.some.inj latest

/-- A change of the form that keeps the generations keeps the inquiries, if each that is the latest
still stands. -/
theorem change (h : Inquiries app ts f) (generations : g.generations = f.generations)
    (stands : ∀ t ∈ ts, t.2.1.IsLatest f → t.2.1.Stands app.host f t.1 →
      t.2.1.Stands app.host g t.1) : Inquiries app ts g where
  known := by
    rw [generations]
    exact h.known
  stands t ht latest := by
    unfold Inquiry.IsLatest at latest
    rw [generations] at latest
    exact stands t ht latest (h.stands t ht latest)
  asks := h.asks
  distinct := h.distinct
  defers := h.defers

theorem congr (h : Inquiries app ts f) (generations : g.generations = f.generations)
    (journal : g.journal = f.journal) (parsed : g.parsed = f.parsed)
    (replaced : g.replaced = f.replaced) (values : g.state.values = f.state.values) :
    Inquiries app ts g := by
  refine h.change generations fun t _ _ ht => ht.congr journal ?_ ?_
  · unfold Form.asks
    rw [parsed]
  · intro _ current
    unfold Inquiry.isCurrent at current ⊢
    rw [generations, replaced] at current
    unfold Form.value
    rw [values]
    exact ⟨current, rfl⟩

theorem mark {m : Milestone} (hm : ∀ t ∈ ts, t.2.1.IsLatest f → ¬ m.Supersedes t.2.1.fieldId)
    (h : Inquiries app ts f) : Inquiries app ts (f.mark m) :=
  h.change rfl fun t ht latest stands => stands.mark (hm t ht latest)

/-- When the generations of all fields are raised, every inquiry is left behind. -/
theorem raised (h : Inquiries app ts f) (generations : g.generations = f.supersedeAll.generations)
    (t) (ht : t ∈ ts) : ∃ n, g.generations.get? t.2.1.fieldId = some n ∧ t.2.1.generation < n := by
  obtain ⟨n, hn, hl⟩ := h.known t ht
  refine ⟨n + 1, ?_, by omega⟩
  have found := Table.get?_map f.generations (· + 1) t.2.1.fieldId
  rw [hn] at found
  rw [generations]
  exact found

theorem not_isLatest (h : Inquiries app ts f)
    (generations : g.generations = f.supersedeAll.generations) : ∀ t ∈ ts, ¬ t.2.1.IsLatest g := by
  intro t ht latest
  obtain ⟨n, hn, hl⟩ := h.raised generations t ht
  rw [Inquiry.IsLatest, hn, Option.some.injEq] at latest
  omega

/-- When the generations of all fields are raised, no inquiry is the latest any more. -/
theorem retire (h : Inquiries app ts f) (generations : g.generations = f.supersedeAll.generations) :
    Inquiries app ts g := by
  refine ⟨?_, ?_, h.asks, h.distinct, h.defers⟩
  · intro t ht
    obtain ⟨n, hn, hl⟩ := h.raised generations t ht
    exact ⟨n, hn, Nat.le_of_lt hl⟩
  · intro t ht latest
    exact absurd latest (h.not_isLatest generations t ht)

/-- A new validation of a field supersedes those before it, and leaves those of other fields alone. -/
theorem next (id : String) (h : Inquiries app ts f) :
    Inquiries app ts (f.nextGeneration id).2 ∧
      ∀ t ∈ ts, t.2.1.fieldId = id → t.2.1.generation < (f.nextGeneration id).1 := by
  have older (t) (ht : t ∈ ts) (hid : t.2.1.fieldId = id) :
      t.2.1.generation < (f.nextGeneration id).1 := by
    obtain ⟨n, hn, hl⟩ := h.known t ht
    unfold Form.nextGeneration
    rw [← hid, hn]
    exact Nat.lt_succ_of_le hl
  have same (other : String) (ho : other ≠ id) :
      (f.nextGeneration id).2.generations.get? other = f.generations.get? other :=
    Table.get?_put_ne _ _ ho
  have raised : (f.nextGeneration id).2.generations.get? id = some (f.nextGeneration id).1 :=
    Table.get?_put_self _ _ _
  refine ⟨⟨?_, ?_, h.asks, h.distinct, h.defers⟩, older⟩
  · intro t ht
    by_cases hid : t.2.1.fieldId = id
    · exact ⟨_, hid ▸ raised, Nat.le_of_lt (older t ht hid)⟩
    · rw [same _ hid]
      exact h.known t ht
  · intro t ht latest
    by_cases hid : t.2.1.fieldId = id
    · rw [Inquiry.IsLatest, hid, raised, Option.some.injEq] at latest
      have := older t ht hid
      omega
    · rw [Inquiry.IsLatest, same _ hid] at latest
      refine (h.stands t ht latest).congr rfl rfl fun _ current => ⟨?_, rfl⟩
      unfold Inquiry.isCurrent at current ⊢
      rw [show t.2.1.field.id = t.2.1.fieldId from rfl, same _ hid] at current
      rw [Bool.and_eq_true] at current ⊢
      refine ⟨current.1, ?_⟩
      have absent := current.2
      simp only [Form.nextGeneration, Bool.not_eq_true', List.contains_eq_mem,
        decide_eq_false_iff_not, List.mem_filter, not_and] at absent ⊢
      intro hm
      exact absent hm (by simpa [Inquiry.fieldId] using hid)

/-- An inquiry is opened about the value that a field has. -/
theorem opened {id : String} {task : Nat} {p : ParsedField} (hp : f.parsed.field? id = some p)
    (asks : f.asks id ≠ []) (defers : app.defers = true) (h : Inquiries app ts f) :
    Inquiries app ((task, ⟨p, (f.nextGeneration id).1, f.value id⟩, .begun) :: ts)
      ((f.nextGeneration id).2.mark (.inquired task id (f.value id))) := by
  obtain ⟨next, older⟩ := h.next id
  have hid : p.id = id := by simpa using List.find?_some hp
  have raised : (f.nextGeneration id).2.generations.get? id = some (f.nextGeneration id).1 :=
    Table.get?_put_self _ _ _
  have marked : Inquiries app ts
      ((f.nextGeneration id).2.mark (.inquired task id (f.value id))) := by
    refine next.mark fun t ht latest hs => ?_
    have hf : t.2.1.fieldId = id := Eq.symm hs
    rw [Inquiry.IsLatest, hf, raised, Option.some.injEq] at latest
    have := older t ht hf
    omega
  have rules : f.asks id = p.field.validation.elim [] FieldValidation.asyncRules := by
    unfold Form.asks
    rw [hp]
    rfl
  let q : Inquiry := ⟨p, (f.nextGeneration id).1, f.value id⟩
  have hq : q.fieldId = id := hid
  refine ⟨?_, ?_, ?_, ?_, fun _ => defers⟩
  · intro t ht
    rcases List.mem_cons.mp ht with rfl | ht
    · exact ⟨_, hq ▸ raised, Nat.le_refl _⟩
    · exact marked.known t ht
  · intro t ht latest
    rcases List.mem_cons.mp ht with rfl | ht
    · refine ⟨⟨[], f.value id, f.journal, ?_, by simp, fun _ => rfl⟩, ?_, fun _ _ => ?_⟩
      · exact congrArg (fun field => Milestone.inquired task field (f.value id) :: f.journal) hq.symm
      · exact (congrArg f.asks hq).trans rules
      · exact congrArg f.value hq.symm
    · exact marked.stands t ht latest
  · intro t ht
    rcases List.mem_cons.mp ht with rfl | ht
    · exact ⟨fun none => asks (rules.trans none), fun _ hr => hr⟩
    · exact h.asks t ht
  · rw [List.map_cons, List.nodup_cons]
    refine ⟨?_, h.distinct⟩
    intro hm
    obtain ⟨t, ht, he⟩ := List.mem_map.mp hm
    obtain ⟨hf, hg⟩ := Prod.ext_iff.mp he
    have := older t ht (Eq.trans hf hq)
    have same : t.2.1.generation = (f.nextGeneration id).1 := hg
    omega

/-- A value that is put in is no longer the one that an inquiry is about. -/
theorem put (changes : Table Value) (h : Inquiries app ts f) : Inquiries app ts (f.put changes) := by
  have marked := h.mark (m := .committed changes.keys) fun _ _ _ hs => hs
  refine marked.change rfl fun t _ _ stands => stands.congr rfl rfl fun _ current => ?_
  unfold Inquiry.isCurrent at current ⊢
  rw [Bool.and_eq_true] at current ⊢
  have absent := current.2
  simp only [Form.put, Bool.not_eq_true', List.contains_eq_mem, decide_eq_false_iff_not,
    List.mem_append, List.mem_filter, not_or, not_and, Bool.not_eq_false] at absent
  refine ⟨⟨current.1, ?_⟩, ?_⟩
  · simp only [List.contains_eq_mem, Bool.not_eq_true', decide_eq_false_iff_not]
    intro hm
    exact absent.2 ((Table.mem_keys changes _).mpr (absent.1 hm))
  · exact congrArg (fun v => v.getD Value.null) (Table.get?_merge_of_not_mem f.state.values absent.2)

theorem amended {ps : List ParsedField} (hg : f.Amended app.host ps g)
    (h : Inquiries app ts f) : Inquiries app ts g := by
  have whole := hg
  obtain ⟨values, parsed, rfl⟩ := hg.frame
  refine h.change rfl fun t _ _ stands => stands.congr rfl (whole.asks _) ?_
  intro keeps current
  have same := whole.eq fun _ _ r _ => keeps.reply r.validator _
  rw [same] at current ⊢
  exact ⟨current, rfl⟩

/-- Altering a value in place concerns inquiries only where functions alter values. -/
theorem amend (id : String) (v : Value) (alters : ¬ app.host.KeepsValues)
    (h : Inquiries app ts f) : Inquiries app ts (f.amend id v) := by
  obtain ⟨values, parsed, hf, -⟩ := Form.amend_frame id v f
  refine h.change (by rw [hf]) fun t _ _ stands => stands.congr (by rw [hf]) ?_ ?_
  · exact Form.asks_amend f id _ v
  · exact fun keeps => absurd keeps alters

/-- An inquiry goes on to another stage, perhaps about an altered value. -/
theorem goOn {id : Nat} {q r : Inquiry} {stage later : InquiryStage}
    (field : r.field = q.field) (generation : r.generation = q.generation)
    (rules : ∀ rule ∈ later.rules r, rule ∈ q.rules)
    (stands : q.Stands app.host f id → r.Stands app.host f id)
    (h : Inquiries app ((id, q, stage) :: ts) f) : Inquiries app ((id, r, later) :: ts) f := by
  have same : r.fieldId = q.fieldId := congrArg ParsedField.id field
  have head := h.asks _ List.mem_cons_self
  have sameRules : r.rules = q.rules := by
    unfold Inquiry.rules
    rw [field]
  refine ⟨?_, ?_, ?_, ?_, fun _ => h.defers (List.cons_ne_nil _ _)⟩
  · refine List.forall_mem_cons.mpr ⟨?_, h.tail.known⟩
    rw [same, generation]
    exact h.known _ List.mem_cons_self
  · refine List.forall_mem_cons.mpr ⟨fun latest => stands (h.stands _ List.mem_cons_self ?_),
      h.tail.stands⟩
    unfold Inquiry.IsLatest at latest ⊢
    rw [same, generation] at latest
    exact latest
  · refine List.forall_mem_cons.mpr ⟨⟨?_, ?_⟩, h.tail.asks⟩
    · rw [sameRules]
      exact head.1
    · rw [sameRules]
      exact rules
  · have distinct := h.distinct
    rw [List.map_cons] at distinct ⊢
    rw [same, generation]
    exact distinct

theorem refreshed {id : Nat} {q : Inquiry} {stage : InquiryStage}
    (h : Inquiries app ((id, q, stage) :: ts) f) :
    Inquiries app ((id, q.refreshed f, stage) :: ts) f := by
  by_cases current : q.isCurrent f = true
  · have renewed : q.refreshed f = { q with value := f.value q.fieldId } := if_pos current
    rw [renewed]
    have rules : ∀ rule ∈ stage.rules { q with value := f.value q.fieldId }, rule ∈ q.rules := by
      cases stage with
      | begun => exact fun _ hr => hr
      | rested => exact fun _ hr => hr
      | asking rule later values messages => exact (h.asks _ List.mem_cons_self).2
    refine goOn (q := q) rfl rfl rules (fun stands => ?_) h
    obtain ⟨since, value, earlier, hj, hs, hv⟩ := stands.opened
    exact ⟨⟨since, value, earlier, hj, hs, fun keeps =>
      (stands.value keeps current).symm.trans (hv keeps)⟩, stands.rules, fun _ _ => rfl⟩
  · rw [show q.refreshed f = q from if_neg current]
    exact h

end Inquiries

namespace Session

theorem inquiries_upkeep (app : Application) : Upkeep app Task.inquiry? (Inquiries app) where
  perm := Inquiries.perm
  calledBack h := h.mark fun _ _ _ hs => hs
  put {_ f} changes h := by
    obtain ⟨states, hf⟩ := Form.refresh_frame app.host changes.keys (f.put changes)
    rw [hf]
    exact (h.put changes).congr rfl rfl rfl rfl rfl
  cutShort _ h := h.mark fun _ _ _ hs => hs
  superseded id _ h := (h.next id).1
  inquired task id p hp asks defers h := h.opened hp asks defers
  weighed h := h.congr rfl rfl rfl rfl rfl
  syncing _ h := h.congr rfl rfl rfl rfl rfl
  mounted h := h.congr rfl rfl rfl rfl rfl
  unmounted _ h := h.retire rfl
  touched _ h := h.congr rfl rfl rfl rfl rfl
  amended := Inquiries.amended
  blamed _ _ _ h := h.congr rfl rfl rfl rfl rfl
  settled _ _ h := by
    have marked := h.mark (m := .validated) fun _ _ _ hs => hs
    exact marked.congr rfl rfl rfl rfl rfl
  reported {_ f} h := by
    obtain ⟨reported, frame⟩ := f.report_frame
    rw [frame]
    exact h.congr rfl rfl rfl rfl rfl
  seeded {_ f} parsed snapshot _ _ h := by
    obtain ⟨states, hf⟩ := Form.seed_frame app.host { f with parsed, snapshot }
    rw [hf]
    exact h.retire rfl

/-- Submissions do not concern inquiries. -/
theorem inquiries_course (app : Application) (allowed : FormCommand → Prop) :
    Course app allowed (Keeps Task.inquiry? (Inquiries app)) where
  toLaw := (inquiries_upkeep app).law allowed
  arranged _ _ hp running h := h.perm (.append_left running hp.symm)
  accepted s id _ running h := by
    have marked := h.mark (m := .accepted id s.form.epoch) fun _ _ _ hs => hs
    exact marked.congr rfl rfl rfl rfl rfl
  handed _ _ _ _ h := h.mark fun _ _ _ hs => hs
  ended s id epoch fault running h := by
    have marked := h.mark (m := .ended id epoch) fun _ _ _ hs => hs
    obtain ⟨submitting, frame⟩ :=
      Form.endSubmission_frame id epoch { s.form with submitFault := fault }
    rw [frame]
    exact marked.congr rfl rfl rfl rfl rfl

end Session

end FormEngine
