import FormEngine.Proofs.Form.Visibility
import FormEngine.Proofs.Session.Integrity
import FormEngine.Proofs.Session.Validation

/-!
Complaints about fields that are hidden. Checks pass over a hidden field, and so does an inquiry that is
about to begin. What hides a field is a commit of one that it depends on: it leaves the complaints about
the field where they are, and an inquiry that has begun to ask may still bring some up. As long as there
is no such commit, complaints stand where they belong.
-/

namespace FormEngine

/-- An inquiry has begun to ask its rules. -/
def InquiryStage.IsAsking : InquiryStage → Prop
  | .asking .. => True
  | _ => False

namespace Form

/-- Since some point of the journal a field that a key depends on was committed, and the state was not
made anew after that. -/
def Stirred (since : List Milestone) (key : String) (f : Form) : Prop :=
  ∃ later ids earlier, f.journal = later ++ .committed ids :: earlier ∧ since <:+ earlier ∧
    .reseeded ∉ later ∧ key ∈ f.dependents ids

/-- If there are complaints under a key they belong there, and so will those of an inquiry that has begun
to ask. -/
structure Tidy (key : String) (ts : List (Nat × Inquiry × InquiryStage)) (f : Form) : Prop where
  complaints : key ∈ f.state.errors.keys → f.HasPlace key
  inquiries : ∀ t ∈ ts, t.2.1.fieldId = key → t.2.1.IsLatest f → t.2.2.IsAsking → f.HasPlace key

variable {f g : Form} {key : String} {since : List Milestone}
  {ts us : List (Nat × Inquiry × InquiryStage)}

theorem Stirred.grow (h : f.Stirred since key) {added : List Milestone}
    (journal : g.journal = added ++ f.journal) (kept : .reseeded ∉ added)
    (dependencies : g.parsed.dependencies = f.parsed.dependencies) : g.Stirred since key := by
  obtain ⟨later, ids, earlier, hj, suffix, hl, depends⟩ := h
  refine ⟨added ++ later, ids, earlier, ?_, suffix, ?_, ?_⟩
  · rw [journal, hj, List.append_assoc]
  · simp [kept, hl]
  · rw [dependents_congr dependencies]
    exact depends

/-- A change after which there are no complaints or inquiries under the key that there were not before,
unless they belong there. -/
theorem Tidy.change (h : f.Tidy key ts) (visible : g.hasVisible key = f.hasVisible key)
    (complaints : key ∈ g.state.errors.keys → key ∈ f.state.errors.keys ∨ f.HasPlace key)
    (inquiries : ∀ t ∈ us, t.2.1.fieldId = key → t.2.1.IsLatest g → t.2.2.IsAsking →
      t ∈ ts ∧ t.2.1.IsLatest f ∨ f.HasPlace key) : g.Tidy key us where
  complaints hk := by
    rcases complaints hk with hk | place
    · exact (h.complaints hk).of_hasVisible visible
    · exact place.of_hasVisible visible
  inquiries t ht hid latest asking := by
    rcases inquiries t ht hid latest asking with ⟨ht, latest⟩ | place
    · exact (h.inquiries t ht hid latest asking).of_hasVisible visible
    · exact place.of_hasVisible visible

/-- A change that concerns neither complaints nor inquiries. -/
theorem Tidy.congr (h : f.Tidy key ts) (visible : g.hasVisible key = f.hasVisible key)
    (errors : g.state.errors = f.state.errors) (generations : g.generations = f.generations) :
    g.Tidy key ts := by
  refine h.change visible (fun hk => .inl (errors ▸ hk)) fun t ht _ latest _ => .inl ⟨ht, ?_⟩
  unfold Inquiry.IsLatest at latest ⊢
  rw [← generations]
  exact latest

/-- When the generations of all fields are raised, there are no inquiries to be concerned about. -/
theorem Tidy.retired {app : Application} (known : Inquiries app ts f)
    (complaints : key ∈ g.state.errors.keys → g.HasPlace key)
    (generations : g.generations = f.supersedeAll.generations) : g.Tidy key ts where
  complaints := complaints
  inquiries t ht _ latest _ := absurd latest (known.not_isLatest generations t ht)

/-- From some point on, complaints under a key stand where they belong unless the key is stirred. -/
structure Undisturbed (app : Application) (since : List Milestone) (key : String)
    (ts : List (Nat × Inquiry × InquiryStage)) (f : Form) : Prop where
  inquiries : Inquiries app ts f
  grown : since <:+ f.journal
  tidy : f.Stirred since key ∨ f.Tidy key ts

namespace Undisturbed

variable {app : Application}

/-- A change after which the form is as tidy as before, unless it is stirred. -/
theorem change (h : f.Undisturbed app since key ts) (added : List Milestone)
    (inquiries : Inquiries app us g) (journal : g.journal = added ++ f.journal)
    (kept : .reseeded ∉ added) (dependencies : g.parsed.dependencies = f.parsed.dependencies)
    (tidy : f.Tidy key ts → g.Tidy key us) : g.Undisturbed app since key us where
  inquiries := inquiries
  grown := journal ▸ h.grown.trans (List.suffix_append _ _)
  tidy := h.tidy.imp (fun stirred => stirred.grow journal kept dependencies) tidy

/-- A change that concerns neither complaints nor inquiries. -/
theorem congr (h : f.Undisturbed app since key ts) (inquiries : Inquiries app ts g)
    (journal : g.journal = f.journal) (parsed : g.parsed = f.parsed)
    (fieldStates : g.fieldStates = f.fieldStates) (errors : g.state.errors = f.state.errors)
    (generations : g.generations = f.generations) : g.Undisturbed app since key ts := by
  refine h.change [] inquiries journal (by simp) (by rw [parsed]) fun tidy => ?_
  refine tidy.congr (hasVisible_congr (by rw [parsed]) ?_) errors generations
  unfold fieldState
  rw [fieldStates]

/-- A milestone is noted that leaves the state as it is. -/
theorem mark (h : f.Undisturbed app since key ts) {m : Milestone} (kept : m ≠ .reseeded)
    (inquiries : Inquiries app ts (f.mark m)) : (f.mark m).Undisturbed app since key ts :=
  h.change [m] inquiries rfl (by simpa using kept.symm) rfl fun tidy =>
    tidy.congr rfl rfl rfl

theorem perm (hp : ts.Perm us) (h : f.Undisturbed app since key ts) :
    f.Undisturbed app since key us := by
  refine h.change [] (h.inquiries.perm hp) rfl (by simp) rfl fun tidy => ?_
  exact ⟨tidy.complaints, fun t ht => tidy.inquiries t (hp.mem_iff.mpr ht)⟩

/-- A commit stirs what depends on the fields that are put in, and leaves the rest as it is. -/
theorem put (changes : Table Value) (h : f.Undisturbed app since key ts) :
    ((f.put changes).refresh app.host changes.keys).value.Undisturbed app since key ts := by
  have inquiries := (Session.inquiries_upkeep app).put changes h.inquiries
  have visible (independent : key ∉ f.dependents changes.keys) :
      ((f.put changes).refresh app.host changes.keys).value.hasVisible key = f.hasVisible key :=
    hasVisible_refresh independent
  obtain ⟨states, frame⟩ := refresh_frame app.host changes.keys (f.put changes)
  rw [frame] at inquiries visible ⊢
  by_cases depends : key ∈ f.dependents changes.keys
  · refine ⟨inquiries, h.grown.trans (List.suffix_cons _ _), .inl ?_⟩
    exact ⟨[], changes.keys, f.journal, rfl, h.grown, by simp, depends⟩
  · refine h.change [.committed changes.keys] inquiries rfl (by simp) rfl fun tidy => ?_
    refine tidy.change (visible depends) (fun hk => .inl ?_) fun t ht _ latest _ => .inl ⟨ht, latest⟩
    exact Table.mem_keys_of_foldl_drop changes.keys hk

/-- A later validation of a field leaves those before it behind. -/
theorem superseded (id : String) (h : f.Undisturbed app since key ts) :
    (f.nextGeneration id).2.Undisturbed app since key ts := by
  obtain ⟨inquiries, older⟩ := h.inquiries.next id
  refine h.change [] inquiries rfl (by simp) rfl fun tidy => ?_
  refine tidy.change rfl .inl fun t ht hid latest _ => .inl ⟨ht, ?_⟩
  unfold Inquiry.IsLatest at latest ⊢
  by_cases same : t.2.1.fieldId = id
  · have raised : (f.nextGeneration id).2.generations.get? id = some (f.nextGeneration id).1 :=
      Table.get?_put_self _ _ _
    rw [same, raised, Option.some.injEq] at latest
    have := older t ht same
    omega
  · exact (Table.get?_put_ne _ _ same).symm.trans latest

/-- A new inquiry has not begun to ask. -/
theorem begun {task : Nat} {q : Inquiry} (h : f.Undisturbed app since key ts)
    (inquiries : Inquiries app ((task, q, .begun) :: ts) f) :
    f.Undisturbed app since key ((task, q, .begun) :: ts) := by
  refine h.change [] inquiries rfl (by simp) rfl fun tidy => ⟨tidy.complaints, fun t ht => ?_⟩
  rcases List.mem_cons.mp ht with rfl | ht
  · exact fun _ _ asking => asking.elim
  · exact tidy.inquiries t ht

theorem amended (hg : f.Amended app.host f.parsed.fields g)
    (h : f.Undisturbed app since key ts) : g.Undisturbed app since key ts := by
  obtain ⟨fields, parsed⟩ := hg.parsed
  refine h.change [] (h.inquiries.amended hg) hg.journal (by simp) (by rw [parsed]) fun tidy => ?_
  have visible := hg.hasVisible key
  obtain ⟨values, parsed, frame⟩ := hg.frame
  exact tidy.congr visible (by rw [frame]) (by rw [frame])

/-- Other complaints take the place of the present ones, and stand where they belong. -/
theorem complained (h : f.Undisturbed app since key ts) (errors : Complaints)
    (complaints : key ∈ errors.keys → key ∈ f.state.errors.keys ∨ f.HasPlace key) :
    Undisturbed app since key ts { f with state.errors := errors } := by
  refine h.change [] (h.inquiries.congr rfl rfl rfl rfl rfl) rfl (by simp) rfl fun tidy => ?_
  exact tidy.change rfl complaints fun t ht _ latest _ => .inl ⟨ht, latest⟩

theorem blamed (id : String) (messages : List String)
    (found : ∃ g : Form, (g.complaintsAt app.host id).value = (f, .ok messages))
    (h : f.Undisturbed app since key ts) :
    (f.setErrors id messages).Undisturbed app since key ts := by
  obtain ⟨g, hg⟩ := found
  refine h.complained _ fun hk => ?_
  split at hk
  · rw [Table.keys_drop] at hk
    exact .inl (List.mem_filter.mp hk).1
  · next some_ =>
    rcases (Table.mem_keys_merge f.state.errors [(id, messages)] key).mp hk with hk | hk
    · exact .inl hk
    · refine .inr (.inr ?_)
      rw [show key = id from List.mem_singleton.mp hk]
      exact hasVisible_of_complaintsAt hg (by simpa using some_)

end Undisturbed

end Form

namespace Session

variable {app : Application} {since : List Milestone} {key : String}

open Form (Undisturbed Tidy)

theorem undisturbed_upkeep (app : Application) (since : List Milestone) (key : String) :
    Upkeep app Task.inquiry? fun ts f => f.Undisturbed app since key ts where
  perm := Undisturbed.perm
  calledBack h := h.mark (by simp) ((inquiries_upkeep app).calledBack h.inquiries)
  put changes h := h.put changes
  cutShort ids h := h.mark (by simp) ((inquiries_upkeep app).cutShort ids h.inquiries)
  superseded id _ h := h.superseded id
  inquired task id p hp asks defers h := by
    have opened := (inquiries_upkeep app).inquired task id p hp asks defers h.inquiries
    exact ((h.superseded id).mark (by simp) opened.tail).begun opened
  weighed h := h.congr (h.inquiries.congr rfl rfl rfl rfl rfl) rfl rfl rfl rfl rfl
  syncing _ h := h.congr (h.inquiries.congr rfl rfl rfl rfl rfl) rfl rfl rfl rfl rfl
  mounted h := h.congr (h.inquiries.congr rfl rfl rfl rfl rfl) rfl rfl rfl rfl rfl
  unmounted mounted h := by
    refine h.change [.unmounted] (h.inquiries.retire rfl) rfl (by simp) rfl fun tidy => ?_
    exact Tidy.retired h.inquiries tidy.complaints rfl
  touched _ h := h.congr (h.inquiries.congr rfl rfl rfl rfl rfl) rfl rfl rfl rfl rfl
  amended := Undisturbed.amended
  blamed := Undisturbed.blamed
  settled errors found h := by
    obtain ⟨g, hg⟩ := found
    have settled := h.complained errors fun hk => .inr (Form.hasPlace_of_complaints hg hk)
    have marked := settled.mark (m := .validated) (by simp)
      (settled.inquiries.mark fun _ _ _ hs => hs)
    exact marked.congr (marked.inquiries.congr rfl rfl rfl rfl rfl) rfl rfl rfl rfl rfl
  reported {_ f} h := by
    obtain ⟨reported, frame⟩ := f.report_frame
    rw [frame]
    exact h.congr (h.inquiries.congr rfl rfl rfl rfl rfl) rfl rfl rfl rfl rfl
  seeded {_ f} parsed snapshot _ _ h := by
    obtain ⟨states, hf⟩ := Form.seed_frame app.host { f with parsed, snapshot }
    rw [hf]
    refine ⟨h.inquiries.retire rfl, h.grown.trans (List.suffix_cons _ _), .inr ?_⟩
    exact Tidy.retired h.inquiries (fun hk => nomatch hk) rfl

theorem undisturbed_course (app : Application) (since : List Milestone) (key : String) :
    Course app (fun _ => True)
      (Keeps Task.inquiry? fun ts f => f.Undisturbed app since key ts) where
  toLaw := (undisturbed_upkeep app since key).law _
  arranged _ _ hp _ h := h.perm (.append_left _ hp.symm)
  accepted s id _ _ h := by
    have marked := h.mark (m := .accepted id s.form.epoch) (by simp)
      (h.inquiries.mark fun _ _ _ hs => hs)
    exact marked.congr (marked.inquiries.congr rfl rfl rfl rfl rfl) rfl rfl rfl rfl rfl
  handed _ _ _ _ h := h.mark (by simp) (h.inquiries.mark fun _ _ _ hs => hs)
  ended s id epoch fault _ h := by
    have marked := h.mark (m := .ended id epoch) (by simp)
      (h.inquiries.mark fun _ _ _ hs => hs)
    obtain ⟨submitting, frame⟩ :=
      Form.endSubmission_frame id epoch { s.form with submitFault := fault }
    rw [frame]
    exact marked.congr (marked.inquiries.congr rfl rfl rfl rfl rfl) rfl rfl rfl rfl rfl

/-- Of the inquiries, one that goes to sleep is the only new one. -/
theorem mem_seen_sleep {s : Session} {span : Span} {id : Nat} {q : Inquiry} {stage : InquiryStage}
    {t : Nat × Inquiry × InquiryStage}
    (h : t ∈ seen Task.inquiry? { s with agenda := s.agenda.sleep span (.inquiry id q stage) }) :
    t ∈ (id, q, stage) :: s.seen Task.inquiry? :=
  ((Agenda.tasks_sleep s.agenda span (.inquiry id q stage)).filterMap Task.inquiry?).mem_iff.mp h

/-- An inquiry may go on: if it is about the field and still the latest, complaints belong there. -/
def MayAsk (since : List Milestone) (key : String) (q : Inquiry) (f : Form) : Prop :=
  q.fieldId = key → q.IsLatest f → f.Stirred since key ∨ f.HasPlace key

theorem MayAsk.grow {q : Inquiry} {f g : Form} {added : List Milestone}
    (h : MayAsk since key q f) (journal : g.journal = added ++ f.journal) (kept : .reseeded ∉ added)
    (dependencies : g.parsed.dependencies = f.parsed.dependencies)
    (visible : g.hasVisible key = f.hasVisible key) (generations : g.generations = f.generations) :
    MayAsk since key q g := by
  intro hid latest
  unfold Inquiry.IsLatest at latest
  rw [generations] at latest
  exact (h hid latest).imp (fun stirred => stirred.grow journal kept dependencies)
    fun place => place.of_hasVisible visible

/-- Asking goes on and complaining leave complaints where they belong, if the inquiry may ask. -/
theorem asking_inquiring (app : Application) (since : List Milestone) (key : String) (q : Inquiry) :
    Inquiring app q (fun _ => True) (fun _ => True) fun s t =>
      MayAsk since key q s.form ∧
          (s.form.Stirred since key ∨ s.form.Tidy key (s.seen Task.inquiry?)) →
        MayAsk since key q t.form ∧
          (t.form.Stirred since key ∨ t.form.Tidy key (t.seen Task.inquiry?)) where
  silent := trivial
  told _ _ := trivial
  trans h h' hs := h' (h hs)
  noted _ _ _ hs := hs
  asked s id field value hs := by
    have kept : Milestone.reseeded ∉ [Milestone.asked id field value (s.form.value field)] := by simp
    exact ⟨hs.1.grow rfl kept rfl rfl rfl,
      hs.2.imp (fun stirred => stirred.grow rfl kept rfl) fun tidy => tidy.congr rfl rfl rfl⟩
  amended s rule arguments v _ _ _ hs := by
    have visible := Form.hasVisible_amend q.field.id v s.form key
    obtain ⟨fields, parsed⟩ := Form.parsed_amend q.field.id v s.form
    have dependencies : (s.form.amend q.field.id v).parsed.dependencies =
        s.form.parsed.dependencies := by rw [parsed]
    obtain ⟨values, parsed, frame, -⟩ := Form.amend_frame q.field.id v s.form
    have journal : (s.form.amend q.field.id v).journal = [] ++ s.form.journal := by rw [frame]; rfl
    have generations : (s.form.amend q.field.id v).generations = s.form.generations := by rw [frame]
    exact ⟨hs.1.grow journal (by simp) dependencies visible generations,
      hs.2.imp (fun stirred => stirred.grow journal (by simp) dependencies) fun tidy =>
        tidy.congr visible (by rw [frame]) generations⟩
  complained s id v messages current _ _ hs := by
    have kept : Milestone.reseeded ∉
        [Milestone.complained id q.field.id v (s.form.value q.field.id)] := by simp
    have latest : q.IsLatest s.form := by
      unfold Inquiry.isStale Form.isStale at current
      rw [Bool.or_eq_false_iff, bne_eq_false_iff_eq] at current
      exact current.1
    refine ⟨hs.1.grow rfl kept rfl rfl rfl, ?_⟩
    rcases hs.2 with stirred | tidy
    · exact .inl (stirred.grow rfl kept rfl)
    · have complaints (hk : key ∈ (s.form.state.errors.put q.field.id messages).keys) :
          key ∈ s.form.state.errors.keys ∨ q.fieldId = key := by
        rcases (Table.mem_keys_merge s.form.state.errors [(q.field.id, messages)] key).mp hk with hk | hk
        · exact .inl hk
        · exact .inr (List.mem_singleton.mp hk).symm
      by_cases hid : q.fieldId = key
      · rcases hs.1 hid latest with stirred | place
        · exact .inl (stirred.grow rfl kept rfl)
        · exact .inr (tidy.change rfl (fun _ => .inr place) fun _ _ _ _ _ => .inr place)
      · refine .inr (tidy.change rfl (fun hk => .inl ?_) fun t ht _ latest _ => .inl ⟨ht, latest⟩)
        exact (complaints hk).resolve_right hid
  slept s span id v stage _ hs := by
    refine ⟨hs.1, ?_⟩
    rcases hs.2 with stirred | tidy
    · exact .inl stirred
    · by_cases mine : q.fieldId = key ∧ q.IsLatest s.form
      · rcases hs.1 mine.1 mine.2 with stirred | place
        · exact .inl stirred
        · exact .inr ⟨tidy.complaints, fun _ _ _ _ _ => place⟩
      · refine .inr ⟨tidy.complaints, fun t ht hid latest asking => ?_⟩
        rcases List.mem_cons.mp (mem_seen_sleep ht) with rfl | ht
        · exact absurd ⟨hid, latest⟩ mine
        · exact tidy.inquiries t ht hid latest asking
  forgot s id hs := by
    refine ⟨hs.1, ?_⟩
    unfold seen
    rw [Agenda.tasks_add_none _ _ rfl]
    exact hs.2

/-- An inquiry that has not begun to ask passes over a field that is hidden. -/
theorem inquireOn_hidden (app : Application) {s : Session} (id : Nat) {q : Inquiry}
    {stage : InquiryStage} (early : ¬ stage.IsAsking) (hidden : s.form.isVisible q.fieldId = false) :
    (s.inquireOn app id q stage).form = s.form ∧
      ∀ t ∈ (s.inquireOn app id q stage).seen Task.inquiry?,
        t ∈ s.seen Task.inquiry? ∨ ¬ t.2.2.IsAsking := by
  have field : (q.refreshed s.form).fieldId = q.fieldId := by
    unfold Inquiry.refreshed
    split <;> rfl
  have forgets : ∀ t ∈ seen Task.inquiry? { s with agenda := s.agenda.add (.forget id) },
      t ∈ s.seen Task.inquiry? ∨ ¬ t.2.2.IsAsking := by
    unfold seen
    rw [Agenda.tasks_add_none _ _ rfl]
    exact fun t ht => .inl ht
  have passes : s.openQuestions app id (q.refreshed s.form) =
      { s with agenda := s.agenda.add (.forget id) } := by
    have moot : (q.refreshed s.form).isMoot s.form = true := by
      unfold Inquiry.isMoot
      rw [show (q.refreshed s.form).field.id = q.fieldId from field, hidden]
      simp
    unfold openQuestions
    rw [moot, Bool.or_true, if_pos rfl]
  unfold inquireOn
  cases stage with
  | begun =>
      dsimp only
      split
      · exact ⟨rfl, forgets⟩
      · split
        · refine ⟨rfl, fun t ht => ?_⟩
          rcases List.mem_cons.mp (mem_seen_sleep ht) with rfl | ht
          · exact .inr fun asking => asking
          · exact .inl ht
        · rw [passes]
          exact ⟨rfl, forgets⟩
  | rested =>
      dsimp only
      rw [passes]
      exact ⟨rfl, forgets⟩
  | asking rule later values messages => exact absurd trivial early

/-- A step of an inquiry leaves complaints where they belong. -/
theorem inquireOn_tidy {s : Session} {id : Nat} {q : Inquiry} {stage : InquiryStage}
    (asks : q.IsLatest s.form → s.form.asks q.fieldId ≠ [])
    (h : s.form.Stirred since key ∨ s.form.Tidy key ((id, q, stage) :: s.seen Task.inquiry?)) :
    (s.inquireOn app id q stage).form.Stirred since key ∨
      (s.inquireOn app id q stage).form.Tidy key
        ((s.inquireOn app id q stage).seen Task.inquiry?) := by
  have rest : s.form.Stirred since key ∨ s.form.Tidy key (s.seen Task.inquiry?) :=
    h.imp_right fun tidy =>
      ⟨tidy.complaints, fun t ht => tidy.inquiries t (List.mem_cons_of_mem _ ht)⟩
  by_cases may : MayAsk since key q s.form
  · have inquiring := asking_inquiring app since key q
    exact (inquiring.follows_inquireOn id trivial (fun _ _ => trivial) s ⟨may, rest⟩).2
  · simp only [MayAsk, Classical.not_imp, not_or] at may
    obtain ⟨rfl, latest, calm, misplaced⟩ := may
    have tidy := h.resolve_left calm
    have early : ¬ stage.IsAsking := fun asking =>
      misplaced (tidy.inquiries _ List.mem_cons_self rfl latest asking)
    have hidden : s.form.isVisible q.fieldId = false := by
      have known := ParsedSchema.isSome_field?_iff.mpr (Form.mem_fieldIds_of_asks (asks latest))
      refine Bool.eq_false_iff.mpr fun shown => misplaced (.inr ?_)
      exact Bool.and_eq_true_iff.mpr ⟨known, shown⟩
    obtain ⟨form, seen⟩ := inquireOn_hidden app id early hidden
    rw [form]
    refine .inr ⟨tidy.complaints, fun t ht hid latest asking => ?_⟩
    rcases seen t ht with ht | ended
    · exact tidy.inquiries t (List.mem_cons_of_mem _ ht) hid latest asking
    · exact absurd asking ended

/-- A step of an inquiry adds to the journal. -/
theorem inquireOn_journal (app : Application) (s : Session) (id : Nat) (q : Inquiry)
    (stage : InquiryStage) : s.form.journal <:+ (s.inquireOn app id q stage).form.journal := by
  have inquiring : Inquiring app q (fun _ => True) (fun _ => True)
      fun s t => s.form.journal <:+ t.form.journal := {
    silent := trivial
    told := fun _ _ => trivial
    trans := List.IsSuffix.trans
    noted := fun _ _ _ => List.suffix_refl _
    asked := fun _ _ _ _ => List.suffix_cons _ _
    amended := fun s _ _ v _ _ _ => by
      obtain ⟨values, parsed, frame, -⟩ := Form.amend_frame q.field.id v s.form
      have same : (s.form.amend q.field.id v).journal = s.form.journal := by rw [frame]
      exact same ▸ List.suffix_refl _
    complained := fun _ _ _ _ _ _ _ => List.suffix_cons _ _
    slept := fun _ _ _ _ _ _ => List.suffix_refl _
    forgot := fun _ _ => List.suffix_refl _ }
  exact inquiring.follows_inquireOn id trivial (fun _ _ => trivial) s

/-- Complaints under a key stand where they belong, and so will those of inquiries that have begun to
ask. -/
def IsTidy (s : Session) (key : String) : Prop := s.form.Tidy key (s.seen Task.inquiry?)

theorem begins_tidy {s : Session} (h : Begins app s) (key : String) : s.IsTidy key := by
  obtain ⟨source, parsed, given, snapshot, state, reactions, -, -, rfl⟩ := h
  exact ⟨fun hk => (nomatch hk), fun t ht => (nomatch ht)⟩

/-- What is tidy stays so until it is stirred, in whatever order steps are made. -/
theorem Reachable.tidy {u s : Session} (h : Reachable app u) (led : Leads app (fun _ => True) u s)
    (tidy : u.IsTidy key) : s.form.Stirred u.form.journal key ∨ s.IsTidy key := by
  have undisturbed : Undisturbed app u.form.journal key (u.seen Task.inquiry?) u.form :=
    ⟨h.sound.inquiries, List.suffix_refl _, .inr tidy⟩
  refine ((led.keeps (undisturbed_course app u.form.journal key) (fun keeps => keeps []) ?_
    (fun _ _ => trivial) undisturbed).1).tidy
  intro t ready id q stage led undisturbed hr
  have next : Reachable app ({ t with agenda.ready := ready }.inquireOn app id q stage) :=
    h.leads (led.work hr)
  have grown := inquireOn_journal app { t with agenda.ready := ready } id q stage
  have inquiries := undisturbed.inquiries
  have tidy := undisturbed.tidy
  rw [seen_ready Task.inquiry? hr] at inquiries tidy
  have asks (latest : q.IsLatest t.form) : t.form.asks q.fieldId ≠ [] := by
    rw [(inquiries.stands _ List.mem_cons_self latest).rules]
    exact (inquiries.asks _ List.mem_cons_self).1
  exact ⟨next.sound.inquiries, undisturbed.grown.trans grown, inquireOn_tidy asks tidy⟩

/-- A validation that is not answered files complaints where they belong, whatever was there before. -/
theorem validate_tidies {s : Session} {errors : Complaints}
    (calm : ∀ r ∈ s.reactions, r.occasion ≠ .validation)
    (h : (s.validate app (notify app)).2 = .ok errors) (key : String) :
    (key ∈ (s.validate app (notify app)).1.form.state.errors.keys →
      (s.validate app (notify app)).1.form.HasPlace key) ∧
    (s.seen Task.inquiry? = [] → (s.validate app (notify app)).1.IsTidy key) := by
  obtain ⟨f, journal, reported, events, found, validated⟩ := validate_files calm h
  have place (hk : key ∈ errors.keys) : f.HasPlace key := Form.hasPlace_of_complaints found hk
  rw [validated]
  refine ⟨fun hk => (place hk).of_hasVisible rfl, fun none => ⟨?_, fun t ht => ?_⟩⟩
  · exact fun hk => (place hk).of_hasVisible rfl
  · have there : t ∈ s.seen Task.inquiry? := ht
    rw [none] at there
    cases there

/-- To begin with no key is complained of. What is tidy stays so, whatever is asked of the form and in
whatever order inquiries answer, unless a field on which the key depends is committed; so that in every
session that a form can come to, each complaint stands where it belongs, or its key was stirred since the
state was made. A validation that is not answered makes the form tidy again. -/
theorem complaints_placed_unless_stirred (app : Application) :
    (∀ s, Begins app s → ∀ key, s.IsTidy key) ∧
    (∀ u s key, Reachable app u → Leads app (fun _ => True) u s → u.IsTidy key →
      ¬ s.form.Stirred u.form.journal key → s.IsTidy key) ∧
    (∀ s, Reachable app s → ∀ key ∈ s.form.state.errors.keys,
      s.form.HasPlace key ∨ s.form.Stirred [] key) ∧
    ∀ (s : Session) errors, (∀ r ∈ s.reactions, r.occasion ≠ .validation) →
      (s.validate app (notify app)).2 = .ok errors → ∀ key,
        (key ∈ (s.perform app .validate).1.form.state.errors.keys →
          (s.perform app .validate).1.form.HasPlace key) ∧
        (s.seen Task.inquiry? = [] → (s.perform app .validate).1.IsTidy key) := by
  refine ⟨fun s => begins_tidy, fun u s key h led tidy calm => ?_, fun s h key hk => ?_, ?_⟩
  · exact (h.tidy led tidy).resolve_left calm
  · obtain ⟨begun, hb, led⟩ := h
    rcases Reachable.tidy ⟨begun, hb, .refl⟩ led (begins_tidy hb key) with stirred | tidy
    · obtain ⟨later, ids, earlier, journal, -, kept, depends⟩ := stirred
      exact .inr ⟨later, ids, earlier, journal, List.nil_suffix, kept, depends⟩
    · exact .inl (tidy.complaints hk)
  · intro s errors calm h key
    exact validate_tidies calm h key

/-- A field that needs a value and is hidden while another has some value, and a third field. -/
def hidingSchema : FormSchema :=
  .plain [.plain "a" "text",
    { FormField.plain "b" "text" with
      required := true
      conditional := some ⟨none, some [⟨"a", some "equals", .str "x", none⟩], none, none, none⟩ },
    .plain "c" "text"]

/-- The form was validated, and the third field was changed since. -/
def validatedSession : Session :=
  let s := ((hidingSchema.begin .content).perform .content .validate).1
  (s.perform .content (.change "c" (.str "y"))).1

/-- The complaint about the field stands, and the field is shown. -/
theorem validatedSession_tidy : "b" ∈ validatedSession.form.state.errors.keys ∧
    validatedSession.form.HasPlace "b" := by
  have begins : Begins .content (hidingSchema.begin .content) :=
    FormSchema.begins (by decide +kernel)
  have led : Leads .content (fun _ => True) (hidingSchema.begin .content) validatedSession :=
    (Leads.refl.command .validate trivial).command _ trivial
  obtain ⟨begun, keeps, -⟩ := complaints_placed_unless_stirred .content
  have told : validatedSession.form.journal =
      [.calledBack false, .committed ["c"], .calledBack false, .validated, .reseeded] := rfl
  have independent : "b" ∉ validatedSession.form.dependents ["c"] := by decide +kernel
  have complained : "b" ∈ validatedSession.form.state.errors.keys := by decide +kernel
  refine ⟨complained, ?_⟩
  refine (keeps _ _ "b" ⟨_, begins, .refl⟩ led (begun _ begins "b") ?_).complaints complained
  rintro ⟨later, ids, earlier, journal, -, -, depends⟩
  have committed : .committed ids ∈ validatedSession.form.journal := by
    rw [journal]
    exact List.mem_append_right _ List.mem_cons_self
  rw [told] at committed
  obtain rfl : ids = ["c"] := by simpa using committed
  exact independent depends

/-- The form was validated, and then the field was hidden. -/
def hidingSession : Session :=
  let s := ((hidingSchema.begin .content).perform .content .validate).1
  (s.perform .content (.change "a" (.str "x"))).1

/-- A field that is hidden can be complained of. -/
theorem hidden_field_complained_of : ¬ ∀ (app : Application) (s : Session), Reachable app s →
    ∀ key ∈ s.form.state.errors.keys, s.form.HasPlace key := by
  intro always
  have reached : Reachable .content hidingSession :=
    ⟨_, FormSchema.begins (s := hidingSchema) (by decide +kernel),
      (Leads.refl.command .validate trivial).command _ trivial⟩
  have hidden : hidingSession.form.hasVisible "b" = false := by decide +kernel
  rcases always .content hidingSession reached "b" (by decide +kernel) with form | shown
  · revert form
    decide
  · exact Bool.noConfusion (hidden.symm.trans shown)

end Session

end FormEngine
