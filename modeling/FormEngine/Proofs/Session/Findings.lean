import FormEngine.Proofs.Session.Optimism

/-!
What an inquiry finds takes the place of what its field was complained of before. Each rule that is asked
adds a message, in the order of the rules, also where the inquiry sleeps in between; in the end the
messages are filed, unless the inquiry is stale. Nothing is lost where a field is complained of by
inquiries only.
-/

namespace FormEngine

namespace Inquiry

/-- What rules complain of the value, in their order. -/
def remarks (host : Host) (q : Inquiry) (values : Table Value) (rules : List AsyncRule) :
    List String :=
  rules.filterMap fun rule =>
    complaint? (host.awaited rule.validator [q.value, .record values]).outcome rule.message

/-- The messages that come of it, each once. -/
def findings (host : Host) (q : Inquiry) (values : Table Value) (rules : List AsyncRule) :
    List String :=
  (q.remarks host values rules).foldl addDistinct []

theorem remarks_cons (host : Host) (q : Inquiry) (values : Table Value) (rule : AsyncRule)
    (later : List AsyncRule) (messages : List String) :
    (q.remarks host values (rule :: later)).foldl addDistinct messages =
      (q.remarks host values later).foldl addDistinct
        ((complaint? (host.awaited rule.validator [q.value, .record values]).outcome
          rule.message).elim messages (addDistinct messages)) := by
  unfold remarks
  rw [List.filterMap_cons]
  cases complaint? (host.awaited rule.validator [q.value, .record values]).outcome rule.message with
  | none => rfl
  | some message => rfl

theorem findings_append (host : Host) (q : Inquiry) (values : Table Value)
    (asked later : List AsyncRule) :
    q.findings host values (asked ++ later) =
      (q.remarks host values later).foldl addDistinct (q.findings host values asked) := by
  unfold findings remarks
  rw [List.filterMap_append, List.foldl_append]

end Inquiry

namespace InquiryStage

/-- The values that the rules are asked with: those of the form when the inquiry rested. -/
def values (f : Form) : InquiryStage → Table Value
  | .begun | .rested => f.resolved
  | .asking _ _ values _ => values

/-- The messages that were collected are those of the rules that were asked already. -/
def IsHonest (host : Host) (q : Inquiry) : InquiryStage → Prop
  | .begun | .rested => True
  | .asking rule later values messages =>
    ∃ asked, q.rules = asked ++ rule :: later ∧ messages = q.findings host values asked

end InquiryStage

namespace Form

variable {host : Host} {key : String} {f g : Form}

/-- What the form complains of at a key. -/
def messages (f : Form) (key : String) : List String := (f.state.errors.get? key).getD []

/-- A form that does not check fields when they change, nor when they are left, is not complained of at
a key. -/
def IsUnblamed (key : String) (f : Form) : Prop :=
  f.validatesOnChange = false → f.validatesOnBlur = false → f.state.errors.get? key = none

theorem Amended.schema {ps : List ParsedField} (h : f.Amended host ps g) :
    g.parsed.schema = f.parsed.schema := by
  obtain ⟨fields, parsed⟩ := h.parsed
  rw [parsed]

namespace IsUnblamed

theorem congr (h : f.IsUnblamed key) (schema : g.parsed.schema = f.parsed.schema)
    (errors : g.state.errors = f.state.errors) : g.IsUnblamed key := by
  unfold IsUnblamed validatesOnChange validatesOnBlur at h ⊢
  rw [schema, errors]
  exact h

theorem amended {ps : List ParsedField} (hg : f.Amended host ps g) (h : f.IsUnblamed key) :
    g.IsUnblamed key := by
  have schema := hg.schema
  obtain ⟨values, parsed, rfl⟩ := hg.frame
  exact h.congr schema rfl

/-- Complaints that are not filed under the key do not count. -/
theorem of_get? (h : f.IsUnblamed key) (schema : g.parsed.schema = f.parsed.schema)
    (errors : f.state.errors.get? key = none → g.state.errors.get? key = none) :
    g.IsUnblamed key := by
  unfold IsUnblamed validatesOnChange validatesOnBlur at h ⊢
  rw [schema]
  exact fun onChange onBlur => errors (h onChange onBlur)

theorem put (h : f.IsUnblamed key) (changes : Table Value) : (f.put changes).IsUnblamed key := by
  refine h.of_get? rfl fun none => Table.get?_eq_none fun there => ?_
  have before : key ∈ f.state.errors.keys := Table.mem_keys_of_foldl_drop _ there
  rw [Table.mem_keys, Table.has, none] at before
  cases before

end IsUnblamed

end Form

namespace Session

variable {app : Application}

/-- Where no function alters values, asking a rule adds what it complains of and does nothing else. -/
theorem ask_eq (keeps : app.host.KeepsValues) (q : Inquiry) (rule : AsyncRule) (values : Table Value)
    (messages : List String) (s : Session) :
    s.ask app q rule values messages =
      ({ s with events :=
          s.events ++ (app.host.awaited rule.validator [q.value, .record values]).events }, q,
        (complaint? (app.host.awaited rule.validator [q.value, .record values]).outcome
          rule.message).elim messages (addDistinct messages)) := by
  have unaltered := app.host.awaited_unaltered (keeps rule.validator [q.value, .record values])
  unfold ask
  dsimp only
  rw [unaltered]

/-- How the turn of an inquiry ends. It sleeps, with the messages of the rules asked so far; it has
nothing to say; or it files its findings in place of what the field was complained of. -/
inductive Turn (host : Host) (id : Nat) (q : Inquiry) (found : List String) (s t : Session) : Prop
  | rests (span : Span) (stage : InquiryStage) : stage.IsHonest host q →
      t.form.state = s.form.state → t.agenda = s.agenda.sleep span (.inquiry id q stage) →
      Turn host id q found s t
  | ends : q.isStale s.form = true ∨ found = [] → t.form.state = s.form.state →
      t.agenda = s.agenda.add (.forget id) → Turn host id q found s t
  | files : q.isStale s.form = false → found ≠ [] →
      t.form.state = { s.form.state with
        errors := s.form.state.errors.put q.fieldId found
        isValid := false } →
      t.agenda = s.agenda.add (.forget id) → Turn host id q found s t

namespace Turn

variable {host : Host} {id : Nat} {q : Inquiry} {found : List String} {s t u : Session}

/-- What is noted before makes no difference. -/
theorem noted {journal : List Milestone} {events : List Event}
    (h : Turn host id q found { s with form.journal := journal, events } t) :
    Turn host id q found s t := by
  cases h with
  | rests span stage honest state agenda => exact .rests span stage honest state agenda
  | ends silent state agenda => exact .ends silent state agenda
  | files current some_ state agenda => exact .files current some_ state agenda

theorem settled (app : Application) (id : Nat) (q : Inquiry) (found : List String) (s : Session) :
    Turn app.host id q found s (s.settleInquiry id q found) := by
  unfold settleInquiry
  dsimp only
  cases stale : q.isStale s.form with
  | true => exact .ends (.inl stale) rfl rfl
  | false =>
      cases found with
      | nil => exact .ends (.inr rfl) rfl rfl
      | cons message messages => exact .files stale (by simp) rfl rfl

end Turn

/-- Asking goes on, from the messages of the rules that were asked already. -/
theorem askAll_turn (keeps : app.host.KeepsValues) {q : Inquiry} (id : Nat) (values : Table Value)
    (asked : List AsyncRule) {rules : List AsyncRule} (order : q.rules = asked ++ rules) (s : Session) :
    Turn app.host id q (q.findings app.host values q.rules) s
      (s.askAll app id values q (q.findings app.host values asked) rules) := by
  induction rules generalizing asked s with
  | nil =>
      rw [List.append_nil] at order
      rw [order]
      exact .settled app id q _ s
  | cons rule later ih =>
      unfold askAll
      dsimp only
      split
      · rw [ask_eq keeps]
        have further : q.rules = (asked ++ [rule]) ++ later := by simp [order]
        have collected := q.findings_append app.host values asked [rule]
        rw [q.remarks_cons] at collected
        have rest := ih (asked ++ [rule]) further { s with events := s.events ++
          (app.host.awaited rule.validator [q.value, .record values]).events }
        rw [collected] at rest
        exact rest.noted
      · have honest : (InquiryStage.asking rule later values
            (q.findings app.host values asked)).IsHonest app.host q := ⟨asked, order, rfl⟩
        exact .rests _ _ honest rfl rfl

/-- An inquiry that has not begun to ask ends, since there is nothing to ask about or its pause cannot be
told. -/
structure Passes (app : Application) (id : Nat) (q : Inquiry) (stage : InquiryStage) (s t : Session) :
    Prop where
  early : ¬ stage.IsAsking
  cause : q.isMoot s.form = true ∨ Time.isSpan (q.debounce app.environment) = false
  state : t.form.state = s.form.state
  agenda : t.agenda = s.agenda.add (.forget id)

theorem openQuestions_turn (keeps : app.host.KeepsValues) {q : Inquiry} (id : Nat)
    {stage : InquiryStage} (early : ¬ stage.IsAsking) (s : Session) :
    Turn app.host id q (q.findings app.host s.form.resolved q.rules) s (s.openQuestions app id q) ∨
      Passes app id q stage s (s.openQuestions app id q) := by
  unfold openQuestions
  cases stale : q.isStale s.form with
  | true => exact .inl (.ends (.inl stale) rfl rfl)
  | false =>
      cases moot : q.isMoot s.form with
      | true => exact .inr ⟨early, .inl moot, rfl, rfl⟩
      | false =>
          have asked := askAll_turn keeps (q := q) id s.form.resolved [] rfl { s with
            form := s.form.mark (.asked id q.field.id q.value (s.form.value q.field.id)) }
          exact .inl asked.noted

/-- The turn of an inquiry about the value that it was opened for. -/
theorem inquireOn_turn (keeps : app.host.KeepsValues) {s : Session} (id : Nat) {q : Inquiry}
    {stage : InquiryStage} (honest : stage.IsHonest app.host q) (same : q.refreshed s.form = q) :
    Turn app.host id q (q.findings app.host (stage.values s.form) q.rules) s
        (s.inquireOn app id q stage) ∨ Passes app id q stage s (s.inquireOn app id q stage) := by
  unfold inquireOn
  rw [same]
  cases stage with
  | begun =>
      have early : ¬ InquiryStage.begun.IsAsking := fun asking => asking
      dsimp only
      split
      · next untold => exact .inr ⟨early, .inr (by simpa using untold), rfl, rfl⟩
      · split
        · exact .inl (.rests _ .rested trivial rfl rfl)
        · exact openQuestions_turn keeps id early s
  | rested =>
      have early : ¬ InquiryStage.rested.IsAsking := fun asking => asking
      exact openQuestions_turn keeps id early s
  | asking rule later values messages =>
      obtain ⟨asked, order, rfl⟩ := honest
      have further : q.rules = (asked ++ [rule]) ++ later := by simp [order]
      have collected := q.findings_append app.host values asked [rule]
      rw [q.remarks_cons] at collected
      have rest := askAll_turn keeps id values (asked ++ [rule]) further { s with events := s.events ++
        (app.host.awaited rule.validator [q.value, .record values]).events }
      rw [collected] at rest
      dsimp only
      rw [ask_eq keeps]
      exact .inl rest.noted

/-- Every inquiry that is under way has collected what the rules that it asked complain of. -/
def AreHonest (host : Host) (ts : List (Nat × Inquiry × InquiryStage)) : Prop :=
  ∀ t ∈ ts, t.2.2.IsHonest host t.2.1

/-- Nothing but the turns of inquiries concerns them. -/
theorem honest_upkeep (app : Application) :
    Upkeep app Task.inquiry? fun ts _ => AreHonest app.host ts where
  perm hp h t ht := h t (hp.mem_iff.mpr ht)
  calledBack h := h
  put _ h := h
  cutShort _ h := h
  superseded _ _ h := h
  inquired _ _ _ _ _ _ h := List.forall_mem_cons.mpr ⟨trivial, h⟩
  weighed h := h
  syncing _ h := h
  mounted h := h
  unmounted _ h := h
  touched _ h := h
  amended _ h := h
  blamed _ _ _ h := h
  settled _ _ h := h
  reported h := h
  seeded _ _ _ _ h := h

theorem honest_course (app : Application) (allowed : FormCommand → Prop) :
    Course app allowed (Keeps Task.inquiry? fun ts _ => AreHonest app.host ts) where
  toLaw := (honest_upkeep app).law allowed
  arranged _ _ hp running h t ht := h t ((hp.append_left running).mem_iff.mp ht)
  accepted _ _ _ _ h := h
  handed _ _ _ _ h := h
  ended _ _ _ _ _ h := h

/-- An inquiry that has its turn in a session that a form can come to is about the value that it was
opened for. -/
theorem Reachable.refreshed {s : Session} (h : Reachable app s) (keeps : app.host.KeepsValues)
    {id : Nat} {q : Inquiry} {stage : InquiryStage} {ready : List Job}
    (hr : s.agenda.ready = .resume (.inquiry id q stage) :: ready) : q.refreshed s.form = q := by
  unfold Inquiry.refreshed
  split
  · next current =>
    have stands := h.stands hr (Inquiry.isLatest_of_isCurrent current)
    have same : q.value = s.form.value q.field.id := stands.value keeps current
    rw [← same]
  · rfl

theorem Reachable.honest {s : Session} (h : Reachable app s) (keeps : app.host.KeepsValues) :
    AreHonest app.host (s.seen Task.inquiry?) := by
  obtain ⟨begun, hb, h⟩ := h
  have blank : AreHonest app.host (begun.seen Task.inquiry?) := by
    obtain ⟨source, parsed, given, snapshot, state, reactions, -, -, rfl⟩ := hb
    exact fun t ht => nomatch ht
  refine (h.keeps (honest_course app fun _ => True) (fun keeps => keeps []) ?_ (fun _ _ => trivial)
    blank).1
  intro u ready id q stage led honest hr
  rw [seen_ready Task.inquiry? hr] at honest
  obtain ⟨own, others⟩ := List.forall_mem_cons.mp honest
  have same : q.refreshed u.form = q := Reachable.refreshed ⟨begun, hb, led⟩ keeps hr
  have turn := inquireOn_turn (s := { u with agenda.ready := ready }) keeps id own same
  have forgets {t : Session} (agenda : t.agenda = Agenda.add { u.agenda with ready } (.forget id)) :
      AreHonest app.host (t.seen Task.inquiry?) := by
    unfold seen
    rw [agenda, Agenda.tasks_add_none _ _ rfl]
    exact others
  rcases turn with turn | passes
  · cases turn with
    | rests span stage honest _ agenda =>
        intro t ht
        unfold seen at ht
        rw [agenda] at ht
        rcases List.mem_cons.mp (mem_seen_sleep (s := { u with agenda.ready := ready }) ht) with
          rfl | ht
        · exact honest
        · exact others t ht
    | ends _ _ agenda => exact forgets agenda
    | files _ _ _ agenda => exact forgets agenda
  · exact forgets passes.agenda

namespace Turn

variable {host : Host} {id : Nat} {q : Inquiry} {found : List String} {s t : Session}

/-- In its turn an inquiry leaves the complaints as they are, or files what it found in place of those
about its field. -/
theorem errors (h : Turn host id q found s t) :
    t.form.state.errors = s.form.state.errors ∨
      t.form.state.errors = s.form.state.errors.put q.fieldId found := by
  cases h with
  | rests _ _ _ state _ => exact .inl (congrArg FormState.errors state)
  | ends _ state _ => exact .inl (congrArg FormState.errors state)
  | files _ _ state _ => exact .inr (congrArg FormState.errors state)

end Turn

end Session

end FormEngine
