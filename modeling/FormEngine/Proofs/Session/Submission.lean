import Mathlib.Data.List.Nodup
import FormEngine.Proofs.Session.Handover

/-!
Submissions over a whole run. Every errand has a ticket of its own from when it is opened. A submission
that is accepted has at most two turns: the first settles what it hands over and what it returns, unless
its handler takes its time; with the second, which runs the handler, it ends.
-/

namespace FormEngine

/-- The values that entries tell a submission to have handed over. -/
def handedBy (id : Nat) (entries : List (Nat × Option (Table Value))) : List (Table Value) :=
  entries.filterMap fun e => if e.1 = id then e.2 else none

theorem handedBy_append (id : Nat) (entries others : List (Nat × Option (Table Value))) :
    handedBy id (entries ++ others) = handedBy id entries ++ handedBy id others :=
  List.filterMap_append

theorem handedBy_eq_nil {id : Nat} {entries : List (Nat × Option (Table Value))}
    (h : ∀ e ∈ entries, e.1 ≠ id) : handedBy id entries = [] := by
  refine List.filterMap_eq_nil_iff.mpr ?_
  intro e he
  exact if_neg (h e he)

/-- What a submission hands over when it is accepted. -/
theorem handedBy_accepted (id : Nat) (handed : List (Table Value)) :
    handedBy id (handed.map (fun values => (id, some values)) ++ [(id, none)]) = handed := by
  rw [handedBy_append]
  unfold handedBy
  rw [List.filterMap_map]
  simp

/-- A handler takes its time over what a form hands over. -/
structure Form.Defers (app : Application) (f : Form) (handler : Callable) (values : Table Value) :
    Prop where
  hears : app.hears .submit = true
  raises : app.raises .submit = false
  handler : app.handler = some handler
  admitted : f.admitted? app.host = some values

theorem Form.Defers.succeeds {app : Application} {f : Form} {handler : Callable}
    {values : Table Value} (h : f.Defers app handler values) :
    f.succeeds app = (app.host.run handler [.record values]).outcome.isOk := by
  unfold Form.succeeds Application.handled
  rw [h.admitted, h.raises, h.handler]
  simp [h.hears, Except.isOk_map]

namespace Session

/-- The numbers of the errands that were opened so far, those of some that are running included. -/
def tickets (running : List (Nat × Option SubmissionStage)) (s : Session) : List Nat :=
  (running ++ s.seen Task.errand?).map Prod.fst ++ s.agenda.outcomes.map Prod.fst

/-- What became so far of a submission that was accepted. -/
structure Account (app : Application) (f : Form) (id : Nat)
    (running : List (Nat × Option SubmissionStage)) (s : Session) : Prop where
  handed : handedBy id (tally s.form.journal) = f.handing app
  returned : (id, f.succeeds app) ∈ s.agenda.outcomes ∨ ∃ epoch handler values,
    (id, some (.handing epoch handler values)) ∈ running ++ s.seen Task.errand? ∧
      f.Defers app handler values

/-- The accounts of errands are in order while some are running; a submission is known to have been
accepted by a form. -/
structure Ledger (app : Application) (acceptedBy : Nat → Form → Prop)
    (running : List (Nat × Option SubmissionStage)) (s : Session) : Prop where
  calm : s.reactions = []
  distinct : (s.tickets running).Nodup
  opened : ∀ id ∈ s.tickets running, id < s.agenda.nextTask
  accepted : ∀ e ∈ tally s.form.journal, (e.1, none) ∈ tally s.form.journal
  /-- what the journal tells of has had a turn -/
  begun : ∀ e ∈ tally s.form.journal, (e.1, none) ∉ running ++ s.seen Task.errand? ∧
    (e.1, some .begun) ∉ running ++ s.seen Task.errand?
  accounts : ∀ id, (id, none) ∈ tally s.form.journal →
    ∃ f, acceptedBy id f ∧ Account app f id running s

variable {app : Application} {acceptedBy : Nat → Form → Prop}

theorem Moves.tickets {waiting : List (Nat × Option SubmissionStage)} {ended : List (Nat × Bool)}
    {entries : List (Nat × Option (Table Value))} {s t : Session}
    (moves : Moves waiting ended entries s t) (running : List (Nat × Option SubmissionStage)) :
    (t.tickets running).Perm
      (waiting.map Prod.fst ++ ended.map Prod.fst ++ s.tickets running) := by
  refine List.perm_iff_count.mpr fun id => ?_
  have errands := (moves.errands.map Prod.fst).count_eq id
  unfold Session.tickets
  simp only [moves.outcomes, List.map_append, List.count_append] at errands ⊢
  omega

section Accounts

variable {waiting running : List (Nat × Option SubmissionStage)} {ended : List (Nat × Bool)}
  {entries : List (Nat × Option (Table Value))} {s t : Session} {f : Form}

/-- Errands that are opened leave the account of a submission as it is. -/
theorem Account.opens {id : Nat} (h : Account app f id running s) (moves : Moves waiting [] [] s t) :
    Account app f id running t := by
  refine ⟨by rw [moves.tally]; exact h.handed, ?_⟩
  rcases h.returned with ended | ⟨epoch, handler, values, waits, defers⟩
  · left
    rw [moves.outcomes, List.append_nil]
    exact ended
  · refine .inr ⟨epoch, handler, values, ?_, defers⟩
    rw [List.mem_append, moves.errands.mem_iff, List.mem_append, or_left_comm, ← List.mem_append]
    exact .inr waits

/-- A turn of one errand leaves the account of another as it is. -/
theorem Account.turn {id other : Nat} {x : Option SubmissionStage}
    (h : Account app f other [(id, x)] s) (same : other ≠ id) (moves : Moves waiting ended entries s t)
    (own : ∀ e ∈ entries, e.1 = id) : Account app f other [] t := by
  refine ⟨?_, ?_⟩
  · have none : handedBy other entries = [] :=
      handedBy_eq_nil fun e he his => same (his ▸ own e he)
    rw [moves.tally, handedBy_append, none, List.nil_append]
    exact h.handed
  · rcases h.returned with ended | ⟨epoch, handler, values, waits, defers⟩
    · left
      rw [moves.outcomes]
      exact List.mem_append_left _ ended
    · refine .inr ⟨epoch, handler, values, ?_, defers⟩
      rw [List.nil_append, moves.errands.mem_iff]
      rcases List.mem_cons.mp waits with head | waits
      · exact absurd (congrArg Prod.fst head) same
      · exact List.mem_append_right _ waits

end Accounts

namespace Ledger

variable {running : List (Nat × Option SubmissionStage)} {s t : Session}

theorem imp {others : Nat → Form → Prop} (h : Ledger app acceptedBy running s)
    (known : ∀ id f, acceptedBy id f → others id f) : Ledger app others running s where
  calm := h.calm
  distinct := h.distinct
  opened := h.opened
  accepted := h.accepted
  begun := h.begun
  accounts id hid := by
    obtain ⟨f, hf, account⟩ := h.accounts id hid
    exact ⟨f, known id f hf, account⟩

/-- Whatever the journal tells of is an errand that was opened. -/
theorem known (h : Ledger app acceptedBy running s) {e : Nat × Option (Table Value)}
    (he : e ∈ tally s.form.journal) : e.1 ∈ s.tickets running := by
  obtain ⟨f, -, -, ended | ⟨epoch, handler, values, waits, -⟩⟩ := h.accounts e.1 (h.accepted e he)
  · exact List.mem_append_right _ (List.mem_map_of_mem ended)
  · exact List.mem_append_left _ (List.mem_map_of_mem waits)

/-- Errands that are opened get tickets of their own. -/
theorem opens (waiting : List (Nat × Option SubmissionStage))
    (h : Ledger app acceptedBy running s) (moves : Moves waiting [] [] s t)
    (distinct : (waiting.map Prod.fst).Nodup)
    (next : ∀ e ∈ waiting, s.agenda.nextTask ≤ e.1 ∧ e.1 < t.agenda.nextTask) :
    Ledger app acceptedBy running t := by
  have tally : FormEngine.tally t.form.journal = FormEngine.tally s.form.journal := moves.tally
  have errands {e} : e ∈ running ++ t.seen Task.errand? ↔
      e ∈ waiting ∨ e ∈ running ++ s.seen Task.errand? := by
    rw [List.mem_append, moves.errands.mem_iff, List.mem_append, List.mem_append, or_left_comm]
  have tickets : (t.tickets running).Perm (waiting.map Prod.fst ++ s.tickets running) := by
    refine (moves.tickets running).trans (.of_eq ?_)
    rw [List.map_nil, List.append_nil]
  have fresh {e stage} (he : e ∈ FormEngine.tally s.form.journal) : (e.1, stage) ∉ waiting := by
    intro waits
    exact Nat.not_lt_of_le (next _ waits).1 (h.opened _ (h.known he))
  refine ⟨moves.calm h.calm, ?_, ?_, ?_, ?_, ?_⟩
  · refine tickets.nodup_iff.mpr (List.nodup_append.mpr ⟨distinct, h.distinct, ?_⟩)
    rintro _ now other earlier rfl
    obtain ⟨e, he, rfl⟩ := List.mem_map.mp now
    exact Nat.not_lt_of_le (next e he).1 (h.opened _ earlier)
  · intro id hid
    rcases List.mem_append.mp (tickets.mem_iff.mp hid) with now | earlier
    · obtain ⟨e, he, rfl⟩ := List.mem_map.mp now
      exact (next e he).2
    · exact Nat.lt_of_lt_of_le (h.opened id earlier) moves.nextTask
  · rw [tally]
    exact h.accepted
  · rw [tally]
    intro e he
    exact ⟨fun waits => (errands.mp waits).elim (fresh he) (h.begun e he).1,
      fun waits => (errands.mp waits).elim (fresh he) (h.begun e he).2⟩
  · rw [tally]
    intro id hid
    obtain ⟨f, hf, account⟩ := h.accounts id hid
    exact ⟨f, hf, account.opens moves⟩

/-- Whatever happens aside keeps the accounts in order. -/
theorem aside (h : Ledger app acceptedBy running s) (moves : Aside s t) :
    Ledger app acceptedBy running t :=
  h.opens [] moves List.nodup_nil fun _ he => nomatch he

/-- A submission returns once, and what follows from the form that accepted it. -/
theorem returns {f : Form} {id : Nat} {ok : Bool} (h : Ledger app acceptedBy running s)
    (account : Account app f id running s) (ended : (id, ok) ∈ s.agenda.outcomes) :
    ok = f.succeeds app := by
  obtain ⟨-, distinct, apart⟩ := List.nodup_append.mp h.distinct
  rcases account.returned with returned | ⟨epoch, handler, values, waits, -⟩
  · exact congrArg Prod.snd (List.inj_on_of_nodup_map distinct ended returned rfl)
  · exact absurd rfl (apart _ (List.mem_map_of_mem waits) _ (List.mem_map_of_mem ended))

section Turns

variable {id : Nat} {x : Option SubmissionStage}

/-- An errand that has its turn waits for no other, and has not ended. -/
theorem alone (h : Ledger app acceptedBy [(id, x)] s) :
    (∀ stage, (id, stage) ∉ s.seen Task.errand?) ∧ ∀ ok, (id, ok) ∉ s.agenda.outcomes := by
  have distinct : (id :: ((s.seen Task.errand?).map Prod.fst ++
      s.agenda.outcomes.map Prod.fst)).Nodup := h.distinct
  have absent := (List.nodup_cons.mp distinct).1
  constructor
  · intro stage waits
    exact absent (List.mem_append_left _ (List.mem_map_of_mem waits))
  · intro ok ended
    exact absent (List.mem_append_right _ (List.mem_map_of_mem ended))

/-- The journal tells nothing of an errand before its first turn. -/
theorem untold (h : Ledger app acceptedBy [(id, x)] s) (hx : x = none ∨ x = some .begun) :
    ∀ e ∈ tally s.form.journal, e.1 ≠ id := by
  rintro e he rfl
  rcases hx with rfl | rfl
  · exact (h.begun e he).1 List.mem_cons_self
  · exact (h.begun e he).2 List.mem_cons_self

/-- A turn of an errand keeps the accounts in order, if it does so with its own. -/
theorem turn {waiting : List (Nat × Option SubmissionStage)} {ended : List (Nat × Bool)}
    {entries : List (Nat × Option (Table Value))} (h : Ledger app acceptedBy [(id, x)] s)
    (moves : Moves waiting ended entries s t)
    (one : waiting.map Prod.fst ++ ended.map Prod.fst = [id])
    (handing : ∀ e ∈ waiting, ∃ epoch handler values, e.2 = some (.handing epoch handler values))
    (own : ∀ e ∈ entries, e.1 = id) (accepted : entries ≠ [] → (id, none) ∈ entries)
    (account : (id, none) ∈ tally t.form.journal → ∃ f, acceptedBy id f ∧ Account app f id [] t) :
    Ledger app acceptedBy [] t := by
  have tickets : (t.tickets []).Perm (s.tickets [(id, x)]) := by
    refine (moves.tickets []).trans (.of_eq ?_)
    rw [one]
    rfl
  have told {e} : e ∈ tally t.form.journal ↔ e ∈ entries ∨ e ∈ tally s.form.journal := by
    rw [moves.tally, List.mem_append]
  have errands {e} : e ∈ [] ++ t.seen Task.errand? ↔ e ∈ waiting ∨ e ∈ s.seen Task.errand? := by
    rw [List.nil_append, moves.errands.mem_iff, List.mem_append]
  -- a stage of an errand of which the journal tells, if it is none of those that wait now
  have begun {e stage} (he : e ∈ tally t.form.journal) (hs : stage = none ∨ stage = some .begun)
      (before : e ∈ tally s.form.journal → (e.1, stage) ∉ [(id, x)] ++ s.seen Task.errand?) :
      (e.1, stage) ∉ [] ++ t.seen Task.errand? := by
    intro waits
    rcases errands.mp waits with waits | waits
    · obtain ⟨epoch, handler, values, hv⟩ := handing _ waits
      rcases hs with rfl | rfl <;> cases hv
    · rcases told.mp he with now | earlier
      · rw [own e now] at waits
        exact h.alone.1 stage waits
      · exact before earlier (List.mem_append_right _ waits)
  refine ⟨moves.calm h.calm, tickets.nodup_iff.mpr h.distinct, ?_, ?_, ?_, ?_⟩
  · intro other ho
    exact Nat.lt_of_lt_of_le (h.opened other (tickets.mem_iff.mp ho)) moves.nextTask
  · intro e he
    rcases told.mp he with now | earlier
    · rw [own e now]
      exact told.mpr (.inl (accepted (List.ne_nil_of_mem now)))
    · exact told.mpr (.inr (h.accepted e earlier))
  · intro e he
    exact ⟨begun he (.inl rfl) fun earlier => (h.begun e earlier).1,
      begun he (.inr rfl) fun earlier => (h.begun e earlier).2⟩
  · intro other ho
    by_cases same : other = id
    · subst same
      exact account ho
    · have earlier : (other, none) ∈ tally s.form.journal :=
        (told.mp ho).resolve_left fun now => same (own _ now)
      obtain ⟨f, hf, account⟩ := h.accounts other earlier
      exact ⟨f, hf, account.turn same moves own⟩

/-- An errand may end before the journal tells of it: a pause, or a submission that is refused. -/
theorem dismiss {ok : Bool} (h : Ledger app acceptedBy [(id, x)] s) (hx : x = none ∨ x = some .begun)
    (moves : Moves [] [(id, ok)] [] s t) : Ledger app acceptedBy [] t := by
  refine h.turn moves rfl (fun _ he => nomatch he) (fun _ he => nomatch he) (by simp) fun told => ?_
  have tally : FormEngine.tally t.form.journal = FormEngine.tally s.form.journal := moves.tally
  rw [tally] at told
  exact absurd rfl (h.untold hx _ told)

/-- A submission that is accepted settles in its first turn what it hands over. -/
theorem accept (h : Ledger app acceptedBy [(id, some .begun)] s)
    (idle : s.form.state.isSubmitting = false)
    (known : handedBy id (tally (s.submit app (notify app) id).form.journal) =
        (s.form.beginSubmission id).handing app → acceptedBy id (s.form.beginSubmission id)) :
    Ledger app acceptedBy [] (s.submit app (notify app) id) := by
  let entries := ((s.form.beginSubmission id).handing app).map
    (fun values => (id, some values)) ++ [(id, none)]
  have own : ∀ e ∈ entries, e.1 = id := by
    intro e he
    rcases List.mem_append.mp he with handed | accepted
    · obtain ⟨values, -, rfl⟩ := List.mem_map.mp handed
      rfl
    · rw [List.mem_singleton.mp accepted]
  have handed {waiting ended} (moves : Moves waiting ended entries s (s.submit app (notify app) id)) :
      handedBy id (tally (s.submit app (notify app) id).form.journal) =
        (s.form.beginSubmission id).handing app := by
    rw [moves.tally, handedBy_append, handedBy_accepted, handedBy_eq_nil (h.untold (.inr rfl)),
      List.append_nil]
  have accepted : (id, none) ∈ entries := List.mem_append_right _ List.mem_cons_self
  rcases submit_moves app h.calm idle id with
    moves | ⟨handler, values, hh, raises, hears, admitted, moves⟩
  · refine h.turn moves rfl (fun _ he => nomatch he) own (fun _ => accepted) fun _ => ?_
    refine ⟨_, known (handed moves), handed moves, .inl ?_⟩
    rw [moves.outcomes]
    exact List.mem_append_right _ List.mem_cons_self
  · refine h.turn moves rfl ?_ own (fun _ => accepted) fun _ => ?_
    · intro e he
      rw [List.mem_singleton.mp he]
      exact ⟨_, _, _, rfl⟩
    · refine ⟨_, known (handed moves), handed moves, .inr ⟨s.form.epoch, handler, values, ?_, ?_⟩⟩
      · rw [List.nil_append, moves.errands.mem_iff]
        exact List.mem_cons_self
      · exact ⟨hears, raises, hh, admitted⟩

/-- The turn in which its handler runs is the last one of a submission. -/
theorem handIn {epoch : Nat} {handler : Callable} {values : Table Value}
    (h : Ledger app acceptedBy [(id, some (.handing epoch handler values))] s) :
    Ledger app acceptedBy [] (s.handIn app (notify app) id epoch handler values) := by
  have moves := handIn_moves app s id epoch handler values
  refine h.turn moves rfl (fun _ he => nomatch he) (fun _ he => nomatch he) (by simp) fun told => ?_
  have tally : FormEngine.tally (s.handIn app (notify app) id epoch handler values).form.journal =
      FormEngine.tally s.form.journal := moves.tally
  rw [tally] at told
  obtain ⟨f, hf, handed, returned⟩ := h.accounts id told
  refine ⟨f, hf, by rw [tally]; exact handed, .inl ?_⟩
  rw [moves.outcomes]
  rcases returned with ended | ⟨_, _, _, waits, defers⟩
  · exact absurd ended (h.alone.2 _)
  · rcases List.mem_cons.mp waits with head | waits
    · cases head
      rw [defers.succeeds]
      exact List.mem_append_right _ List.mem_cons_self
    · exact absurd waits (h.alone.1 _)

end Turns

/-- Every turn keeps the accounts in order. -/
theorem work {job : Job} {ready : List Job} (h : Ledger app acceptedBy [] s)
    (hr : s.agenda.ready = job :: ready)
    (known : ∀ id, job = .resume (.submission id .begun) → s.form.state.isSubmitting = false →
      handedBy id (tally ({ s with agenda.ready := ready }.work app (notify app) job).form.journal) =
        (s.form.beginSubmission id).handing app → acceptedBy id (s.form.beginSubmission id)) :
    Ledger app acceptedBy [] ({ s with agenda.ready := ready }.work app (notify app) job) := by
  let popped : Session := { s with agenda.ready := ready }
  have seen := seen_ready Task.errand? hr
  have running : Ledger app acceptedBy (job.task?.bind Task.errand?).toList popped := by
    have same : popped.tickets (job.task?.bind Task.errand?).toList = s.tickets [] := by
      unfold tickets
      rw [List.nil_append, seen]
    obtain ⟨calm, distinct, opened, accepted, begun, accounts⟩ := h
    rw [List.nil_append, seen] at begun
    refine ⟨calm, same ▸ distinct, same ▸ opened, accepted, begun, fun id hid => ?_⟩
    obtain ⟨f, hf, handed, returned⟩ := accounts id hid
    rw [List.nil_append, seen] at returned
    exact ⟨f, hf, handed, returned⟩
  cases job with
  | checkValidity => exact running.aside (.form rfl)
  | forget id => exact running.aside (.of rfl rfl rfl rfl rfl)
  | wake task =>
      refine h.aside (.agenda (.filterMap Task.errand? ?_) rfl (Nat.le_refl _))
      refine (Agenda.tasks_add _ _).trans (.of_eq ?_)
      rw [Agenda.tasks_ready hr]
      rfl
  | resume task =>
      cases task with
      | inquiry id q stage => exact running.aside (.inquireOn popped id q stage)
      | pause id => exact running.dismiss (.inl rfl) (conclude_moves popped id true)
      | submission id stage =>
          cases stage with
          | handing epoch handler values => exact running.handIn
          | begun =>
              cases busy : s.form.state.isSubmitting with
              | false => exact running.accept busy (known id rfl busy)
              | true => 
                  exact running.dismiss (.inr rfl) (submit_refused (s := popped) busy id)

end Ledger

/-- The turn in which a submission is accepted, from one session to another. -/
structure Accepts (app : Application) (id : Nat) (u v : Session) : Prop where
  idle : u.form.state.isSubmitting = false
  turn : ∃ ready, u.agenda.ready = .resume (.submission id .begun) :: ready ∧
    v = { u with agenda.ready := ready }.work app (notify app) (.resume (.submission id .begun))

/-- In the course of a run a form accepted a submission, and all that it hands over it did in that turn. -/
def AcceptedBy (app : Application) (b t : Session) (id : Nat) (f : Form) : Prop :=
  ∃ u v, Leads app (fun _ => True) b u ∧ Accepts app id u v ∧ Leads app (fun _ => True) v t ∧
    f = u.form.beginSubmission id ∧ handedBy id (tally v.form.journal) = f.handing app

theorem begins_ledger {b : Session} (begins : Begins app b) (calm : b.reactions = []) :
    Ledger app acceptedBy [] b := by
  obtain ⟨source, parsed, given, snapshot, state, reactions, -, -, rfl⟩ := begins
  have untold {e} : e ∉ tally (start app parsed snapshot (.starting state) reactions).form.journal :=
    List.not_mem_nil
  have unopened {id} : id ∉ (start app parsed snapshot (.starting state) reactions).tickets [] :=
    List.not_mem_nil
  exact ⟨calm, List.nodup_nil, fun _ h => absurd h unopened, fun _ h => absurd h untold,
    fun _ h => absurd h untold, fun _ h => absurd h untold⟩

/-- Whatever is asked of a form, the accounts of its submissions are in order. -/
theorem Leads.ledger {b t : Session} (begins : Begins app b) (calm : b.reactions = [])
    (led : Leads app (fun _ => True) b t) : Ledger app (AcceptedBy app b t) [] t := by
  induction led with
  | refl => exact begins_ledger begins calm
  | @command t c led _ ih =>
      refine (ih.imp ?_).aside (.perform t c)
      rintro id f ⟨u, v, hu, accepts, hv, same⟩
      exact ⟨u, v, hu, accepts, hv.command c trivial, same⟩
  | @submission t submissions led ih =>
      refine (ih.imp ?_).opens [(t.agenda.nextTask, some .begun)]
        ⟨(t.agenda.tasks_openSubmission).filterMap Task.errand?, (List.append_nil _).symm, rfl,
          Nat.le_succ _, fun calm => calm⟩ (List.pairwise_singleton _ _) ?_
      · rintro id f ⟨u, v, hu, accepts, hv, same⟩
        exact ⟨u, v, hu, accepts, hv.submission submissions, same⟩
      · intro e he
        rw [List.mem_singleton.mp he]
        exact ⟨Nat.le_refl _, Nat.lt_succ_self _⟩
  | @pause t span led ih =>
      have slept := Moves.slept t span (.pause t.agenda.nextTask)
      refine (ih.imp ?_).opens [(t.agenda.nextTask, none)]
        ⟨slept.errands, slept.outcomes, slept.tally, Nat.le_succ _, slept.calm⟩
        (List.pairwise_singleton _ _) ?_
      · rintro id f ⟨u, v, hu, accepts, hv, same⟩
        exact ⟨u, v, hu, accepts, hv.pause span, same⟩
      · intro e he
        rw [List.mem_singleton.mp he]
        exact ⟨Nat.le_refl _, Nat.lt_succ_self _⟩
  | @work t job ready led hr ih =>
      refine (ih.imp ?_).work hr ?_
      · rintro id f ⟨u, v, hu, accepts, hv, same⟩
        exact ⟨u, v, hu, accepts, hv.work hr, same⟩
      · rintro id rfl idle handed
        exact ⟨t, _, led, ⟨idle, ready, hr, rfl⟩, .refl, rfl, handed⟩
  | @elapse t agenda led ha ih =>
      refine (ih.imp ?_).aside (.agenda ((Agenda.tasks_toNextTimer ha).filterMap Task.errand?) ?_ ?_)
      · rintro id f ⟨u, v, hu, accepts, hv, same⟩
        exact ⟨u, v, hu, accepts, hv.elapse ha, same⟩
      · obtain ⟨_, -, rfl⟩ := Option.map_eq_some_iff.mp ha
        rfl
      · obtain ⟨_, -, rfl⟩ := Option.map_eq_some_iff.mp ha
        exact Nat.le_refl _

end Session

end FormEngine
