import FormEngine.Proofs.Session.Lockstep
import FormEngine.Proofs.Session.Repose

/-!
A form that is made anew, by a reset, by another schema or by another snapshot. What it still remembers of
its past are counts that are only compared with each other, so that next to a form that has just been made
it is ahead, but otherwise the same: whatever is done with both, they answer and show the same.
-/

namespace FormEngine

/-- Nothing of a form waits for its turn or sleeps; pauses of the application may. -/
structure Agenda.AtRest (a : Agenda) : Prop where
  tasks : ∀ task ∈ a.tasks, ∃ id, task = .pause id
  checks : a.checks = 0
  pending : a.pending = []

theorem Agenda.AtRest.shift {a : Agenda} (rest : a.AtRest) (k : Kinship) : a.shift k = a := by
  have same : a.map (Task.shift k) = a.map id := by
    refine map_congr fun task ht => ?_
    obtain ⟨id, rfl⟩ := rest.tasks task ht
    rfl
  have jobs : Job.map id = id := by
    funext job
    cases job <;> rfl
  have timers : (Timer.map id : Timer Task → Timer Task) = id := rfl
  unfold Agenda.shift
  rw [same]
  unfold map Timers.map
  rw [jobs, timers, List.map_id, Array.map_id]

/-- A form that is made anew, next to one that has just been made. -/
theorem Form.Twin.seeded (host : Host) {f : Form} (idle : f.syncing = false) :
    Form.Twin ⟨host, host, fun _ => 0, f.epoch, fun _ => False, false⟩ 0
      (f.seed host).value (Form.start host f.parsed f.snapshot).value where
  parsed := rfl
  snapshot := rfl
  state := rfl
  fieldStates := rfl
  syncing := idle.symm
  rules _ _ _ := rfl
  mounted mounts := by cases mounts
  begun _ begun := begun.elim
  generations id n known := by cases known
  replaced id known := by cases known
  epoch := (Nat.add_comm _ _).trans (congrArg (· + f.epoch) (Nat.zero_add 1).symm)
  opened := rfl
  reported := ⟨_, rfl⟩
  fault := .inr rfl

namespace Session

/-- The commands that make a form anew, with the schema and the snapshot that it has after them. -/
inductive Renews (app : Application) (s : Session) :
    FormCommand → ParsedSchema → Table Value → Prop
  | reset : (∀ r ∈ s.reactions, r.occasion ≠ .restore) →
      Renews app s .reset s.form.parsed s.form.snapshot
  | schema {v : Value} {parsed : ParsedSchema} :
      ParsedSchema.parse app.environment (.raw v) = .ok parsed →
      Renews app s (.setSchema v) parsed s.form.snapshot
  | snapshot {v values : Value} : Construct.record v = .ok values →
      (Value.record (Form.entriesOf values)).equal (.record s.form.snapshot) = false →
      Renews app s (.setSnapshot v) s.form.parsed (Form.entriesOf values)

/-- A form that has just been made in the place of another, at the same time. -/
def afresh (app : Application) (s : Session) (parsed : ParsedSchema) (snapshot : Table Value) :
    Session :=
  { start app parsed snapshot s.store s.reactions with agenda := s.agenda }

/-- What a command makes of a form when it makes it anew. -/
theorem Renews.frame {app : Application} (unlinked : app.link = none) {s : Session} {command : FormCommand}
    {parsed : ParsedSchema} {snapshot : Table Value} (renews : Renews app s command parsed snapshot) :
    ∃ journal events, (s.perform app command).1 = { s with
      form := { ({ s.form with parsed, snapshot }.seed app.host).value with journal }
      events } := by
  cases renews with
  | reset unanswered =>
    let seeded := s.become (s.form.seed app.host)
    obtain ⟨journal, events, told⟩ := notify_calm app (s := seeded) (e := .restored)
      fun r hr same => unanswered r hr (Option.some.inj same).symm
    have performed : (s.perform app .reset).1 = (notify app seeded .restored).1 := by
      change share app (notify app) (notify app seeded .restored).1 = _
      unfold share
      rw [unlinked]
    exact ⟨journal, events, performed.trans told⟩
  | @schema v parsed parses =>
    have performed : (s.perform app (.setSchema v)).1 = (s.setSchema app v).1 := rfl
    have obtained : (SchemaInput.unparsed (.raw v)).parse app.environment = .ok parsed := parses
    rw [performed, setSchema, replaceSchema, obtained]
    exact ⟨_, _, rfl⟩
  | @snapshot v values reads differs =>
    have performed : (s.perform app (.setSnapshot v)).1 = (s.setSnapshot app v).1 := rfl
    rw [performed, setSnapshot, reads]
    dsimp only
    unfold Form.setSnapshot
    rw [if_neg (by rw [differs]; exact Bool.false_ne_true)]
    exact ⟨_, _, rfl⟩

/-- A form that was made anew shows, whatever is done with it, what one shows that has just been made with
the same schema and snapshot. It forgets the fault of the last submission once it accepts another. -/
theorem renewed_form_as_new {app : Application} (unlinked : app.link = none) {s : Session}
    (reached : Reachable app s) (rest : s.agenda.AtRest) (tame : s.Tame (Ordinary false true))
    {command : FormCommand} {parsed : ParsedSchema} {snapshot : Table Value}
    (renews : Renews app s command parsed snapshot) (moves : List Move)
    (ordinary : ∀ move ∈ moves, move.Ordinary false true) :
    let renewed := (s.perform app command).1.playAll app moves
    let fresh := (s.afresh app parsed snapshot).playAll app moves
    renewed.2 = fresh.2 ∧
      (fresh.1.form.journal.any Milestone.accepts = true →
        renewed.1.form.submitFault = fresh.1.form.submitFault) := by
  intro renewed fresh
  obtain ⟨journal, events, frame⟩ := renews.frame unlinked
  let c : Comparison := { Comparison.refl app false true with
    epochs := s.form.epoch
    past := events
    otherPast := (s.afresh app parsed snapshot).events }
  -- no inquiry is under way, so that no generation of one form has to agree with one of the other
  have twins : c.Twins 0 (s.perform app command).1 (s.afresh app parsed snapshot) := by
    have idle : { s.form with parsed, snapshot }.syncing = false := reached.quiet
    rw [frame]
    refine
      { looks := ⟨fun _ => 0, fun _ => False, { Form.Twin.seeded app.host idle with }, ?_, ?_⟩
        dealings := .inr ⟨⟨.inl unlinked, fun mounts => by cases mounts⟩,
          ⟨.inl unlinked, fun mounts => by cases mounts⟩⟩
        reactions := rfl
        tame := tame
        events := ⟨[], (List.append_nil _).symm, (List.append_nil _).symm⟩ }
    · exact (rest.shift _).symm
    · intro task ht
      obtain ⟨id, rfl⟩ := rest.tasks task ht
      trivial
  have played := twins.playAll ordinary
  refine ⟨played.snd.symm, fun accepts => ?_⟩
  obtain ⟨_, _, looks⟩ := played.fst.looks
  refine (looks.twin.fault.resolve_right fun none => ?_).symm
  obtain ⟨m, hm, accepted⟩ := List.any_eq_true.mp accepts
  have refused := List.all_eq_true.mp none m hm
  rw [accepted] at refused
  cases refused

/-- A form that was filled in and validated, and then came to rest. -/
def restingSession : Session :=
  let s := ((FormSchema.demanding.begin .content).perform .content (.change "b" (.str "x"))).1
  (s.perform .content .validate).1.settle .content

/-- It is reset, and then submitted without the value that it needs. -/
theorem restingSession_renewed : restingSession.form.state.isDirty = true ∧
    let sights := ((restingSession.perform .content .reset).1.playAll .content
      [.submit, .command .render]).2
    sights = ((restingSession.afresh .content restingSession.form.parsed []).playAll .content
      [.submit, .command .render]).2 ∧
      sights.map (fun sight => sight.state.errors.keys) = [["a"], ["a"]] := by
  have reached : Reachable .content restingSession :=
    ⟨_, FormSchema.begins (by decide +kernel),
      ((Leads.refl.command _ trivial).command _ trivial).settle⟩
  have idle : restingSession.agenda.tasks.isEmpty = true := by decide +kernel
  have rest : restingSession.agenda.AtRest :=
    ⟨by simp [List.isEmpty_iff.mp idle], by decide +kernel, by decide +kernel⟩
  have silent : restingSession.reactions.isEmpty = true := by decide +kernel
  have silent : restingSession.reactions = [] := List.isEmpty_iff.mp silent
  have unlinked : Application.content.link = none := rfl
  have renewed := renewed_form_as_new unlinked reached rest (by simp [Tame, silent])
    (.reset (by simp [silent])) [.submit, .command .render] (by simp [Move.Ordinary, Ordinary])
  exact ⟨by decide +kernel, renewed.1, by decide +kernel⟩

/-- A form whose application answers a reset with a change. -/
def refillingSession : Session :=
  .start .content ((FormSchema.plain [.plain "a" "text"]).parsed []) [] (.starting .null)
    [⟨.restore, .change "a" (.str "x")⟩]

/-- What the application does while it is told of a reset is there after the reset. -/
theorem answered_reset_remembered : ¬ ∀ (app : Application) (s : Session), app.link = none →
    Reachable app s → s.agenda.AtRest → s.Tame (Ordinary false true) →
    ∀ moves : List Move, (∀ move ∈ moves, move.Ordinary false true) →
      ((s.perform app .reset).1.playAll app moves).2 =
        ((s.afresh app s.form.parsed s.form.snapshot).playAll app moves).2 := by
  intro always
  have parsed : ParsedSchema.parse [] (.loaded (FormSchema.plain [.plain "a" "text"])) = .ok _ :=
    FormSchema.parse_eq (by decide +kernel)
  have reached : Reachable .content refillingSession :=
    ⟨_, ⟨_, _, .null, [], .null, _, parsed, rfl, rfl⟩, .refl⟩
  have tame : refillingSession.Tame (Ordinary false true) := by
    intro r hr
    rw [List.mem_singleton.mp hr]
    trivial
  have rest : refillingSession.agenda.AtRest := ⟨fun _ h => (by cases h), rfl, rfl⟩
  have same := always .content refillingSession rfl reached rest tame [.command .validate]
    (by simp [Move.Ordinary, Ordinary])
  have dirty := congrArg (List.map fun sight => sight.state.isDirty) same
  exact absurd dirty (by decide +kernel)

end Session

end FormEngine
