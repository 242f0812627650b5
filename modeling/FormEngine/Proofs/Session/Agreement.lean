import FormEngine.Proofs.Form.Exchange
import FormEngine.Proofs.Session.Display
import FormEngine.Proofs.Session.Repose

/-!
A mounted form and its store. An edit of the form is written to the store once; the store tells the
form of it, and the form takes over no more than what the store had before under fields without a
value. A write from outside is taken over and not written back. So after every operation the form has
what the store has for its fields, and after every edit of its own the store has all that the form has.
It takes functions that alter no value in place, since the form and the store need not hold the same
copy of it.
-/

namespace FormEngine

/-- The entries of the record that a store holds. -/
def Store.entries (s : Store) : Table Value := Form.namedEntries s.state

/-- Edits of a form, writes of its store with a record, and what leaves both alone. A NaN is put into
neither. -/
def FormCommand.Trades : FormCommand → Prop
  | .change _ v => v.equal v = true
  | .setValues v => ∀ changes, Construct.record v = .ok changes →
      ∀ e ∈ Form.entriesOf changes, e.2.equal e.2 = true
  | .setStore v => v.IsLedger
  | .reset => True
  | c => c.IsIdle

namespace Session

variable {app : Application}

/-- The form has for its fields what its store has for them, as far as equality goes. -/
def Agrees (s : Session) : Prop := s.form.Mirrors s.store.entries

/-- The store has all that the form has, as far as equality goes. -/
def IsShared (s : Session) : Prop := s.form.IsAmong s.store.entries

/-- A session with other values in its form. -/
def holding (values : Table Value) (s : Session) : Session :=
  { s with form := s.form.holding values }

/-- No function of a field alters values and no callback answers; the store works and holds a record,
and values are not being taken over from it. There is no NaN. -/
structure Trading (app : Application) (s : Session) : Prop where
  quiet : s.form.syncing = false
  calm : s.reactions = []
  sturdy : s.broken = []
  keeps : s.form.parsed.KeepsValues app.host
  ledger : s.store.state.IsLedger
  values : s.form.state.values.IsRegular
  snapshot : s.form.snapshot.IsRegular

/-- Such a form listens to its store and agrees with it. -/
structure Attuned (app : Application) (s : Session) : Prop extends Trading app s where
  listens : s.store.listeners ≠ []
  agrees : s.Agrees

/-- The store came to hold a state and was written so many times in all; the form agrees with it, and
took nothing over under keys that are none of its fields. -/
structure Heeds (state : Value) (writes : Nat) (s t : Session) : Prop where
  state : t.store.state = state
  writes : t.store.writes = writes
  agrees : t.Agrees
  foreign : ∀ id ∉ s.form.parsed.fieldIds,
    t.form.state.values.get? id = s.form.state.values.get? id

/-- The form came to hold values and shared them: it has them all, and what it has besides is under its
fields; the store was written once, it has what the form has, and the form agrees with it. -/
structure Spreads (values : Table Value) (s t : Session) : Prop where
  kept : ∀ e ∈ values, t.form.state.values.get? e.1 = some e.2
  foreign : ∀ id ∉ s.form.parsed.fieldIds, t.form.state.values.get? id = values.get? id
  agrees : t.Agrees
  shared : t.IsShared
  once : t.store.writes = s.store.writes + 1

namespace Steady

variable {s t u : Session}

/-- Values were put in before they were shared. -/
theorem put {values : Table Value} (h : Steady (s.holding values) t)
    (hs : Spreads t.form.state.values t u) : Spreads values s u where
  kept := by
    rw [h.values] at hs
    exact hs.kept
  foreign id hid := by
    have foreign := hs.foreign id (h.parsed.symm ▸ hid)
    rw [h.values] at foreign
    exact foreign
  agrees := hs.agrees
  shared := hs.shared
  once := hs.once.trans (congrArg (fun store => store.writes + 1) h.store)

variable (h : Steady s t)
include h

theorem get? (id : String) : t.form.state.values.get? id = s.form.state.values.get? id := by
  rw [h.values]

theorem mirrors {entries : Table Value} (mirrors : s.form.Mirrors entries) :
    t.form.Mirrors entries := by
  intro e he known
  rw [h.parsed] at known
  rw [h.values]
  exact mirrors e he known

theorem agrees (agrees : s.Agrees) : t.Agrees := by
  unfold Agrees
  rw [h.store]
  exact h.mirrors agrees

theorem isShared (shared : s.IsShared) : t.IsShared := by
  intro e he
  rw [h.values] at he
  rw [h.store]
  exact shared e he

theorem trading (hs : Trading app s) : Trading app t where
  quiet := h.syncing.trans hs.quiet
  calm := h.reactions.trans hs.calm
  sturdy := h.broken.trans hs.sturdy
  keeps := h.parsed ▸ hs.keeps
  ledger := h.store ▸ hs.ledger
  values := h.values ▸ hs.values
  snapshot := h.snapshot ▸ hs.snapshot

/-- Nothing changes after values were shared. -/
theorem spreads {values : Table Value} (hs : Spreads values u s) : Spreads values u t where
  kept e he := by
    rw [h.values]
    exact hs.kept e he
  foreign id hid := by
    rw [h.values]
    exact hs.foreign id hid
  agrees := h.agrees hs.agrees
  shared := h.isShared hs.shared
  once := h.store ▸ hs.once

end Steady

theorem Attuned.along {s t : Session} (hs : Attuned app s) (h : Steady s t) : Attuned app t where
  toTrading := h.trading hs.toTrading
  listens := h.store ▸ hs.listens
  agrees := h.agrees hs.agrees

/-- The form can hold other values, without a NaN. -/
theorem Trading.holding {s : Session} (h : Trading app s) {values : Table Value}
    (regular : values.IsRegular) : Trading app (s.holding values) :=
  { h with values := regular }

/-- A commit puts the changes in and tells of them, then shares them, and is then followed up. -/
theorem commit_steady (app : Application) {s : Session} (calm : s.reactions = [])
    (share : Session → Session) (changes : Table Value) :
    ∃ told, Steady (s.holding (s.form.state.values.merge changes)) told ∧
      (s.commit app (notify app) share changes).1 = (share told).followUp app changes.keys := by
  refine ⟨_, ?_, commit_eq app (notify app) share s changes⟩
  obtain ⟨states, frame⟩ := Form.refresh_frame app.host changes.keys (s.form.put changes)
  have put : Steady (s.holding (s.form.state.values.merge changes))
      (s.become ((s.form.put changes).refresh app.host changes.keys)) := by
    unfold become
    rw [frame]
    exact ⟨rfl, rfl, rfl, rfl, rfl, rfl, rfl⟩
  exact put.trans (.told (put.reactions.trans calm) _)

/-- What differs is taken over, and nothing else changes. -/
theorem takeOver_steady (app : Application) {s : Session} (quiet : s.form.syncing = false)
    (calm : s.reactions = []) (keeps : s.form.parsed.KeepsValues app.host) (values : Value) :
    Steady (s.holding (s.form.heeding (Form.namedEntries values)))
      (s.takeOver app (notify app) values).1 := by
  unfold takeOver
  dsimp only
  split
  · next none =>
    unfold Form.heeding
    rw [List.isEmpty_iff.mp none]
    exact .refl s
  · let busy : Session := { s with form.syncing := true }
    let changes := s.form.differing (Form.namedEntries values)
    obtain ⟨told, put, committed⟩ := commit_steady app (s := busy) calm (fun s => s) changes
    have whole : Steady (busy.holding (s.form.heeding (Form.namedEntries values)))
        (busy.commit app (notify app) (fun s => s) changes).1 := by
      rw [committed]
      exact put.trans (.followedUp (put.parsed ▸ keeps) changes.keys)
    exact ⟨whole.values, whole.parsed, whole.snapshot, quiet.symm, whole.store, whole.broken,
      whole.reactions⟩

section Trading

variable {s : Session} (hs : Trading app s)
include hs

/-- When the store tells of a record, the form takes over what differs. -/
theorem hear_steady {state : Value} (mapping : state.pairs?.isSome = true) :
    Steady (s.holding (s.form.heeding (Form.namedEntries state)))
      (s.hear app (notify app) {} state) := by
  obtain ⟨w, read, same⟩ := StoreView.read_record app.host mapping
  unfold hear note
  dsimp only
  rw [read]
  dsimp only
  rw [if_neg (Bool.eq_false_iff.mp hs.quiet)]
  have taken := takeOver_steady app (s := { s with
    events := s.events ++ (StoreView.read app.host {} state).events }) hs.quiet hs.calm hs.keeps w
  rw [same] at taken
  exact ⟨taken.values, taken.parsed, taken.snapshot, taken.syncing, taken.store, taken.broken,
    taken.reactions⟩

/-- To be told of what it mirrors already changes nothing, however often. -/
theorem hearing_steady {state : Value} (mapping : state.pairs?.isSome = true)
    (mirrors : s.form.Mirrors (Form.namedEntries state)) (listeners : List Nat) :
    Steady s (listeners.foldl (fun s _ => s.hear app (notify app) {} state) s) := by
  induction listeners generalizing s with
  | nil => exact .refl s
  | cons token listeners ih =>
      have heard : Steady s (s.hear app (notify app) {} state) := by
        have taken := hear_steady hs mapping
        rw [Form.heeding_eq mirrors] at taken
        exact taken
      exact heard.trans (ih (heard.trading hs) (heard.mirrors mirrors))

/-- A form that is told of what its store holds agrees with it, having taken over what differs. -/
theorem hearing_attuned (listens : s.store.listeners ≠ []) :
    let heard := s.store.listeners.foldl (fun u _ => u.hear app (notify app) {} s.store.state) s
    Attuned app heard ∧ Steady (s.holding (s.form.heeding s.store.entries)) heard := by
  intro heard
  let taken := s.holding (s.form.heeding s.store.entries)
  have mirrors : taken.form.Mirrors s.store.entries := Form.mirrors_heeding hs.ledger.entries
  have attuned : Attuned app taken :=
    ⟨hs.holding (Form.heeding_regular hs.ledger.entries hs.values), listens, mirrors⟩
  obtain ⟨token, others, hl⟩ := List.exists_cons_of_ne_nil listens
  have first : Steady taken (s.hear app (notify app) {} s.store.state) :=
    hear_steady hs hs.ledger.mapping
  have steady : Steady taken heard := by
    unfold heard
    rw [hl]
    exact first.trans (hearing_steady (first.trading attuned.toTrading) hs.ledger.mapping
      (first.mirrors mirrors) others)
  exact ⟨attuned.along steady, steady⟩

/-- A write from outside is taken over and answered with none. -/
theorem setStore_heeds (linked : app.link = some { view := {} }) (listens : s.store.listeners ≠ [])
    {v : Value} (ledger : v.IsLedger) :
    Attuned app (s.setStore app (notify app) v).1 ∧
      Heeds v (s.store.writes + 1) s (s.setStore app (notify app) v).1 := by
  let written : Session := { s with store := s.store.write v }
  obtain ⟨attuned, heard⟩ := hearing_attuned (s := written) { hs with ledger } listens
  rw [setStore_eq linked hs.sturdy]
  refine ⟨attuned, congrArg Store.state heard.store, congrArg Store.writes heard.store,
    attuned.agrees, fun id foreign => ?_⟩
  exact (heard.get? id).trans (Form.get?_heeding foreign)

/-- Sharing writes once, and the form takes over no more than what it had no value for. -/
theorem share_spreads (linked : app.link = some { view := {} })
    (listens : s.store.listeners ≠ []) :
    Attuned app (s.share app (notify app)) ∧
      Spreads s.form.state.values s (s.share app (notify app)) := by
  obtain ⟨state, events, mapping, entries, shared⟩ :=
    share_eq linked hs.sturdy hs.quiet hs.ledger.mapping
  rw [Table.ofEntries_eq hs.ledger.entries.distinct] at entries
  have ledger : state.IsLedger := by
    refine ⟨mapping, ?_⟩
    rw [entries]
    exact hs.ledger.entries.merge hs.values.equal
  let written : Session := { s with events, store := s.store.write state }
  have laid : written.store.entries = s.store.entries.merge s.form.state.values := entries
  obtain ⟨attuned, heard⟩ := hearing_attuned (s := written) { hs with ledger } listens
  rw [laid] at heard
  rw [shared]
  refine ⟨attuned, fun e he => ?_, fun id foreign => ?_, attuned.agrees, heard.isShared ?_,
    congrArg Store.writes heard.store⟩
  · exact (heard.get? e.1).trans
      (Form.get?_heeding_shared hs.values hs.ledger.entries.distinct he)
  · exact (heard.get? id).trans (Form.get?_heeding foreign)
  · have among := Form.isAmong_heeding hs.values hs.ledger.entries
    exact laid ▸ among

end Trading

section Attuned

variable {s : Session} (hs : Attuned app s) (linked : app.link = some { view := {} })
include hs linked

/-- A commit shares the values with the changes over them. -/
theorem commit_spreads {changes : Table Value} (changed : ∀ e ∈ changes, e.2.equal e.2 = true) :
    let committed := (s.commit app (notify app) (share app (notify app)) changes).1
    Attuned app committed ∧ Spreads (s.form.state.values.merge changes) s committed := by
  intro committed
  obtain ⟨told, put, eq⟩ := commit_steady app hs.calm (share app (notify app)) changes
  have before : Trading app told := put.trading (hs.toTrading.holding (hs.values.merge changed))
  obtain ⟨attuned, spreads⟩ := share_spreads before linked (put.store ▸ hs.listens)
  have followed : Steady (told.share app (notify app)) committed := by
    unfold committed
    rw [eq]
    exact .followedUp attuned.keeps _
  exact ⟨attuned.along followed, followed.spreads (put.put spreads)⟩

theorem change_spreads (id : String) {v : Value} (equal : v.equal v = true) :
    Attuned app (s.change app (notify app) id v).1 ∧
      Spreads (s.form.state.values.merge [(id, v)]) s (s.change app (notify app) id v).1 := by
  refine commit_spreads hs linked fun e he => ?_
  rw [List.mem_singleton.mp he]
  exact equal

/-- A reset shares the snapshot. -/
theorem reset_spreads : Attuned app (s.reset app (notify app)) ∧
    Spreads s.form.snapshot s (s.reset app (notify app)) := by
  obtain ⟨states, frame⟩ := Form.seed_frame app.host s.form
  have seeded : Steady (s.holding s.form.snapshot) (s.become (s.form.seed app.host)) := by
    unfold become
    rw [frame]
    exact ⟨rfl, rfl, rfl, rfl, rfl, rfl, rfl⟩
  have told : Steady (s.holding s.form.snapshot)
      ((s.become (s.form.seed app.host)).tell (notify app) .restored) :=
    seeded.trans (.told (seeded.reactions.trans hs.calm) .restored)
  have before : Trading app _ := told.trading (hs.toTrading.holding hs.snapshot)
  obtain ⟨attuned, spreads⟩ := share_spreads before linked (told.store ▸ hs.listens)
  exact ⟨attuned, told.put spreads⟩

/-- A command of those who trade leaves the form in agreement with its store. -/
theorem perform_attuned (c : FormCommand) (hc : c.Trades) : Attuned app (s.perform app c).1 := by
  have idle (hc : c.IsIdle) : Attuned app (s.perform app c).1 :=
    hs.along (.performed hs.keeps hs.calm hc)
  cases c with
  | change id v => exact (change_spreads hs linked id hc).1
  | setValues v =>
      have set : Attuned app (s.setValues app (notify app) v).1 := by
        unfold setValues
        split
        · exact hs
        · split
          · next changes h => exact (commit_spreads hs linked (hc changes h)).1
          · exact hs
      exact set
  | reset => exact (reset_spreads hs linked).1
  | setStore v => exact (setStore_heeds hs.toTrading linked hs.listens hc).1
  | blur id => exact idle trivial
  | focus id => exact idle trivial
  | validate => exact idle trivial
  | validateField id => exact idle trivial
  | render => exact idle trivial
  | look => exact idle trivial
  | _ => exact hc.elim

omit linked in
theorem abandon_attuned (id epoch : Nat) (cause : Option Fault) :
    Attuned app (s.abandon id epoch cause) := by
  obtain ⟨submitting, frame⟩ :=
    Form.endSubmission_frame id epoch { s.form with submitFault := cause.or s.form.submitFault }
  have abandoned : Steady s (s.abandon id epoch cause) := by
    unfold abandon conclude
    dsimp only
    rw [frame]
    exact ⟨rfl, rfl, rfl, rfl, rfl, rfl, rfl⟩
  exact hs.along abandoned

theorem complete_attuned (id epoch : Nat) :
    Attuned app (s.complete app (notify app) id epoch) := by
  obtain ⟨submitting, frame⟩ := Form.endSubmission_frame id epoch s.form
  have ended : Attuned app { s with form := s.form.endSubmission id epoch } := by
    rw [frame]
    exact hs.along (.of s.events rfl rfl rfl rfl)
  have concluded {t : Session} (ht : Attuned app t) : Attuned app (t.conclude id true) :=
    ht.along (.arranged t _)
  unfold complete
  dsimp only
  split
  · exact concluded (reset_spreads ended linked).1
  · exact concluded ended

theorem handIn_attuned (id epoch : Nat) (handler : Callable) (values : Table Value) :
    Attuned app (s.handIn app (notify app) id epoch handler values) := by
  have noted : Attuned app { s with
      events := s.events ++ (app.host.run handler [.record values]).events } :=
    hs.along (.of _ rfl rfl rfl rfl)
  unfold handIn
  dsimp only
  split
  · exact complete_attuned noted linked id epoch
  · exact abandon_attuned noted id epoch _

theorem handOver_attuned (id epoch : Nat) (values : Table Value) :
    Attuned app (s.handOver app (notify app) id epoch values) := by
  have marked : Attuned app { s with form := s.form.mark (.handed id values) } :=
    hs.along (.of s.events rfl rfl rfl rfl)
  have told : Attuned app (notify app { s with form := s.form.mark (.handed id values) }
      (.submitted values)).1 :=
    marked.along (.told marked.calm _)
  unfold handOver
  dsimp only
  split
  · exact abandon_attuned told id epoch _
  · exact complete_attuned told linked id epoch
  · split
    · exact handIn_attuned told linked id epoch _ values
    · exact told.along (.arranged _ _)

theorem submit_attuned (id : Nat) : Attuned app (s.submit app (notify app) id) := by
  have accepted : Attuned app { s with form := s.form.beginSubmission id } :=
    hs.along (.of s.events rfl rfl rfl rfl)
  have checked : Attuned app (if (s.form.beginSubmission id).validatesOnSubmit then
      { s with form := s.form.beginSubmission id }.validate app (notify app)
      else ({ s with form := s.form.beginSubmission id }, .ok [])).1 := by
    split
    · exact accepted.along (.validated accepted.keeps accepted.calm)
    · exact accepted
  unfold submit
  split
  · exact hs.along (.arranged s _)
  · dsimp only
    split
    · exact abandon_attuned checked id _ _
    · split
      · exact abandon_attuned checked id _ _
      · split
        · exact handOver_attuned checked linked id _ _
        · exact complete_attuned checked linked id _

end Attuned

/-- Whatever is done, and in whatever order jobs have their turn, a form that agrees with its store goes
on agreeing with it. -/
theorem Leads.attuned {s t : Session} (linked : app.link = some { view := {} })
    (reached : Reachable app s) (hs : Attuned app s) (led : Leads app FormCommand.Trades s t) :
    Reachable app t ∧ Attuned app t := by
  induction led with
  | refl => exact ⟨reached, hs⟩
  | @command t c _ hc ih =>
      obtain ⟨reached, attuned⟩ := ih
      exact ⟨reached.leads (Leads.refl.command c trivial), perform_attuned attuned linked c hc⟩
  | @submission t submissions _ ih =>
      obtain ⟨reached, attuned⟩ := ih
      exact ⟨reached.leads (Leads.refl.submission submissions),
        attuned.along ⟨rfl, rfl, rfl, rfl, rfl, rfl, rfl⟩⟩
  | @pause t span _ ih =>
      obtain ⟨reached, attuned⟩ := ih
      exact ⟨reached.leads (Leads.refl.pause span), attuned.along (.arranged t _)⟩
  | @work t job ready _ hr ih =>
      obtain ⟨reached, attuned⟩ := ih
      refine ⟨reached.leads (Leads.refl.work hr), ?_⟩
      have popped : Attuned app { t with agenda.ready := ready } :=
        attuned.along (.arranged t _)
      cases job with
      | checkValidity => exact popped.along (.of _ rfl rfl rfl rfl)
      | wake task => exact popped.along (.arranged _ _)
      | forget id => exact popped.along (.arranged _ _)
      | resume task =>
          cases task with
          | inquiry id q stage =>
              exact attuned.along (.inquiredOn reached attuned.keeps hr)
          | submission id stage =>
              cases stage with
              | begun => exact submit_attuned popped linked id
              | handing epoch handler values =>
                  exact handIn_attuned popped linked id epoch handler values
          | pause id => exact popped.along (.arranged _ _)
  | @elapse t agenda _ ha ih =>
      obtain ⟨reached, attuned⟩ := ih
      exact ⟨reached.leads (Leads.refl.elapse ha), attuned.along (.arranged t _)⟩

/-- A form that is about to be mounted next to a store that works and holds a record: no function alters
a value in place, be it one of a field or of the form or what submissions are handed to, its application
answers no callback, and there is no NaN. -/
structure Docked (app : Application) (s : Session) : Prop where
  reached : Reachable app s
  apart : s.form.mounted = false
  calm : s.reactions = []
  sturdy : s.broken = []
  keeps : app.host.KeepsValues
  ledger : s.store.state.IsLedger
  values : ∀ e ∈ s.form.state.values, e.2.equal e.2 = true
  snapshot : ∀ e ∈ s.form.snapshot, e.2.equal e.2 = true

theorem Docked.trading {s : Session} (h : Docked app s) : Trading app s where
  quiet := h.reached.quiet
  calm := h.calm
  sturdy := h.sturdy
  keeps := h.keeps.parsed _
  ledger := h.ledger
  values := ⟨h.reached.keyed.values, h.values⟩
  snapshot := ⟨h.reached.keyed.snapshot, h.snapshot⟩

end Session

end FormEngine
