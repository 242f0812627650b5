import FormEngine.Proofs.Session.Reach
import FormEngine.Proofs.Session.Shift

/-!
Two runs of a form side by side. The forms look the same but have different pasts; their applications may
differ in that one host says no where the other raises, in what callbacks raise after they are done, and
in that one is linked to a store with which nothing can be done while the other is linked to none. Every
command that is carried out in both answers the same, is told of by the same events, and leaves forms that
look the same.
-/

namespace FormEngine

namespace Session

/-- The commands by which a form is filled in and set back; where that is asked for it is mounted too, or
given another schema. -/
def Ordinary (mounts parses : Bool) : FormCommand → Prop
  | .change .. | .setValues _ | .blur _ | .focus _ | .validate | .validateField _ | .reset
  | .setSnapshot _ | .render | .look => True
  | .mount | .unmount => mounts = true
  | .setSchema _ => parses = true
  | .handle .. | .setStore _ | .breakStore _ => False

/-- What a session has to do with a store. -/
structure Trade where
  store : Store
  broken : List StoreOperation
  subscription : Option Nat
  nextToken : Nat

def trade (s : Session) : Trade := ⟨s.store, s.broken, s.subscription, s.nextToken⟩

theorem isBroken_of_trade {s t : Session} (same : t.trade = s.trade) (o : StoreOperation) :
    t.isBroken o = s.isBroken o :=
  congrArg (fun x : Trade => x.broken.contains o) same

/-- Nothing passes between a form and a store: there is none, or whatever is done with it fails. -/
structure Aloof (mounts : Bool) (app : Application) (t : Trade) : Prop where
  fails : app.link = none ∨ ∀ o, t.broken.contains o = true
  unheard : mounts = true → t.subscription = none

theorem Aloof.broken {mounts : Bool} {app : Application} {t : Trade} (aloof : Aloof mounts app t)
    {link : StoreLink} (h : app.link = some link) (o : StoreOperation) : t.broken.contains o = true :=
  aloof.fails.resolve_left (fun none => by rw [none] at h; cases h) o

/-- A form aloof from its store takes nothing over, and is not told of anything later. -/
theorem Aloof.attach {mounts : Bool} {app : Application} {notify : Notifier} {s : Session}
    (aloof : Aloof mounts app s.trade) {link : StoreLink} (h : app.link = some link) :
    s.attach app notify link = (s, .ok ()) := by
  have broken (o : StoreOperation) : s.isBroken o = true := aloof.broken h o
  unfold Session.attach listen
  rw [if_pos (broken .get), if_pos (broken .subscribe), ite_self]

theorem Aloof.mount {mounts : Bool} {app : Application} {notify : Notifier} {s : Session}
    (aloof : Aloof mounts app s.trade) (apart : s.form.mounted = false) :
    s.mount app notify = ({ s with form.mounted := true }.tell notify .mounted, .ok ()) := by
  unfold Session.mount
  rw [apart]
  cases h : app.link with
  | none => rfl
  | some link =>
    simp only [Bool.false_eq_true, if_false]
    rw [Aloof.attach (s := { s with form.mounted := true }) aloof h]

/-- Both applications are linked to a store, through which the same passes. -/
structure Linked (app other : Application) : Prop where
  link : other.link = app.link
  read : ∀ link, app.link = some link → ∀ state,
    link.view.read other.host state = link.view.read app.host state
  write : ∀ link, app.link = some link → ∀ state values,
    link.view.write other.host state values = link.view.write app.host state values

theorem Linked.readAlike {app other : Application} (linked : Linked app other) (state : Value) :
    (other.link.elim {} StoreLink.view).read other.host state =
      (app.link.elim {} StoreLink.view).read app.host state := by
  rw [linked.link]
  cases h : app.link with
  | none => rfl
  | some link => exact linked.read link h state

/-- Two applications whose runs are compared, with the events of each of them before. -/
structure Comparison where
  app : Application
  other : Application
  mounts : Bool
  parses : Bool
  /-- how many times more the first form was made anew -/
  epochs : Nat
  past : List Event
  otherPast : List Event
  excuses : app.host.Excuses other.host
  environment : other.environment = app.environment
  settings : other.settings = app.settings
  disabled : other.disabled = app.disabled
  defers : other.defers = app.defers
  hears : other.hears = app.hears
  raises : other.raises .submit = app.raises .submit
  handler : other.handler = app.handler
  handled : ∀ f, app.handler = some f → other.host.run f = app.host.run f
  agrees : parses = true → ∀ parsed : ParsedSchema, parsed.RulesAgree app.host other.host

namespace Comparison

/-- An application next to itself, of which two forms have just been made. -/
def refl (app : Application) (mounts parses : Bool) : Comparison where
  app := app
  other := app
  mounts := mounts
  parses := parses
  epochs := 0
  past := []
  otherPast := []
  excuses := .refl app.host
  environment := rfl
  settings := rfl
  disabled := rfl
  defers := rfl
  hears := rfl
  raises := rfl
  handler := rfl
  handled _ _ := rfl
  agrees _ _ _ _ _ := rfl

variable (c : Comparison)

def kinship (generations : String → Nat) (begun : String → Prop) : Kinship where
  host := c.app.host
  other := c.other.host
  generations := generations
  epochs := c.epochs
  begun := begun
  mounts := c.mounts

/-- The same passes between the forms and their stores, or nothing. -/
def Dealings (t u : Trade) : Prop :=
  Linked c.app c.other ∧ u = t ∨ Aloof c.mounts c.app t ∧ Aloof c.mounts c.other u

/-- What an agenda may hold: an inquiry about a field about which one was begun, and the handler of the
application. -/
def Admits (begun : String → Prop) : Task → Prop
  | .inquiry _ q _ => begun q.field.id
  | .submission _ (.handing _ handler _) => c.app.handler = some handler
  | _ => True

/-- Two forms that look the same, with the same work to do. -/
structure Looks (generations : String → Nat) (begun : String → Prop) (opened : Nat) (f g : Form)
    (a b : Agenda) : Prop where
  twin : Form.Twin (c.kinship generations begun) opened f g
  agenda : a = b.shift (c.kinship generations begun)
  admitted : ∀ task ∈ b.tasks, c.Admits begun task

/-- Two sessions that look the same, with the same reactions still to come and the same events since. -/
structure Twins (opened : Nat) (s t : Session) : Prop where
  looks : ∃ generations begun, c.Looks generations begun opened s.form t.form s.agenda t.agenda
  dealings : c.Dealings s.trade t.trade
  reactions : t.reactions = s.reactions
  tame : s.Tame (Ordinary c.mounts c.parses)
  events : ∃ news, s.events = c.past ++ news ∧ t.events = c.otherPast ++ news

/-- Notifiers that leave twins where they find twins. What they raise makes no difference, unless they
tell of a submission. -/
def Alike (notify notify' : Notifier) : Prop :=
  ∀ opened s t, c.Twins opened s t → ∀ e,
    c.Twins opened (notify s e).1 (notify' t e).1 ∧
      (e.occasion? = some .submit → (notify' t e).2 = (notify s e).2)

end Comparison

namespace Comparison.Twins

variable {c : Comparison} {opened opened' : Nat} {s t : Session} {f g : Form}

theorem emitted (twins : c.Twins opened s t) (events : List Event) :
    c.Twins opened { s with events := s.events ++ events } { t with events := t.events ++ events } := by
  obtain ⟨news, first, second⟩ := twins.events
  refine { twins with events := ⟨news ++ events, ?_, ?_⟩ }
  · dsimp only
    rw [first, List.append_assoc]
  · dsimp only
    rw [second, List.append_assoc]

/-- A change of the forms. -/
theorem formed (twins : c.Twins opened s t)
    (h : ∀ generations begun, Form.Twin (c.kinship generations begun) opened s.form t.form →
      Form.Twin (c.kinship generations begun) opened' f g) :
    c.Twins opened' { s with form := f } { t with form := g } := by
  obtain ⟨generations, begun, looks⟩ := twins.looks
  exact { twins with looks := ⟨generations, begun, { looks with twin := h _ _ looks.twin }⟩ }

/-- A change of the agendas by which no task is added. -/
theorem arranged (twins : c.Twins opened s t) {a b : Agenda}
    (h : ∀ k, s.agenda = t.agenda.shift k → a = b.shift k)
    (kept : ∀ task ∈ b.tasks, task ∈ t.agenda.tasks) :
    c.Twins opened { s with agenda := a } { t with agenda := b } := by
  obtain ⟨generations, begun, looks⟩ := twins.looks
  exact { twins with looks := ⟨generations, begun, { looks with
    agenda := h _ looks.agenda
    admitted := fun task ht => looks.admitted task (kept task ht) }⟩ }

theorem become (twins : c.Twins opened s t) {x y : Logged Form}
    (h : ∀ generations begun, Form.Twin (c.kinship generations begun) opened s.form t.form →
      Logged.Matches (Form.Twin (c.kinship generations begun) opened') x y) :
    c.Twins opened' (s.become x) (t.become y) := by
  obtain ⟨generations, begun, twin, -⟩ := twins.looks
  have told := (twins.formed fun _ _ twin => (h _ _ twin).value).emitted x.events
  unfold Session.become
  rw [(h _ _ twin).events]
  exact told

/-- A change of the forms that comes with events and an outcome. -/
theorem took {α : Type} (twins : c.Twins opened s t) {x y : Logged (Form × α)}
    (h : ∀ generations begun, Form.Twin (c.kinship generations begun) opened s.form t.form →
      Logged.Matches (Paired (Form.Twin (c.kinship generations begun) opened')) x y) :
    Paired (c.Twins opened') ({ (s.note x).1 with form := x.value.1 }, x.value.2)
      ({ (t.note y).1 with form := y.value.1 }, y.value.2) := by
  obtain ⟨generations, begun, looks⟩ := twins.looks
  obtain ⟨⟨f, g, outcome, hx, hy, twin⟩, events⟩ := h _ _ looks.twin
  rw [hx, hy]
  refine .intro ?_ outcome
  unfold note
  rw [events]
  exact { twins.emitted x.events with looks := ⟨generations, begun, { looks with twin }⟩ }

/-- A change of the stores that both forms are linked to. -/
theorem traded (twins : c.Twins opened s t) (linked : Linked c.app c.other) {store store' : Store}
    {subscription subscription' : Option Nat} {nextToken nextToken' : Nat}
    (same : { t with store := store', subscription := subscription', nextToken := nextToken' }.trade =
      { s with store := store, subscription := subscription, nextToken := nextToken }.trade) :
    c.Twins opened { s with store := store, subscription := subscription, nextToken := nextToken }
      { t with store := store', subscription := subscription', nextToken := nextToken' } :=
  { twins with dealings := .inl ⟨linked, same⟩ }

theorem state (twins : c.Twins opened s t) : t.form.state = s.form.state := by
  obtain ⟨_, _, twin, -⟩ := twins.looks
  exact twin.state

theorem syncing (twins : c.Twins opened s t) : t.form.syncing = s.form.syncing := by
  obtain ⟨_, _, twin, -⟩ := twins.looks
  exact twin.syncing

theorem mounted (twins : c.Twins opened s t) (mounts : c.mounts = true) :
    t.form.mounted = s.form.mounted := by
  obtain ⟨_, _, twin, -⟩ := twins.looks
  exact twin.mounted mounts

section Checks

theorem reviewValidity (twins : c.Twins opened s t) :
    c.Twins opened (s.reviewValidity c.app) (t.reviewValidity c.other) := by
  unfold Session.reviewValidity
  rw [c.defers]
  split
  · refine twins.arranged (fun k same => ?_) fun task ht => ?_
    · rw [same]
      exact Agenda.add_map _ _ .checkValidity
    · rwa [Agenda.tasks_add_none _ _ rfl] at ht
  · exact twins.formed fun _ _ twin => twin.checkValidity

theorem recheck (twins : c.Twins opened s t) (id : String) :
    Paired (c.Twins opened) (s.recheck c.app id) (t.recheck c.other id) :=
  twins.took (x := s.form.recheck c.app.host id) (y := t.form.recheck c.other.host id)
    fun _ _ twin => twin.recheck c.excuses id

/-- An inquiry is the first one about its field, or has the number that comes next. -/
theorem inquire (twins : c.Twins opened s t) (id : String) :
    c.Twins opened (s.inquire c.app id) (t.inquire c.other id) := by
  obtain ⟨generations, begun, looks⟩ := twins.looks
  unfold Session.inquire
  rw [looks.twin.parsed]
  cases hp : s.form.parsed.field? id with
  | none => exact twins
  | some p =>
    dsimp only
    split
    · exact twins
    obtain ⟨generations', kept, counted, twin⟩ := looks.twin.nextGeneration id
    let begun' (field : String) : Prop := begun field ∨ field = id
    have admitted : ∀ task ∈ t.agenda.tasks, c.Admits begun' task := by
      intro task ht
      have before := looks.admitted task ht
      cases task with
      | inquiry _ q _ => exact .inl before
      | submission _ stage => cases stage <;> exact before
      | pause _ => exact before
    -- the inquiries that are under way keep their numbers
    have agenda : s.agenda = t.agenda.shift (c.kinship generations' begun') := by
      refine looks.agenda.trans (Agenda.shift_congr _ t.agenda _ rfl fun x hx => ?_)
      obtain ⟨task, ht, hx⟩ := List.mem_filterMap.mp hx
      have before := looks.admitted task ht
      cases task with
      | inquiry _ q _ =>
        cases hx
        exact (kept _ before).symm
      | submission _ _ => cases hx
      | pause _ => cases hx
    rw [c.defers]
    split
    · have about : p.id = id := beq_iff_eq.mp (List.find?_some hp :)
      refine { twins with looks := ⟨generations', begun', twin.mark _ _ rfl, ?_, fun task ht => ?_⟩ }
      · have opened := Agenda.openInquiry_shift (c.kinship generations' begun') t.agenda
          ⟨p, (t.form.nextGeneration id).1, t.form.value id⟩
        rw [← agenda] at opened
        refine .trans (congrArg s.agenda.openInquiry ?_) opened
        rw [Inquiry.mk.injEq]
        refine ⟨rfl, counted.trans ?_, (looks.twin.valueOf id).symm⟩
        exact congrArg (fun field => (t.form.nextGeneration id).1 + generations' field) about.symm
      · rcases List.mem_cons.mp ((Agenda.tasks_openInquiry _ _).mem_iff.mp ht) with rfl | earlier
        · exact .inr about
        · exact admitted task earlier
    · exact { twins with looks := ⟨generations', begun', twin, agenda, admitted⟩ }

theorem reconsider (twins : c.Twins opened s t) (id : String) :
    Paired (c.Twins opened) (s.reconsider c.app id) (t.reconsider c.other id) := by
  have checks : t.form.validatesOnChange = s.form.validatesOnChange := by
    obtain ⟨_, _, twin, -⟩ := twins.looks
    exact twin.validatesOnChange
  have rechecked : Paired (c.Twins opened)
      (if s.form.validatesOnChange then s.recheck c.app id else (s, .ok ()))
      (if s.form.validatesOnChange then t.recheck c.other id else (t, .ok ())) := by
    split
    · exact twins.recheck id
    · exact .intro twins _
  unfold Session.reconsider
  rw [checks]
  obtain ⟨a, b, outcome, ha, hb, twins⟩ := rechecked
  rw [ha, hb]
  cases outcome with
  | ok _ => exact .intro (twins.inquire id) _
  | error e => exact .intro twins _

theorem reconsiderAll (twins : c.Twins opened s t) (ids : List String) :
    Paired (c.Twins opened) (s.reconsiderAll c.app ids) (t.reconsiderAll c.other ids) := by
  induction ids generalizing s t with
  | nil => exact .intro twins _
  | cons id ids ih =>
    unfold Session.reconsiderAll
    obtain ⟨a, b, outcome, ha, hb, twins⟩ := twins.reconsider id
    rw [ha, hb]
    cases outcome with
    | ok _ => exact ih twins
    | error e => exact .intro (twins.formed fun _ _ twin => twin.mark _ _ rfl) _

end Checks

section Operations

variable {notify notify' : Notifier} (alike : c.Alike notify notify')
include alike

theorem tell (twins : c.Twins opened s t) (e : Event) :
    c.Twins opened (s.tell notify e) (t.tell notify' e) :=
  (alike opened s t twins e).1

theorem commit {share share' : Session → Session}
    (shares : ∀ s t, c.Twins opened s t → c.Twins opened (share s) (share' t))
    (twins : c.Twins opened s t) (changes : Table Value) :
    Paired (c.Twins opened) (s.commit c.app notify share changes)
      (t.commit c.other notify' share' changes) := by
  have put : c.Twins opened (s.become ((s.form.put changes).refresh c.app.host changes.keys))
      (t.become ((t.form.put changes).refresh c.other.host changes.keys)) :=
    twins.become fun _ _ twin => (twin.put changes).refresh c.excuses changes.keys
  have told := put.tell alike (.changed
    (s.become ((s.form.put changes).refresh c.app.host changes.keys)).form.state.values)
  have reconsidered := (shares _ _ told).reconsiderAll changes.keys
  unfold Session.commit
  dsimp only
  rw [put.state]
  obtain ⟨a, b, outcome, ha, hb, twins⟩ := reconsidered
  rw [ha, hb]
  cases outcome with
  | ok _ => exact .intro twins.reviewValidity _
  | error e => exact .intro twins _

theorem takeOver (twins : c.Twins opened s t) (values : Value) :
    Paired (c.Twins opened) (s.takeOver c.app notify values) (t.takeOver c.other notify' values) := by
  have differing : t.form.differing (Form.namedEntries values) =
      s.form.differing (Form.namedEntries values) := by
    obtain ⟨_, _, twin, -⟩ := twins.looks
    exact twin.differing _
  unfold Session.takeOver
  dsimp only
  rw [differing]
  split
  · exact .intro twins _
  · have syncing : c.Twins opened { s with form.syncing := true } { t with form.syncing := true } :=
      twins.formed fun _ _ twin => { twin with syncing := rfl }
    have committed := syncing.commit alike
      (fun s t twins => (twins : c.Twins opened ((fun s => s) s) ((fun t => t) t)))
      (s.form.differing (Form.namedEntries values))
    exact .of (committed.fst.formed fun _ _ twin => { twin with syncing := rfl }) committed.snd

theorem hear (twins : c.Twins opened s t) {view view' : StoreView} {state : Value}
    (read : view'.read c.other.host state = view.read c.app.host state) :
    c.Twins opened (s.hear c.app notify view state) (t.hear c.other notify' view' state) := by
  have noted := twins.emitted (view.read c.app.host state).events
  unfold Session.hear note
  rw [read]
  dsimp only
  rw [twins.syncing]
  cases (view.read c.app.host state).value with
  | error e => exact noted
  | ok values =>
    dsimp only
    split
    · exact noted
    · exact (noted.takeOver alike values).fst

/-- A store that both forms are linked to is written. -/
theorem setStore (twins : c.Twins opened s t) (linked : Linked c.app c.other) (same : t.trade = s.trade)
    (state : Value) :
    c.Twins opened (s.setStore c.app notify state).1 (t.setStore c.other notify' state).1 := by
  have store : t.store = s.store := congrArg Trade.store same
  have written : c.Twins opened { s with store := s.store.write state }
      { t with store := t.store.write state } :=
    twins.traded linked (congrArg (fun x : Trade => { x with store := x.store.write state }) same)
  have heard (tokens : List Nat) {s t : Session} (twins : c.Twins opened s t) : c.Twins opened
      (tokens.foldl (fun s _ => s.hear c.app notify (c.app.link.elim {} StoreLink.view) state) s)
      (tokens.foldl (fun t _ =>
        t.hear c.other notify' (c.other.link.elim {} StoreLink.view) state) t) := by
    induction tokens generalizing s t with
    | nil => exact twins
    | cons _ _ ih => exact ih (twins.hear alike (linked.readAlike state))
  unfold Session.setStore
  rw [isBroken_of_trade same]
  split
  · exact twins
  · dsimp only
    rw [store] at written ⊢
    exact heard s.store.listeners written

/-- What one form shares the other shares; a form aloof from its store shares nothing. -/
theorem share (twins : c.Twins opened s t) :
    c.Twins opened (s.share c.app notify) (t.share c.other notify') := by
  have unshared {app : Application} {notify : Notifier} {s : Session}
      (aloof : Aloof c.mounts app s.trade) : s.share app notify = s := by
    unfold Session.share
    cases h : app.link with
    | none => rfl
    | some link =>
      have broken : s.isBroken .get = true := aloof.broken h .get
      simp only [broken, Bool.or_true, if_true]
  rcases twins.dealings with ⟨linked, same⟩ | ⟨first, second⟩
  · have store : t.store = s.store := congrArg Trade.store same
    unfold Session.share
    rw [linked.link]
    cases h : c.app.link with
    | none => exact twins
    | some link =>
      dsimp only
      rw [twins.syncing, isBroken_of_trade same]
      split
      · exact twins
      · have wrote : link.view.write c.other.host t.store.state (.record t.form.state.values) =
            link.view.write c.app.host s.store.state (.record s.form.state.values) := by
          rw [store, twins.state, linked.write link h]
        unfold note
        dsimp only
        rw [wrote]
        let written := link.view.write c.app.host s.store.state (.record s.form.state.values)
        have still := congrArg
          (fun x : Trade => { x with store := { x.store with state := written.value.altered } }) same
        have altered := (twins.emitted written.events).traded linked still
        cases written.value.outcome with
        | error e => exact altered
        | ok state => exact altered.setStore alike linked still state
  · rw [unshared first, unshared second]
    exact twins

theorem change (twins : c.Twins opened s t) (id : String) (v : Value) : Paired (c.Twins opened)
    (s.change c.app notify id v) (t.change c.other notify' id v) :=
  twins.commit alike (fun _ _ twins => twins.share alike) [(id, v)]

theorem setValues (twins : c.Twins opened s t) (values : Value) : Paired (c.Twins opened)
    (s.setValues c.app notify values) (t.setValues c.other notify' values) := by
  unfold Session.setValues
  split
  · exact .intro twins _
  · split
    · exact twins.commit alike (fun _ _ twins => twins.share alike) _
    · exact .intro twins _

theorem blur (twins : c.Twins opened s t) (id : String) : Paired (c.Twins opened)
    (s.blur c.app notify id) (t.blur c.other notify' id) := by
  have touched : c.Twins opened { s with form := s.form.touch id } { t with form := t.form.touch id } :=
    twins.formed fun _ _ twin => twin.touch id
  have told := touched.tell alike (.blurred id)
  unfold Session.blur
  dsimp only
  obtain ⟨_, _, twin, -⟩ := told.looks
  rw [twin.validatesOnBlur]
  split
  · exact told.recheck id
  · exact .intro told _

omit alike in
theorem reported (twins : c.Twins (opened + 1) s t) :
    t.form.report.1 = s.form.report.1 ∧
      c.Twins opened { s with form := s.form.report.2 } { t with form := t.form.report.2 } := by
  obtain ⟨_, _, twin, -⟩ := twins.looks
  exact ⟨twin.report.1, twins.formed fun _ _ twin => twin.report.2⟩

/-- A validation that is told of is reported once its callbacks are done, which may have begun and
reported others. -/
theorem validate (twins : c.Twins opened s t) : Paired (c.Twins opened)
    (s.validate c.app notify) (t.validate c.other notify') := by
  have checked := twins.took (x := s.form.complaints c.app.host) (y := t.form.complaints c.other.host)
    fun _ _ twin => twin.complaints c.excuses
  have same : (t.form.complaints c.other.host).value.2 = (s.form.complaints c.app.host).value.2 :=
    checked.snd
  unfold Session.validate
  dsimp only [Session.note] at checked ⊢
  rw [same]
  cases (s.form.complaints c.app.host).value.2 with
  | error e => exact .intro checked.fst _
  | ok found =>
    have settled : c.Twins (opened + 1) _ _ := checked.fst.formed fun _ _ twin => twin.settle found
    have reported := (settled.tell alike (.validated found.isEmpty found)).reported
    exact .of reported.2 (congrArg Except.ok reported.1)

theorem reset (twins : c.Twins opened s t) :
    c.Twins opened (s.reset c.app notify) (t.reset c.other notify') := by
  have seeded : c.Twins opened (s.become (s.form.seed c.app.host)) (t.become (t.form.seed c.other.host)) :=
    twins.become fun _ _ twin => twin.seed c.excuses
  exact (seeded.tell alike .restored).share alike

omit alike in
theorem listen (twins : c.Twins opened s t) {link link' : StoreLink} (h : c.app.link = some link)
    (h' : c.other.link = some link') : c.Twins opened s.listen t.listen := by
  rcases twins.dealings with ⟨linked, same⟩ | ⟨first, second⟩
  · unfold Session.listen
    rw [isBroken_of_trade same]
    split
    · exact twins
    · exact twins.traded linked (congrArg (fun x : Trade => { x with
        store := x.store.subscribe x.nextToken
        subscription := some x.nextToken
        nextToken := x.nextToken + 1 }) same)
  · unfold Session.listen
    rw [if_pos (show s.isBroken .subscribe = true from first.broken h .subscribe),
      if_pos (show t.isBroken .subscribe = true from second.broken h' .subscribe)]
    exact twins

theorem attach (twins : c.Twins opened s t) (linked : Linked c.app c.other) (same : t.trade = s.trade)
    {link : StoreLink} (h : c.app.link = some link) : Paired (c.Twins opened)
    (s.attach c.app notify link) (t.attach c.other notify' link) := by
  have h' : c.other.link = some link := linked.link.trans h
  have read : link.view.read c.other.host t.store.state = link.view.read c.app.host s.store.state := by
    rw [show t.store = s.store from congrArg Trade.store same, linked.read link h]
  have noted := twins.emitted (link.view.read c.app.host s.store.state).events
  unfold Session.attach note
  rw [isBroken_of_trade same, read]
  split
  · exact .intro twins _
  · split
    · exact .intro (twins.listen h h') _
    · dsimp only
      cases (link.view.read c.app.host s.store.state).value with
      | error e => exact .intro (noted.listen h h') _
      | ok values =>
        dsimp only [Except.map]
        obtain ⟨a, b, outcome, ha, hb, took⟩ := noted.takeOver alike values
        rw [ha, hb]
        cases outcome with
        | error e => exact .intro took _
        | ok _ => exact .intro (took.listen h h') _

theorem mount (twins : c.Twins opened s t) (mounts : c.mounts = true) : Paired (c.Twins opened)
    (s.mount c.app notify) (t.mount c.other notify') := by
  have entered : c.Twins opened { s with form.mounted := true } { t with form.mounted := true } :=
    twins.formed fun _ _ twin => { twin with mounted := fun _ => rfl }
  cases apart : s.form.mounted with
  | true =>
    unfold Session.mount
    rw [twins.mounted mounts, apart]
    exact .intro twins _
  | false =>
    rcases twins.dealings with ⟨linked, same⟩ | ⟨first, second⟩
    · unfold Session.mount
      rw [twins.mounted mounts, apart, linked.link]
      cases h : c.app.link with
      | none => exact .intro (entered.tell alike .mounted) _
      | some link =>
        obtain ⟨a, b, outcome, ha, hb, attached⟩ := entered.attach alike linked same h
        simp only [Bool.false_eq_true, if_false]
        rw [ha, hb]
        cases outcome with
        | ok _ => exact .intro (attached.tell alike .mounted) _
        | error e => exact .intro attached _
    · rw [first.mount apart, second.mount ((twins.mounted mounts).trans apart)]
      exact .intro (entered.tell alike .mounted) _

omit alike in
theorem detach (twins : c.Twins opened s t) (mounts : c.mounts = true) :
    c.Twins opened s.detach t.detach := by
  rcases twins.dealings with ⟨linked, same⟩ | ⟨first, second⟩
  · have subscription : t.subscription = s.subscription := congrArg Trade.subscription same
    unfold Session.detach
    rw [subscription, isBroken_of_trade same]
    cases s.subscription with
    | none => exact twins
    | some token =>
      exact twins.traded linked (congrArg (fun x : Trade => { x with
        store := if s.isBroken .unsubscribe then x.store else x.store.unsubscribe token
        subscription := none }) same)
  · have unheard {app : Application} {s : Session} (aloof : Aloof c.mounts app s.trade) :
        s.detach = s := by
      have none : s.subscription = none := aloof.unheard mounts
      unfold Session.detach
      rw [none]
    rw [unheard first, unheard second]
    exact twins

theorem unmount (twins : c.Twins opened s t) (mounts : c.mounts = true) :
    c.Twins opened (s.unmount notify) (t.unmount notify') := by
  have left : c.Twins opened { s with form.mounted := false } { t with form.mounted := false } :=
    twins.formed fun _ _ twin => { twin with mounted := fun _ => rfl }
  have superseded := (left.detach mounts).formed fun _ _ twin =>
    twin.supersedeAll.mark .unmounted .unmounted rfl
  unfold Session.unmount
  rw [twins.mounted mounts]
  split
  · exact twins
  · exact superseded.tell alike .unmounted

omit alike in
theorem setSchema (twins : c.Twins opened s t) (parses : c.parses = true) (schema : Value) :
    Paired (c.Twins opened) (s.setSchema c.app schema) (t.setSchema c.other schema) := by
  unfold Session.setSchema Session.replaceSchema
  rw [c.environment]
  split
  · next parsed _ =>
    refine .intro (twins.become fun _ _ twin => ?_) _
    exact Form.Twin.seed (f := { s.form with parsed }) (g := { t.form with parsed }) c.excuses
      { twin with parsed := rfl, rules := c.agrees parses parsed }
  · exact .intro twins _

omit alike in
theorem setSnapshot (twins : c.Twins opened s t) (values : Value) :
    Paired (c.Twins opened) (s.setSnapshot c.app values) (t.setSnapshot c.other values) := by
  unfold Session.setSnapshot
  split
  · refine .intro (twins.become fun _ _ twin => ?_) _
    unfold Form.setSnapshot
    rw [twin.snapshot]
    split
    · exact .pure twin
    · exact Form.Twin.seed c.excuses { twin with snapshot := rfl }
  · exact .intro twins _

omit alike in
theorem render (twins : c.Twins opened s t) :
    Paired (c.Twins opened) (s.render c.app) (t.render c.other) := by
  have rendered : t.form.render c.other.settings c.other.disabled =
      s.form.render c.app.settings c.app.disabled := by
    obtain ⟨_, _, twin, -⟩ := twins.looks
    rw [c.settings, c.disabled]
    exact twin.render _ _
  unfold Session.render note
  rw [rendered]
  exact .intro { twins.emitted (s.form.render c.app.settings c.app.disabled).events with } _

/-- A command is carried out alike. -/
theorem run (twins : c.Twins opened s t) {command : FormCommand}
    (ordinary : Ordinary c.mounts c.parses command) : Paired (c.Twins opened)
    (s.run c.app notify command) (t.run c.other notify' command) := by
  cases command with
  | change id v => exact (twins.change alike id v).map (Except.map fun _ => FormAnswer.nothing)
  | setValues values => exact (twins.setValues alike values).map (Except.map fun _ => FormAnswer.nothing)
  | blur id => exact (twins.blur alike id).map (Except.map fun _ => FormAnswer.nothing)
  | focus id => exact .intro (twins.tell alike (.focused id)) _
  | validate => exact (twins.validate alike).map (Except.map FormAnswer.verdict)
  | validateField id =>
    have probed := twins.took (x := s.form.complaintsAt c.app.host id)
      (y := t.form.complaintsAt c.other.host id) fun _ _ twin => twin.complaintsAt c.excuses id
    exact probed.map (Except.map FormAnswer.messages)
  | reset => exact .intro (twins.reset alike) _
  | mount => exact (twins.mount alike ordinary).map (Except.map fun _ => FormAnswer.nothing)
  | unmount => exact .intro (twins.unmount alike ordinary) _
  | setSchema schema => exact (twins.setSchema ordinary schema).map (Except.map fun _ => FormAnswer.nothing)
  | setSnapshot values => exact (twins.setSnapshot values).map (Except.map fun _ => FormAnswer.nothing)
  | render => exact twins.render.map fun nodes => Except.ok (FormAnswer.nodes nodes)
  | look => exact .intro twins _
  | handle id name arguments => exact ordinary.elim
  | setStore state => exact ordinary.elim
  | breakStore operations => exact ordinary.elim

end Operations

theorem takeReaction? (twins : c.Twins opened s t) (o : Occasion) :
    s.takeReaction? o = none ∧ t.takeReaction? o = none ∨
      ∃ command s' t', Ordinary c.mounts c.parses command ∧ c.Twins opened s' t' ∧
        s.takeReaction? o = some (command, s') ∧ t.takeReaction? o = some (command, t') := by
  unfold Session.takeReaction?
  rw [twins.reactions]
  cases h : s.reactions.find? fun r => r.occasion == o with
  | none => exact .inl ⟨rfl, rfl⟩
  | some r =>
    have left : c.Twins opened
        { s with reactions := s.reactions.eraseP fun r => r.occasion == o }
        { t with reactions := s.reactions.eraseP fun r => r.occasion == o } :=
      { twins with
        reactions := rfl
        tame := fun r hr => twins.tame r (List.mem_of_mem_eraseP hr) }
    exact .inr ⟨r.command, _, _, twins.tame r (List.mem_of_find?_eq_some h), left, rfl, rfl⟩

end Comparison.Twins

namespace Comparison

variable (c : Comparison)

/-- Callbacks that answer alike are alike, whatever they raise after that; what they raise when they are
told of a submission is the same. -/
theorem alike_callBack {answer answer' : Occasion → Session → Session × Except Fault Unit}
    (answers : ∀ opened s t, c.Twins opened s t → ∀ o,
      Paired (c.Twins opened) (answer o s) (answer' o t)) :
    c.Alike (callBack c.app answer) (callBack c.other answer') := by
  intro opened s t twins e
  unfold callBack
  rw [c.hears]
  cases ho : e.occasion?.filter c.app.hears with
  | none => exact ⟨twins, fun _ => rfl⟩
  | some o =>
    have marked : c.Twins opened
        { s with events := s.events ++ [e], form := s.form.mark (.calledBack s.form.state.isSubmitting) }
        { t with events := t.events ++ [e], form := t.form.mark (.calledBack t.form.state.isSubmitting) } :=
      (twins.emitted [e]).formed fun _ _ twin => twin.mark _ _ rfl
    have answered := answers opened _ _ marked o
    -- what a callback raises is heard of on a submission only
    refine ⟨answered.fst, fun submits => ?_⟩
    have same : o = .submit := by
      rw [submits] at ho
      exact (Option.some.inj (Option.filter_eq_some_iff.mp ho).1).symm
    dsimp only
    rw [answered.snd, same, c.raises]

/-- The induction is on the number of reactions that may still have their turn. -/
theorem reactions_alike (fuel opened : Nat) (s t : Session) (twins : c.Twins opened s t) (o : Occasion) :
    Paired (c.Twins opened) (react c.app fuel o s) (react c.other fuel o t) := by
  induction fuel generalizing opened s t o with
  | zero => exact .intro twins _
  | succ fuel ih =>
    unfold react
    rcases twins.takeReaction? o with ⟨first, second⟩ | ⟨command, s', t', ordinary, left, first, second⟩
    · rw [first, second]
      exact .intro twins _
    · rw [first, second]
      dsimp only
      obtain ⟨a, b, outcome, ha, hb, ran⟩ := left.run (c.alike_callBack ih) ordinary
      rw [ha, hb]
      cases outcome with
      | error e => exact .intro ran _
      | ok _ => exact ih opened a b ran o

theorem alike_notify : c.Alike (notify c.app) (notify c.other) := by
  intro opened s t twins e
  have same := c.alike_callBack (c.reactions_alike s.reactions.length) opened s t twins e
  unfold notify
  rw [twins.reactions]
  exact same

/-- A command of the application is carried out alike, with all that its callbacks answer. -/
theorem Twins.perform {c : Comparison} {opened : Nat} {s t : Session} (twins : c.Twins opened s t)
    {command : FormCommand} (ordinary : Ordinary c.mounts c.parses command) :
    Paired (c.Twins opened) (s.perform c.app command) (t.perform c.other command) :=
  twins.run c.alike_notify ordinary

end Comparison

end Session

end FormEngine
