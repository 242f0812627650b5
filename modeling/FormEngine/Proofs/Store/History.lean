import FormEngine.Proofs.Store.Delivery
import Mathlib.Data.List.DropRight

/-!
The subscriptions of a bridge are those of its history. Stores may be switched, and handles called,
any number of times and in any order: the bridge has on the store it is connected to the listeners that
were subscribed since it was connected and whose handles were not called, in order, and no others.
-/

namespace FormEngine

/-! ## What was done to a bridge -/

inductive Deed
  | connected (c : Connection)
  | disconnected
  | subscribed (token : Nat) (name : String)
  /-- the handle of a listener is called -/
  | called (token : Nat)

namespace Deed

/-- Whether it ends a connection, and which one follows. -/
def switch? : Deed → Option (Option Connection)
  | connected c => some (some c)
  | disconnected => some none
  | subscribed .. | called _ => none

def subscription? : Deed → Option (Nat × String)
  | subscribed token name => some (token, name)
  | connected _ | disconnected | called _ => none

def calls (token : Nat) : Deed → Bool
  | called token' => token' == token
  | connected _ | disconnected | subscribed .. => false

end Deed

/-- What the bridge is connected to after all this. -/
def connectionAfter (past : List Deed) : Option Connection :=
  (past.filterMap Deed.switch?).getLast?.join

/-- The subscriptions since the bridge was last connected whose handles were never called. -/
def standing (past : List Deed) : List (Nat × String) :=
  ((past.rtakeWhile fun deed => deed.switch?.isNone).filterMap Deed.subscription?).filter fun sub =>
    !past.any (Deed.calls sub.1)

section Standing

variable {past : List Deed} {deed : Deed}

theorem connectionAfter_append_singleton :
    connectionAfter (past ++ [deed]) = deed.switch?.getD (connectionAfter past) := by
  unfold connectionAfter
  cases h : deed.switch? <;> simp [h]

theorem standing_switch {connection : Option Connection} (h : deed.switch? = some connection) :
    standing (past ++ [deed]) = [] := by
  unfold standing
  rw [List.rtakeWhile_concat_neg]
  · rfl
  · simp [h]

/-- A new subscription stands if its handle was not called before. -/
theorem standing_subscribed {token : Nat} {name : String}
    (uncalled : past.any (Deed.calls token) = false) :
    standing (past ++ [.subscribed token name]) = standing past ++ [(token, name)] := by
  unfold standing
  rw [List.rtakeWhile_concat_pos _ _ _ rfl, List.filterMap_append, List.filter_append]
  simp [Deed.subscription?, Deed.calls, uncalled]

theorem standing_called (token : Nat) :
    standing (past ++ [.called token]) = (standing past).filter fun sub => sub.1 ≠ token := by
  have none : [Deed.called token].filterMap Deed.subscription? = [] := rfl
  unfold standing
  rw [List.rtakeWhile_concat_pos _ _ _ rfl, List.filterMap_append, none, List.append_nil,
    List.filter_filter]
  refine List.filter_congr fun sub _ => ?_
  rw [List.any_append]
  by_cases same : token = sub.1 <;> simp [Deed.calls, same, Ne.symm]

end Standing

namespace BridgeSession

/-! ## Runs -/

/-- The session after a command. -/
def after (host : Host) (s : BridgeSession) (command : BridgeCommand) : BridgeSession :=
  (s.run host command).value.1

/-- What a command does to the bridge, if it succeeds. -/
def deed? (host : Host) (s : BridgeSession) (command : BridgeCommand) : Option Deed :=
  match (s.run host command).value.2, command with
  | .ok _, .connect (some store) view => some (.connected ⟨store, view⟩)
  | .ok _, .disconnect => some .disconnected
  | .ok _, .subscribe name _ => some (.subscribed s.nextToken name)
  | .ok _, .unsubscribe name =>
    (s.listeners.find? fun l => l.name == name).map fun l => .called l.token
  | _, _ => none

/-- What was done to the bridge by some commands, one after the other. -/
def deeds (host : Host) (s : BridgeSession) : List BridgeCommand → List Deed
  | [] => []
  | command :: commands => (s.deed? host command).toList ++ deeds host (s.after host command) commands

end BridgeSession

/-- The listeners that a command subscribes call no handles when they are told. -/
def BridgeCommand.CallsNothingBack : BridgeCommand → Prop
  | .subscribe _ script | .subscribeStore _ _ script => script.unsubscribes = []
  | _ => True

namespace BridgeSession

variable {s t : BridgeSession} {host : Host}

/-! ## One command -/

/-- What becomes of a session by one command, and what is done to the bridge. -/
inductive Course (s : BridgeSession) : BridgeSession → Option Deed → Prop
  | kept {t : BridgeSession} (listeners : t.listeners = s.listeners) (bridge : t.bridge = s.bridge)
      (nextToken : t.nextToken = s.nextToken)
      (stores : ∀ store, t.stores.has store = s.stores.has store)
      (listening : ∀ store, t.listening store = s.listening store) : Course s t none
  | direct {store : String} (there : s.stores.has store = true) (name : String)
      {script : ListenerScript} (quiet : script.unsubscribes = []) :
      Course s (s.addListener store name false script) none
  | subscribed {c : Connection} (hc : s.bridge.connection = some c) (name : String)
      {script : ListenerScript} (quiet : script.unsubscribes = []) :
      Course s (s.subscribe c name script) (some (.subscribed s.nextToken name))
  | called {l : Listener} (hl : l ∈ s.listeners) : Course s (s.dropListener l) (some (.called l.token))
  | switched {connection : Option Connection}
      (there : ∀ c, connection = some c → s.stores.has c.store = true) {deed : Deed}
      (switch : deed.switch? = some connection) :
      Course s { s.disconnect with bridge := ⟨connection, []⟩ } (some deed)

theorem Course.refl (s : BridgeSession) : Course s s none :=
  .kept rfl rfl rfl (fun _ => rfl) fun _ => rfl

/-- A write into a store is no deed. -/
theorem Course.write (h : s.Orderly) (store : String) (state : Value) {f : Store → Store}
    (keeps : ∀ st, (f st).listeners = st.listeners) :
    Course s ((s.modifyStore store f).setState host store state).value none := by
  rw [setState_modifyStore host store state keeps h.quiet]
  exact .kept rfl rfl rfl
    (fun other => (has_modifyStore _ store other _).trans (has_modifyStore s store other _))
    fun other =>
      (listening_write _ store other fun st => (rfl : (st.write state).listeners = _)).trans
        (listening_write s store other keeps)

theorem modifyStore_id (s : BridgeSession) (store : String) : s.modifyStore store (fun st => st) = s := by
  unfold modifyStore
  simp

theorem Course.setState (h : s.Orderly) (store : String) (state : Value) :
    Course s (s.setState host store state).value none := by
  have whole : Course s ((s.modifyStore store fun st => st).setState host store state).value none :=
    .write h store state fun _ => rfl
  rwa [modifyStore_id] at whole

theorem run_course (h : s.Orderly) {command : BridgeCommand} (quiet : command.CallsNothingBack) :
    Course s (s.after host command) (s.deed? host command) := by
  unfold after deed? run
  cases command with
  | connect store view =>
    dsimp only
    unfold connect
    cases found : store.filter s.stores.has with
    | none => exact .refl s
    | some name =>
      obtain ⟨rfl, there⟩ := Option.filter_eq_some_iff.mp found
      refine .switched (fun c hc => ?_) rfl
      cases hc
      exact there
  | disconnect => 
    refine .switched (fun c hc => ?_) (rfl : Deed.disconnected.switch? = some none)
    cases hc
  | syncTo values =>
    dsimp only
    cases s.bridge.connection with
    | none => exact .refl s
    | some c =>
      dsimp only
      unfold syncTo
      generalize c.view.write host (s.stateOf c.store) values = written
      obtain ⟨⟨altered, outcome⟩, events⟩ := written
      cases outcome with
      | error e =>
        exact .kept rfl rfl rfl (has_modifyStore s c.store · _)
          fun other => listening_write s c.store other fun _ => rfl
      | ok state => exact .write h c.store state fun _ => rfl
  | syncFrom =>
    dsimp only
    cases s.bridge.connection with
    | none => exact .refl s
    | some c =>
      dsimp only
      generalize c.view.read host (s.stateOf c.store) = answer
      obtain ⟨outcome, events⟩ := answer
      cases outcome <;> exact .refl s
  | subscribe name script =>
    dsimp only
    cases hc : s.bridge.connection with
    | none => exact .refl s
    | some c => exact .subscribed hc name quiet
  | subscribeStore store name script =>
    unfold onStore
    dsimp only
    cases found : s.stores.get? store with
    | none => exact .refl s
    | some st => exact .direct (Option.isSome_iff_exists.mpr ⟨st, found⟩) name quiet
  | unsubscribe name =>
    dsimp only
    unfold BridgeSession.unsubscribe
    cases found : s.listeners.find? fun l => l.name == name with
    | none => exact .refl s
    | some l =>
      change Course s (s.dropListener l)
        ((s.listeners.find? fun l => l.name == name).map fun l => .called l.token)
      rw [found]
      exact .called (List.mem_of_find?_eq_some found)
  | setState store state =>
    unfold onStore
    dsimp only
    cases s.stores.get? store with
    | none => exact .refl s
    | some st => exact .setState h store state
  | update store changes =>
    unfold onStore
    dsimp only
    cases s.stores.get? store with
    | none => exact .refl s
    | some st =>
      dsimp only
      cases st.merged changes with
      | error e => exact .refl s
      | ok state => exact .setState h store state

/-! ## A history -/

/-- The lists of a session are those that its past leads to. -/
structure Tracks (past : List Deed) (s : BridgeSession) : Prop where
  orderly : s.Orderly
  connection : s.bridge.connection = connectionAfter past
  subscriptions : s.bridge.subscriptions.map Subscription.token = (standing past).map Prod.fst
  named : ∀ sub ∈ standing past, ∃ l ∈ s.listeners, l.token = sub.1 ∧ l.name = sub.2
  given : ∀ token, past.any (Deed.calls token) = true → token < s.nextToken

namespace Tracks

variable {past : List Deed}

/-- Stores that only now get a bridge. -/
theorem starting (states : Table Value) : Tracks [] (BridgeSession.starting states) := by
  have listening (store : String) : (BridgeSession.starting states).listening store = [] := by
    unfold BridgeSession.listening BridgeSession.starting
    dsimp only
    induction states with
    | nil => rfl
    | cons e states ih =>
      rw [List.map_cons, Table.get?_cons]
      split
      · rfl
      · exact ih
  refine ⟨⟨nofun, nofun, List.nodup_nil, fun store token ht => ?_, fun store => ?_, nofun, nofun,
    fun store => ?_⟩, rfl, rfl, nofun, nofun⟩
  · rw [listening] at ht
    cases ht
  · rw [listening]
    exact List.nodup_nil
  · unfold bridgedOn
    rw [listening]
    rfl

/-- No handle is called before it is given. -/
theorem uncalled (h : Tracks past s) : past.any (Deed.calls s.nextToken) = false :=
  Bool.eq_false_iff.mpr fun called => Nat.lt_irrefl _ (h.given _ called)

theorem subscribed (h : Tracks past s) {c : Connection} (hc : s.bridge.connection = some c)
    (name : String) {script : ListenerScript} (quiet : script.unsubscribes = []) :
    Tracks (past ++ [.subscribed s.nextToken name]) (s.subscribe c name script) where
  orderly := h.orderly.added (h.orderly.there c hc) name quiet rfl fun _ => ⟨c, hc, rfl⟩
  connection := by
    rw [connectionAfter_append_singleton]
    exact h.connection
  subscriptions := by
    rw [standing_subscribed h.uncalled, List.map_append, ← h.subscriptions]
    exact List.map_append
  named := by
    rw [standing_subscribed h.uncalled]
    refine List.forall_mem_append.mpr ⟨fun sub hs => ?_, fun sub hs => ?_⟩
    · obtain ⟨l, hl, found⟩ := h.named sub hs
      exact ⟨l, List.mem_cons_of_mem _ hl, found⟩
    · rw [List.mem_singleton.mp hs]
      exact ⟨_, List.mem_cons_self, rfl, rfl⟩
  given token called := by
    rw [List.any_append, Bool.or_eq_true] at called
    exact Nat.lt_succ_of_lt (h.given token (called.resolve_right nofun))

/-- A handle that was called before, or whose subscription went with its connection, changes nothing. -/
theorem called (h : Tracks past s) {l : Listener} (hl : l ∈ s.listeners) :
    Tracks (past ++ [.called l.token]) (s.dropListener l) := by
  obtain ⟨listeners, nextToken, connection, -⟩ := dropListener_frame s l
  refine ⟨h.orderly.dropListener hl, ?_, ?_, ?_, fun token called => ?_⟩
  · rw [connection, connectionAfter_append_singleton]
    exact h.connection
  · have left (subs : List Subscription) :
        (subs.filter fun sub => sub.token ≠ l.token).map Subscription.token =
          (subs.map Subscription.token).filter fun token => token ≠ l.token := by
      rw [List.filter_map]
      rfl
    have right (subs : List (Nat × String)) :
        (subs.filter fun sub => sub.1 ≠ l.token).map Prod.fst =
          (subs.map Prod.fst).filter fun token => token ≠ l.token := by
      rw [List.filter_map]
      rfl
    rw [h.orderly.subscriptions_dropListener hl, standing_called, left, right, h.subscriptions]
  · rw [standing_called, listeners]
    exact fun sub hs => h.named sub (List.mem_filter.mp hs).1
  · rw [List.any_append, Bool.or_eq_true] at called
    rw [nextToken]
    rcases called with called | called
    · exact h.given token called
    · have same : l.token = token := by simpa [Deed.calls] using called
      rw [← same]
      exact h.orderly.fresh l hl

theorem switched (h : Tracks past s) {connection : Option Connection}
    (there : ∀ c, connection = some c → s.stores.has c.store = true) {deed : Deed}
    (switch : deed.switch? = some connection) :
    Tracks (past ++ [deed]) { s.disconnect with bridge := ⟨connection, []⟩ } := by
  obtain ⟨-, nextToken, -⟩ := removeAll_frame s h.orderly.once s.bridge.subscriptions
  refine ⟨h.orderly.reconnected there, ?_, ?_, ?_, fun token called => ?_⟩
  · rw [connectionAfter_append_singleton, switch]
    rfl
  · rw [standing_switch switch]
    rfl
  · rw [standing_switch switch]
    nofun
  · rw [List.any_append, Bool.or_eq_true] at called
    refine lt_of_lt_of_eq (h.given token (called.resolve_right ?_)) nextToken.symm
    cases deed with
    | connected | disconnected | subscribed => nofun
    | called => cases switch

theorem step (h : Tracks past s) {deed : Option Deed} (course : Course s t deed) :
    Tracks (past ++ deed.toList) t := by
  cases course with
  | kept listeners bridge nextToken stores listening =>
    rw [Option.toList_none, List.append_nil]
    exact ⟨h.orderly.congr listeners bridge nextToken stores listening, bridge ▸ h.connection,
      bridge ▸ h.subscriptions, listeners ▸ h.named, nextToken ▸ h.given⟩
  | direct there name quiet =>
    rw [Option.toList_none, List.append_nil]
    refine ⟨h.orderly.added there name quiet (List.append_nil _).symm nofun, h.connection,
      h.subscriptions, fun sub hs => ?_, fun token ht => Nat.lt_succ_of_lt (h.given token ht)⟩
    obtain ⟨l, hl, found⟩ := h.named sub hs
    exact ⟨l, List.mem_cons_of_mem _ hl, found⟩
  | subscribed hc name quiet => exact h.subscribed hc name quiet
  | called hl => exact h.called hl
  | switched there switch => exact h.switched there switch

/-- What is done to a session one command after the other. -/
theorem run (h : Tracks past s) (host : Host) {commands : List BridgeCommand}
    (quiet : ∀ command ∈ commands, command.CallsNothingBack) :
    Tracks (past ++ s.deeds host commands) (commands.foldl (after host) s) := by
  induction commands generalizing past s with
  | nil =>
    rw [deeds, List.append_nil]
    exact h
  | cons command commands ih =>
    obtain ⟨first, rest⟩ := List.forall_mem_cons.mp quiet
    rw [deeds, ← List.append_assoc]
    exact ih (h.step (run_course h.orderly first)) rest

theorem bridgedOn (h : Tracks past s) {c : Connection} (hc : s.bridge.connection = some c) :
    s.bridgedOn c.store = (standing past).map Prod.fst := by
  rw [← h.subscriptions, ← h.orderly.bridgedOn_connected hc, List.map_map]
  exact (List.map_id _).symm

/-- The listeners of the bridge that are told of a write are the subscriptions that stand. -/
theorem audience (h : Tracks past s) {c : Connection} (hc : s.bridge.connection = some c) :
    ((s.audience c.store).filter Listener.bridged).map (fun l => (l.token, l.name)) =
      standing past := by
  let name (token : Nat) : String :=
    (s.listeners.find? fun l => l.token == token).elim "" Listener.name
  have named {l : Listener} (hl : l ∈ s.listeners) : name l.token = l.name := by
    change (s.listeners.find? fun l' => l'.token == l.token).elim "" Listener.name = l.name
    rw [h.orderly.find?_token hl]
    rfl
  have told : ((s.audience c.store).filter Listener.bridged).map (fun l => (l.token, l.name)) =
      (((s.audience c.store).filter Listener.bridged).map Listener.token).map
        fun token => (token, name token) := by
    rw [List.map_map]
    refine List.map_congr_left fun l hl => ?_
    rw [Function.comp_apply, named (mem_listeners_of_audience (List.mem_filter.mp hl).1)]
  have stand : standing past = ((standing past).map Prod.fst).map fun token => (token, name token) := by
    rw [List.map_map]
    refine (List.map_id _).symm.trans (List.map_congr_left fun sub hs => ?_)
    obtain ⟨l, hl, token, own⟩ := h.named sub hs
    rw [Function.comp_apply, ← token, named hl, own]
    exact Prod.ext token.symm rfl
  rw [told, h.orderly.bridged_audience, h.bridgedOn hc, ← stand]

end Tracks

/-- After whatever was done to a bridge, it has on the store it is connected to the subscriptions that
stand, and nothing elsewhere. Whoever writes into that store, each of them is told once, in order, the
values that are selected from the new state, whatever the listeners around it do. -/
theorem subscriptions_exact (host : Host) (states : Table Value) {commands : List BridgeCommand}
    (quiet : ∀ command ∈ commands, command.CallsNothingBack) :
    let s := commands.foldl (after host) (starting states)
    let past := (starting states).deeds host commands
    s.bridge.connection = connectionAfter past ∧
      (∀ view, s.run host (.connect none view) = pure (s, .error storeMissing)) ∧
      (∀ store, (∀ c, connectionAfter past = some c → c.store ≠ store) → s.bridgedOn store = []) ∧
      ∀ c, connectionAfter past = some c →
        s.bridgedOn c.store = (standing past).map Prod.fst ∧
        ((standing past).map Prod.fst).Nodup ∧
        ((s.audience c.store).filter Listener.bridged).map (fun l => (l.token, l.name)) =
          standing past ∧
        ∀ command before state values, Writes host s c command before state →
          (c.view.read host state).value = .ok values →
          (s.run host command).events =
              before ++ (s.audience c.store).flatMap (fun l =>
                if l.bridged then (c.view.read host state).events ++ [.notified l.name values]
                else [.notified l.name state]) ∧
            (s.run host command).value.2 = .ok .null ∧
            (s.run host command).value.1.stateOf c.store = state := by
  intro s past
  have h : Tracks past s := (Tracks.starting states).run host quiet
  refine ⟨h.connection, fun _ => rfl, fun store other => ?_, fun c hc => ?_⟩
  · exact h.orderly.bridgedOn_other (h.connection ▸ other)
  · rw [← h.connection] at hc
    refine ⟨h.bridgedOn hc, ?_, h.audience hc, fun _ _ _ _ writes selected =>
      h.orderly.delivered hc writes selected⟩
    rw [← h.bridgedOn hc]
    exact (h.orderly.once _).filter _

/-- Every function of this host reads one part of its first argument. -/
def readingHost : Host where
  run _ arguments :=
    { outcome := .ok (((arguments.headD .null).record?.bind (Table.get? · "form")).getD .null) }
  delay _ _ := .zero false

def formView : StoreView := { selector := some ⟨.function, 0, .null⟩ }

/-- A handle is called twice, and another one only after the store was switched; a listener of the new
store raises. -/
def switching : List BridgeCommand := [
  .connect (some "old") formView, .subscribe "first" {}, .subscribe "second" { raises := true },
  .unsubscribe "first", .unsubscribe "first", .setState "old" .null,
  .subscribeStore "new" "rude" { raises := true }, .connect (some "new") formView,
  .subscribe "third" {}, .unsubscribe "second", .connect none formView]

theorem subscriptions_exact_switched :
    let s := switching.foldl (after readingHost) (starting [("old", .null), ("new", .null)])
    s.bridgedOn "old" = [] ∧ s.bridgedOn "new" = [3] ∧
      (s.run readingHost (.setState "new" (.record [("form", .record [("a", .int 1)])]))).events =
        [.notified "rude" (.record [("form", .record [("a", .int 1)])]),
          .notified "third" (.record [("a", .int 1)])] := by
  intro s
  have quiet : ∀ command ∈ switching, command.CallsNothingBack := by
    simp [switching, BridgeCommand.CallsNothingBack]
  have past : connectionAfter ((starting [("old", .null), ("new", .null)]).deeds readingHost switching) =
      some ⟨"new", formView⟩ := rfl
  obtain ⟨-, -, none, connected⟩ :=
    subscriptions_exact readingHost [("old", .null), ("new", .null)] quiet
  obtain ⟨bridged, -, -, told⟩ := connected ⟨"new", formView⟩ past
  refine ⟨none "old" fun c hc => ?_, bridged, ?_⟩
  · rw [past, Option.some.injEq] at hc
    rw [← hc]
    decide
  · have selected : (formView.read readingHost (.record [("form", .record [("a", .int 1)])])).value =
        .ok (.record [("a", .int 1)]) := rfl
    refine (told _ _ _ _ (.setState _) selected).1.trans ?_
    rfl

end BridgeSession

end FormEngine
