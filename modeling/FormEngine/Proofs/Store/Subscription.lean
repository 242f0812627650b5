import FormEngine.Proofs.Table
import FormEngine.Store.Bridge
import Mathlib.Data.List.Basic
import Mathlib.Data.List.Nodup

/-!
Which listeners a bridge has on its stores. The bridge and the stores keep lists of their own; they agree
in every session: on the store it is connected to the bridge has what it counts as its subscriptions, in
the same order, and on others nothing.
-/

namespace FormEngine

namespace BridgeSession

/-- The listeners of a store, by their tokens; one that does not exist has none. -/
def listening (s : BridgeSession) (store : String) : List Nat :=
  (s.stores.get? store).elim [] Store.listeners

def isBridged (s : BridgeSession) (token : Nat) : Bool :=
  s.listeners.any fun l => l.token == token && l.bridged

/-- The listeners that the bridge has on a store. -/
def bridgedOn (s : BridgeSession) (store : String) : List Nat :=
  (s.listening store).filter s.isBridged

/-! ## What happens to the lists of the stores -/

variable {s : BridgeSession}

theorem get?_modifyStore (s : BridgeSession) (store other : String) (f : Store → Store) :
    (s.modifyStore store f).stores.get? other =
      if other = store then (s.stores.get? store).map f else s.stores.get? other := by
  unfold modifyStore
  dsimp only
  induction s.stores with
  | nil => simp
  | cons e stores ih =>
    obtain ⟨name, st⟩ := e
    rw [List.map_cons]
    by_cases changed : name = store
    · subst changed
      simp only [↓reduceIte, Table.get?_cons, ih]
      by_cases same : other = name <;> simp [same]
    · simp only [changed, ↓reduceIte, Table.get?_cons, ih, Ne.symm changed]
      by_cases same : other = name
      · subst same
        simp [changed]
      · simp [same]

theorem has_modifyStore (s : BridgeSession) (store other : String) (f : Store → Store) :
    (s.modifyStore store f).stores.has other = s.stores.has other := by
  unfold Table.has
  rw [get?_modifyStore]
  split
  · next same => simp [same]
  · rfl

theorem listening_modifyStore (s : BridgeSession) (store other : String) (f : Store → Store) :
    (s.modifyStore store f).listening other =
      if other = store then (s.stores.get? store).elim [] fun st => (f st).listeners
      else s.listening other := by
  unfold listening
  rw [get?_modifyStore]
  split
  · cases s.stores.get? store <;> rfl
  · rfl

theorem listening_write (s : BridgeSession) (store other : String) {f : Store → Store}
    (keeps : ∀ st, (f st).listeners = st.listeners) :
    (s.modifyStore store f).listening other = s.listening other := by
  rw [listening_modifyStore]
  split
  · next same =>
    subst same
    unfold listening
    cases s.stores.get? other with
    | none => rfl
    | some st => exact keeps st
  · rfl

theorem listening_subscribe (token : Nat) {store : String} (there : s.stores.has store = true)
    (other : String) :
    (s.modifyStore store fun st => st.subscribe token).listening other =
      if other = store then s.listening store ++ [token] else s.listening other := by
  rw [listening_modifyStore]
  split
  · obtain ⟨st, found⟩ := Option.isSome_iff_exists.mp there
    unfold listening
    rw [found]
    rfl
  · rfl

theorem listening_removeListener (once : ∀ store, (s.listening store).Nodup) (store : String)
    (token : Nat) (other : String) :
    (s.removeListener store token).listening other =
      (s.listening other).filter fun t => ¬ (other = store ∧ t = token) := by
  unfold removeListener
  rw [listening_modifyStore]
  split
  · next same =>
    subst same
    have erased : ((s.stores.get? other).elim [] fun st => (st.unsubscribe token).listeners) =
        (s.listening other).erase token := by
      unfold listening
      cases s.stores.get? other <;> rfl
    rw [erased, (once other).erase_eq_filter]
    refine List.filter_congr fun t _ => ?_
    by_cases removed : t = token <;> simp [removed]
  · next differs => simp [differs]

/-! ## The two sides agree -/

/-- Listeners have tokens of their own and call nothing back; those of a store are among them, each once;
and the subscriptions of the bridge are the listeners that it has, all on the store it is connected to. -/
structure Orderly (s : BridgeSession) : Prop where
  quiet : ∀ l ∈ s.listeners, l.script.unsubscribes = []
  fresh : ∀ l ∈ s.listeners, l.token < s.nextToken
  distinct : (s.listeners.map Listener.token).Nodup
  known : ∀ store, ∀ token ∈ s.listening store, ∃ l ∈ s.listeners, l.token = token ∧ l.store = store
  once : ∀ store, (s.listening store).Nodup
  there : ∀ c, s.bridge.connection = some c → s.stores.has c.store = true
  attached : ∀ sub ∈ s.bridge.subscriptions, ∃ c, s.bridge.connection = some c ∧ sub.store = c.store
  bridged : ∀ store, (s.bridgedOn store).map (Subscription.mk store) =
    s.bridge.subscriptions.filter fun sub => sub.store = store

namespace Orderly

theorem eq_of_token (h : s.Orderly) {l l' : Listener} (hl : l ∈ s.listeners) (hl' : l' ∈ s.listeners)
    (same : l.token = l'.token) : l = l' :=
  List.inj_on_of_nodup_map h.distinct hl hl' same

theorem isBridged_token (h : s.Orderly) {l : Listener} (hl : l ∈ s.listeners) :
    s.isBridged l.token = l.bridged := by
  unfold isBridged
  rw [Bool.eq_iff_iff, List.any_eq_true]
  constructor
  · rintro ⟨l', hl', found⟩
    rw [Bool.and_eq_true, beq_iff_eq] at found
    rw [← h.eq_of_token hl' hl found.1]
    exact found.2
  · intro bridged
    exact ⟨l, hl, by simp [bridged]⟩

/-- A subscription is a listener that the bridge has on its store. -/
theorem mem_bridgedOn (h : s.Orderly) {store : String} {token : Nat} :
    token ∈ s.bridgedOn store ↔ ⟨store, token⟩ ∈ s.bridge.subscriptions := by
  have listed : (⟨store, token⟩ : Subscription) ∈ (s.bridgedOn store).map (Subscription.mk store) ↔
      token ∈ s.bridgedOn store := by simp
  rw [← listed, h.bridged, List.mem_filter]
  simp

theorem exists_listener (h : s.Orderly) {sub : Subscription} (hs : sub ∈ s.bridge.subscriptions) :
    ∃ l ∈ s.listeners, l.token = sub.token ∧ l.store = sub.store ∧ l.bridged = true := by
  have has := List.mem_filter.mp (h.mem_bridgedOn.mpr hs)
  obtain ⟨l, hl, token, store⟩ := h.known sub.store sub.token has.1
  refine ⟨l, hl, token, store, ?_⟩
  rw [← h.isBridged_token hl, token]
  exact has.2

/-- On the store that it is connected to the bridge has its subscriptions. -/
theorem bridgedOn_connected (h : s.Orderly) {c : Connection} (hc : s.bridge.connection = some c) :
    (s.bridgedOn c.store).map (Subscription.mk c.store) = s.bridge.subscriptions := by
  rw [h.bridged]
  refine List.filter_eq_self.mpr fun sub hs => ?_
  obtain ⟨c', hc', store⟩ := h.attached sub hs
  rw [hc, Option.some.injEq] at hc'
  simp [store, hc']

theorem bridgedOn_other (h : s.Orderly) {store : String}
    (other : ∀ c, s.bridge.connection = some c → c.store ≠ store) : s.bridgedOn store = [] := by
  refine List.map_eq_nil_iff.mp ((h.bridged store).trans ?_)
  refine List.filter_eq_nil_iff.mpr fun sub hs => ?_
  obtain ⟨c, hc, same⟩ := h.attached sub hs
  rw [same]
  simpa using other c hc

theorem nodup_subscriptions (h : s.Orderly) : s.bridge.subscriptions.Nodup := by
  cases hc : s.bridge.connection with
  | none =>
    have none : s.bridge.subscriptions = [] := by
      refine List.eq_nil_iff_forall_not_mem.mpr fun sub hs => ?_
      obtain ⟨c, connected, -⟩ := h.attached sub hs
      rw [hc] at connected
      cases connected
    rw [none]
    exact List.nodup_nil
  | some c =>
    rw [← h.bridgedOn_connected hc]
    exact ((h.once c.store).filter _).map fun _ _ same => (Subscription.mk.inj same).2

/-- What is done to the states of stores makes no difference. -/
theorem congr {t : BridgeSession} (h : s.Orderly) (listeners : t.listeners = s.listeners)
    (bridge : t.bridge = s.bridge) (nextToken : t.nextToken = s.nextToken)
    (stores : ∀ store, t.stores.has store = s.stores.has store)
    (listening : ∀ store, t.listening store = s.listening store) : t.Orderly := by
  have isBridged : t.isBridged = s.isBridged := by
    unfold BridgeSession.isBridged
    rw [listeners]
  refine ⟨?_, ?_, ?_, fun store => ?_, fun store => ?_, fun c hc => ?_, ?_, fun store => ?_⟩
  · rw [listeners]
    exact h.quiet
  · rw [listeners, nextToken]
    exact h.fresh
  · rw [listeners]
    exact h.distinct
  · rw [listeners, listening]
    exact h.known store
  · rw [listening]
    exact h.once store
  · rw [stores]
    exact h.there c (bridge ▸ hc)
  · rw [bridge]
    exact h.attached
  · unfold bridgedOn
    rw [listening, isBridged, bridge]
    exact h.bridged store

/-! ## A new listener -/

/-- No listener of a store has the next token. -/
theorem lt_nextToken (h : s.Orderly) {store : String} {token : Nat}
    (ht : token ∈ s.listening store) : token < s.nextToken := by
  obtain ⟨l, hl, rfl, -⟩ := h.known store token ht
  exact h.fresh l hl

theorem isBridged_addListener (h : s.Orderly) (store name : String) (bridged : Bool)
    (script : ListenerScript) (token : Nat) :
    (s.addListener store name bridged script).isBridged token =
      if token = s.nextToken then bridged else s.isBridged token := by
  have whole : (s.addListener store name bridged script).isBridged token =
      ((s.nextToken == token && bridged) || s.isBridged token) := rfl
  rw [whole]
  split
  · next same =>
    subst same
    have none : s.isBridged s.nextToken = false :=
      List.any_eq_false.mpr fun l hl => by simp [Nat.ne_of_lt (h.fresh l hl)]
    simp [none]
  · next differs => simp [Ne.symm differs]

theorem listening_addListener {store : String} (there : s.stores.has store = true) (name : String)
    (bridged : Bool) (script : ListenerScript) (other : String) :
    (s.addListener store name bridged script).listening other =
      if other = store then s.listening store ++ [s.nextToken] else s.listening other :=
  listening_subscribe s.nextToken there other

theorem bridgedOn_addListener (h : s.Orderly) {store : String} (there : s.stores.has store = true)
    (name : String) (bridged : Bool) (script : ListenerScript) (other : String) :
    (s.addListener store name bridged script).bridgedOn other =
      s.bridgedOn other ++ if other = store ∧ bridged = true then [s.nextToken] else [] := by
  have kept : (s.listening other).filter (s.addListener store name bridged script).isBridged =
      s.bridgedOn other := by
    refine List.filter_congr fun token ht => ?_
    rw [h.isBridged_addListener, if_neg (Nat.ne_of_lt (h.lt_nextToken ht))]
  have new : (s.addListener store name bridged script).isBridged s.nextToken = bridged := by
    rw [h.isBridged_addListener, if_pos rfl]
  unfold bridgedOn at kept ⊢
  rw [listening_addListener there]
  by_cases same : other = store
  · subst same
    rw [if_pos rfl, List.filter_append, kept]
    cases bridged <;> simp [new]
  · simp [same, kept]

/-- A listener is added to a store; one of the bridge goes to the store it is connected to, and to its
subscriptions. -/
theorem added (h : s.Orderly) {store : String} (there : s.stores.has store = true) (name : String)
    {bridged : Bool} {script : ListenerScript} (quiet : script.unsubscribes = [])
    {subscriptions : List Subscription}
    (grown : subscriptions = s.bridge.subscriptions ++ if bridged then [⟨store, s.nextToken⟩] else [])
    (connected : bridged = true → ∃ c, s.bridge.connection = some c ∧ store = c.store) :
    Orderly { s.addListener store name bridged script with
      bridge.subscriptions := subscriptions } where
  quiet := List.forall_mem_cons.mpr ⟨quiet, h.quiet⟩
  fresh := List.forall_mem_cons.mpr
    ⟨Nat.lt_succ_self _, fun l hl => Nat.lt_succ_of_lt (h.fresh l hl)⟩
  distinct := by
    refine List.nodup_cons.mpr ⟨fun hm => ?_, h.distinct⟩
    obtain ⟨l, hl, same⟩ := List.mem_map.mp hm
    exact Nat.ne_of_lt (h.fresh l hl) same
  known other token ht := by
    have ht : token ∈ (s.addListener store name bridged script).listening other := ht
    rw [listening_addListener there] at ht
    have older {token : Nat} (ht : token ∈ s.listening other) := h.known other token ht
    split at ht
    · next same =>
      subst same
      rcases List.mem_append.mp ht with ht | ht
      · obtain ⟨l, hl, found⟩ := older ht
        exact ⟨l, List.mem_cons_of_mem _ hl, found⟩
      · rw [List.mem_singleton.mp ht]
        exact ⟨_, List.mem_cons_self, rfl, rfl⟩
    · obtain ⟨l, hl, found⟩ := older ht
      exact ⟨l, List.mem_cons_of_mem _ hl, found⟩
  once other := by
    change ((s.addListener store name bridged script).listening other).Nodup
    rw [listening_addListener there]
    split
    · refine List.nodup_append.mpr ⟨h.once store, List.nodup_singleton _, fun token ht u hu => ?_⟩
      rw [List.mem_singleton.mp hu]
      exact Nat.ne_of_lt (h.lt_nextToken ht)
    · exact h.once other
  there c hc :=
    (has_modifyStore s store c.store fun st => st.subscribe s.nextToken).trans (h.there c hc)
  attached sub hs := by
    change sub ∈ subscriptions at hs
    rw [grown] at hs
    rcases List.mem_append.mp hs with hs | hs
    · exact h.attached sub hs
    · cases bridged with
      | true =>
        rw [List.mem_singleton.mp hs]
        exact connected rfl
      | false => cases hs
  bridged other := by
    change ((s.addListener store name bridged script).bridgedOn other).map _ = subscriptions.filter _
    rw [h.bridgedOn_addListener there, grown, List.map_append, List.filter_append, h.bridged]
    by_cases same : other = store <;> cases bridged <;> simp [same, Ne.symm]

/-! ## Listeners that are dropped -/

/-- Some listeners are taken off the stores; those of the bridge leave its subscriptions, whatever
becomes of the connection. -/
theorem dropped (h : s.Orderly) {t : BridgeSession} (gone : Subscription → Bool)
    (listeners : t.listeners = s.listeners) (nextToken : t.nextToken = s.nextToken)
    (listening : ∀ store, t.listening store =
      (s.listening store).filter fun token => !gone ⟨store, token⟩)
    (subscriptions : t.bridge.subscriptions = s.bridge.subscriptions.filter fun sub => !gone sub)
    (there : ∀ c, t.bridge.connection = some c → t.stores.has c.store = true)
    (attached : ∀ sub ∈ t.bridge.subscriptions,
      ∃ c, t.bridge.connection = some c ∧ sub.store = c.store) : t.Orderly where
  quiet := listeners ▸ h.quiet
  fresh := listeners ▸ nextToken ▸ h.fresh
  distinct := listeners ▸ h.distinct
  known store token ht := by
    rw [listening] at ht
    rw [listeners]
    exact h.known store token (List.mem_filter.mp ht).1
  once store := by
    rw [listening]
    exact (h.once store).filter _
  there := there
  attached := attached
  bridged store := by
    have isBridged : t.isBridged = s.isBridged := by
      unfold BridgeSession.isBridged
      rw [listeners]
    have left : t.bridgedOn store = (s.bridgedOn store).filter fun token => !gone ⟨store, token⟩ := by
      unfold bridgedOn
      rw [listening, isBridged, List.filter_comm]
    have moved : ((s.bridgedOn store).filter fun token => !gone ⟨store, token⟩).map
        (Subscription.mk store) =
          ((s.bridgedOn store).map (Subscription.mk store)).filter fun sub => !gone sub := by
      rw [List.filter_map]
      rfl
    rw [left, moved, h.bridged, subscriptions, List.filter_comm]

/-- The handle of a listener takes away the subscription with its token, if there is one. -/
theorem subscriptions_dropListener (h : s.Orderly) {l : Listener} (hl : l ∈ s.listeners) :
    (s.dropListener l).bridge.subscriptions =
      s.bridge.subscriptions.filter fun sub => sub.token ≠ l.token := by
  have own {sub : Subscription} (hs : sub ∈ s.bridge.subscriptions) (same : sub.token = l.token) :
      l.bridged = true ∧ sub = ⟨l.store, l.token⟩ := by
    obtain ⟨l', hl', token, store, bridged⟩ := h.exists_listener hs
    obtain rfl := h.eq_of_token hl' hl (token.trans same)
    obtain ⟨store', token'⟩ := sub
    exact ⟨bridged, by rw [store, token]⟩
  have kept (absent : l.bridged = true → ⟨l.store, l.token⟩ ∉ s.bridge.subscriptions) :
      s.bridge.subscriptions = s.bridge.subscriptions.filter fun sub => sub.token ≠ l.token := by
    refine (List.filter_eq_self.mpr fun sub hs => ?_).symm
    rw [decide_eq_true_eq]
    intro same
    obtain ⟨bridged, eq⟩ := own hs same
    exact absent bridged (eq ▸ hs)
  unfold dropListener
  dsimp only
  split
  · split
    · refine (h.nodup_subscriptions.erase_eq_filter _).trans (List.filter_congr fun sub hs => ?_)
      by_cases same : sub.token = l.token
      · simp [(own hs same).2]
      · have differs : sub ≠ ⟨l.store, l.token⟩ := fun eq => same (eq ▸ rfl)
        simp [same, differs]
    · next gone => exact kept fun _ => by rwa [List.contains_iff_mem] at gone
  · next direct => exact kept fun bridged => absurd bridged direct

/-- And it takes the listener off its store, where it is the only one with its token. -/
theorem listening_dropListener (h : s.Orderly) {l : Listener} (hl : l ∈ s.listeners)
    (store : String) :
    (s.dropListener l).listening store =
      (s.listening store).filter fun token => token ≠ l.token := by
  have own {token : Nat} (ht : token ∈ s.listening store) (same : token = l.token) :
      l.store = store := by
    obtain ⟨l', hl', token', store'⟩ := h.known store token ht
    rwa [h.eq_of_token hl' hl (token'.trans same)] at store'
  have removed : (s.removeListener l.store l.token).listening store =
      (s.listening store).filter fun token => token ≠ l.token := by
    rw [listening_removeListener h.once]
    refine List.filter_congr fun token ht => ?_
    by_cases same : token = l.token
    · simp [same, own ht same]
    · simp [same]
  unfold dropListener
  dsimp only
  split
  · next bridged =>
    split
    · exact removed
    · next gone =>
      refine (List.filter_eq_self.mpr fun token ht => ?_).symm
      rw [decide_eq_true_eq]
      intro same
      rw [List.contains_iff_mem, ← h.mem_bridgedOn] at gone
      rw [own ht same, ← same] at gone
      refine gone (List.mem_filter.mpr ⟨ht, ?_⟩)
      rw [same, h.isBridged_token hl]
      exact bridged
  · exact removed

end Orderly

theorem dropListener_frame (s : BridgeSession) (l : Listener) :
    (s.dropListener l).listeners = s.listeners ∧ (s.dropListener l).nextToken = s.nextToken ∧
      (s.dropListener l).bridge.connection = s.bridge.connection ∧
      ∀ store, (s.dropListener l).stores.has store = s.stores.has store := by
  unfold dropListener
  dsimp only
  split
  · split
    · exact ⟨rfl, rfl, rfl, fun store => has_modifyStore ..⟩
    · exact ⟨rfl, rfl, rfl, fun _ => rfl⟩
  · exact ⟨rfl, rfl, rfl, fun store => has_modifyStore ..⟩

theorem Orderly.dropListener (h : s.Orderly) {l : Listener} (hl : l ∈ s.listeners) :
    (s.dropListener l).Orderly := by
  obtain ⟨listeners, nextToken, connection, stores⟩ := dropListener_frame s l
  have subscriptions := h.subscriptions_dropListener hl
  refine h.dropped (fun sub => sub.token = l.token) listeners nextToken (fun store => ?_) ?_
    (fun c hc => (stores c.store).trans (h.there c (connection ▸ hc))) fun sub hs => ?_
  · rw [h.listening_dropListener hl]
    simp
  · rw [subscriptions]
    simp
  · rw [subscriptions] at hs
    rw [connection]
    exact h.attached sub (List.mem_filter.mp hs).1

/-- Several listeners are taken off the stores, and nothing else changes. -/
theorem removeAll_frame (s : BridgeSession) (once : ∀ store, (s.listening store).Nodup)
    (gone : List Subscription) :
    let t := gone.foldl (fun s sub => s.removeListener sub.store sub.token) s
    t.listeners = s.listeners ∧ t.nextToken = s.nextToken ∧
      (∀ store, t.stores.has store = s.stores.has store) ∧
      ∀ store, t.listening store =
        (s.listening store).filter fun token => !gone.contains ⟨store, token⟩ := by
  induction gone generalizing s with
  | nil => exact ⟨rfl, rfl, fun _ => rfl, fun store => by simp⟩
  | cons sub gone ih =>
    have first := listening_removeListener once sub.store sub.token
    have once' (store : String) : ((s.removeListener sub.store sub.token).listening store).Nodup := by
      rw [first]
      exact (once store).filter _
    obtain ⟨listeners, nextToken, stores, listening⟩ := ih _ once'
    refine ⟨listeners, nextToken, fun store => (stores store).trans (has_modifyStore s ..), ?_⟩
    intro store
    refine (listening store).trans ?_
    rw [first, List.filter_filter]
    refine List.filter_congr fun token _ => ?_
    obtain ⟨store', token'⟩ := sub
    simp [Bool.or_comm, Bool.and_comm]

/-- The bridge leaves its store, and may be connected to another one. -/
theorem Orderly.reconnected (h : s.Orderly) {connection : Option Connection}
    (there : ∀ c, connection = some c → s.stores.has c.store = true) :
    Orderly { s.disconnect with bridge := ⟨connection, []⟩ } := by
  obtain ⟨listeners, nextToken, stores, listening⟩ :=
    removeAll_frame s h.once s.bridge.subscriptions
  refine h.dropped _ listeners nextToken listening ?_ (fun c hc => ?_) fun sub hs => (nomatch hs)
  · refine (List.filter_eq_nil_iff.mpr fun sub hs => ?_).symm
    simpa using hs
  · exact (stores c.store).trans (there c hc)

end BridgeSession

end FormEngine
