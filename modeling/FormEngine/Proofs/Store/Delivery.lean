import FormEngine.Proofs.Store.Subscription

/-!
What the listeners of a store are told. Each listener that a store has at the time of a write is told of
the new state once, in order, and whatever one of them does, the next one is told; a listener of the
bridge is told the values that are selected from the state.
-/

namespace FormEngine

namespace Logged

/-- Steps each of which leaves the state as it is are heard one after the other. -/
theorem foldlM_still {σ ε : Type} {f : σ → ε → Logged σ} {s : σ} (xs : List ε)
    (still : ∀ x ∈ xs, (f s x).value = s) :
    xs.foldlM f s = ⟨s, xs.flatMap fun x => (f s x).events⟩ := by
  induction xs with
  | nil => rfl
  | cons x xs ih =>
    obtain ⟨first, rest⟩ := List.forall_mem_cons.mp still
    have whole : (x :: xs).foldlM f s =
        ⟨(xs.foldlM f (f s x).value).value, (f s x).events ++ (xs.foldlM f (f s x).value).events⟩ :=
      List.foldlM_cons
    rw [whole, first, ih rest]
    rfl

end Logged

namespace BridgeSession

variable {s : BridgeSession} {host : Host}

/-- What is heard of a listener that is told of a state. -/
def notices (host : Host) (s : BridgeSession) (state : Value) (l : Listener) : List Event :=
  let data := s.dataFor host l state
  data.events ++ match data.value with
    | .ok v => [.notified l.name v]
    | .error _ => []

/-- The listeners of a store, in the order in which they are told. -/
def audience (s : BridgeSession) (store : String) : List Listener :=
  (s.listening store).filterMap fun token => s.listeners.find? fun l => l.token == token

theorem mem_listeners_of_audience {store : String} {l : Listener} (hl : l ∈ s.audience store) :
    l ∈ s.listeners := by
  obtain ⟨token, -, found⟩ := List.mem_filterMap.mp hl
  exact List.mem_of_find?_eq_some found

/-- A listener that calls nothing back leaves everything as it is, whether it raises or not. -/
theorem runListener_eq (s : BridgeSession) (host : Host) (state : Value) {l : Listener}
    (quiet : l.script.unsubscribes = []) :
    (runListener host state s l).value.1 = s ∧
      (runListener host state s l).events = s.notices host state l := by
  unfold runListener notices
  rw [quiet]
  dsimp only
  generalize s.dataFor host l state = data
  obtain ⟨outcome, events⟩ := data
  cases outcome with
  | error e => exact ⟨rfl, rfl⟩
  | ok v => exact ⟨rfl, congrArg (events ++ ·) (List.append_nil [_])⟩

theorem tell_eq (s : BridgeSession) (host : Host)
    (quiet : ∀ l ∈ s.listeners, l.script.unsubscribes = []) (state : Value) (token : Nat) :
    tell host state s token =
      ⟨s, ((s.listeners.find? fun l => l.token == token).map (s.notices host state)).getD []⟩ := by
  unfold tell
  cases found : s.listeners.find? fun l => l.token == token with
  | none => rfl
  | some l =>
    obtain ⟨value, events⟩ :=
      runListener_eq s host state (quiet l (List.mem_of_find?_eq_some found))
    have whole : (do return (← runListener host state s l).1 : Logged BridgeSession) =
        ⟨(runListener host state s l).value.1, (runListener host state s l).events⟩ :=
      congrArg (Logged.mk _) (List.append_nil _)
    dsimp only
    rw [whole, value, events]
    rfl

/-- A write is heard of by the listeners that the store has, and leaves all lists as they are. -/
theorem setState_eq (s : BridgeSession) (host : Host)
    (quiet : ∀ l ∈ s.listeners, l.script.unsubscribes = []) (store : String) (state : Value) :
    s.setState host store state =
      ⟨s.modifyStore store fun st => st.write state,
        (s.audience store).flatMap (s.notices host state)⟩ := by
  let t := s.modifyStore store fun st => st.write state
  have told (token : Nat) : tell host state t token =
      ⟨t, ((s.listeners.find? fun l => l.token == token).map (s.notices host state)).getD []⟩ :=
    tell_eq t host quiet state token
  have heard : (s.listening store).foldlM (tell host state) t =
      ⟨t, (s.listening store).flatMap fun token => (tell host state t token).events⟩ :=
    Logged.foldlM_still _ fun token _ => congrArg Logged.value (told token)
  refine heard.trans (congrArg (Logged.mk t) ?_)
  unfold audience
  rw [List.flatMap_congr fun token _ => congrArg Logged.events (told token)]
  induction s.listening store with
  | nil => rfl
  | cons token tokens ih =>
    rw [List.flatMap_cons, List.filterMap_cons, ih]
    cases s.listeners.find? fun l => l.token == token <;> rfl

/-- What was done to the state of the store before is not heard of. -/
theorem setState_modifyStore (host : Host) (store : String) (state : Value) {f : Store → Store}
    (keeps : ∀ st, (f st).listeners = st.listeners)
    (quiet : ∀ l ∈ s.listeners, l.script.unsubscribes = []) :
    (s.modifyStore store f).setState host store state =
      ⟨(s.modifyStore store f).modifyStore store fun st => st.write state,
        (s.audience store).flatMap (s.notices host state)⟩ := by
  have audience : (s.modifyStore store f).audience store = s.audience store := by
    unfold audience
    rw [listening_write s store store keeps]
    rfl
  rw [← audience]
  exact setState_eq (s.modifyStore store f) host quiet store state

/-- A store that there is has the state that was written last. -/
theorem stateOf_write {store : String} (there : s.stores.has store = true) (state : Value) :
    (s.modifyStore store fun st => st.write state).stateOf store = state := by
  obtain ⟨st, found⟩ := Option.isSome_iff_exists.mp there
  unfold stateOf
  rw [get?_modifyStore, if_pos rfl, found]
  rfl

namespace Orderly

theorem find?_token (h : s.Orderly) {l : Listener} (hl : l ∈ s.listeners) :
    (s.listeners.find? fun l' => l'.token == l.token) = some l := by
  cases found : s.listeners.find? fun l' => l'.token == l.token with
  | none => exact absurd (beq_self_eq_true l.token) (List.find?_eq_none.mp found l hl)
  | some l' =>
    have same : l'.token = l.token := by simpa using List.find?_some found
    rw [h.eq_of_token (List.mem_of_find?_eq_some found) hl same]

/-- The listeners of the bridge are told in the order in which the bridge has them. -/
theorem bridged_audience (h : s.Orderly) (store : String) :
    ((s.audience store).filter Listener.bridged).map Listener.token = s.bridgedOn store := by
  have known : ∀ tokens : List Nat, (∀ token ∈ tokens, token ∈ s.listening store) →
      ((tokens.filterMap fun token => s.listeners.find? fun l => l.token == token).filter
        Listener.bridged).map Listener.token = tokens.filter s.isBridged := by
    intro tokens listed
    induction tokens with
    | nil => rfl
    | cons token tokens ih =>
      obtain ⟨first, rest⟩ := List.forall_mem_cons.mp listed
      obtain ⟨l, hl, rfl, -⟩ := h.known store token first
      rw [List.filterMap_cons, h.find?_token hl, List.filter_cons, List.filter_cons,
        h.isBridged_token hl]
      cases l.bridged with
      | true => exact congrArg (l.token :: ·) (ih rest)
      | false => exact ih rest
  exact known _ fun _ ht => ht

end Orderly

/-- A command writes a state into the store that the bridge is connected to, after some events. -/
inductive Writes (host : Host) (s : BridgeSession) (c : Connection) :
    BridgeCommand → List Event → Value → Prop
  | setState (state : Value) : Writes host s c (.setState c.store state) [] state
  | update {st : Store} {changes state : Value} (found : s.stores.get? c.store = some st)
      (merged : st.merged changes = .ok state) : Writes host s c (.update c.store changes) [] state
  | syncTo {values state : Value}
      (written : (c.view.write host (s.stateOf c.store) values).value.outcome = .ok state) :
      Writes host s c (.syncTo values) (c.view.write host (s.stateOf c.store) values).events state

/-- Whoever writes it, of a new state each listener of the store is told once, and those of the bridge are
told the values that are selected from it. The write succeeds, whatever the listeners do. -/
theorem Orderly.delivered (h : s.Orderly) {c : Connection} (hc : s.bridge.connection = some c)
    {command : BridgeCommand} {before : List Event} {state values : Value}
    (writes : Writes host s c command before state)
    (selected : (c.view.read host state).value = .ok values) :
    (s.run host command).events =
        before ++ (s.audience c.store).flatMap (fun l =>
          if l.bridged then (c.view.read host state).events ++ [.notified l.name values]
          else [.notified l.name state]) ∧
      (s.run host command).value.2 = .ok .null ∧
      (s.run host command).value.1.stateOf c.store = state := by
  have told (l : Listener) : s.notices host state l =
      if l.bridged then (c.view.read host state).events ++ [.notified l.name values]
      else [.notified l.name state] := by
    unfold notices dataFor
    rw [hc]
    cases l.bridged with
    | true => simp [selected]
    | false => rfl
  have there := h.there c hc
  obtain ⟨st, found⟩ := Option.isSome_iff_exists.mp there
  simp only [← told]
  cases writes with
  | setState =>
    unfold run onStore
    dsimp only
    rw [found]
    dsimp only
    rw [setState_eq s host h.quiet]
    exact ⟨List.append_nil _, rfl, stateOf_write there state⟩
  | update found merged =>
    unfold run onStore
    dsimp only
    rw [found]
    dsimp only
    rw [merged]
    dsimp only
    rw [setState_eq s host h.quiet]
    exact ⟨List.append_nil _, rfl, stateOf_write there state⟩
  | @syncTo given _ written =>
    unfold run
    dsimp only
    rw [hc]
    dsimp only
    unfold syncTo
    generalize c.view.write host (s.stateOf c.store) given = write at written ⊢
    obtain ⟨⟨altered, outcome⟩, before⟩ := write
    dsimp only at written
    subst written
    have told := setState_modifyStore host c.store state
      (fun st => (rfl : { st with state := altered : Store }.listeners = st.listeners)) h.quiet
    refine ⟨congrArg (before ++ ·) ((List.append_nil _).trans (congrArg Logged.events told)), rfl, ?_⟩
    refine (congrArg (fun t => t.value.stateOf c.store) told).trans (stateOf_write ?_ state)
    rwa [has_modifyStore]

end BridgeSession

end FormEngine
