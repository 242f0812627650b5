import FormEngine.Store.Observable

/-!
A bridge over stores: it is connected to at most one store at a time, reads and writes form values
through a view, and keeps track of its subscriptions. Disconnecting drops them all.
-/

namespace FormEngine

structure Connection where
  store : String
  view : StoreView

/-- A listener that the bridge has on a store. -/
structure Subscription where
  store : String
  token : Nat
  deriving DecidableEq, Repr

structure Bridge where
  connection : Option Connection := none
  subscriptions : List Subscription := []

/-- What a listener does when it is told: it drops other listeners, and may then raise. -/
structure ListenerScript where
  unsubscribes : List String := []
  raises : Bool := false

structure Listener where
  name : String
  token : Nat
  store : String
  /-- told through the bridge, with the values it selects -/
  bridged : Bool
  script : ListenerScript

/-- Stores by name, one bridge, and every listener that was ever subscribed, the latest first. -/
structure BridgeSession where
  stores : Table Store
  bridge : Bridge := {}
  listeners : List Listener := []
  nextToken : Nat := 0

/-- Stores with the states they start with, a bridge that is connected to none, and no listeners. -/
def BridgeSession.starting (states : Table Value) : BridgeSession :=
  { stores := states.map fun e => (e.1, Store.starting e.2) }

inductive BridgeCommand
  | connect (store : Option String) (view : StoreView)
  | disconnect
  | syncTo (values : Value)
  | syncFrom
  | subscribe (name : String) (script : ListenerScript)
  | subscribeStore (store name : String) (script : ListenerScript)
  | unsubscribe (name : String)
  | setState (store : String) (state : Value)
  | update (store : String) (changes : Value)

namespace BridgeSession

def notConnected : Fault := .runtime "StoreBridge is not connected"

def storeMissing : Fault := .badValue "StateManagerConfig.store is required"

def stateOf (s : BridgeSession) (store : String) : Value :=
  (s.stores.get? store).elim .null Store.state

def modifyStore (s : BridgeSession) (store : String) (f : Store → Store) : BridgeSession :=
  { s with stores := s.stores.map fun e => if e.1 = store then (e.1, f e.2) else e }

def removeListener (s : BridgeSession) (store : String) (token : Nat) : BridgeSession :=
  s.modifyStore store fun st => st.unsubscribe token

/-- Calls the handle of a listener; one of the bridge works only while the bridge still has it. -/
def dropListener (s : BridgeSession) (l : Listener) : BridgeSession :=
  if l.bridged then
    let subscription : Subscription := ⟨l.store, l.token⟩
    if s.bridge.subscriptions.contains subscription then
      { s with bridge.subscriptions := s.bridge.subscriptions.erase subscription }.removeListener
        l.store l.token
    else s
  else s.removeListener l.store l.token

/-- Calls the handle that was last given out under a name. -/
def unsubscribe (s : BridgeSession) (name : String) : Except Fault BridgeSession :=
  match s.listeners.find? fun l => l.name == name with
  | some l => .ok (s.dropListener l)
  | none => .error (.missingKey (.str name))

/-- Calls several handles; the first name without one ends it. -/
def unsubscribeAll (s : BridgeSession) : List String → BridgeSession × Except Fault Unit
  | [] => (s, .ok ())
  | name :: names =>
    match s.unsubscribe name with
    | .ok s => unsubscribeAll s names
    | .error e => (s, .error e)

/-- What a listener is told of a state. -/
def dataFor (host : Host) (s : BridgeSession) (l : Listener) (state : Value) :
    Logged (Except Fault Value) :=
  if !l.bridged then pure (.ok state)
  else
    match s.bridge.connection with
    | none => pure (.error notConnected)
    | some c => c.view.read host state

/-- Runs a listener. -/
def runListener (host : Host) (state : Value) (s : BridgeSession) (l : Listener) :
    Logged (BridgeSession × Except Fault Unit) := do
  match ← s.dataFor host l state with
  | .error e => return (s, .error e)
  | .ok data =>
    Logged.emit (.notified l.name data)
    let (s, outcome) := s.unsubscribeAll l.script.unsubscribes
    return (s, if l.script.raises then outcome.bind fun _ => .error (.runtime l.name) else outcome)

/-- Tells one listener. Whatever goes wrong in it is contained. -/
def tell (host : Host) (state : Value) (s : BridgeSession) (token : Nat) : Logged BridgeSession :=
  match s.listeners.find? fun l => l.token == token with
  | none => pure s
  | some l => do return (← runListener host state s l).1

/-- Replaces the state of a store and tells the listeners it has at that moment. -/
def setState (host : Host) (s : BridgeSession) (store : String) (state : Value) :
    Logged BridgeSession :=
  let listeners := (s.stores.get? store).elim [] Store.listeners
  listeners.foldlM (tell host state) (s.modifyStore store fun st => st.write state)

def addListener (s : BridgeSession) (store name : String) (bridged : Bool)
    (script : ListenerScript) : BridgeSession :=
  let token := s.nextToken
  let listener : Listener := ⟨name, token, store, bridged, script⟩
  { s.modifyStore store fun st => st.subscribe token with
    listeners := listener :: s.listeners
    nextToken := token + 1 }

def disconnect (s : BridgeSession) : BridgeSession :=
  { s.bridge.subscriptions.foldl (fun s sub => s.removeListener sub.store sub.token) s with
    bridge := {} }

/-- Connects to a store that there is. -/
def connect (s : BridgeSession) (store : Option String) (view : StoreView) :
    Except Fault BridgeSession :=
  match store.filter s.stores.has with
  | none => .error storeMissing
  | some store => .ok { s.disconnect with bridge := ⟨some ⟨store, view⟩, []⟩ }

/-- Writes form values into the store that the bridge is connected to. -/
def syncTo (host : Host) (s : BridgeSession) (c : Connection) (values : Value) :
    Logged (BridgeSession × Except Fault Value) := do
  let written ← c.view.write host (s.stateOf c.store) values
  let s := s.modifyStore c.store fun st => { st with state := written.altered }
  match written.outcome with
  | .error e => return (s, .error e)
  | .ok state => return (← s.setState host c.store state, .ok .null)

def subscribe (s : BridgeSession) (c : Connection) (name : String) (script : ListenerScript) :
    BridgeSession :=
  let subscription : Subscription := ⟨c.store, s.nextToken⟩
  { s.addListener c.store name true script with
    bridge.subscriptions := s.bridge.subscriptions ++ [subscription] }

/-- Carries out a command that is about a store, if there is one of that name. -/
def onStore (s : BridgeSession) (name : String)
    (act : Store → Logged (BridgeSession × Except Fault Value)) :
    Logged (BridgeSession × Except Fault Value) :=
  match s.stores.get? name with
  | some store => act store
  | none => pure (s, .error (.missingKey (.str name)))

/-- Carries out a command, and what it answers. -/
def run (host : Host) (s : BridgeSession) (command : BridgeCommand) :
    Logged (BridgeSession × Except Fault Value) :=
  let settle : Except Fault BridgeSession → BridgeSession × Except Fault Value := fun r =>
    match r with
    | .ok s => (s, .ok .null)
    | .error e => (s, .error e)
  match command with
  | .connect store view => pure (settle (s.connect store view))
  | .disconnect => pure (s.disconnect, .ok .null)
  | .unsubscribe name => pure (settle (s.unsubscribe name))
  | .subscribeStore name listener script => s.onStore name fun _ =>
    pure (s.addListener name listener false script, .ok .null)
  | .setState name state => s.onStore name fun _ =>
    do return (← s.setState host name state, .ok .null)
  | .update name changes => s.onStore name fun store =>
    match store.merged changes with
    | .ok state => do return (← s.setState host name state, .ok .null)
    | .error e => pure (s, .error e)
  | .syncTo values =>
    match s.bridge.connection with
    | none => pure (s, .error notConnected)
    | some c => s.syncTo host c values
  | .syncFrom =>
    match s.bridge.connection with
    | none => pure (s, .error notConnected)
    | some c => do return (s, ← c.view.read host (s.stateOf c.store))
  | .subscribe name script =>
    match s.bridge.connection with
    | none => pure (s, .error notConnected)
    | some c => pure (s.subscribe c name script, .ok .null)

end BridgeSession

end FormEngine
