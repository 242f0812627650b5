import FormEngine.Host.Basic
import FormEngine.Host.Construct

/-!
An observable store: a state, and listeners that are told of every write. Listeners are known by
tokens; what each of them does is not the store's business.
-/

namespace FormEngine

structure Store where
  state : Value
  listeners : List Nat := []
  /-- how many times the state was written; nothing that a store does depends on it -/
  writes : Nat := 0

namespace Store

/-- A store that starts with a state, an empty one for null. -/
def starting (state : Value) : Store := { state := if state.isNull then .record [] else state }

def write (s : Store) (state : Value) : Store := { s with state, writes := s.writes + 1 }

def subscribe (s : Store) (token : Nat) : Store :=
  { s with listeners := s.listeners ++ [token] }

def unsubscribe (s : Store) (token : Nat) : Store :=
  { s with listeners := s.listeners.erase token }

/-- A record with the entries of another over its own; only records can be joined. -/
def joined (v changes : Value) : Except Fault Value :=
  match v.pairs?, changes.pairs? with
  | some own, some added => .ok (.ofPairs (own ++ added))
  | none, _ => .error (.typeMismatch s!"'{v.kindName}' object is not a mapping")
  | _, none => .error (.typeMismatch s!"'{changes.kindName}' object is not a mapping")

/-- The word that changes by name cannot use: it stands for the store itself. -/
def ownName : String := "self"

/-- The state with changes by name over it. -/
def merged (s : Store) (changes : Value) : Except Fault Value :=
  if changes.record?.any fun entries => Table.has entries ownName then
    .error (.typeMismatch s!"got multiple values for argument '{ownName}'")
  else joined s.state changes

end Store

/-- How form values are read from a store state and written into it. -/
structure StoreView where
  selector : Option Callable := none
  updater : Option Callable := none

namespace StoreView

/-- The record of form values in what was selected; a value that counts as false has none. -/
def recordOf (v : Value) : Except Fault Value :=
  if v.truthy then Construct.record v else .ok (.record [])

/-- The form values in a store state. -/
def read (host : Host) (view : StoreView) (state : Value) : Logged (Except Fault Value) :=
  match view.selector with
  | none => pure (recordOf state)
  | some f => do return (← host.call f [state]).bind recordOf

/-- What a write does to a store state: it may be altered in place before it is replaced. -/
structure Written where
  altered : Value
  outcome : Except Fault Value

/-- What an updater makes of a store state and form values. -/
def update (host : Host) (f : Callable) (state values : Value) : Logged Written :=
  let reply := host.reply f [state, values]
  let altered := reply.altered.getD state
  ⟨⟨altered, reply.outcome.map fun v => if v.isNull then altered else v⟩, reply.events⟩

/-- The store state with form values written into it. Without an updater the values are laid over a
record, and take the place of any other state. -/
def write (host : Host) (view : StoreView) (state values : Value) : Logged Written :=
  match view.updater, Construct.record values with
  | some f, .ok values => update host f state values
  | some _, .error e => pure ⟨state, .error e⟩
  | none, outcome =>
    pure ⟨state, if state.pairs?.isSome then Store.joined state values else outcome⟩

end StoreView

end FormEngine
