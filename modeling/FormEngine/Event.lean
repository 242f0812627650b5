import FormEngine.Fault
import FormEngine.Options.Request

/-!
What an observer of the engine sees, in order: calls of host functions that ask to be recorded,
callbacks of a form, faults reported by a renderer, requests for options and store notifications.
-/

namespace FormEngine

inductive Event
  | called (label : Value) (argument : Value)
  | changed (values : Table Value)
  | submitted (values : Table Value)
  | restored
  | validated (valid : Bool) (errors : Table (List String))
  | mounted
  | unmounted
  | focused (fieldId : String)
  | blurred (fieldId : String)
  | observed (fault : Fault)
  | requested (request : Request)
  | notified (listener : String) (data : Value)

/-- A result together with the events on the way to it. -/
structure Logged (α : Type) where
  value : α
  events : List Event := []

namespace Logged

variable {α β : Type}

instance : Monad Logged where
  pure a := ⟨a, []⟩
  bind x f := let y := f x.value; ⟨y.value, x.events ++ y.events⟩

def emit (e : Event) : Logged Unit := ⟨(), [e]⟩

@[simp] theorem value_pure (a : α) : (pure a : Logged α).value = a := rfl

@[simp] theorem value_bind (x : Logged α) (f : α → Logged β) :
    (x >>= f).value = (f x.value).value := rfl

end Logged

end FormEngine
