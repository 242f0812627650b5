import FormEngine.Clock.Time
import FormEngine.Event

/-!
The host application as the engine sees it: functions that can be called with values. A deferred
function sleeps for a while before it runs, and has to be waited for; called where nobody waits it
only yields a pending result.
-/

namespace FormEngine

/-- Something that can be called; the host knows by its code what that does. -/
structure Callable where
  kind : EntityKind
  key : Nat
  code : Value

namespace Callable

def isDeferred (f : Callable) : Bool := f.kind == .deferredFunction

def toValue (f : Callable) : Value := .entity f.kind f.key f.code

/-- Functions can be called, and types, which make values of theirs. -/
def ofValue? : Value → Option Callable
  | .entity kind key code =>
    match kind with
    | .function | .deferredFunction | .type | .model => some ⟨kind, key, code⟩
    | _ => none
  | _ => none

end Callable

/-- Whether a value has something in it that can be altered in place. -/
def Value.hasParts : Value → Bool
  | .null | .bool _ | .int _ | .float _ | .str _ | .name .. => false
  | _ => true

/-- What a call does: its events, its outcome, and its first argument if it was changed in place. What
else it is given is taken to stay as it is. -/
structure Reply where
  outcome : Except Fault Value
  events : List Event := []
  altered : Option Value := none

structure Host where
  /-- what a function does when it runs -/
  run : Callable → List Value → Reply
  /-- how long a deferred function sleeps before it runs -/
  delay : Callable → List Value → Span

namespace Host

/-- What a function does when it runs. A value without parts stays as it is. -/
def carryOut (host : Host) (f : Callable) (arguments : List Value) : Reply :=
  let reply := host.run f arguments
  { reply with altered := if (arguments.headD .null).hasParts then reply.altered else none }

/-- What a call does when nobody waits for it: a deferred function has not run yet. -/
def reply (host : Host) (f : Callable) (arguments : List Value) : Reply :=
  if f.isDeferred then { outcome := .ok (.entity .pending f.key .null) }
  else host.carryOut f arguments

/-- What a function does that is waited for. What is not deferred cannot be: its result is a fault. -/
def awaited (host : Host) (f : Callable) (arguments : List Value) : Reply :=
  let reply := host.carryOut f arguments
  if f.isDeferred then reply
  else { reply with outcome := reply.outcome.bind fun _ => .error (.typeMismatch "not awaitable") }

/-- Calls a function without waiting for it. -/
def call (host : Host) (f : Callable) (arguments : List Value) : Logged (Except Fault Value) :=
  let reply := host.reply f arguments
  ⟨reply.outcome, reply.events⟩

end Host

end FormEngine
