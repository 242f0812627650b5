import FormEngine.Value.Basic

/-!
Points in time, in seconds from the start, and spans of time, in seconds too. Both are doubles.
-/

namespace FormEngine

abbrev Time := Binary64

/-- A length of time. -/
abbrev Span := Binary64

namespace Time

def start : Time := .zero false

/-- A number of milliseconds in seconds. -/
def seconds (milliseconds : Int) : Span :=
  .ofQuotient (milliseconds < 0) milliseconds.natAbs 1000

/-- Milliseconds that are told as a number, a double among them; anything else is no time at all. -/
def secondsOf (v : Value) : Span :=
  match v with
  | .int i => seconds i
  | .bool b => seconds (if b then 1 else 0)
  | .float x => Binary64.div x (.ofInt 1000)
  | _ => .zero false

/-- Whether a span can be told in seconds at all. -/
def isSpan (milliseconds : Int) : Bool := (seconds milliseconds).isFinite

/-- The time a span after another. -/
def after (t : Time) (span : Span) : Time := Binary64.add t span

def before (s t : Time) : Bool := s.compare? t == some .lt

/-- Whether a span takes any time. -/
def passes (span : Span) : Bool := before start span

/-- A time in whole milliseconds, the nearest ones. -/
def milliseconds (t : Time) : Int := ((Binary64.mul t (.ofInt 1000)).roundToInt?).getD 0

end Time

end FormEngine
