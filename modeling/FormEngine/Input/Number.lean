import FormEngine.Fault
import FormEngine.Text.Digit
import FormEngine.Text.Numeral

/-!
Numbers as they are typed: currency and percent signs, separators and blanks are ignored, digits alone
make an integer, and a step draws the result to its nearest multiple.
-/

namespace FormEngine

inductive Number
  | int (i : Int)
  | float (x : Binary64)
  deriving DecidableEq, Repr

namespace Number

def toValue : Number → Value
  | .int i => .int i
  | .float x => .float x

def ofValue? : Value → Option Number
  | .int i => some (.int i)
  | .float x => some (.float x)
  | _ => none

def isIgnored (c : Char) : Bool := c == '$' || c == ',' || c == '%' || isBlank c

/-- Digits, perhaps behind a sign. -/
def isWhole (cs : List Char) : Bool :=
  let digits := match cs with
    | '+' :: rest | '-' :: rest => rest
    | _ => cs
  !digits.isEmpty && digits.all isDigit

/-- The number that a text spells, none when it spells none. -/
def ofText? (s : String) : Option Number :=
  let cs := s.toList.filter fun c => !isIgnored c
  if isWhole cs then (Numeral.integerOfText? (String.ofList cs)).map .int
  else (Numeral.doubleOfText? (String.ofList cs)).map .float

def isFinite : Number → Bool
  | .int _ => true
  | .float x => x.isFinite

/-- A step that snaps nothing: none, zero or one. -/
def isTrivialStep : Number → Bool
  | .int i => i == 0 || i == 1
  | .float x => x.isZero || x.toInt? == some 1

/-- An integer as a double, unless it is beyond all of them. -/
def toDouble (i : Int) : Except Fault Binary64 :=
  let x := Binary64.ofInt i
  if x.isFinite then .ok x else .error (.overflow "int too large to convert to float")

def quotient : Number → Number → Except Fault Binary64
  | .int i, .int j =>
    let x := Binary64.ofQuotient ((i < 0) != (j < 0)) i.natAbs j.natAbs
    if x.isFinite then .ok x
    else .error (.overflow "integer division result too large for a float")
  | .int i, .float y => do return (← toDouble i).div y
  | .float x, .int j => do return x.div (← toDouble j)
  | .float x, .float y => .ok (x.div y)

def nearestInt (x : Binary64) : Except Fault Int :=
  match x with
  | .nan _ => .error (.badValue "cannot convert float NaN to integer")
  | .infinite _ => .error (.overflow "cannot convert float infinity to integer")
  | x => .ok (x.roundToInt?.getD 0)

def multiple (i : Int) : Number → Except Fault Number
  | .int j => .ok (.int (i * j))
  | .float y => do return .float ((← toDouble i).mul y)

/-- The multiple of the step that is nearest to a number. -/
def snap (n step : Number) : Except Fault Number :=
  if isTrivialStep step then .ok n
  else do multiple (← nearestInt (← quotient n step)) step

/-- The number in what was typed, drawn to the step; none when there is none. -/
def parse (typed : Value) (step : Option Number) : Except Fault (Option Number) :=
  let number := match typed with
    | .bool _ => none
    | .int i => some (Number.int i)
    | .float x => some (.float x)
    | v => if v.truthy then ofText? v.display else none
  match number.filter isFinite, step with
  | none, _ => .ok none
  | some n, none => .ok (some n)
  | some n, some step => some <$> snap n step

end Number

end FormEngine
