import FormEngine.Number.Binary64

/-!
The shortest decimal that reads back as a given double: the fewest digits that lie in the interval
of reals rounding to it and, of those, the nearest. Two spellings of it are used, one that changes
to powers of ten for very large and very small numbers and one that never does.
-/

namespace FormEngine

/-- `digits * 10 ^ exponent`, without trailing zero digits. -/
structure Decimal where
  digits : Nat
  exponent : Int
  deriving DecidableEq, Repr

namespace Decimal

def powerOfTen (e : Int) : Rat :=
  if 0 ≤ e then mkRat (Nat.pow 10 e.toNat) 1 else mkRat 1 (Nat.pow 10 (-e).toNat)

/-- Moves trailing zero digits into the exponent. -/
def trim (digits : Nat) (exponent : Int) : Nat → Decimal
  | 0 => ⟨digits, exponent⟩
  | fuel + 1 =>
    if digits ≠ 0 ∧ digits % 10 = 0 then trim (digits / 10) (exponent + 1) fuel
    else ⟨digits, exponent⟩

/-- The position `p` with `10 ^ (p - 1) ≤ q < 10 ^ p`, searched from a guess. -/
def position (q : Rat) (guess : Int) : Nat → Int
  | 0 => guess
  | fuel + 1 =>
    if powerOfTen guess ≤ q then position q (guess + 1) fuel
    else if q < powerOfTen (guess - 1) then position q (guess - 1) fuel
    else guess

/-- The reals that round to a double: its neighbours' midpoints, and whether these belong to it. -/
structure Basin where
  low : Rat
  value : Rat
  high : Rat
  closed : Bool

namespace Basin

def contains (b : Basin) (q : Rat) : Bool :=
  if b.closed then b.low ≤ q && q ≤ b.high else b.low < q && q < b.high

def ofDouble (mantissa : Nat) (exponent : Int) : Basin :=
  let half := Binary64.powerOfTwo (exponent - 1)
  let value := (mantissa : Rat) * Binary64.powerOfTwo exponent
  let below :=
    if mantissa = Binary64.mantissaLimit / 2 ∧ Binary64.leastExponent < exponent then
      Binary64.powerOfTwo (exponent - 2)
    else half
  ⟨value - below, value, value + half, mantissa % 2 == 0⟩

/-- The point of the grid of `unit` nearest to the value that lies in the basin. -/
def gridPoint? (b : Basin) (unit : Rat) : Option Nat :=
  let low := (b.value / unit).floor.toNat
  let high := low + 1
  let lowFits := low ≠ 0 && b.contains (low * unit)
  let highFits := b.contains (high * unit)
  let toLow := b.value - low * unit
  let toHigh := high * unit - b.value
  if lowFits && highFits then
    if toLow < toHigh then some low
    else if toHigh < toLow then some high
    else some (if low % 2 = 0 then low else high)
  else if lowFits then some low
  else if highFits then some high
  else none

/-- Tries one digit, then two, up to the seventeen that always suffice. -/
def shortest (b : Basin) (position : Int) (count : Nat) : Nat → Decimal
  | 0 => ⟨0, 0⟩
  | fuel + 1 =>
    let exponent := position - (count : Int)
    match b.gridPoint? (powerOfTen exponent) with
    | some digits => trim digits exponent 20
    | none => shortest b position (count + 1) fuel

end Basin

/-- Digits and exponent of a finite double other than zero. -/
def ofDouble (mantissa : Nat) (exponent : Int) : Decimal :=
  let basin := Basin.ofDouble mantissa exponent
  let guess := ((mantissa.log2 : Int) + exponent) * 30103 / 100000 + 1
  basin.shortest (position basin.value guess 4) 1 17

/-- Digits with the decimal point, no power of ten; `whole` is appended to an integer. -/
def positional (d : Decimal) (whole : String) : String :=
  let text := toString d.digits
  let point : Int := text.length + d.exponent
  if 0 ≤ d.exponent then text ++ String.ofList (List.replicate d.exponent.toNat '0') ++ whole
  else if 0 < point then
    String.ofList (text.toList.take point.toNat) ++ "." ++
      String.ofList (text.toList.drop point.toNat)
  else "0." ++ String.ofList (List.replicate (-point).toNat '0') ++ text

/-- One digit, the others after the point, and a power of ten of at least two digits. -/
def scientific (d : Decimal) : String :=
  let text := (toString d.digits).toList
  let power : Int := text.length + d.exponent - 1
  let size := toString power.natAbs
  let head := String.ofList (text.take 1)
  let tail := text.drop 1
  head ++ (if tail.isEmpty then "" else "." ++ String.ofList tail) ++ "e" ++
    (if power < 0 then "-" else "+") ++ (if size.length < 2 then "0" else "") ++ size

end Decimal

namespace Binary64

/-- The text of a double as a value: a power of ten below `10 ^ -4` and from `10 ^ 16` on. -/
def text : Binary64 → String
  | .nan _ => "nan"
  | .infinite negative => if negative then "-inf" else "inf"
  | .finite negative mantissa exponent =>
    let sign := if negative then "-" else ""
    if mantissa = 0 then sign ++ "0.0"
    else
      let d := Decimal.ofDouble mantissa exponent
      let power : Int := (toString d.digits).length + d.exponent - 1
      sign ++ (if -4 ≤ power ∧ power < 16 then d.positional ".0" else d.scientific)

/-- The text of a double in a message about a bound: always positional, integers without a point. -/
def plainText : Binary64 → String
  | .nan _ => "NaN"
  | .infinite negative => if negative then "-inf" else "inf"
  | .finite negative mantissa exponent =>
    let sign := if negative then "-" else ""
    if mantissa = 0 then sign ++ "0" else sign ++ (Decimal.ofDouble mantissa exponent).positional ""

end Binary64

end FormEngine
