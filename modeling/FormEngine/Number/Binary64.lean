/-!
Double precision numbers, kept exactly: a finite one is `± mantissa * 2 ^ exponent`, so every
operation is exact arithmetic followed by one rounding to the nearest double, ties to even. A NaN
carries a payload, which tells two of them apart where a comparison by identity asks for it.
-/

namespace FormEngine

inductive Binary64
  | nan (payload : Nat)
  | infinite (negative : Bool)
  | finite (negative : Bool) (mantissa : Nat) (exponent : Int)
  deriving DecidableEq, Repr, Inhabited

/-- A point of the rational line with both ends added. -/
inductive Extended
  | below
  | point (q : Rat)
  | above
  deriving DecidableEq, Inhabited

namespace Extended

def compare : Extended → Extended → Ordering
  | .below, .below => .eq
  | .below, _ => .lt
  | .above, .above => .eq
  | .above, _ => .gt
  | .point _, .below => .gt
  | .point _, .above => .lt
  | .point p, .point q => if p < q then .lt else if p = q then .eq else .gt

end Extended

/-- The quotient of two naturals rounded to the nearest, a tie going to the even neighbour. -/
def roundDiv (num den : Nat) : Nat :=
  let quotient := num / den
  let twice := 2 * (num % den)
  if twice < den then quotient
  else if den < twice then quotient + 1
  else if quotient % 2 = 0 then quotient else quotient + 1

namespace Binary64

def mantissaLimit : Nat := Nat.pow 2 53
def leastExponent : Int := -1074
def greatestExponent : Int := 971

def zero (negative : Bool) : Binary64 := .finite negative 0 leastExponent

/-- Two to an integer power. -/
def powerOfTwo (e : Int) : Rat :=
  if 0 ≤ e then mkRat (Nat.pow 2 e.toNat) 1 else mkRat 1 (Nat.pow 2 (-e).toNat)

/-- Whether `num / den < 2 ^ e`. -/
def quotientBelow (num den : Nat) (e : Int) : Bool :=
  if 0 ≤ e then num < den * Nat.pow 2 e.toNat else num * Nat.pow 2 (-e).toNat < den

/-- The double nearest to `± num / den`; beyond the largest finite one it is infinite. -/
def ofQuotient (negative : Bool) (num den : Nat) : Binary64 :=
  if num = 0 then zero negative
  else
    let guess : Int := (num.log2 : Int) - (den.log2 : Int)
    let binade := if quotientBelow num den guess then guess - 1 else guess
    let exponent := max (binade - 52) leastExponent
    let mantissa :=
      if 0 ≤ exponent then roundDiv num (den * Nat.pow 2 exponent.toNat)
      else roundDiv (num * Nat.pow 2 (-exponent).toNat) den
    let (mantissa, exponent) :=
      if mantissa = mantissaLimit then (mantissaLimit / 2, exponent + 1) else (mantissa, exponent)
    if greatestExponent < exponent then .infinite negative
    else .finite negative mantissa exponent

/-- The double nearest to `q`; a result that is zero has the sign given. -/
def ofRat (q : Rat) (negativeZero : Bool) : Binary64 :=
  ofQuotient (if q.num = 0 then negativeZero else q.num < 0) q.num.natAbs q.den

def ofInt (i : Int) : Binary64 := ofQuotient (i < 0) i.natAbs 1

/-- `± digits * 10 ^ exponent`. Far outside the range the power is not computed. -/
def ofDecimal (negative : Bool) (digits : Nat) (exponent : Int) : Binary64 :=
  if digits = 0 then zero negative
  else
    let size : Int := (toString digits).length + exponent
    if 400 < size then .infinite negative
    else if size < -400 then zero negative
    else if 0 ≤ exponent then ofQuotient negative (digits * Nat.pow 10 exponent.toNat) 1
    else ofQuotient negative digits (Nat.pow 10 (-exponent).toNat)

def isNaN : Binary64 → Bool
  | .nan _ => true
  | _ => false

def isFinite : Binary64 → Bool
  | .finite .. => true
  | _ => false

def isNegative : Binary64 → Bool
  | .nan _ => false
  | .infinite negative => negative
  | .finite negative .. => negative

def isZero : Binary64 → Bool
  | .finite _ mantissa _ => mantissa == 0
  | _ => false

/-- The exact value of a finite double. -/
def toRat? : Binary64 → Option Rat
  | .finite negative mantissa exponent =>
    let size := (mantissa : Rat) * powerOfTwo exponent
    some (if negative then -size else size)
  | _ => none

def toExtended? : Binary64 → Option Extended
  | .nan _ => none
  | .infinite negative => some (if negative then .below else .above)
  | .finite negative mantissa exponent =>
    let size := (mantissa : Rat) * powerOfTwo exponent
    some (.point (if negative then -size else size))

/-- Order of two doubles; none when one is NaN. -/
def compare? (x y : Binary64) : Option Ordering := do
  let a ← x.toExtended?
  let b ← y.toExtended?
  return a.compare b

def negate : Binary64 → Binary64
  | .nan payload => .nan payload
  | .infinite negative => .infinite (!negative)
  | .finite negative mantissa exponent => .finite (!negative) mantissa exponent

def absolute : Binary64 → Binary64
  | .nan payload => .nan payload
  | .infinite _ => .infinite false
  | .finite _ mantissa exponent => .finite false mantissa exponent

def add (x y : Binary64) : Binary64 :=
  match x, y with
  | .nan payload, _ => .nan payload
  | _, .nan payload => .nan payload
  | .infinite a, .infinite b => if a = b then .infinite a else .nan 0
  | .infinite a, _ => .infinite a
  | _, .infinite b => .infinite b
  | .finite a .., .finite b .. =>
    ofRat (x.toRat?.getD 0 + y.toRat?.getD 0) (a && b)

def mul (x y : Binary64) : Binary64 :=
  match x, y with
  | .nan payload, _ => .nan payload
  | _, .nan payload => .nan payload
  | .infinite a, .infinite b => .infinite (a != b)
  | .infinite a, .finite b mantissa _ => if mantissa = 0 then .nan 0 else .infinite (a != b)
  | .finite a mantissa _, .infinite b => if mantissa = 0 then .nan 0 else .infinite (a != b)
  | .finite a .., .finite b .. =>
    ofRat (x.toRat?.getD 0 * y.toRat?.getD 0) (a != b)

/-- Quotient of two doubles; a zero divisor is the caller's to refuse. -/
def div (x y : Binary64) : Binary64 :=
  match x, y with
  | .nan payload, _ => .nan payload
  | _, .nan payload => .nan payload
  | .infinite _, .infinite _ => .nan 0
  | .infinite a, .finite b .. => .infinite (a != b)
  | .finite a .., .infinite b => zero (a != b)
  | .finite a .., .finite b .. =>
    ofRat (x.toRat?.getD 0 / y.toRat?.getD 0) (a != b)

/-- The integer a finite double is equal to, if it is one. -/
def toInt? (x : Binary64) : Option Int := do
  let q ← x.toRat?
  if q.den = 1 then some q.num else none

/-- The integer nearest to a finite double, a tie going to the even neighbour. -/
def roundToInt? (x : Binary64) : Option Int := do
  let q ← x.toRat?
  let size : Int := roundDiv q.num.natAbs q.den
  return if q.num < 0 then -size else size

/-- The greatest integer not above a finite double. -/
def floor? (x : Binary64) : Option Int := do
  let q ← x.toRat?
  return q.num / q.den

end Binary64

end FormEngine
