import FormEngine.Number.Binary64
import FormEngine.Text.Blank
import FormEngine.Text.Digit

/-!
Reading numbers from text. Free text admits digits of every script, blanks around the number and
single underscores between digits. Data text admits ASCII digits alone and has rules of its own for
leading zeros and empty fractions.
-/

namespace FormEngine

namespace Numeral

/-- Integers with more digits are not read. -/
def digitLimit : Nat := 4300

/-- The complaint about an integer of more digits. -/
def tooManyDigits (count : Nat) : String :=
  "Exceeds the limit (" ++ toString digitLimit ++
    " digits) for integer string conversion: value has " ++ toString count ++
    " digits; use sys.set_int_max_str_digits() to increase the limit"

def asciiDigit? (c : Char) : Option Nat :=
  if 48 ≤ c.toNat ∧ c.toNat ≤ 57 then some (c.toNat - 48) else none

/-- The digits in front of a text, and the rest. -/
def takeDigits : List Char → List Nat × List Char
  | [] => ([], [])
  | c :: rest =>
    match asciiDigit? c with
    | some d => let (ds, after) := takeDigits rest; (d :: ds, after)
    | none => ([], c :: rest)

def ofDigits (ds : List Nat) : Nat := ds.foldl (fun n d => 10 * n + d) 0

/-- An optional sign: whether it is a minus, and the rest. -/
def takeSign : List Char → Bool × List Char
  | '-' :: rest => (true, rest)
  | '+' :: rest => (false, rest)
  | rest => (false, rest)

def lowerAscii (cs : List Char) : List Char := cs.map Char.toLower

/-- A decimal with optional fraction and power of ten, or a word for a number that is not finite. -/
def readDouble? (cs : List Char) : Option Binary64 := do
  let (negative, cs) := takeSign cs
  let word := lowerAscii cs
  if word = "nan".toList then return .nan 0
  if word = "inf".toList ∨ word = "infinity".toList then return .infinite negative
  let (whole, cs) := takeDigits cs
  let (fraction, cs) := match cs with
    | '.' :: rest => takeDigits rest
    | _ => ([], cs)
  guard (!(whole.isEmpty && fraction.isEmpty))
  let power ← match cs with
    | [] => some (0 : Int)
    | c :: rest => do
      guard (c == 'e' || c == 'E')
      let (down, rest) := takeSign rest
      let (ds, rest) := takeDigits rest
      guard (!ds.isEmpty && rest.isEmpty)
      let size : Int := ofDigits ds
      some (if down then -size else size)
  return .ofDecimal negative (ofDigits (whole ++ fraction)) (power - fraction.length)

/-- A sign and digits, no more than the limit. -/
def readInteger? (cs : List Char) : Option Int := do
  let (negative, cs) := takeSign cs
  let (ds, rest) := takeDigits cs
  guard (!ds.isEmpty && rest.isEmpty && ds.length ≤ digitLimit)
  let size : Int := ofDigits ds
  return if negative then -size else size

/-- Removes underscores, each of which has to stand between two digits. -/
def joinGroups? : Bool → List Char → Option (List Char)
  | _, [] => some []
  | afterDigit, '_' :: rest =>
    match rest with
    | d :: _ => if afterDigit && (asciiDigit? d).isSome then joinGroups? false rest else none
    | [] => none
  | _, c :: rest => (joinGroups? (asciiDigit? c).isSome rest).map (c :: ·)

/-- Digits of any script as ASCII digits, white space around the text dropped. -/
def plainDigits (s : String) : List Char :=
  (trimWhere isWhiteSpace s.toList).map fun c =>
    match digitValue? c with
    | some d => Char.ofNat (48 + d)
    | none => c

/-- An integer in free text. -/
def integerOfText? (s : String) : Option Int :=
  (joinGroups? false (plainDigits s)).bind readInteger?

/-- The number of digits of an integer in free text, however many. -/
def digitCount? (s : String) : Option Nat := do
  let (ds, rest) := takeDigits (takeSign (← joinGroups? false (plainDigits s))).2
  guard (!ds.isEmpty && rest.isEmpty)
  return ds.length

/-- A number in free text. -/
def doubleOfText? (s : String) : Option Binary64 :=
  (joinGroups? false (plainDigits s)).bind readDouble?

end Numeral

/-- Why a text of data is no integer. -/
inductive IntegerFault
  | malformed
  | tooLong
  deriving DecidableEq, Repr

namespace Numeral

/-- An integer without leading zeros, as data spells it; a plus sign is not admitted. A minus sign
counts as a digit where the digits are too many. -/
def strictInteger (cs : List Char) : Except IntegerFault Int :=
  let (negative, digits) := match cs with
    | '-' :: rest => (true, rest)
    | _ => (false, cs)
  match takeDigits digits with
  | ([], _) => .error .malformed
  | ([0], []) => .ok 0
  | (0 :: _, _) => .error .malformed
  | (ds, rest) =>
    if digitLimit < ds.length + (if negative then 1 else 0) then .error .tooLong
    else if !rest.isEmpty then .error .malformed
    else
      let size : Int := ofDigits ds
      .ok (if negative then -size else size)

/-- After a leading zero: more zeros and underscores are skipped. The last of them stays at the end
and before a point. -/
def skipZeros (last : Char) : List Char → Option (List Char)
  | [] => some [last]
  | '0' :: rest => skipZeros '0' rest
  | '_' :: rest => skipZeros '_' rest
  | '.' :: rest => some (last :: '.' :: rest)
  | c :: rest => if (asciiDigit? c).isSome || c == '-' then some (c :: rest) else none

def dropLeadingZeros : List Char → Option (List Char)
  | '0' :: rest => skipZeros '0' rest
  | c :: rest => if (asciiDigit? c).isSome then some (c :: rest) else none
  | [] => none

/-- Drops a point that is followed by zeros, at least one, and nothing else. -/
def dropEmptyFraction (cs : List Char) : List Char :=
  match cs.span (· != '.') with
  | (whole, _ :: fraction) =>
    if !fraction.isEmpty && fraction.all (· == '0') then whole else cs
  | (_, []) => cs

/-- Whether underscores stand alone and inside. -/
def singleUnderscores : List Char → Bool
  | '_' :: '_' :: _ => false
  | _ :: rest => singleUnderscores rest
  | [] => true

/-- The text without underscores if it has some and all of them stand alone and inside. -/
def dropUnderscores? (cs : List Char) : Option (List Char) :=
  if cs.contains '_' && cs.head? != some '_' && cs.getLast? != some '_' && singleUnderscores cs then
    some (cs.filter (· != '_'))
  else none

/-- Blanks, a plus sign, leading zeros, an empty fraction and underscores taken away. A minus sign
is put aside meanwhile. -/
def cleanInteger? (s : List Char) : Option (List Char) := do
  let cs := trimWhere isWhiteSpace s
  let (negative, cs) ← match cs with
    | '+' :: '-' :: _ => none
    | '-' :: '-' :: _ => none
    | '+' :: rest => some (false, rest)
    | '-' :: rest => some (true, rest)
    | _ => some (false, cs)
  let cs := dropEmptyFraction (← dropLeadingZeros cs)
  let cs := (dropUnderscores? cs).getD cs
  return if negative then '-' :: cs else cs

/-- An integer in a text of data; it is too long only if the text as it stands says so. -/
def integerOfData (s : String) : Except IntegerFault Int :=
  match strictInteger s.toList with
  | .ok i => .ok i
  | .error .tooLong => .error .tooLong
  | .error .malformed =>
    match (cleanInteger? s.toList).map strictInteger with
    | some (.ok i) => .ok i
    | _ => .error .malformed

/-- A number in a text of data. -/
def doubleOfData? (s : String) : Option Binary64 :=
  match readDouble? (trimWhere isWhiteSpace s.toList) with
  | some x => some x
  | none => (dropUnderscores? s.toList).bind readDouble?

end Numeral

end FormEngine
