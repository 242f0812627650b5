import FormEngine.Text.Utf8
import FormEngine.Value.Display

/-!
How the bytes of a document stand for its text. The first bytes show it: zeros among them come from
characters of two or four bytes.
-/

namespace FormEngine

/-- The ways to write a text as bytes; units of several bytes have their greatest or least byte first. -/
inductive Encoding
  | bytes
  /-- behind a mark of three bytes -/
  | markedBytes
  | units (size : Nat) (greatestFirst : Bool)
  deriving DecidableEq, Repr

namespace Encoding

open Utf8 (Bytes)

def detect (bs : Bytes) : Encoding :=
  match bs with
  | 0xEF :: 0xBB :: 0xBF :: _ => .markedBytes
  | 0 :: b :: _ :: _ :: _ => if b = 0 then .units 4 true else .units 2 true
  | _ :: 0 :: c :: d :: _ => if c = 0 ∧ d = 0 then .units 4 false else .units 2 false
  | [0, _] => .units 2 true
  | [_, 0] => .units 2 false
  | _ => .bytes

def name : Encoding → String
  | .bytes | .markedBytes => "utf-8"
  | .units size greatestFirst =>
    "utf-" ++ toString (8 * size) ++ (if greatestFirst then "-be" else "-le")

/-- What was wrong with some bytes from a position on. -/
def complaint (e : Encoding) (position : Nat) (bad : Bytes) (reason : String) : String :=
  let what := match bad with
    | [b] => "byte 0x" ++ Quoted.hexDigits b 2 ++ " in position " ++ toString position
    | _ => s!"bytes in position {position}-{position + bad.length - 1}"
  s!"'{e.name}' codec can't decode {what}: {reason}"

def unitCode (greatestFirst : Bool) (bs : Bytes) : Nat :=
  (if greatestFirst then bs else bs.reverse).foldl (fun n b => 256 * n + b) 0

/-- The codes of units, as many as there is fuel for. -/
def codes (e : Encoding) (size : Nat) (greatestFirst : Bool) :
    Nat → Nat → Bytes → Except String (List Nat)
  | 0, _, _ => .ok []
  | fuel + 1, position, bs =>
    if bs.isEmpty then .ok []
    else if bs.length < size then .error (e.complaint position bs "truncated data")
    else
      let code := unitCode greatestFirst (bs.take size)
      if 0x10FFFF < code then
        .error (e.complaint position (bs.take size) "code point not in range(0x110000)")
      else do
        return code :: (← codes e size greatestFirst fuel (position + size) (bs.drop size))

/-- Two units of a pair are one character; half of a pair on its own is none. -/
def joinPairs : List Nat → List Char
  | [] => []
  | [code] => [if 0xD800 ≤ code ∧ code ≤ 0xDFFF then replacement else Char.ofNat code]
  | high :: low :: rest =>
    if 0xD800 ≤ high ∧ high ≤ 0xDBFF ∧ 0xDC00 ≤ low ∧ low ≤ 0xDFFF then
      Char.ofNat (0x10000 + (high - 0xD800) * 0x400 + (low - 0xDC00)) :: joinPairs rest
    else
      (if 0xD800 ≤ high ∧ high ≤ 0xDFFF then replacement else Char.ofNat high) ::
        joinPairs (low :: rest)
where replacement : Char := Utf8.replacement

/-- The text of a document, or what is wrong with its bytes. -/
def read (s : String) : Except String String :=
  let bs := Utf8.encode s
  match detect bs with
  | .bytes => .ok s
  | .markedBytes => .ok (String.ofList (s.toList.drop 1))
  | .units size greatestFirst => do
    let codes ← codes (.units size greatestFirst) size greatestFirst (bs.length + 1) 0 bs
    return String.ofList (joinPairs codes)

end Encoding

end FormEngine
