/-!
Texts of any script in ASCII letters, digits and hyphens: the ASCII characters of the text stand first,
and behind them are the others and their places, as differences in a notation of digits whose weights
adapt.
-/

namespace FormEngine

namespace Punycode

def digit (n : Nat) : Char := Char.ofNat (if n < 26 then 97 + n else 22 + n)

/-- The bound under which a digit is the last one. -/
def threshold (bias place : Nat) : Nat := min 26 (max 1 (place - bias))

/-- A number as digits, the places counted in steps of 36. -/
def number (bias : Nat) : Nat → Nat → Nat → List Char
  | 0, _, n => [digit n]
  | fuel + 1, place, n =>
    let t := threshold bias place
    if n < t then [digit n]
    else
      digit (t + (n - t) % (36 - t)) :: number bias fuel (place + 36) ((n - t) / (36 - t))

/-- The bias reached by dividing a difference until it is small. -/
def settle : Nat → Nat → Nat → Nat
  | 0, k, delta => k + 36 * delta / (delta + 38)
  | fuel + 1, k, delta =>
    if 455 < delta then settle fuel (k + 36) (delta / 35) else k + 36 * delta / (delta + 38)

def adapt (delta written : Nat) (isFirst : Bool) : Nat :=
  let delta := if isFirst then delta / 700 else delta / 2
  let delta := delta + delta / written
  settle (delta.log2 + 1) 0 delta

/-- What has been written: how many characters, the next difference, the bias, and the digits. -/
structure State where
  written : Nat
  delta : Nat
  bias : Nat
  digits : List Char

/-- Passes a character of the text while the places of the character `code` are written. -/
def pass (basic code : Nat) (s : State) (c : Nat) : State :=
  if c < code then { s with delta := s.delta + 1 }
  else if c = code then
    { written := s.written + 1
      delta := 0
      bias := adapt s.delta (s.written + 1) (s.written == basic)
      digits := s.digits ++ number s.bias (s.delta.log2 + 1) 36 s.delta }
  else s

/-- Writes the places of each further character, the lowest first. -/
def further (basic : Nat) (text : List Nat) : Nat → List Nat → State → State
  | _, [], s => s
  | next, code :: codes, s =>
    let s := { s with delta := s.delta + (code - next) * (s.written + 1) }
    let s := text.foldl (pass basic code) s
    further basic text (code + 1) codes { s with delta := s.delta + 1 }

def encode (text : List Char) : List Char :=
  let codes := text.map Char.toNat
  let basic := text.filter fun c => c.toNat < 128
  let others := (codes.filter fun c => 128 ≤ c).mergeSort
  let distinct := others.foldr (fun c kept => if kept.head? == some c then kept else c :: kept) []
  let start : State := ⟨basic.length, 0, 72, []⟩
  let s := further basic.length codes 128 distinct start
  if basic.isEmpty then s.digits else basic ++ '-' :: s.digits

end Punycode

end FormEngine
