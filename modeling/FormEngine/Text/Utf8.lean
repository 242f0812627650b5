/-!
Texts as bytes. Bytes that are no text are read as well: in the place of every part that does not fit
stands a mark of replacement.
-/

namespace FormEngine

namespace Utf8

abbrev Bytes := List Nat

def encode (s : String) : Bytes := s.toUTF8.toList.map UInt8.toNat

/-- The mark that stands for bytes that are no character. -/
def replacement : Char := '\ufffd'

/-- A character that has begun: how many bytes it lacks, the bounds of the next one, and its code so
far. -/
structure Pending where
  owed : Nat
  least : Nat
  most : Nat
  code : Nat
  deriving DecidableEq, Repr

/-- The first byte of a character: the character, if that is all, or what is to follow. -/
def lead (b : Nat) : Char ⊕ Pending :=
  if b ≤ 0x7F then .inl (Char.ofNat b)
  else if 0xC2 ≤ b ∧ b ≤ 0xDF then .inr ⟨1, 0x80, 0xBF, b - 0xC0⟩
  else if b = 0xE0 then .inr ⟨2, 0xA0, 0xBF, 0⟩
  else if b = 0xED then .inr ⟨2, 0x80, 0x9F, 0xD⟩
  else if 0xE1 ≤ b ∧ b ≤ 0xEF then .inr ⟨2, 0x80, 0xBF, b - 0xE0⟩
  else if b = 0xF0 then .inr ⟨3, 0x90, 0xBF, 0⟩
  else if b = 0xF4 then .inr ⟨3, 0x80, 0x8F, 4⟩
  else if 0xF1 ≤ b ∧ b ≤ 0xF3 then .inr ⟨3, 0x80, 0xBF, b - 0xF0⟩
  else .inl replacement

/-- The characters of bytes, after a character that has begun. -/
def decodeFrom : Option Pending → Bytes → List Char
  | none, [] => []
  | some _, [] => [replacement]
  | none, b :: bs =>
    match lead b with
    | .inl c => c :: decodeFrom none bs
    | .inr p => decodeFrom (some p) bs
  | some p, b :: bs =>
    if p.least ≤ b ∧ b ≤ p.most then
      let code := 64 * p.code + b % 64
      if p.owed = 1 then Char.ofNat code :: decodeFrom none bs
      else decodeFrom (some ⟨p.owed - 1, 0x80, 0xBF, code⟩) bs
    else
      replacement ::
        match lead b with
        | .inl c => c :: decodeFrom none bs
        | .inr p => decodeFrom (some p) bs

def decode (bytes : Bytes) : String := String.ofList (decodeFrom none bytes)

end Utf8

end FormEngine
