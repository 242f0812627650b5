import FormEngine.Text.Utf8
import FormEngine.Value.Display

/-!
Escapes with percent signs: a character is written as its bytes, two hexadecimal digits behind a
percent sign for each.
-/

namespace FormEngine

namespace Percent

def isHex (c : Char) : Bool := c.isDigit || ('a' ≤ c && c ≤ 'f') || ('A' ≤ c && c ≤ 'F')

def hexValue (c : Char) : Nat :=
  if c.isDigit then c.toNat - 48 else if 'a' ≤ c then c.toNat - 87 else c.toNat - 55

/-- The characters that are never escaped. -/
def isUnreserved (c : Char) : Bool := c.isAlphanum || c == '-' || c == '.' || c == '_' || c == '~'

def escape (c : Char) : List Char :=
  (Utf8.encode c.toString).flatMap fun b =>
    '%' :: (Quoted.hexDigits b 2).toList.map Char.toUpper

def one (plain : Char → Bool) (c : Char) : List Char :=
  if isUnreserved c || plain c then [c] else escape c

/-- Escapes all characters but plain ones. -/
def encodeAll (plain : Char → Bool) (s : String) : String :=
  String.ofList (s.toList.flatMap (one plain))

/-- Escapes all characters but plain ones, and leaves the escapes that there are. -/
def encodeRest (plain : Char → Bool) : List Char → List Char
  | '%' :: a :: b :: rest =>
    if isHex a && isHex b then '%' :: a :: b :: encodeRest plain rest
    else one plain '%' ++ encodeRest plain (a :: b :: rest)
  | c :: rest => one plain c ++ encodeRest plain rest
  | [] => []

def encode (plain : Char → Bool) (s : String) : String :=
  String.ofList (encodeRest plain s.toList)

/-- The bytes of a text with its escapes resolved. -/
def bytes : List Char → Utf8.Bytes
  | '%' :: a :: b :: rest =>
    if isHex a && isHex b then (16 * hexValue a + hexValue b) :: bytes rest
    else Utf8.encode "%" ++ bytes (a :: b :: rest)
  | c :: rest => Utf8.encode c.toString ++ bytes rest
  | [] => []

def decode (s : String) : String := Utf8.decode (bytes s.toList)

end Percent

end FormEngine
