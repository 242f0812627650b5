/-!
The pieces of a written pattern: a backslash and the character it protects are one piece.
-/

namespace FormEngine

namespace Pattern

inductive Token
  | plain (c : Char)
  | escaped (c : Char)
  /-- a backslash that ends the text -/
  | dangling
  deriving DecidableEq, Repr

namespace Token

def ofChars : List Char → List Token
  | [] => []
  | '\\' :: c :: rest => .escaped c :: ofChars rest
  | ['\\'] => [.dangling]
  | c :: rest => .plain c :: ofChars rest

def toChars : Token → List Char
  | .plain c => [c]
  | .escaped c => ['\\', c]
  | .dangling => ['\\']

/-- The character of a piece without a backslash. -/
def plain? : Token → Option Char
  | .plain c => some c
  | _ => none

/-- A piece without a backslash, of a class. -/
def isPlain (cls : Char → Bool) : Token → Bool
  | .plain c => cls c
  | _ => false

/-- Nothing of a text is lost in its pieces. -/
theorem flatMap_toChars_ofChars (cs : List Char) : (ofChars cs).flatMap toChars = cs := by
  fun_induction ofChars cs with
  | case1 => rfl
  | case2 c rest ih => simp [toChars, ih]
  | case3 => rfl
  | case4 c rest _ _ ih => simp [toChars, ih]

end Token

end Pattern

end FormEngine
