import FormEngine.Fault

/-!
How strong a password looks, by its length and the kinds of characters in it.
-/

namespace FormEngine

structure PasswordStrength where
  score : Nat
  label : String
  deriving DecidableEq, Repr

namespace PasswordStrength

def maxScore : Nat := 6

def within (low high : Char) (c : Char) : Bool := low ≤ c && c ≤ high

def isSymbol (c : Char) : Bool :=
  !(within 'a' 'z' c || within 'A' 'Z' c || within '0' '9' c)

/-- One point for each of two lengths and four kinds of characters. -/
def criteria (cs : List Char) : List Bool := [
  8 ≤ cs.length, 12 ≤ cs.length, cs.any (within 'a' 'z'), cs.any (within 'A' 'Z'),
  cs.any (within '0' '9'), cs.any isSymbol]

def labelOf (score : Nat) : String :=
  if score ≤ 2 then "Weak" else if score ≤ 4 then "Medium" else "Strong"

def ofPassword (password : String) : PasswordStrength :=
  if password.isEmpty then ⟨0, ""⟩
  else
    let score := (criteria password.toList).count true
    ⟨score, labelOf score⟩

/-- The strength of a value; one that is there has to be a text. -/
def ofValue (v : Value) : Except Fault PasswordStrength :=
  match v.text? with
  | some s => .ok (ofPassword s)
  | none => if v.truthy then .error (.typeMismatch "not a password") else .ok (ofPassword "")

end PasswordStrength

end FormEngine
