import FormEngine.Text.Case

/-!
Comparing characters without regard to their case, in full or for the letters of ASCII alone.
-/

namespace FormEngine

/-- Whose case is ignored: that of no letter, of the letters of ASCII, or of all letters. -/
inductive Folding
  | none
  | ascii
  | full
  deriving DecidableEq, Repr

namespace Folding

/-- The code point that stands for a letter of either case. -/
def lower : Folding → Nat → Nat
  | .none, code => code
  | .ascii, code => if 65 ≤ code ∧ code ≤ 90 then code + 32 else code
  | .full, code => Case.lowerCode code

/-- The lower case letters that count as the same as a lower case letter. -/
def equivalents : Folding → Nat → List Nat
  | .full, code => code :: (Case.equivalents.lookup code).getD []
  | _, code => [code]

/-- The code points that are lowered to a lower case letter. -/
def sources : Folding → Nat → List Nat
  | .none, code => [code]
  | .ascii, code => if 97 ≤ code ∧ code ≤ 122 then [code, code - 32] else [code]
  | .full, code => code :: CaseRun.sources Case.lowerRuns code

/-- The code points that match one. -/
def variants (f : Folding) (code : Nat) : List Nat :=
  (f.equivalents (f.lower code)).flatMap f.sources

/-- Two characters are the same letter. -/
def same (f : Folding) (x y : Nat) : Bool := f.lower x == f.lower y

/-- Two characters are the same letter or letters that stand for each other. -/
def akin (f : Folding) (x y : Nat) : Bool := (f.equivalents (f.lower x)).contains (f.lower y)

theorem same_none (x y : Nat) : same .none x y = (x == y) := rfl

theorem same_refl (f : Folding) (x : Nat) : f.same x x = true := by simp [same]

theorem akin_refl (f : Folding) (x : Nat) : f.akin x x = true := by
  cases f <;> simp [akin, equivalents]

theorem akin_of_same {f : Folding} {x y : Nat} (h : f.same x y = true) : f.akin x y = true := by
  have h : f.lower x = f.lower y := by simpa [same] using h
  have := akin_refl f x
  simpa [akin, h] using this

end Folding

end FormEngine
