import FormEngine.Fault

/-!
Results of loading that gather all complaints: parts are loaded side by side, and the complaints of
each are kept in the order of the parts.
-/

namespace FormEngine

inductive Checked (α : Type)
  | ok (a : α)
  | failed (issues : List Issue)
  deriving Inhabited

namespace Checked

variable {α β : Type}

def fail (message : String) : Checked α := .failed [⟨[], message⟩]

def issues : Checked α → List Issue
  | .ok _ => []
  | .failed is => is

def toOption : Checked α → Option α
  | .ok a => some a
  | .failed _ => none

def toExcept : Checked α → Except Fault α
  | .ok a => .ok a
  | .failed is => .error (.invalid is)

def map (f : α → β) : Checked α → Checked β
  | .ok a => .ok (f a)
  | .failed is => .failed is

/-- Both parts; when one or both fail, the complaints of the first stand before the others. -/
def apply (f : Checked (α → β)) (x : Checked α) : Checked β :=
  match f, x with
  | .ok f, .ok a => .ok (f a)
  | .ok _, .failed is => .failed is
  | .failed is, .ok _ => .failed is
  | .failed is, .failed js => .failed (is ++ js)

instance : Applicative Checked where
  pure := .ok
  map f x := x.map f
  seq f x := f.apply (x ())

/-- The complaints are about a part at a step from here. -/
def under (step : PathStep) : Checked α → Checked α
  | .ok a => .ok a
  | .failed is => .failed (is.map fun i => { i with place := step :: i.place })

/-- A part under a key. -/
def underKey (key : String) (x : Checked α) : Checked α := x.under (.key key)

/-- The elements from a position on. -/
def items (load : α → Checked β) : Nat → List α → Checked (List β)
  | _, [] => .ok []
  | n, x :: xs => List.cons <$> (load x).under (.index n) <*> items load (n + 1) xs

/-- The values of a table. -/
def entries (load : α → Checked β) : Table α → Checked (Table β)
  | [] => .ok []
  | (key, x) :: rest =>
    (fun y ys => (key, y) :: ys) <$> (load x).underKey key <*> entries load rest

end Checked

end FormEngine
