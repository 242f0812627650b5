import FormEngine.Value.Basic

/-!
Equality of values. Numbers are equal when they are the same number, whatever their kind; records
are compared without order. Inside a collection a NaN is the same as itself, on its own it equals
nothing.
-/

namespace FormEngine

namespace Value

/-- Values without parts: the same text, the same number or the same NaN. -/
def sameScalar (a b : Value) : Bool :=
  match a, b with
  | .null, .null => true
  | .float (.nan p), .float (.nan q) => p == q
  | _, _ =>
    match a.text?, b.text? with
    | some s, some t => s == t
    | _, _ =>
      match a.number?, b.number? with
      | some x, some y => decide (x = y)
      | _, _ => false

mutual

/-- Whether two values are one and the same or equal. -/
def same : Value → Value → Bool
  | .list xs, .list ys => sameItems xs ys
  | .tuple xs, .tuple ys => sameItems xs ys
  | .set xs, .set ys => xs.length == ys.length && within xs ys
  | .record xs, .record ys => xs.length == ys.length && sameEntries xs ys
  | .mapping xs, .mapping ys => xs.length == ys.length && samePairs xs ys
  | .entity kind key d, .entity kind' key' d' => kind == kind' && key == key' && same d d'
  | a, b => sameScalar a b
termination_by structural a => a

def sameItems : List Value → List Value → Bool
  | [], [] => true
  | x :: xs, y :: ys => same x y && sameItems xs ys
  | _, _ => false
termination_by structural xs => xs

/-- Whether each element occurs in the other collection. -/
def within : List Value → List Value → Bool
  | [], _ => true
  | x :: xs, ys => ys.any (fun y => same x y) && within xs ys
termination_by structural xs => xs

def sameEntries : List (String × Value) → List (String × Value) → Bool
  | [], _ => true
  | e :: es, ys => sameEntry e ys && sameEntries es ys
termination_by structural xs => xs

def sameEntry : String × Value → List (String × Value) → Bool
  | (key, x), ys => ys.any fun e => e.1 == key && same x e.2
termination_by structural e => e

def samePairs : List (Value × Value) → List (Value × Value) → Bool
  | [], _ => true
  | p :: ps, qs => samePair p qs && samePairs ps qs
termination_by structural xs => xs

def samePair : Value × Value → List (Value × Value) → Bool
  | (key, x), qs => qs.any fun q => same key q.1 && same x q.2
termination_by structural p => p

end

/-- Equality of two values on their own. -/
def equal (a b : Value) : Bool :=
  match a, b with
  | .float (.nan _), _ => false
  | _, _ => same a b

def memberOf (x : Value) (xs : List Value) : Bool := xs.any fun y => same x y

mutual

/-- Whether a value can be looked up in a set. -/
def hashable : Value → Bool
  | .list _ => false
  | .set _ => false
  | .record _ => false
  | .mapping _ => false
  | .tuple xs => allHashable xs
  | .entity kind _ _ => kind != .rule && kind != .field
  | _ => true
termination_by structural v => v

def allHashable : List Value → Bool
  | [] => true
  | x :: xs => hashable x && allHashable xs
termination_by structural xs => xs

end

/-- Membership; looking up in a set what cannot be in one has no answer, unless it is a set. -/
def occursIn? (x container : Value) : Option Bool :=
  match container with
  | .list ys => some (memberOf x ys)
  | .tuple ys => some (memberOf x ys)
  | .set ys =>
    match x with
    | .set _ => some false
    | _ => if x.hashable then some (memberOf x ys) else none
  | _ => none

/-- Puts a value in the place of the key, or at the end when the key is new. -/
def putPair : List (Value × Value) → Value → Value → List (Value × Value)
  | [], key, x => [(key, x)]
  | (k, y) :: rest, key, x =>
    if same k key then (k, x) :: rest else (k, y) :: putPair rest key x

/-- The record of some pairs; a later value for a key takes the place of the earlier one. -/
def ofPairs (pairs : List (Value × Value)) : Value :=
  let kept := pairs.foldl (fun kept p => putPair kept p.1 p.2) []
  match kept.mapM fun p => p.1.text?.map fun key => (key, p.2) with
  | some entries => .record entries
  | none => .mapping kept

/-- The value of a record under a key of any kind. -/
def pairAt? (pairs : List (Value × Value)) (key : Value) : Option Value :=
  (pairs.find? fun p => same p.1 key).map Prod.snd

/-- A set from its elements, each kept once. -/
def setOf (xs : List Value) : Value :=
  .set (xs.foldl (fun kept x => if memberOf x kept then kept else kept ++ [x]) [])

end Value

end FormEngine
