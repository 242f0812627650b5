import FormEngine.Value.Equality

/-!
Order of values. Numbers are ordered as numbers, texts by code points, lists and tuples by their
first difference, sets by inclusion. Values of unlike kinds have no order at all.
-/

namespace FormEngine

/-- How two values that can be ordered lie to each other. -/
inductive Relation
  | less
  | equal
  | greater
  | incomparable
  deriving DecidableEq, Repr

namespace Relation

def ofOrdering : Ordering → Relation
  | .lt => .less
  | .eq => .equal
  | .gt => .greater

end Relation

namespace Value

/-- Two numbers; a NaN can be ordered but lies nowhere. -/
def relateNumbers? (a b : Value) : Option Relation :=
  if a.isNumber && b.isNumber then
    match a.number?, b.number? with
    | some x, some y => some (.ofOrdering (x.compare y))
    | _, _ => some .incomparable
  else none

def relateTexts (s t : String) : Relation :=
  if s < t then .less else if s = t then .equal else .greater

mutual

/-- The relation of two values, none when they cannot be ordered. -/
def relate? : Value → Value → Option Relation
  | .list xs, .list ys => relateItems? xs ys
  | .tuple xs, .tuple ys => relateItems? xs ys
  | .set xs, .set ys =>
    some <|
      match within xs ys, within ys xs with
      | true, true => .equal
      | true, false => .less
      | false, true => .greater
      | false, false => .incomparable
  | a, b =>
    match a.text?, b.text? with
    | some s, some t => some (relateTexts s t)
    | _, _ => relateNumbers? a b
termination_by structural a => a

/-- The first two elements that differ decide; without one the shorter comes first. -/
def relateItems? : List Value → List Value → Option Relation
  | [], [] => some .equal
  | [], _ :: _ => some .less
  | _ :: _, [] => some .greater
  | x :: xs, y :: ys => if same x y then relateItems? xs ys else relate? x y
termination_by structural xs => xs

end

def less? (a b : Value) : Option Bool := (a.relate? b).map (· == .less)

def lessEqual? (a b : Value) : Option Bool :=
  (a.relate? b).map fun r => r == .less || r == .equal

end Value

end FormEngine
