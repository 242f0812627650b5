import FormEngine.Fault
import FormEngine.Value.Equality

/-!
The operators of conditional rules, by the words that schemas use.
-/

namespace FormEngine

inductive Operator
  | equals
  | notEquals
  | contains
  | notContains
  | greaterThan
  | lessThan
  | greaterOrEqual
  | lessOrEqual
  | memberOf
  | notMemberOf
  | isEmpty
  | isNotEmpty
  | custom
  deriving DecidableEq, Repr

namespace Operator

def all : List Operator := [
  .equals, .notEquals, .contains, .notContains, .greaterThan, .lessThan, .greaterOrEqual,
  .lessOrEqual, .memberOf, .notMemberOf, .isEmpty, .isNotEmpty, .custom]

def word : Operator → String
  | .equals => "equals"
  | .notEquals => "not_equals"
  | .contains => "contains"
  | .notContains => "not_contains"
  | .greaterThan => "greater_than"
  | .lessThan => "less_than"
  | .greaterOrEqual => "greater_or_equal"
  | .lessOrEqual => "less_or_equal"
  | .memberOf => "in"
  | .notMemberOf => "not_in"
  | .isEmpty => "is_empty"
  | .isNotEmpty => "is_not_empty"
  | .custom => "custom"

def ofWord? (word : String) : Option Operator := all.find? fun o => o.word == word

theorem ofWord?_eq_some {word : String} {o : Operator} : ofWord? word = some o ↔ word = o.word := by
  constructor
  · intro h
    have same := List.find?_some h
    exact (beq_iff_eq.mp same).symm
  · rintro rfl
    cases o <;> rfl

/-- Longer words for an operator are replaced by its own; other words stay as they are. -/
def canonicalWord (word : String) : String :=
  if word = "greater_than_or_equal" then greaterOrEqual.word
  else if word = "less_than_or_equal" then lessOrEqual.word
  else word

/-- A value in the place of an operator. What is no word stays as it is, if it can be looked up. -/
def canonical (v : Value) : Except Fault Value :=
  match v with
  | .str word => .ok (.str (canonicalWord word))
  | v => if v.hashable then .ok v else .error (.typeMismatch s!"unhashable type: '{v.kindName}'")

end Operator

end FormEngine
