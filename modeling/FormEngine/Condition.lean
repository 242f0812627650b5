import FormEngine.Schema.Model
import FormEngine.Value.Order

/-!
Conditions: whether a rule holds for the values of a form, and what the rules of a field make of it.
Values that cannot be compared make a rule fail, and so does a predicate that raises.
-/

namespace FormEngine

/-- What the conditions of a field make of it. -/
structure FieldState where
  visible : Bool := true
  enabled : Bool := true
  required : Bool := false
  deriving DecidableEq, Repr, Inhabited

/-- Whether one text occurs in another. -/
def occursInText (needle : List Char) : List Char → Bool
  | [] => needle.isEmpty
  | c :: rest => needle.isPrefixOf (c :: rest) || occursInText needle rest

namespace Operator

/-- A text contains the text of a value, a collection an equal element, anything else nothing. -/
def contains? (actual expected : Value) : Option Bool :=
  match actual.text? with
  | some s => some (occursInText expected.display.toList s.toList)
  | none => if actual.elements?.isSome then expected.occursIn? actual else some false

def memberOf? (actual expected : Value) : Option Bool :=
  if expected.elements?.isSome then actual.occursIn? expected else some false

/-- The outcome of a comparison, none when the two values cannot be compared. -/
def compare? (o : Operator) (actual expected : Value) : Option Bool :=
  match o with
  | .equals => some (actual.equal expected)
  | .notEquals => some (!actual.equal expected)
  | .contains => contains? actual expected
  | .notContains => (contains? actual expected).map (!·)
  | .greaterThan => expected.less? actual
  | .lessThan => actual.less? expected
  | .greaterOrEqual => expected.lessEqual? actual
  | .lessOrEqual => actual.lessEqual? expected
  | .memberOf => memberOf? actual expected
  | .notMemberOf => (memberOf? actual expected).map (!·)
  | .isEmpty => some actual.isEmpty
  | .isNotEmpty => some (!actual.isEmpty)
  | .custom => none

end Operator

namespace ConditionalRule

/-- Asks the predicate of a rule. -/
def ask (host : Host) (r : ConditionalRule) (actual : Value) (values : Table Value) :
    Logged Bool :=
  match r.predicate with
  | none => pure false
  | some f => do
    match ← host.call f [actual, .record values] with
    | .ok outcome => return outcome.truthy
    | .error _ => return false

/-- Whether a rule holds; one with an unknown operator does not. -/
def evaluate (host : Host) (r : ConditionalRule) (values : Table Value) : Logged Bool :=
  let actual := Value.entry values r.field
  match r.operator.bind Operator.ofWord? with
  | none => pure false
  | some .custom => r.ask host actual values
  | some o => pure ((o.compare? actual r.value).getD false)

end ConditionalRule

namespace Conditions

/-- Whether all rules hold; those after the first that fails are not evaluated. -/
def allHold (host : Host) (values : Table Value) : List ConditionalRule → Logged Bool
  | [] => pure true
  | r :: rs => do if ← r.evaluate host values then allHold host values rs else return false

/-- Whether some rule holds; those after it are not evaluated. -/
def someHolds (host : Host) (values : Table Value) : List ConditionalRule → Logged Bool
  | [] => pure false
  | r :: rs => do if ← r.evaluate host values then return true else someHolds host values rs

/-- All rules of one effect hold, and none of the opposite one. -/
def admits (host : Host) (values : Table Value) (wanted unwanted : List ConditionalRule) :
    Logged Bool := do
  if ← allHold host values wanted then return !(← someHolds host values unwanted)
  else return false

end Conditions

namespace FieldAttributes

/-- The state of a field for the values of its form. -/
def state (host : Host) (f : FieldAttributes) (values : Table Value) : Logged FieldState :=
  match f.conditional with
  | none => pure { required := f.isRequired }
  | some c => do
    let visible ← Conditions.admits host values (c.rules .shows) (c.rules .hides)
    let enabled ← Conditions.admits host values (c.rules .enables) (c.rules .disables)
    let required ←
      if f.isRequired then pure true else Conditions.someHolds host values (c.rules .requires)
    return ⟨visible, enabled, required⟩

end FieldAttributes

end FormEngine
