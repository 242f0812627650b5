import FormEngine.Number.Word
import FormEngine.Pattern.Reader
import FormEngine.Pattern.Search
import FormEngine.Rule.Email
import FormEngine.Rule.Explicit
import FormEngine.Schema.FieldType

/-!
Validation rules. A rule is made from a description, which can be compared and shown, and has a shape
that values are held against. Emptiness is decided before, in one of three ways: a derived rule that
requires a value refuses empty ones, any other derived rule turns them into null and lets null pass,
and a rule made from an explicit one can look for them itself.
-/

namespace FormEngine

/-- What a rule was made from. -/
structure RuleDescription where
  fieldId : String
  base : String := "any"
  required : Bool := false
  constraints : Table Value := []
  /-- a type given in place of a base, null when there is none -/
  explicit : Value := .null
  /-- whether an explicit rule leaves empty values to `required` -/
  checkPresence : Bool := false

inductive Shape
  | anything
  | text (least most : Option Nat) (email : Bool) (pattern : Option Pattern)
  | number (least most : Option Binary64)
  | boolean
  | scalar
  | date
  | time
  | moment
  | list (least most : Option Nat)
  | record
  | explicit (r : ExplicitRule)

structure FieldRule where
  description : RuleDescription
  shape : Shape

def requiredMessage : String := "This field is required"

namespace Shape

/-- The limit of a length: a whole number of less than 65 bits, unless it is null. -/
def lengthLimit (v : Value) : Except Fault (Option Nat) :=
  if v.isNull then .ok none else some <$> Datatype.lengthBound v

/-- The limit of a number, as a double. -/
def numberLimit (v : Value) : Except Fault (Option Binary64) :=
  if v.isNull then .ok none else some <$> Datatype.doubleBound v

def pattern (v : Value) : Except Fault (Option Pattern) :=
  if !v.truthy then .ok none
  else
    match v.text? with
    | some s => some <$> Pattern.read s
    | none => .error (.typeMismatch "first argument must be string or compiled pattern")

def ofText (email : Bool) (constraints : Table Value) : Except Fault Shape := do
  let pattern ← pattern (Value.entry constraints "regex")
  let least ← lengthLimit (Value.entry constraints "min_length")
  let most ← lengthLimit (Value.entry constraints "max_length")
  return .text least most email pattern

/-- The shape for a base; constraints that do not bear on the base are ignored. -/
def ofBase (base : String) (constraints : Table Value) : Except Fault Shape :=
  match base with
  | "string" => ofText false constraints
  | "email" => ofText true constraints
  | "number" => do
    return .number (← numberLimit (Value.entry constraints "ge"))
      (← numberLimit (Value.entry constraints "le"))
  | "boolean" => .ok .boolean
  | "scalar" => .ok .scalar
  | "date" => .ok .date
  | "time" => .ok .time
  | "datetime" => .ok .moment
  | "list" => do
    return .list (← lengthLimit (Value.entry constraints "min_length"))
      (← lengthLimit (Value.entry constraints "max_length"))
  | "record" => .ok .record
  | _ => .ok .anything

/-- Lengths first, then the form of an address, then the pattern; the first complaint stands. -/
def textIssue? (least most : Option Nat) (email : Bool) (pattern : Option Pattern) (s : String) :
    Option String :=
  let form := if email && !Email.accepts s then some "Invalid email address" else none
  let match? := pattern.bind fun p => if p.occursIn s then none else some "Invalid format"
  ((Limits.textIssue? least most s).or form).or match?

/-- A number, but no truth value, that a double is near to. -/
def double? : Value → Option Binary64
  | .int i =>
    let x := Binary64.ofInt i
    if x.isFinite then some x else none
  | .float x => some x
  | _ => none

def numberIssue? (least most : Option Binary64) (x : Binary64) : Option String :=
  Limits.numberIssue? (least.elim .null .float) (most.elim .null .float) (.float x)

def scalarIssues (v : Value) : List Issue :=
  let isScalar := v.text?.isSome || v.isNumber
  if isScalar then []
  else [
    ⟨[.key "str"], "Input should be a valid string"⟩,
    ⟨[.key "int"], "Input should be a valid integer"⟩,
    ⟨[.key "float"], "Input should be a valid number"⟩]

/-- A list is short before it is long; of other collections it is told the other way round. -/
def listIssue? (least most : Option Nat) (v : Value) : Option String :=
  match v, v.elements? with
  | .list xs, _ =>
    (Limits.underfull? "List" least xs.length).or (Limits.overfull? "List" most xs.length)
  | _, some xs =>
    (Limits.overfull? "List" most xs.length).or (Limits.underfull? "List" least xs.length)
  | _, none => some "Input should be a valid list"

/-- What is said of a value that is there. -/
def verdict (shape : Shape) (v : Value) : Verdict :=
  match shape with
  | .anything => .issues []
  | .text least most email pattern =>
    match v.text? with
    | some s => .sayIf (textIssue? least most email pattern s)
    | none => .say "Input should be a valid string"
  | .number least most =>
    match double? v with
    | some x => .sayIf (numberIssue? least most x)
    | none => .say "Input should be a valid number"
  | .boolean =>
    match v with
    | .bool _ => .issues []
    | _ => .say "Input should be a valid boolean"
  | .scalar => .issues (scalarIssues v)
  | .date => .sayIf (Calendar.dateIssue? v)
  | .time => .sayIf (Calendar.timeIssue? v)
  | .moment => .sayIf (Calendar.momentIssue? v)
  | .list least most => .sayIf (listIssue? least most v)
  | .record => .ofReading ((Datatype.recordOf Datatype.plainText .anything).read v)
  | .explicit r => r.verdict v

end Shape

/-- A shape with what is done before values are held against it. -/
inductive Guarded
  | shape (s : Shape)
  /-- null passes -/
  | nullable (g : Guarded)
  /-- values are made ready first, or refused with a message -/
  | before (prepare : Value → Except String Value) (g : Guarded)

namespace Guarded

def verdict : Guarded → Value → Verdict
  | .shape s, v => s.verdict v
  | .nullable g, v => if v.isNull then .issues [] else g.verdict v
  | .before prepare g, v =>
    match prepare v with
    | .ok ready => g.verdict ready
    | .error message => .say message

def rejectEmpty (v : Value) : Except String Value :=
  if v.isEmpty then .error requiredMessage else .ok v

def emptyToNull (v : Value) : Except String Value :=
  .ok (if v.isEmpty then .null else v)

/-- The shape for values that are required, or for values that can be left out. -/
def ofShape (s : Shape) (required : Bool) : Guarded :=
  if required then .before rejectEmpty (.shape s)
  else .before emptyToNull (.nullable (.shape s))

end Guarded

namespace FieldRule

/-- Makes a rule, unless its limits, pattern or type make none. -/
def make (d : RuleDescription) : Except Fault FieldRule := do
  if d.explicit.isNull then return ⟨d, ← Shape.ofBase d.base d.constraints⟩
  else return ⟨d, .explicit (← ExplicitRule.ofValue d.explicit)⟩

/-- What values are held against; an explicit rule stands as it is given. -/
def guarded (r : FieldRule) : Guarded :=
  if r.description.explicit.isNull then .ofShape r.shape r.description.required
  else .shape r.shape

/-- What a rule says of a value. -/
def verdict (r : FieldRule) (v : Value) : Verdict :=
  if r.description.checkPresence && v.isEmpty then
    if r.description.required then .say requiredMessage else .issues []
  else r.guarded.verdict v

/-- The complaints about a value, which a function of the host may have to settle. -/
def violations (host : Host) (r : FieldRule) (v : Value) : Logged (Except Fault (List Issue)) :=
  (r.verdict v).settle host

/-- Each text once, where it first stands. -/
def distinct (texts : List String) : List String :=
  texts.foldl (fun kept t => if kept.contains t then kept else kept ++ [t]) []

/-- The distinct messages of the violations. -/
def check (host : Host) (r : FieldRule) (v : Value) : Logged (Except Fault (List String)) := do
  return (← r.violations host v).map fun found => distinct (found.map Issue.message)

end FieldRule

end FormEngine
