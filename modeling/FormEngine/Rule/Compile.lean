import FormEngine.Rule.Basic
import FormEngine.Schema.Model

/-!
The rules of a form: one for each field, from its explicit rule or else from its type and limits, and
one for the whole form if the schema declares it.
-/

namespace FormEngine

namespace FieldType

/-- The base of the rule for a type; types that are not built in have none. -/
def ruleBase (tag : String) : String :=
  match ofTag? tag with
  | none => "any"
  | some t =>
    match t with
    | .text | .password | .textarea | .color => "string"
    | .email => "email"
    | .select => "scalar"
    | .number | .slider | .rating => "number"
    | .checkbox | .switch => "boolean"
    | .date => "date"
    | .time => "time"
    | .datetime => "datetime"
    | .multiselect | .array => "list"
    | .object => "record"
    | .radio | .file | .custom => "any"

end FieldType

namespace FieldRule

/-- A limit without fraction is kept as an integer. -/
def bound (x : Option Binary64) : Value :=
  match x with
  | none => .null
  | some x =>
    match x.toInt? with
    | some i => .int i
    | none => .float x

def length (i : Option Int) : Value := i.elim .null .int

/-- The regular expression that a field declares; an empty one counts as none. -/
def regexOf (f : FormField) : Value :=
  match f.validation.bind FieldValidation.regex with
  | some s => if s.isEmpty then .null else .str s
  | none => .null

/-- The constraints that a field declares and that bear on its base. -/
def constraintsOf (f : FormField) (base : String) : Table Value :=
  let declared : Table Value :=
    if base = "string" ∨ base = "email" then
      [("min_length", length f.minLength), ("max_length", length f.maxLength), ("regex", regexOf f)]
    else if f.type = FieldType.rating.tag then [("ge", .int 0), ("le", bound f.max)]
    else if base = "number" then [("ge", bound f.min), ("le", bound f.max)]
    else if f.type = FieldType.multiselect.tag then [("max_length", length f.maxSelections)]
    else if f.type = FieldType.array.tag then
      [("min_length", length f.minItems), ("max_length", length f.maxItems)]
    else []
  declared.filter fun e => !e.2.isNull

/-- The description of a rule that the host has made itself. -/
def hostDescription (entries : Table Value) : RuleDescription where
  fieldId := ((Value.entry entries "field_id").text?).getD ""
  base := ((Value.entry entries "base").text?).getD "any"
  required := (Value.entry entries "required").truthy
  constraints := ((Value.entry entries "constraints").record?).getD []
  explicit := Value.entry entries "explicit"
  checkPresence := (Value.entry entries "check_presence").truthy

/-- Whether a rule with some arguments is made without a look at the constraints. -/
def ignoresConstraints (entries : Table Value) : Bool :=
  let base := (hostDescription entries).base
  !(Value.entry entries "explicit").isNull ||
    !(["string", "email", "number", "list"].contains base)

/-- The rule that the host makes with some arguments: a field has to be named, and there are no
arguments but those that a description has. -/
def ofHost (entries : Table Value) : Except Fault FieldRule :=
  let known := ["field_id", "base", "required", "constraints", "explicit", "check_presence"]
  if !Table.has entries "field_id" || !(entries.keys.all fun key => known.contains key) then
    .error (.typeMismatch "wrong arguments for a rule")
  else if Table.has entries "constraints" && (Value.entry entries "constraints").record?.isNone &&
      !ignoresConstraints entries then
    .error (.missingAttribute "get")
  else make (hostDescription entries)

/-- The description of a rule made by the host, if a value is one. -/
def hostRule? : Value → Option RuleDescription
  | .entity .rule _ (.record entries) => some (hostDescription entries)
  | _ => none

def describe (f : FormField) : RuleDescription :=
  let explicit := f.validation.elim .null FieldValidation.rule
  match hostRule? explicit with
  | some d => d
  | none =>
    if explicit.isNull then
      let base := FieldType.ruleBase f.type
      { fieldId := f.id, base, required := f.isRequired, constraints := constraintsOf f base }
    else { fieldId := f.id, required := f.isRequired, explicit, checkPresence := true }

/-- The rule for the values of one field. -/
def compile (f : FormField) : Except Fault FieldRule := make (describe f)

/-- The description of the rule for all values together, if the schema has one. -/
def describeGlobal? (s : FormSchema) : Option RuleDescription :=
  let rule := s.validation.elim .null GlobalValidation.rule
  if rule.isNull then none
  else some ((hostRule? rule).getD { fieldId := "_form", explicit := rule })

end FieldRule

structure FormRules where
  globalRule : Option FieldRule
  fields : Table FieldRule

namespace FormRules

def compile (s : FormSchema) : Except Fault FormRules := do
  let globalRule ← (FieldRule.describeGlobal? s).mapM FieldRule.make
  let fields ← s.fields.mapM fun f => do return (f.id, ← FieldRule.compile f)
  return ⟨globalRule, Table.ofEntries fields⟩

end FormRules

end FormEngine
