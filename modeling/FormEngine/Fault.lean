import FormEngine.Value.Display

/-!
Faults by cause, and their wording. A fault of the form family also carries a category, a code and
details for a host that reports it.
-/

namespace FormEngine

/-- One step of the way from a value to a part of it. -/
inductive PathStep
  | key (name : String)
  | index (n : Nat)
  deriving DecidableEq, Repr, Inhabited

namespace PathStep

def toValue : PathStep → Value
  | .key name => .str name
  | .index n => .int n

end PathStep

/-- A complaint about the part of a value at a place. -/
structure Issue where
  place : List PathStep
  message : String
  deriving DecidableEq, Repr, Inhabited

/-- The broad kinds of faults of the form family; a host may add its own. -/
inductive Category
  | schema
  | network
  | runtime
  | other (word : String)
  deriving DecidableEq, Repr

namespace Category

def word : Category → String
  | .schema => "schema"
  | .network => "network"
  | .runtime => "runtime"
  | .other word => word

end Category

inductive Fault
  | general (message : String) (category : Category) (code : Option String)
      (details : Table Value)
  | schemaInvalid (errors : List String)
  | circularDependency (fieldId : String) (cycle : List String)
  | fieldRender (fieldId fieldType : String) (cause : Fault)
  | optionsLoad (message : String) (details : Table Value) (issues : List Issue)
  /-- data that cannot be loaded -/
  | invalid (issues : List Issue)
  /-- a text that is no regular expression -/
  | badPattern
  /-- limits out of which no rule can be made -/
  | badRule
  | typeMismatch (message : String)
  | missingAttribute (message : String)
  | missingKey (key : Value)
  | outOfRange (message : String)
  | badValue (message : String)
  | overflow (message : String)
  | runtime (message : String)
  /-- a nesting deeper than can be followed -/
  | tooDeep
  /-- a fault of a kind that belongs to the host -/
  | foreign (kind message : String)
  deriving Inhabited

namespace Fault

def message : Fault → String
  | .general message .. => message
  | .schemaInvalid errors => "Schema validation failed: " ++ ", ".intercalate errors
  | .circularDependency fieldId cycle =>
    "Circular dependency detected involving field: " ++ fieldId ++
      " (" ++ " -> ".intercalate cycle ++ ")"
  | .fieldRender fieldId _ cause => "Error rendering field " ++ fieldId ++ ": " ++ message cause
  | .optionsLoad message .. => message
  | .invalid issues => "\n".intercalate (issues.map Issue.message)
  | .badPattern => "invalid pattern"
  | .badRule => "invalid rule"
  | .typeMismatch message => message
  | .missingAttribute message => message
  | .missingKey key => key.quoted
  | .outOfRange message => message
  | .badValue message => message
  | .overflow message => message
  | .runtime message => message
  | .tooDeep => "maximum recursion depth exceeded"
  | .foreign _ message => message

/-- What is reported next to the message of a fault of the form family. -/
structure Report where
  category : Category
  code : Option String
  details : Table Value

def texts (xs : List String) : Value := .list (xs.map .str)

/-- The report of a fault of the form family, none for the others. -/
def report? : Fault → Option Report
  | .general _ category code details => some ⟨category, code, details⟩
  | .schemaInvalid errors =>
    some ⟨.schema, some "SCHEMA_VALIDATION_ERROR", [("errors", texts errors)]⟩
  | .circularDependency fieldId cycle =>
    some ⟨.schema, some "CIRCULAR_DEPENDENCY_ERROR",
      [("field_id", .str fieldId), ("cycle", texts cycle)]⟩
  | .fieldRender fieldId fieldType _ =>
    some ⟨.runtime, some "FIELD_RENDER_ERROR",
      [("field_id", .str fieldId), ("field_type", .str fieldType)]⟩
  | .optionsLoad _ details _ => some ⟨.network, some "OPTIONS_LOAD_ERROR", details⟩
  | _ => none

/-- A fault in a cycle; without a path the cycle is the field alone. -/
def circular (fieldId : String) (cycle : List String) : Fault :=
  .circularDependency fieldId (if cycle.isEmpty then [fieldId] else cycle)

end Fault

end FormEngine
