import FormEngine.Rule.Compile
import FormEngine.Schema.Wellformed

/-!
A schema ready for use: well formed, without cyclic dependencies, its rules compiled.
-/

namespace FormEngine

structure ParsedField where
  field : FormField
  dependencies : List String
  conditionalRules : List ConditionalRule
  rule : Option FieldRule

namespace ParsedField

def id (p : ParsedField) : String := p.field.id

def type (p : ParsedField) : String := p.field.type

end ParsedField

structure ParsedSchema where
  schema : FormSchema
  fields : List ParsedField
  rules : FormRules
  dependencies : DependencyGraph

namespace ParsedSchema

def field? (s : ParsedSchema) (id : String) : Option ParsedField :=
  s.fields.find? fun p => p.id == id

/-- The schema with another default for a field. -/
def withDefault (s : ParsedSchema) (id : String) (v : Value) : ParsedSchema :=
  { s with fields := s.fields.map fun p =>
      if p.id == id then { p with field.defaultValue := v } else p }

def fieldIds (s : ParsedSchema) : List String := s.fields.map ParsedField.id

def conditionalRules (s : ParsedSchema) : List ConditionalRule :=
  s.fields.flatMap ParsedField.conditionalRules

/-- Puts together what was found out about each field. -/
def assemble (s : FormSchema) (dependencies : DependencyGraph) (rules : FormRules) : ParsedSchema :=
  let parsed := fun (f : FormField) =>
    ParsedField.mk f (dependencies.dependenciesOf f.id) f.conditionalRules (rules.fields.get? f.id)
  ⟨s, s.fields.map parsed, rules, dependencies⟩

/-- Parses a schema; one with errors is refused with all of them. -/
def parse (environment : Environment) (source : SchemaSource) : Except Fault ParsedSchema := do
  let report := source.report environment
  match report.schema, report.isValid with
  | some s, true =>
    let dependencies ← DependencyGraph.resolve s
    return assemble s dependencies (← FormRules.compile s)
  | _, _ => throw (.schemaInvalid report.errors)

end ParsedSchema

/-- What can be given as the schema of a form: one that was parsed before, or one to be parsed. -/
inductive SchemaInput
  | parsed (schema : ParsedSchema)
  | unparsed (source : SchemaSource)

namespace SchemaInput

/-- The schema, parsed if it was not. -/
def parse (environment : Environment) : SchemaInput → Except Fault ParsedSchema
  | .parsed schema => .ok schema
  | .unparsed source => ParsedSchema.parse environment source

end SchemaInput

end FormEngine
