import FormEngine.Parsed

/-!
Small schemas, and a host of few words, at which general statements are seen to say something.
-/

namespace FormEngine

/-- A field of a type, without anything that it may but need not have. -/
def FormField.plain (id type : String) : FormField where
  id := id
  type := type
  label := id
  placeholder := none
  description := none
  required := false
  disabled := false
  readonly := false
  defaultValue := .null
  validation := none
  conditional := none
  options := none
  min := none
  max := none
  step := none
  minLength := none
  maxLength := none
  rows := none
  maxSelections := none
  minItems := none
  maxItems := none
  accept := none
  multiple := none
  component := none
  props := none
  extra := []
  itemSchema := none
  fields := none

/-- A schema that the host made of fields. -/
def FormSchema.plain (fields : List FormField) : FormSchema :=
  ⟨"form", none, none, fields, none, none, none⟩

/-- What a schema that parses is parsed to. -/
def FormSchema.parsed (environment : Environment) (s : FormSchema) : ParsedSchema :=
  match ParsedSchema.parse environment (.loaded s) with
  | .ok parsed => parsed
  | .error _ => ⟨s, [], ⟨none, []⟩, []⟩

theorem FormSchema.parse_eq {environment : Environment} {s : FormSchema}
    (h : (ParsedSchema.parse environment (.loaded s)).isOk = true) :
    ParsedSchema.parse environment (.loaded s) = .ok (s.parsed environment) := by
  unfold FormSchema.parsed
  split
  · next parsed hp => exact hp
  · next e he =>
    rw [he] at h
    cases h

/-- A schema with one field that needs a value and one that does not. -/
def FormSchema.demanding : FormSchema :=
  .plain [{ FormField.plain "a" "text" with required := true }, .plain "b" "text"]

/-- A host all of whose functions return the same, those that are deferred after some time. -/
def Host.constant (outcome : Value) (delay : Span) : Host where
  run _ _ := { outcome := .ok outcome }
  delay _ _ := delay

end FormEngine
