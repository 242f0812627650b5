import FormEngine.Condition
import FormEngine.Host.Construct
import FormEngine.Parsed
import FormEngine.Render.Renderer

/-!
The state of a form: its values, complaints and flags, the snapshot that a reset restores, and what
the conditions make of each field. Values resolve against defaults: a default stands in for a key
that is missing. Only the fields that depend on a changed one are looked at again.
-/

namespace FormEngine

/-- Messages by field. -/
abbrev Complaints := Table (List String)

/-- The key for complaints about the form as a whole. -/
def formKey : String := "_form"

structure FormState where
  values : Table Value := []
  errors : Complaints := []
  touched : List String := []
  isSubmitting : Bool := false
  isValid : Bool := true
  isDirty : Bool := false
  hasSubmitted : Bool := false

/-- What happens to a form in the course of a run. -/
inductive Milestone
  | committed (ids : List String)
  /-- a check that failed kept committed fields from being reconsidered -/
  | cutShort (ids : List String)
  | reseeded
  | unmounted
  /-- all was checked, and what was found was filed -/
  | validated
  /-- an inquiry about the value of a field was opened -/
  | inquired (id : Nat) (field : String) (value : Value)
  /-- the first rule of an inquiry is asked about a value, while the form holds another or the same -/
  | asked (id : Nat) (field : String) (value current : Value)
  /-- an inquiry about a value makes its complaints the form's own -/
  | complained (id : Nat) (field : String) (value current : Value)
  /-- a submission was accepted, in some epoch -/
  | accepted (id epoch : Nat)
  /-- the values of a submission are handed to the application -/
  | handed (id : Nat) (values : Table Value)
  | ended (id epoch : Nat)
  /-- the application is called back, while the form says that a submission is under way or not -/
  | calledBack (submitting : Bool)

structure Form where
  parsed : ParsedSchema
  /-- the values that a reset restores -/
  snapshot : Table Value
  state : FormState := {}
  fieldStates : Table FieldState := []
  mounted : Bool := false
  /-- whether values of the store are being taken over -/
  syncing : Bool := false
  /-- the number of the latest validation of a field that may have an effect -/
  generations : Table Nat := []
  /-- the fields whose values were put in since their latest validation began -/
  replaced : List String := []
  /-- how many times the state was made anew -/
  epoch : Nat := 0
  submitFault : Option Fault := none
  /-- the complaints of each validation that is still being reported: none while they are the form's
  own, else as they stood when others took their place -/
  reported : List (Option Complaints) := []
  /-- what has happened so far, the latest first; nothing that a form does depends on it -/
  journal : List Milestone := []

namespace Form

/-- Takes note of a milestone. -/
def mark (m : Milestone) (f : Form) : Form := { f with journal := m :: f.journal }

/-- The entries of a record under keys that are texts. -/
def namedEntries (v : Value) : Table Value :=
  (v.pairs?.getD []).filterMap fun e => e.1.text?.map fun key => (key, e.2)

/-- The entries of a record; what is no text is known by the text that shows it. -/
def entriesOf (v : Value) : Table Value :=
  Table.ofEntries ((v.pairs?.getD []).map fun e => (e.1.text?.getD e.1.display, e.2))

/-- The values that a form is given to begin with, as a record or as pairs; there may be none. -/
def initialValues (v : Value) : Except Fault (Table Value) :=
  if v.truthy then (Construct.record v).map entriesOf else .ok []

/-- The values with the declared defaults for the missing ones. -/
def resolved (f : Form) : Table Value :=
  let defaults := f.parsed.fields.filterMap fun p =>
    if p.field.defaultValue.isNull then none else some (p.id, p.field.defaultValue)
  Table.merge (Table.ofEntries defaults) f.state.values

def value (f : Form) (id : String) : Value := Value.entry f.state.values id

def fieldState (f : Form) (id : String) : FieldState := (f.fieldStates.get? id).getD {}

def isVisible (f : Form) (id : String) : Bool := (f.fieldState id).visible

/-- Whether a key names a field that is shown. -/
def hasVisible (f : Form) (key : String) : Bool := (f.parsed.field? key).isSome && f.isVisible key

/-- Other complaints take the place of the present ones. -/
def replaceErrors (f : Form) (errors : Complaints) : Form :=
  { f with
    reported := f.reported.map fun r => r.or (some f.state.errors)
    state.errors := errors }

/-- No validation that is under way has an effect any more. -/
def supersedeAll (f : Form) : Form :=
  { f with generations := f.generations.map fun e => (e.1, e.2 + 1) }

/-- Evaluates the conditions of all fields. -/
def evaluateAll (host : Host) (f : Form) : Logged Form := do
  let states ← f.parsed.fields.mapM fun p =>
    do return (p.id, ← p.field.state host f.resolved)
  return { f with fieldStates := Table.ofEntries states }

/-- Makes the state anew from the snapshot. -/
def seed (host : Host) (f : Form) : Logged Form :=
  let f := ((f.replaceErrors []).supersedeAll).mark .reseeded
  evaluateAll host { f with state := { values := f.snapshot }, epoch := f.epoch + 1 }

/-- A form for a schema, with an initial snapshot. -/
def start (host : Host) (parsed : ParsedSchema) (snapshot : Table Value) : Logged Form :=
  seed host { parsed, snapshot }

def setSchema (host : Host) (parsed : ParsedSchema) (f : Form) : Logged Form :=
  seed host { f with parsed := parsed }

/-- Replaces the snapshot, and the state with it, unless the snapshot equals the present one. -/
def setSnapshot (host : Host) (snapshot : Table Value) (f : Form) : Logged Form :=
  if (Value.record snapshot).equal (.record f.snapshot) then pure f
  else seed host { f with snapshot := snapshot }

/-- The fields that depend on one of some others, each once. -/
def dependents (f : Form) (ids : List String) : List String :=
  distinctIds (ids.flatMap f.parsed.dependencies.dependents.dependenciesOf)

def evaluateField (host : Host) (values : Table Value) (f : Form) (id : String) : Logged Form :=
  match f.parsed.field? id with
  | none => pure f
  | some p => do
    let state ← p.field.state host values
    return { f with fieldStates := f.fieldStates.put id state }

/-- Evaluates the conditions of the fields that depend on changed ones. -/
def refresh (host : Host) (changed : List String) (f : Form) : Logged Form :=
  (f.dependents changed).foldlM (evaluateField host f.resolved) f

/-- Puts changes into the values; the complaints about the changed fields are dropped. -/
def put (changes : Table Value) (f : Form) : Form :=
  let values := Table.merge f.state.values changes
  let errors := changes.keys.foldl Table.drop f.state.errors
  let isDirty := !(Value.record values).equal (.record f.snapshot)
  let replaced := f.replaced.filter (fun id => !changes.has id) ++ changes.keys
  { f.mark (.committed changes.keys) with
    state := { f.state with values, errors, isDirty }, replaced }

/-- A value that is altered in place stays where it is: among the values of the form, or else as the
declared default. -/
def amend (id : String) (v : Value) (f : Form) : Form :=
  if f.state.values.has id then { f with state.values := f.state.values.put id v }
  else { f with parsed := f.parsed.withDefault id v }

def setErrors (id : String) (messages : List String) (f : Form) : Form :=
  { f with state.errors :=
      if messages.isEmpty then f.state.errors.drop id else f.state.errors.put id messages }

def touch (id : String) (f : Form) : Form :=
  { f with state.touched :=
      if f.state.touched.contains id then f.state.touched else f.state.touched ++ [id] }

def isTouched (f : Form) (id : String) : Bool := f.state.touched.contains id

/-- Complaints are shown once a field is touched or the form was submitted. -/
def showsError (f : Form) (id : String) : Bool :=
  !((f.state.errors.get? id).getD []).isEmpty && (f.isTouched id || f.state.hasSubmitted)

/-- Whether a field lacks a value; a switch that is off lacks one. -/
def lacks (p : ParsedField) (v : Value) : Bool :=
  v.isEmpty || FieldType.isBoolean p.type &&
    match v with
    | .bool b => !b
    | _ => false

/-- Whether every field that is shown and required has a value. -/
def isComplete (f : Form) : Bool :=
  f.parsed.fields.all fun p =>
    let state := f.fieldState p.id
    !(state.visible && state.required && lacks p (Value.entry f.resolved p.id))

/-- The light check of validity: nothing to complain about, and nothing required is missing. -/
def checkValidity (f : Form) : Form :=
  { f with state.isValid := f.state.errors.isEmpty && f.isComplete }

/-- The known fields whose values differ from given ones. -/
def differing (f : Form) (values : Table Value) : Table Value :=
  values.filter fun e =>
    f.parsed.fieldIds.contains e.1 &&
      match f.state.values.get? e.1 with
      | some v => !v.equal e.2
      | none => true

/-- Begins a validation of a field, which supersedes those before it. -/
def nextGeneration (id : String) (f : Form) : Nat × Form :=
  let generation := (f.generations.get? id).getD 0 + 1
  (generation, { f with
    generations := f.generations.put id generation
    replaced := f.replaced.filter fun other => other != id })

/-- Whether the validation of a value has been superseded. -/
def isStale (f : Form) (id : String) (generation : Nat) (v : Value) : Bool :=
  f.generations.get? id != some generation || !(f.value id).equal v

/-- Accepts a submission. -/
def beginSubmission (id : Nat) (f : Form) : Form :=
  { f.mark (.accepted id f.epoch) with
    state.hasSubmitted := true, state.isSubmitting := true, submitFault := none }

/-- The flag is that of the state in which the submission began; a later one keeps its own. -/
def endSubmission (id epoch : Nat) (f : Form) : Form :=
  let f := f.mark (.ended id epoch)
  if f.epoch = epoch then { f with state.isSubmitting := false } else f

/-- The state as far as rendering goes. -/
def context (disabled : Bool) (f : Form) : RenderContext where
  values := f.state.values
  errors := f.state.errors
  touched := f.state.touched.map fun id => (id, true)
  isSubmitting := f.state.isSubmitting
  disabled := disabled
  isValid := f.state.isValid
  isDirty := f.state.isDirty
  hasSubmitted := f.state.hasSubmitted
  states := f.fieldStates

/-- The fields that are shown, in the order of the schema. -/
def visibleFields (f : Form) : List FormField :=
  (f.parsed.fields.filter fun p => f.isVisible p.id).map ParsedField.field

/-- The shown fields as nodes. -/
def render (settings : RenderSettings) (disabled : Bool) (f : Form) : Logged (List Node) :=
  settings.renderFields (f.context disabled) f.visibleFields

end Form

end FormEngine
