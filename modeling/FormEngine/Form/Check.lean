import FormEngine.Form.State

/-!
Checks of a form. A field that is shown is held against its compiled rule and then against its own
functions; the form as a whole against its rule and functions, whose complaints go to the fields they
name, or to the form. A function that raises counts as a complaint. A value that a function of its field
alters in place is altered in the form; functions of the form are taken to alter none, although what is
inside the values they are given is not a copy.
-/

namespace FormEngine

def requiredComplaint (p : ParsedField) : String :=
  (if p.field.label.isEmpty then p.id else p.field.label) ++ " is required"

/-- What a checking function complains of: true is no complaint, a text is one, anything else counts
as true or false. -/
def complaint? (outcome : Except Fault Value) (message : String) : Option String :=
  match outcome with
  | .ok v =>
    match v.text? with
    | some s => some s
    | none => if v.truthy then none else some message
  | .error _ => some message

/-- Adds a message unless it is there. -/
def addDistinct (messages : List String) (message : String) : List String :=
  if messages.contains message then messages else messages ++ [message]

namespace Form

/-- Asks one function of a field, which may alter the value, and adds what it complains of. -/
def askRule (host : Host) (id : String) (found : Form × List String) (r : CustomRule) :
    Logged (Form × List String) :=
  let (f, messages) := found
  let values := f.resolved
  let reply := host.reply r.validator [Value.entry values id, .record values]
  let f := reply.altered.elim f fun v => f.amend id v
  ⟨(f, (complaint? reply.outcome r.message).elim messages (addDistinct messages)), reply.events⟩

/-- The complaints about a value that is there. -/
def valueComplaints (host : Host) (p : ParsedField) (v : Value) (f : Form) :
    Logged (Form × Except Fault (List String)) := do
  let outcome ← match p.rule with
    | some r => r.check host v
    | none => pure (.ok [])
  match outcome with
  | .error e => return (f, .error e)
  | .ok messages =>
    let rules := p.field.validation.elim [] FieldValidation.custom
    let (f, messages) ← rules.foldlM (askRule host p.id) (f, messages)
    return (f, .ok messages)

/-- The complaints about one field; one that is hidden has none. -/
def fieldComplaints (host : Host) (p : ParsedField) (f : Form) :
    Logged (Form × Except Fault (List String)) :=
  let state := f.fieldState p.id
  let v := Value.entry f.resolved p.id
  if !state.visible then pure (f, .ok [])
  else if lacks p v then pure (f, .ok (if state.required then [requiredComplaint p] else []))
  else valueComplaints host p v f

/-- The complaints about the field with an id. -/
def complaintsAt (host : Host) (id : String) (f : Form) :
    Logged (Form × Except Fault (List String)) :=
  match f.parsed.field? id with
  | some p => fieldComplaints host p f
  | none => pure (f, .ok [])

/-- The complaints about fields, one after the other, each with its field. -/
def fieldsComplaints (host : Host) : List ParsedField → Form →
    Logged (Form × Except Fault Complaints)
  | [], f => pure (f, .ok [])
  | p :: ps, f => do
    match ← fieldComplaints host p f with
    | (f, .error e) => return (f, .error e)
    | (f, .ok messages) =>
      let (f, outcome) ← fieldsComplaints host ps f
      return (f, outcome.map fun others =>
        if messages.isEmpty then others else (p.id, messages) :: others)

/-- Where a complaint of the rule for the form goes. -/
def placeOf (f : Form) (i : Issue) : String :=
  match i.place with
  | .key name :: _ => if f.hasVisible name then name else formKey
  | _ => formKey

def ruleComplaints (host : Host) (f : Form) (values : Table Value) :
    Logged (Except Fault (List (String × String))) :=
  match f.parsed.rules.globalRule with
  | some r => do
    return (← r.violations host (.record values)).map fun found =>
      found.map fun i => (f.placeOf i, i.message)
  | none => pure (.ok [])

/-- The fields that a function of the form complains at. -/
def targets (f : Form) (r : FormRule) : List String :=
  let shown := r.fields.filter f.hasVisible
  if shown.isEmpty then [formKey] else shown

def askFormRule (host : Host) (f : Form) (values : Table Value) (r : FormRule) :
    Logged (List (String × String)) := do
  let outcome ← host.call r.validator [.record values]
  return match complaint? outcome r.message with
    | some message => (f.targets r).map fun target => (target, message)
    | none => []

/-- The complaints about the form as a whole, each with the place it goes to. -/
def formComplaints (host : Host) (f : Form) : Logged (Except Fault (List (String × String))) := do
  let values := f.resolved
  match ← f.ruleComplaints host values with
  | .error e => return .error e
  | .ok found =>
    let rules := f.parsed.schema.validation.elim [] GlobalValidation.customRules
    let asked ← rules.mapM (askFormRule host f values)
    return .ok (found ++ asked.flatten)

def addComplaint (errors : Complaints) (c : String × String) : Complaints :=
  errors.put c.1 (addDistinct ((errors.get? c.1).getD []) c.2)

/-- All complaints: those about fields in their order, then those about the form. -/
def complaints (host : Host) (f : Form) : Logged (Form × Except Fault Complaints) := do
  match ← fieldsComplaints host f.parsed.fields f with
  | (f, .error e) => return (f, .error e)
  | (f, .ok found) =>
    let outcome ← f.formComplaints host
    return (f, outcome.map fun others => others.foldl addComplaint (Table.ofEntries found))

/-- Makes the complaints found the form's own, and keeps them to be reported. -/
def settle (errors : Complaints) (f : Form) : Form :=
  let f := (f.replaceErrors errors).mark .validated
  { f with state.isValid := errors.isEmpty, reported := none :: f.reported }

/-- Reports the complaints of the validation that was settled last: those the form has now, unless
others took their place. -/
def report (f : Form) : Complaints × Form :=
  match f.reported with
  | [] => (f.state.errors, f)
  | errors :: rest => (errors.getD f.state.errors, { f with reported := rest })

def validatesOnChange (f : Form) : Bool :=
  f.parsed.schema.validation.any GlobalValidation.validateOnChange

def validatesOnBlur (f : Form) : Bool :=
  f.parsed.schema.validation.any GlobalValidation.validateOnBlur

def validatesOnSubmit (f : Form) : Bool :=
  f.parsed.schema.validation.all GlobalValidation.validateOnSubmit

def resetsOnSubmit (f : Form) : Bool := f.parsed.schema.behavior.any Behavior.resetOnSubmit

/-- Checks one field and keeps what is found. -/
def recheck (host : Host) (id : String) (f : Form) : Logged (Form × Except Fault Unit) := do
  let (f, outcome) ← f.complaintsAt host id
  match outcome with
  | .error e => return (f, .error e)
  | .ok messages => return (f.setErrors id messages, .ok ())

end Form

end FormEngine
