import FormEngine.Schema.Model

/-!
Declarations written out as records, every attribute under its plain spelling; attributes that are
not set are left out.
-/

namespace FormEngine

namespace Document

def text (s : Option String) : Value := s.elim .null .str
def integer (i : Option Int) : Value := i.elim .null .int
def double (x : Option Binary64) : Value := x.elim .null .float
def truth (b : Option Bool) : Value := b.elim .null .bool
def texts (xs : List String) : Value := .list (xs.map .str)
def function (f : Option Callable) : Value := f.elim .null Callable.toValue

/-- A record of the attributes that are set. -/
def record (entries : Table Value) : Value := .record (entries.filter fun e => !e.2.isNull)

end Document

open Document

def SelectOption.document (o : SelectOption) : Value := record [
  ("label", .str o.label), ("value", o.value), ("disabled", .bool o.disabled),
  ("group", text o.group), ("icon", text o.icon), ("description", text o.description)]

def DynamicOptions.document (d : DynamicOptions) : Value := record [
  ("source", .str d.source.word), ("url", text d.url), ("method", .str d.method.word),
  ("headers", .record (d.headers.map fun e => (e.1, .str e.2))), ("params", .record d.params),
  ("transform", function d.transform), ("loader", function d.loader),
  ("store_key", text d.storeKey), ("dependencies", texts d.dependencies),
  ("cache", .bool d.cache), ("cache_key", text d.cacheKey),
  ("cache_duration", .int d.cacheDuration), ("retry_attempts", .int d.retryAttempts),
  ("retry_delay", .int d.retryDelay)]

def Choices.document : Choices → Value
  | .fixed options => .list (options.map SelectOption.document)
  | .dynamic options => options.document

def ConditionalRule.document (r : ConditionalRule) : Value := record [
  ("field", .str r.field), ("operator", text r.operator), ("value", r.value),
  ("custom_predicate", function r.predicate)]

def Conditions.document (c : Conditions) : Value :=
  let rules : Option (List ConditionalRule) → Value := fun rs =>
    rs.elim .null fun rs => .list (rs.map ConditionalRule.document)
  record [
    ("show", rules c.shows), ("hide", rules c.hides), ("enable", rules c.enables),
    ("disable", rules c.disables), ("require", rules c.requires)]

def CustomRule.document (r : CustomRule) : Value := record [
  ("name", .str r.name), ("message", .str r.message), ("validator", r.validator.toValue)]

def AsyncRule.document (r : AsyncRule) : Value := record [
  ("name", .str r.name), ("message", .str r.message), ("validator", r.validator.toValue),
  ("debounce_ms", integer r.debounce)]

def FormRule.document (r : FormRule) : Value := record [
  ("name", .str r.name), ("message", .str r.message), ("validator", r.validator.toValue),
  ("fields", texts r.fields)]

def FieldValidation.document (v : FieldValidation) : Value := record [
  ("required", truth v.required), ("rule", v.rule), ("regex", text v.regex),
  ("custom", .list (v.custom.map CustomRule.document)),
  ("async_rules", .list (v.asyncRules.map AsyncRule.document)),
  ("debounce_ms", integer v.debounce)]

def GlobalValidation.document (v : GlobalValidation) : Value := record [
  ("rule", v.rule), ("custom_rules", .list (v.customRules.map FormRule.document)),
  ("validate_on_change", .bool v.validateOnChange), ("validate_on_blur", .bool v.validateOnBlur),
  ("validate_on_submit", .bool v.validateOnSubmit)]

def Layout.document (l : Layout) : Value := record [
  ("type", .str l.type.word), ("spacing", integer l.spacing), ("columns", integer l.columns)]

def Behavior.document (b : Behavior) : Value := record [
  ("auto_save", .bool b.autoSave), ("auto_save_delay", integer b.autoSaveDelay),
  ("reset_on_submit", .bool b.resetOnSubmit), ("focus_first_error", .bool b.focusFirstError),
  ("scroll_to_error", .bool b.scrollToError)]

/-- The key for attributes of a field that are not declared. -/
def extraKey : String := "$extra"

def FieldAttributes.entries (f : FieldAttributes) (itemSchema fields : Value) : Table Value := [
  ("id", .str f.id), ("type", .str f.type), ("label", .str f.label),
  ("placeholder", text f.placeholder), ("description", text f.description),
  ("required", .bool f.required), ("disabled", .bool f.disabled), ("readonly", .bool f.readonly),
  ("default_value", f.defaultValue),
  ("validation", f.validation.elim .null FieldValidation.document),
  ("conditional", f.conditional.elim .null Conditions.document),
  ("options", f.options.elim .null Choices.document),
  ("min", double f.min), ("max", double f.max), ("step", double f.step),
  ("min_length", integer f.minLength), ("max_length", integer f.maxLength),
  ("rows", integer f.rows), ("max_selections", integer f.maxSelections),
  ("min_items", integer f.minItems), ("max_items", integer f.maxItems),
  ("item_schema", itemSchema), ("fields", fields),
  ("accept", f.accept.elim .null texts), ("multiple", truth f.multiple),
  ("component", text f.component), ("props", f.props.elim .null .record),
  (extraKey, if f.extra.isEmpty then .null else .record f.extra)]

mutual

def FormField.document : FormField → Value
  | ⟨attributes, itemSchema, fields⟩ =>
    record (attributes.entries (documentOfItem itemSchema) (documentOfGroup fields))
termination_by structural f => f

def documentOfItem : Option FormField → Value
  | none => .null
  | some f => FormField.document f
termination_by structural f => f

def documentOfGroup : Option (List FormField) → Value
  | none => .null
  | some fs => .list (documentsOfFields fs)
termination_by structural fs => fs

def documentsOfFields : List FormField → List Value
  | [] => []
  | f :: fs => FormField.document f :: documentsOfFields fs
termination_by structural fs => fs

end

def FormSchema.document (s : FormSchema) : Value := record [
  ("id", .str s.id), ("title", text s.title), ("description", text s.description),
  ("fields", .list (documentsOfFields s.fields)),
  ("validation", s.validation.elim .null GlobalValidation.document),
  ("layout", s.layout.elim .null Layout.document),
  ("behavior", s.behavior.elim .null Behavior.document)]

end FormEngine
