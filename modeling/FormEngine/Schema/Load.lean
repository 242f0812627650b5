import FormEngine.Schema.Model
import FormEngine.Schema.Scalar

/-!
Loading declarations from records. An attribute of several words is accepted under its spelling with
inner capitals and under the one with underscores; some have further names. Every attribute that
cannot be loaded is reported under the spelling that was used.
-/

namespace FormEngine

namespace Load

/-- The characters of a name without its underscores; a letter behind one, or the first where a capital
is asked for, is a capital. -/
def joined : Bool → List Char → List Char
  | _, [] => []
  | capital, c :: rest =>
    if c = '_' then joined true rest
    else (if capital then c.toUpper else c) :: joined false rest

/-- The spelling of an attribute with inner capitals. -/
def camelCase (name : String) : String := String.ofList (joined false name.toList)

/-- The accepted spellings of an attribute, in the order in which they are looked for. -/
def spellings (name : String) : List String := [camelCase name, name]

/-- The entry under the first of several keys that is present. -/
def find? {α : Type} (entries : Table α) : List String → Option (String × α)
  | [] => none
  | key :: keys =>
    match entries.get? key with
    | some v => some (key, v)
    | none => find? entries keys

/-- An attribute under one of its keys, with a value for when it is missing. -/
def among {α : Type} (entries : Table Value) (keys : List String) (missing : α)
    (load : Value → Checked α) : Checked α :=
  match find? entries keys with
  | some (key, v) => (load v).underKey key
  | none => .ok missing

def entry {α : Type} (entries : Table Value) (name : String) (missing : α)
    (load : Value → Checked α) : Checked α :=
  among entries (spellings name) missing load

/-- An attribute that can be absent or null. -/
def optional {α : Type} (entries : Table Value) (name : String) (load : Value → Checked α) :
    Checked (Option α) :=
  entry entries name none (Scalar.optional load)

/-- An attribute that has to be there. -/
def required {α : Type} (entries : Table Value) (name : String) (load : Value → Checked α) :
    Checked α :=
  match find? entries (spellings name) with
  | some (key, v) => (load v).underKey key
  | none => (Checked.fail "Field required").underKey (camelCase name)

/-- The entries of a record that is to be loaded as a declaration of some kind. -/
def record {α : Type} (kind : String) (load : Table Value → Checked α) (v : Value) : Checked α :=
  match v.record? with
  | some entries => load entries
  | none => .fail ("Input should be a valid dictionary or instance of " ++ kind)

def callable (v : Value) : Checked Callable :=
  match Callable.ofValue? v with
  | some f => .ok f
  | none => .fail "Input should be callable"

def texts : Value → Checked (List String) := Scalar.listOf Scalar.text

def selectOption (v : Value) : Checked SelectOption :=
  let entries := match v with
    | .record entries => some entries
    | .entity .field .. => none
    | v => some [("label", .str v.display), ("value", v)]
  match entries with
  | none => .fail "Input should be a valid dictionary or instance of SelectOption"
  | some entries =>
    SelectOption.mk
      <$> required entries "label" Scalar.text
      <*> required entries "value" Scalar.any
      <*> entry entries "disabled" false Scalar.bool
      <*> optional entries "group" Scalar.text
      <*> optional entries "icon" Scalar.text
      <*> optional entries "description" Scalar.text

def dynamicOptions : Value → Checked DynamicOptions :=
  record "DynamicOptionsConfig" fun entries =>
    DynamicOptions.mk
      <$> required entries "source" (Scalar.word [.api, .function, .store] OptionSource.word)
      <*> optional entries "url" Scalar.text
      <*> entry entries "method" .get (Scalar.word [.get, .post] Method.word)
      <*> entry entries "headers" [] (Scalar.recordOf Scalar.text)
      <*> entry entries "params" [] (Scalar.recordOf Scalar.any)
      <*> optional entries "transform" callable
      <*> optional entries "loader" callable
      <*> optional entries "store_key" Scalar.text
      <*> entry entries "dependencies" [] texts
      <*> entry entries "cache" true Scalar.bool
      <*> optional entries "cache_key" Scalar.text
      <*> entry entries "cache_duration" 300000 Scalar.int
      <*> entry entries "retry_attempts" 0 Scalar.int
      <*> entry entries "retry_delay" 1000 Scalar.int

/-- Options given in place or looked up; when neither can be loaded both are reported. -/
def choices (v : Value) : Checked Choices :=
  match Scalar.listOf selectOption v, dynamicOptions v with
  | .ok options, _ => .ok (.fixed options)
  | .failed _, .ok options => .ok (.dynamic options)
  | .failed is, .failed js =>
    .failed (((Checked.failed is : Checked Unit).underKey "list[SelectOption]").issues ++
      ((Checked.failed js : Checked Unit).underKey "DynamicOptionsConfig").issues)

/-- The word of an operator; longer words are replaced by the usual one. -/
def operatorWord (v : Value) : Checked (Option String) :=
  (Scalar.optional Scalar.text v).map (Option.map Operator.canonicalWord)

def predicateKeys : List String :=
  ["custom_predicate", "customPredicate", "customRule", "custom_rule"]

def conditionalRule : Value → Checked ConditionalRule :=
  record "ConditionalRule" fun entries =>
    ConditionalRule.mk
      <$> entry entries "field" "" Scalar.text
      <*> entry entries "operator" none operatorWord
      <*> entry entries "value" .null Scalar.any
      <*> among entries predicateKeys none (Scalar.optional callable)

def conditions : Value → Checked Conditions :=
  record "ConditionalConfig" fun entries =>
    let rules := fun (e : Effect) =>
      optional entries e.word (Scalar.listOf conditionalRule)
    Conditions.mk <$> rules .shows <*> rules .hides <*> rules .enables <*> rules .disables
      <*> rules .requires

def customRule : Value → Checked CustomRule :=
  record "CustomValidationRule" fun entries =>
    CustomRule.mk
      <$> required entries "name" Scalar.text
      <*> required entries "message" Scalar.text
      <*> required entries "validator" callable

def asyncRule : Value → Checked AsyncRule :=
  record "AsyncValidationRule" fun entries =>
    AsyncRule.mk
      <$> required entries "name" Scalar.text
      <*> required entries "message" Scalar.text
      <*> required entries "validator" callable
      <*> optional entries "debounce_ms" Scalar.int

def formRule : Value → Checked FormRule :=
  record "FormRule" fun entries =>
    FormRule.mk
      <$> required entries "name" Scalar.text
      <*> required entries "message" Scalar.text
      <*> required entries "validator" callable
      <*> entry entries "fields" [] texts

def fieldValidation : Value → Checked FieldValidation :=
  record "FieldValidation" fun entries =>
    FieldValidation.mk
      <$> optional entries "required" Scalar.bool
      <*> entry entries "rule" .null Scalar.any
      <*> optional entries "regex" Scalar.text
      <*> entry entries "custom" [] (Scalar.listOf customRule)
      <*> among entries ["async", "async_rules"] [] (Scalar.listOf asyncRule)
      <*> optional entries "debounce_ms" Scalar.int

def globalValidation : Value → Checked GlobalValidation :=
  record "GlobalValidation" fun entries =>
    GlobalValidation.mk
      <$> entry entries "rule" .null Scalar.any
      <*> entry entries "custom_rules" [] (Scalar.listOf formRule)
      <*> entry entries "validate_on_change" false Scalar.bool
      <*> entry entries "validate_on_blur" false Scalar.bool
      <*> entry entries "validate_on_submit" true Scalar.bool

def layout : Value → Checked Layout :=
  record "LayoutConfig" fun entries =>
    Layout.mk
      <$> entry entries "type" .vertical
        (Scalar.word [.vertical, .horizontal, .grid, .custom] LayoutType.word)
      <*> optional entries "spacing" Scalar.int
      <*> optional entries "columns" Scalar.int

def behavior : Value → Checked Behavior :=
  record "BehaviorConfig" fun entries =>
    Behavior.mk
      <$> entry entries "auto_save" false Scalar.bool
      <*> optional entries "auto_save_delay" Scalar.int
      <*> entry entries "reset_on_submit" false Scalar.bool
      <*> entry entries "focus_first_error" false Scalar.bool
      <*> entry entries "scroll_to_error" false Scalar.bool

/-- The attributes of a field, in the order in which they are reported. -/
def fieldAttributes : List String := [
  "id", "type", "label", "placeholder", "description", "required", "disabled", "readonly",
  "default_value", "validation", "conditional", "options", "min", "max", "step", "min_length",
  "max_length", "rows", "max_selections", "min_items", "max_items", "item_schema", "fields",
  "accept", "multiple", "component", "props"]

/-- The keys from which the attributes of a field are taken. -/
def usedKeys (entries : Table Value) : List String :=
  fieldAttributes.filterMap fun name => (find? entries (spellings name)).map Prod.fst

/-- The loaded fields nested in a field, by the keys they stand under. -/
structure Nested where
  items : Table (Checked (Option FormField)) := []
  groups : Table (Checked (Option (List FormField))) := []

def nestedAttribute {α : Type} (loaded : Table (Checked (Option α))) (name : String) :
    Checked (Option α) :=
  match find? loaded (spellings name) with
  | some (key, x) => x.underKey key
  | none => .ok none

def assembleField (entries : Table Value) (nested : Nested) : Checked FormField :=
  (fun id type label placeholder description required disabled readonly defaultValue validation
      conditional options min max step minLength maxLength rows maxSelections minItems maxItems
      itemSchema fields accept multiple component props =>
    { id, type, label, placeholder, description, required, disabled, readonly, defaultValue,
      validation, conditional, options, min, max, step, minLength, maxLength, rows, maxSelections,
      minItems, maxItems, itemSchema, fields, accept, multiple, component, props,
      extra := entries.filter fun e => !(usedKeys entries).contains e.1 })
    <$> entry entries "id" "" Scalar.text
    <*> entry entries "type" "" Scalar.text
    <*> entry entries "label" "" Scalar.text
    <*> optional entries "placeholder" Scalar.text
    <*> optional entries "description" Scalar.text
    <*> entry entries "required" false Scalar.bool
    <*> entry entries "disabled" false Scalar.bool
    <*> entry entries "readonly" false Scalar.bool
    <*> entry entries "default_value" .null Scalar.any
    <*> optional entries "validation" fieldValidation
    <*> optional entries "conditional" conditions
    <*> optional entries "options" choices
    <*> optional entries "min" Scalar.float
    <*> optional entries "max" Scalar.float
    <*> optional entries "step" Scalar.float
    <*> optional entries "min_length" Scalar.int
    <*> optional entries "max_length" Scalar.int
    <*> optional entries "rows" Scalar.int
    <*> optional entries "max_selections" Scalar.int
    <*> optional entries "min_items" Scalar.int
    <*> optional entries "max_items" Scalar.int
    <*> nestedAttribute nested.items "item_schema"
    <*> nestedAttribute nested.groups "fields"
    <*> optional entries "accept" texts
    <*> optional entries "multiple" Scalar.bool
    <*> optional entries "component" Scalar.text
    <*> optional entries "props" (Scalar.recordOf Scalar.any)

/-- How many fields may be nested in one another. -/
def deepest : Nat := 255

mutual

/-- A field in which fields can be nested a number of levels deep, itself included. -/
def formFieldWithin : Nat → Value → Checked FormField
  | 0, _ => .fail "Recursion error - maximum validation depth exceeded"
  | level + 1, .record entries => assembleField entries (nestedFields level entries)
  | _ + 1, .entity .field _ description => formFieldWithin deepest description
  | _ + 1, _ => .fail "Input should be a valid dictionary or instance of FormField"
termination_by structural _ v => v

def formFieldList : Nat → Value → Checked (List FormField)
  | level, .list xs | level, .tuple xs | level, .set xs => formFieldItems level 0 xs
  | _, _ => .fail "Input should be a valid list"
termination_by structural _ v => v

def formFieldItems : Nat → Nat → List Value → Checked (List FormField)
  | _, _, [] => .ok []
  | level, n, x :: xs =>
    List.cons <$> (formFieldWithin level x).under (.index n) <*> formFieldItems level (n + 1) xs
termination_by structural _ _ xs => xs

def nestedFields : Nat → List (String × Value) → Nested
  | _, [] => {}
  | level, e :: es => nestedField level e (nestedFields level es)
termination_by structural _ es => es

def nestedField : Nat → String × Value → Nested → Nested
  | level, (key, v), nested =>
    if (spellings "item_schema").contains key then
      { nested with
        items := (key, if v.isNull then .ok none else some <$> formFieldWithin level v) ::
          nested.items }
    else if (spellings "fields").contains key then
      { nested with
        groups := (key, if v.isNull then .ok none else some <$> formFieldList level v) ::
          nested.groups }
    else nested
termination_by structural _ e => e

end

def formField (v : Value) : Checked FormField := formFieldWithin deepest v

def formSchema : Value → Checked FormSchema :=
  record "FormSchema" fun entries =>
    FormSchema.mk
      <$> entry entries "id" "" Scalar.text
      <*> optional entries "title" Scalar.text
      <*> optional entries "description" Scalar.text
      <*> entry entries "fields" [] (formFieldList deepest)
      <*> optional entries "validation" globalValidation
      <*> optional entries "layout" layout
      <*> optional entries "behavior" behavior

end Load

end FormEngine
