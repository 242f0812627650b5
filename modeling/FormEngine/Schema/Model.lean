import FormEngine.Host.Basic
import FormEngine.Options.Request
import FormEngine.Schema.FieldType
import FormEngine.Schema.Operator

/-!
Forms as they are declared: fields with their options, conditions and validation, and the settings
of the whole form. Operators and types are kept as texts, so that a schema with unknown ones can be
loaded and reported.
-/

namespace FormEngine

structure SelectOption where
  label : String
  value : Value
  disabled : Bool
  group : Option String
  icon : Option String
  description : Option String

inductive OptionSource
  | api
  | function
  | store
  deriving DecidableEq, Repr

namespace OptionSource

def word : OptionSource → String
  | .api => "api"
  | .function => "function"
  | .store => "store"

end OptionSource

/-- Options that are looked up when they are needed; times are in milliseconds. -/
structure DynamicOptions where
  source : OptionSource
  url : Option String
  method : Method
  headers : Table String
  params : Table Value
  transform : Option Callable
  loader : Option Callable
  storeKey : Option String
  dependencies : List String
  cache : Bool
  cacheKey : Option String
  cacheDuration : Int
  retryAttempts : Int
  retryDelay : Int

inductive Choices
  | fixed (options : List SelectOption)
  | dynamic (options : DynamicOptions)

/-- A condition on the value of another field. -/
structure ConditionalRule where
  field : String
  operator : Option String
  value : Value
  predicate : Option Callable

/-- The five ways in which conditions bear on a field. -/
inductive Effect
  | shows
  | hides
  | enables
  | disables
  | requires
  deriving DecidableEq, Repr

namespace Effect

/-- In the order in which rules are evaluated and reported. -/
def all : List Effect := [.shows, .hides, .enables, .disables, .requires]

def word : Effect → String
  | .shows => "show"
  | .hides => "hide"
  | .enables => "enable"
  | .disables => "disable"
  | .requires => "require"

end Effect

structure Conditions where
  shows : Option (List ConditionalRule)
  hides : Option (List ConditionalRule)
  enables : Option (List ConditionalRule)
  disables : Option (List ConditionalRule)
  requires : Option (List ConditionalRule)

namespace Conditions

def rules (c : Conditions) : Effect → List ConditionalRule
  | .shows => c.shows.getD []
  | .hides => c.hides.getD []
  | .enables => c.enables.getD []
  | .disables => c.disables.getD []
  | .requires => c.requires.getD []

/-- The lists that have rules, each with the word for its effect. -/
def lists (c : Conditions) : List (String × List ConditionalRule) :=
  (Effect.all.map fun e => (e.word, c.rules e)).filter fun l => !l.2.isEmpty

def allRules (c : Conditions) : List ConditionalRule := Effect.all.flatMap c.rules

end Conditions

/-- A rule for the value of one field, given the values of all. -/
structure CustomRule where
  name : String
  message : String
  validator : Callable

/-- A rule whose outcome has to be waited for. -/
structure AsyncRule where
  name : String
  message : String
  validator : Callable
  debounce : Option Int

/-- A rule for the values of the whole form; it complains at the fields it names. -/
structure FormRule where
  name : String
  message : String
  validator : Callable
  fields : List String

structure FieldValidation where
  required : Option Bool
  rule : Value
  regex : Option String
  custom : List CustomRule
  asyncRules : List AsyncRule
  debounce : Option Int

structure GlobalValidation where
  rule : Value
  customRules : List FormRule
  validateOnChange : Bool
  validateOnBlur : Bool
  validateOnSubmit : Bool

inductive LayoutType
  | vertical
  | horizontal
  | grid
  | custom
  deriving DecidableEq, Repr

namespace LayoutType

def word : LayoutType → String
  | .vertical => "vertical"
  | .horizontal => "horizontal"
  | .grid => "grid"
  | .custom => "custom"

end LayoutType

structure Layout where
  type : LayoutType
  spacing : Option Int
  columns : Option Int

structure Behavior where
  autoSave : Bool
  autoSaveDelay : Option Int
  resetOnSubmit : Bool
  focusFirstError : Bool
  scrollToError : Bool

/-- What a field declares apart from the fields nested in it. -/
structure FieldAttributes where
  id : String
  type : String
  label : String
  placeholder : Option String
  description : Option String
  required : Bool
  disabled : Bool
  readonly : Bool
  defaultValue : Value
  validation : Option FieldValidation
  conditional : Option Conditions
  options : Option Choices
  min : Option Binary64
  max : Option Binary64
  step : Option Binary64
  minLength : Option Int
  maxLength : Option Int
  rows : Option Int
  maxSelections : Option Int
  minItems : Option Int
  maxItems : Option Int
  accept : Option (List String)
  multiple : Option Bool
  component : Option String
  props : Option (Table Value)
  /-- attributes that are not among these -/
  extra : Table Value

/-- A field: the items of a list share one nested field, a group has a list of them. -/
structure FormField extends FieldAttributes where
  itemSchema : Option FormField
  fields : Option (List FormField)

namespace FieldAttributes

/-- Whether the field is required whatever the values are. -/
def isRequired (f : FieldAttributes) : Bool :=
  f.required || (f.validation.bind FieldValidation.required).getD false

/-- The fields on whose values the options of a selection depend. -/
def optionDependencies (f : FieldAttributes) : List String :=
  if FieldType.isSelection f.type then
    match f.options with
    | some (.dynamic d) => d.dependencies
    | _ => []
  else []

def conditionalRules (f : FieldAttributes) : List ConditionalRule :=
  f.conditional.elim [] Conditions.allRules

end FieldAttributes

structure FormSchema where
  id : String
  title : Option String
  description : Option String
  fields : List FormField
  validation : Option GlobalValidation
  layout : Option Layout
  behavior : Option Behavior

namespace FormSchema

def fieldIds (s : FormSchema) : List String := s.fields.map fun f => f.id

def field? (s : FormSchema) (id : String) : Option FormField := s.fields.find? fun f => f.id == id

end FormSchema

end FormEngine
