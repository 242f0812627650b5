import FormEngine.Text.Case
import FormEngine.Text.Numeral
import FormEngine.Value.Basic

/-!
Settings out of the environment. A variable that is not set, or whose text cannot be converted to
the type of the setting, leaves the setting at its default.
-/

namespace FormEngine

inductive SettingType
  | text
  | integer
  | number
  | truth
  deriving DecidableEq, Repr

namespace SettingType

def word : SettingType → String
  | .text => "str"
  | .integer => "int"
  | .number => "float"
  | .truth => "bool"

def ofWord? (word : String) : Option SettingType :=
  [SettingType.text, .integer, .number, .truth].find? fun t => t.word == word

end SettingType

inductive Setting
  | logLevel
  | debug
  | warnUnknownTypes
  | defaultDebounce
  | optionsTimeout
  deriving DecidableEq, Repr

/-- The variables that are set, with their texts. -/
abbrev Environment := Table String

namespace Setting

def all : List Setting := [.logLevel, .debug, .warnUnknownTypes, .defaultDebounce, .optionsTimeout]

def name : Setting → String
  | .logLevel => "FORM_LOG_LEVEL"
  | .debug => "FORM_DEBUG"
  | .warnUnknownTypes => "FORM_WARN_UNKNOWN_TYPES"
  | .defaultDebounce => "FORM_DEFAULT_DEBOUNCE_MS"
  | .optionsTimeout => "FORM_OPTIONS_TIMEOUT"

def ofName? (name : String) : Option Setting := all.find? fun s => s.name == name

def default : Setting → Value
  | .logLevel => .str "INFO"
  | .debug => .bool false
  | .warnUnknownTypes => .bool true
  | .defaultDebounce => .int 0
  | .optionsTimeout => .float (.ofInt 10)

def type : Setting → SettingType
  | .logLevel => .text
  | .debug => .truth
  | .warnUnknownTypes => .truth
  | .defaultDebounce => .integer
  | .optionsTimeout => .number

def description : Setting → String
  | .logLevel => "Level applied by setup_logging when none is passed"
  | .debug => "Include exception messages in field error placeholders"
  | .warnUnknownTypes => "Warn about field types that are not built in"
  | .defaultDebounce => "Delay before async field validators that declare no debounce"
  | .optionsTimeout => "Seconds before a dynamic options request times out"

/-- The area of the engine that a setting tunes. -/
def category : Setting → String
  | .logLevel => "logging"
  | .debug => "render"
  | .warnUnknownTypes => "schema"
  | .defaultDebounce => "validation"
  | .optionsTimeout => "options"

def inCategory (category : Option String) : List Setting :=
  all.filter fun s => category.all (· == s.category)

def truthOfWord? (text : String) : Option Bool :=
  let word := toLower (stripBlank text)
  if ["true", "1", "yes"].contains word then some true
  else if ["false", "0", "no"].contains word then some false
  else none

/-- Converts a text to a type; without a type it stays as it is. -/
def convert (text : Option String) (type : Option SettingType) (default : Value) : Value :=
  match text, type with
  | none, _ => default
  | some s, none => .str s
  | some s, some .text => .str s
  | some s, some .integer => (Numeral.integerOfText? s).elim default .int
  | some s, some .number => (Numeral.doubleOfText? s).elim default .float
  | some s, some .truth => (truthOfWord? s).elim default .bool

/-- The value of a setting; a value given in its place is taken as it is. -/
def read (s : Setting) (environment : Environment) (given : Value := .null) : Value :=
  if given.isNull then convert (environment.get? s.name) (some s.type) s.default else given

end Setting

end FormEngine
