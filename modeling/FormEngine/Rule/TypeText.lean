import FormEngine.Rule.Datatype
import FormEngine.Text.Identifier

/-!
Texts that name a type of data: a word, a word with the types of what it holds in square brackets, and
several of these with bars between them. A word that is not known is no fault of the text: the type is
left open. Other signs between words are understood as well, but types know no operations by them.
-/

namespace FormEngine

namespace TypeText

inductive Lexeme
  | word (s : String)
  | quoted (s : String)
  | whole (n : Nat)
  | mark (c : Char)
  deriving DecidableEq, Repr

inductive Expression
  | word (s : String)
  | whole (n : Nat)
  /-- a type named by a text within the text -/
  | quoted (e : Expression)
  | holding (e : Expression) (contents : List Expression)
  | either (a b : Expression)
  /-- the sign for any number of further elements -/
  | more
  /-- an attribute of something -/
  | attributeOf (e : Expression)
  /-- a call, or another operation that is none on types -/
  | joined (parts : List Expression)
  deriving Inhabited

def isSpace (c : Char) : Bool := c == ' ' || c == '\t' || c == '\n' || c == '\r' || c == '\x0c'

/-- The words and signs of a text, as far as there is fuel. -/
def lexemes : Nat → List Char → Option (List Lexeme)
  | 0, _ => none
  | _ + 1, [] => some []
  | fuel + 1, c :: cs =>
    if isSpace c then lexemes fuel cs
    else if Identifier.isStart c then
      let (part, rest) := cs.span Identifier.isPart
      (lexemes fuel rest).map (.word (String.ofList (c :: part)) :: ·)
    else if c.isDigit then
      let (part, rest) := cs.span Char.isDigit
      if c == '0' && !part.isEmpty then none
      else (lexemes fuel rest).map
        (.whole ((c :: part).foldl (fun n d => 10 * n + (d.toNat - 48)) 0) :: ·)
    else if c == '\'' || c == '"' then
      match cs.span (· != c) with
      | (part, _ :: rest) => (lexemes fuel rest).map (.quoted (String.ofList part) :: ·)
      | (_, []) => none
    else (lexemes fuel cs).map (.mark c :: ·)

/-- Words that cannot stand for a type. -/
def reserved : List String := [
  "and", "as", "assert", "async", "await", "break", "class", "continue", "def", "del", "elif",
  "else", "except", "finally", "for", "from", "global", "if", "import", "in", "is", "lambda",
  "nonlocal", "not", "or", "pass", "raise", "return", "try", "while", "with", "yield"]

/-- Signs of operations, some of them written twice or with an equals sign behind them. -/
def skipOperator : List Lexeme → Option (List Lexeme)
  | .mark '*' :: .mark '*' :: rest | .mark '/' :: .mark '/' :: rest | .mark '<' :: .mark '<' :: rest
  | .mark '>' :: .mark '>' :: rest | .mark '<' :: .mark '=' :: rest | .mark '>' :: .mark '=' :: rest
  | .mark '=' :: .mark '=' :: rest | .mark '!' :: .mark '=' :: rest => some rest
  | .mark c :: rest => if "+-*/%@&^<>".toList.contains c then some rest else none
  | .word s :: rest => if ["and", "or", "in", "is"].contains s then some rest else none
  | _ => none

abbrev Parsed := Option (Expression × List Lexeme)

mutual

/-- Operands with bars or other signs between them. -/
def expression : Nat → List Lexeme → Parsed
  | 0, _ => none
  | fuel + 1, ls => do
    let (e, rest) ← operand fuel ls
    alternatives fuel e rest

def alternatives : Nat → Expression → List Lexeme → Parsed
  | fuel + 1, e, .mark '|' :: rest => do
    let (other, rest) ← operand fuel rest
    alternatives fuel (.either e other) rest
  | fuel + 1, e, ls =>
    match skipOperator ls with
    | none => some (e, ls)
    | some rest => do
      let (other, rest) ← operand fuel rest
      alternatives fuel (.joined [e, other]) rest
  | 0, e, rest => some (e, rest)

def operand : Nat → List Lexeme → Parsed
  | fuel + 1, .word "not" :: rest | fuel + 1, .mark '-' :: rest | fuel + 1, .mark '+' :: rest
  | fuel + 1, .mark '~' :: rest => do
    let (e, rest) ← expression fuel rest
    some (.joined [e], rest)
  | fuel + 1, .word s :: rest => if reserved.contains s then none else contents fuel (.word s) rest
  | fuel + 1, .whole n :: rest => contents fuel (.whole n) rest
  | fuel + 1, .quoted s :: rest => do
    let (e, _) ← expression fuel (← lexemes (s.length + 1) s.toList)
    contents fuel (.quoted e) rest
  | fuel + 1, .mark '(' :: rest => do
    match ← expression fuel rest with
    | (e, .mark ')' :: rest) => contents fuel e rest
    | _ => none
  | _, .mark '.' :: .mark '.' :: .mark '.' :: rest => some (.more, rest)
  | _, _ => none

/-- What stands in brackets behind an operand, or behind a dot. -/
def contents : Nat → Expression → List Lexeme → Parsed
  | fuel + 1, e, .mark '[' :: rest => do
    match ← listing fuel rest with
    | (es, .mark ']' :: rest) => contents fuel (.holding e es) rest
    | _ => none
  | fuel + 1, e, .mark '.' :: .word s :: rest =>
    if reserved.contains s then none else contents fuel (.attributeOf e) rest
  | fuel + 1, e, .mark '(' :: .mark ')' :: rest => contents fuel (.joined [e]) rest
  | fuel + 1, e, .mark '(' :: rest => do
    match ← listing fuel rest with
    | (es, .mark ')' :: rest) => contents fuel (.joined (e :: es)) rest
    | _ => none
  | _, e, rest => some (e, rest)

/-- Expressions with commas between them; one may stand at the end. -/
def listing : Nat → List Lexeme → Option (List Expression × List Lexeme)
  | fuel + 1, ls => do
    match ← expression fuel ls with
    | (e, [.mark ',']) => some ([e], [])
    | (e, .mark ',' :: .mark ']' :: rest) => some ([e], .mark ']' :: rest)
    | (e, .mark ',' :: .mark ')' :: rest) => some ([e], .mark ')' :: rest)
    | (e, .mark ',' :: rest) =>
      let (es, rest) ← listing fuel rest
      some (e :: es, rest)
    | (e, rest) => some ([e], rest)
  | 0, _ => none

end

/-- The expressions of a whole text. -/
def parse (s : String) : Option (List Expression) := do
  guard (s.toList.head?.all fun c => c != ' ' && c != '\t')
  let ls ← lexemes (s.length + 1) s.toList
  match ← listing (4 * ls.length + 4) ls with
  | (es, []) => some es
  | _ => none

/-- What an expression stands for. -/
inductive Meaning
  | type (t : Datatype)
  /-- the word for a type that can be left out -/
  | optional
  /-- a value, which is no type -/
  | value (v : Value)
  | more

/-- The fault of a value that was given as a type. -/
def unreadable (v : Value) : Fault :=
  .foreign "PydanticSchemaGenerationError" <|
    "Unable to generate pydantic-core schema for " ++ v.quoted ++
    ". Set \x60arbitrary_types_allowed=True\x60 in the model_config to ignore this error or implement " ++
    "\x60__get_pydantic_core_schema__\x60 on your type to fully support it.\n\n" ++
    "If you got this error by calling handler(<some type>) within " ++
    "\x60__get_pydantic_core_schema__\x60 then you likely need to call " ++
    "\x60handler.generate_schema(<some type>)\x60 since we do not call " ++
    "\x60__get_pydantic_core_schema__\x60 on \x60<some type>\x60 otherwise to avoid infinite " ++
    "recursion.\n\nFor further information visit " ++
    "https://errors.pydantic.dev/2.14/u/schema-for-unknown-type"

/-- Why an expression stands for no type. -/
inductive Stop
  | unknownWord
  | notAType
  | attributeOfType
  | unreadable (v : Value)

/-- The fault of an expression; a word that is not known leaves the type open. -/
def Stop.fault? : Stop → Option Fault
  | .unknownWord => none
  | .notAType => some (.typeMismatch "no type")
  | .attributeOfType => some (.missingAttribute "no attribute of a type")
  | .unreadable v => some (TypeText.unreadable v)

def meaningOf? : String → Option Meaning
  | "int" => some (.type Datatype.plainInteger)
  | "float" => some (.type Datatype.plainNumber)
  | "str" => some (.type Datatype.plainText)
  | "bool" => some (.type .boolean)
  | "date" => some (.type .date)
  | "time" => some (.type .time)
  | "datetime" => some (.type .moment)
  | "None" => some (.type .nothing)
  | "Any" | "object" => some (.type .anything)
  | "list" => some (.type (Datatype.listOf .anything))
  | "dict" => some (.type (Datatype.recordOf .anything .anything))
  | "set" => some (.type (.set "set" .anything))
  | "frozenset" => some (.type (.set "frozenset" .anything))
  | "tuple" => some (.type (.tuple .anything))
  | "bytes" => some (.type .bytes)
  | "Optional" => some .optional
  | "True" => some (.value (.bool true))
  | "False" => some (.value (.bool false))
  | _ => none

def asType : Meaning → Except Stop Datatype
  | .type t => .ok t
  | .optional | .more => .error .notAType
  | .value v => .error (.unreadable v)

/-- What a word with contents stands for; the contents of a list are given by the first of them. -/
def hold (e : Expression) (contents : List Meaning) : Except Stop Meaning :=
  match e, contents with
  | .word "list", item :: _ => do return .type (.listOf (← asType item))
  | .word "set", item :: _ => do return .type (.set "set" (← asType item))
  | .word "frozenset", item :: _ => do return .type (.set "frozenset" (← asType item))
  | .word "tuple", [item, .more] => do return .type (.tuple (← asType item))
  | .word "tuple", items => do return .type (.fixed (← items.mapM asType))
  | .word "dict", [key, value] => do return .type (.recordOf (← asType key) (← asType value))
  | .word "Optional", [t] => do return .type (.either .nothing (← asType t))
  | .word s, _ => if (meaningOf? s).isSome then .error .notAType else .error .unknownWord
  | _, _ => .error .notAType

mutual

def evaluate : Expression → Except Stop Meaning
  | .word s => ((meaningOf? s).map .ok).getD (.error .unknownWord)
  | .whole n => .ok (.value (.int n))
  | .quoted e => evaluate e
  | .holding e contents => do
    let _ ← evaluate e
    hold e (← evaluateAll contents)
  | .either a b => do
    match ← evaluate a, ← evaluate b with
    | .type .nothing, .type .nothing => .error .notAType
    | .type s, .type t => return .type (.either s t)
    | _, _ => .error .notAType
  | .more => .ok .more
  | .attributeOf e => do
    let _ ← evaluate e
    .error .attributeOfType
  | .joined parts => do
    let _ ← evaluateAll parts
    .error .notAType

def evaluateAll : List Expression → Except Stop (List Meaning)
  | [] => .ok []
  | e :: es => do return (← evaluate e) :: (← evaluateAll es)

end

/-- The type that a text names; none where a word in it is not known. -/
def read (s : String) : Except Fault (Option Datatype) :=
  if s.isEmpty then .error (.outOfRange "string index out of range")
  else
    match parse s with
    | none => .error (.foreign "SyntaxError"
        ("Forward reference must be an expression -- got " ++ Quoted.quote s))
    | some es =>
      let meaning : Except Stop Datatype := do
        match ← evaluateAll es with
        | [m] => asType m
        | _ => .error .notAType
      match meaning with
      | .ok t => .ok (some t)
      | .error stop => stop.fault?.elim (.ok none) .error

end TypeText

end FormEngine
