import FormEngine.Number.Shortest
import FormEngine.Text.Printable
import FormEngine.Text.Case
import FormEngine.Value.Basic

/-!
The text of a value. A text on its own is shown as it is; inside a collection it is quoted, with
single quotes unless it contains one and no double quote.
-/

namespace FormEngine

namespace Quoted

def hexDigits (n width : Nat) : String :=
  let ds := Nat.toDigits 16 n
  String.ofList (List.replicate (width - ds.length) '0' ++ ds)

def character (quote c : Char) : String :=
  if c = quote ∨ c = '\\' then String.ofList ['\\', c]
  else if c = '\n' then "\\n"
  else if c = '\r' then "\\r"
  else if c = '\t' then "\\t"
  else if isPrintable c then c.toString
  else if c.toNat < 0x100 then "\\x" ++ hexDigits c.toNat 2
  else if c.toNat < 0x10000 then "\\u" ++ hexDigits c.toNat 4
  else "\\U" ++ hexDigits c.toNat 8

def quote (s : String) : String :=
  let cs := s.toList
  let mark := if cs.contains '\'' && !cs.contains '"' then '"' else '\''
  mark.toString ++ String.join (cs.map (character mark)) ++ mark.toString

end Quoted

namespace Value

def joinTexts (texts : List String) : String := ", ".intercalate texts

def vocabularyName : Vocabulary → String
  | .fieldType => "FieldType"
  | .operator => "ConditionalOperator"

def nameText (vocabulary : Vocabulary) (text : String) : String :=
  vocabularyName vocabulary ++ "." ++ toUpper text

/-- The word for a type, with blanks behind its commas. -/
def spacedType (word : String) : String :=
  String.ofList (word.toList.flatMap fun c => if c = ',' then [',', ' '] else [c])

/-- A plain type shows what it is; one of collections is its own text. -/
def typeText (word : String) : String :=
  if word.toList.contains '[' then spacedType word else "<class '" ++ word ++ "'>"

/-- The parts of a rule, with what stands for those not given. -/
def ruleParts : List (String × String) := [
  ("field_id", "''"), ("base", "'any'"), ("required", "False"), ("constraints", "\x7b\x7d"),
  ("explicit", "None"), ("check_presence", "False")]

def ruleText (parts : List (String × String)) : String :=
  "FieldRule(" ++
    joinTexts (ruleParts.map fun p => p.1 ++ "=" ++ (parts.lookup p.1).getD p.2) ++ ")"

/-- A model of the host by its name. -/
def modelText (entries : Table Value) : String :=
  match Table.get? entries "name" with
  | some (.str word) => "<class '__main__." ++ word ++ "'>"
  | _ => "<class '__main__'>"

mutual

/-- The text of a value inside a collection. -/
def quoted : Value → String
  | .null => "None"
  | .bool b => if b then "True" else "False"
  | .int i => toString i
  | .float x => x.text
  | .str s => Quoted.quote s
  | .list xs => "[" ++ joinTexts (quotedItems xs) ++ "]"
  | .tuple xs =>
    match xs with
    | [x] => "(" ++ quoted x ++ ",)"
    | xs => "(" ++ joinTexts (quotedItems xs) ++ ")"
  | .set xs => if xs.isEmpty then "set()" else "\x7b" ++ joinTexts (quotedItems xs) ++ "\x7d"
  | .record entries => "\x7b" ++ joinTexts (quotedEntries entries) ++ "\x7d"
  | .mapping entries => "\x7b" ++ joinTexts (quotedPairs entries) ++ "\x7d"
  | .name vocabulary text =>
    "<" ++ nameText vocabulary text ++ ": " ++ Quoted.quote text ++ ">"
  | .entity .type _ (.str word) => typeText word
  | .entity .adapter _ (.str word) => "TypeAdapter(" ++ spacedType word ++ ")"
  | .entity .model _ (.record entries) => modelText entries
  | .entity .rule _ (.record entries) => ruleText (quotedParts entries)
  | .entity kind key _ => "<" ++ kindName (.entity kind key .null) ++ ">"
termination_by structural v => v

def quotedItems : List Value → List String
  | [] => []
  | x :: xs => quoted x :: quotedItems xs
termination_by structural xs => xs

def quotedEntries : List (String × Value) → List String
  | [] => []
  | e :: es => quotedEntry e :: quotedEntries es
termination_by structural es => es

def quotedEntry : String × Value → String
  | (key, x) => Quoted.quote key ++ ": " ++ quoted x
termination_by structural e => e

def quotedPairs : List (Value × Value) → List String
  | [] => []
  | p :: ps => quotedPair p :: quotedPairs ps
termination_by structural ps => ps

def quotedPair : Value × Value → String
  | (key, x) => quoted key ++ ": " ++ quoted x
termination_by structural p => p

/-- The keys of a record with the texts of their values. -/
def quotedParts : List (String × Value) → List (String × String)
  | [] => []
  | e :: es => quotedPart e :: quotedParts es
termination_by structural es => es

def quotedPart : String × Value → String × String
  | (key, x) => (key, quoted x)
termination_by structural e => e

end

/-- The text of a value on its own. -/
def display : Value → String
  | .str s => s
  | .name vocabulary text => nameText vocabulary text
  | v => quoted v

end Value

end FormEngine
