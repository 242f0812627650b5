import FormEngine.Number.Word
import FormEngine.Schema.Checked
import FormEngine.Text.Numeral

/-!
Reading plain values out of data, with the conversions that data admits: a text that spells a number
or a truth value stands for it, a number without fraction for an integer, a tuple or set for a list.
-/

namespace FormEngine

namespace Scalar

def trueWords : List String := ["1", "t", "y", "on", "yes", "true"]
def falseWords : List String := ["0", "f", "n", "no", "off", "false"]

def lowerAscii (s : String) : String := String.ofList (s.toList.map Char.toLower)

def text (v : Value) : Checked String :=
  match v.text? with
  | some s => .ok s
  | none => .fail "Input should be a valid string"

def boolOfWord (s : String) : Checked Bool :=
  let word := lowerAscii s
  if trueWords.contains word then .ok true
  else if falseWords.contains word then .ok false
  else .fail "Input should be a valid boolean, unable to interpret input"

def boolOfInt (i : Int) : Checked Bool :=
  if i = 0 then .ok false
  else if i = 1 then .ok true
  else .fail "Input should be a valid boolean, unable to interpret input"

def integerTooLong : String :=
  "Unable to parse input string as an integer, exceeded maximum size"

def intOfText (s : String) : Checked Int :=
  match Numeral.integerOfData s with
  | .ok i => .ok i
  | .error .tooLong => .fail integerTooLong
  | .error .malformed =>
    .fail "Input should be a valid integer, unable to parse string as an integer"

def intOfFloat (x : Binary64) : Checked Int :=
  if !x.isFinite then .fail "Input should be a finite number"
  else
    match x.toInt? with
    | some i => if -Word.half < i ∧ i < Word.half then .ok i else .fail integerTooLong
    | none => .fail "Input should be a valid integer, got a number with a fractional part"

def bool (v : Value) : Checked Bool :=
  let wrong : Checked Bool := .fail "Input should be a valid boolean"
  match v with
  | .bool b => .ok b
  | .int i => if Word.isSigned i then boolOfInt i else wrong
  | .float x =>
    match intOfFloat x with
    | .ok i => boolOfInt i
    | .failed _ => wrong
  | v =>
    match v.text? with
    | some s => boolOfWord s
    | none => wrong

def int (v : Value) : Checked Int :=
  match v with
  | .bool b => .ok (if b then 1 else 0)
  | .int i => .ok i
  | .float x => intOfFloat x
  | v =>
    match v.text? with
    | some s => intOfText s
    | none => .fail "Input should be a valid integer"

/-- The double nearest to an integer, unless there is none. -/
def floatOfInt (i : Int) : Checked Binary64 :=
  let x := Binary64.ofInt i
  if x.isFinite then .ok x else .fail "Input should be a valid number"

def float (v : Value) : Checked Binary64 :=
  match v with
  | .bool b => .ok (.ofInt (if b then 1 else 0))
  | .int i => floatOfInt i
  | .float x => .ok x
  | v =>
    match v.text? with
    | some s =>
      match Numeral.doubleOfData? s with
      | some x => .ok x
      | none => .fail "Input should be a valid number, unable to parse string as a number"
    | none => .fail "Input should be a valid number"

def items (v : Value) : Checked (List Value) :=
  match v.elements? with
  | some xs => .ok xs
  | none => .fail "Input should be a valid list"

def listOf {α : Type} (load : Value → Checked α) (v : Value) : Checked (List α) :=
  match v.elements? with
  | some xs => Checked.items load 0 xs
  | none => .fail "Input should be a valid list"

def recordOf {α : Type} (load : Value → Checked α) (v : Value) : Checked (Table α) :=
  match v.record? with
  | some entries => Checked.entries load entries
  | none => .fail "Input should be a valid dictionary"

def any (v : Value) : Checked Value := .ok v

/-- Null stands for nothing. -/
def optional {α : Type} (load : Value → Checked α) (v : Value) : Checked (Option α) :=
  if v.isNull then .ok none else some <$> load v

/-- Alternatives in quotes, the last one behind an "or". -/
def alternatives : List String → String
  | [] => ""
  | [a] => "'" ++ a ++ "'"
  | [a, b] => "'" ++ a ++ "' or '" ++ b ++ "'"
  | a :: rest => "'" ++ a ++ "', " ++ alternatives rest

/-- One of a few words. -/
def word {α : Type} (choices : List α) (wordOf : α → String) (v : Value) : Checked α :=
  match v.text?.bind fun s => choices.find? fun a => wordOf a == s with
  | some a => .ok a
  | none => .fail ("Input should be " ++ alternatives (choices.map wordOf))

end Scalar

end FormEngine
