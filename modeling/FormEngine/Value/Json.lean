import FormEngine.Text.Numeral
import FormEngine.Value.Display

/-!
Values as JSON text. A number with a point or a power of ten is a double, any other an integer; the
words for infinities and NaN are read as well. What cannot be read is reported with its place.
-/

namespace FormEngine

namespace Json

/-- Why a text cannot be read: something is wrong where some characters are left, or it goes beyond a
bound. -/
inductive Malformed
  | wrong (complaint : String) (left : Nat)
  | tooManyDigits (digits : Nat)
  | tooDeep
  deriving DecidableEq, Repr

/-- How deep values may be nested, and how many digits an integer may have. -/
structure Bounds where
  depth : Nat
  digits : Nat

def isSpace (c : Char) : Bool := c == ' ' || c == '\t' || c == '\n' || c == '\r'

def skipSpace (cs : List Char) : List Char := cs.dropWhile isSpace

def fail {α : Type} (complaint : String) (cs : List Char) : Except Malformed (α × List Char) :=
  .error (.wrong complaint cs.length)

/-- The text of the complaint about `text`: lines and columns count from one. -/
def Malformed.text (m : Malformed) (text : String) : String :=
  match m with
  | .wrong complaint left =>
    let position := text.length - left
    let before := text.toList.take position
    let line := before.count '\n' + 1
    let column := (before.reverse.takeWhile (· != '\n')).length + 1
    s!"{complaint}: line {line} column {column} (char {position})"
  | .tooManyDigits digits => Numeral.tooManyDigits digits
  | .tooDeep => "nested too deeply"

/-- The value of four hexadecimal digits; something has to stand behind them. -/
def hexValue? (cs : List Char) : Option Nat :=
  if (cs.drop 4).isEmpty then none
  else
    (cs.take 4).foldlM
      (fun n c =>
        let code := c.toNat
        if 48 ≤ code ∧ code ≤ 57 then some (16 * n + (code - 48))
        else if 97 ≤ code ∧ code ≤ 102 then some (16 * n + (code - 87))
        else if 65 ≤ code ∧ code ≤ 70 then some (16 * n + (code - 55))
        else none)
      0

def shortEscape? : Char → Option Char
  | '"' => some '"'
  | '\\' => some '\\'
  | '/' => some '/'
  | 'b' => some (Char.ofNat 8)
  | 'f' => some (Char.ofNat 12)
  | 'n' => some '\n'
  | 'r' => some '\r'
  | 't' => some '\t'
  | _ => none

/-- The second half of a character that is written as two escapes. -/
def lowHalf? (rest : List Char) : Option Nat :=
  match rest with
  | '\\' :: 'u' :: digits =>
    match hexValue? digits with
    | some low => if 0xDC00 ≤ low ∧ low ≤ 0xDFFF then some low else none
    | none => none
  | _ => none

/-- Reads a text from behind its opening quote; with the quote it begins at `start`. -/
def readText (start : List Char) : Nat → List Char → String →
    Except Malformed (String × List Char)
  | 0, _, _ => fail "Unterminated string starting at" start
  | fuel + 1, cs, done =>
    match cs with
    | [] => fail "Unterminated string starting at" start
    | '"' :: rest => .ok (done, rest)
    | '\\' :: rest =>
      match rest with
      | [] => fail "Unterminated string starting at" start
      | 'u' :: digits =>
        match hexValue? digits with
        | none => fail "Invalid \\uXXXX escape" rest
        | some code =>
          match lowHalf? (digits.drop 4) with
          | some low =>
            if 0xD800 ≤ code ∧ code ≤ 0xDBFF then
              let full := 0x10000 + (code - 0xD800) * 0x400 + (low - 0xDC00)
              readText start fuel (digits.drop 10) (done.push (Char.ofNat full))
            else readText start fuel (digits.drop 4) (done.push (Char.ofNat code))
          | none => readText start fuel (digits.drop 4) (done.push (Char.ofNat code))
      | e :: rest =>
        match shortEscape? e with
        | some x => readText start fuel rest (done.push x)
        | none => fail "Invalid \\escape" cs
    | x :: rest =>
      if x.toNat < 32 then fail "Invalid control character at" cs
      else readText start fuel rest (done.push x)

/-- An integer part without needless zeros, if the text starts with a number. -/
def wholePart (cs : List Char) : Option (List Nat × List Char) :=
  match Numeral.takeDigits cs with
  | ([], _) => none
  | (0 :: _, _) => some ([0], cs.drop 1)
  | (ds, rest) => some (ds, rest)

def fractionPart (cs : List Char) : Option (List Nat × List Char) :=
  match cs with
  | '.' :: rest =>
    match Numeral.takeDigits rest with
    | ([], _) => none
    | (ds, rest) => some (ds, rest)
  | _ => none

def powerPart (cs : List Char) : Option (Int × List Char) :=
  match cs with
  | e :: rest =>
    if e == 'e' || e == 'E' then
      let (down, rest) := Numeral.takeSign rest
      match Numeral.takeDigits rest with
      | ([], _) => none
      | (ds, rest) =>
        let size : Int := Numeral.ofDigits ds
        some (if down then -size else size, rest)
    else none
  | [] => none

/-- A number at the start of the text, with the digits of its integer part. -/
def readNumber? (cs : List Char) : Option (Value × List Nat × List Char) :=
  let (negative, digits) := match cs with
    | '-' :: rest => (true, rest)
    | _ => (false, cs)
  match wholePart digits with
  | none => none
  | some (whole, rest) =>
    match fractionPart rest, powerPart ((fractionPart rest).elim rest Prod.snd) with
    | none, none =>
      let size : Int := Numeral.ofDigits whole
      some (.int (if negative then -size else size), whole, rest)
    | fraction, power =>
      let digits := whole ++ fraction.elim [] Prod.fst
      let exponent := power.elim 0 Prod.fst - (fraction.elim [] Prod.fst).length
      let rest := power.elim (fraction.elim rest Prod.snd) Prod.snd
      some (.float (.ofDecimal negative (Numeral.ofDigits digits) exponent), whole, rest)

def words : List (String × Value) := [
  ("null", .null), ("true", .bool true), ("false", .bool false), ("NaN", .float (.nan 0)),
  ("Infinity", .float (.infinite false)), ("-Infinity", .float (.infinite true))]

/-- A word or number at the start of the text. -/
def readPlain (bounds : Bounds) (cs : List Char) : Except Malformed (Value × List Char) :=
  match words.find? fun w => w.1.toList.isPrefixOf cs with
  | some (word, v) => .ok (v, cs.drop word.length)
  | none =>
    match readNumber? cs with
    | some (.int i, whole, rest) =>
      if bounds.digits < whole.length then .error (.tooManyDigits whole.length)
      else .ok (.int i, rest)
    | some (v, _, rest) => .ok (v, rest)
    | none => fail "Expecting value" cs

mutual

/-- Reads a value. The fuel is at least the number of characters that are left. -/
def readValue (bounds : Bounds) : Nat → Nat → List Char →
    Except Malformed (Value × List Char)
  | 0, _, cs => fail "Expecting value" cs
  | fuel + 1, level, cs =>
    match cs with
    | '"' :: rest => do
      let (s, rest) ← readText cs fuel rest ""
      return (.str s, rest)
    | '[' :: rest =>
      if level = 0 then .error .tooDeep
      else
        match skipSpace rest with
        | ']' :: rest => .ok (.list [], rest)
        | rest => readItems bounds fuel (level - 1) rest []
    | '\x7b' :: rest =>
      if level = 0 then .error .tooDeep
      else
        match skipSpace rest with
        | '\x7d' :: rest => .ok (.record [], rest)
        | rest => readEntries bounds fuel (level - 1) rest []
    | _ => readPlain bounds cs

/-- The elements of a list, from the first one on. -/
def readItems (bounds : Bounds) : Nat → Nat → List Char → List Value →
    Except Malformed (Value × List Char)
  | 0, _, cs, _ => fail "Expecting value" cs
  | fuel + 1, level, cs, done => do
    let (v, rest) ← readValue bounds fuel level cs
    match skipSpace rest with
    | ']' :: rest => return (.list (v :: done).reverse, rest)
    | ',' :: rest => readItems bounds fuel level (skipSpace rest) (v :: done)
    | rest => fail "Expecting ',' delimiter" rest

/-- The entries of a record, from the first one on; a key given again replaces its value. -/
def readEntries (bounds : Bounds) : Nat → Nat → List Char → Table Value →
    Except Malformed (Value × List Char)
  | 0, _, cs, _ => fail "Expecting value" cs
  | fuel + 1, level, cs, done =>
    match cs with
    | '"' :: rest => do
      let (key, rest) ← readText cs fuel rest ""
      match skipSpace rest with
      | ':' :: rest =>
        let (v, rest) ← readValue bounds fuel level (skipSpace rest)
        match skipSpace rest with
        | '\x7d' :: rest => return (.record (done.put key v), rest)
        | ',' :: rest => readEntries bounds fuel level (skipSpace rest) (done.put key v)
        | rest => fail "Expecting ',' delimiter" rest
      | rest => fail "Expecting ':' delimiter" rest
    | _ => fail "Expecting property name enclosed in double quotes" cs

end

/-- A text that is one value within bounds, blanks around it. -/
def readWithin (bounds : Bounds) (text : String) : Except Malformed Value := do
  let cs := text.toList
  let (v, rest) ← readValue bounds (2 * cs.length + 2) bounds.depth (skipSpace cs)
  match skipSpace rest with
  | [] => return v
  | rest => throw (.wrong "Extra data" rest.length)

/-- A text that is one value, however deep and however large its numbers are. -/
def read (text : String) : Except Malformed Value :=
  readWithin ⟨text.length + 1, text.length + 1⟩ text

def writeCharacter (c : Char) : String :=
  if c = '"' then "\\\""
  else if c = '\\' then "\\\\"
  else if c.toNat < 32 then "\\u" ++ Quoted.hexDigits c.toNat 4
  else c.toString

def writeText (s : String) : String :=
  "\"" ++ s.toList.foldl (fun text c => text ++ writeCharacter c) "" ++ "\""

mutual

/-- The text of a value; what JSON has no form for is written as null. -/
def write : Value → String
  | .bool b => if b then "true" else "false"
  | .int i => toString i
  | .float x => x.text
  | .str s => writeText s
  | .name _ s => writeText s
  | .list xs => "[" ++ ",".intercalate (writeItems xs) ++ "]"
  | .tuple xs => "[" ++ ",".intercalate (writeItems xs) ++ "]"
  | .record entries => "\x7b" ++ ",".intercalate (writeEntries entries) ++ "\x7d"
  | .mapping entries => "\x7b" ++ ",".intercalate (writePairs entries) ++ "\x7d"
  | .null | .set _ | .entity .. => "null"
termination_by structural v => v

def writeItems : List Value → List String
  | [] => []
  | x :: xs => write x :: writeItems xs
termination_by structural xs => xs

def writeEntries : List (String × Value) → List String
  | [] => []
  | e :: es => writeEntry e :: writeEntries es
termination_by structural es => es

def writeEntry : String × Value → String
  | (key, x) => writeText key ++ ":" ++ write x
termination_by structural e => e

def writePairs : List (Value × Value) → List String
  | [] => []
  | p :: ps => writePair p :: writePairs ps
termination_by structural ps => ps

/-- A key that is no text is written as the text that shows it. -/
def writePair : Value × Value → String
  | (key, x) => writeText key.display ++ ":" ++ write x
termination_by structural p => p

end

end Json

end FormEngine
