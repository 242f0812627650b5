import FormEngine.Fault
import FormEngine.Text.Numeral
import FormEngine.Value.Equality

/-!
Making a value of one kind out of a value of another: the elements that a loop visits, a record out of
pairs, a number out of a text. A type that is called as a function does this.
-/

namespace FormEngine

namespace Construct

abbrev Outcome := Except Fault Value

def characters (s : String) : List Value := s.toList.map fun c => .str c.toString

/-- The elements that a loop over a value visits. -/
def visited (v : Value) : Except Fault (List Value) :=
  match v with
  | .str s | .name _ s => .ok (characters s)
  | v =>
    match v.pairs?, v.elements? with
    | some pairs, _ => .ok (pairs.map Prod.fst)
    | none, some xs => .ok xs
    | none, none => .error (.typeMismatch s!"'{v.kindName}' object is not iterable")

def list (v : Value) : Outcome := (visited v).map .list

/-- A key and a value given as two elements in a row. -/
def pair (position : Nat) (v : Value) : Except Fault (Value × Value) :=
  match visited v with
  | .error _ => .error (.typeMismatch
      s!"cannot convert dictionary update sequence element #{position} to a sequence")
  | .ok [key, x] =>
    if key.hashable then .ok (key, x)
    else .error (.typeMismatch s!"unhashable type: '{key.kindName}'")
  | .ok parts => .error (.badValue
      s!"dictionary update sequence element #{position} has length {parts.length}; 2 is required")

/-- A record as it is, or out of a collection of pairs. -/
def record (v : Value) : Outcome :=
  match v.pairs? with
  | some _ => .ok v
  | none => do
    let pairs ← (← visited v).zipIdx.mapM fun x => pair x.2 x.1
    return Value.ofPairs pairs

/-- An integer out of a number, whose fraction is dropped, or out of a text. -/
def integer (v : Value) : Outcome :=
  match v with
  | .bool b => .ok (.int (if b then 1 else 0))
  | .int i => .ok (.int i)
  | .float x =>
    match x.toRat? with
    | some q => .ok (.int (Int.tdiv q.num q.den))
    | none =>
      if x.isNaN then .error (.badValue "cannot convert float NaN to integer")
      else .error (.overflow "cannot convert float infinity to integer")
  | v =>
    match v.text? with
    | some s =>
      match Numeral.integerOfText? s, Numeral.digitCount? s with
      | some i, _ => .ok (.int i)
      | none, some n => .error (.badValue (Numeral.tooManyDigits n))
      | none, none => .error (.badValue s!"invalid literal for int() with base 10: {v.quoted}")
    | none => .error (.typeMismatch <|
        "int() argument must be a string, a bytes-like object or a real number, not "
          ++ Quoted.quote v.kindName)

/-- A double out of a number or a text. -/
def number (v : Value) : Outcome :=
  match v with
  | .bool b => .ok (.float (.ofInt (if b then 1 else 0)))
  | .int i =>
    let x := Binary64.ofInt i
    if x.isFinite then .ok (.float x) else .error (.overflow "int too large to convert to float")
  | .float x => .ok (.float x)
  | v =>
    match v.text? with
    | some s =>
      match Numeral.doubleOfText? s with
      | some x => .ok (.float x)
      | none => .error (.badValue s!"could not convert string to float: {v.quoted}")
    | none => .error (.typeMismatch <|
        "float() argument must be a string or a real number, not " ++ Quoted.quote v.kindName)

/-- What the type of a word makes of a value; a type of collections does not look at what is inside. -/
def ofType (word : String) (v : Value) : Outcome :=
  match (word.splitOn "[").headD "" with
  | "int" => integer v
  | "float" => number v
  | "str" => .ok (.str v.display)
  | "bool" => .ok (.bool v.truthy)
  | "list" => list v
  | "dict" => record v
  | _ => .error (.typeMismatch s!"'{word}' cannot be called")

/-- A type makes one value out of one. -/
def ofArguments (word : String) : List Value → Outcome
  | [v] => ofType word v
  | arguments => .error (.typeMismatch
      s!"{word} expected at most 1 argument, got {arguments.length}")

end Construct

end FormEngine
