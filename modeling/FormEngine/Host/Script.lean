import FormEngine.Host.Basic
import FormEngine.Host.Construct

/-!
Scripted host functions: small functions named by what they do, with their settings in a record.
They stand in for an application's own functions.
-/

namespace FormEngine

namespace Script

open Construct

/-- The element at a position, counted from the end when it is negative. -/
def element (kind : String) (xs : List Value) (i : Int) : Outcome :=
  let position := if i < 0 then i + xs.length else i
  match if position < 0 then none else xs[position.toNat]? with
  | some x => .ok x
  | none => .error (.outOfRange (kind ++ " index out of range"))

/-- An element of a sequence, by a key that has to be a position. -/
def elementAt (kind : String) (xs : List Value) (key : Value) : Outcome :=
  match key with
  | .int i => element kind xs i
  | .bool b => element kind xs (if b then 1 else 0)
  | key =>
    if kind == "string" then
      .error (.typeMismatch s!"string indices must be integers, not '{key.kindName}'")
    else
      .error (.typeMismatch s!"{kind} indices must be integers or slices, not {key.kindName}")

/-- A part of a value: the entry of a record by its key, an element by its position. -/
def part (v : Value) (key : Value) : Outcome :=
  match v with
  | .record entries =>
    match key.text?.bind (Table.get? entries) with
    | some x => .ok x
    | none => .error (.missingKey key)
  | .mapping entries => ((Value.pairAt? entries key).map .ok).getD (.error (.missingKey key))
  | .list xs => elementAt "list" xs key
  | .tuple xs => elementAt "tuple" xs key
  | .str s | .name _ s => elementAt "string" (characters s) key
  | v => .error (.typeMismatch s!"'{v.kindName}' object is not subscriptable")

/-- An entry of a record, null when it is missing. -/
def fieldOf (v : Value) (key : String) : Outcome :=
  match v with
  | .record entries => .ok (Value.entry entries key)
  | .mapping entries => .ok ((Value.pairAt? entries (.str key)).getD .null)
  | v => .error (.missingAttribute s!"'{v.kindName}' object has no attribute 'get'")

def pairsOf (v : Value) : Except Fault (List (Value × Value)) :=
  match v.pairs? with
  | some pairs => .ok pairs
  | none => .error (.typeMismatch s!"'{v.kindName}' object is not a mapping")

/-- The outcome for the first case whose wanted value equals the argument. -/
def firstCase (argument : Value) (default : Value) : List Value → Value
  | [] => default
  | .list [wanted, outcome] :: rest =>
    if argument.equal wanted then outcome else firstCase argument default rest
  | _ :: rest => firstCase argument default rest

def optionEntry (label value item : Value) : Outcome := do
  let label ← part item label
  let value ← part item value
  return .record [("label", label), ("value", value)]

/-- A value with the entries of a record, or the keys and values of pairs, added to it. -/
def extend (v changes : Value) : Outcome := do
  match v with
  | .set xs =>
    let added ← visited changes
    match added.find? fun x => !x.hashable with
    | some x => throw (.typeMismatch s!"unhashable type: '{x.kindName}'")
    | none => return Value.setOf (xs ++ added)
  | v =>
    match v.pairs? with
    | some pairs => return Value.ofPairs (pairs ++ (← pairsOf (← record changes)))
    | none => throw (.missingAttribute s!"'{v.kindName}' object has no attribute 'update'")

/-- A collection with another value in the place of one of its parts. -/
def replacePart (v key part : Value) : Value :=
  let position := fun (n : Nat) =>
    match key with
    | .int i => (if i < 0 then i + n else i).toNat
    | .bool b => if b then 1 else 0
    | _ => 0
  match v with
  | .list xs => .list (xs.set (position xs.length) part)
  | .tuple xs => .tuple (xs.set (position xs.length) part)
  | v => ((v.pairs?.map fun pairs => Value.ofPairs (Value.putPair pairs key part))).getD v

structure Settings where
  entries : Table Value

namespace Settings

def get (s : Settings) (key : String) : Value := Value.entry s.entries key

def text (s : Settings) (key : String) : String := ((s.get key).text?).getD ""

def items (s : Settings) (key : String) : List Value := ((s.get key).elements?).getD []

def function (s : Settings) : String := s.text "function"

end Settings

/-- What a scripted function gives for its arguments, and its first argument if it alters it. -/
def outcome (s : Settings) (a b : Value) : Outcome × Option Value :=
  match s.function with
  | "const" => (.ok (s.get "result"), none)
  | "raise" =>
    (.error (.runtime (if s.entries.has "message" then s.text "message" else "boom")), none)
  | "value" => (.ok a, none)
  | "eq" => (.ok (.bool (a.equal (s.get "to"))), none)
  | "ne" => (.ok (.bool (!a.equal (s.get "to"))), none)
  | "cases" => (.ok (firstCase a (s.get "default") (s.items "cases")), none)
  | "eq_field" => ((fieldOf b (s.text "field")).map fun x => .bool (a.equal x), none)
  | "fields_equal" =>
    (do
      let x ← fieldOf a (s.text "a")
      let y ← fieldOf a (s.text "b")
      return .bool (x.equal y), none)
  | "min_len" =>
    (match a.length?, s.get "n" with
      | some length, .int n => .ok (if n ≤ length then .bool true else s.get "message")
      | some _, _ => .error (.typeMismatch "unlike values")
      | none, _ => .error (.typeMismatch s!"object of type '{a.kindName}' has no len()"), none)
  | "get" => (part a (s.get "key"), none)
  | "pairs" =>
    (do
      let items ← visited (← part a (s.get "key"))
      let pairs ← items.mapM (optionEntry (s.get "label") (s.get "value"))
      return .list pairs, none)
  | "set_key" =>
    (do
      let outer ← pairsOf a
      let inner ← pairsOf b
      let extra ← if s.entries.has "extra" then pairsOf (s.get "extra") else .ok []
      return Value.ofPairs (Value.putPair outer (s.get "key") (Value.ofPairs (inner ++ extra))), none)
  | "update_in_place" =>
    match (do extend (← part a (s.get "key")) b : Outcome) with
    | .ok inner => (.ok .null, some (replacePart a (s.get "key") inner))
    | .error e => (.error e, none)
  | _ => (.error (.typeMismatch "not a function of these arguments"), none)

/-- The last delay listed for the argument, otherwise the general one. -/
def delayFor (s : Settings) (a : Value) : Span :=
  (s.items "delays").foldl
    (fun kept entry =>
      match entry with
      | .list [wanted, milliseconds] =>
        if a.equal wanted then Time.secondsOf milliseconds else kept
      | _ => kept)
    (Time.secondsOf (s.get "delay_ms"))

def settingsOf (f : Callable) : Settings := ⟨(f.code.record?).getD []⟩

/-- What becomes of a call: types make values, functions do what their settings say. -/
def reply (f : Callable) (arguments : List Value) : Reply :=
  match f.kind, f.code with
  | .type, .str word => { outcome := ofArguments word arguments }
  | .model, _ => {
      outcome := .error (.typeMismatch
        s!"BaseModel.__init__() takes 1 positional argument but {arguments.length + 1} were given") }
  | .adapter, _ | .rule, _ | .field, _ | .pending, _ => {
      outcome := .error (.typeMismatch
        s!"'{(Value.entity f.kind f.key .null).kindName}' object is not callable") }
  | _, _ =>
    let s := settingsOf f
    let a := arguments.headD .null
    let result := outcome s a ((arguments.drop 1).headD .null)
    let events := if s.entries.has "log" then [Event.called (s.get "log") a] else []
    ⟨result.1, events, result.2⟩

/-- The host whose functions are all scripted. -/
def host : Host where
  run := reply
  delay f arguments := delayFor (settingsOf f) (arguments.headD .null)

end Script

end FormEngine
