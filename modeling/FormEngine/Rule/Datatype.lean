import FormEngine.Rule.Calendar
import FormEngine.Schema.Scalar
import FormEngine.Value.Order

/-!
Types of data. A value is read as a type: it is converted where data admits that, or else there are
complaints about it or about its parts. Limits that a type knows are looked at on the way. Any other
limit is a test of the value that was read; a test that cannot be made at all is a fault.
-/

namespace FormEngine

/-- A count with its noun. -/
def counted (n : Nat) (one many : String) : String :=
  toString n ++ " " ++ (if n = 1 then one else many)

namespace Limits

/-- A bound as messages show it; truth values count as numbers. -/
def boundText : Value → String
  | .float x => x.plainText
  | .bool b => if b then "1" else "0"
  | v => v.text?.getD v.display

def tooGreat (bound : Value) : String :=
  "Input should be less than or equal to " ++ boundText bound

def tooSmall (bound : Value) : String :=
  "Input should be greater than or equal to " ++ boundText bound

/-- The first of two limits on a number that is not kept; the greater one is looked at first. -/
def numberIssue? (least most v : Value) : Option String :=
  if !most.isNull && v.lessEqual? most != some true then some (tooGreat most)
  else if !least.isNull && least.lessEqual? v != some true then some (tooSmall least)
  else none

def tooShort? (least : Option Nat) (length : Nat) : Option String :=
  (least.filter (length < ·)).map fun n =>
    "String should have at least " ++ counted n "character" "characters"

def tooLong? (most : Option Nat) (length : Nat) : Option String :=
  (most.filter (· < length)).map fun n =>
    "String should have at most " ++ counted n "character" "characters"

def textIssue? (least most : Option Nat) (s : String) : Option String :=
  (tooShort? least s.length).or (tooLong? most s.length)

/-- Fewer things than there have to be; what they are in is named by a noun. -/
def underfull? (noun : String) (least : Option Nat) (length : Nat) : Option String :=
  (least.filter (length < ·)).map fun n =>
    noun ++ " should have at least " ++ counted n "item" "items" ++ " after validation, not "
      ++ toString length

/-- More things than there may be; their number is told where it is known. -/
def overfull? (noun : String) (most : Option Nat) (length : Nat) (known : Bool := true) :
    Option String :=
  (most.filter (· < length)).map fun n =>
    noun ++ " should have at most " ++ counted n "item" "items" ++ " after validation, not "
      ++ (if known then toString length else "more")

end Limits

/-- A limit on a value, whatever its type. -/
inductive Test
  | atLeast (bound : Value)
  | atMost (bound : Value)
  | longEnough (length : Value)
  | shortEnough (length : Value)

inductive Datatype
  | anything
  | nothing
  | integer (least most : Option Int)
  | number (least most : Option Binary64)
  | text (least most : Option Nat)
  | boolean
  | date
  | time
  | moment
  | list (item : Datatype) (least most : Option Nat)
  | record (key value : Datatype) (least most : Option Nat)
  | bytes
  /-- things of one type, each of them once; the word is that for the collection -/
  | set (word : String) (item : Datatype)
  /-- any number of things of one type in order -/
  | tuple (item : Datatype)
  /-- one thing of each type -/
  | fixed (items : List Datatype)
  | nullable (t : Datatype)
  | choice (members : List Datatype)
  | tested (t : Datatype) (test : Test)
  /-- a record with attributes, each with its type and whether it has a default -/
  | model (name : String) (attributes : List (String × Datatype × Bool))
  deriving Inhabited

/-- What becomes of a value that is read as a type. -/
abbrev Reading := Except Fault (Checked Value)

namespace Reading

def complain (message : Option String) (v : Value) : Reading :=
  .ok (message.elim (.ok v) Checked.fail)

/-- The readings of elements, one after the other. -/
def items (read : Value → Reading) : Nat → List Value → Except Fault (Checked (List Value))
  | _, [] => .ok (.ok [])
  | n, x :: xs => do
    let y ← read x
    let ys ← items read (n + 1) xs
    return List.cons <$> y.under (.index n) <*> ys

/-- What is read as a member of a set has to be one that can be in it. -/
def member (read : Value → Reading) (v : Value) : Reading := do
  match ← read v with
  | .ok x => return if x.hashable then .ok x else .fail "Set items should be hashable"
  | .failed issues => return .failed issues

def step : Value → PathStep
  | .int i => if 0 ≤ i then .index i.toNat else .key (toString i)
  | v => .key (v.text?.getD v.display)

/-- A key and its value; complaints about the key itself stand one step further. -/
def pair (readKey read : Value → Reading) (e : Value × Value) :
    Except Fault (Checked (Value × Value)) := do
  let key ← readKey e.1
  let v ← read e.2
  return Prod.mk <$> (key.underKey "[key]").under (step e.1) <*> v.under (step e.1)

/-- All pairs, unless those that can be read are too many. -/
def pairs (readKey read : Value → Reading) (least most : Option Nat) (entries : List (Value × Value)) :
    Reading := do
  let readings ← entries.mapM (pair readKey read)
  let kept := readings.filterMap Checked.toOption
  let issues := readings.flatMap Checked.issues
  match Limits.overfull? "Dictionary" most kept.length false with
  | some message => return .fail message
  | none =>
    if !issues.isEmpty then return .failed issues
    else complain (Limits.underfull? "Dictionary" least kept.length) (Value.ofPairs kept)

end Reading

namespace Test

def wrongKind : Fault := .typeMismatch "a limit cannot be applied to a value"

/-- A length as a number of things. -/
def count? : Value → Option Nat
  | .bool b => some (if b then 1 else 0)
  | .int i => if Word.isUnsigned i then some i.toNat else none
  | _ => none

/-- A length is compared with a limit, which has to be a number of things where it is not kept. -/
def compareLength (limit x : Value) (kept : Value → Option Bool)
    (message : Nat → Nat → Option String) : Reading :=
  match x.length? with
  | none => .error wrongKind
  | some length =>
    match kept (.int length), count? limit with
    | some true, _ => .ok (.ok x)
    | some false, some n => Reading.complain (message n length) x
    | _, _ => .error wrongKind

def apply (test : Test) (x : Value) : Reading :=
  let compare := fun (kept : Option Bool) (message : String) =>
    match kept with
    | some true => Except.ok (Checked.ok x)
    | some false => .ok (.fail message)
    | none => .error wrongKind
  match test with
  | .atLeast bound => compare (bound.lessEqual? x) (Limits.tooSmall bound)
  | .atMost bound => compare (x.lessEqual? bound) (Limits.tooGreat bound)
  | .longEnough limit =>
    compareLength limit x (fun length => limit.lessEqual? length) fun n length =>
      Limits.underfull? "Value" (some n) length
  | .shortEnough limit =>
    compareLength limit x (fun length => length.lessEqual? limit) fun n length =>
      Limits.overfull? "Value" (some n) length

end Test

namespace Datatype

mutual

/-- The word for a type where it is one of several. -/
def label : Datatype → String
  | .anything => "any"
  | .nothing => "none"
  | .integer _ _ => "int"
  | .number _ _ => "float"
  | .text _ _ => "str"
  | .boolean => "bool"
  | .date => "date"
  | .time => "time"
  | .moment => "datetime"
  | .list item _ _ => "list[" ++ label item ++ "]"
  | .record key value _ _ => "dict[" ++ label key ++ "," ++ label value ++ "]"
  | .bytes => "bytes"
  | .set word item => word ++ "[" ++ label item ++ "]"
  | .tuple item => "tuple[" ++ label item ++ ", ...]"
  | .fixed items => "tuple[" ++ ", ".intercalate (labels items) ++ "]"
  | .nullable t => "nullable[" ++ label t ++ "]"
  | .choice members => "union[" ++ ",".intercalate (labels members) ++ "]"
  | .tested t _ => label t
  | .model name _ => name

def labels : List Datatype → List String
  | [] => []
  | t :: ts => label t :: labels ts

end

mutual

/-- Reads a value as a type. -/
def read : Datatype → Value → Reading
  | .anything, v => .ok (.ok v)
  | .nothing, v => Reading.complain (if v.isNull then none else some "Input should be None") v
  | .integer least most, v =>
    match Scalar.int v with
    | .ok i =>
      Reading.complain (Limits.numberIssue? (least.elim .null .int) (most.elim .null .int) (.int i))
        (.int i)
    | .failed issues => .ok (.failed issues)
  | .number least most, v =>
    match Scalar.float v with
    | .ok x =>
      Reading.complain
        (Limits.numberIssue? (least.elim .null .float) (most.elim .null .float) (.float x)) (.float x)
    | .failed issues => .ok (.failed issues)
  | .text least most, v =>
    match Scalar.text v with
    | .ok s => Reading.complain (Limits.textIssue? least most s) (.str s)
    | .failed issues => .ok (.failed issues)
  | .boolean, v => .ok ((Scalar.bool v).map .bool)
  | .date, v => Reading.complain (Calendar.dateIssue? v) v
  | .time, v => Reading.complain (Calendar.timeIssue? v) v
  | .moment, v => Reading.complain (Calendar.momentIssue? v) v
  | .list item least most, v =>
    match v.elements? with
    | none => .ok (.fail "Input should be a valid list")
    | some xs =>
      match Limits.overfull? "List" most xs.length with
      | some message => .ok (.fail message)
      | none => do
        match ← Reading.items (read item) 0 xs with
        | .ok ys => Reading.complain (Limits.underfull? "List" least ys.length) (.list ys)
        | .failed issues => return .failed issues
  | .record key value least most, v =>
    match v.pairs? with
    | none => .ok (.fail "Input should be a valid dictionary")
    | some entries => Reading.pairs (read key) (read value) least most entries
  | .bytes, v => Reading.complain (if v.text?.isSome then none else some "Input should be a valid bytes") v
  | .set word item, v =>
    match v.elements? with
    | none => .ok (.fail ("Input should be a valid " ++ word))
    | some xs => do return (← Reading.items (Reading.member (read item)) 0 xs).map Value.setOf
  | .tuple item, v =>
    match v.elements? with
    | none => .ok (.fail "Input should be a valid tuple")
    | some xs => do return (← Reading.items (read item) 0 xs).map .tuple
  | .fixed items, v =>
    match v.elements? with
    | none => .ok (.fail "Input should be a valid tuple")
    | some xs => do
      let own ← readEach items 0 xs
      let surplus := Limits.overfull? "Tuple" (some items.length) xs.length
      return (fun ys _ => .tuple ys) <$> own <*> (surplus.elim (.ok ()) Checked.fail)
  | .nullable t, v => if v.isNull then .ok (.ok v) else read t v
  | .choice members, v => readFirst members v
  | .tested t test, v => do
    match ← read t v with
    | .ok x => test.apply x
    | .failed issues => return .failed issues
  | .model name attributes, v =>
    match v.pairs? with
    | none => .ok (.fail ("Input should be a valid dictionary or instance of " ++ name))
    | some entries => readAttributes attributes entries v
termination_by structural t => t

/-- The first of several readings without complaints, or else the complaints of all. -/
def readFirst : List Datatype → Value → Reading
  | [], _ => .ok (.failed [])
  | t :: ts, v => do
    match ← read t v with
    | .ok x => return .ok x
    | .failed issues =>
      match ← readFirst ts v with
      | .ok x => return .ok x
      | .failed others =>
        let place := PathStep.key (label t)
        return .failed (issues.map (fun i => { i with place := place :: i.place }) ++ others)
termination_by structural ts => ts

/-- One thing of each type; those that are missing are complained of. -/
def readEach : List Datatype → Nat → List Value → Except Fault (Checked (List Value))
  | [], _, _ => .ok (.ok [])
  | t :: ts, n, xs => do
    let y ← match xs.head? with
      | some x => read t x
      | none => .ok (.fail "Field required")
    let ys ← readEach ts (n + 1) xs.tail
    return List.cons <$> y.under (.index n) <*> ys
termination_by structural ts => ts

/-- The attributes of a record, which is kept as a whole. -/
def readAttributes : List (String × Datatype × Bool) → List (Value × Value) → Value → Reading
  | [], _, v => .ok (.ok v)
  | a :: rest, entries, v => do
    let own ← readAttribute a entries
    let others ← readAttributes rest entries v
    return (fun _ v => v) <$> own <*> others
termination_by structural attributes => attributes

def readAttribute : String × Datatype × Bool → List (Value × Value) → Reading
  | (name, typed), entries => readNamed name typed entries
termination_by structural a => a

def readNamed (name : String) : Datatype × Bool → List (Value × Value) → Reading
  | (t, hasDefault), entries => do
    match Value.pairAt? entries (.str name) with
    | some x => return (← read t x).underKey name
    | none => return if hasDefault then .ok .null else (Checked.fail "Field required").underKey name
termination_by structural a => a

end

/-! ### Limits on a type -/

def wholeBound : Value → Except Fault Int
  | .bool b => .ok (if b then 1 else 0)
  | .int i => .ok i
  | _ => .error .badRule

def doubleBound : Value → Except Fault Binary64
  | .bool b => .ok (.ofInt (if b then 1 else 0))
  | .int i =>
    let x := Binary64.ofInt i
    if x.isFinite then .ok x else .error .badRule
  | .float x => .ok x
  | _ => .error .badRule

def lengthBound (v : Value) : Except Fault Nat :=
  match Test.count? v with
  | some n => .ok n
  | none => .error .badRule

/-- A type with one more limit. It takes those that it knows; a type that has been tested knows none
any more. -/
def limited (t : Datatype) (test : Test) : Except Fault Datatype :=
  match t, test with
  | .integer _ most, .atLeast b => do return .integer (← wholeBound b) most
  | .integer least _, .atMost b => do return .integer least (← wholeBound b)
  | .number _ most, .atLeast b => do return .number (← doubleBound b) most
  | .number least _, .atMost b => do return .number least (← doubleBound b)
  | .text _ most, .longEnough n => do return .text (← lengthBound n) most
  | .text least _, .shortEnough n => do return .text least (← lengthBound n)
  | .list item _ most, .longEnough n => do return .list item (← lengthBound n) most
  | .list item least _, .shortEnough n => do return .list item least (← lengthBound n)
  | .record key value _ most, .longEnough n => do return .record key value (← lengthBound n) most
  | .record key value least _, .shortEnough n => do return .record key value least (← lengthBound n)
  | t, test => .ok (.tested t test)

/-- The limits that a description gives, in the order in which they are put on a type. -/
def testsOf (entries : Table Value) : List Test :=
  let given := fun (key : String) (test : Value → Test) =>
    let v := Value.entry entries key
    if v.isNull then [] else [test v]
  given "ge" .atLeast ++ given "le" .atMost ++ given "min_length" .longEnough
    ++ given "max_length" .shortEnough

def plainInteger : Datatype := .integer none none
def plainNumber : Datatype := .number none none
def plainText : Datatype := .text none none
def listOf (item : Datatype) : Datatype := .list item none none
def recordOf (key value : Datatype) : Datatype := .record key value none none

/-- One of two types, null being one that can be left out. -/
def either (a b : Datatype) : Datatype :=
  let members : Datatype → List Datatype := fun t =>
    match t with
    | .choice ts => ts
    | .nullable (.choice ts) => .nothing :: ts
    | .nullable t => [.nothing, t]
    | t => [t]
  let all := (members a ++ members b).foldl
    (fun kept t => if kept.any fun s => label s == label t then kept else kept ++ [t]) []
  let isNull := fun (t : Datatype) =>
    match t with
    | .nothing => true
    | _ => false
  let one := match all.filter fun t => !isNull t with
    | [] => .nothing
    | [t] => t
    | ts => .choice ts
  if all.any isNull && !isNull one then .nullable one else one

end Datatype

end FormEngine
