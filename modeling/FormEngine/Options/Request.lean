import FormEngine.Options.Address

/-!
Requests for options: the address, and what is sent with it. A request that only reads carries its
payload as parameters of the address, one that posts carries it as its body.
-/

namespace FormEngine

inductive Method
  | get
  | post
  deriving DecidableEq, Repr, Inhabited

namespace Method

def word : Method → String
  | .get => "GET"
  | .post => "POST"

end Method

structure Request where
  method : Method
  address : Address
  body : Option Value
  headers : Table String

/-- Why a request cannot be made: a fault, or a refusal that may be tried again. -/
inductive Unsendable
  | fault (e : Fault)
  | refused (message : String)

mutual

/-- A value as it arrives when it is sent as JSON. A number that is not finite is refused, and what is
no JSON value is a fault. -/
def sent : Value → Except Unsendable Value
  | .float x =>
    if x.isFinite then .ok (.float x)
    else .error (.refused "Out of range float values are not JSON compliant")
  | .name _ s => .ok (.str s)
  | .list xs | .tuple xs => (sentItems xs).map .list
  | .record entries => (sentEntries entries).map .record
  | .set _ => .error (.fault (.typeMismatch "Object of type set is not JSON serializable"))
  | .entity kind key _ => .error (.fault (.typeMismatch
      s!"Object of type {(Value.entity kind key .null).kindName} is not JSON serializable"))
  | v => .ok v
termination_by structural v => v

def sentItems : List Value → Except Unsendable (List Value)
  | [] => .ok []
  | x :: xs => do return (← sent x) :: (← sentItems xs)
termination_by structural xs => xs

def sentEntries : List (String × Value) → Except Unsendable (List (String × Value))
  | [] => .ok []
  | e :: es => do return (← sentEntry e) :: (← sentEntries es)
termination_by structural es => es

def sentEntry : String × Value → Except Unsendable (String × Value)
  | (key, x) => (sent x).map fun y => (key, y)
termination_by structural e => e

end

namespace Request

/-- The text that stands for one value among the parameters. -/
def parameterText : Value → String
  | .null => ""
  | .bool b => if b then "true" else "false"
  | v => v.display

/-- A list is sent as one parameter for each of its elements. -/
def parameterTexts : Value → List String
  | .list xs => xs.map parameterText
  | .tuple xs => xs.map parameterText
  | v => [parameterText v]

def parametersOf (payload : Table Value) : List (String × String) :=
  payload.flatMap fun e => (parameterTexts e.2).map fun text => (e.1, text)

/-- A text as part of a query: a blank is written as a plus sign. -/
def escaped (s : String) : String :=
  String.ofList ((Percent.encodeAll (· == ' ') s).toList.map fun c => if c == ' ' then '+' else c)

/-- Parameters as a query. -/
def queryOf (parameters : List (String × String)) : String :=
  "&".intercalate (parameters.map fun p => escaped p.1 ++ "=" ++ escaped p.2)

/-- The first characters beyond ASCII in a text: where they begin and how many they are. -/
def foreignRun? (s : String) : Option (Nat × List Char) :=
  let isPlain := fun (c : Char) => c.toNat < 128
  match s.toList.span isPlain with
  | (_, []) => none
  | (before, rest) => some (before.length, rest.takeWhile fun c => !isPlain c)

def foreignComplaint (start : Nat) (cs : List Char) : String :=
  let code := fun (c : Char) =>
    if c.toNat < 0x100 then "\\x" ++ Quoted.hexDigits c.toNat 2
    else if c.toNat < 0x10000 then "\\u" ++ Quoted.hexDigits c.toNat 4
    else "\\U" ++ Quoted.hexDigits c.toNat 8
  let what := match cs with
    | [c] => "character '" ++ code c ++ "' in position " ++ toString start
    | _ => s!"characters in position {start}-{start + cs.length - 1}"
  "'ascii' codec can't encode " ++ what ++ ": ordinal not in range(128)"

/-- Headers are sent in ASCII; the first name or value that is not is complained of. -/
def headerComplaint? (headers : Table String) : Option String :=
  (headers.flatMap fun e => [e.1, e.2]).findSome? fun s =>
    (foreignRun? s).map fun run => foreignComplaint run.1 run.2

/-- Makes a request, unless its address, its headers or what it is to carry are none. -/
def make (method : Method) (url : String) (payload : Table Value) (headers : Table String) :
    Except Unsendable Request := do
  let address ← (Address.read url).mapError fun e => Unsendable.fault e.toFault
  if let some message := headerComplaint? headers then throw (.refused message)
  match method with
  | .get =>
    let query := if payload.isEmpty then none else some (queryOf (parametersOf payload))
    return ⟨.get, address.target.withQuery query, none, headers⟩
  | .post =>
    return ⟨.post, address.target, some (.record (← sentEntries payload)), headers⟩

/-- The parameters by name; those of one name stay in order. -/
def sortedParameters (r : Request) : List (String × String) :=
  (Address.parameters (r.address.query.getD "")).mergeSort fun a b => a.1 ≤ b.1

end Request

end FormEngine
