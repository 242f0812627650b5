import FormEngine.Condition
import FormEngine.Pattern.Search
import FormEngine.Text.Case

/-!
What the email input makes of an address: whether its form is good, which a pattern decides, and a
correction of its domain when that looks mistyped.
-/

namespace FormEngine

namespace EmailInput

/-- The letters and digits of ASCII. -/
def alphanumeric : List SetItem := [.range 97 122, .range 65 90, .range 48 57]

/-- One letter or digit, or a longer run with such at both ends and certain other characters inside. -/
def run (number : Nat) (inner : List Char) : List Pattern := [
  .oneOf alphanumeric false .none,
  .repeated (.group number (Pattern.sequence [
    .repeated (.oneOf (alphanumeric ++ inner.map fun c => .single c.toNat) false .none) 0 none .greedy,
    .oneOf alphanumeric false .none])) 0 (some 1) .greedy]

/-- What may stand inside a name besides letters and digits. -/
def nameMarks : List Char := ['.', '_', '+', '-']

/-- What may stand inside a label of a domain. -/
def labelMarks : List Char := ['-']

/-- A run as name, an at sign, and runs as labels, a dot before each label but the first. -/
def parts : List Pattern :=
  run 1 nameMarks ++ .char 64 false .none :: run 2 labelMarks ++
    [.repeated (.group 3 (Pattern.sequence (.char 46 false .none :: run 4 labelMarks))) 1 none .greedy]

/-- The pattern for addresses. Its end lets a final line break follow. -/
def format : Pattern := Pattern.sequence (.edge .textStart :: parts ++ [.edge .lastEnd])

def isWellFormed (address : String) : Bool := format.opens address

/-- What stands before the first at sign. -/
def nameOf (address : String) : String := String.ofList (address.toList.takeWhile (· != '@'))

/-- What stands after the first at sign. -/
def domainOf (address : String) : String :=
  String.ofList ((address.toList.dropWhile (· != '@')).drop 1)

def commonDomains : List String :=
  ["gmail.com", "yahoo.com", "hotmail.com", "outlook.com", "icloud.com"]

/-- Known misspellings, each with the domain that is meant. -/
def misspellings : List (String × String) := [
  ("gmai.com", "gmail.com"), ("gmial.com", "gmail.com"), ("gmailcom", "gmail.com"),
  ("yahooo.com", "yahoo.com"), ("yaho.com", "yahoo.com"), ("yahoocom", "yahoo.com"),
  ("hotmial.com", "hotmail.com"), ("hotmai.com", "hotmail.com"), ("hotmailcom", "hotmail.com")]

/-- Two domains of nearly one length, one of them starting like a part of the other. -/
def isNear (domain candidate : String) : Bool :=
  let d := domain.toList
  let c := candidate.toList
  (d.length ≤ c.length + 2 && c.length ≤ d.length + 2) &&
    (occursInText (d.take 3) c || occursInText (c.take 3) d)

/-- A corrected address, if the domain is a known misspelling or, in an address of bad form, near to a
common domain. -/
def suggestion? (address : String) : Option String :=
  let name := nameOf address
  let domain := toLower (domainOf address)
  if !address.toList.contains '@' || name.isEmpty || domain.isEmpty then none
  else
    match misspellings.lookup domain with
    | some meant => some (name ++ "@" ++ meant)
    | none =>
      if isWellFormed address then none
      else (commonDomains.find? (isNear domain)).map fun meant => name ++ "@" ++ meant

/-- What is said of a value: whether its form is good, and the suggestion for it. -/
def ofValue (v : Value) : Except Fault (Bool × Option String) :=
  match v.text? with
  | some s => .ok (isWellFormed s, suggestion? s)
  | none => .error (.typeMismatch "not an address")

/-- The suggestion for a value that need not be a text. -/
def suggestionFor (v : Value) : Except Fault (Option String) :=
  if !v.truthy then .ok none
  else
    match v with
    | .str s => .ok (suggestion? s)
    | .name _ s => .ok (suggestion? s)
    | .record entries =>
      if Table.has entries "@" then .error (.missingAttribute "partition") else .ok none
    | v =>
      match v.elements? with
      | some xs =>
        if Value.memberOf (.str "@") xs then .error (.missingAttribute "partition") else .ok none
      | none => .error (.typeMismatch s!"argument of type '{v.kindName}' is not iterable")

end EmailInput

end FormEngine
