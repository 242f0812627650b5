import FormEngine.Fault
import FormEngine.Text.DomainName
import FormEngine.Text.Numeral
import FormEngine.Text.Percent

/-!
Addresses of options: a scheme, a host with the user and the port, a path, a query and a fragment, any
of which may be missing. An address is read into a normal form of ASCII characters, and is absolute if
it has a scheme and a host.
-/

namespace FormEngine

structure Address where
  scheme : String := ""
  user : String := ""
  host : String := ""
  port : Option Int := none
  path : String := ""
  query : Option String := none
  fragment : Option String := none
  deriving DecidableEq, Repr, Inhabited

namespace Address

/-- Why a text is no address. -/
inductive Malformed
  | tooLong
  | control (c : Char) (position : Nat)
  | badNumbers (host : String)
  | badGroups (host : String)
  | badName (host : String)
  | badPort (port : String)
  | pathNotRooted
  | twoSlashes
  | leadingColon
  deriving DecidableEq, Repr

namespace Malformed

def message : Malformed → String
  | .tooLong => "URL too long"
  | .control c position =>
    "Invalid non-printable ASCII character in URL, " ++ Quoted.quote c.toString ++
      " at position " ++ toString position ++ "."
  | .badNumbers host => "Invalid IPv4 address: " ++ Quoted.quote host
  | .badGroups host => "Invalid IPv6 address: " ++ Quoted.quote host
  | .badName host => "Invalid IDNA hostname: " ++ Quoted.quote host
  | .badPort port => "Invalid port: " ++ Quoted.quote port
  | .pathNotRooted => "For absolute URLs, path must be empty or begin with '/'"
  | .twoSlashes => "Relative URLs cannot have a path starting with '//'"
  | .leadingColon => "Relative URLs cannot have a path starting with ':'"

def toFault (e : Malformed) : Fault := .foreign "InvalidURL" e.message

end Malformed

def longest : Nat := 65536

/-! ### Characters that stand for themselves -/

def isAmong (signs : String) (c : Char) : Bool := signs.toList.contains c

/-- A character that can be seen and is none of some signs. -/
def isVisibleBut (signs : String) (c : Char) : Bool :=
  0x20 < c.toNat && c.toNat < 0x7F && !isAmong signs c

def plainInQuery : Char → Bool := isVisibleBut "\"#<>"
def plainInFragment : Char → Bool := isVisibleBut "\"<>\x60"
def plainInPath : Char → Bool := isVisibleBut "\"#<>?\x60\x7b\x7d"
def plainInUser : Char → Bool := isVisibleBut "\"#<>?\x60\x7b\x7d/;=@[\\]^|"
def plainInHost : Char → Bool := isAmong "!$&'()*+,;=\"\x60\x7b\x7d%|\\"

/-! ### Hosts -/

def splitAt (mark : Char) (cs : List Char) : List (List Char) :=
  cs.foldr (fun c parts =>
    if c == mark then [] :: parts
    else
      match parts with
      | [] => [[c]]
      | p :: ps => (c :: p) :: ps) [[]]

/-- Whether a host could be meant as numbers: some digits, and as often as said, any one character and
digits again. -/
def looksNumeric : Nat → List Char → Bool
  | 0, cs => !cs.isEmpty && cs.all Char.isDigit
  | n + 1, cs =>
    (List.range (cs.takeWhile Char.isDigit).length).any fun i => looksNumeric n (cs.drop (i + 2))

/-- A number below 256 without needless zeros. -/
def isOctet (cs : List Char) : Bool :=
  !cs.isEmpty && cs.length ≤ 3 && cs.all Char.isDigit && (cs.head? != some '0' || cs.length == 1) &&
    cs.foldl (fun n c => 10 * n + (c.toNat - 48)) 0 < 256

def isNumberAddress (cs : List Char) : Bool :=
  let parts := splitAt '.' cs
  parts.length == 4 && parts.all isOctet

def isGroup (cs : List Char) : Bool := !cs.isEmpty && cs.length ≤ 4 && cs.all Percent.isHex

/-- Groups with colons between them: eight, or fewer around a gap. -/
def isGroups (parts : List (List Char)) : Bool :=
  let inner := (parts.drop 1).dropLast
  match inner.count [] with
  | 0 => parts.length == 8 && parts.all isGroup
  | 1 =>
    let gap := 1 + (inner.takeWhile fun p => !p.isEmpty).length
    let before := parts.take gap
    let after := parts.drop (gap + 1)
    let before := if before.head? == some [] then before.drop 1 else before
    let after := if after.getLast? == some [] then after.dropLast else after
    (before.isEmpty || (parts.head? != some [])) && (after.isEmpty || parts.getLast? != some []) &&
      before.length + after.length < 8 && (before ++ after).all isGroup
  | _ => false

/-- An address of groups; a zone may follow, and the last two groups may be given as numbers. -/
def isGroupAddress (cs : List Char) : Bool :=
  let (cs, zone) := cs.span (· != '%')
  let zoneFits := zone.isEmpty || (1 < zone.length && !(zone.drop 1).contains '%')
  let parts := splitAt ':' cs
  let last := parts.getLast?.getD []
  let whole :=
    if last.contains '.' then
      if isNumberAddress last then parts.dropLast ++ [['0'], ['0']] else []
    else parts
  zoneFits && 3 ≤ parts.length && whole.length ≤ 9 && isGroups whole

/-- A host in its normal form. -/
def readHost (host : String) : Except Malformed String :=
  let cs := host.toList
  if cs.isEmpty then .ok ""
  else if looksNumeric 3 cs then
    if isNumberAddress cs then .ok host else .error (.badNumbers host)
  else if cs.head? == some '[' && cs.getLast? == some ']' && 1 < cs.length then
    let inner := (cs.drop 1).dropLast
    if isGroupAddress inner then .ok (String.ofList inner) else .error (.badGroups host)
  else if cs.all fun c => c.toNat < 128 then .ok (Percent.encode plainInHost (toLower host))
  else
    match DomainName.encode? (toLower host) with
    | some name => .ok name
    | none => .error (.badName host)

/-! ### The parts of an address -/

def defaultPort? : String → Option Int
  | "ftp" => some 21
  | "http" | "ws" => some 80
  | "https" | "wss" => some 443
  | _ => none

/-- A port; the one that goes without saying for a scheme is left out. -/
def readPort (scheme port : String) : Except Malformed (Option Int) :=
  if port.isEmpty then .ok none
  else
    match Numeral.integerOfText? port with
    | none => .error (.badPort port)
    | some i => .ok (if defaultPort? scheme = some i then none else some i)

/-- The user, the host and the port of an authority. -/
def splitAuthority (cs : List Char) : List Char × List Char × List Char :=
  let parts := splitAt '@' cs
  let user := (List.intercalate ['@'] parts.dropLast)
  let rest := parts.getLast?.getD []
  let bracketed := if rest.head? == some '[' then (rest.reverse.dropWhile (· != ']')).reverse else []
  let host := if bracketed.isEmpty then rest.takeWhile (· != ':') else bracketed
  let port := rest.drop host.length
  (user, host, if port.head? == some ':' then port.drop 1 else port)

/-- The segments of a path without those that stay or go up. -/
def withoutDots (path : String) : String :=
  let segments := splitAt '/' path.toList
  if !segments.any fun s => s == ['.'] || s == ['.', '.'] then path
  else
    let kept := segments.foldl (fun kept s =>
      if s == ['.'] then kept
      else if s == ['.', '.'] then (if kept == [[]] then kept else kept.dropLast)
      else kept ++ [s]) []
    String.ofList (List.intercalate ['/'] kept)

def checkPath (path : String) (hasScheme hasAuthority : Bool) : Except Malformed Unit :=
  let cs := path.toList
  if hasAuthority then
    if cs.isEmpty || cs.head? == some '/' then .ok () else .error .pathNotRooted
  else if hasScheme then .ok ()
  else if cs.take 2 == ['/', '/'] then .error .twoSlashes
  else if cs.head? == some ':' then .error .leadingColon
  else .ok ()

/-- A scheme with a colon behind it, if a text starts with one; it may be empty. -/
def splitScheme (cs : List Char) : List Char × List Char :=
  let isSchemeSign := fun (c : Char) => c.isAlphanum || c == '+' || c == '.' || c == '-'
  match cs with
  | ':' :: rest => ([], rest)
  | c :: _ =>
    match cs.span isSchemeSign with
    | (scheme, ':' :: rest) => if c.isAlpha then (scheme, rest) else ([], cs)
    | _ => ([], cs)
  | [] => ([], [])

/-- A part behind a mark, if the mark is there. -/
def splitPart (mark : Char) (cs : List Char) (isEnd : Char → Bool) : Option (List Char) × List Char :=
  match cs with
  | c :: rest =>
    if c == mark then
      let (part, rest) := rest.span fun c => !isEnd c
      (some part, rest)
    else (none, cs)
  | [] => (none, [])

/-- Reads an address into its normal form. -/
def read (url : String) : Except Malformed Address := do
  let cs := url.toList
  if longest < cs.length then throw .tooLong
  let isControl := fun (c : Char) => c.toNat < 32 || c.toNat == 127
  if let some c := cs.find? isControl then
    throw (.control c (cs.takeWhile fun c => !isControl c).length)
  let (scheme, cs) := splitScheme cs
  let endsAuthority := isAmong "/?#"
  let (authority, cs) := match cs with
    | '/' :: '/' :: rest => rest.span fun c => !endsAuthority c
    | _ => ([], cs)
  let (path, cs) := cs.span fun c => c != '?' && c != '#'
  let (query, cs) := splitPart '?' cs (· == '#')
  let (fragment, _) := splitPart '#' cs fun _ => false
  let (user, host, port) := splitAuthority authority
  let user := Percent.encode plainInUser (String.ofList user)
  let host ← readHost (String.ofList host)
  let port ← readPort (String.ofList scheme) (String.ofList port)
  let path := String.ofList path
  let hasAuthority := user != "" || host != "" || port.isSome
  checkPath path (!scheme.isEmpty) hasAuthority
  let path := if !scheme.isEmpty || hasAuthority then withoutDots path else path
  return {
    scheme := toLower (String.ofList scheme), user, host, port
    path := Percent.encode plainInPath path
    query := query.map fun q => Percent.encode plainInQuery (String.ofList q)
    fragment := fragment.map fun f => Percent.encode plainInFragment (String.ofList f) }

def isAbsolute (a : Address) : Bool := a.scheme != "" && a.host != ""

/-- What a request goes to: an absolute address as it is, of any other the path from the root and the
query. -/
def target (a : Address) : Address :=
  if a.isAbsolute then a
  else { path := "/" ++ String.ofList (a.path.toList.dropWhile (· == '/')), query := a.query }

/-- The address with another query. A port that goes without saying is left out, and a host that is no
number is written in small letters throughout. -/
def withQuery (a : Address) (query : Option String) : Address :=
  { a with
    query
    host := if a.host.toList.contains ':' then a.host else toLower a.host
    port := a.port.filter fun p => defaultPort? a.scheme != some p }

def authority (a : Address) : String :=
  (if a.user.isEmpty then "" else a.user ++ "@") ++
    (if a.host.toList.contains ':' then "[" ++ a.host ++ "]" else a.host) ++
      a.port.elim "" fun p => ":" ++ toString p

def text (a : Address) : String :=
  (if a.scheme.isEmpty then "" else a.scheme ++ ":") ++
    (if a.authority.isEmpty then "" else "//" ++ a.authority) ++ a.path ++
      (a.query.elim "" fun q => "?" ++ q) ++ (a.fragment.elim "" fun f => "#" ++ f)

/-- The names and values in a query; one without a value has an empty one. -/
def parameters (query : String) : List (String × String) :=
  let plain := fun (cs : List Char) =>
    Percent.decode (String.ofList (cs.map fun c => if c == '+' then ' ' else c))
  ((splitAt '&' query.toList).filter fun part => !part.isEmpty).map fun part =>
    let (name, value) := part.span (· != '=')
    (plain name, plain (value.drop 1))

end Address

end FormEngine
