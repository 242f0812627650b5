import FormEngine.Fault
import FormEngine.Pattern.Basic
import FormEngine.Pattern.Token
import FormEngine.Text.CharacterName
import FormEngine.Text.Identifier
import FormEngine.Text.Numeral

/-!
Reading a regular expression. Groups are numbered by their opening brackets; a reference is refused
unless its group was closed before, and so is a look behind unless all its matches have one width.
-/

namespace FormEngine

namespace Pattern

structure Flags where
  ignoreCase : Bool := false
  lines : Bool := false
  lineBreaks : Bool := false
  spaced : Bool := false
  ascii : Bool := false

namespace Flags

def known (c : Char) : Bool := "iLmsxatu".toList.contains c

/-- Turns one flag on or off. -/
def set (f : Flags) (c : Char) (on : Bool) : Flags :=
  match c with
  | 'i' => { f with ignoreCase := on }
  | 'm' => { f with lines := on }
  | 's' => { f with lineBreaks := on }
  | 'x' => { f with spaced := on }
  | 'a' => { f with ascii := on }
  | 'u' => { f with ascii := !on }
  | _ => f

def setAll (f : Flags) (cs : List Char) (on : Bool) : Flags := cs.foldl (fun f c => f.set c on) f

end Flags

/-- Whose case a pattern ignores. -/
def Flags.folding (f : Flags) : Folding :=
  if !f.ignoreCase then .none else if f.ascii then .ascii else .full

/-- What is still to be read, and the groups met so far. -/
structure Scan where
  rest : List Token
  flags : Flags := {}
  /-- the letters of the flags for the whole pattern -/
  overall : List Char := []
  count : Nat := 0
  names : List (String × Nat) := []
  unclosed : List Nat := []
  widths : List (Nat × Width) := []
  /-- inside a look behind: the number of groups before it -/
  behindFrom : Option Nat := none
  /-- groups that a choice refers to, to be checked at the end -/
  awaited : List Nat := []
  /-- something is repeated -/
  repeats : Bool := false
  /-- a look behind has no width of its own, or too large a one -/
  unmeasured : Bool := false
  /-- brackets around this place -/
  depth : Nat := 0

/-- Why a text is not read as a regular expression. -/
inductive Refusal
  | malformed
  | nestedTooDeep
  | tooManyDigits (n : Nat)
  | tooManyRepetitions
  | contraryFlags
  deriving DecidableEq, Repr

def Refusal.fault : Refusal → Fault
  | .malformed => .badPattern
  | .nestedTooDeep => .tooDeep
  | .tooManyDigits n => .badValue (Numeral.tooManyDigits n)
  | .tooManyRepetitions => .overflow "the repetition number is too large"
  | .contraryFlags => .badValue "ASCII and UNICODE flags are incompatible"

abbrev Reader := StateT Scan (Except Refusal)

namespace Reader

def refuse {α : Type} : Reader α := throw .malformed

/-- Goes on with the rest of the text, which is refused if a backslash has nothing to protect. -/
def goOn (rest : List Token) : Reader Unit := do
  if rest.head? == some .dangling then refuse
  modify fun s => { s with rest := rest }

def peek : Reader (Option Token) := do return (← get).rest.head?

def next? : Reader (Option Token) := do
  match (← get).rest with
  | [] => return none
  | t :: rest => goOn rest; return some t

def next : Reader Token := do
  match ← next? with
  | some t => return t
  | none => refuse

/-- Passes a character if it comes next. -/
def accept (c : Char) : Reader Bool := do
  if (← peek) == some (.plain c) then
    let _ ← next
    return true
  else return false

def expect (c : Char) : Reader Unit := do
  if !(← accept c) then refuse

/-- Up to `n` characters of a class. -/
def takeWhile (n : Nat) (cls : Char → Bool) : Reader (List Char) := do
  let rest := (← get).rest
  let taken := (rest.take n).takeWhile (Token.isPlain cls)
  goOn (rest.drop taken.length)
  return taken.filterMap Token.plain?

/-- The text up to a mark, which is passed; it must not be empty. -/
def untilMark (mark : Char) : Reader String := do
  let rest := (← get).rest
  let taken := rest.takeWhile (· != .plain mark)
  if taken.isEmpty || taken.length == rest.length then refuse
  goOn (rest.drop (taken.length + 1))
  return String.ofList (taken.flatMap Token.toChars)

/-- Brackets can be nested so deep. -/
def depthLimit : Nat := 485

/-- Reads something between brackets. -/
def nested {α : Type} (content : Reader α) : Reader α := do
  if depthLimit ≤ (← get).depth then throw .nestedTooDeep
  modify fun s => { s with depth := s.depth + 1 }
  let x ← content
  modify fun s => { s with depth := s.depth - 1 }
  return x

end Reader

open Reader

def digitIn (base : Nat) (c : Char) : Bool :=
  let n := c.toNat
  if base = 8 then 48 ≤ n && n ≤ 55
  else if base = 10 then 48 ≤ n && n ≤ 57
  else (48 ≤ n && n ≤ 57) || (65 ≤ n && n ≤ 70) || (97 ≤ n && n ≤ 102)

def digitOf (c : Char) : Nat :=
  let n := c.toNat
  if n ≤ 57 then n - 48 else if n ≤ 70 then n - 55 else n - 87

def numberIn (base : Nat) (cs : List Char) : Nat := cs.foldl (fun n c => base * n + digitOf c) 0

/-- A character given by exactly `n` hexadecimal digits. -/
def hexCharacter (n : Nat) : Reader Nat := do
  let ds ← takeWhile n (digitIn 16)
  let code := numberIn 16 ds
  if ds.length != n || 0x10FFFF < code then refuse
  return code

/-- A character given by its name in braces. -/
def characterByName : Reader Nat := do
  expect '\x7b'
  match namedCharacter? (← untilMark '\x7d') with
  | some code => return code
  | none => refuse

/-- A character given by its code point or name after one of four letters, if it is. -/
def character? (c : Char) : Reader (Option Nat) := do
  match c with
  | 'x' => return some (← hexCharacter 2)
  | 'u' => return some (← hexCharacter 4)
  | 'U' => return some (← hexCharacter 8)
  | 'N' => return some (← characterByName)
  | _ => return none

/-- The control characters that have an escape of one letter. -/
def controlCode? : Char → Option Nat
  | 'a' => some 7
  | 'f' => some 12
  | 'n' => some 10
  | 'r' => some 13
  | 't' => some 9
  | 'v' => some 11
  | '\\' => some 92
  | _ => none

def classOf? (ascii : Bool) : Char → Option SetItem
  | 'd' => some (.inside .digit ascii)
  | 'D' => some (.outside .digit ascii)
  | 's' => some (.inside .space ascii)
  | 'S' => some (.outside .space ascii)
  | 'w' => some (.inside .word ascii)
  | 'W' => some (.outside .word ascii)
  | _ => none

/-- What an escape inside a set stands for. -/
def setEscape (ascii : Bool) (c : Char) : Reader SetItem := do
  if let some code := controlCode? c then return .single code
  if c == 'b' then return .single 8
  if let some item := classOf? ascii c then return item
  if let some code ← character? c then return .single code
  if digitIn 8 c then
    let code := numberIn 8 (c :: (← takeWhile 2 (digitIn 8)))
    if 0o377 < code then refuse
    return .single code
  if c.isAlphanum then refuse
  return .single c.toNat

/-- A character or escape of a set; a range can start or end only at a single character. -/
def setMember (ascii : Bool) : Token → Reader SetItem
  | .plain c => return .single c.toNat
  | .escaped c => setEscape ascii c
  | .dangling => refuse

/-- The members of a set up to its closing bracket. -/
def setItems (ascii : Bool) : Nat → List SetItem → Reader (List SetItem)
  | 0, _ => refuse
  | fuel + 1, items => do
    let t ← next
    if t == .plain ']' && !items.isEmpty then return items
    let first ← setMember ascii t
    if ← accept '-' then
      let u ← next
      if u == .plain ']' then return items ++ [first, .single 45]
      match first, ← setMember ascii u with
      | .single lo, .single hi =>
        if hi < lo then refuse
        setItems ascii fuel (items ++ [.range lo hi])
      | _, _ => refuse
    else setItems ascii fuel (items ++ [first])

/-- A set, which is a plain character if it has just that one. -/
def setPattern (f : Flags) : Reader Pattern := do
  let negated ← accept '^'
  let items ← setItems f.ascii ((← get).rest.length + 1) []
  match items.eraseDups with
  | [.single code] => return .char code negated f.folding
  | items => return .oneOf items negated f.folding

/-- Whether a group is there and closed. -/
def isClosed (number : Nat) : Reader Bool := do
  let s ← get
  return number ≤ s.count && !s.unclosed.contains number

/-- A look behind can refer only to groups closed before it. -/
def checkBehind (number : Nat) : Reader Unit := do
  if let some start := (← get).behindFrom then
    if !(← isClosed number) || start < number then refuse

/-- Whether a group can be referred to from here. -/
def checkReference (number : Nat) : Reader Unit := do
  if !(← isClosed number) then refuse
  checkBehind number

/-- A reference to a group by number, or a character given by octal digits. -/
def numberEscape (f : Flags) (c : Char) : Reader Pattern := do
  let rest := (← get).rest
  let second := (rest.head?.bind Token.plain?).filter (digitIn 10)
  let third := ((rest.drop 1).head?.bind Token.plain?).filter (digitIn 8)
  match second, third with
  | some d, some e =>
    let _ ← next
    if digitIn 8 c && digitIn 8 d then
      let _ ← next
      let code := numberIn 8 [c, d, e]
      if 0o377 < code then refuse
      return .char code false f.folding
    reference (numberIn 10 [c, d])
  | some d, none =>
    let _ ← next
    reference (numberIn 10 [c, d])
  | none, _ => reference (digitOf c)
where
  reference (number : Nat) : Reader Pattern := do
    checkReference number
    return .same number f.folding

/-- What an escape outside a set stands for. -/
def escape (f : Flags) (c : Char) : Reader Pattern := do
  let single : Nat → Pattern := fun code => .char code false f.folding
  match c with
  | 'A' => return .edge .textStart
  | 'Z' => return .edge .textEnd
  | 'b' => return .edge (.word f.ascii)
  | 'B' => return .edge (.noWord f.ascii)
  | '0' => return single (numberIn 8 (← takeWhile 2 (digitIn 8)))
  | _ =>
    if let some item := classOf? f.ascii c then return .oneOf [item] false f.folding
    if let some code := controlCode? c then return single code
    if let some code ← character? c then return single code
    if digitIn 10 c then numberEscape f c
    else if c.isAlphanum then refuse
    else return single c.toNat

/-- A repetition count too large to be counted. -/
def countLimit : Nat := 4294967295

def checkedCount (ds : List Char) : Reader Nat := do
  if Numeral.digitLimit < ds.length then throw (.tooManyDigits ds.length)
  let n := numberIn 10 ds
  if countLimit ≤ n then throw .tooManyRepetitions
  return n

/-- The bounds of a repetition; none when the brace is a plain character. -/
def bounds (c : Char) : Reader (Option (Nat × Option Nat)) := do
  match c with
  | '?' => return some (0, some 1)
  | '*' => return some (0, none)
  | '+' => return some (1, none)
  | _ =>
    let start ← get
    let low ← takeWhile start.rest.length (digitIn 10)
    let comma ← accept ','
    let high ← if comma then takeWhile start.rest.length (digitIn 10) else pure low
    if start.rest.head? == some (.plain '\x7d') || !(← accept '\x7d') then
      set start
      return none
    let least ← if low.isEmpty then pure 0 else checkedCount low
    let most ← if high.isEmpty then pure none else some <$> checkedCount high
    if let some n := most then
      if n < least then refuse
    return some (least, most)

/-- Skips the rest of a comment that ends with its line. -/
def skipLine : Reader Unit := do
  goOn (((← get).rest.dropWhile (· != .plain '\n')).drop 1)

/-- The letters of flags up to a mark. -/
def flagLetters : Nat → List Char → Reader (List Char × Char)
  | 0, _ => refuse
  | fuel + 1, letters => do
    match ← next with
    | .plain c =>
      if c == ')' || c == ':' || c == '-' then return (letters, c)
      if !Flags.known c then refuse
      flagLetters fuel (letters ++ [c])
    | _ => refuse

/-- Flags in a bracket: none when they hold for the whole pattern, else those of a group. -/
def readFlags (f : Flags) (first : Char) : Reader (Option Flags) := do
  let fuel := (← get).rest.length + 1
  let (on, mark) ← if first == '-' then pure ([], '-') else flagLetters fuel [first]
  if on.contains 'L' || (on.contains 'a' && on.contains 'u') then refuse
  if mark == ')' then
    modify fun s => { s with flags := s.flags.setAll on true, overall := s.overall ++ on }
    return none
  if on.contains 't' then refuse
  if mark == ':' then return some (f.setAll on true)
  let (off, mark) ← flagLetters fuel []
  if off.isEmpty || mark != ':' || off.any (fun c => "Laut".toList.contains c || on.contains c) then
    refuse
  return some ((f.setAll on true).setAll off false)

/-- Opens a numbered group, under a name if it has one. -/
def openGroup (name : Option String) : Reader Nat := do
  let s ← get
  let number := s.count + 1
  if let some name := name then
    if (s.names.lookup name).isSome then refuse
  let names := match name with
    | some name => (name, number) :: s.names
    | none => s.names
  set { s with count := number, unclosed := number :: s.unclosed, names := names }
  return number

def closeGroup (number : Nat) (p : Pattern) : Reader Unit := modify fun s =>
  { s with
    unclosed := s.unclosed.filter (· != number)
    widths := (number, p.width s.widths) :: s.widths }

def groupName (mark : Char) : Reader String := do
  let name ← untilMark mark
  if !isIdentifier name then refuse
  return name

/-- The number of a group by its name. -/
def groupNamed (name : String) : Reader Nat := do
  match (← get).names.lookup name with
  | some number => return number
  | none => refuse

/-- The group that a choice asks about. -/
def choiceGroup : Reader Nat := do
  let name ← untilMark ')'
  let number ← if isIdentifier name then groupNamed name else
    match Numeral.integerOfText? name with
    | some i =>
      if i ≤ 0 then refuse
      modify fun s => { s with awaited := i.toNat :: s.awaited }
      pure i.toNat
    | none => refuse
  checkBehind number
  return number

/-- Puts a repetition around the last item. -/
def repeatLast (items : List Pattern) (least : Nat) (most : Option Nat) : Reader (List Pattern) := do
  match items with
  | [] => refuse
  | item :: before =>
    if item.isEdge || item.isRepetition then refuse
    modify fun s => { s with repeats := true }
    let effort ← (do
      if ← accept '?' then return Effort.lazy
      else if ← accept '+' then return Effort.possessive
      else return Effort.greedy)
    return .repeated item least most effort :: before

/-- Begins a look behind; the result is what `behindFrom` was before. -/
def openBehind : Reader (Option Nat) := do
  let s ← get
  set { s with behindFrom := some (s.behindFrom.getD s.count) }
  return s.behindFrom

/-- Ends a look behind, which has to have one width. -/
def closeBehind (outer : Option Nat) (p : Pattern) (wanted : Bool) : Reader Pattern := do
  let s ← get
  let w := p.width s.widths
  let unmeasured := w.most != some w.least || countLimit < w.least
  set { s with behindFrom := outer, unmeasured := s.unmeasured || unmeasured }
  return .behind p w.least wanted

/-- Skips a comment in brackets. -/
def skipComment : Reader Unit := do
  let rest := (← get).rest.dropWhile (· != .plain ')')
  if rest.isEmpty then refuse
  goOn (rest.drop 1)

def isSpacing (c : Char) : Bool := c == ' ' || (9 ≤ c.toNat && c.toNat ≤ 13)

mutual

/-- Alternatives, up to the end or a closing bracket. -/
def alternatives : Nat → Flags → Bool → Reader Pattern
  | 0, _, _ => refuse
  | fuel + 1, f, outermost => do
    let first ← sequenceOf fuel f outermost []
    let s ← get
    let f := if outermost then s.flags else f
    let others ← furtherAlternatives fuel f
    return sequence (alternation f.folding (first :: others))

/-- The alternatives after the first. -/
def furtherAlternatives : Nat → Flags → Reader (List (List Pattern))
  | 0, _ => refuse
  | fuel + 1, f => do
    if ← accept '|' then
      let items ← sequenceOf fuel f false []
      return items :: (← furtherAlternatives fuel f)
    else return []

/-- Items one after the other; `items` are those read so far, the last one first. -/
def sequenceOf : Nat → Flags → Bool → List Pattern → Reader (List Pattern)
  | 0, _, _, _ => refuse
  | fuel + 1, f, first, items => do
    match ← peek with
    | none => return unbracketed items.reverse
    | some .dangling => refuse
    | some (.escaped c) =>
      let _ ← next
      sequenceOf fuel f first ((← escape f c) :: items)
    | some (.plain c) =>
      if c == '|' || c == ')' then return unbracketed items.reverse
      let _ ← next
      if f.spaced && isSpacing c then sequenceOf fuel f first items
      else if f.spaced && c == '#' then
        skipLine
        sequenceOf fuel f first items
      else
        match c with
        | '[' => sequenceOf fuel f first ((← setPattern f) :: items)
        | '.' => sequenceOf fuel f first (.anyChar f.lineBreaks :: items)
        | '^' =>
          sequenceOf fuel f first (.edge (if f.lines then .lineStart else .textStart) :: items)
        | '$' => sequenceOf fuel f first (.edge (if f.lines then .lineEnd else .lastEnd) :: items)
        | '(' =>
          if ← accept '?' then extension fuel f first items
          else
            let number ← openGroup none
            sequenceOf fuel f first ((← numbered fuel f number) :: items)
        | _ =>
          let single : Pattern := .char c.toNat false f.folding
          if c == '*' || c == '+' || c == '?' || c == '\x7b' then
            match ← bounds c with
            | some (least, most) => sequenceOf fuel f first (← repeatLast items least most)
            | none => sequenceOf fuel f first (single :: items)
          else sequenceOf fuel f first (single :: items)

/-- The content of brackets and the closing one. -/
def grouped : Nat → Flags → Reader Pattern
  | 0, _ => refuse
  | fuel + 1, f => nested do
    let p ← alternatives fuel f false
    expect ')'
    return p

/-- The content of a group that was opened. -/
def numbered : Nat → Flags → Nat → Reader Pattern
  | 0, _, _ => refuse
  | fuel + 1, f, number => do
    let p ← grouped fuel f
    closeGroup number p
    return .group number p

/-- A choice by whether a group has matched. -/
def chosen : Nat → Flags → Reader Pattern
  | 0, _ => refuse
  | fuel + 1, f => nested do
    let number ← choiceGroup
    let yes ← sequenceOf fuel f false []
    let no ← if ← accept '|' then sequenceOf fuel f false [] else pure []
    expect ')'
    return .ifGroup number (sequence yes) (sequence no)

/-- What follows an opening bracket with a question mark. -/
def extension : Nat → Flags → Bool → List Pattern → Reader (List Pattern)
  | 0, _, _, _ => refuse
  | fuel + 1, f, first, items => do
    let c ← match ← next with
      | .plain c => pure c
      | _ => refuse
    match c with
    | ':' =>
      let p ← grouped fuel f
      sequenceOf fuel f first (.bracket false p :: items)
    | '>' =>
      let p ← grouped fuel f
      sequenceOf fuel f first (.atomic p :: items)
    | '#' =>
      skipComment
      sequenceOf fuel f first items
    | '=' =>
      let p ← grouped fuel f
      sequenceOf fuel f first (.ahead p true :: items)
    | '!' =>
      let p ← grouped fuel f
      sequenceOf fuel f first (.ahead p false :: items)
    | '<' =>
      let wanted ← accept '='
      if !wanted then expect '!'
      let outer ← openBehind
      let p ← grouped fuel f
      sequenceOf fuel f first ((← closeBehind outer p wanted) :: items)
    | '(' => sequenceOf fuel f first ((← chosen fuel f) :: items)
    | 'P' =>
      if ← accept '<' then
        let number ← openGroup (some (← groupName '>'))
        sequenceOf fuel f first ((← numbered fuel f number) :: items)
      else
        expect '='
        let number ← groupNamed (← groupName ')')
        checkReference number
        sequenceOf fuel f first (.same number f.folding :: items)
    | _ =>
      if !Flags.known c && c != '-' then refuse
      match ← readFlags f c with
      | some g =>
        let p ← grouped fuel g
        sequenceOf fuel f first (.bracket true p :: items)
      | none =>
        if !first || !items.isEmpty then refuse
        sequenceOf fuel (← get).flags first items

end

/-- Reads a whole text as a regular expression. -/
def read (text : String) : Except Fault Pattern :=
  let tokens := Token.ofChars text.toList
  let whole : Reader Pattern := do
    goOn tokens
    let p ← alternatives (8 * tokens.length + 16) {} true
    let s ← get
    if s.overall.contains 'a' && s.overall.contains 'u' then
      throw .contraryFlags
    if !s.rest.isEmpty || s.awaited.any (s.count < ·) then refuse
    if s.unmeasured || (s.overall.contains 't' && s.repeats) then refuse
    return p
  ((whole.run { rest := [] }).map Prod.fst).mapError Refusal.fault

end Pattern

end FormEngine
