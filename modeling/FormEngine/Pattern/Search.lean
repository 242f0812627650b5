import FormEngine.Pattern.Basic

/-!
Searching a text for a match, by trying the ways to match in order and going back after a failure.
Each way ends in a continuation, which says whether the rest of the pattern matches from there.
-/

namespace FormEngine

namespace Pattern

/-- What a group has matched: a number of characters from some place on. -/
structure Stretch where
  start : List Char
  length : Nat
  deriving Repr

def Stretch.text (s : Stretch) : List Char := s.start.take s.length

/-- A place in the text, what stands before it in reverse, how much is left after it, and what each
group has matched so far. -/
structure Place where
  before : List Char
  after : List Char
  left : Nat
  groups : List (Nat × Stretch)
  deriving Repr

abbrev Matcher := Place → (Place → Option Place) → Option Place

namespace Place

def step (p : Place) (c : Char) (rest : List Char) : Place :=
  { p with before := c :: p.before, after := rest, left := p.left - 1 }

/-- Goes back by a number of characters, if there are as many. -/
def back? (p : Place) : Nat → Option Place
  | 0 => some p
  | n + 1 =>
    match p.before with
    | [] => none
    | c :: rest => back? { p with before := rest, after := c :: p.after, left := p.left + 1 } n

/-- Notes what was passed since `start` as the match of a group. -/
def noteGroup (p : Place) (number : Nat) (start : Place) : Place :=
  let stretch : Stretch := ⟨start.after, start.left - p.left⟩
  { p with groups := (number, stretch) :: p.groups.filter fun g => g.1 != number }

/-- Passes a given text. -/
def pass? (folding : Folding) : List Char → Place → Option Place
  | [], p => some p
  | t :: ts, p =>
    match p.after with
    | [] => none
    | c :: rest =>
      if folding.same t.toNat c.toNat then pass? folding ts (p.step c rest)
      else none

end Place

namespace Edge

def isWordNext (ascii : Bool) : List Char → Bool
  | [] => false
  | c :: _ => CharClass.word.has ascii c

def holds (e : Edge) (p : Place) : Bool :=
  match e with
  | .textStart => p.before.isEmpty
  | .lineStart => p.before.isEmpty || p.before.head? == some '\n'
  | .textEnd => p.after.isEmpty
  | .lastEnd => p.after.isEmpty || p.after == ['\n']
  | .lineEnd => p.after.isEmpty || p.after.head? == some '\n'
  | .word ascii => isWordNext ascii p.before != isWordNext ascii p.after
  | .noWord ascii => isWordNext ascii p.before == isWordNext ascii p.after

end Edge

namespace Matcher

/-- One character of a class. -/
def character (cls : Char → Bool) : Matcher := fun p k =>
  match p.after with
  | [] => none
  | c :: rest => if cls c then k (p.step c rest) else none

/-- Exactly `n` rounds. -/
def times (body : Matcher) : Nat → Matcher
  | 0 => fun p k => k p
  | n + 1 => fun p k => body p fun q => times body n q k

/-- Up to `n` rounds, the most first or the fewest first; after an empty round no other is tried. -/
def upTo (body : Matcher) (mostFirst : Bool) : Nat → Matcher
  | 0 => fun p k => k p
  | n + 1 => fun p k =>
    let another := fun q : Place =>
      if q.left = p.left then k q else upTo body mostFirst n q k
    if mostFirst then
      match body p another with
      | some r => some r
      | none => k p
    else
      match k p with
      | some r => some r
      | none => body p another

/-- A first way to match, kept whatever follows. -/
def once (m : Matcher) : Matcher := fun p k => (m p some).bind k

end Matcher

/-- Tries a pattern at a place. -/
def attempt : Pattern → Matcher
  | .empty => fun p k => k p
  | .never => fun _ _ => none
  | .char code negated folding =>
    Matcher.character fun c => folding.akin code c.toNat != negated
  | .anyChar lineBreaks => Matcher.character fun c => lineBreaks || c != '\n'
  | .oneOf items negated folding =>
    Matcher.character fun c => items.any (·.has folding c) != negated
  | .edge e => fun p k => if Edge.holds e p then k p else none
  | .seq a b => fun p k => attempt a p fun q => attempt b q k
  | .either a b => fun p k =>
    match attempt a p k with
    | some r => some r
    | none => attempt b p k
  | .repeated a least most effort => fun p k =>
    let rounds := fun q : Place =>
      match most with
      | some n => min (n - least) (q.left + 1)
      | none => q.left + 1
    let body : Matcher := fun q k =>
      Matcher.upTo (attempt a) (effort != .lazy) (rounds q) q k
    let whole : Matcher := fun q k => Matcher.times (attempt a) least q fun r => body r k
    if effort = .possessive then Matcher.once whole p k else whole p k
  | .bracket _ a => attempt a
  | .group number a => fun p k => attempt a p fun q => k (q.noteGroup number p)
  | .same number folding => fun p k =>
    match p.groups.lookup number with
    | some stretch => (p.pass? folding stretch.text).bind k
    | none => none
  | .ahead a wanted => fun p k =>
    match attempt a p some with
    | some q => if wanted then k { p with groups := q.groups } else none
    | none => if wanted then none else k p
  | .behind a width wanted => fun p k =>
    match (p.back? width).bind fun q => attempt a q some with
    | some q => if wanted then k { p with groups := q.groups } else none
    | none => if wanted then none else k p
  | .atomic a => Matcher.once (attempt a)
  | .ifGroup number a b => fun p k =>
    if (p.groups.lookup number).isSome then attempt a p k else attempt b p k

/-- Whether the pattern matches from some place on. -/
def searchFrom (p : Pattern) (before : List Char) (left : Nat) : List Char → Bool
  | [] => (attempt p ⟨before, [], left, []⟩ some).isSome
  | c :: rest =>
    (attempt p ⟨before, c :: rest, left, []⟩ some).isSome ||
      searchFrom p (c :: before) (left - 1) rest

/-- Whether the pattern has a match anywhere in the text. -/
def occursIn (p : Pattern) (s : String) : Bool := searchFrom p [] s.length s.toList

/-- Whether the text begins with a match of the pattern. -/
def opens (p : Pattern) (s : String) : Bool :=
  (attempt p ⟨[], s.toList, s.length, []⟩ some).isSome

end Pattern

end FormEngine
