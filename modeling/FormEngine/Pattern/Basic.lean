import FormEngine.Text.Blank
import FormEngine.Text.Digit
import FormEngine.Text.Folding
import FormEngine.Text.Letter

/-!
Regular expressions with groups, references to groups, look-around and three ways to repeat.
-/

namespace FormEngine

/-- The named classes of characters. -/
inductive CharClass
  | digit
  | space
  | word
  deriving DecidableEq, Repr

inductive SetItem
  | single (code : Nat)
  | range (first last : Nat)
  | inside (cls : CharClass) (ascii : Bool)
  | outside (cls : CharClass) (ascii : Bool)
  deriving DecidableEq, Repr

/-- How hard a repetition tries: for most rounds first, for fewest, or for most without a retry. -/
inductive Effort
  | greedy
  | lazy
  | possessive
  deriving DecidableEq, Repr

/-- Places between characters. -/
inductive Edge
  | textStart
  | lineStart
  | textEnd
  /-- the end of the text or before a line break that ends it -/
  | lastEnd
  | lineEnd
  | word (ascii : Bool)
  | noWord (ascii : Bool)
  deriving DecidableEq, Repr

inductive Pattern
  | empty
  | never
  | char (code : Nat) (negated : Bool) (folding : Folding)
  /-- any character, or any but the line break -/
  | anyChar (lineBreaks : Bool)
  | oneOf (items : List SetItem) (negated : Bool) (folding : Folding)
  | edge (e : Edge)
  | seq (p q : Pattern)
  | either (p q : Pattern)
  | repeated (p : Pattern) (least : Nat) (most : Option Nat) (effort : Effort)
  /-- brackets without a number, which may set flags of their own -/
  | bracket (flagged : Bool) (p : Pattern)
  | group (number : Nat) (p : Pattern)
  | same (number : Nat) (folding : Folding)
  | ahead (p : Pattern) (wanted : Bool)
  | behind (p : Pattern) (width : Nat) (wanted : Bool)
  | atomic (p : Pattern)
  | ifGroup (number : Nat) (p q : Pattern)
  deriving DecidableEq, Repr, Inhabited

namespace CharClass

def has : CharClass → Bool → Char → Bool
  | .digit, ascii, c => if ascii then c.isDigit else isDigit c
  | .space, ascii, c => if ascii then c == ' ' || (9 ≤ c.toNat && c.toNat ≤ 13) else isBlank c
  | .word, ascii, c => if ascii then c.isAlphanum || c == '_' else isWordChar c

end CharClass

namespace SetItem

/-- Members of a set up to here match letters of the other case; those beyond it do not. -/
def planeLimit : Nat := 65535

def spans (first last code : Nat) : Bool := decide (first ≤ code) && decide (code ≤ last)

/-- Whether a member of a set admits a character. A range that goes beyond the plane limit also
admits the letters there whose capitals it spans. -/
def has (item : SetItem) (folding : Folding) (c : Char) : Bool :=
  let low := folding.lower c.toNat
  match item with
  | .single code =>
    if folding.lower code ≤ planeLimit then folding.akin code c.toNat else low == code
  | .range first last =>
    if folding = .none then spans first last low
    else
      ((folding.variants c.toNat).any fun v => spans first (min last planeLimit) v) ||
        (decide (planeLimit < last) &&
          (spans first last low ||
            ((Case.upperChars (Char.ofNat low)).head?.any fun u => spans first last u.toNat)))
  | .inside cls ascii => cls.has ascii c
  | .outside cls ascii => !cls.has ascii c

end SetItem

namespace Pattern

def sequence (ps : List Pattern) : Pattern := ps.foldr .seq .empty

/-- The patterns that a pattern has one after the other. -/
def items : Pattern → List Pattern
  | .empty => []
  | .seq p q => p :: q.items
  | p => [p]

theorem items_sequence (ps : List Pattern) : (sequence ps).items = ps := by
  induction ps with
  | nil => rfl
  | cons p ps ih => simpa [sequence, items] using ih

/-- A sequence without the brackets that only hold its parts together. -/
def unbracketed (ps : List Pattern) : List Pattern :=
  ps.flatMap fun
    | .bracket false p => p.items
    | p => [p]

def isEdge : Pattern → Bool
  | .edge _ => true
  | _ => false

def isRepetition : Pattern → Bool
  | .repeated .. => true
  | _ => false

/-- Patterns that hold no others. -/
def isPlain : Pattern → Bool
  | .char .. | .anyChar _ | .oneOf .. | .edge _ | .same .. => true
  | _ => false

/-- The number of plain patterns that all alternatives begin with. -/
def sharedStart : List Pattern → List (List Pattern) → Nat
  | [], _ => 0
  | p :: ps, others =>
    if p.isPlain && others.all (·.head? == some p) then
      1 + sharedStart ps (others.map (·.drop 1))
    else 0

/-- The members of a pattern for one character, unless it is negated. -/
def members? : List Pattern → Option (List SetItem)
  | [.char code false _] => some [.single code]
  | [.oneOf items false _] => some items
  | _ => none

/-- Alternatives, tried from the first one on. -/
def inOrder : List Pattern → Pattern
  | [] => .never
  | [p] => p
  | p :: ps => .either p (inOrder ps)

/-- Alternatives in order, or one set if each of them is a single character. -/
def choice (folding : Folding) (alternatives : List (List Pattern)) : Pattern :=
  match alternatives.mapM members? with
  | some sets => .oneOf sets.flatten false folding
  | none => inOrder (alternatives.map sequence)

/-- Alternatives, with what all of them begin with in front. -/
def alternation (folding : Folding) (alternatives : List (List Pattern)) : List Pattern :=
  match alternatives with
  | [] => []
  | [only] => only
  | first :: others =>
    let n := sharedStart first others
    first.take n ++ [choice folding (alternatives.map (·.drop n))]

/-- The least and greatest number of characters in a match; none stands for no limit. -/
structure Width where
  least : Nat
  most : Option Nat
  deriving DecidableEq, Repr

namespace Width

def add (a b : Width) : Width :=
  ⟨a.least + b.least, do return (← a.most) + (← b.most)⟩

def union (a b : Width) : Width :=
  ⟨min a.least b.least, do return max (← a.most) (← b.most)⟩

def times (a : Width) (least : Nat) (most : Option Nat) : Width :=
  ⟨a.least * least,
    if a.most = some 0 ∨ most = some 0 then some 0 else do return (← a.most) * (← most)⟩

end Width

/-- The width of a pattern, given that of the groups it refers to. -/
def width (groups : List (Nat × Width)) : Pattern → Width
  | .empty | .never | .edge _ | .ahead .. | .behind .. => ⟨0, some 0⟩
  | .char .. | .anyChar _ | .oneOf .. => ⟨1, some 1⟩
  | .seq p q => (width groups p).add (width groups q)
  | .either p q | .ifGroup _ p q => (width groups p).union (width groups q)
  | .repeated p least most _ => (width groups p).times least most
  | .bracket _ p | .group _ p | .atomic p => width groups p
  | .same number _ => (groups.lookup number).getD ⟨0, none⟩

end Pattern

end FormEngine
