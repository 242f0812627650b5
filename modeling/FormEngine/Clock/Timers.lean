import FormEngine.Clock.Time

/-!
Timers, kept in a binary heap by their deadlines. The heap decides in which order timers with one
deadline go off: an entry moves up only past a later one, and of two children with one deadline the
right one moves up.
-/

namespace FormEngine

structure Timer (α : Type) where
  deadline : Time
  action : α

abbrev Timers (α : Type) := Array (Timer α)

namespace Timers

variable {α : Type}

/-- Whether the timer at one position goes off before the one at another. -/
def earlier (h : Timers α) (i j : Nat) : Bool :=
  match h[i]?, h[j]? with
  | some s, some t => s.deadline.before t.deadline
  | _, _ => false

/-- Moves an entry up past all later ones. -/
def rise (h : Timers α) (i : Nat) : Timers α :=
  if i = 0 then h
  else
    let parent := (i - 1) / 2
    if earlier h i parent then rise (h.swapIfInBounds i parent) parent else h
termination_by i
decreasing_by omega

/-- The child that takes the place of its parent, if there is one. -/
def heir? (h : Timers α) (i : Nat) : Option Nat :=
  let left := 2 * i + 1
  if h.size ≤ left then none
  else if left + 1 < h.size && !earlier h left (left + 1) then some (left + 1)
  else some left

/-- Moves an entry down to a leaf. Each step at least doubles its position. -/
def sink (h : Timers α) : Nat → Nat → Timers α × Nat
  | 0, i => (h, i)
  | fuel + 1, i =>
    match heir? h i with
    | some child => sink (h.swapIfInBounds i child) fuel child
    | none => (h, i)

def insert (h : Timers α) (deadline : Time) (action : α) : Timers α :=
  rise (h.push ⟨deadline, action⟩) h.size

/-- The timer that goes off next. -/
def first? (h : Timers α) : Option (Timer α) := h[0]?

/-- The heap without the first timer: the last entry takes its place, sinks and rises again. -/
def dropFirst (h : Timers α) : Timers α :=
  let rest := (h.swapIfInBounds 0 (h.size - 1)).pop
  let (rest, leaf) := sink rest rest.size 0
  rise rest leaf

/-- Takes out all timers that a test lets go off, in order; there are no more than entries. -/
def takeWhile (due : Time → Bool) : Nat → Timers α → List α × Timers α
  | 0, h => ([], h)
  | fuel + 1, h =>
    match h.first? with
    | none => ([], h)
    | some t =>
      if due t.deadline then
        let (actions, rest) := takeWhile due fuel h.dropFirst
        (t.action :: actions, rest)
      else ([], h)

end Timers

end FormEngine
