import FormEngine.Proofs.Pattern.Search
import Mathlib.Computability.Language

/-!
Patterns as languages. A pattern without edges, references and look-around stands for a set of texts, and
the search passes just these: whichever way to match is tried first, some way leads to a good end if and
only if a text of the language can be passed so that what is left is good.
-/

namespace FormEngine

namespace Pattern

open Computability

/-- No edges, references or look-around, and every part can be tried again. -/
def isRegular : Pattern → Bool
  | .empty | .never | .char .. | .anyChar _ | .oneOf .. => true
  | .seq p q | .either p q => p.isRegular && q.isRegular
  | .repeated p _ _ effort => effort != .possessive && p.isRegular
  | .bracket _ p | .group _ p => p.isRegular
  | _ => false

/-- The texts of one character of a class. -/
def single (cls : Char → Bool) : Language Char := {w | ∃ c, cls c = true ∧ w = [c]}

/-- The texts of a number of rounds. -/
def rounds (L : Language Char) (admitted : Nat → Prop) : Language Char :=
  {w | ∃ n, admitted n ∧ w ∈ L ^ n}

/-- The texts that a regular pattern stands for. -/
def language : Pattern → Language Char
  | .empty => 1
  | .char code negated folding => single fun c => folding.akin code c.toNat != negated
  | .anyChar lineBreaks => single fun c => lineBreaks || c != '\n'
  | .oneOf items negated folding => single fun c => items.any (·.has folding c) != negated
  | .seq p q => p.language * q.language
  | .either p q => p.language + q.language
  | .repeated p least most _ =>
    p.language ^ least * rounds p.language fun n => ∀ m, most = some m → n ≤ m - least
  | .bracket _ p | .group _ p => p.language
  | _ => 0

theorem language_group (number : Nat) (p : Pattern) : (group number p).language = p.language := rfl

theorem language_sequence (ps : List Pattern) :
    (sequence ps).language = (ps.map language).prod := by
  induction ps with
  | nil => rfl
  | cons p ps ih =>
    rw [List.map_cons, List.prod_cons, ← ih]
    rfl

/-! ### Rounds -/

section Rounds

variable {L : Language Char}

theorem mem_pow_succ {n : Nat} {w : List Char} :
    w ∈ L ^ (n + 1) ↔ ∃ u ∈ L, ∃ v ∈ L ^ n, u ++ v = w := by
  rw [pow_succ', Language.mem_mul]

/-- What is not empty has a first round that is not. -/
theorem exists_round_of_pow {n : Nat} {w : List Char} (hw : w ∈ L ^ n) (filled : w ≠ []) :
    ∃ u ∈ L, u ≠ [] ∧ ∃ m < n, ∃ v ∈ L ^ m, u ++ v = w := by
  induction n with
  | zero => exact absurd ((Language.mem_one w).mp (by rwa [pow_zero] at hw)) filled
  | succ n ih =>
    obtain ⟨u, hu, v, hv, rfl⟩ := mem_pow_succ.mp hw
    cases u with
    | nil =>
      obtain ⟨u, hu, rest, m, less, split⟩ := ih hv
      exact ⟨u, hu, rest, m, Nat.lt_succ_of_lt less, split⟩
    | cons c u => exact ⟨c :: u, hu, List.cons_ne_nil c u, n, Nat.lt_succ_self n, v, hv, rfl⟩

/-- As many rounds are enough as there are characters. -/
theorem exists_pow_le_length {n : Nat} {w : List Char} (hw : w ∈ L ^ n) :
    ∃ m, m ≤ n ∧ m ≤ w.length ∧ w ∈ L ^ m := by
  induction n using Nat.strongRecOn generalizing w with
  | _ n ih =>
    by_cases empty : w = []
    · subst empty
      exact ⟨0, Nat.zero_le n, Nat.zero_le _, by simp⟩
    · obtain ⟨u, hu, filled, m, less, v, hv, rfl⟩ := exists_round_of_pow hw empty
      obtain ⟨m', few, short, hv'⟩ := ih m less hv
      refine ⟨m' + 1, by omega, ?_, mem_pow_succ.mpr ⟨u, hu, v, hv', rfl⟩⟩
      have := List.length_pos_iff.mpr filled
      rw [List.length_append]
      omega

end Rounds

theorem mem_star_single {cls : Char → Bool} {w : List Char} :
    w ∈ (single cls)∗ ↔ ∀ c ∈ w, cls c = true := by
  constructor
  · intro hw
    obtain ⟨parts, rfl, ones⟩ := Language.mem_kstar.mp hw
    intro c hc
    obtain ⟨part, member, inside⟩ := List.mem_flatten.mp hc
    obtain ⟨d, hd, rfl⟩ := ones part member
    rwa [List.mem_singleton.mp inside]
  · intro all
    refine Language.mem_kstar.mpr ⟨w.map fun c => [c], by simp [← List.flatMap_def], fun y hy => ?_⟩
    obtain ⟨c, hc, rfl⟩ := List.mem_map.mp hy
    exact ⟨c, all c hc, rfl⟩

/-- One character of a class, or such at both ends and others between them. -/
theorem mem_enclosed_iff {outer inner : Char → Bool} (among : ∀ c, outer c = true → inner c = true)
    {w : List Char} : w ∈ single outer * (1 + (single inner)∗ * single outer) ↔
      w.head?.any outer = true ∧ w.getLast?.any outer = true ∧ ∀ c ∈ w, inner c = true := by
  have ends (c d : Char) (u : List Char) : (c :: (u ++ [d])).getLast? = some d := by
    rw [← List.cons_append, List.getLast?_concat]
  constructor
  · intro hw
    obtain ⟨_, ⟨c, hc, rfl⟩, v, hv, rfl⟩ := Language.mem_mul.mp hw
    rcases (Language.mem_add _ _ v).mp hv with hv | hv
    · obtain rfl := (Language.mem_one v).mp hv
      simp [hc, among c hc]
    · obtain ⟨u, hu, _, ⟨d, hd, rfl⟩, rfl⟩ := Language.mem_mul.mp hv
      have between := mem_star_single.mp hu
      refine ⟨by simp [hc], by simp [ends, hd], fun x hx => ?_⟩
      simp only [List.mem_append, List.mem_singleton] at hx
      rcases hx with rfl | hx | rfl
      · exact among x hc
      · exact between x hx
      · exact among x hd
  · rintro ⟨first, last, all⟩
    cases w with
    | nil => simp at first
    | cons c v =>
      refine Language.append_mem_mul (a := [c]) ⟨c, by simpa using first, rfl⟩ ?_
      rcases List.eq_nil_or_concat v with rfl | ⟨u, d, rfl⟩
      · exact (Language.mem_add _ _ _).mpr (.inl Language.nil_mem_one)
      · rw [List.concat_eq_append] at last all ⊢
        refine (Language.mem_add _ _ _).mpr (.inr (Language.append_mem_mul ?_ ⟨d, ?_, rfl⟩))
        · exact mem_star_single.mpr fun x hx => all x (by simp [hx])
        · simpa [ends] using last

theorem rounds_unlimited (L : Language Char) (least : Nat) :
    (rounds L fun n => ∀ m, none = some m → n ≤ m - least) = L∗ := by
  ext w
  rw [Language.kstar_eq_iSup_pow, Language.mem_iSup]
  exact exists_congr fun n => and_iff_right fun m none => nomatch none

theorem language_any (p : Pattern) (effort : Effort) :
    (repeated p 0 none effort).language = p.language∗ := by
  rw [language, pow_zero, one_mul, rounds_unlimited]

theorem language_some (p : Pattern) (effort : Effort) :
    (repeated p 1 none effort).language = p.language * p.language∗ := by
  rw [language, pow_one, rounds_unlimited]

theorem language_optional (p : Pattern) (effort : Effort) :
    (repeated p 0 (some 1) effort).language = 1 + p.language := by
  ext w
  rw [language, pow_zero, one_mul, Language.mem_add]
  constructor
  · rintro ⟨n, few, hw⟩
    obtain rfl | rfl := Nat.le_one_iff_eq_zero_or_eq_one.mp (few 1 rfl)
    · exact .inl (by rwa [pow_zero] at hw)
    · exact .inr (by rwa [pow_one] at hw)
  · rintro (hw | hw)
    · exact ⟨0, by simp, by rwa [pow_zero]⟩
    · exact ⟨1, by simp, by rwa [pow_one]⟩

/-! ### What is left -/

/-- Whether it goes on well from a place hangs on what is left there. -/
def Follows (k : Place → Option Place) (good : List Char → Prop) : Prop :=
  ∀ p : Place, p.IsCounted → ((k p).isSome = true ↔ good p.after)

/-- A text of a language comes first, and what is left after it is good. -/
def Leaves (L : Language Char) (good : List Char → Prop) (cs : List Char) : Prop :=
  ∃ w ∈ L, ∃ rest, cs = w ++ rest ∧ good rest

section Leaves

variable {L M : Language Char} {good : List Char → Prop} {cs : List Char}

theorem leaves_one : Leaves 1 good cs ↔ good cs := by
  simp [Leaves, Language.mem_one]

theorem leaves_mul : Leaves (L * M) good cs ↔ Leaves L (Leaves M good) cs := by
  constructor
  · rintro ⟨_, hw, rest, rfl, end_good⟩
    obtain ⟨u, hu, v, hv, rfl⟩ := Language.mem_mul.mp hw
    exact ⟨u, hu, v ++ rest, List.append_assoc .., v, hv, rest, rfl, end_good⟩
  · rintro ⟨u, hu, _, rfl, v, hv, rest, rfl, end_good⟩
    exact ⟨u ++ v, Language.append_mem_mul hu hv, rest, (List.append_assoc ..).symm, end_good⟩

theorem leaves_add : Leaves (L + M) good cs ↔ Leaves L good cs ∨ Leaves M good cs := by
  simp only [Leaves, Language.mem_add, or_and_right, exists_or]

theorem leaves_congr (h : ∀ w : List Char, w.length ≤ cs.length → (w ∈ L ↔ w ∈ M)) :
    Leaves L good cs ↔ Leaves M good cs := by
  refine exists_congr fun w => ?_
  constructor
  all_goals
    rintro ⟨hw, rest, rfl, end_good⟩
    have := h w (by simp)
    exact ⟨by tauto, rest, rfl, end_good⟩

/-- One more round, after which it goes on only if it was not empty. -/
theorem leaves_rounds_succ (n : Nat) : Leaves (rounds L (· ≤ n + 1)) good cs ↔
    good cs ∨ Leaves L (fun rest =>
      if rest.length = cs.length then good rest else Leaves (rounds L (· ≤ n)) good rest) cs := by
  constructor
  · rintro ⟨w, ⟨m, few, hw⟩, rest, rfl, end_good⟩
    by_cases empty : w = []
    · subst empty
      exact .inl end_good
    · obtain ⟨u, hu, filled, i, less, v, hv, rfl⟩ := exists_round_of_pow hw empty
      have longer : (v ++ rest).length ≠ (u ++ v ++ rest).length := by
        have := List.length_pos_iff.mpr filled
        simp only [List.length_append]
        omega
      refine .inr ⟨u, hu, v ++ rest, List.append_assoc .., ?_⟩
      dsimp only
      rw [if_neg longer]
      exact ⟨v, ⟨i, by omega, hv⟩, rest, rfl, end_good⟩
  · rintro (end_good | ⟨u, hu, rest, rfl, goes_on⟩)
    · exact ⟨[], ⟨0, Nat.zero_le _, by simp⟩, cs, rfl, end_good⟩
    · split at goes_on
      · exact ⟨u, ⟨1, Nat.le_add_left 1 n, by simpa using hu⟩, rest, rfl, goes_on⟩
      · obtain ⟨v, ⟨i, few, hv⟩, rest', rfl, end_good⟩ := goes_on
        refine ⟨u ++ v, ⟨i + 1, Nat.succ_le_succ few, mem_pow_succ.mpr ⟨u, hu, v, hv, rfl⟩⟩, rest', ?_,
          end_good⟩
        exact (List.append_assoc ..).symm

end Leaves

/-! ### What the search passes -/

/-- The texts that a matcher passes, whatever comes after, are those of a language. -/
def Passes (m : Matcher) (L : Language Char) : Prop :=
  ∀ k good, Follows k good → Follows (fun p => m p k) (Leaves L good)

section Passes

variable {m m' : Matcher} {L L' : Language Char}

theorem Passes.character (cls : Char → Bool) : Passes (Matcher.character cls) (single cls) := by
  intro k good follows p counted
  refine (character_isSome_iff counted).trans ?_
  constructor
  · rintro ⟨c, rest, left, first, goes_on⟩
    exact ⟨[c], ⟨c, first, rfl⟩, rest, left, (follows _ (Place.isCounted_past ..)).mp goes_on⟩
  · rintro ⟨_, ⟨c, first, rfl⟩, rest, left, end_good⟩
    exact ⟨c, rest, left, first, (follows _ (Place.isCounted_past ..)).mpr end_good⟩

theorem Passes.nothing : Passes (fun p k => k p) 1 :=
  fun _ _ follows p counted => (follows p counted).trans leaves_one.symm

theorem Passes.next (h : Passes m L) (h' : Passes m' L') :
    Passes (fun p k => m p fun q => m' q k) (L * L') := by
  intro k good follows p counted
  exact (h _ _ (h' k good follows) p counted).trans leaves_mul.symm

theorem Passes.times (h : Passes m L) (n : Nat) : Passes (Matcher.times m n) (L ^ n) := by
  induction n with
  | zero =>
    rw [pow_zero]
    exact .nothing
  | succ n ih =>
    rw [pow_succ']
    exact h.next ih

theorem Passes.upTo (h : Passes m L) (mostFirst : Bool) (n : Nat) :
    Passes (Matcher.upTo m mostFirst n) (rounds L (· ≤ n)) := by
  induction n with
  | zero =>
    intro k good follows p counted
    refine (follows p counted).trans (leaves_one.symm.trans (leaves_congr fun w _ => ?_))
    constructor
    · exact fun hw => ⟨0, Nat.le_refl 0, hw⟩
    · rintro ⟨n, few, hw⟩
      rwa [Nat.le_zero.mp few, pow_zero] at hw
  | succ n ih =>
    intro k good follows p counted
    have another : Follows
        (fun q => if q.left = p.left then k q else Matcher.upTo m mostFirst n q k)
        (fun rest => if rest.length = p.after.length then good rest
          else Leaves (rounds L (· ≤ n)) good rest) := by
      intro q counted'
      dsimp only
      rw [counted, counted']
      split
      · exact follows q counted'
      · exact ih k good follows q counted'
    refine (upTo_succ_isSome_iff ..).trans ?_
    rw [follows p counted, h _ _ another p counted, leaves_rounds_succ]

/-- Rounds are tried until nothing is left, which is often enough. -/
theorem Passes.rounds (h : Passes m L) (mostFirst : Bool) (least : Nat) (most : Option Nat) :
    Passes (fun p => Matcher.upTo m mostFirst
      (match most with
        | some n => min (n - least) (p.left + 1)
        | none => p.left + 1) p)
      (rounds L fun n => ∀ l, most = some l → n ≤ l - least) := by
  intro k good follows p counted
  refine (h.upTo mostFirst _ k good follows p counted).trans (leaves_congr fun w short => ?_)
  rw [counted]
  constructor
  · rintro ⟨n, few, hw⟩
    refine ⟨n, fun l hl => ?_, hw⟩
    subst hl
    exact few.trans (Nat.min_le_left ..)
  · rintro ⟨n, few, hw⟩
    obtain ⟨n', less, short', hw'⟩ := exists_pow_le_length hw
    refine ⟨n', ?_, hw'⟩
    cases most with
    | none => exact (short'.trans short).trans (Nat.le_succ _)
    | some l =>
      exact Nat.le_min.mpr ⟨less.trans (few l rfl), (short'.trans short).trans (Nat.le_succ _)⟩

end Passes

/-- The search passes just the language of a regular pattern. -/
theorem attempt_passes {a : Pattern} (regular : a.isRegular = true) : Passes (attempt a) a.language := by
  induction a with
  | empty => exact .nothing
  | never => exact fun k good _ p _ => iff_of_false (by simp [attempt]) (fun ⟨_, h, _⟩ => h)
  | char code negated folding => exact .character _
  | anyChar lineBreaks => exact .character _
  | oneOf items negated folding => exact .character _
  | seq a b iha ihb =>
    obtain ⟨ha, hb⟩ := Bool.and_eq_true_iff.mp regular
    exact (iha ha).next (ihb hb)
  | either a b iha ihb =>
    obtain ⟨ha, hb⟩ := Bool.and_eq_true_iff.mp regular
    intro k good follows p counted
    have first := iha ha k good follows p counted
    have second := ihb hb k good follows p counted
    refine Iff.trans ?_ ((or_congr first second).trans leaves_add.symm)
    dsimp only [attempt]
    cases attempt a p k <;> simp
  | repeated a least most effort ih =>
    obtain ⟨retries, ha⟩ := Bool.and_eq_true_iff.mp regular
    have whole := ((ih ha).times least).next ((ih ha).rounds (effort != .lazy) least most)
    intro k good follows p counted
    refine Iff.trans ?_ (whole k good follows p counted)
    dsimp only [attempt]
    refine (iff_of_eq (congrArg (Option.isSome · = true) (if_neg (by simpa using retries)))).trans ?_
    cases most <;> rfl
  | bracket flagged a ih => exact ih regular
  | group number a ih =>
    intro k good follows p counted
    refine ih regular (fun q => k (q.noteGroup number p)) good (fun q counted' => ?_) p counted
    exact follows (q.noteGroup number p) counted'
  | _ => cases regular

theorem isRegular_sequence {ps : List Pattern} (regular : ∀ p ∈ ps, p.isRegular = true) :
    (sequence ps).isRegular = true := by
  induction ps with
  | nil => rfl
  | cons p ps ih =>
    obtain ⟨first, others⟩ := List.forall_mem_cons.mp regular
    exact Bool.and_eq_true_iff.mpr ⟨first, ih others⟩

theorem attempt_sequence_append (ps qs : List Pattern) (p : Place) (k : Place → Option Place) :
    attempt (sequence (ps ++ qs)) p k =
      attempt (sequence ps) p fun q => attempt (sequence qs) q k := by
  induction ps generalizing p with
  | nil => rfl
  | cons a ps ih => exact congrArg (attempt a p) (funext ih)

/-- Patterns one after the other, from the start of the text to its end, before which a line break may
stand. -/
theorem opens_whole_iff {ps : List Pattern} (regular : ∀ p ∈ ps, p.isRegular = true) (s : String) :
    (sequence (.edge .textStart :: ps ++ [.edge .lastEnd])).opens s = true ↔
      ∃ w ∈ (ps.map language).prod, s.toList = w ∨ s.toList = w ++ ['\n'] := by
  have ends : Follows (fun q => attempt (sequence [.edge .lastEnd]) q some)
      (fun rest => rest = [] ∨ rest = ['\n']) := by
    intro q _
    simp [sequence, attempt, Edge.holds, apply_ite Option.isSome]
  have found := attempt_passes (isRegular_sequence regular) _ _ ends (.between [] s.toList)
    (Place.isCounted_between ..)
  dsimp only at found
  rw [← attempt_sequence_append, language_sequence, Place.after_between] at found
  refine (opens_iff ..).trans (found.trans (exists_congr fun w => and_congr_right fun _ => ?_))
  constructor
  · rintro ⟨rest, whole, rfl | rfl⟩
    · exact .inl (by simpa using whole)
    · exact .inr whole
  · rintro (whole | whole)
    · exact ⟨[], by simpa using whole, .inl rfl⟩
    · exact ⟨['\n'], whole, .inr rfl⟩

end Pattern

end FormEngine
