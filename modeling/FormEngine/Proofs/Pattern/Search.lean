import FormEngine.Pattern.Search

/-!
What the search for a match finds. A pattern occurs in a text if it matches at one of its places, and a
character that is repeated matches just the runs of such characters, whichever of them is tried first.
-/

namespace FormEngine

namespace Pattern

namespace Place

/-- The place between two parts of a text, with no group noted. -/
def between (before after : List Char) : Place := ⟨before.reverse, after, after.length, []⟩

/-- The place after some characters of what is left, given what is left then. -/
def past (p : Place) (run rest : List Char) : Place :=
  { p with before := run.reverse ++ p.before, after := rest, left := rest.length }

/-- The number of characters left is noted as it is. -/
def IsCounted (p : Place) : Prop := p.left = p.after.length

theorem after_between (before after : List Char) : (between before after).after = after := rfl

theorem after_past (p : Place) (run rest : List Char) : (p.past run rest).after = rest := rfl

theorem isCounted_between (before after : List Char) : (between before after).IsCounted := rfl

theorem isCounted_past (p : Place) (run rest : List Char) : (p.past run rest).IsCounted := rfl

theorem past_past (p : Place) (run run' rest rest' : List Char) :
    (p.past run rest).past run' rest' = p.past (run ++ run') rest' := by
  simp [past]

variable {p : Place} (counted : p.IsCounted)

include counted in
theorem past_nil : p.past [] p.after = p := by
  unfold past
  rw [List.reverse_nil, List.nil_append, ← counted]

include counted in
theorem step_eq_past {c : Char} {rest : List Char} (h : p.after = c :: rest) :
    p.step c rest = p.past [c] rest := by
  have left : p.left - 1 = rest.length := by
    rw [counted, h]
    rfl
  simp [step, past, left]

end Place

/-- A pattern matches at the place between two parts of a text. -/
def MatchesAt (p : Pattern) (before after : List Char) : Prop :=
  (attempt p (.between before after) some).isSome = true

theorem searchFrom_iff (p : Pattern) (before after : List Char) :
    searchFrom p before.reverse after.length after = true ↔
      ∃ skipped rest, after = skipped ++ rest ∧ p.MatchesAt (before ++ skipped) rest := by
  induction after generalizing before with
  | nil =>
    unfold searchFrom
    constructor
    · intro found
      exact ⟨[], [], rfl, by rwa [List.append_nil]⟩
    · rintro ⟨skipped, rest, whole, found⟩
      obtain ⟨rfl, rfl⟩ := List.append_eq_nil_iff.mp whole.symm
      rwa [List.append_nil] at found
  | cons c after ih =>
    have next := ih (before ++ [c])
    rw [List.reverse_append] at next
    unfold searchFrom
    rw [Bool.or_eq_true]
    refine (or_congr_right next).trans ?_
    constructor
    · rintro (here | ⟨skipped, rest, rfl, found⟩)
      · exact ⟨[], c :: after, rfl, by rwa [List.append_nil]⟩
      · exact ⟨c :: skipped, rest, rfl, by rwa [List.append_assoc] at found⟩
    · rintro ⟨skipped, rest, whole, found⟩
      cases skipped with
      | nil =>
        cases whole
        exact .inl (by rwa [List.append_nil] at found)
      | cons d skipped =>
        cases whole
        exact .inr ⟨skipped, rest, rfl, by rwa [List.append_assoc]⟩

/-- A pattern occurs in a text if it matches at some place in it. -/
theorem occursIn_iff (p : Pattern) (s : String) :
    p.occursIn s = true ↔ ∃ before after, s.toList = before ++ after ∧ p.MatchesAt before after := by
  unfold occursIn
  rw [← String.length_toList]
  simpa using searchFrom_iff p [] s.toList

theorem opens_iff (p : Pattern) (s : String) : p.opens s = true ↔ p.MatchesAt [] s.toList := by
  unfold opens MatchesAt Place.between
  rw [String.length_toList]
  rfl

/-! ### Runs of characters of a class -/

/-- Whether most or fewest rounds are tried first does not bear on whether some number of them does. -/
theorem upTo_succ_isSome_iff (body : Matcher) (mostFirst : Bool) (n : Nat) (p : Place)
    (k : Place → Option Place) : (Matcher.upTo body mostFirst (n + 1) p k).isSome = true ↔
    (k p).isSome = true ∨ (body p fun q =>
      if q.left = p.left then k q else Matcher.upTo body mostFirst n q k).isSome = true := by
  rw [Matcher.upTo]
  dsimp only
  generalize (body p fun q =>
    if q.left = p.left then k q else Matcher.upTo body mostFirst n q k) = another
  generalize k p = stopped
  cases mostFirst <;> cases stopped <;> cases another <;> simp

/-- A run of characters of a class, of a length that is admitted, can be passed so that it goes on well. -/
def PassesRun (cls : Char → Bool) (admitted : Nat → Prop) (p : Place) (k : Place → Option Place) :
    Prop :=
  ∃ run rest, p.after = run ++ rest ∧ admitted run.length ∧ (∀ c ∈ run, cls c = true) ∧
    (k (p.past run rest)).isSome = true

section Runs

variable {cls : Char → Bool} {k : Place → Option Place} {p : Place} (counted : p.IsCounted)

include counted in
theorem character_isSome_iff : (Matcher.character cls p k).isSome = true ↔
    ∃ c rest, p.after = c :: rest ∧ cls c = true ∧ (k (p.past [c] rest)).isSome = true := by
  unfold Matcher.character
  cases left : p.after with
  | nil => simp
  | cons c rest =>
    dsimp only
    rw [Place.step_eq_past counted left]
    constructor
    · intro good
      split at good
      · next first => exact ⟨c, rest, rfl, first, good⟩
      · cases good
    · rintro ⟨_, _, ⟨⟩, first, good⟩
      rwa [if_pos first]

include counted in
/-- Nothing is passed, or a first character and then a run. -/
theorem passesRun_iff {admitted : Nat → Prop} : PassesRun cls admitted p k ↔
    (admitted 0 ∧ (k p).isSome = true) ∨
    ∃ c rest, p.after = c :: rest ∧ cls c = true ∧
      PassesRun cls (fun n => admitted (n + 1)) (p.past [c] rest) k := by
  constructor
  · rintro ⟨run, rest, left, length, all, good⟩
    cases run with
    | nil =>
      obtain rfl : p.after = rest := left
      rw [Place.past_nil counted] at good
      exact .inl ⟨length, good⟩
    | cons c run =>
      obtain ⟨first, others⟩ := List.forall_mem_cons.mp all
      refine .inr ⟨c, run ++ rest, left, first, run, rest, rfl, length, others, ?_⟩
      rwa [Place.past_past]
  · rintro (⟨length, good⟩ | ⟨c, rest', left, first, run, rest, more, length, others, good⟩)
    · refine ⟨[], p.after, rfl, length, by simp, ?_⟩
      rwa [Place.past_nil counted]
    · obtain rfl : rest' = run ++ rest := more
      rw [Place.past_past] at good
      exact ⟨c :: run, rest, left, length, List.forall_mem_cons.mpr ⟨first, others⟩, good⟩

include counted in
theorem times_isSome_iff (n : Nat) :
    (Matcher.times (Matcher.character cls) n p k).isSome = true ↔ PassesRun cls (· = n) p k := by
  induction n generalizing p with
  | zero =>
    rw [passesRun_iff counted]
    simp [Matcher.times, PassesRun]
  | succ n ih =>
    unfold Matcher.times
    rw [character_isSome_iff counted, passesRun_iff counted]
    simp [ih (Place.isCounted_past p _ _)]

include counted in
theorem upTo_isSome_iff (mostFirst : Bool) (n : Nat) :
    (Matcher.upTo (Matcher.character cls) mostFirst n p k).isSome = true ↔
      PassesRun cls (· ≤ n) p k := by
  induction n generalizing p with
  | zero =>
    rw [passesRun_iff counted]
    simp [Matcher.upTo, PassesRun]
  | succ n ih =>
    rw [upTo_succ_isSome_iff, character_isSome_iff counted, passesRun_iff counted]
    refine or_congr (by simp) ?_
    refine exists_congr fun c => exists_congr fun rest => and_congr_right fun left =>
      and_congr_right fun _ => ?_
    have moved : (p.past [c] rest).left ≠ p.left := by
      rw [counted, left]
      exact Nat.ne_of_lt (Nat.lt_succ_self _)
    rw [if_neg moved, ih (Place.isCounted_past p _ _)]
    simp

include counted in
/-- A repeated character passes just the runs of such characters that are long enough. -/
theorem repeated_isSome_iff {a : Pattern} (single : attempt a = Matcher.character cls) (least : Nat)
    {effort : Effort} (retries : effort ≠ .possessive) :
    (attempt (.repeated a least none effort) p k).isSome = true ↔ PassesRun cls (least ≤ ·) p k := by
  unfold attempt
  dsimp only
  rw [if_neg retries, single, times_isSome_iff counted]
  constructor
  · rintro ⟨run, rest, left, length, all, more⟩
    obtain ⟨run', rest', left', -, all', good⟩ :=
      (upTo_isSome_iff (Place.isCounted_past p run rest) _ _).mp more
    obtain rfl : rest = run' ++ rest' := left'
    rw [Place.past_past] at good
    refine ⟨run ++ run', rest', by rw [left, List.append_assoc], ?_, ?_, good⟩
    · rw [List.length_append, length]
      exact Nat.le_add_right _ _
    · exact List.forall_mem_append.mpr ⟨all, all'⟩
  · rintro ⟨run, rest, left, length, all, good⟩
    refine ⟨run.take least, run.drop least ++ rest, ?_, List.length_take_of_le length, ?_, ?_⟩
    · rw [left, ← List.append_assoc, List.take_append_drop]
    · exact fun c hc => all c (List.mem_of_mem_take hc)
    · refine (upTo_isSome_iff (Place.isCounted_past p _ _) _ _).mpr
        ⟨run.drop least, rest, rfl, ?_, fun c hc => all c (List.mem_of_mem_drop hc), ?_⟩
      · simp [Place.past]
        omega
      · rwa [Place.past_past, List.take_append_drop]

end Runs

end Pattern

end FormEngine
