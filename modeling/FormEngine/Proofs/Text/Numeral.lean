import FormEngine.Proofs.Text.Blank
import FormEngine.Text.Numeral

/-!
Integers written in decimal and read back. The digits are those of the library; the reader goes through
trimming, digits of other scripts and grouping marks, none of which such a text has anything for.
-/

namespace FormEngine

namespace Numeral

/-- How an integer is written: in decimal, with a minus sign if it is negative and perhaps with a plus
sign if it is not. -/
def Spells (i : Int) (cs : List Char) : Prop :=
  cs = (toString i).toList ∨ 0 ≤ i ∧ cs = '+' :: (toString i).toList

theorem toString_of_nonneg {i : Int} (h : 0 ≤ i) : (toString i).toList = Nat.toDigits 10 i.natAbs := by
  rw [Int.toString_eq_repr, Int.repr_eq_if, if_pos h, Nat.repr_eq_ofList_toDigits, String.toList_ofList]
  congr 1
  omega

theorem toString_of_neg {i : Int} (h : i < 0) :
    (toString i).toList = '-' :: Nat.toDigits 10 i.natAbs := by
  have size : (-i).toNat = i.natAbs := by omega
  rw [Int.toString_eq_repr, Int.repr_eq_if, if_neg (by omega), Nat.repr_eq_ofList_toDigits, size]
  simp

/-- The sign, if there is one, and the digits. -/
theorem Spells.cases {i : Int} {cs : List Char} (h : Spells i cs) :
    (i < 0 ∧ cs = '-' :: Nat.toDigits 10 i.natAbs) ∨
    (0 ≤ i ∧ (cs = Nat.toDigits 10 i.natAbs ∨ cs = '+' :: Nat.toDigits 10 i.natAbs)) := by
  by_cases nonneg : 0 ≤ i
  · refine .inr ⟨nonneg, ?_⟩
    rw [← toString_of_nonneg nonneg]
    exact h.imp_right And.right
  · obtain rfl := h.resolve_right fun plus => nonneg plus.1
    have negative : i < 0 := by omega
    exact .inl ⟨negative, toString_of_neg negative⟩

/-! ### Digits -/

section Digits

theorem isDigit_iff {c : Char} : c.isDigit = true ↔ 48 ≤ c.toNat ∧ c.toNat ≤ 57 := by
  simp only [Char.isDigit, Bool.and_eq_true, decide_eq_true_eq, ge_iff_le, UInt32.le_iff_toNat_le]
  rfl

theorem asciiDigit?_of_isDigit {c : Char} (h : c.isDigit = true) : asciiDigit? c = some (c.toNat - 48) :=
  if_pos (isDigit_iff.mp h)

theorem digitValue?_of_isDigit {c : Char} (h : c.isDigit = true) : digitValue? c = some (c.toNat - 48) :=
  if_pos (isDigit_iff.mp h)

theorem isBlank_of_isDigit {c : Char} (h : c.isDigit = true) : isBlank c = false := by
  have range := isDigit_iff.mp h
  simp [isBlank, CodeRanges.has, CodeRanges.contains, Blank.ranges]
  omega

variable {ds : List Char} (digits : ∀ c ∈ ds, c.isDigit = true)

include digits in
theorem takeDigits_eq : takeDigits ds = (ds.map (·.toNat - 48), []) := by
  induction ds with
  | nil => rfl
  | cons c ds ih =>
    obtain ⟨first, others⟩ := List.forall_mem_cons.mp digits
    simp only [takeDigits, asciiDigit?_of_isDigit first, ih others, List.map_cons]

theorem ofDigits_eq (ds : List Char) : ofDigits (ds.map (·.toNat - 48)) = Nat.ofDigitChars 10 ds 0 := by
  rw [ofDigits, List.foldl_map, Nat.ofDigitChars_eq_foldl]
  rfl

end Digits

theorem isDigit_toDigits (n : Nat) : ∀ c ∈ Nat.toDigits 10 n, c.isDigit = true :=
  fun _ hc => Nat.isDigit_of_mem_toDigits (by decide) (by decide) hc

/-! ### Reading -/

theorem readInteger?_signed {negative : Bool} {cs : List Char} {n : Nat}
    (signed : takeSign cs = (negative, Nat.toDigits 10 n))
    (short : (Nat.toDigits 10 n).length ≤ digitLimit) :
    readInteger? cs = some (if negative then -(n : Int) else n) := by
  have good : (!((Nat.toDigits 10 n).map (·.toNat - 48)).isEmpty && ([] : List Char).isEmpty &&
      ((Nat.toDigits 10 n).map (·.toNat - 48)).length ≤ digitLimit) = true := by
    simpa [Nat.toDigits_ne_nil] using short
  have size : ofDigits ((Nat.toDigits 10 n).map (·.toNat - 48)) = n :=
    (ofDigits_eq _).trans Nat.ofDigitChars_ten_toDigits
  unfold readInteger?
  rw [signed]
  dsimp only
  rw [takeDigits_eq (isDigit_toDigits n)]
  change (if _ then some () else none).bind _ = _
  rw [if_pos good, size]
  rfl

theorem takeSign_toDigits (n : Nat) : takeSign (Nat.toDigits 10 n) = (false, Nat.toDigits 10 n) := by
  have digits := isDigit_toDigits n
  unfold takeSign
  split
  · next start =>
    rw [start] at digits
    exact absurd (digits '-' List.mem_cons_self) (by decide)
  · next start =>
    rw [start] at digits
    exact absurd (digits '+' List.mem_cons_self) (by decide)
  · rfl

variable {i : Int} {cs : List Char}

theorem Spells.readInteger? (h : Spells i cs)
    (short : (Nat.toDigits 10 i.natAbs).length ≤ digitLimit) : readInteger? cs = some i := by
  rcases h.cases with ⟨negative, rfl⟩ | ⟨nonneg, rfl | rfl⟩
  · rw [readInteger?_signed rfl short, if_pos rfl]
    congr 1
    omega
  · rw [readInteger?_signed (takeSign_toDigits _) short, if_neg Bool.false_ne_true]
    congr 1
    omega
  · rw [readInteger?_signed rfl short, if_neg Bool.false_ne_true]
    congr 1
    omega

/-- A digit or a sign. -/
theorem Spells.mem (h : Spells i cs) : ∀ c ∈ cs, c.isDigit = true ∨ c = '-' ∨ c = '+' := by
  have digits := isDigit_toDigits i.natAbs
  rcases h.cases with ⟨-, rfl⟩ | ⟨-, rfl | rfl⟩ <;> intro c hc
  · exact (List.mem_cons.mp hc).elim (fun sign => .inr (.inl sign)) (fun hc => .inl (digits c hc))
  · exact .inl (digits c hc)
  · exact (List.mem_cons.mp hc).elim (fun sign => .inr (.inr sign)) (fun hc => .inl (digits c hc))

theorem joinGroups?_eq (ungrouped : '_' ∉ cs) (afterDigit : Bool) :
    joinGroups? afterDigit cs = some cs := by
  induction cs generalizing afterDigit with
  | nil => rfl
  | cons c cs ih =>
    obtain ⟨other, rest⟩ := not_or.mp (mt List.mem_cons.mpr ungrouped)
    have joined := ih rest (asciiDigit? c).isSome
    unfold joinGroups?
    split
    · next nil => cases nil
    · next mark =>
      cases mark
      exact absurd rfl other
    · next same =>
      cases same
      rw [joined, Option.map_some]

theorem Spells.plainDigits (h : Spells i cs) : plainDigits (String.ofList cs) = cs := by
  have dark : ∀ c ∈ cs, isWhiteSpace c = false := by
    intro c hc
    rcases h.mem c hc with digit | rfl | rfl
    · rw [isWhiteSpace, isBlank_of_isDigit digit, Bool.false_and]
    · decide
    · decide
  unfold Numeral.plainDigits
  rw [String.toList_ofList, trimWhere_eq dark]
  refine (List.map_congr_left fun c hc => ?_).trans (List.map_id cs)
  rcases h.mem c hc with digit | rfl | rfl
  · have range := isDigit_iff.mp digit
    have same : 48 + (c.toNat - 48) = c.toNat := by omega
    rw [digitValue?_of_isDigit digit]
    simp [same]
  · rfl
  · rfl

/-- An integer that is written with at most as many digits as are read is read back. -/
theorem Spells.integerOfText? (h : Spells i cs)
    (short : (Nat.toDigits 10 i.natAbs).length ≤ digitLimit) :
    integerOfText? (String.ofList cs) = some i := by
  have ungrouped : '_' ∉ cs := fun member => absurd (h.mem '_' member) (by decide)
  unfold Numeral.integerOfText?
  rw [h.plainDigits, joinGroups?_eq ungrouped, Option.bind_some, h.readInteger? short]

end Numeral

end FormEngine
