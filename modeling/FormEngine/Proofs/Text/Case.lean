import FormEngine.Proofs.Text.Blank
import FormEngine.Text.Case

/-!
The length of texts in lower case. Lower case puts one character in the place of another, except that a
capital I with a dot becomes two. What is blank stays blank and nothing else becomes it, so that blanks
at the ends can be dropped before or after.
-/

namespace FormEngine

namespace Case

/-- What can stand for a character in lower case. -/
structure StandsFor (ds : List Char) (c : Char) : Prop where
  filled : ds ≠ []
  blank : ∀ d ∈ ds, isBlank d = isBlank c
  length : ds.length = 1 + if c = 'İ' then 1 else 0

/-- A text is put together of what stands for the characters of another, in order. -/
inductive Spelled : List Char → List Char → Prop
  | nil : Spelled [] []
  | cons {c : Char} {ds cs es : List Char} : StandsFor ds c → Spelled cs es → Spelled (c :: cs) (ds ++ es)

namespace Spelled

variable {cs ds cs' ds' : List Char}

theorem length (h : Spelled cs ds) : ds.length = cs.length + cs.count 'İ' := by
  induction h with
  | nil => rfl
  | @cons c ds cs es first _ ih =>
    simp only [List.length_append, List.length_cons, List.count_cons, beq_iff_eq, first.length, ih]
    omega

theorem append (h : Spelled cs ds) (h' : Spelled cs' ds') : Spelled (cs ++ cs') (ds ++ ds') := by
  induction h with
  | nil => exact h'
  | cons first _ ih =>
    rw [List.append_assoc]
    exact .cons first ih

theorem reverse (h : Spelled cs ds) : Spelled cs.reverse ds.reverse := by
  induction h with
  | nil => exact .nil
  | @cons c ds cs es first _ ih =>
    have last : StandsFor ds.reverse c :=
      ⟨by simpa using first.filled, fun d hd => first.blank d (List.mem_reverse.mp hd),
        by rw [List.length_reverse, first.length]⟩
    rw [List.reverse_cons, List.reverse_append]
    exact ih.append (by simpa using cons last .nil)

theorem dropBlanks (h : Spelled cs ds) : Spelled (cs.dropWhile isBlank) (ds.dropWhile isBlank) := by
  induction h with
  | nil => exact .nil
  | @cons c ds cs es first rest ih =>
    cases blank : isBlank c with
    | true =>
      have dropped : ∀ d ∈ ds, isBlank d = true := fun d hd => (first.blank d hd).trans blank
      rw [List.dropWhile_cons_of_pos blank, List.dropWhile_append_of_pos dropped]
      exact ih
    | false =>
      obtain ⟨d, ds, rfl⟩ := List.exists_cons_of_ne_nil first.filled
      have kept : isBlank d = false := (first.blank d List.mem_cons_self).trans blank
      rw [List.dropWhile_cons_of_neg (by simp [blank]), List.cons_append,
        List.dropWhile_cons_of_neg (by simp [kept])]
      exact .cons first rest

theorem trim (h : Spelled cs ds) : Spelled (trimWhere isBlank cs) (trimWhere isBlank ds) :=
  h.dropBlanks.reverse.dropBlanks.reverse

end Spelled

/-! ### Letters -/

theorem isBlank_ofNat (code : Nat) : isBlank (Char.ofNat code) = Blank.ranges.contains code := by
  unfold isBlank CodeRanges.has
  by_cases valid : code.isValidChar
  · have same : (Char.ofNat code).toNat = code := congrArg Char.toNat (dif_pos valid)
    rw [same]
  · have zero : (Char.ofNat code).toNat = 0 := congrArg Char.toNat (dif_neg valid)
    have high : 55296 ≤ code := by
      by_contra low
      exact valid (.inl (by omega))
    rw [zero]
    simp [CodeRanges.contains, Blank.ranges]
    omega

theorem contains_eq_false {ranges : CodeRanges} {code : Nat}
    (outside : ∀ r ∈ ranges, ¬(r.1 ≤ code ∧ code ≤ r.2)) : ranges.contains code = false := by
  simpa [CodeRanges.contains] using outside

/-- The runs that become lower case, before and after, keep clear of the blanks. -/
theorem lowerRuns_clear : ∀ run ∈ lowerRuns, 0 ≤ run.first + run.shift ∧ ∀ r ∈ Blank.ranges,
    (run.last < r.1 ∨ r.2 < run.first) ∧
      (run.last + run.shift < r.1 ∨ r.2 < run.first + run.shift) := by
  decide +kernel

theorem contains_lowerCode (code : Nat) :
    Blank.ranges.contains (lowerCode code) = Blank.ranges.contains code := by
  unfold lowerCode
  split
  · next small =>
    revert code
    decide
  · unfold CaseRun.apply
    split
    · next run found =>
      have covered := List.find?_some found
      obtain ⟨nonneg, clear⟩ := lowerRuns_clear run (List.mem_of_find?_eq_some found)
      simp only [CaseRun.covers, Bool.and_eq_true, decide_eq_true_eq] at covered
      have upper : Blank.ranges.contains code = false := by
        refine contains_eq_false fun r hr => ?_
        have apart := (clear r hr).1
        omega
      rw [upper]
      refine contains_eq_false fun r hr => ?_
      have apart := (clear r hr).2
      omega
    · rfl

theorem isBlank_lowerChar (c : Char) : isBlank (lowerChar c) = isBlank c :=
  (isBlank_ofNat _).trans (contains_lowerCode c.toNat)

theorem lowerFrom_spelled (before cs : List Char) : Spelled cs (lowerFrom before cs) := by
  induction cs generalizing before with
  | nil => exact .nil
  | cons c cs ih =>
    refine .cons ?_ (ih (c :: before))
    have dotted : c.toNat = 'İ'.toNat ↔ c = 'İ' := Char.toNat_inj
    split
    · next found =>
      obtain rfl := dotted.mp found
      have kind : ∀ d ∈ [Char.ofNat 105, Char.ofNat 775], isBlank d = isBlank 'İ' :=
        List.forall_mem_cons.mpr ⟨by decide, List.forall_mem_singleton.mpr (by decide)⟩
      exact ⟨by decide, kind, by decide⟩
    · next undotted =>
      have plain : ¬c = 'İ' := mt dotted.mpr undotted
      split
      · next sigma =>
        have capital : c.toNat = 'Σ'.toNat := sigma
        obtain rfl := Char.toNat_inj.mp capital
        split
        · exact ⟨by decide, List.forall_mem_singleton.mpr (by decide), by decide⟩
        · exact ⟨by decide, List.forall_mem_singleton.mpr (by decide), by decide⟩
      · exact ⟨by simp, by simpa using isBlank_lowerChar c, by simp [plain]⟩

end Case

/-- A trimmed text in lower case is longer than the trimmed text by its dotted capitals. -/
theorem length_stripBlank_toLower (s : String) :
    (stripBlank (toLower s)).length = (stripBlank s).length + s.toList.count 'İ' := by
  have spelled := (Case.lowerFrom_spelled [] s.toList).trim.length
  rw [count_trimWhere (by decide)] at spelled
  simpa [stripBlank, toLower] using spelled

end FormEngine
