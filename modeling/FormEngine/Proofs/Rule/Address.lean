import FormEngine.Proofs.Rule.Limits

/-!
Addresses. The pattern for them says what an address is, but its end also matches before a final line
break, so that an address with a line break after it passes.
-/

namespace FormEngine

namespace Email

theorem read_form : Pattern.read "^[^@\\s]+@[^@\\s]+\\.[^@\\s]+$" = .ok form :=
  Except.eq_ok_of_toOption (by decide +kernel)

/-- Some characters, none of which is an at sign or white space. -/
def IsPart (cs : List Char) : Prop := cs ≠ [] ∧ ∀ c ∈ cs, c ≠ '@' ∧ isBlank c = false

instance (cs : List Char) : Decidable (IsPart cs) :=
  @instDecidableAnd _ _ _ (List.decidableBAll _ cs)

/-- A name, an at sign, and a domain with a dot inside. -/
def IsAddress (s : String) : Prop :=
  ∃ name domain suffix, s.toList = name ++ '@' :: domain ++ '.' :: suffix ∧
    IsPart name ∧ IsPart domain ∧ IsPart suffix

theorem IsAddress.not_blank {s : String} (h : IsAddress s) : ∀ c ∈ s.toList, isBlank c = false := by
  obtain ⟨name, domain, suffix, whole, hn, hd, hs⟩ := h
  intro c hc
  rw [whole] at hc
  simp only [List.mem_append, List.mem_cons] at hc
  rcases hc with (hc | rfl | hc) | rfl | hc
  · exact (hn.2 c hc).2
  · decide
  · exact (hd.2 c hc).2
  · decide
  · exact (hs.2 c hc).2

theorem IsAddress.false_of_blank {s : String} (h : IsAddress s) {before after : List Char} {c : Char}
    (whole : s.toList = before ++ c :: after) (blank : isBlank c = true) : False := by
  have plain := h.not_blank c (by rw [whole]; simp)
  rw [plain] at blank
  cases blank

/-! ### What the pattern matches -/

theorem akin_none_iff (x c : Char) : Folding.akin .none x.toNat c.toNat = true ↔ c = x := by
  simp [Folding.akin, Folding.equivalents, Folding.lower, Char.toNat_inj]

theorem plain_iff (c : Char) :
    ([SetItem.single 64, .inside .space false].any (·.has .none c) != true) = true ↔
      c ≠ '@' ∧ isBlank c = false := by
  have sign : Folding.akin .none 64 c.toNat = true ↔ c = '@' := akin_none_iff '@' c
  simp [SetItem.has, Folding.lower, SetItem.planeLimit, CharClass.has, ← sign]

section Steps

open Pattern

variable {p : Place} {k : Place → Option Place} (counted : p.IsCounted)

include counted in
theorem part_isSome_iff : (attempt part p k).isSome = true ↔
    ∃ run rest, p.after = run ++ rest ∧ IsPart run ∧ (k (p.past run rest)).isSome = true := by
  refine (repeated_isSome_iff counted rfl 1 (by decide)).trans ?_
  refine exists_congr fun run => exists_congr fun rest => and_congr_right fun _ => ?_
  rw [← and_assoc]
  refine and_congr_left fun _ => and_congr ?_ (forall₂_congr fun c _ => plain_iff c)
  exact Nat.succ_le_iff.trans List.length_pos_iff

include counted in
theorem mark_isSome_iff (mark : Char) :
    (attempt (.char mark.toNat false .none) p k).isSome = true ↔
      ∃ rest, p.after = mark :: rest ∧ (k (p.past [mark] rest)).isSome = true := by
  refine (character_isSome_iff counted).trans ?_
  constructor
  · rintro ⟨c, rest, left, found, good⟩
    obtain rfl := (akin_none_iff mark c).mp (by simpa using found)
    exact ⟨rest, left, good⟩
  · rintro ⟨rest, left, good⟩
    exact ⟨mark, rest, left, by simp [Folding.akin_refl], good⟩

theorem lastEnd_isSome_iff :
    (attempt (.edge .lastEnd) p some).isSome = true ↔ p.after = [] ∨ p.after = ['\n'] := by
  simp [attempt, Edge.holds, apply_ite Option.isSome]

theorem matchesAt_form_iff (cs : List Char) : form.MatchesAt [] cs ↔
    ∃ name domain suffix rest, cs = name ++ '@' :: domain ++ '.' :: suffix ++ rest ∧
      (IsPart name ∧ IsPart domain ∧ IsPart suffix) ∧ (rest = [] ∨ rest = ['\n']) := by
  have steps : form.MatchesAt [] cs ↔ (attempt part (.between [] cs) fun p₁ =>
      attempt (.char '@'.toNat false .none) p₁ fun p₂ => attempt part p₂ fun p₃ =>
      attempt (.char '.'.toNat false .none) p₃ fun p₄ => attempt part p₄ fun p₅ =>
      attempt (.edge .lastEnd) p₅ some).isSome = true := Iff.rfl
  have start : (Place.between [] cs).IsCounted := Place.isCounted_between ..
  rw [steps]
  constructor
  · intro found
    obtain ⟨name, r₁, h₁, hn, found⟩ := (part_isSome_iff start).mp found
    obtain ⟨r₂, h₂, found⟩ := (mark_isSome_iff (Place.isCounted_past ..) '@').mp found
    obtain ⟨domain, r₃, h₃, hd, found⟩ := (part_isSome_iff (Place.isCounted_past ..)).mp found
    obtain ⟨r₄, h₄, found⟩ := (mark_isSome_iff (Place.isCounted_past ..) '.').mp found
    obtain ⟨suffix, r₅, h₅, hs, found⟩ := (part_isSome_iff (Place.isCounted_past ..)).mp found
    have last := lastEnd_isSome_iff.mp found
    simp only [Place.after_between, Place.after_past] at h₁ h₂ h₃ h₄ h₅
    refine ⟨name, domain, suffix, r₅, ?_, ⟨hn, hd, hs⟩, last⟩
    rw [h₁, h₂, h₃, h₄, h₅]
    simp
  · rintro ⟨name, domain, suffix, rest, whole, ⟨hn, hd, hs⟩, last⟩
    have h₁ : cs = name ++ ('@' :: (domain ++ '.' :: (suffix ++ rest))) := by simpa using whole
    refine (part_isSome_iff start).mpr ⟨name, _, h₁, hn, ?_⟩
    refine (mark_isSome_iff (Place.isCounted_past ..) '@').mpr ⟨_, rfl, ?_⟩
    refine (part_isSome_iff (Place.isCounted_past ..)).mpr ⟨domain, _, rfl, hd, ?_⟩
    refine (mark_isSome_iff (Place.isCounted_past ..) '.').mpr ⟨_, rfl, ?_⟩
    refine (part_isSome_iff (Place.isCounted_past ..)).mpr ⟨suffix, _, rfl, hs, ?_⟩
    exact lastEnd_isSome_iff.mpr last

end Steps

/-- Addresses are accepted, and addresses with a line break after them. -/
theorem accepts_iff (s : String) :
    accepts s = true ↔ IsAddress s ∨ ∃ t, s = t ++ "\n" ∧ IsAddress t := by
  unfold accepts
  rw [Pattern.opens_iff, matchesAt_form_iff]
  constructor
  · rintro ⟨name, domain, suffix, rest, whole, parts, rfl | rfl⟩
    · exact .inl ⟨name, domain, suffix, by simpa using whole, parts⟩
    · refine .inr ⟨.ofList (name ++ '@' :: domain ++ '.' :: suffix), ?_, name, domain, suffix,
        by simp, parts⟩
      rw [← String.toList_inj, whole]
      simp
  · rintro (⟨name, domain, suffix, whole, parts⟩ | ⟨t, rfl, name, domain, suffix, whole, parts⟩)
    · exact ⟨name, domain, suffix, [], by simpa using whole, parts, .inl rfl⟩
    · exact ⟨name, domain, suffix, ['\n'], by simp [whole], parts, .inr rfl⟩

theorem accepts_iff_of_unbroken {s : String} (unbroken : s.toList.getLast? ≠ some '\n') :
    accepts s = true ↔ IsAddress s := by
  refine (accepts_iff s).trans (or_iff_left ?_)
  rintro ⟨t, rfl, -⟩
  simp at unbroken

/-- White space stands at the end at most, and is a line break there. -/
theorem blank_of_accepts {s : String} (h : accepts s = true) {before after : List Char} {c : Char}
    (whole : s.toList = before ++ c :: after) (blank : isBlank c = true) : c = '\n' ∧ after = [] := by
  rcases (accepts_iff s).mp h with address | ⟨t, rfl, address⟩
  · exact (address.false_of_blank whole blank).elim
  · rw [String.toList_append] at whole
    rcases List.eq_nil_or_concat after with rfl | ⟨inner, last, rfl⟩
    · obtain ⟨-, same⟩ := List.append_inj' whole rfl
      cases same
      exact ⟨rfl, rfl⟩
    · have ends : t.toList ++ ['\n'] = (before ++ c :: inner) ++ [last] := by simpa using whole
      exact (address.false_of_blank (List.append_inj' ends rfl).1 blank).elim

end Email

namespace FieldRule

section Unlimited

variable {f : FormField} (unlimited : f.minLength = none ∧ f.maxLength = none)
  (free : regexOf f = .null)

include unlimited free

theorem constraintsOf_email : constraintsOf f "email" = [] := by
  simp [constraintsOf, unlimited, free, length, Value.isNull]

theorem compile_email (email : f.type = FieldType.email.tag)
    (derived : (f.validation.elim .null FieldValidation.rule).isNull = true) :
    compile f = .ok ⟨describe f, .text none none true none⟩ := by
  have base : FieldType.ruleBase f.type = "email" := by
    rw [email]
    rfl
  rw [compile_derived derived, base, constraintsOf_email unlimited free]
  rfl

theorem accepts_email_iff (host : Host) {v : String} (present : (Value.str v).isEmpty = false) :
    Accepts host ⟨describe f, .text none none true none⟩ (.str v) ↔ Email.accepts v = true := by
  have shape : Shape.ofText true (constraintsOf f "email") = .ok (.text none none true none) := by
    rw [constraintsOf_email unlimited free]
    rfl
  have occurs : f.PatternOccurs v :=
    (Shape.pattern_eq_ok (p := none) (by rw [free]; rfl) v).mp (by simp)
  rw [accepts_text_iff host true (.inr rfl) shape present]
  simp [Value.text?, occurs, unlimited, Within]

end Unlimited

/-- A rule for addresses alone accepts addresses, and addresses with a line break after them. White space
is nowhere else in what it accepts. -/
theorem email_rule_accepts_addresses {f : FormField} (email : f.type = FieldType.email.tag)
    (derived : (f.validation.elim .null FieldValidation.rule).isNull = true)
    (unlimited : f.minLength = none ∧ f.maxLength = none) (free : regexOf f = .null) :
    ∃ r, compile f = .ok r ∧ ∀ (host : Host) (v : String), (Value.str v).isEmpty = false →
      (r.Accepts host (.str v) ↔
        Email.IsAddress v ∨ ∃ t, v = t ++ "\n" ∧ Email.IsAddress t) ∧
      (v.toList.getLast? ≠ some '\n' → (r.Accepts host (.str v) ↔ Email.IsAddress v)) ∧
      (r.Accepts host (.str v) → ∀ before c after, v.toList = before ++ c :: after →
        isBlank c = true → c = '\n' ∧ after = []) := by
  refine ⟨_, compile_email unlimited free email derived, fun host v present => ?_⟩
  rw [accepts_email_iff unlimited free host present]
  refine ⟨Email.accepts_iff v, Email.accepts_iff_of_unbroken, fun accepted before c after => ?_⟩
  exact Email.blank_of_accepts accepted

def addressRule : FieldRule := ⟨describe (.plain "e" "email"), .text none none true none⟩

theorem isAddress_small : Email.IsAddress "a@b.c" :=
  ⟨['a'], ['b'], ['c'], rfl, by decide, by decide, by decide⟩

theorem addressRule_address_and_space :
    addressRule.Accepts Script.host (.str "a@b.c") ∧ ¬addressRule.Accepts Script.host (.str "a @b.c") := by
  obtain ⟨r, compiles, law⟩ :=
    email_rule_accepts_addresses (f := .plain "e" "email") rfl rfl ⟨rfl, rfl⟩ rfl
  cases compiles
  constructor
  · exact ((law Script.host "a@b.c" (by decide)).2.1 (by decide)).mpr isAddress_small
  · intro accepted
    have blank := (law Script.host "a @b.c" (by decide)).2.2 accepted ['a'] ' ' _ rfl (by decide)
    exact absurd blank.1 (by decide)

/-- White space at the very end is let through. -/
theorem address_with_line_break_accepted :
    compile (.plain "e" "email") = .ok addressRule ∧
    addressRule.Accepts Script.host (.str "a@b.c\n") ∧ ¬Email.IsAddress "a@b.c\n" := by
  refine ⟨rfl, ?_, fun address => ?_⟩
  · have ends : Email.accepts "a@b.c\n" = true :=
      (Email.accepts_iff _).mpr (.inr ⟨"a@b.c", rfl, isAddress_small⟩)
    exact (accepts_email_iff (f := .plain "e" "email") ⟨rfl, rfl⟩ rfl Script.host (by decide)).mpr ends
  · exact absurd (address.not_blank '\n' (by decide)) (by decide)

end FieldRule

end FormEngine
