import FormEngine.Proofs.Pattern.Language
import FormEngine.Proofs.Rule.Address
import FormEngine.Proofs.Rule.Wording
import FormEngine.Render.Component

/-!
Addresses in the email input. Its pattern asks for a name and at least two labels, all of them runs of
letters, digits and a few marks. What has this form also has the one that validation asks for.
-/

namespace FormEngine

namespace EmailInput

open Computability

theorem read_format : Pattern.read ("^[a-zA-Z0-9]([a-zA-Z0-9._+-]*[a-zA-Z0-9])?" ++
    "@[a-zA-Z0-9]([a-zA-Z0-9-]*[a-zA-Z0-9])?(\\.[a-zA-Z0-9]([a-zA-Z0-9-]*[a-zA-Z0-9])?)+$") = .ok format :=
  Except.eq_ok_of_toOption (by decide +kernel)

/-- Letters, digits and marks, with a letter or digit at both ends. -/
structure IsRun (marks cs : List Char) : Prop where
  first : cs.head?.any Char.isAlphanum = true
  last : cs.getLast?.any Char.isAlphanum = true
  inside : ∀ c ∈ cs, (c.isAlphanum || marks.contains c) = true

theorem isRun_iff {marks cs : List Char} : IsRun marks cs ↔
    cs.head?.any Char.isAlphanum = true ∧ cs.getLast?.any Char.isAlphanum = true ∧
      ∀ c ∈ cs, (c.isAlphanum || marks.contains c) = true :=
  ⟨fun h => ⟨h.first, h.last, h.inside⟩, fun h => ⟨h.1, h.2.1, h.2.2⟩⟩

instance (marks cs : List Char) : Decidable (IsRun marks cs) :=
  decidable_of_iff' (cs.head?.any Char.isAlphanum = true ∧ cs.getLast?.any Char.isAlphanum = true ∧
    (cs.all fun c => c.isAlphanum || marks.contains c) = true) (by rw [isRun_iff, List.all_eq_true])

/-- Two labels or more, with a dot before each but the first. -/
def IsDomain (cs : List Char) : Prop :=
  ∃ label labels, cs = label ++ labels.flatMap ('.' :: ·) ∧ IsRun labelMarks label ∧ labels ≠ [] ∧
    ∀ l ∈ labels, IsRun labelMarks l

/-- A name, an at sign and a domain. -/
def IsFormed (cs : List Char) : Prop :=
  ∃ name domain, cs = name ++ '@' :: domain ∧ IsRun nameMarks name ∧ IsDomain domain

/-! ### The language of the pattern -/

theorem isAlphanum_iff (c : Char) : c.isAlphanum = true ↔ (97 ≤ c.toNat ∧ c.toNat ≤ 122) ∨
    (65 ≤ c.toNat ∧ c.toNat ≤ 90) ∨ (48 ≤ c.toNat ∧ c.toNat ≤ 57) := by
  unfold Char.isAlphanum Char.isAlpha Char.isUpper Char.isLower Char.isDigit
  simp only [Bool.or_eq_true, Bool.and_eq_true, decide_eq_true_eq, UInt32.le_iff_toNat_le, ge_iff_le]
  change ((65 ≤ c.toNat ∧ c.toNat ≤ 90) ∨ (97 ≤ c.toNat ∧ c.toNat ≤ 122)) ∨
    (48 ≤ c.toNat ∧ c.toNat ≤ 57) ↔ _
  tauto

theorem has_alphanumeric (c : Char) : alphanumeric.any (·.has .none c) = c.isAlphanum := by
  have bounds (first last : Nat) : (SetItem.range first last).has .none c =
    (decide (first ≤ c.toNat) && decide (c.toNat ≤ last)) := rfl
  rw [Bool.eq_iff_iff, isAlphanum_iff]
  simp [alphanumeric, bounds]

theorem has_single (x c : Char) : (SetItem.single x.toNat).has .none c = (c == x) := by
  rw [Bool.eq_iff_iff]
  unfold SetItem.has
  dsimp only
  split
  · rw [Email.akin_none_iff, beq_iff_eq]
  · simp [Folding.lower, Char.toNat_inj]

theorem has_marks (marks : List Char) (c : Char) :
    (marks.map fun x => SetItem.single x.toNat).any (·.has .none c) = marks.contains c := by
  induction marks with
  | nil => rfl
  | cons x marks ih => rw [List.map_cons, List.any_cons, List.contains_cons, ih, has_single]

/-- The languages of one letter or digit and of such, marks included. -/
theorem product_run (number : Nat) (marks : List Char) :
    ((run number marks).map Pattern.language).prod =
      Pattern.single Char.isAlphanum * (1 +
        (Pattern.single fun c => c.isAlphanum || marks.contains c)∗ * Pattern.single Char.isAlphanum) := by
  have edge : (Pattern.oneOf alphanumeric false .none).language = Pattern.single Char.isAlphanum := by
    simp only [Pattern.language, has_alphanumeric, Bool.bne_false]
  have inner : (Pattern.oneOf (alphanumeric ++ marks.map fun c => .single c.toNat) false .none).language =
      Pattern.single fun c => c.isAlphanum || marks.contains c := by
    simp only [Pattern.language, List.any_append, has_alphanumeric, has_marks, Bool.bne_false]
  simp only [run, List.map_cons, List.map_nil, List.prod_cons, List.prod_nil, mul_one,
    Pattern.language_optional, Pattern.language_any, Pattern.language_group, Pattern.language_sequence,
    edge, inner]

def runs (marks : List Char) : Language Char := {w | IsRun marks w}

theorem language_run (number : Nat) (marks : List Char) :
    ((run number marks).map Pattern.language).prod = runs marks := by
  ext w
  rw [product_run, Pattern.mem_enclosed_iff fun c hc => by simp [hc]]
  exact isRun_iff.symm

theorem language_mark (mark : Char) : (Pattern.char mark.toNat false .none).language = {[mark]} := by
  ext w
  constructor
  · rintro ⟨c, found, rfl⟩
    rw [(Email.akin_none_iff mark c).mp (by simpa using found)]
    rfl
  · rintro rfl
    exact ⟨mark, by simp [Folding.akin_refl], rfl⟩

theorem language_parts : (parts.map Pattern.language).prod =
    runs nameMarks * ({['@']} * (runs labelMarks *
      ({['.']} * runs labelMarks * ({['.']} * runs labelMarks)∗))) := by
  have dot : (Pattern.char 46 false .none).language = {['.']} := language_mark '.'
  have sign : (Pattern.char 64 false .none).language = {['@']} := language_mark '@'
  simp only [parts, List.map_append, List.map_cons, List.map_nil, List.prod_append, List.prod_cons,
    List.prod_nil, mul_one, Pattern.language_some, Pattern.language_group, Pattern.language_sequence,
    language_run, dot, sign, List.cons_append, List.append_assoc]

/-- Texts of a language with a mark before each of them. -/
theorem mem_marked_star_iff {mark : Char} {L : Language Char} {w : List Char} :
    w ∈ ({[mark]} * L)∗ ↔ ∃ us : List (List Char), w = us.flatMap (mark :: ·) ∧ ∀ u ∈ us, u ∈ L := by
  rw [Language.mem_kstar]
  constructor
  · rintro ⟨ws, rfl, marked⟩
    induction ws with
    | nil => exact ⟨[], rfl, by simp⟩
    | cons v ws ih =>
      obtain ⟨first, others⟩ := List.forall_mem_cons.mp marked
      obtain ⟨us, whole, hus⟩ := ih others
      obtain ⟨_, rfl, u, hu, rfl⟩ := Language.mem_mul.mp first
      exact ⟨u :: us, by simp [whole], List.forall_mem_cons.mpr ⟨hu, hus⟩⟩
  · rintro ⟨us, rfl, hus⟩
    refine ⟨us.map (mark :: ·), List.flatMap_def, fun y hy => ?_⟩
    obtain ⟨u, hu, rfl⟩ := List.mem_map.mp hy
    exact Language.append_mem_mul (a := [mark]) rfl (hus u hu)

theorem mem_parts_iff {cs : List Char} : cs ∈ (parts.map Pattern.language).prod ↔ IsFormed cs := by
  rw [language_parts]
  constructor
  · intro hw
    obtain ⟨name, hn, _, h₁, rfl⟩ := Language.mem_mul.mp hw
    obtain ⟨_, rfl, _, h₂, rfl⟩ := Language.mem_mul.mp h₁
    obtain ⟨label, hl, _, h₃, rfl⟩ := Language.mem_mul.mp h₂
    obtain ⟨_, h₄, _, others, rfl⟩ := Language.mem_mul.mp h₃
    obtain ⟨_, rfl, next, hnext, rfl⟩ := Language.mem_mul.mp h₄
    obtain ⟨labels, rfl, hls⟩ := mem_marked_star_iff.mp others
    exact ⟨name, _, rfl, hn, label, next :: labels, by simp, hl, List.cons_ne_nil _ _,
      List.forall_mem_cons.mpr ⟨hnext, hls⟩⟩
  · rintro ⟨name, _, rfl, hn, label, labels, rfl, hl, more, hls⟩
    obtain ⟨next, labels, rfl⟩ := List.exists_cons_of_ne_nil more
    obtain ⟨hnext, hls⟩ := List.forall_mem_cons.mp hls
    have rest : ('.' :: next) ++ labels.flatMap ('.' :: ·) ∈
        {['.']} * runs labelMarks * ({['.']} * runs labelMarks)∗ :=
      Language.append_mem_mul (Language.append_mem_mul (a := ['.']) rfl hnext)
        (mem_marked_star_iff.mpr ⟨labels, rfl, hls⟩)
    have whole := Language.append_mem_mul (l := runs nameMarks) hn
      (Language.append_mem_mul (l := {['@']}) rfl (Language.append_mem_mul (l := runs labelMarks) hl rest))
    simpa using whole

/-- An address of good form, or one with a line break after it. -/
theorem isWellFormed_iff (s : String) : isWellFormed s = true ↔
    IsFormed s.toList ∨ ∃ t, s = t ++ "\n" ∧ IsFormed t.toList := by
  have regular : ∀ p ∈ parts, p.isRegular = true := by decide
  unfold isWellFormed format
  rw [Pattern.opens_whole_iff regular]
  simp only [mem_parts_iff]
  constructor
  · rintro ⟨w, hw, rfl | broken⟩
    · exact .inl hw
    · refine .inr ⟨.ofList w, ?_, by simpa using hw⟩
      rw [← String.toList_inj, broken]
      simp
  · rintro (hw | ⟨t, rfl, hw⟩)
    · exact ⟨s.toList, hw, .inl rfl⟩
    · exact ⟨t.toList, hw, .inr (by simp)⟩

/-! ### Next to the form that validation asks for -/

theorem IsRun.ne_nil {marks cs : List Char} (h : IsRun marks cs) : cs ≠ [] := by
  rintro rfl
  exact absurd h.first (by decide)

theorem plain_of_isAlphanum {c : Char} (h : c.isAlphanum = true) : c ≠ '@' ∧ isBlank c = false := by
  rw [isAlphanum_iff] at h
  refine ⟨fun same => ?_, ?_⟩
  · subst same
    revert h
    decide
  · simp [isBlank, CodeRanges.has, CodeRanges.contains, Blank.ranges]
    omega

theorem IsRun.plain {marks cs : List Char} (h : IsRun marks cs)
    (plain : ∀ c ∈ marks, c ≠ '@' ∧ isBlank c = false) : ∀ c ∈ cs, c ≠ '@' ∧ isBlank c = false := by
  intro c hc
  rcases Bool.or_eq_true_iff.mp (h.inside c hc) with letter | mark
  · exact plain_of_isAlphanum letter
  · exact plain c (List.contains_iff_mem.mp mark)

theorem nameMarks_plain : ∀ c ∈ nameMarks, c ≠ '@' ∧ isBlank c = false :=
  (by decide : Email.IsPart nameMarks).2

theorem labelMarks_plain : ∀ c ∈ labelMarks, c ≠ '@' ∧ isBlank c = false :=
  (by decide : Email.IsPart labelMarks).2

/-- The first dot divides a domain. -/
theorem IsFormed.isAddress {s : String} (h : IsFormed s.toList) : Email.IsAddress s := by
  obtain ⟨name, _, whole, hn, label, labels, rfl, hl, more, hls⟩ := h
  obtain ⟨next, labels, rfl⟩ := List.exists_cons_of_ne_nil more
  obtain ⟨hnext, hls⟩ := List.forall_mem_cons.mp hls
  refine ⟨name, label, next ++ labels.flatMap ('.' :: ·), by simpa using whole,
    ⟨hn.ne_nil, hn.plain nameMarks_plain⟩, ⟨hl.ne_nil, hl.plain labelMarks_plain⟩,
    by simp [hnext.ne_nil], ?_⟩
  intro c hc
  simp only [List.mem_append, List.mem_flatMap, List.mem_cons] at hc
  rcases hc with hc | ⟨l, member, rfl | hc⟩
  · exact hnext.plain labelMarks_plain c hc
  · decide
  · exact (hls l member).plain labelMarks_plain c hc

theorem accepts_of_isWellFormed {s : String} (h : isWellFormed s = true) : Email.accepts s = true := by
  rw [Email.accepts_iff]
  rcases (isWellFormed_iff s).mp h with formed | ⟨t, rfl, formed⟩
  · exact .inl formed.isAddress
  · exact .inr ⟨t, rfl, formed.isAddress⟩

end EmailInput

theorem Component.format_valid_eq (visible : Bool) (p : FieldProps) :
    ((ofBuiltIn .email).render visible p).props.get? "format_valid" =
      some (.bool ((shownText p.value).isEmpty || EmailInput.isWellFormed (shownText p.value))) := by
  unfold render baseProps lengthProps
  dsimp only
  split <;> rfl

theorem Value.isEmpty_of_text {v : Value} (h : v.text? = some "") : v.isEmpty = true := by
  have blank : (stripBlank "" == "") = true := by decide
  cases v with
  | str s =>
    cases h
    exact blank
  | name vocabulary s =>
    cases h
    exact blank
  | _ => cases h

namespace FieldRule

variable {f : FormField} {r : FieldRule} (host : Host)

theorem not_reports_of_isWellFormed {v : Value} {s : String} (text : v.text? = some s)
    (formed : EmailInput.isWellFormed s = true) : ¬r.Reports host v Email.complaint := by
  intro reported
  obtain ⟨_, same, unaccepted⟩ := unaccepted_of_reports reported
  rw [text] at same
  cases same
  rw [EmailInput.accepts_of_isWellFormed formed] at unaccepted
  cases unaccepted

/-- What the input shows as an address of good form is either that or no text at all. -/
theorem not_reports_of_shown {v : Value} (present : v.isEmpty = false)
    (shown : ((Component.shownText v).isEmpty || EmailInput.isWellFormed (Component.shownText v)) = true) :
    ¬r.Reports host v Email.complaint := by
  intro reported
  obtain ⟨s, text, -⟩ := unaccepted_of_reports reported
  have same : Component.shownText v = s := by simp [Component.shownText, text]
  rw [same] at shown
  rcases Bool.or_eq_true_iff.mp shown with empty | formed
  · rw [String.isEmpty_iff.mp empty] at text
    rw [Value.isEmpty_of_text text] at present
    cases present
  · exact not_reports_of_isWellFormed host text formed reported

section Derived

variable (derived : (f.validation.elim .null FieldValidation.rule).isNull = true)

include derived in
theorem check_email (email : f.type = FieldType.email.tag) (compiles : compile f = .ok r) (v : Value) :
    ∃ messages, (r.check host v).value = .ok messages ∧
      (Email.complaint ∈ messages ↔ v.isEmpty = false ∧ ∃ s, v.text? = some s ∧
        Within f.minLength f.maxLength s.length ∧ Email.accepts s = false) := by
  cases empty : v.isEmpty with
  | true =>
    have own : hostRule? (f.validation.elim .null FieldValidation.rule) = none := by
      rw [Value.eq_null_of_isNull derived]
      rfl
    rw [check_of_isEmpty (settlesEmptiness_of_compile own compiles) host empty]
    refine ⟨_, rfl, iff_of_false ?_ (by simp)⟩
    split
    · decide
    · simp
  | false =>
    have made : Shape.ofText true (constraintsOf f "email") = .ok r.shape :=
      shape_of_compile derived compiles email
    obtain ⟨least, most, p, shape, hl, hm, -⟩ := shape_eq_text (.inr rfl) made
    rw [check_of_verdict (verdict_text shape empty)]
    refine ⟨_, rfl, ?_⟩
    cases v.text? with
    | none => simp [Email.complaint]
    | some s => simp [Shape.textIssue?_eq_complaint_iff, Limits.textIssue?_eq_none_iff, hl, hm]

end Derived

/-- The email input and the rule of an email field do not contradict each other: of what the one takes for
an address of good form the other never says that it is none. A rule without an explicit one says so of
the texts within its limits that its own pattern does not match. -/
theorem email_input_and_rule_agree (email : f.type = FieldType.email.tag) (compiles : compile f = .ok r) :
    (∀ (v : Value) (s : String), v.text? = some s → EmailInput.isWellFormed s = true →
      ¬r.Reports host v "Invalid email address") ∧
    (∀ (visible : Bool) (p : FieldProps), p.value.isEmpty = false →
      ((Component.ofBuiltIn .email).render visible p).props.get? "format_valid" = some (.bool true) →
      ¬r.Reports host p.value "Invalid email address") ∧
    ((f.validation.elim .null FieldValidation.rule).isNull = true → ∀ v : Value,
      ∃ messages, (r.check host v).value = .ok messages ∧
        ("Invalid email address" ∈ messages ↔ v.isEmpty = false ∧ ∃ s, v.text? = some s ∧
          Within f.minLength f.maxLength s.length ∧ Email.accepts s = false)) := by
  refine ⟨fun v s text formed => not_reports_of_isWellFormed host text formed, ?_, ?_⟩
  · intro visible p present shown
    rw [Component.format_valid_eq] at shown
    exact not_reports_of_shown host present (Value.bool.inj (Option.some.inj shown))
  · intro derived v
    exact check_email host derived email compiles v

theorem isWellFormed_small : EmailInput.isWellFormed "a.b@c.d" = true :=
  (EmailInput.isWellFormed_iff _).mpr
    (.inl ⟨"a.b".toList, "c.d".toList, by decide, by decide,
      ['c'], [['d']], by decide, by decide, by decide, by decide⟩)

theorem addressRule_reports_dotless_domain :
    ¬addressRule.Reports Script.host (.str "a.b@c.d") "Invalid email address" ∧
    addressRule.Reports Script.host (.str "a.b@c") "Invalid email address" := by
  obtain ⟨read, -, law⟩ :=
    email_input_and_rule_agree (f := .plain "e" "email") (r := addressRule) Script.host rfl rfl
  refine ⟨read _ _ rfl isWellFormed_small, ?_⟩
  obtain ⟨messages, found, said⟩ := law rfl (.str "a.b@c")
  have unaccepted : Email.accepts "a.b@c" = false := by decide +kernel
  exact ⟨messages, found, said.mpr ⟨by decide, _, rfl, ⟨by rintro _ ⟨⟩, by rintro _ ⟨⟩⟩, unaccepted⟩⟩

end FieldRule

end FormEngine
