import FormEngine.Proofs.Input.Address
import Mathlib.Data.List.TakeWhile

/-!
Suggestions for addresses. Only the domain of an address is looked at and put right; the name is kept as
it is, also where it is the name that gives the address a bad form.
-/

namespace FormEngine

namespace EmailInput

/-! ### Name and domain -/

theorem sign_not_mem_nameOf (s : String) : '@' ∉ (nameOf s).toList := by
  intro member
  rw [nameOf, String.toList_ofList] at member
  exact absurd (List.mem_takeWhile_imp member) (by decide)

theorem split_at_sign {cs : List Char} (sign : '@' ∈ cs) :
    cs.takeWhile (· != '@') ++ '@' :: (cs.dropWhile (· != '@')).drop 1 = cs := by
  induction cs with
  | nil => cases sign
  | cons c cs ih =>
    by_cases found : c = '@'
    · subst found
      rfl
    · have later : '@' ∈ cs := (List.mem_cons.mp sign).resolve_left (Ne.symm found)
      simpa [found] using ih later

theorem nameOf_append_domainOf {s : String} (sign : '@' ∈ s.toList) :
    nameOf s ++ "@" ++ domainOf s = s := by
  rw [← String.toList_inj]
  simpa [nameOf, domainOf] using split_at_sign sign

section Parts

variable {s : String} {name domain : List Char} (whole : s.toList = name ++ '@' :: domain)
  (first : '@' ∉ name)

include first in
theorem passed_of_not_mem : ∀ c ∈ name, (c != '@') = true :=
  fun _ hc => bne_iff_ne.mpr fun same => first (same ▸ hc)

include whole first

theorem nameOf_eq : (nameOf s).toList = name := by
  rw [nameOf, whole, List.takeWhile_append_of_pos (passed_of_not_mem first)]
  simp

theorem domainOf_eq : (domainOf s).toList = domain := by
  rw [domainOf, whole, List.dropWhile_append_of_pos (passed_of_not_mem first)]
  simp

end Parts

theorem isFormed_iff {s : String} : IsFormed s.toList ↔
    '@' ∈ s.toList ∧ IsRun nameMarks (nameOf s).toList ∧ IsDomain (domainOf s).toList := by
  constructor
  · rintro ⟨name, domain, whole, hn, hd⟩
    have first : '@' ∉ name := fun member => (hn.plain nameMarks_plain '@' member).1 rfl
    rw [nameOf_eq whole first, domainOf_eq whole first, whole]
    exact ⟨by simp, hn, hd⟩
  · rintro ⟨sign, hn, hd⟩
    refine ⟨_, _, ?_, hn, hd⟩
    conv_lhs => rw [← nameOf_append_domainOf sign]
    simp

theorem isWellFormed_iff_of_unbroken {s : String} (unbroken : s.toList.getLast? ≠ some '\n') :
    isWellFormed s = true ↔ IsFormed s.toList := by
  refine (isWellFormed_iff s).trans (or_iff_left ?_)
  rintro ⟨t, rfl, -⟩
  simp at unbroken

/-! ### Common domains -/

theorem isDomain_of_common : ∀ c ∈ commonDomains, IsDomain c.toList := by
  have labelled : ∀ c ∈ commonDomains, c.toList = c.toList.takeWhile (· != '.') ++ ".com".toList ∧
      IsRun labelMarks (c.toList.takeWhile (· != '.')) := by decide
  intro c hc
  obtain ⟨whole, hl⟩ := labelled c hc
  exact ⟨_, [['c', 'o', 'm']], whole, hl, by decide, by decide⟩

theorem meant_common {d c : String} (h : misspellings.lookup d = some c) : c ∈ commonDomains := by
  have meant : ∀ m ∈ misspellings, m.2 ∈ commonDomains := by decide
  obtain ⟨before, after, whole, -⟩ := List.lookup_eq_some_iff.mp h
  exact meant (d, c) (by rw [whole]; simp)

/-- A common domain is no misspelling, and none that stands before it is near to it. -/
theorem common_settled : ∀ c ∈ commonDomains, misspellings.lookup (toLower c) = none ∧
    commonDomains.find? (isNear (toLower c)) = some c := by
  decide +kernel

/-! ### Suggestions -/

variable {address s : String}

/-- A suggestion has the name of the address and the domain that was meant, or else one near to that of
an address of bad form. -/
theorem suggestion?_eq_some (h : suggestion? address = some s) : '@' ∈ address.toList ∧
    ∃ c ∈ commonDomains, s = nameOf address ++ "@" ++ c ∧
      (misspellings.lookup (toLower (domainOf address)) = some c ∨
        isWellFormed address = false ∧
          commonDomains.find? (isNear (toLower (domainOf address))) = some c) := by
  unfold suggestion? at h
  dsimp only at h
  split at h
  · cases h
  · next parted =>
    have sign : '@' ∈ address.toList := by
      by_contra absent
      simp [absent] at parted
    refine ⟨sign, ?_⟩
    split at h
    · next c meant =>
      cases h
      exact ⟨c, meant_common meant, rfl, .inl meant⟩
    · split at h
      · cases h
      · next bad =>
        obtain ⟨c, near, rfl⟩ := Option.map_eq_some_iff.mp h
        exact ⟨c, List.mem_of_find?_eq_some near, rfl, .inr ⟨by simpa using bad, near⟩⟩

section Corrected

variable (address) (c : String)

theorem corrected_toList : (nameOf address ++ "@" ++ c).toList =
    (nameOf address).toList ++ '@' :: c.toList := by
  simp

theorem nameOf_corrected : nameOf (nameOf address ++ "@" ++ c) = nameOf address :=
  String.toList_inj.mp (nameOf_eq (corrected_toList address c) (sign_not_mem_nameOf address))

theorem domainOf_corrected : domainOf (nameOf address ++ "@" ++ c) = c :=
  String.toList_inj.mp (domainOf_eq (corrected_toList address c) (sign_not_mem_nameOf address))

variable {c}

theorem isWellFormed_corrected_iff (common : c ∈ commonDomains) :
    isWellFormed (nameOf address ++ "@" ++ c) = true ↔ IsRun nameMarks (nameOf address).toList := by
  have ends : ∀ c ∈ commonDomains, c.toList.getLast? = some 'm' := by decide
  have unbroken : (nameOf address ++ "@" ++ c).toList.getLast? ≠ some '\n' := by
    simp [List.getLast?_cons, ends c common]
  rw [isWellFormed_iff_of_unbroken unbroken, isFormed_iff, nameOf_corrected, domainOf_corrected]
  simp [isDomain_of_common c common]

end Corrected

/-- What is suggested is the address itself where its domain is common and its name not good. -/
theorem suggestion_eq_iff (h : suggestion? address = some s) :
    s = address ↔ domainOf address ∈ commonDomains := by
  obtain ⟨sign, c, common, rfl, meant⟩ := suggestion?_eq_some h
  constructor
  · intro same
    rw [← same, domainOf_corrected]
    exact common
  · intro known
    obtain ⟨right, nearest⟩ := common_settled _ known
    rw [right, nearest] at meant
    obtain ⟨-, same⟩ := meant.resolve_left (fun h => nomatch h)
    cases same
    exact nameOf_append_domainOf sign

theorem accept_suggestion (h : suggestion? address = some s) :
    Handler.call (.acceptSuggestion (.str address)) [] = .ok (.report ⟨.change, [.str s]⟩) := by
  obtain ⟨sign, c, -, rfl, -⟩ := suggestion?_eq_some h
  have there : (Value.str address).truthy = true := by
    have filled : address ≠ "" := by
      rintro rfl
      cases sign
    simpa [Value.truthy] using filled
  have found : suggestionFor (.str address) = .ok (some (nameOf address ++ "@" ++ c)) := by
    unfold suggestionFor
    simp [there, h]
  have filled : (nameOf address ++ "@" ++ c).isEmpty = false := by simp
  change Handler.suggest (.str address) = _
  unfold Handler.suggest
  rw [found]
  change Except.ok (if (nameOf address ++ "@" ++ c).isEmpty then Response.quiet else
    .report ⟨.change, [.str (nameOf address ++ "@" ++ c)]⟩) = _
  rw [filled]
  rfl

/-- A suggestion keeps the name and has a common domain. It is a correction, which differs from the address
and is of good form, just if the name is a run; where it is none, the form stays bad, and the address itself
is suggested if its domain is a common one. Accepting reports the suggestion. -/
theorem suggestion_corrects_iff (h : suggestion? address = some s) :
    (nameOf s = nameOf address ∧ domainOf s ∈ commonDomains) ∧
    (s ≠ address ∧ isWellFormed s = true ↔ IsRun nameMarks (nameOf address).toList) ∧
    (isWellFormed s = true ↔ IsRun nameMarks (nameOf address).toList) ∧
    (s = address ↔ domainOf address ∈ commonDomains) ∧
    Handler.call (.acceptSuggestion (.str address)) [] = .ok (.report ⟨.change, [.str s]⟩) := by
  obtain ⟨-, c, common, rfl, meant⟩ := suggestion?_eq_some h
  have formed := isWellFormed_corrected_iff address common
  rw [nameOf_corrected, domainOf_corrected]
  refine ⟨⟨rfl, common⟩, ?_, formed, suggestion_eq_iff h, accept_suggestion h⟩
  refine ⟨fun ⟨_, good⟩ => formed.mp good, fun run => ⟨fun same => ?_, formed.mpr run⟩⟩
  -- the address would be of good form itself, and its domain no misspelling
  obtain ⟨right, -⟩ := common_settled _ ((suggestion_eq_iff h).mp same)
  rw [right] at meant
  obtain ⟨bad, -⟩ := meant.resolve_left (fun h => nomatch h)
  rw [← same, formed.mpr run] at bad
  cases bad

theorem suggestion_for_transposed_letters :
    suggestion? "ada.b@gmial.com" = some "ada.b@gmail.com" ∧
    ("ada.b@gmail.com" ≠ "ada.b@gmial.com" ∧ isWellFormed "ada.b@gmail.com" = true) := by
  have made : suggestion? "ada.b@gmial.com" = some "ada.b@gmail.com" := by decide +kernel
  exact ⟨made, (suggestion_corrects_iff made).2.1.mpr (by decide +kernel)⟩

/-- A name with a blank in it: what is suggested is the address as it stands. -/
theorem blank_in_name_suggested : suggestion? "a b@gmail.com" = some "a b@gmail.com" ∧
    isWellFormed "a b@gmail.com" = false := by
  decide +kernel

end EmailInput

end FormEngine
