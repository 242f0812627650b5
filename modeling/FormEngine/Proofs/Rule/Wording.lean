import FormEngine.Proofs.Rule.Presence

/-!
How complaints are worded. No type complains in the words of the rule for addresses, whatever is read as
it, so these words are said of texts alone that the pattern for addresses does not match.
-/

namespace FormEngine

/-- What is said of a text that is no address. -/
def Email.complaint : String := "Invalid email address"

/-- Words that are not those about addresses. -/
def Otherwise (message : String) : Prop := message ≠ Email.complaint

instance (message : String) : Decidable (Otherwise message) :=
  inferInstanceAs (Decidable (message ≠ Email.complaint))

theorem otherwise_append {opening : String} (h : ¬opening.toList <+: Email.complaint.toList)
    (rest : String) : Otherwise (opening ++ rest) := by
  intro same
  refine h ⟨rest.toList, ?_⟩
  rw [← String.toList_append, same]

/-- A complaint, if there is one, in other words. -/
def Aside (complaint : Option String) : Prop := ∀ m, complaint = some m → Otherwise m

theorem Aside.none : Aside none := fun _ h => nomatch h

theorem Aside.some {m : String} (h : Otherwise m) : Aside (some m) := by
  rintro _ ⟨⟩
  exact h

theorem Aside.or {a b : Option String} (ha : Aside a) (hb : Aside b) : Aside (a.or b) := by
  cases a with
  | none => simpa using hb
  | some m => simpa using ha

/-! ### Results of reading -/

/-- All that is wrong is told in other words. -/
def Checked.Other {α : Type} (x : Checked α) : Prop := ∀ i ∈ x.issues, Otherwise i.message

namespace Checked.Other

variable {α β : Type}

theorem ok (a : α) : (Checked.ok a).Other := fun _ h => nomatch h

theorem fail {message : String} (h : Otherwise message) : (Checked.fail message : Checked α).Other := by
  rintro i hi
  obtain rfl := List.mem_singleton.mp hi
  exact h

theorem map {x : Checked α} {f : α → β} (h : x.Other) : (f <$> x).Other := by
  cases x with
  | ok a => exact ok (f a)
  | failed is => exact h

theorem seq {f : Checked (α → β)} {x : Checked α} (hf : f.Other) (hx : x.Other) : (f <*> x).Other := by
  cases f with
  | ok f =>
    cases x with
    | ok a => exact ok (f a)
    | failed is => exact hx
  | failed is =>
    cases x with
    | ok a => exact hf
    | failed js => exact fun i hi => (List.mem_append.mp hi).elim (hf i) (hx i)

theorem under {x : Checked α} (h : x.Other) (step : PathStep) : (x.under step).Other := by
  cases x with
  | ok a => exact ok a
  | failed is =>
    intro i hi
    obtain ⟨j, hj, rfl⟩ := List.mem_map.mp hi
    exact h j hj

end Checked.Other

theorem Aside.elim {complaint : Option String} (h : Aside complaint) :
    (complaint.elim (.ok ()) Checked.fail).Other := by
  cases complaint with
  | none => exact .ok ()
  | some m => exact .fail (h m rfl)

/-- Where there is a result, all that is wrong is told in other words. -/
def Reads {α : Type} (r : Except Fault (Checked α)) : Prop := ∀ x, r = .ok x → x.Other

namespace Reads

variable {α β : Type}

theorem ok {x : Checked α} (h : x.Other) : Reads (.ok x) := by
  rintro _ ⟨⟩
  exact h

theorem error (e : Fault) : Reads (.error e : Except Fault (Checked α)) := fun _ h => nomatch h

theorem complain {message : Option String} (h : Aside message) (v : Value) :
    Reads (Reading.complain message v) := by
  cases message with
  | none => exact ok (.ok v)
  | some m => exact ok (.fail (h m rfl))

theorem bind {r : Except Fault (Checked α)} {f : Checked α → Except Fault (Checked β)} (h : Reads r)
    (next : ∀ x : Checked α, x.Other → Reads (f x)) : Reads (r >>= f) := by
  intro y hy
  obtain ⟨x, hx, made⟩ := Except.bind_eq_ok.mp hy
  exact next x (h x hx) y made

theorem items {read : Value → Reading} (h : ∀ v, Reads (read v)) (n : Nat) (xs : List Value) :
    Reads (Reading.items read n xs) := by
  induction xs generalizing n with
  | nil => exact ok (.ok [])
  | cons x xs ih =>
    exact (h x).bind fun y hy => (ih (n + 1)).bind fun ys hys => ok ((hy.under _).map.seq hys)

end Reads

/-! ### Limits -/

namespace Limits

theorem numberIssue?_aside (least most v : Value) : Aside (numberIssue? least most v) := by
  unfold numberIssue?
  split
  · exact .some (otherwise_append (by decide) _)
  · split
    · exact .some (otherwise_append (by decide) _)
    · exact .none

theorem textIssue?_aside (least most : Option Nat) (s : String) : Aside (textIssue? least most s) := by
  refine .or (fun m h => ?_) (fun m h => ?_)
  all_goals
    obtain ⟨n, -, rfl⟩ := Option.map_eq_some_iff.mp h
    exact otherwise_append (by decide) _

variable (noun : String) (other : ¬noun.toList <+: Email.complaint.toList) (limit : Option Nat)
  (length : Nat)

include other in
theorem underfull?_aside : Aside (underfull? noun limit length) := by
  intro m h
  obtain ⟨n, -, rfl⟩ := Option.map_eq_some_iff.mp h
  simp only [String.append_assoc]
  exact otherwise_append other _

include other in
theorem overfull?_aside (known : Bool) : Aside (overfull? noun limit length known) := by
  intro m h
  obtain ⟨n, -, rfl⟩ := Option.map_eq_some_iff.mp h
  simp only [String.append_assoc]
  exact otherwise_append other _

end Limits

/-! ### Plain values -/

namespace Scalar

open Checked (Other)

theorem text_other (v : Value) : (text v).Other := by
  unfold text
  split
  · exact .ok _
  · exact .fail (by decide)

theorem boolOfWord_other (s : String) : (boolOfWord s).Other := by
  unfold boolOfWord
  dsimp only
  split
  · exact .ok _
  · split
    · exact .ok _
    · exact .fail (by decide)

theorem boolOfInt_other (i : Int) : (boolOfInt i).Other := by
  unfold boolOfInt
  split
  · exact .ok _
  · split
    · exact .ok _
    · exact .fail (by decide)

theorem intOfText_other (s : String) : (intOfText s).Other := by
  unfold intOfText
  split
  · exact .ok _
  · exact .fail (by decide)
  · exact .fail (by decide)

theorem intOfFloat_other (x : Binary64) : (intOfFloat x).Other := by
  unfold intOfFloat
  split
  · exact .fail (by decide)
  · split
    · split
      · exact .ok _
      · exact .fail (by decide)
    · exact .fail (by decide)

theorem bool_other (v : Value) : (bool v).Other := by
  unfold bool
  dsimp only
  split
  · exact .ok _
  · split
    · exact boolOfInt_other _
    · exact .fail (by decide)
  · split
    · exact boolOfInt_other _
    · exact .fail (by decide)
  · split
    · exact boolOfWord_other _
    · exact .fail (by decide)

theorem int_other (v : Value) : (int v).Other := by
  unfold int
  split
  · exact .ok _
  · exact .ok _
  · exact intOfFloat_other _
  · split
    · exact intOfText_other _
    · exact .fail (by decide)

theorem float_other (v : Value) : (float v).Other := by
  unfold float
  split
  · exact .ok _
  · unfold floatOfInt
    dsimp only
    split
    · exact .ok _
    · exact .fail (by decide)
  · exact .ok _
  · split
    · split
      · exact .ok _
      · exact .fail (by decide)
    · exact .fail (by decide)

end Scalar

/-! ### The calendar -/

namespace Calendar

theorem yearIssue?_aside (day : Temporal.Date) {before : String}
    (other : ¬before.toList <+: Email.complaint.toList) : Aside (yearIssue? day before) := by
  unfold yearIssue?
  split
  · exact .some (otherwise_append other _)
  · exact .none

theorem dateOfMomentIssue?_aside (result : Except Temporal.Misfit Temporal.Moment) :
    Aside (dateOfMomentIssue? result) := by
  unfold dateOfMomentIssue?
  split
  · split
    · exact yearIssue?_aside _ (by decide)
    · exact .some (by decide)
  · exact .some (otherwise_append (by decide) _)

theorem dateIssue?_aside (v : Value) : Aside (dateIssue? v) := by
  unfold dateIssue?
  split
  · split
    · exact yearIssue?_aside _ (by decide)
    · exact dateOfMomentIssue?_aside _
  · split
    · exact dateOfMomentIssue?_aside _
    · exact .some (by decide)

theorem momentIssue?_aside (v : Value) : Aside (momentIssue? v) := by
  unfold momentIssue?
  dsimp only
  split
  · split
    · exact yearIssue?_aside _ (by decide)
    · exact yearIssue?_aside _ (by decide)
    · exact .some (otherwise_append (by decide) _)
  · split
    · exact yearIssue?_aside _ (by decide)
    · exact .some (otherwise_append (by decide) _)
    · exact .some (by decide)

theorem timeIssue?_aside (v : Value) : Aside (timeIssue? v) := by
  unfold timeIssue?
  dsimp only
  split
  · split
    · exact .none
    · exact .some (otherwise_append (by decide) _)
  · split
    · exact .none
    · exact .some (otherwise_append (by decide) _)
    · exact .some (by decide)

end Calendar

/-! ### Types -/

namespace Test

theorem compareLength_reads (limit x : Value) (kept : Value → Option Bool)
    {message : Nat → Nat → Option String} (h : ∀ n length, Aside (message n length)) :
    Reads (compareLength limit x kept message) := by
  unfold compareLength
  split
  · exact .error _
  · split
    · exact .ok (.ok x)
    · exact .complain (h _ _) x
    · exact .error _

theorem apply_reads (test : Test) (x : Value) : Reads (test.apply x) := by
  cases test
  case longEnough limit =>
    exact compareLength_reads limit x (limit.lessEqual? ·) fun n length =>
      Limits.underfull?_aside "Value" (by decide) (some n) length
  case shortEnough limit =>
    exact compareLength_reads limit x (·.lessEqual? limit) fun n length =>
      Limits.overfull?_aside "Value" (by decide) (some n) length true
  -- a bound on the value itself: kept, not kept, or not to be compared
  all_goals
    unfold apply
    dsimp only
    split
    · exact .ok (.ok x)
    · exact .ok (.fail (otherwise_append (by decide) _))
    · exact .error _

end Test

namespace Reads

theorem member {read : Value → Reading} (h : ∀ v, Reads (read v)) (v : Value) :
    Reads (Reading.member read v) := by
  refine (h v).bind fun x hx => ?_
  cases x with
  | ok x =>
    refine .ok ?_
    split
    · exact .ok x
    · exact .fail (by decide)
  | failed issues => exact .ok hx

theorem pair {readKey read : Value → Reading} (hk : ∀ v, Reads (readKey v)) (hr : ∀ v, Reads (read v))
    (e : Value × Value) : Reads (Reading.pair readKey read e) :=
  (hk e.1).bind fun _ key => (hr e.2).bind fun _ v => .ok (((key.under _).under _).map.seq (v.under _))

theorem pairs {readKey read : Value → Reading} (hk : ∀ v, Reads (readKey v)) (hr : ∀ v, Reads (read v))
    (least most : Option Nat) (entries : List (Value × Value)) :
    Reads (Reading.pairs readKey read least most entries) := by
  intro y hy
  obtain ⟨readings, made, rest⟩ := Except.bind_eq_ok.mp hy
  have each : ∀ x ∈ readings, x.Other := by
    have paired := Except.mapM_eq_ok made
    clear hy made rest
    induction paired with
    | nil => simp
    | cons found _ ih => exact List.forall_mem_cons.mpr ⟨pair hk hr _ _ found, ih⟩
  have other : (Checked.failed (readings.flatMap Checked.issues) : Checked Value).Other := by
    intro i hi
    obtain ⟨x, hx, inside⟩ := List.mem_flatMap.mp hi
    exact each x hx i inside
  dsimp only at rest
  split at rest
  · next m found =>
    cases rest
    exact .fail (Limits.overfull?_aside "Dictionary" (by decide) _ _ _ m found)
  · split at rest
    · cases rest
      exact other
    · exact complain (Limits.underfull?_aside "Dictionary" (by decide) _ _) _ y rest

end Reads

namespace Datatype

mutual

theorem read_reads (t : Datatype) (v : Value) : Reads (t.read v) := by
  cases t with
  | anything => exact .ok (.ok v)
  | nothing =>
    refine .complain ?_ v
    split
    · exact .none
    · exact .some (by decide)
  | integer least most =>
    unfold read
    have whole := Scalar.int_other v
    split
    · exact .complain (Limits.numberIssue?_aside _ _ _) _
    · next failed =>
      rw [failed] at whole
      exact .ok whole
  | number least most =>
    unfold read
    have whole := Scalar.float_other v
    split
    · exact .complain (Limits.numberIssue?_aside _ _ _) _
    · next failed =>
      rw [failed] at whole
      exact .ok whole
  | text least most =>
    unfold read
    have whole := Scalar.text_other v
    split
    · exact .complain (Limits.textIssue?_aside _ _ _) _
    · next failed =>
      rw [failed] at whole
      exact .ok whole
  | boolean => exact .ok (Scalar.bool_other v).map
  | date => exact .complain (Calendar.dateIssue?_aside v) v
  | time => exact .complain (Calendar.timeIssue?_aside v) v
  | moment => exact .complain (Calendar.momentIssue?_aside v) v
  | list item least most =>
    unfold read
    split
    · exact .ok (.fail (by decide))
    · split
      · next m found => exact .ok (.fail (Limits.overfull?_aside "List" (by decide) _ _ _ m found))
      · refine (Reads.items (read_reads item) 0 _).bind fun ys hys => ?_
        cases ys with
        | ok ys => exact .complain (Limits.underfull?_aside "List" (by decide) _ _) _
        | failed issues => exact .ok hys
  | record key value least most =>
    unfold read
    split
    · exact .ok (.fail (by decide))
    · exact .pairs (read_reads key) (read_reads value) _ _ _
  | bytes =>
    refine .complain ?_ v
    split
    · exact .none
    · exact .some (by decide)
  | set word item =>
    unfold read
    split
    · exact .ok (.fail (otherwise_append (by decide) _))
    · exact (Reads.items (Reads.member (read_reads item)) 0 _).bind fun _ hys => .ok hys.map
  | tuple item =>
    unfold read
    split
    · exact .ok (.fail (by decide))
    · exact (Reads.items (read_reads item) 0 _).bind fun _ hys => .ok hys.map
  | fixed items =>
    unfold read
    split
    · exact .ok (.fail (by decide))
    · next xs _ =>
      refine (readEach_reads items 0 xs).bind fun ys hys => .ok (hys.map.seq ?_)
      exact (Limits.overfull?_aside "Tuple" (by decide) _ xs.length true).elim
  | nullable t =>
    unfold read
    split
    · exact .ok (.ok v)
    · exact read_reads t v
  | choice members =>
    unfold read
    exact readFirst_reads members v
  | tested t test =>
    unfold read
    refine (read_reads t v).bind fun x hx => ?_
    cases x with
    | ok x => exact test.apply_reads x
    | failed issues => exact .ok hx
  | model name attributes =>
    unfold read
    split
    · exact .ok (.fail (otherwise_append (by decide) _))
    · exact readAttributes_reads attributes _ v
termination_by structural t

theorem readFirst_reads (ts : List Datatype) (v : Value) : Reads (readFirst ts v) := by
  cases ts with
  | nil => exact .ok fun _ h => nomatch h
  | cons t ts =>
    unfold readFirst
    refine (read_reads t v).bind fun x hx => ?_
    cases x with
    | ok x => exact .ok (.ok x)
    | failed issues =>
      refine (readFirst_reads ts v).bind fun y hy => ?_
      cases y with
      | ok y => exact .ok (.ok y)
      | failed others => exact .ok fun i hi => (List.mem_append.mp hi).elim (hx.under _ i) (hy i)
termination_by structural ts

theorem readEach_reads (ts : List Datatype) (n : Nat) (xs : List Value) : Reads (readEach ts n xs) := by
  cases ts with
  | nil => exact .ok (.ok [])
  | cons t ts =>
    unfold readEach
    have others (y : Checked Value) (hy : y.Other) : Reads (do
        let ys ← readEach ts (n + 1) xs.tail
        return List.cons <$> y.under (.index n) <*> ys) :=
      (readEach_reads ts (n + 1) xs.tail).bind fun ys hys => .ok ((hy.under _).map.seq hys)
    cases xs.head? with
    | some x => exact (read_reads t x).bind others
    | none => exact others _ (.fail (by decide))
termination_by structural ts

theorem readAttributes_reads (as : List (String × Datatype × Bool)) (entries : List (Value × Value))
    (v : Value) : Reads (readAttributes as entries v) := by
  cases as with
  | nil => exact .ok (.ok v)
  | cons a rest =>
    unfold readAttributes
    exact (readAttribute_reads a entries).bind fun x hx =>
      (readAttributes_reads rest entries v).bind fun y hy => .ok (hx.map.seq hy)
termination_by structural as

theorem readAttribute_reads (a : String × Datatype × Bool) (entries : List (Value × Value)) :
    Reads (readAttribute a entries) := by
  cases a with
  | mk name typed => exact readNamed_reads name typed entries
termination_by structural a

theorem readNamed_reads (name : String) (a : Datatype × Bool) (entries : List (Value × Value)) :
    Reads (readNamed name a entries) := by
  cases a with
  | mk t hasDefault =>
    unfold readNamed
    split
    · exact (read_reads t _).bind fun x hx => .ok (hx.under _)
    · refine .ok ?_
      split
      · exact .ok _
      · exact (Checked.Other.fail (by decide)).under _
termination_by structural a

end

end Datatype

/-! ### Rules -/

/-- A message is among the complaints. -/
def Verdict.Says (d : Verdict) (message : String) : Prop :=
  ∃ found, d = .issues found ∧ ∃ i ∈ found, i.message = message

namespace Verdict

theorem says_sayIf_iff {complaint : Option String} {message : String} :
    (sayIf complaint).Says message ↔ complaint = some message := by
  cases complaint with
  | none => exact iff_of_false (by rintro ⟨_, ⟨⟩, _, h, _⟩; cases h) (fun h => nomatch h)
  | some m =>
    constructor
    · rintro ⟨_, ⟨⟩, i, hi, rfl⟩
      rw [List.mem_singleton.mp hi]
    · rintro ⟨⟩
      exact ⟨_, rfl, _, List.mem_singleton_self _, rfl⟩

theorem says_say_iff {complaint message : String} :
    (say complaint).Says message ↔ complaint = message := by
  change (sayIf (some complaint)).Says message ↔ _
  rw [says_sayIf_iff, Option.some_inj]

theorem not_says_sayIf {complaint : Option String} (h : Aside complaint) :
    ¬(sayIf complaint).Says Email.complaint :=
  fun said => h _ (says_sayIf_iff.mp said) rfl

theorem not_says_ofReading {r : Reading} (h : Reads r) : ¬(ofReading r).Says Email.complaint := by
  rintro ⟨found, said, i, hi, same⟩
  cases r with
  | error e => cases said
  | ok x =>
    cases said
    exact h x rfl i hi same

end Verdict

theorem ExplicitRule.not_says (r : ExplicitRule) (v : Value) : ¬(r.verdict v).Says Email.complaint := by
  cases r with
  | datatype t => exact Verdict.not_says_ofReading (t.read_reads v)
  | undefined text => rintro ⟨_, ⟨⟩, _⟩
  | function f =>
    change ¬(ask f v).Says Email.complaint
    unfold ask
    split
    · rintro ⟨_, ⟨⟩, _⟩
    · rintro ⟨_, ⟨⟩, _⟩
    · split
      · exact Verdict.says_say_iff.not.mpr (by decide)
      · rintro ⟨_, ⟨⟩, _⟩
      · rintro ⟨_, ⟨⟩, i, hi, same⟩
        obtain ⟨p, -, rfl⟩ := List.mem_map.mp hi
        exact absurd same (by decide : "Unexpected keyword argument" ≠ Email.complaint)

namespace Shape

theorem listIssue?_aside (least most : Option Nat) (v : Value) : Aside (listIssue? least most v) := by
  have few (n : Nat) := Limits.underfull?_aside "List" (by decide) least n
  have many (n : Nat) := Limits.overfull?_aside "List" (by decide) most n true
  unfold listIssue?
  split
  · exact (few _).or (many _)
  · exact (many _).or (few _)
  · exact .some (by decide)

/-- The lengths come first, so that only a text within them is said to be no address. -/
theorem textIssue?_eq_complaint_iff {least most : Option Nat} {email : Bool} {p : Option Pattern}
    {s : String} : textIssue? least most email p s = some Email.complaint ↔
      Limits.textIssue? least most s = none ∧ email = true ∧ Email.accepts s = false := by
  unfold textIssue?
  dsimp only
  cases length : Limits.textIssue? least most s with
  | some m =>
    have other : m ≠ Email.complaint := Limits.textIssue?_aside least most s m length
    simpa using other
  | none =>
    cases email <;> cases Email.accepts s
    case true.false => simp [Email.complaint]
    all_goals
      cases p with
      | none => simp
      | some p => cases p.occursIn s <;> simp [Email.complaint]

/-- It is said of no value but a text that it is no address. -/
theorem unaccepted_of_says {shape : Shape} {v : Value} (h : (shape.verdict v).Says Email.complaint) :
    ∃ s, v.text? = some s ∧ Email.accepts s = false := by
  cases shape with
  | anything =>
    obtain ⟨_, ⟨⟩, _, hi, _⟩ := h
    cases hi
  | text least most email pattern =>
    unfold verdict at h
    dsimp only at h
    split at h
    · next s text =>
      exact ⟨s, text, (textIssue?_eq_complaint_iff.mp (Verdict.says_sayIf_iff.mp h)).2.2⟩
    · exact absurd (Verdict.says_say_iff.mp h) (by decide)
  | number least most =>
    unfold verdict at h
    dsimp only at h
    split at h
    · exact (Verdict.not_says_sayIf (Limits.numberIssue?_aside _ _ _) h).elim
    · exact absurd (Verdict.says_say_iff.mp h) (by decide)
  | boolean =>
    unfold verdict at h
    dsimp only at h
    split at h
    · obtain ⟨_, ⟨⟩, _, hi, _⟩ := h
      cases hi
    · exact absurd (Verdict.says_say_iff.mp h) (by decide)
  | scalar =>
    have other : ∀ i ∈ scalarIssues v, Otherwise i.message := by
      unfold scalarIssues
      dsimp only
      split
      · simp
      · decide
    obtain ⟨_, ⟨⟩, i, hi, same⟩ := h
    exact (other i hi same).elim
  | date => exact (Verdict.not_says_sayIf (Calendar.dateIssue?_aside v) h).elim
  | time => exact (Verdict.not_says_sayIf (Calendar.timeIssue?_aside v) h).elim
  | moment => exact (Verdict.not_says_sayIf (Calendar.momentIssue?_aside v) h).elim
  | list least most => exact (Verdict.not_says_sayIf (listIssue?_aside least most v) h).elim
  | record => exact (Verdict.not_says_ofReading (Datatype.read_reads _ v) h).elim
  | explicit r => exact (r.not_says v h).elim

end Shape

namespace FieldRule

theorem mem_distinct_iff {message : String} {texts : List String} :
    message ∈ distinct texts ↔ message ∈ texts := by
  have folded (kept : List String) : message ∈ texts.foldl
      (fun kept t => if kept.contains t then kept else kept ++ [t]) kept ↔
        message ∈ kept ∨ message ∈ texts := by
    induction texts generalizing kept with
    | nil => simp
    | cons t texts ih =>
      rw [List.foldl_cons, ih, List.mem_cons, ← or_assoc]
      refine or_congr_left ?_
      split
      · next known =>
        refine (or_iff_left_of_imp ?_).symm
        rintro rfl
        exact List.contains_iff_mem.mp known
      · simp
  simpa [distinct] using folded []

/-- A rule has a message about a value. -/
def Reports (host : Host) (r : FieldRule) (v : Value) (message : String) : Prop :=
  ∃ messages, (r.check host v).value = .ok messages ∧ message ∈ messages

variable {host : Host} {r : FieldRule} {v : Value}

/-- Functions of the host add no messages. -/
theorem reports_iff {message : String} : r.Reports host v message ↔ (r.verdict v).Says message := by
  have said : (r.check host v).value =
      (((r.verdict v).settle host).value).map fun found => distinct (found.map Issue.message) := rfl
  unfold Reports Verdict.Says
  rw [said]
  cases r.verdict v with
  | issues found => simp [Verdict.settle, Except.map, mem_distinct_iff]
  | fault e => simp [Verdict.settle, Except.map]
  | asks f arguments =>
    refine iff_of_false ?_ (by simp)
    rintro ⟨messages, made, member⟩
    change ((((host.call f arguments).value).map fun _ => []).map _) = .ok messages at made
    cases called : (host.call f arguments).value with
    | error e =>
      rw [called] at made
      cases made
    | ok _ =>
      rw [called] at made
      cases made
      cases member

/-- No rule, however it was made, says of anything that it is no address but of a text that the pattern
for addresses does not match. -/
theorem unaccepted_of_reports (h : r.Reports host v Email.complaint) :
    ∃ s, v.text? = some s ∧ Email.accepts s = false := by
  rw [reports_iff, verdict_eq] at h
  split at h
  · split at h
    · exact absurd (Verdict.says_say_iff.mp h) (by decide)
    · obtain ⟨_, ⟨⟩, _, hi, _⟩ := h
      cases hi
  · exact Shape.unaccepted_of_says h

end FieldRule

end FormEngine
