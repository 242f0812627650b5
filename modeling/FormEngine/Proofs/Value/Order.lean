import FormEngine.Proofs.Number.Comparison
import FormEngine.Proofs.Value.Record
import FormEngine.Value.Order
import Mathlib.Data.String.Basic

/-!
Equality and order of nested values. Equality is transitive, and symmetric where records have each key
once. Among values without NaNs and sets in them, two that can be ordered are equal or one of them is
less than the other, and comparing them the other way round says the opposite.
-/

namespace FormEngine

/-- In a list that is matched into another one of its length, no two elements to the same one, every
element of the other one is matched. -/
theorem exists_of_matched {α β : Type} {r : α → β → Prop} {xs : List α} {ys : List β}
    (length : ys.length ≤ xs.length) (matched : ∀ x ∈ xs, ∃ y ∈ ys, r x y)
    (apart : xs.Pairwise fun x x' => ∀ y ∈ ys, r x y → ¬r x' y) : ∀ y ∈ ys, ∃ x ∈ xs, r x y := by
  induction xs generalizing ys with
  | nil =>
    rw [List.eq_nil_of_length_eq_zero (Nat.le_zero.mp length)]
    exact fun _ h => nomatch h
  | cons x xs ih =>
    obtain ⟨head, apart⟩ := List.pairwise_cons.mp apart
    obtain ⟨y, hy, first⟩ := matched x List.mem_cons_self
    obtain ⟨before, after, rfl⟩ := List.append_of_mem hy
    have inside {z : β} (h : z ∈ before ++ after) : z ∈ before ++ y :: after := by
      rcases List.mem_append.mp h with h | h
      · exact List.mem_append_left _ h
      · exact List.mem_append_right _ (List.mem_cons_of_mem _ h)
    have others : ∀ z ∈ before ++ after, ∃ x ∈ xs, r x z := by
      refine ih ?_ ?_ (apart.imp fun h z hz => h z (inside hz))
      · simp only [List.length_append, List.length_cons] at length ⊢
        omega
      · intro x' hx'
        obtain ⟨z, hz, matches'⟩ := matched x' (List.mem_cons_of_mem _ hx')
        refine ⟨z, ?_, matches'⟩
        rcases List.mem_append.mp hz with h | h
        · exact List.mem_append_left _ h
        · rcases List.mem_cons.mp h with rfl | h
          · exact (head x' hx' z hy first matches').elim
          · exact List.mem_append_right _ h
    intro z hz
    by_cases same : z ∈ before ++ after
    · obtain ⟨x', hx', matches'⟩ := others z same
      exact ⟨x', List.mem_cons_of_mem _ hx', matches'⟩
    · have : z = y := by
        rcases List.mem_append.mp hz with h | h
        · exact (same (List.mem_append_left _ h)).elim
        · rcases List.mem_cons.mp h with rfl | h
          · rfl
          · exact (same (List.mem_append_right _ h)).elim
      exact ⟨x, List.mem_cons_self, this ▸ first⟩

namespace Value

/-! ### Parts -/

/-- The values that a value is made of. -/
def parts : Value → List Value
  | .list xs | .tuple xs | .set xs => xs
  | .record es => es.map Prod.snd
  | .mapping ps => ps.flatMap fun p => [p.1, p.2]
  | .entity _ _ d => [d]
  | _ => []

theorem sizeOf_lt_of_mem_parts {v w : Value} (h : w ∈ v.parts) : sizeOf w < sizeOf v := by
  cases v with
  | list xs | tuple xs | set xs =>
    have member : w ∈ xs := h
    have := List.sizeOf_lt_of_mem member
    simp only [list.sizeOf_spec, tuple.sizeOf_spec, set.sizeOf_spec]
    omega
  | record es =>
    obtain ⟨⟨key, x⟩, he, rfl⟩ := List.mem_map.mp h
    have := List.sizeOf_lt_of_mem he
    simp only [Prod.mk.sizeOf_spec, record.sizeOf_spec] at this ⊢
    omega
  | mapping ps =>
    obtain ⟨⟨key, x⟩, hp, hw⟩ := List.mem_flatMap.mp h
    have := List.sizeOf_lt_of_mem hp
    simp only [Prod.mk.sizeOf_spec, mapping.sizeOf_spec] at this ⊢
    rcases List.mem_pair.mp hw with rfl | rfl
    all_goals omega
  | entity kind key d =>
    rw [List.mem_singleton.mp h, entity.sizeOf_spec]
    omega
  | _ => cases h

/-- What holds of a value whose parts it holds of holds of every value. -/
theorem parts_induction {P : Value → Prop} (step : ∀ v, (∀ w ∈ v.parts, P w) → P v) (v : Value) : P v :=
  step v fun w _ => parts_induction step w
termination_by sizeOf v
decreasing_by exact sizeOf_lt_of_mem_parts ‹_›

/-- Something holds of a value and of all that is in it, at any depth. -/
inductive Throughout (p : Value → Prop) : Value → Prop
  | intro {v : Value} (own : p v) (parts : ∀ w ∈ v.parts, Throughout p w) : Throughout p v

theorem Throughout.own {p : Value → Prop} {v : Value} : Throughout p v → p v
  | .intro own _ => own

theorem Throughout.part {p : Value → Prop} {v w : Value} : Throughout p v → w ∈ v.parts → Throughout p w
  | .intro _ parts, h => parts w h

/-! ### Equality -/

/-- What values without parts are told apart by. -/
inductive Scalar
  | null
  | text (s : String)
  | number (x : Extended)
  | nan (payload : Nat)

def scalar? : Value → Option Scalar
  | .null => some .null
  | .bool b => some (.number (.point (if b then 1 else 0)))
  | .int i => some (.number (.point i))
  | .float (.nan payload) => some (.nan payload)
  | .float x => x.toExtended?.map .number
  | .str s | .name _ s => some (.text s)
  | _ => none

theorem same_of_scalar {a b : Value} {s : Scalar} (h : some s = a.scalar?) :
    same a b = true ↔ some s = b.scalar? := by
  have whole : same a b = sameScalar a b := by
    cases a with
    | list | tuple | set | record | mapping | entity => cases h
    | _ => rfl
  rw [whole, h]
  cases a with
  | float x =>
    cases x <;> cases b with
    | float y => cases y <;> simp [sameScalar, scalar?, text?, number?, Binary64.toExtended?]
    | _ => simp [sameScalar, scalar?, text?, number?, Binary64.toExtended?]
  | list | tuple | set | record | mapping | entity => cases h
  | _ =>
    cases b with
    | float y => cases y <;> simp [sameScalar, scalar?, text?, number?, Binary64.toExtended?]
    | _ => simp [sameScalar, scalar?, text?, number?]

theorem sameItems_iff {xs ys : List Value} :
    sameItems xs ys = true ↔ List.Forall₂ (fun x y => same x y = true) xs ys := by
  induction xs generalizing ys with
  | nil => cases ys <;> simp [sameItems]
  | cons x xs ih => cases ys <;> simp [sameItems, ih]

theorem within_iff {xs ys : List Value} :
    within xs ys = true ↔ ∀ x ∈ xs, ∃ y ∈ ys, same x y = true := by
  induction xs with
  | nil => simp [within]
  | cons x xs ih => simp [within, ih]

theorem sameEntries_iff {es es' : List (String × Value)} :
    sameEntries es es' = true ↔ ∀ e ∈ es, ∃ e' ∈ es', e'.1 = e.1 ∧ same e.2 e'.2 = true := by
  induction es with
  | nil => simp [sameEntries]
  | cons e es ih =>
    obtain ⟨key, x⟩ := e
    rw [List.forall_mem_cons, ← ih]
    simp only [sameEntries, sameEntry, Bool.and_eq_true, List.any_eq_true, beq_iff_eq]

theorem samePairs_iff {ps qs : List (Value × Value)} :
    samePairs ps qs = true ↔ ∀ p ∈ ps, ∃ q ∈ qs, same p.1 q.1 = true ∧ same p.2 q.2 = true := by
  induction ps with
  | nil => simp [samePairs]
  | cons p ps ih =>
    obtain ⟨key, x⟩ := p
    rw [List.forall_mem_cons, ← ih]
    simp only [samePairs, samePair, Bool.and_eq_true, List.any_eq_true]

section Inversion

variable {b : Value}

theorem same_list_iff {xs : List Value} : same (.list xs) b = true ↔
    ∃ ys, b = .list ys ∧ List.Forall₂ (fun x y => same x y = true) xs ys := by
  cases b with
  | list ys =>
    change sameItems xs ys = true ↔ _
    rw [sameItems_iff]
    simp only [list.injEq, exists_eq_left']
  | _ => exact iff_of_false Bool.false_ne_true fun ⟨_, h, _⟩ => nomatch h

theorem same_tuple_iff {xs : List Value} : same (.tuple xs) b = true ↔
    ∃ ys, b = .tuple ys ∧ List.Forall₂ (fun x y => same x y = true) xs ys := by
  cases b with
  | tuple ys =>
    change sameItems xs ys = true ↔ _
    rw [sameItems_iff]
    simp only [tuple.injEq, exists_eq_left']
  | _ => exact iff_of_false Bool.false_ne_true fun ⟨_, h, _⟩ => nomatch h

theorem same_set_iff {xs : List Value} : same (.set xs) b = true ↔
    ∃ ys, b = .set ys ∧ xs.length = ys.length ∧ ∀ x ∈ xs, ∃ y ∈ ys, same x y = true := by
  cases b with
  | set ys =>
    change (xs.length == ys.length && within xs ys) = true ↔ _
    rw [Bool.and_eq_true, beq_iff_eq, within_iff]
    simp only [set.injEq, exists_eq_left']
  | _ => exact iff_of_false Bool.false_ne_true fun ⟨_, h, _⟩ => nomatch h

theorem same_record_iff {es : List (String × Value)} : same (.record es) b = true ↔
    ∃ es', b = .record es' ∧ es.length = es'.length ∧
      ∀ e ∈ es, ∃ e' ∈ es', e'.1 = e.1 ∧ same e.2 e'.2 = true := by
  cases b with
  | record es' =>
    change (es.length == es'.length && sameEntries es es') = true ↔ _
    rw [Bool.and_eq_true, beq_iff_eq, sameEntries_iff]
    simp only [record.injEq, exists_eq_left']
  | _ => exact iff_of_false Bool.false_ne_true fun ⟨_, h, _⟩ => nomatch h

theorem same_mapping_iff {ps : List (Value × Value)} : same (.mapping ps) b = true ↔
    ∃ qs, b = .mapping qs ∧ ps.length = qs.length ∧
      ∀ p ∈ ps, ∃ q ∈ qs, same p.1 q.1 = true ∧ same p.2 q.2 = true := by
  cases b with
  | mapping qs =>
    change (ps.length == qs.length && samePairs ps qs) = true ↔ _
    rw [Bool.and_eq_true, beq_iff_eq, samePairs_iff]
    simp only [mapping.injEq, exists_eq_left']
  | _ => exact iff_of_false Bool.false_ne_true fun ⟨_, h, _⟩ => nomatch h

theorem same_entity_iff {kind : EntityKind} {key : Nat} {d : Value} :
    same (.entity kind key d) b = true ↔ ∃ d', b = .entity kind key d' ∧ same d d' = true := by
  cases b with
  | entity kind' key' d' =>
    change (kind == kind' && key == key' && same d d') = true ↔ _
    rw [Bool.and_eq_true, Bool.and_eq_true, beq_iff_eq, beq_iff_eq]
    constructor
    · rintro ⟨⟨rfl, rfl⟩, h⟩
      exact ⟨d', rfl, h⟩
    · rintro ⟨_, ⟨⟩, h⟩
      exact ⟨⟨rfl, rfl⟩, h⟩
  | _ => exact iff_of_false Bool.false_ne_true fun ⟨_, h, _⟩ => nomatch h

end Inversion

/-- A value has parts, or it is told apart as a whole. -/
theorem scalar_or_parts (v : Value) : (∃ s, some s = v.scalar?) ∨ (∃ xs, v = .list xs) ∨
    (∃ xs, v = .tuple xs) ∨ (∃ xs, v = .set xs) ∨ (∃ es, v = .record es) ∨ (∃ ps, v = .mapping ps) ∨
      ∃ kind key d, v = .entity kind key d := by
  cases v with
  | float x => cases x <;> exact .inl ⟨_, rfl⟩
  | list | tuple | set | record | mapping | entity => simp
  | _ => exact .inl ⟨_, rfl⟩

theorem forall₂_trans {r s t : Value → Value → Prop} {xs ys zs : List Value}
    (h : List.Forall₂ r xs ys) (h' : List.Forall₂ s ys zs)
    (step : ∀ x ∈ xs, ∀ y z, r x y → s y z → t x z) : List.Forall₂ t xs zs := by
  induction h generalizing zs with
  | nil =>
    cases h'
    exact .nil
  | cons hx _ ih =>
    cases h' with
    | cons hy rest =>
      exact .cons (step _ List.mem_cons_self _ _ hx hy)
        (ih rest fun x hx => step x (List.mem_cons_of_mem _ hx))

theorem forall₂_flip {r s : Value → Value → Prop} {xs ys : List Value}
    (step : ∀ x ∈ xs, ∀ y, r x y → s y x) (h : List.Forall₂ r xs ys) : List.Forall₂ s ys xs := by
  induction h with
  | nil => exact .nil
  | cons hx _ ih =>
    exact .cons (step _ List.mem_cons_self _ hx) (ih fun x hx => step x (List.mem_cons_of_mem _ hx))

theorem key_mem_parts {ps : List (Value × Value)} {p : Value × Value} (h : p ∈ ps) :
    p.1 ∈ (mapping ps).parts := List.mem_flatMap.mpr ⟨p, h, List.mem_cons_self⟩

theorem value_mem_parts {ps : List (Value × Value)} {p : Value × Value} (h : p ∈ ps) :
    p.2 ∈ (mapping ps).parts :=
  List.mem_flatMap.mpr ⟨p, h, List.mem_cons_of_mem _ List.mem_cons_self⟩

/-- Equality of values is transitive. -/
theorem same_trans {a b c : Value} (hab : same a b = true) (hbc : same b c = true) :
    same a c = true := by
  induction a using parts_induction generalizing b c with
  | step a ih =>
    obtain ⟨s, scalar⟩ | ⟨xs, rfl⟩ | ⟨xs, rfl⟩ | ⟨xs, rfl⟩ | ⟨es, rfl⟩ | ⟨ps, rfl⟩ | ⟨kind, key, d, rfl⟩ :=
      scalar_or_parts a
    · have := (same_of_scalar scalar).mp hab
      exact (same_of_scalar scalar).mpr ((same_of_scalar this).mp hbc)
    · obtain ⟨ys, rfl, first⟩ := same_list_iff.mp hab
      obtain ⟨zs, rfl, second⟩ := same_list_iff.mp hbc
      exact same_list_iff.mpr ⟨zs, rfl, forall₂_trans first second fun x hx _ _ => ih x hx⟩
    · obtain ⟨ys, rfl, first⟩ := same_tuple_iff.mp hab
      obtain ⟨zs, rfl, second⟩ := same_tuple_iff.mp hbc
      exact same_tuple_iff.mpr ⟨zs, rfl, forall₂_trans first second fun x hx _ _ => ih x hx⟩
    · obtain ⟨ys, rfl, length, first⟩ := same_set_iff.mp hab
      obtain ⟨zs, rfl, length', second⟩ := same_set_iff.mp hbc
      refine same_set_iff.mpr ⟨zs, rfl, length.trans length', fun x hx => ?_⟩
      obtain ⟨y, hy, hxy⟩ := first x hx
      obtain ⟨z, hz, hyz⟩ := second y hy
      exact ⟨z, hz, ih x hx hxy hyz⟩
    · obtain ⟨ys, rfl, length, first⟩ := same_record_iff.mp hab
      obtain ⟨zs, rfl, length', second⟩ := same_record_iff.mp hbc
      refine same_record_iff.mpr ⟨zs, rfl, length.trans length', fun e he => ?_⟩
      obtain ⟨y, hy, key, hxy⟩ := first e he
      obtain ⟨z, hz, key', hyz⟩ := second y hy
      exact ⟨z, hz, key'.trans key, ih e.2 (List.mem_map_of_mem he) hxy hyz⟩
    · obtain ⟨ys, rfl, length, first⟩ := same_mapping_iff.mp hab
      obtain ⟨zs, rfl, length', second⟩ := same_mapping_iff.mp hbc
      refine same_mapping_iff.mpr ⟨zs, rfl, length.trans length', fun p hp => ?_⟩
      obtain ⟨y, hy, key, hxy⟩ := first p hp
      obtain ⟨z, hz, key', hyz⟩ := second y hy
      exact ⟨z, hz, ih p.1 (key_mem_parts hp) key key', ih p.2 (value_mem_parts hp) hxy hyz⟩
    · obtain ⟨d', rfl, first⟩ := same_entity_iff.mp hab
      obtain ⟨d'', rfl, second⟩ := same_entity_iff.mp hbc
      exact same_entity_iff.mpr ⟨d'', rfl, ih d List.mem_cons_self first second⟩

/-- A set has no element twice, and a record of either kind no key. -/
def Distinct : Value → Prop
  | .set xs => xs.Pairwise fun x y => same x y = false
  | .record es => (es.map Prod.fst).Nodup
  | .mapping ps => ps.Pairwise fun p q => same p.1 q.1 = false
  | _ => True

/-- What is the same as two values makes them the same. -/
theorem same_of_same {x x' y : Value} (back : same x' y = true → same y x' = true)
    (h : same x y = true) (h' : same x' y = true) : same x x' = true := same_trans h (back h')

/-- Equality of values is symmetric. -/
theorem same_symm {a b : Value} (distinct : a.Throughout Distinct) (h : same a b = true) :
    same b a = true := by
  induction a using parts_induction generalizing b with
  | step a ih =>
    have back {w y : Value} (hw : w ∈ a.parts) : same w y = true → same y w = true :=
      ih w hw (distinct.part hw)
    have own := distinct.own
    obtain ⟨s, scalar⟩ | ⟨xs, rfl⟩ | ⟨xs, rfl⟩ | ⟨xs, rfl⟩ | ⟨es, rfl⟩ | ⟨ps, rfl⟩ | ⟨kind, key, d, rfl⟩ :=
      scalar_or_parts a
    · exact (same_of_scalar ((same_of_scalar scalar).mp h)).mpr scalar
    · obtain ⟨ys, rfl, items⟩ := same_list_iff.mp h
      exact same_list_iff.mpr ⟨xs, rfl, forall₂_flip (fun x hx y => back hx) items⟩
    · obtain ⟨ys, rfl, items⟩ := same_tuple_iff.mp h
      exact same_tuple_iff.mpr ⟨xs, rfl, forall₂_flip (fun x hx y => back hx) items⟩
    · obtain ⟨ys, rfl, length, items⟩ := same_set_iff.mp h
      refine same_set_iff.mpr ⟨xs, rfl, length.symm, fun y hy => ?_⟩
      have apart : xs.Pairwise fun x x' => ∀ y ∈ ys, same x y = true → ¬same x' y = true := by
        refine own.imp_of_mem fun _ hx' differ y _ hxy hxy' => ?_
        rw [same_of_same (back hx') hxy hxy'] at differ
        cases differ
      obtain ⟨x, hx, hxy⟩ := exists_of_matched length.ge items apart y hy
      exact ⟨x, hx, back hx hxy⟩
    · obtain ⟨es', rfl, length, items⟩ := same_record_iff.mp h
      refine same_record_iff.mpr ⟨es, rfl, length.symm, fun e' he' => ?_⟩
      have apart : es.Pairwise fun e d => ∀ e' ∈ es', (e'.1 = e.1 ∧ same e.2 e'.2 = true) →
          ¬(e'.1 = d.1 ∧ same d.2 e'.2 = true) :=
        (List.pairwise_map.mp own).imp fun differ e' _ he hd => differ (he.1.symm.trans hd.1)
      obtain ⟨e, he, key, hxy⟩ := exists_of_matched length.ge items apart e' he'
      exact ⟨e, he, key.symm, back (List.mem_map_of_mem he) hxy⟩
    · obtain ⟨qs, rfl, length, items⟩ := same_mapping_iff.mp h
      refine same_mapping_iff.mpr ⟨ps, rfl, length.symm, fun q hq => ?_⟩
      have apart : ps.Pairwise fun p p' => ∀ q ∈ qs, (same p.1 q.1 = true ∧ same p.2 q.2 = true) →
          ¬(same p'.1 q.1 = true ∧ same p'.2 q.2 = true) := by
        refine own.imp_of_mem fun _ hp' differ q _ hpq hpq' => ?_
        rw [same_of_same (back (key_mem_parts hp')) hpq.1 hpq'.1] at differ
        cases differ
      obtain ⟨p, hp, key, hxy⟩ := exists_of_matched length.ge items apart q hq
      exact ⟨p, hp, back (key_mem_parts hp) key, back (value_mem_parts hp) hxy⟩
    · obtain ⟨d', rfl, inner⟩ := same_entity_iff.mp h
      exact same_entity_iff.mpr ⟨d, rfl, back List.mem_cons_self inner⟩

theorem same_comm {a b : Value} (ha : a.Throughout Distinct) (hb : b.Throughout Distinct) :
    same a b = same b a := Bool.eq_iff_iff.mpr ⟨same_symm ha, same_symm hb⟩

/-! ### Order -/

end Value

namespace Relation

def swap : Relation → Relation
  | .less => .greater
  | .greater => .less
  | r => r

theorem ofOrdering_swap (o : Ordering) : ofOrdering o.swap = (ofOrdering o).swap := by cases o <;> rfl

theorem ofOrdering_eq_equal {o : Ordering} : ofOrdering o = .equal ↔ o = .eq := by
  cases o <;> simp [ofOrdering]

end Relation

theorem Extended.compare_eq_iff {a b : Extended} : a.compare b = .eq ↔ a = b := by
  cases a with
  | point p =>
    cases b with
    | point q =>
      rw [Extended.compare_point.2]
      exact ⟨congrArg point, point.inj⟩
    | _ => simp [compare]
  | _ => cases b <;> simp [compare]

namespace Value

/-- A value that is neither a NaN nor a set. -/
def Definite : Value → Prop
  | .float x => x.isNaN = false
  | .set _ => False
  | _ => True

/-- A value without NaNs and sets in it, in which no record has a key twice. -/
def Orderly (v : Value) : Prop := v.Throughout fun w => w.Distinct ∧ w.Definite

theorem Throughout.mono {p q : Value → Prop} (sub : ∀ v, p v → q v) {v : Value} (h : v.Throughout p) :
    v.Throughout q := by
  induction h with
  | intro own _ ih => exact .intro (sub _ own) ih

theorem Orderly.distinct {v : Value} (h : v.Orderly) : v.Throughout Distinct := h.mono fun _ h => h.1

/-- Two values told apart as a whole: texts and numbers can be ordered. -/
def Scalar.relate? : Scalar → Scalar → Option Relation
  | .text s, .text t => some (relateTexts s t)
  | .number x, .number y => some (.ofOrdering (x.compare y))
  | _, _ => none

theorem relateTexts_swap (s t : String) : relateTexts t s = (relateTexts s t).swap := by
  unfold relateTexts
  rcases lt_trichotomy s t with h | h | h
  · rw [if_neg h.not_gt, if_neg h.ne', if_pos h]
    rfl
  · rw [h, if_neg (lt_irrefl t), if_pos rfl]
    rfl
  · rw [if_pos h, if_neg h.not_gt, if_neg h.ne']
    rfl

theorem Scalar.relate?_swap (s t : Scalar) : relate? t s = (relate? s t).map Relation.swap := by
  cases s <;> cases t <;> try rfl
  · exact congrArg some (relateTexts_swap _ _)
  · rename_i x y
    refine congrArg some ?_
    rw [← Extended.compare_swap x y, Relation.ofOrdering_swap]

/-- The relation of two values of which neither has parts. -/
def relateWhole? (a b : Value) : Option Relation :=
  match a.text?, b.text? with
  | some s, some t => some (relateTexts s t)
  | _, _ => relateNumbers? a b

theorem relate?_whole {a b : Value} {s : Scalar} (hs : some s = a.scalar?) :
    relate? a b = relateWhole? a b := by
  cases a with
  | list | tuple | set | record | mapping | entity => cases hs
  | _ => rfl

/-- What is told apart as a whole: null, a text or a number. -/
theorem Definite.scalar_cases {a : Value} {s : Scalar} (hs : some s = a.scalar?) (ha : a.Definite) :
    (s = .null ∧ a.text? = none ∧ a.isNumber = false) ∨
    (∃ t, s = .text t ∧ a.text? = some t ∧ a.isNumber = false) ∨
    ∃ x, s = .number x ∧ a.text? = none ∧ a.isNumber = true ∧ a.number? = some x := by
  cases a with
  | list | tuple | set | record | mapping | entity => cases hs
  | float x =>
    cases x with
    | nan payload => cases ha
    | _ =>
      obtain rfl := Option.some.inj hs
      exact .inr (.inr ⟨_, rfl, rfl, rfl, rfl⟩)
  | null =>
    obtain rfl := Option.some.inj hs
    exact .inl ⟨rfl, rfl, rfl⟩
  | str | name =>
    obtain rfl := Option.some.inj hs
    exact .inr (.inl ⟨_, rfl, rfl, rfl⟩)
  | _ =>
    obtain rfl := Option.some.inj hs
    exact .inr (.inr ⟨_, rfl, rfl, rfl, rfl⟩)

theorem relate?_scalar {a b : Value} {s t : Scalar} (hs : some s = a.scalar?) (ht : some t = b.scalar?)
    (ha : a.Definite) (hb : b.Definite) : relate? a b = s.relate? t := by
  rw [relate?_whole hs]
  unfold relateWhole? relateNumbers?
  obtain ⟨rfl, text, number⟩ | ⟨s, rfl, text, number⟩ | ⟨x, rfl, text, isNumber, number⟩ :=
    ha.scalar_cases hs <;>
  obtain ⟨rfl, text', number'⟩ | ⟨s', rfl, text', number'⟩ | ⟨x', rfl, text', isNumber', number'⟩ :=
    hb.scalar_cases ht <;>
  simp [*, Scalar.relate?]

/-- A value with parts has no order with one that is told apart as a whole. -/
theorem relate?_whole_parts {a b : Value} {s : Scalar} (hs : some s = a.scalar?) (hb : none = b.scalar?) :
    relate? a b = none ∧ relate? b a = none := by
  cases b with
  | list | tuple | set | record | mapping | entity =>
    cases a with
    | list | tuple | set | record | mapping | entity => cases hs
    | _ => exact ⟨rfl, rfl⟩
  | float x => cases x <;> cases hb
  | _ => cases hb

/-- Only values without parts, two lists and two tuples can be ordered. -/
theorem relate?_cases {a b : Value} (ha : a.Definite) (hb : b.Definite) :
    (∃ s t, some s = a.scalar? ∧ some t = b.scalar?) ∨ (∃ xs ys, a = .list xs ∧ b = .list ys) ∨
      (∃ xs ys, a = .tuple xs ∧ b = .tuple ys) ∨ relate? a b = none ∧ relate? b a = none := by
  cases hs : a.scalar? with
  | some s =>
    cases ht : b.scalar? with
    | some t => exact .inl ⟨s, t, rfl, rfl⟩
    | none => exact .inr (.inr (.inr (relate?_whole_parts hs.symm ht.symm)))
  | none =>
    cases ht : b.scalar? with
    | some t => exact .inr (.inr (.inr (relate?_whole_parts ht.symm hs.symm).symm))
    | none =>
      cases a with
      | set xs => cases ha
      | list xs =>
        cases b with
        | set ys => cases hb
        | list ys => exact .inr (.inl ⟨xs, ys, rfl, rfl⟩)
        | _ => exact .inr (.inr (.inr ⟨rfl, rfl⟩))
      | tuple xs =>
        cases b with
        | set ys => cases hb
        | tuple ys => exact .inr (.inr (.inl ⟨xs, ys, rfl, rfl⟩))
        | _ => exact .inr (.inr (.inr ⟨rfl, rfl⟩))
      | record | mapping | entity =>
        cases b with
        | set ys => cases hb
        | _ => exact .inr (.inr (.inr ⟨rfl, rfl⟩))
      | float x => cases x <;> cases hs
      | _ => cases hs

section Items

variable {xs ys : List Value}

theorem relateItems?_swap (same_comm : ∀ x ∈ xs, ∀ y ∈ ys, same x y = same y x)
    (swap : ∀ x ∈ xs, ∀ y ∈ ys, relate? y x = (relate? x y).map Relation.swap) :
    relateItems? ys xs = (relateItems? xs ys).map Relation.swap := by
  induction xs generalizing ys with
  | nil => cases ys <;> rfl
  | cons x xs ih =>
    cases ys with
    | nil => rfl
    | cons y ys =>
      unfold relateItems?
      rw [same_comm x List.mem_cons_self y List.mem_cons_self]
      split
      · exact ih (fun x hx y hy => same_comm x (List.mem_cons_of_mem _ hx) y (List.mem_cons_of_mem _ hy))
          fun x hx y hy => swap x (List.mem_cons_of_mem _ hx) y (List.mem_cons_of_mem _ hy)
      · exact swap x List.mem_cons_self y List.mem_cons_self

/-- Lists that can be ordered are equal or one is less, as long as that holds of their elements. -/
theorem relateItems?_sound {r : Relation} (h : relateItems? xs ys = some r)
    (sound : ∀ x ∈ xs, ∀ y ∈ ys, ∀ r, relate? x y = some r →
      r ≠ .incomparable ∧ (r = .equal ↔ same x y = true)) :
    r ≠ .incomparable ∧ (r = .equal ↔ sameItems xs ys = true) := by
  induction xs generalizing ys with
  | nil =>
    cases ys with
    | nil =>
      cases h
      exact ⟨nofun, iff_of_true rfl rfl⟩
    | cons y ys =>
      cases h
      exact ⟨nofun, iff_of_false nofun nofun⟩
  | cons x xs ih =>
    cases ys with
    | nil =>
      cases h
      exact ⟨nofun, iff_of_false nofun nofun⟩
    | cons y ys =>
      unfold relateItems? at h
      unfold sameItems
      split at h
      · next hxy =>
        rw [hxy, Bool.true_and]
        exact ih h fun x hx y hy => sound x (List.mem_cons_of_mem _ hx) y (List.mem_cons_of_mem _ hy)
      · next differ =>
        obtain ⟨comparable, equal⟩ := sound x List.mem_cons_self y List.mem_cons_self r h
        refine ⟨comparable, iff_of_false (mt equal.mp differ) ?_⟩
        rw [Bool.eq_false_iff.mpr differ]
        exact nofun

end Items

theorem Orderly.definite {v : Value} (h : v.Orderly) : v.Definite := h.own.2

theorem Orderly.part {v w : Value} (h : v.Orderly) (hw : w ∈ v.parts) : w.Orderly := Throughout.part h hw

/-- Comparing two values the other way round says the opposite. -/
theorem relate?_swap {a b : Value} (ha : a.Orderly) (hb : b.Orderly) :
    relate? b a = (relate? a b).map Relation.swap := by
  induction a using parts_induction generalizing b with
  | step a ih =>
    obtain ⟨s, t, hs, ht⟩ | ⟨xs, ys, rfl, rfl⟩ | ⟨xs, ys, rfl, rfl⟩ | ⟨left, right⟩ :=
      relate?_cases ha.definite hb.definite
    · rw [relate?_scalar hs ht ha.definite hb.definite, relate?_scalar ht hs hb.definite ha.definite]
      exact Scalar.relate?_swap s t
    · exact relateItems?_swap (fun x hx y hy => same_comm (ha.part hx).distinct (hb.part hy).distinct)
        fun x hx y hy => ih x hx (ha.part hx) (hb.part hy)
    · exact relateItems?_swap (fun x hx y hy => same_comm (ha.part hx).distinct (hb.part hy).distinct)
        fun x hx y hy => ih x hx (ha.part hx) (hb.part hy)
    · rw [left, right]
      rfl

theorem Scalar.relate?_sound {s t : Scalar} {r : Relation} (h : relate? s t = some r) :
    r ≠ .incomparable ∧ (r = .equal ↔ s = t) := by
  cases s with
  | text s =>
    cases t with
    | text t =>
      obtain rfl := Option.some.inj h
      unfold relateTexts
      rcases lt_trichotomy s t with less | rfl | greater
      · simp [less, less.ne]
      · simp
      · simp [greater.not_gt, greater.ne']
    | _ => cases h
  | number x =>
    cases t with
    | number y =>
      obtain rfl := Option.some.inj h
      refine ⟨by cases x.compare y <;> nofun, ?_⟩
      rw [Relation.ofOrdering_eq_equal, Extended.compare_eq_iff, Scalar.number.injEq]
    | _ => cases h
  | _ => cases h

/-- Values that can be ordered are equal, or one is less than the other. -/
theorem relate?_sound {a b : Value} (ha : a.Orderly) (hb : b.Orderly) {r : Relation}
    (h : relate? a b = some r) : r ≠ .incomparable ∧ (r = .equal ↔ same a b = true) := by
  induction a using parts_induction generalizing b r with
  | step a ih =>
    obtain ⟨s, t, hs, ht⟩ | ⟨xs, ys, rfl, rfl⟩ | ⟨xs, ys, rfl, rfl⟩ | ⟨left, -⟩ :=
      relate?_cases ha.definite hb.definite
    · rw [relate?_scalar hs ht ha.definite hb.definite] at h
      rw [same_of_scalar hs, ← ht, Option.some_inj]
      exact Scalar.relate?_sound h
    · exact relateItems?_sound h fun x hx y hy r => ih x hx (ha.part hx) (hb.part hy)
    · exact relateItems?_sound h fun x hx y hy r => ih x hx (ha.part hx) (hb.part hy)
    · rw [left] at h
      cases h

end Value
end FormEngine
