import FormEngine.Proofs.Schema.Spelling

/-!
Loading does not mind how attributes are spelled. What a declaration is loaded as, if it is, is what its
plain form is loaded as: every way to load a kind of record finds each attribute under whichever of its
keys it stands, and leaves the attributes that are not declared as they are.
-/

namespace FormEngine

namespace Checked

variable {α β : Type}

/-- Two results that differ in their complaints only. -/
def Alike (x y : Checked α) : Prop := x.toOption = y.toOption

namespace Alike

theorem refl (x : Checked α) : x.Alike x := rfl

theorem failed (is js : List Issue) : (Checked.failed is : Checked α).Alike (.failed js) := rfl

theorem trans {x y z : Checked α} (h : x.Alike y) (h' : y.Alike z) : x.Alike z := Eq.trans h h'

theorem symm {x y : Checked α} (h : x.Alike y) : y.Alike x := Eq.symm h

theorem map {x y : Checked α} {f : α → β} (h : x.Alike y) : (f <$> x).Alike (f <$> y) := by
  have whole (z : Checked α) : (f <$> z).toOption = z.toOption.map f := by cases z <;> rfl
  unfold Alike at h ⊢
  rw [whole, whole, h]

theorem seq {f g : Checked (α → β)} {x y : Checked α} (hf : f.Alike g) (hx : x.Alike y) :
    (f <*> x).Alike (g <*> y) := by
  have whole (f : Checked (α → β)) (z : Checked α) :
      (f <*> z).toOption = f.toOption.bind fun f => z.toOption.map f := by
    cases f <;> cases z <;> rfl
  unfold Alike at hf hx ⊢
  rw [whole, whole, hf, hx]

theorem under {x y : Checked α} (h : x.Alike y) (step step' : PathStep) :
    (x.under step).Alike (y.under step') := by
  have whole (z : Checked α) (step : PathStep) : (z.under step).toOption = z.toOption := by
    cases z <;> rfl
  unfold Alike at h ⊢
  rw [whole, whole, h]

theorem items {load : α → Checked β} {g : α → α} {xs : List α}
    (h : ∀ x ∈ xs, (load x).Alike (load (g x))) (n : Nat) :
    (Checked.items load n xs).Alike (Checked.items load n (xs.map g)) := by
  induction xs generalizing n with
  | nil => exact refl _
  | cons x xs ih =>
    obtain ⟨first, rest⟩ := List.forall_mem_cons.mp h
    exact (first.under _ _).map.seq (ih rest (n + 1))

/-- Results that say something when they fail are the same, or both say something. -/
theorem cases {x y : Checked α} (h : x.Alike y) (told : x.Told) (told' : y.Told) :
    (∃ a, x = .ok a ∧ y = .ok a) ∨
      ∃ is js, x = .failed is ∧ y = .failed js ∧ is ≠ [] ∧ js ≠ [] := by
  cases x with
  | ok a =>
    cases y with
    | ok b =>
      cases h
      exact .inl ⟨a, rfl, rfl⟩
    | failed js => cases h
  | failed is =>
    cases y with
    | ok b => cases h
    | failed js =>
      refine .inr ⟨is, js, rfl, rfl, fun none => told ?_, fun none => told' ?_⟩ <;> rw [none]

end Alike

end Checked

namespace Spelling

open Load

variable {k : Kind} {c : Content} {a : Attribute} {α : Type} {es : Table Value}

/-! ## Finding attributes -/

theorem plainEntry_mem_keys (ha : a ∈ k.attributes) (e : String × Value) :
    (plainEntry k e).1 ∈ a.keys ↔ e.1 ∈ a.keys := by
  rw [← Kind.attribute?_eq_some_iff ha, attribute?_plainEntry, Kind.attribute?_eq_some_iff ha]

theorem find?_key {t : Table α} {keys : List String} {e : String × α}
    (h : find? t keys = some e) : e.1 ∈ keys := by
  induction keys with
  | nil => cases h
  | cons key keys ih =>
    unfold find? at h
    split at h
    · cases h
      exact List.mem_cons_self
    · exact List.mem_cons_of_mem _ (ih h)

theorem find?_isSome {t : Table α} {keys : List String} {e : String × α} (he : e ∈ t)
    (hk : e.1 ∈ keys) : ∃ e', find? t keys = some e' := by
  induction keys with
  | nil => cases hk
  | cons key keys ih =>
    unfold find?
    split
    · exact ⟨_, rfl⟩
    · next missing =>
      refine ih ((List.mem_cons.mp hk).resolve_left ?_)
      rintro rfl
      have listed : e.1 ∈ Table.keys t := List.mem_map_of_mem he
      rw [Table.mem_keys, Table.has, missing] at listed
      cases listed

/-- Two entries of one attribute are the same one. -/
theorem eq_of_apart (apart : (Table.keys (es.map (plainEntry k))).Nodup) (ha : a ∈ k.attributes)
    {e e' : String × Value} (he : e ∈ es) (he' : e' ∈ es) (hk : e.1 ∈ a.keys) (hk' : e'.1 ∈ a.keys) :
    e = e' := by
  have apart : (es.map fun e => (plainEntry k e).1).Nodup := by
    have whole : Table.keys (es.map (plainEntry k)) = es.map fun e => (plainEntry k e).1 :=
      List.map_map
    exact whole ▸ apart
  refine List.inj_on_of_nodup_map apart he he' ?_
  obtain ⟨key, v⟩ := e
  obtain ⟨key', v'⟩ := e'
  rw [plainEntry_of_mem ha hk, plainEntry_of_mem ha hk']

/-- An attribute is found in a record just if it is in the plain form, and with the same content there. -/
theorem OnceIn.find? (once : OnceIn k es) (ha : a ∈ k.attributes) :
    (Load.find? es a.keys = none ∧ Load.find? (es.map (plainEntry k)) a.keys = none) ∨
      ∃ key v, Load.find? es a.keys = some (key, v) ∧
        Load.find? (es.map (plainEntry k)) a.keys = some (a.name, plain a.content v) ∧
        Once a.content v := by
  cases found : Load.find? es a.keys with
  | none =>
    refine .inl ⟨rfl, Option.eq_none_iff_forall_ne_some.mpr fun e he => ?_⟩
    obtain ⟨e', he', rfl⟩ := List.mem_map.mp (find?_mem he)
    obtain ⟨e, some⟩ := find?_isSome he' ((plainEntry_mem_keys ha e').mp (find?_key he))
    rw [found] at some
    cases some
  | some e =>
    obtain ⟨key, v⟩ := e
    have he := find?_mem found
    have hk := find?_key found
    have plain := plainEntry_of_mem ha hk v
    refine .inr ⟨key, v, rfl, ?_, once.inside _ he a (Kind.attribute?_of_mem ha hk)⟩
    obtain ⟨e, some⟩ := find?_isSome (List.mem_map_of_mem (f := plainEntry k) he)
      ((plainEntry_mem_keys ha (key, v)).mpr hk)
    obtain ⟨e', he', rfl⟩ := List.mem_map.mp (find?_mem some)
    have hk' := (plainEntry_mem_keys ha e').mp (find?_key some)
    rw [some, eq_of_apart once.apart ha he' he hk' hk, plain]

/-! ## Loading what stands in a record -/

/-- A way to load that gives for each declaration what it gives for the plain form. -/
def Indifferent (c : Content) (load : Value → Checked α) : Prop :=
  ∀ v, Once c v → (load v).Alike (load (plain c v))

theorem Indifferent.free (load : Value → Checked α) : Indifferent .free load := by
  intro v _
  rw [plain_free]
  exact .refl _

theorem Indifferent.optional {load : Value → Checked α} (h : Indifferent c load) :
    Indifferent c (Scalar.optional load) := by
  intro v once
  unfold Scalar.optional
  rw [isNull_plain]
  split
  · exact .refl _
  · exact (h v once).map

theorem Indifferent.listOf {load : Value → Checked α} (items : c.items = some k)
    (h : Indifferent (.one k) load) : Indifferent c (Scalar.listOf load) := by
  intro v once
  unfold Scalar.listOf
  rw [elements?_plain items]
  cases elements : v.elements? with
  | none => exact .refl _
  | some xs => exact .items (fun x hx => h x (once.elements items elements x hx)) 0

/-- A record is loaded from its entries, whatever is said of values that are no records. -/
theorem Indifferent.record {load : Table Value → Checked α} (whole : c.whole = some k) (kind : String)
    (h : ∀ es, OnceIn k es → (load es).Alike (load (es.map (plainEntry k)))) :
    Indifferent c (Load.record kind load) := by
  intro v once
  unfold Load.record
  cases v with
  | record es =>
    rw [plain_record whole]
    exact h es ((once_record_iff whole).mp once)
  | list | tuple | set =>
    rw [plain]
    cases c.items <;> exact .refl _
  | _ => exact .refl _

namespace OnceIn

theorem among (once : OnceIn k es) (ha : a ∈ k.attributes) (missing : α) {load : Value → Checked α}
    (h : Indifferent a.content load) :
    (Load.among es a.keys missing load).Alike
      (Load.among (es.map (plainEntry k)) a.keys missing load) := by
  unfold Load.among
  rcases once.find? ha with ⟨none, none'⟩ | ⟨key, v, some, some', inside⟩
  · rw [none, none']
    exact .refl _
  · rw [some, some']
    exact (h v inside).under _ _

theorem entry (once : OnceIn k es) {name : String} (h : name ∈ k.plainNames) (missing : α)
    (load : Value → Checked α) :
    (Load.entry es name missing load).Alike
      (Load.entry (es.map (plainEntry k)) name missing load) :=
  once.among (Kind.usual_mem h) missing (.free load)

theorem optional (once : OnceIn k es) {name : String} (h : name ∈ k.plainNames)
    (load : Value → Checked α) :
    (Load.optional es name load).Alike (Load.optional (es.map (plainEntry k)) name load) :=
  once.entry h none _

theorem required (once : OnceIn k es) {name : String} (h : name ∈ k.plainNames)
    (load : Value → Checked α) :
    (Load.required es name load).Alike (Load.required (es.map (plainEntry k)) name load) := by
  unfold Load.required
  rcases once.find? (Kind.usual_mem h) with ⟨none, none'⟩ | ⟨key, v, some, some', inside⟩
  · have missed : Load.find? es (spellings name) = _ := none
    have missed' : Load.find? (es.map (plainEntry k)) (spellings name) = _ := none'
    rw [missed, missed']
    exact .refl _
  · have found : Load.find? es (spellings name) = _ := some
    have found' : Load.find? (es.map (plainEntry k)) (spellings name) = _ := some'
    rw [found, found']
    exact (Indifferent.free load v inside).under _ _

theorem part (once : OnceIn k es) {name : String} {c : Content} (h : .usual name c ∈ k.parts)
    (missing : α) {load : Value → Checked α} (indifferent : Indifferent c load) :
    (Load.entry es name missing load).Alike
      (Load.entry (es.map (plainEntry k)) name missing load) :=
  once.among (Kind.part_mem h) missing indifferent

theorem optionalPart (once : OnceIn k es) {name : String} {c : Content}
    (h : .usual name c ∈ k.parts) {load : Value → Checked α} (indifferent : Indifferent c load) :
    (Load.optional es name load).Alike (Load.optional (es.map (plainEntry k)) name load) :=
  once.part h none indifferent.optional

end OnceIn

/-! ## The kinds of records -/

/-- An option that is no record stands for itself, and has no attributes. -/
theorem selectOption_indifferent : Indifferent (.one .option) selectOption := by
  intro v once
  cases v with
  | record es =>
    rw [plain_record rfl]
    have once : OnceIn .option es := (once_record_iff rfl).mp once
    exact (once.required (by decide) _).map
      |>.seq (once.required (by decide) _)
      |>.seq (once.entry (by decide) _ _)
      |>.seq (once.optional (by decide) _)
      |>.seq (once.optional (by decide) _)
      |>.seq (once.optional (by decide) _)
  | _ => exact .refl _

theorem dynamicOptions_indifferent (whole : c.whole = some .dynamicOptions) :
    Indifferent c dynamicOptions := by
  refine .record whole _ fun es once => ?_
  exact (once.required (by decide) _).map
    |>.seq (once.optional (by decide) _)
    |>.seq (once.entry (by decide) _ _)
    |>.seq (once.entry (by decide) _ _)
    |>.seq (once.entry (by decide) _ _)
    |>.seq (once.optional (by decide) _)
    |>.seq (once.optional (by decide) _)
    |>.seq (once.optional (by decide) _)
    |>.seq (once.entry (by decide) _ _)
    |>.seq (once.entry (by decide) _ _)
    |>.seq (once.optional (by decide) _)
    |>.seq (once.entry (by decide) _ _)
    |>.seq (once.entry (by decide) _ _)
    |>.seq (once.entry (by decide) _ _)

theorem choices_indifferent : Indifferent ⟨some .dynamicOptions, some .option⟩ choices := by
  intro v once
  have fixed := Indifferent.listOf rfl selectOption_indifferent v once
  have dynamic := dynamicOptions_indifferent rfl v once
  have whole (v : Value) : (choices v).toOption =
      ((Scalar.listOf selectOption v).toOption.map Choices.fixed).or
        ((dynamicOptions v).toOption.map Choices.dynamic) := by
    unfold choices
    cases Scalar.listOf selectOption v <;> cases dynamicOptions v <;> rfl
  unfold Checked.Alike at fixed dynamic ⊢
  rw [whole, whole, fixed, dynamic]

theorem conditionalRule_indifferent : Indifferent (.one .rule) conditionalRule := by
  refine .record rfl _ fun es once => ?_
  have predicate : ⟨"custom_predicate", predicateKeys, .free⟩ ∈ Kind.attributes .rule :=
    Kind.part_mem List.mem_cons_self
  exact (once.entry (by decide) _ _).map
    |>.seq (once.entry (by decide) _ _)
    |>.seq (once.entry (by decide) _ _)
    |>.seq (once.among predicate _ (.free _))

theorem conditions_indifferent : Indifferent (.one .conditions) conditions := by
  refine .record rfl _ fun es once => ?_
  have listed (e : Effect) : Attribute.usual e.word (.many .rule) ∈ Kind.parts .conditions :=
    List.mem_map_of_mem (by cases e <;> decide)
  have rules (e : Effect) :=
    once.optionalPart (listed e) (.listOf rfl conditionalRule_indifferent)
  exact (rules .shows).map |>.seq (rules .hides) |>.seq (rules .enables) |>.seq (rules .disables)
    |>.seq (rules .requires)

theorem customRule_indifferent : Indifferent (.one .customRule) customRule := by
  refine .record rfl _ fun es once => ?_
  exact (once.required (by decide) _).map
    |>.seq (once.required (by decide) _)
    |>.seq (once.required (by decide) _)

theorem asyncRule_indifferent : Indifferent (.one .asyncRule) asyncRule := by
  refine .record rfl _ fun es once => ?_
  exact (once.required (by decide) _).map
    |>.seq (once.required (by decide) _)
    |>.seq (once.required (by decide) _)
    |>.seq (once.optional (by decide) _)

theorem formRule_indifferent : Indifferent (.one .formRule) formRule := by
  refine .record rfl _ fun es once => ?_
  exact (once.required (by decide) _).map
    |>.seq (once.required (by decide) _)
    |>.seq (once.required (by decide) _)
    |>.seq (once.entry (by decide) _ _)

theorem fieldValidation_indifferent : Indifferent (.one .fieldValidation) fieldValidation := by
  refine .record rfl _ fun es once => ?_
  have async : ⟨"async_rules", ["async", "async_rules"], .many .asyncRule⟩ ∈
      Kind.attributes .fieldValidation := by
    refine Kind.part_mem ?_
    exact List.mem_cons_of_mem _ List.mem_cons_self
  exact (once.optional (by decide) _).map
    |>.seq (once.entry (by decide) _ _)
    |>.seq (once.optional (by decide) _)
    |>.seq (once.part List.mem_cons_self _ (.listOf rfl customRule_indifferent))
    |>.seq (once.among async _ (.listOf rfl asyncRule_indifferent))
    |>.seq (once.optional (by decide) _)

theorem globalValidation_indifferent : Indifferent (.one .globalValidation) globalValidation := by
  refine .record rfl _ fun es once => ?_
  exact (once.entry (by decide) _ _).map
    |>.seq (once.part List.mem_cons_self _ (.listOf rfl formRule_indifferent))
    |>.seq (once.entry (by decide) _ _)
    |>.seq (once.entry (by decide) _ _)
    |>.seq (once.entry (by decide) _ _)

theorem layout_indifferent : Indifferent (.one .layout) layout := by
  refine .record rfl _ fun es once => ?_
  exact (once.entry (by decide) _ _).map
    |>.seq (once.optional (by decide) _)
    |>.seq (once.optional (by decide) _)

theorem behavior_indifferent : Indifferent (.one .behavior) behavior := by
  refine .record rfl _ fun es once => ?_
  exact (once.entry (by decide) _ _).map
    |>.seq (once.optional (by decide) _)
    |>.seq (once.entry (by decide) _ _)
    |>.seq (once.entry (by decide) _ _)
    |>.seq (once.entry (by decide) _ _)

end Spelling

end FormEngine
