import FormEngine.Form.State
import FormEngine.Proofs.Table
import FormEngine.Store.Observable

/-!
Records as tables. A record is equal to itself, whatever it holds, and to no record that lacks one of
its keys. When entries are laid over a record, what is found under the keys that are texts is what
tables laid over each other have there.
-/

namespace FormEngine

namespace Value

mutual

/-- Every value is the same as itself. -/
theorem same_refl : (v : Value) → same v v = true
  | .null => rfl
  | .bool b => by simp [same, sameScalar, text?, number?]
  | .int i => by simp [same, sameScalar, text?, number?]
  | .float x => by
      cases x <;> simp [same, sameScalar, text?, number?, Binary64.toExtended?]
  | .str s => by simp [same, sameScalar, text?]
  | .list xs => by
      unfold same
      exact sameItems_refl xs
  | .tuple xs => by
      unfold same
      exact sameItems_refl xs
  | .set xs => by
      unfold same
      rw [within_of_subset xs xs fun _ h => h]
      simp
  | .record es => by
      unfold same
      rw [sameEntries_of_subset es es fun _ h => h]
      simp
  | .mapping ps => by
      unfold same
      rw [samePairs_of_subset ps ps fun _ h => h]
      simp
  | .name _ s => by simp [same, sameScalar, text?]
  | .entity kind key d => by
      unfold same
      rw [same_refl d]
      simp

theorem sameItems_refl : (xs : List Value) → sameItems xs xs = true
  | [] => rfl
  | x :: xs => by
      unfold sameItems
      rw [same_refl x, sameItems_refl xs]
      rfl

theorem within_of_subset : (xs ys : List Value) → (∀ x ∈ xs, x ∈ ys) → within xs ys = true
  | [], _, _ => rfl
  | x :: xs, ys, h => by
      unfold within
      rw [within_of_subset xs ys fun y hy => h y (List.mem_cons_of_mem _ hy), Bool.and_true]
      exact List.any_eq_true.mpr ⟨x, h x List.mem_cons_self, same_refl x⟩

theorem sameEntries_of_subset : (es ys : List (String × Value)) → (∀ e ∈ es, e ∈ ys) →
    sameEntries es ys = true
  | [], _, _ => rfl
  | e :: es, ys, h => by
      unfold sameEntries
      rw [sameEntry_of_mem e ys (h e List.mem_cons_self),
        sameEntries_of_subset es ys fun y hy => h y (List.mem_cons_of_mem _ hy)]
      rfl

theorem sameEntry_of_mem : (e : String × Value) → (ys : List (String × Value)) → e ∈ ys →
    sameEntry e ys = true
  | (key, x), ys, h => by
      unfold sameEntry
      refine List.any_eq_true.mpr ⟨(key, x), h, ?_⟩
      rw [same_refl x]
      simp

theorem samePairs_of_subset : (ps qs : List (Value × Value)) → (∀ p ∈ ps, p ∈ qs) →
    samePairs ps qs = true
  | [], _, _ => rfl
  | p :: ps, qs, h => by
      unfold samePairs
      rw [samePair_of_mem p qs (h p List.mem_cons_self),
        samePairs_of_subset ps qs fun y hy => h y (List.mem_cons_of_mem _ hy)]
      rfl

theorem samePair_of_mem : (p : Value × Value) → (qs : List (Value × Value)) → p ∈ qs →
    samePair p qs = true
  | (key, x), qs, h => by
      unfold samePair
      refine List.any_eq_true.mpr ⟨(key, x), h, ?_⟩
      rw [same_refl key, same_refl x]
      rfl

end

/-- What is not equal to itself is a NaN, which nothing can be done to. -/
theorem hasParts_of_not_equal_self {v : Value} (h : v.equal v = false) : v.hasParts = false := by
  unfold equal at h
  split at h
  · rfl
  · rw [same_refl] at h
    cases h

theorem equal_record_self (t : Table Value) : (record t).equal (record t) = true :=
  same_refl (record t)

theorem exists_of_sameEntries {es ys : List (String × Value)} (h : sameEntries es ys = true) :
    ∀ e ∈ es, ∃ y ∈ ys, y.1 = e.1 := by
  induction es with
  | nil => simp
  | cons e es ih =>
      obtain ⟨key, x⟩ := e
      unfold sameEntries sameEntry at h
      rw [Bool.and_eq_true, List.any_eq_true] at h
      obtain ⟨⟨y, hy, same⟩, rest⟩ := h
      rw [Bool.and_eq_true, beq_iff_eq] at same
      exact List.forall_mem_cons.mpr ⟨⟨y, hy, same.1⟩, ih rest⟩

/-- A record is not equal to one that lacks a key of it. -/
theorem keys_of_equal_record {t u : Table Value} (h : (record t).equal (record u) = true)
    {key : String} (hk : key ∈ t.keys) : key ∈ u.keys := by
  unfold equal same at h
  rw [Bool.and_eq_true] at h
  obtain ⟨e, he, rfl⟩ := List.mem_map.mp hk
  obtain ⟨y, hy, same⟩ := exists_of_sameEntries h.2 e he
  exact List.mem_map.mpr ⟨y, hy, same⟩

theorem same_text {key : Value} {k : String} (h : key.text? = some k) (v : Value) :
    same v key = (v.text? == some k) := by
  cases key with
  | str s =>
      cases h
      cases v <;> simp [same, sameScalar, text?, number?]
  | name vocabulary s =>
      cases h
      cases v <;> simp [same, sameScalar, text?, number?]
  | _ => cases h

theorem text?_eq_none_of_same {key v : Value} (h : key.text? = none) (hs : same v key = true) :
    v.text? = none := by
  cases v with
  | str s => cases key <;> simp [same, sameScalar, text?, number?] at h hs
  | name vocabulary s => cases key <;> simp [same, sameScalar, text?, number?] at h hs
  | _ => rfl

/-- The entries under keys that are texts. -/
def named (pairs : List (Value × Value)) : Table Value :=
  pairs.filterMap fun e => e.1.text?.map fun key => (key, e.2)

theorem named_cons (p : Value × Value) (pairs : List (Value × Value)) :
    named (p :: pairs) = (p.1.text?.map fun key => (key, p.2)).toList ++ named pairs := by
  unfold named
  rw [List.filterMap_cons]
  cases p.1.text? with
  | none => rfl
  | some key => rfl

theorem named_putPair {key : Value} {k : String} (h : key.text? = some k)
    (pairs : List (Value × Value)) (x : Value) :
    named (putPair pairs key x) = (named pairs).put k x := by
  induction pairs with
  | nil =>
      rw [putPair, named_cons, h]
      rfl
  | cons p pairs ih =>
      obtain ⟨other, y⟩ := p
      rw [putPair, same_text h]
      cases ht : other.text? with
      | none =>
          have differs : ((none : Option String) == some k) = false := rfl
          rw [differs, if_neg Bool.false_ne_true, named_cons, named_cons, ht, ih]
          rfl
      | some o =>
          by_cases ho : o = k
          · subst ho
            simp [named_cons, ht, Table.put]
          · simp [named_cons, ht, ho, Table.put, ih]

theorem named_putPair_other {key : Value} (h : key.text? = none) (pairs : List (Value × Value))
    (x : Value) : named (putPair pairs key x) = named pairs := by
  induction pairs with
  | nil =>
      rw [putPair, named_cons, h]
      rfl
  | cons p pairs ih =>
      obtain ⟨other, y⟩ := p
      rw [putPair]
      split
      · next hs =>
        rw [named_cons, named_cons, text?_eq_none_of_same h hs]
        rfl
      · rw [named_cons, named_cons, ih]

/-- Pairs that are put in one after the other are laid over those that were there. -/
theorem named_putPairs (kept added : List (Value × Value)) :
    named (added.foldl (fun kept p => putPair kept p.1 p.2) kept) =
      (named kept).merge (named added) := by
  induction added generalizing kept with
  | nil => rfl
  | cons p added ih =>
      obtain ⟨key, x⟩ := p
      rw [List.foldl_cons, ih, named_cons]
      cases h : key.text? with
      | none =>
          rw [named_putPair_other h]
          rfl
      | some k =>
          rw [named_putPair h]
          rfl

theorem named_of_mapM {pairs : List (Value × Value)} {entries : Table Value}
    (h : pairs.mapM (fun p => p.1.text?.map fun key => (key, p.2)) = some entries) :
    named pairs = entries := by
  induction pairs generalizing entries with
  | nil =>
      cases h
      rfl
  | cons p pairs ih =>
      rw [List.mapM_cons] at h
      obtain ⟨e, he, h⟩ := Option.bind_eq_some_iff.mp h
      obtain ⟨rest, hr, h⟩ := Option.bind_eq_some_iff.mp h
      cases h
      rw [named_cons, he, ih hr]
      rfl

theorem named_texts (t : Table Value) : named (t.map fun e => (.str e.1, e.2)) = t := by
  induction t with
  | nil => rfl
  | cons e t ih =>
      rw [List.map_cons, named_cons, ih]
      rfl

end Value

open Value (named)

namespace Form

theorem namedEntries_record (t : Table Value) : namedEntries (.record t) = t := Value.named_texts t

theorem namedEntries_ofPairs (pairs : List (Value × Value)) :
    namedEntries (Value.ofPairs pairs) = Table.ofEntries (named pairs) := by
  rw [Table.ofEntries, show ([] : Table Value) = named [] from rfl, ← Value.named_putPairs]
  unfold Value.ofPairs
  dsimp only
  split
  · next entries h =>
    rw [namedEntries_record]
    exact (Value.named_of_mapM h).symm
  · rfl

end Form

namespace Value

theorem isSome_pairs?_ofPairs (pairs : List (Value × Value)) :
    (ofPairs pairs).pairs?.isSome = true := by
  unfold ofPairs
  dsimp only
  split
  · rfl
  · rfl

end Value

theorem Construct.isSome_pairs?_record {v w : Value} (h : Construct.record v = .ok w) :
    w.pairs?.isSome = true := by
  unfold Construct.record at h
  split at h
  · next pairs hp =>
    cases h
    rw [hp]
    rfl
  · cases hv : Construct.visited v with
    | error e =>
        rw [hv] at h
        cases h
    | ok visited =>
        rw [hv] at h
        change (visited.zipIdx.mapM (fun x => pair x.2 x.1)).bind _ = _ at h
        cases hp : visited.zipIdx.mapM (fun x => pair x.2 x.1) with
        | error e =>
            rw [hp] at h
            cases h
        | ok pairs =>
            rw [hp] at h
            cases h
            exact Value.isSome_pairs?_ofPairs pairs

namespace Store

/-- Joining lays the entries of one record over those of another. -/
theorem joined_eq_ok {v changes w : Value} (h : joined v changes = .ok w) :
    w.pairs?.isSome = true ∧ Form.namedEntries w =
      (Table.ofEntries (Form.namedEntries v)).merge (Form.namedEntries changes) := by
  unfold joined at h
  split at h
  · next own added ho ha =>
    cases h
    refine ⟨Value.isSome_pairs?_ofPairs _, ?_⟩
    rw [Form.namedEntries_ofPairs]
    unfold Form.namedEntries
    rw [ho, ha, named, List.filterMap_append]
    exact List.foldl_append
  · cases h
  · cases h

end Store

/-- Without a selector the entries of a record are read as they are. -/
theorem StoreView.read_record (host : Host) {state : Value} (h : state.pairs?.isSome = true) :
    ∃ w, (StoreView.read host {} state).value = .ok w ∧
      Form.namedEntries w = Form.namedEntries state := by
  cases state with
  | record entries =>
      cases entries with
      | nil => exact ⟨_, rfl, rfl⟩
      | cons e entries => exact ⟨_, rfl, rfl⟩
  | mapping entries =>
      cases entries with
      | nil => exact ⟨_, rfl, rfl⟩
      | cons e entries => exact ⟨_, rfl, rfl⟩
  | _ => cases h

/-- Without an updater what is written is a record. -/
theorem StoreView.isSome_pairs?_write {host : Host} {state values v : Value}
    (h : (StoreView.write host {} state values).value.outcome = .ok v) :
    v.pairs?.isSome = true := by
  unfold StoreView.write at h
  dsimp only at h
  change (if state.pairs?.isSome = true then Store.joined state values
    else Construct.record values) = .ok v at h
  split at h
  · exact (Store.joined_eq_ok h).1
  · exact Construct.isSome_pairs?_record h

end FormEngine
