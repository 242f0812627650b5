import FormEngine.Proofs.Value.Record

/-!
Values that a form exchanges with a store. From a record the form takes over what its fields have there
that is not equal to what it has; from then on the two agree on its fields. Where the values were laid
over the record before, they all stay, and all that the form has is in the record.
-/

namespace FormEngine

/-- A table with distinct keys that holds no NaN; nothing else differs from itself. -/
structure Table.IsRegular (t : Table Value) : Prop where
  distinct : t.keys.Nodup
  equal : ∀ e ∈ t, e.2.equal e.2 = true

namespace Table.IsRegular

variable {t changes : Table Value}

theorem merge (h : t.IsRegular) (changed : ∀ e ∈ changes, e.2.equal e.2 = true) :
    (t.merge changes).IsRegular where
  distinct := nodup_keys_merge h.distinct changes
  equal e he := (mem_merge he).elim (h.equal e) (changed e)

theorem get? (h : t.IsRegular) {key : String} {v : Value} (hv : t.get? key = some v) :
    v.equal v = true :=
  h.equal (key, v) (mem_of_get? hv)

end Table.IsRegular

/-- A record whose entries under texts are a table without a NaN. -/
structure Value.IsLedger (v : Value) : Prop where
  mapping : v.pairs?.isSome = true
  entries : (Form.namedEntries v).IsRegular

/-- What is laid over such a record is found in it, and it is such a record again. -/
theorem Value.IsLedger.joined {v changes w : Value} (h : v.IsLedger)
    (changed : ∀ e ∈ Form.namedEntries changes, e.2.equal e.2 = true)
    (hw : Store.joined v changes = .ok w) :
    w.IsLedger ∧ Form.namedEntries w = (Form.namedEntries v).merge (Form.namedEntries changes) := by
  obtain ⟨mapping, entries⟩ := Store.joined_eq_ok hw
  rw [Table.ofEntries_eq h.entries.distinct] at entries
  refine ⟨⟨mapping, ?_⟩, entries⟩
  rw [entries]
  exact h.entries.merge changed

theorem Value.IsLedger.merged {s : Store} {changes v : Value} (h : s.state.IsLedger)
    (changed : changes.IsLedger) (hv : s.merged changes = .ok v) : v.IsLedger := by
  unfold Store.merged at hv
  split at hv
  · cases hv
  · exact (h.joined changed.entries.equal hv).1

namespace Form

variable {f : Form} {entries own : Table Value}

/-- The form has for its fields what entries have for them, as far as equality goes. -/
def Mirrors (f : Form) (entries : Table Value) : Prop :=
  ∀ e ∈ entries, e.1 ∈ f.parsed.fieldIds →
    ∃ v, f.state.values.get? e.1 = some v ∧ v.equal e.2 = true

/-- Each value of the form is among entries, as far as equality goes. -/
def IsAmong (f : Form) (entries : Table Value) : Prop :=
  ∀ e ∈ f.state.values, ∃ w, entries.get? e.1 = some w ∧ e.2.equal w = true

/-- The form with other values, and the same in everything else. -/
def holding (values : Table Value) (f : Form) : Form := { f with state.values := values }

/-- The values of the form once it has taken over what differs. -/
def heeding (f : Form) (entries : Table Value) : Table Value :=
  f.state.values.merge (f.differing entries)

theorem mem_differing {e : String × Value} : e ∈ f.differing entries ↔
    e ∈ entries ∧ e.1 ∈ f.parsed.fieldIds ∧
      ∀ v, f.state.values.get? e.1 = some v → v.equal e.2 = false := by
  unfold differing
  rw [List.mem_filter, Bool.and_eq_true, List.contains_iff_mem]
  cases f.state.values.get? e.1 with
  | none => simp
  | some v => simp

/-- Nothing is taken over from what the form mirrors. -/
theorem differing_eq_nil (mirrors : f.Mirrors entries) : f.differing entries = [] := by
  refine List.eq_nil_iff_forall_not_mem.mpr fun e he => ?_
  obtain ⟨he, known, differs⟩ := mem_differing.mp he
  obtain ⟨v, hv, equal⟩ := mirrors e he known
  rw [differs v hv] at equal
  cases equal

theorem heeding_eq (mirrors : f.Mirrors entries) : f.heeding entries = f.state.values := by
  unfold heeding
  rw [differing_eq_nil mirrors, Table.merge_nil]

/-- Under keys that are none of its fields a form takes nothing over. -/
theorem get?_heeding {id : String} (foreign : id ∉ f.parsed.fieldIds) :
    (f.heeding entries).get? id = f.state.values.get? id := by
  refine Table.get?_merge_of_not_mem _ fun hid => ?_
  obtain ⟨e, he, rfl⟩ := List.mem_map.mp hid
  exact foreign (mem_differing.mp he).2.1

section Regular

variable (regular : entries.IsRegular)
include regular

theorem differing_regular : (f.differing entries).IsRegular where
  distinct := regular.distinct.sublist (List.filter_sublist.map Prod.fst)
  equal e he := regular.equal e (mem_differing.mp he).1

theorem heeding_regular (values : f.state.values.IsRegular) : (f.heeding entries).IsRegular :=
  values.merge (differing_regular regular).equal

/-- Once it has taken over what differs, the form mirrors the entries. -/
theorem mirrors_heeding : (f.holding (f.heeding entries)).Mirrors entries := by
  intro e he known
  by_cases taken : e ∈ f.differing entries
  · refine ⟨e.2, ?_, regular.equal e he⟩
    exact Table.get?_merge_of_mem _ (differing_regular regular).distinct taken
  · have other : e.1 ∉ (f.differing entries).keys := by
      intro hk
      obtain ⟨taking, ht, same⟩ := List.mem_map.mp hk
      have there := Table.get?_of_mem regular.distinct (mem_differing.mp ht).1
      rw [same, Table.get?_of_mem regular.distinct he] at there
      have whole : e = taking := Prod.ext same.symm (Option.some.inj there)
      exact taken (whole ▸ ht)
    obtain ⟨v, hv, equal⟩ : ∃ v, f.state.values.get? e.1 = some v ∧ v.equal e.2 = true := by
      refine Classical.byContradiction fun none => taken ?_
      refine mem_differing.mpr ⟨he, known, fun v hv => ?_⟩
      exact Bool.eq_false_iff.mpr fun equal => none ⟨v, hv, equal⟩
    exact ⟨v, (Table.get?_merge_of_not_mem _ other).trans hv, equal⟩

end Regular

section Shared

variable (values : f.state.values.IsRegular)
include values

/-- From what its values were laid over a form takes only what it has no value for. -/
theorem get?_eq_none_of_differing (whole : own.keys.Nodup) {e : String × Value}
    (he : e ∈ f.differing (own.merge f.state.values)) : f.state.values.get? e.1 = none := by
  obtain ⟨laid, -, differs⟩ := mem_differing.mp he
  cases hv : f.state.values.get? e.1 with
  | none => rfl
  | some v =>
      have there := Table.get?_of_mem (Table.nodup_keys_merge whole _) laid
      rw [Table.get?_merge own values.distinct, hv] at there
      have same : v = e.2 := Option.some.inj there
      have equal := values.get? hv
      rw [same, differs _ (same ▸ hv)] at equal
      cases equal

/-- So all its values stay. -/
theorem get?_heeding_shared (whole : own.keys.Nodup) {e : String × Value}
    (he : e ∈ f.state.values) :
    (f.heeding (own.merge f.state.values)).get? e.1 = some e.2 := by
  have there := Table.get?_of_mem values.distinct he
  refine (Table.get?_merge_of_not_mem _ fun hk => ?_).trans there
  obtain ⟨taken, ht, same⟩ := List.mem_map.mp hk
  have none := get?_eq_none_of_differing values whole ht
  rw [same, there] at none
  cases none

/-- And what it has then is among what its values were laid over. -/
theorem isAmong_heeding (regular : own.IsRegular) :
    (f.holding (f.heeding (own.merge f.state.values))).IsAmong (own.merge f.state.values) := by
  have laid : (own.merge f.state.values).IsRegular := regular.merge values.equal
  intro e he
  rcases Table.mem_merge he with before | taken
  · exact ⟨e.2, Table.get?_merge_of_mem own values.distinct before, values.equal e before⟩
  · have there := (mem_differing.mp taken).1
    exact ⟨e.2, Table.get?_of_mem laid.distinct there, laid.equal e there⟩

end Shared

end Form

end FormEngine
