import FormEngine.Proofs.Schema.Cycles
import FormEngine.Proofs.Schema.Dependents
import FormEngine.Proofs.Schema.Specimen

/-!
The reverse of a graph. The list of an id in it is known at once for all ids: the keys of the graph in
their order, each as often as the id stands in its list. So every edge is turned around as often as it
is there, and turning the edges back gives the graph again, but for the order of its keys and of the ids
in each list. An id that reads nothing has no edge by which it could be found again; the graph of a form
lists no such id.
-/

namespace FormEngine

namespace DependencyGraph

variable {g r q : DependencyGraph} {key id other : String}

theorem dependenciesOf_of_not_mem (absent : id ∉ g.keys) : g.dependenciesOf id = [] := by
  unfold dependenciesOf
  rw [Table.get?_eq_none absent, Option.getD_none]

theorem dependenciesOf_cons {read : List String} : dependenciesOf ((key, read) :: g) id =
    if id = key then read else g.dependenciesOf id := by
  unfold dependenciesOf
  rw [Table.get?_cons]
  split <;> rfl

/-- Where no list is empty, the keys are the ids that read something. -/
theorem mem_keys_iff (filled : ∀ e ∈ g, e.2 ≠ []) : id ∈ g.keys ↔ ∃ other, g.Reads id other := by
  constructor
  · intro listed
    obtain ⟨read, found⟩ := Option.isSome_iff_exists.mp ((Table.mem_keys g id).mp listed)
    obtain ⟨other, ho⟩ := List.exists_mem_of_ne_nil read (filled _ (Table.mem_of_get? found))
    refine ⟨other, ?_⟩
    unfold Reads dependenciesOf
    rwa [found, Option.getD_some]
  · rintro ⟨other, reads⟩
    exact reads.mem.1

theorem nodup_dependenciesOf (lists : ∀ e ∈ g, e.2.Nodup) (id : String) :
    (g.dependenciesOf id).Nodup := by
  unfold dependenciesOf
  cases found : g.get? id with
  | none => exact List.nodup_nil
  | some read => exact lists _ (Table.mem_of_get? found)

/-- A graph has the edges of another, each turned around. -/
structure Reverses (r g : DependencyGraph) : Prop where
  distinct : r.keys.Nodup
  /-- an id stands in the list of another as often as the other stands in its own -/
  occurrences : ∀ id other, (r.dependenciesOf other).count id = (g.dependenciesOf id).count other
  /-- the lists follow the order of the keys that are turned into their members -/
  ordered : ∀ other, (r.dependenciesOf other).Pairwise fun a b => g.keys.idxOf a ≤ g.keys.idxOf b
  filled : ∀ e ∈ r, e.2 ≠ []
  keyed : ∀ other, other ∈ r.keys ↔ ∃ id, g.Reads id other

/-- Graphs that differ only in the order of the keys and of the ids in each list. -/
structure Reorders (r g : DependencyGraph) : Prop where
  keys : r.keys.Perm g.keys
  lists : ∀ id, (r.dependenciesOf id).Perm (g.dependenciesOf id)

theorem count_dependents (table : g.keys.Nodup) :
    (g.dependents.dependenciesOf other).count id = (g.dependenciesOf id).count other := by
  rw [dependenciesOf_dependents]
  induction g with
  | nil => rfl
  | cons e g ih =>
    obtain ⟨key, read⟩ := e
    obtain ⟨absent, rest⟩ := List.nodup_cons.mp table
    rw [List.flatMap_cons, List.count_append, List.count_replicate, ih rest, dependenciesOf_cons]
    by_cases same : id = key
    · subst same
      rw [dependenciesOf_of_not_mem absent]
      simp
    · simp [same, Ne.symm same]

theorem dependents_ordered (table : g.keys.Nodup) (other : String) :
    (g.dependents.dependenciesOf other).Pairwise fun a b => g.keys.idxOf a ≤ g.keys.idxOf b := by
  have places : g.keys.Pairwise fun a b => g.keys.idxOf a ≤ g.keys.idxOf b := by
    rw [List.pairwise_iff_getElem]
    intro i j hi hj before
    rw [table.idxOf_getElem, table.idxOf_getElem]
    exact Nat.le_of_lt before
  rw [dependenciesOf_dependents, List.pairwise_flatMap]
  refine ⟨fun e _ => List.pairwise_replicate.mpr (.inr (Nat.le_refl _)), ?_⟩
  refine (List.pairwise_map.mp places).imp fun before x hx y hy => ?_
  rwa [List.eq_of_mem_replicate hx, List.eq_of_mem_replicate hy]

/-- What is kept each time that an edge is added holds of the reverse. -/
theorem dependents_induction {p : DependencyGraph → Prop} (empty : p [])
    (add : ∀ r key id, p r → p (append r key id)) : p g.dependents :=
  List.foldlRecOn g _ empty fun _ hr e _ =>
    List.foldlRecOn e.2 _ hr fun r hr key _ => add r key e.1 hr

theorem nodup_keys_dependents : g.dependents.keys.Nodup :=
  dependents_induction (p := fun r => r.keys.Nodup) List.nodup_nil fun _ _ _ hr =>
    Table.nodup_keys_put hr _ _

theorem dependents_filled : ∀ e ∈ g.dependents, e.2 ≠ [] := by
  refine dependents_induction (p := fun r => ∀ e ∈ r, e.2 ≠ []) (by simp) fun r key id hr e he => ?_
  rcases Table.mem_put he with rfl | before
  · simp
  · exact hr e before

theorem reads_dependents_iff (table : g.keys.Nodup) :
    g.dependents.Reads other id ↔ g.Reads id other := by
  unfold Reads
  rw [← List.count_pos_iff, count_dependents table, List.count_pos_iff]

theorem dependents_reverses (table : g.keys.Nodup) : g.dependents.Reverses g where
  distinct := nodup_keys_dependents
  occurrences _ _ := count_dependents table
  ordered := dependents_ordered table
  filled := dependents_filled
  keyed _ := (mem_keys_iff dependents_filled).trans
    (exists_congr fun _ => reads_dependents_iff table)

namespace Reverses

/-- The lists of a graph that has the edges of another turned around are distinct if its lists are. -/
theorem nodup (h : r.Reverses g) (lists : ∀ e ∈ g, e.2.Nodup) : ∀ e ∈ r, e.2.Nodup := by
  intro e he
  rw [List.nodup_iff_count_le_one]
  intro id
  rw [← dependenciesOf_of_mem h.distinct he, h.occurrences]
  exact List.nodup_iff_count_le_one.mp (nodup_dependenciesOf lists id) e.1

/-- Edges that are turned around twice are the same edges. -/
theorem reorders (back : q.Reverses r) (there : r.Reverses g) (table : g.keys.Nodup) :
    q.Reorders (g.filter fun e => !e.2.isEmpty) := by
  have lists (id : String) :
      (q.dependenciesOf id).Perm (dependenciesOf (g.filter fun e => !e.2.isEmpty) id) := by
    rw [dependenciesOf_filter table, List.perm_iff_count]
    intro other
    rw [back.occurrences, there.occurrences]
  have filled : ∀ e ∈ g.filter fun e => !e.2.isEmpty, e.2 ≠ [] := by
    intro e he
    simpa using (List.mem_filter.mp he).2
  have distinct : (Table.keys (g.filter fun e => !e.2.isEmpty)).Nodup :=
    table.sublist (List.filter_sublist.map Prod.fst)
  refine ⟨(List.perm_ext_iff_of_nodup back.distinct distinct).mpr fun id => ?_, lists⟩
  rw [mem_keys_iff back.filled, mem_keys_iff filled]
  exact exists_congr fun _ => (lists id).mem_iff

end Reverses

/-- The graph of a form has one list for each id that reads something, and in it each id once. -/
theorem ofFields_tidy (fields : List FormField) :
    (ofFields fields).keys.Nodup ∧ ∀ e ∈ ofFields fields, e.2.Nodup ∧ e.2 ≠ [] := by
  refine ⟨Table.nodup_keys_ofEntries _, fun e he => ?_⟩
  have entry := (Table.mem_merge he).resolve_left List.not_mem_nil
  obtain ⟨field, some⟩ := List.mem_filter.mp entry
  obtain ⟨f, -, rfl⟩ := List.mem_map.mp field
  exact ⟨nodup_distinctIds _, by simpa using some⟩

end DependencyGraph

/-- A field that is shown by other fields. -/
def FormField.shownBy (id : String) (others : List String) : FormField :=
  { plain id "text" with
    conditional := some ⟨some (others.map fun other => ⟨other, some "is_empty", .null, none⟩),
      none, none, none, none⟩ }

def FormSchema.crossing : FormSchema :=
  .plain [.plain "a" "text", .plain "b" "text", .shownBy "c" ["b"], .shownBy "d" ["a"],
    .shownBy "e" ["a", "b"]]

namespace DependencyGraph

/-- A graph in which neither the keys nor the last list have the order that comes of reversing it
twice. -/
def crossed : DependencyGraph := [("c", ["b"]), ("d", ["a"]), ("e", ["a", "b"])]

/-- Reversing a graph loses and invents no edge: an id stands in the list of another as often as the other
stands in its own, the lists follow the order of the graph, none is empty, and the keys are the ids that
are read. Where no list has duplicates the reverse has none. To reverse it again gives the same
edges, with the ids that read something and their lists reordered; in the graph of a form there are no
other ids, and no duplicates. -/
theorem reversal_exact :
    (∀ g : DependencyGraph, g.keys.Nodup →
      g.dependents.Reverses g ∧
      ((∀ e ∈ g, e.2.Nodup) → ∀ e ∈ g.dependents, e.2.Nodup) ∧
      g.dependents.dependents.Reorders (g.filter fun e => !e.2.isEmpty)) ∧
    ∀ s g, resolve s = .ok g →
      g.keys.Nodup ∧ (∀ e ∈ g, e.2.Nodup) ∧ g.dependents.dependents.Reorders g := by
  have twice {g : DependencyGraph} (table : g.keys.Nodup) :
      g.dependents.dependents.Reorders (g.filter fun e => !e.2.isEmpty) :=
    (dependents_reverses nodup_keys_dependents).reorders (dependents_reverses table) table
  refine ⟨fun g table => ⟨dependents_reverses table, (dependents_reverses table).nodup, twice table⟩,
    fun s g resolved => ?_⟩
  obtain ⟨-, rfl⟩ := resolve_eq_ok resolved
  obtain ⟨table, tidy⟩ := ofFields_tidy s.fields
  refine ⟨table, fun e he => (tidy e he).1, ?_⟩
  have reordered := twice table
  rwa [List.filter_eq_self.mpr fun e he => by simpa using (tidy e he).2] at reordered

theorem crossing_reversed :
    resolve .crossing = .ok crossed ∧ crossed.keys.Nodup ∧ crossed.dependents.Reverses crossed ∧
      (∀ e ∈ crossed.dependents, e.2.Nodup) ∧ crossed.dependents.dependents.Reorders crossed ∧
      crossed.dependents.dependents ≠ crossed := by
  have listed : ofFields FormSchema.crossing.fields = crossed := by decide +kernel
  have acyclic : (ofFields FormSchema.crossing.fields).cycle? = none := by decide +kernel
  have resolved : resolve .crossing = .ok crossed :=
    listed ▸ resolve_acyclic (cycle?_eq_none_iff.mp acyclic)
  obtain ⟨table, distinct, reorders⟩ := reversal_exact.2 .crossing crossed resolved
  obtain ⟨reverses, lists, -⟩ := reversal_exact.1 crossed table
  exact ⟨resolved, table, reverses, lists distinct, reorders, by decide⟩

-- an id that is read twice by another and by itself, and one that reads nothing
example : dependents [("a", ["b", "b", "a"]), ("c", []), ("d", ["b"])] =
    [("b", ["a", "a", "d"]), ("a", ["a"])] := by decide

end DependencyGraph

end FormEngine
