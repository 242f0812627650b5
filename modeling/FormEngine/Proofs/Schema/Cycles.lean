import FormEngine.Dependency
import FormEngine.Proofs.Except
import FormEngine.Proofs.Table
import Mathlib.Data.List.Chain
import Mathlib.Data.List.Perm.Subperm
import Mathlib.Logic.Relation

/-!
The search for cycles. What it finds is a cycle; and where it finds none there is none: each walk that
comes back leaves behind only ids from which no path goes on forever, apart from those that it is still
on. The path of a walk never repeats an id, so the walks are cut short by nothing else.
-/

namespace FormEngine

namespace DependencyGraph

variable {g : DependencyGraph}

/-- A field reads another. -/
def Reads (g : DependencyGraph) (id other : String) : Prop := other ∈ g.dependenciesOf id

/-- No field reads itself, directly or by way of others. -/
def Acyclic (g : DependencyGraph) : Prop := ∀ id, ¬ Relation.TransGen g.Reads id id

/-- A way along the graph from an id back to it, on which no other id stands twice. -/
structure IsCycle (g : DependencyGraph) (path : List String) : Prop where
  long : 2 ≤ path.length
  closed : path.head? = path.getLast?
  chain : path.IsChain g.Reads
  distinct : path.tail.Nodup

theorem IsCycle.not_acyclic {path : List String} (h : g.IsCycle path) : ¬ g.Acyclic := by
  obtain ⟨long, closed, chain, -⟩ := h
  match path with
  | id :: other :: rest =>
    have back : id ∈ other :: rest := by
      rw [List.head?_cons, List.getLast?_cons_cons] at closed
      exact List.mem_of_getLast? closed.symm
    intro acyclic
    exact acyclic id ((chain.imp fun _ _ => Relation.TransGen.single).rel_cons back)

/-- No path goes on from an id forever. -/
def Grounded (g : DependencyGraph) (id : String) : Prop := Acc (fun other id => g.Reads id other) id

theorem Grounded.not_reads_self {id : String} (h : g.Grounded id) :
    ¬ Relation.TransGen g.Reads id id := by
  induction h with
  | intro id _ ih =>
    intro loop
    obtain ⟨other, reads, back⟩ := Relation.TransGen.head'_iff.mp loop
    exact ih other reads (.tail' back reads)

/-- What a field reads is listed in the graph, and so is the field. -/
theorem Reads.mem {id other : String} (h : g.Reads id other) :
    id ∈ g.keys ∧ id ∈ g.ids ∧ other ∈ g.ids := by
  unfold Reads dependenciesOf at h
  cases hg : g.get? id with
  | none => simp [hg] at h
  | some read =>
    have entry := Table.mem_of_get? hg
    have others : other ∈ read := by simpa [hg] using h
    refine ⟨List.mem_map.mpr ⟨_, entry, rfl⟩, ?_, ?_⟩
    · exact List.mem_flatMap.mpr ⟨_, entry, List.mem_cons_self⟩
    · exact List.mem_flatMap.mpr ⟨_, entry, List.mem_cons_of_mem _ others⟩

/-- Of the ids that were met, those that a walk is not on any more are grounded. -/
def Settled (g : DependencyGraph) (path met : List String) : Prop :=
  ∀ id ∈ met, id ∈ path ∨ g.Grounded id

/-- A walk that comes back leaves the id grounded from which it went on. -/
theorem walk_eq_ok {fuel : Nat} {path met found : List String} {id : String}
    (h : g.walk fuel path met id = .ok found) (room : g.ids.length < path.length + fuel)
    (nodup : path.Nodup) (known : path ⊆ g.ids) (hid : id ∈ g.ids) (settled : g.Settled path met) :
    g.Settled path found ∧ g.Grounded id := by
  induction fuel generalizing path met found id with
  | zero =>
    have short : path.length ≤ g.ids.length := (nodup.subperm known).length_le
    omega
  | succ fuel ih =>
    unfold walk at h
    split at h
    · cases h
    · next off =>
      have fresh : id ∉ path := by simpa using off
      split at h
      · next seen =>
        cases h
        exact ⟨settled, (settled id (by simpa using seen)).resolve_left fresh⟩
      · have start : g.Settled (path ++ [id]) (id :: met) := by
          refine List.forall_mem_cons.mpr ⟨.inl (by simp), fun other ho => ?_⟩
          exact (settled other ho).imp_left (List.mem_append_left _)
        obtain ⟨rest, read⟩ := Except.foldlM_eq_ok (g.Settled (path ++ [id])) g.Grounded
          (fun other ho met found step kept => by
            refine ih step ?_ ?_ ?_ (Reads.mem ho).2.2 kept
            · simp only [List.length_append, List.length_singleton]
              omega
            · simpa [List.nodup_append] using ⟨nodup, fun x hx same => fresh (same ▸ hx)⟩
            · exact List.append_subset.mpr ⟨known, by simpa using hid⟩) h start
        have grounded : g.Grounded id := .intro id fun other reads => read other reads
        refine ⟨fun other ho => ?_, grounded⟩
        rcases rest other ho with on | settled
        · rcases List.mem_append.mp on with on | same
          · exact .inl on
          · exact .inr (List.mem_singleton.mp same ▸ grounded)
        · exact .inr settled

/-- A walk that comes upon its own path has found a cycle. -/
theorem walk_eq_error {fuel : Nat} {path met cycle : List String} {id : String}
    (h : g.walk fuel path met id = .error cycle) (nodup : path.Nodup)
    (chain : (path ++ [id]).IsChain g.Reads) : g.IsCycle cycle := by
  induction fuel generalizing path met id with
  | zero => cases h
  | succ fuel ih =>
    unfold walk at h
    split at h
    · next on =>
      cases h
      obtain ⟨before, rest, rfl, first⟩ := List.eq_append_cons_of_mem (List.contains_iff_mem.mp on)
      have dropped : (before ++ id :: rest).dropWhile (· != id) = id :: rest := by
        have differs : ∀ x ∈ before, (x != id) = true := by
          intro x hx
          exact bne_iff_ne.mpr fun same => first (same ▸ hx)
        rw [List.dropWhile_append_of_pos differs]
        simp
      rw [dropped]
      have around : (id :: rest ++ [id]).IsChain g.Reads := by
        rw [List.append_assoc] at chain
        exact chain.right_of_append
      obtain ⟨-, once, -⟩ := List.nodup_append.mp nodup
      refine ⟨by simp, by rw [List.getLast?_concat]; rfl, around, ?_⟩
      rw [List.cons_append, List.tail_cons]
      exact (List.perm_append_singleton id rest).nodup_iff.mpr once
    · next off =>
      have fresh : id ∉ path := by simpa using off
      split at h
      · cases h
      · obtain ⟨other, reads, met, step⟩ := Except.foldlM_eq_error h
        refine ih step ?_ ?_
        · simpa [List.nodup_append] using ⟨nodup, fun x hx same => fresh (same ▸ hx)⟩
        · refine List.isChain_append.mpr ⟨chain, by simp, ?_⟩
          intro x hx y hy
          rw [List.getLast?_concat, Option.mem_some_iff] at hx
          rw [List.head?_cons, Option.mem_some_iff] at hy
          subst hx hy
          exact reads

theorem cycle?_eq_some {path : List String} (h : g.cycle? = some path) : g.IsCycle path := by
  unfold cycle? at h
  split at h
  · next found =>
    cases h
    obtain ⟨id, -, met, step⟩ := Except.foldlM_eq_error found
    exact walk_eq_error step List.nodup_nil (by simp)
  · cases h

/-- The search finds no cycle just if there is none. -/
theorem cycle?_eq_none_iff : g.cycle? = none ↔ g.Acyclic := by
  constructor
  · intro h
    unfold cycle? at h
    split at h
    · cases h
    · next met found =>
      have grounded : ∀ id ∈ g.keys, g.Grounded id :=
        (Except.foldlM_eq_ok (g.Settled []) g.Grounded (fun id hid met found step kept =>
          walk_eq_ok step (by simp) List.nodup_nil (List.nil_subset _) (by
            obtain ⟨e, he, rfl⟩ := List.mem_map.mp hid
            exact List.mem_flatMap.mpr ⟨e, he, List.mem_cons_self⟩) kept) found
          (by simp [Settled])).2
      intro id loop
      obtain ⟨other, reads, -⟩ := Relation.TransGen.head'_iff.mp loop
      exact (grounded id reads.mem.1).not_reads_self loop
  · intro acyclic
    cases h : g.cycle? with
    | none => rfl
    | some path => exact absurd acyclic (cycle?_eq_some h).not_acyclic

theorem resolve_acyclic {s : FormSchema} (h : (ofFields s.fields).Acyclic) :
    resolve s = .ok (ofFields s.fields) := by
  unfold resolve
  dsimp only
  rw [cycle?_eq_none_iff.mpr h]

theorem resolve_of_cycle {s : FormSchema} {path : List String}
    (found : (ofFields s.fields).cycle? = some path) :
    resolve s = .error (.circularDependency (path.headD "") path) := by
  have nonempty : path.isEmpty = false := by
    cases path with
    | nil => cases (cycle?_eq_some found).long
    | cons id path => rfl
  unfold resolve
  dsimp only
  rw [found]
  simp [Fault.circular, nonempty]

/-- Fields that read each other in a cycle are refused with that cycle. -/
theorem resolve_cyclic {s : FormSchema} (h : ¬ (ofFields s.fields).Acyclic) :
    ∃ path, (ofFields s.fields).IsCycle path ∧
      resolve s = .error (.circularDependency (path.headD "") path) := by
  rw [← cycle?_eq_none_iff] at h
  obtain ⟨path, found⟩ := Option.ne_none_iff_exists'.mp h
  exact ⟨path, cycle?_eq_some found, resolve_of_cycle found⟩

end DependencyGraph

end FormEngine
