import FormEngine.Proofs.Schema.Cycles
import FormEngine.Proofs.Schema.Dependents
import Mathlib.Algebra.GroupWithZero.Nat

/-!
The search for a cycle, step by step. It keeps the ids from which it has not started yet, those that it
has met, and a stack: the ids on its path, the last one first, each with those of its dependencies that
are still to be followed. Every step lowers a potential, so the search ends after at most twice as many
steps as there are entries in the graph; and it ends with what `cycle?` finds, so that no walk is ever
cut short. What it finds is a cycle of the dependencies that the fields of a schema declare.
-/

namespace FormEngine

namespace DependencyGraph

structure Search where
  roots : List String
  met : List String
  stack : List (String × List String)

namespace Search

variable {g : DependencyGraph}

def start (g : DependencyGraph) : Search := ⟨g.keys, [], []⟩

def path (s : Search) : List String := (s.stack.map Prod.fst).reverse

/-- An id that stands on the path closes a cycle, one that was met is passed over, and any other is
met and put on the path. -/
def enter (g : DependencyGraph) (s : Search) (id : String) : Option (List String) ⊕ Search :=
  if s.path.contains id then .inl (some (s.path.dropWhile (· != id) ++ [id]))
  else if s.met.contains id then .inr s
  else .inr { s with met := id :: s.met, stack := (id, g.dependenciesOf id) :: s.stack }

/-- What the search has found in the end, or how it goes on. -/
def step (g : DependencyGraph) : Search → Option (List String) ⊕ Search
  | ⟨roots, met, (id, next :: pending) :: stack⟩ => enter g ⟨roots, met, (id, pending) :: stack⟩ next
  | ⟨roots, met, (_, []) :: stack⟩ => .inr ⟨roots, met, stack⟩
  | ⟨root :: roots, met, []⟩ => enter g ⟨roots, met, []⟩ root
  | ⟨[], _, []⟩ => .inl none

/-- What is found in a number of steps, unless they are too few. -/
def proceed (g : DependencyGraph) : Nat → Search → Option (Option (List String))
  | 0, _ => none
  | n + 1, s =>
    match s.step g with
    | .inl found => some found
    | .inr t => t.proceed g n

/-- The number of dependencies of the fields that were not met. -/
def unread (g : DependencyGraph) (met : List String) : Nat :=
  ((g.filter fun e => !met.contains e.1).map fun e => e.2.length).sum

/-- Each id to enter counts for two steps, to enter it and to leave it, and each id on the path for
the one to leave it. -/
def potential (g : DependencyGraph) (s : Search) : Nat :=
  2 * s.roots.length + (s.stack.map fun frame => 2 * frame.2.length + 1).sum + 2 * unread g s.met

theorem unread_cons_add_le {met : List String} {id : String} (fresh : id ∉ met) :
    unread g (id :: met) + (g.dependenciesOf id).length ≤ unread g met := by
  induction g with
  | nil => simp [unread, dependenciesOf]
  | cons e g ih =>
    obtain ⟨key, read⟩ := e
    unfold unread dependenciesOf at *
    rw [Table.get?_cons]
    by_cases same : id = key
    · subst same
      simp [fresh] at ih ⊢
      omega
    · by_cases seen : key ∈ met
      · simpa [same, Ne.symm same, seen] using ih
      · simp [same, Ne.symm same, seen] at ih ⊢
        omega

/-- An id that was taken off what is to be entered has counted for two steps. -/
theorem potential_of_enter {s t : Search} {id : String} (h : enter g s id = .inr t) :
    t.potential g < s.potential g + 2 := by
  unfold enter at h
  split at h
  · cases h
  · split at h
    · cases h
      omega
    · next fresh =>
      cases h
      have drops : unread g (id :: s.met) + (g.dependenciesOf id).length ≤ unread g s.met :=
        unread_cons_add_le (by simpa using fresh)
      simp only [potential, List.map_cons, List.sum_cons]
      omega

theorem potential_of_step {s t : Search} (h : s.step g = .inr t) :
    t.potential g < s.potential g := by
  unfold step at h
  split at h
  · have entered := potential_of_enter h
    simp only [potential, List.map_cons, List.sum_cons, List.length_cons] at entered ⊢
    omega
  · cases h
    simp only [potential, List.map_cons, List.sum_cons]
    omega
  · have entered := potential_of_enter h
    simp only [potential, List.length_cons] at entered ⊢
    omega
  · cases h

theorem potential_start : (start g).potential g = 2 * g.ids.length := by
  have entries : g.ids.length = g.keys.length + unread g [] := by
    unfold ids unread Table.keys
    induction g with
    | nil => rfl
    | cons e g ih =>
      simp at ih ⊢
      omega
  simp only [potential, start, List.map_nil, List.sum_nil]
  omega

/-- The search goes on until it ends. -/
def run (g : DependencyGraph) (s : Search) : Option (List String) :=
  match _taken : s.step g with
  | .inl found => found
  | .inr t => t.run g
termination_by s.potential g
decreasing_by exact potential_of_step _taken

theorem proceed_eq_run {n : Nat} {s : Search} (enough : s.potential g < n) :
    s.proceed g n = some (s.run g) := by
  induction n generalizing s with
  | zero => omega
  | succ n ih =>
    unfold proceed run
    cases h : s.step g with
    | inl found => rfl
    | inr t =>
      have lower := potential_of_step h
      exact ih (by omega)

/-- What is found from what a step leaves on. -/
def finish (g : DependencyGraph) : Option (List String) ⊕ Search → Option (List String)
  | .inl found => found
  | .inr t => t.run g

theorem run_eq (s : Search) : s.run g = finish g (s.step g) := by
  rw [run]
  cases s.step g <;> rfl

/-- What is found when the search goes on from the ids that a walk has met, unless the walk has found a
cycle. -/
def resume (walked : Except (List String) (List String))
    (goOn : List String → Option (List String)) : Option (List String) :=
  match walked with
  | .error path => some path
  | .ok met => goOn met

theorem resume_bind (walked : Except (List String) (List String))
    (next : List String → Except (List String) (List String))
    (goOn : List String → Option (List String)) :
    resume (walked >>= next) goOn = resume walked fun met => resume (next met) goOn := by
  cases walked <;> rfl

theorem path_push (roots met : List String) (id : String) (pending : List String)
    (stack : List (String × List String)) :
    path ⟨roots, met, (id, pending) :: stack⟩ = path ⟨roots, met, stack⟩ ++ [id] := by
  simp [path]

/-- To follow what is pending for the last id on the path is to walk from each of these ids. -/
theorem run_frame (walkFrom : List String → String → Except (List String) (List String))
    {roots : List String} {id : String} {stack : List (String × List String)}
    (pending : List String) (met : List String)
    (enters : ∀ next ∈ pending, ∀ rest met, finish g (enter g ⟨roots, met, (id, rest) :: stack⟩ next) =
      resume (walkFrom met next) fun met => run g ⟨roots, met, (id, rest) :: stack⟩) :
    run g ⟨roots, met, (id, pending) :: stack⟩ =
      resume (pending.foldlM walkFrom met) fun met => run g ⟨roots, met, stack⟩ := by
  induction pending generalizing met with
  | nil => exact run_eq _
  | cons next pending ih =>
    obtain ⟨first, others⟩ := List.forall_mem_cons.mp enters
    rw [List.foldlM_cons, resume_bind, run_eq]
    refine (first pending met).trans (congrArg _ ?_)
    funext met
    exact ih met others

/-- To enter an id is to walk from it, if the walk has room for every id. -/
theorem finish_enter {fuel : Nat} {roots met : List String} {stack : List (String × List String)}
    {id : String} (room : g.ids.length < (path ⟨roots, met, stack⟩).length + fuel)
    (nodup : (path ⟨roots, met, stack⟩).Nodup) (known : path ⟨roots, met, stack⟩ ⊆ g.ids)
    (hid : id ∈ g.ids) :
    finish g (enter g ⟨roots, met, stack⟩ id) =
      resume (g.walk fuel (path ⟨roots, met, stack⟩) met id) fun met => run g ⟨roots, met, stack⟩ := by
  induction fuel generalizing met stack id with
  | zero =>
    have short := (nodup.subperm known).length_le
    omega
  | succ fuel ih =>
    unfold enter walk
    split
    · rfl
    · next off =>
      have fresh : id ∉ path ⟨roots, met, stack⟩ := by simpa using off
      dsimp only
      split
      · rfl
      · refine run_frame (g.walk fuel (path ⟨roots, met, stack⟩ ++ [id])) _ _ ?_
        intro next reads rest met'
        have longer : path ⟨roots, met', (id, rest) :: stack⟩ = path ⟨roots, met, stack⟩ ++ [id] :=
          path_push _ _ _ _ _
        rw [← longer]
        refine ih ?_ ?_ ?_ (Reads.mem reads).2.2
        · rw [longer, List.length_append, List.length_singleton]
          omega
        · rw [longer]
          simpa [List.nodup_append] using ⟨nodup, fun x hx same => fresh (same ▸ hx)⟩
        · rw [longer]
          exact List.append_subset.mpr ⟨known, by simpa using hid⟩

/-- The search finds what the walks find that start at each key in turn. -/
theorem run_start : (start g).run g = g.cycle? := by
  have walks (roots met : List String) (listed : roots ⊆ g.ids) :
      run g ⟨roots, met, []⟩ =
        resume (roots.foldlM (g.walk (g.ids.length + 1) []) met) fun _ => none := by
    induction roots generalizing met with
    | nil => exact run_eq _
    | cons root roots ih =>
      obtain ⟨hroot, others⟩ := List.cons_subset.mp listed
      rw [List.foldlM_cons, resume_bind, run_eq]
      have entered : finish g (enter g ⟨roots, met, []⟩ root) =
          resume (g.walk (g.ids.length + 1) [] met root) fun met => run g ⟨roots, met, []⟩ :=
        finish_enter (Nat.lt_add_left _ (Nat.lt_succ_self _)) List.nodup_nil (List.nil_subset _) hroot
      refine entered.trans (congrArg _ ?_)
      funext met
      exact ih met others
  have keys : g.keys ⊆ g.ids := by
    intro id hid
    obtain ⟨e, he, rfl⟩ := List.mem_map.mp hid
    exact List.mem_flatMap.mpr ⟨e, he, List.mem_cons_self⟩
  refine (walks g.keys [] keys).trans ?_
  unfold cycle?
  cases g.keys.foldlM (g.walk (g.ids.length + 1) []) [] <;> rfl

end Search

end DependencyGraph

/-- The field of an id names another. Of fields with one id it is the last that names any. -/
def FormSchema.DependsOn (s : FormSchema) (id other : String) : Prop :=
  ∃ before f after, s.fields = before ++ f :: after ∧ f.id = id ∧ f.Names other ∧
    ∀ later ∈ after, later.id = id → ∀ x, ¬ later.Names x

/-- A field of the schema depends on itself, directly or by way of others. -/
def FormSchema.Cyclic (s : FormSchema) : Prop := ∃ id, Relation.TransGen s.DependsOn id id

namespace FormSchema

variable {s : FormSchema}

/-- Where ids are distinct, there is one field of an id. -/
theorem dependsOn_iff (distinct : s.fieldIds.Nodup) {id other : String} :
    s.DependsOn id other ↔ ∃ f ∈ s.fields, f.id = id ∧ f.Names other := by
  constructor
  · rintro ⟨before, f, after, fields, rfl, names, -⟩
    exact ⟨f, by simp [fields], rfl, names⟩
  · rintro ⟨f, hf, rfl, names⟩
    obtain ⟨before, after, fields⟩ := List.append_of_mem hf
    refine ⟨before, f, after, fields, rfl, names, fun later hl same => ?_⟩
    unfold fieldIds at distinct
    rw [fields, List.map_append, List.map_cons] at distinct
    have once := (List.nodup_cons.mp (List.nodup_append.mp distinct).2.1).1
    exact absurd (List.mem_map.mpr ⟨later, hl, same⟩) once

open DependencyGraph

/-- Of fields with one id it is the last with dependencies whose entry the graph has. -/
theorem get?_ofFields_iff {fields : List FormField} {id : String} {read : List String} :
    Table.get? (ofFields fields) id = some read ↔
      ∃ before f after, fields = before ++ f :: after ∧ f.id = id ∧ f.dependencies = read ∧
        read ≠ [] ∧ ∀ later ∈ after, later.id = id → later.dependencies = [] := by
  let entry := fun f : FormField => (f.id, f.dependencies)
  let reads := fun f : FormField => !f.dependencies.isEmpty
  have entries : ofFields fields = Table.ofEntries ((fields.filter reads).map entry) :=
    congrArg Table.ofEntries List.filter_map
  have absent (after : List FormField) : id ∉ Table.keys ((after.filter reads).map entry) ↔
      ∀ later ∈ after, later.id = id → later.dependencies = [] := by
    simp only [Table.keys, reads, entry, List.map_map, List.mem_map, List.mem_filter,
      Bool.not_eq_true', List.isEmpty_eq_false_iff, Function.comp, not_exists, not_and]
    exact forall_congr' fun later => ⟨fun h hl same => by_contra fun some => h ⟨hl, some⟩ same,
      fun h hl same => hl.2 (h hl.1 same)⟩
  rw [entries, Table.get?_ofEntries_iff]
  constructor
  · rintro ⟨before, after, split, once⟩
    obtain ⟨front, rest, kept, -, tail⟩ := List.map_eq_append_iff.mp split
    obtain ⟨f, later, rfl, same, rfl⟩ := List.map_eq_cons_iff.mp tail
    obtain ⟨first, second, rfl, -, kept⟩ := List.filter_eq_append_iff.mp kept
    obtain ⟨skipped, last, rfl, -, some, rfl⟩ := List.filter_eq_cons_iff.mp kept
    cases same
    exact ⟨first ++ skipped, f, last, by simp, rfl, rfl, by simpa [reads] using some,
      (absent last).mp once⟩
  · rintro ⟨before, f, after, rfl, rfl, rfl, some, last⟩
    have kept : reads f = true := by simpa [reads] using some
    refine ⟨(before.filter reads).map entry, (after.filter reads).map entry, ?_, (absent after).mpr last⟩
    rw [List.filter_append, List.filter_cons_of_pos kept, List.map_append, List.map_cons]

/-- The graph has what the fields of the schema depend on. -/
theorem reads_ofFields_iff {id other : String} :
    (ofFields s.fields).Reads id other ↔ s.DependsOn id other := by
  have reads : (ofFields s.fields).Reads id other ↔
      ∃ read, Table.get? (ofFields s.fields) id = some read ∧ other ∈ read := by
    unfold Reads dependenciesOf
    cases Table.get? (ofFields s.fields) id <;> simp
  have names (f : FormField) (x : String) : f.Names x ↔ x ∈ f.dependencies :=
    FieldAttributes.mem_dependencies_iff.symm
  rw [reads]
  constructor
  · rintro ⟨read, found, listed⟩
    obtain ⟨before, f, after, fields, same, rfl, -, last⟩ := get?_ofFields_iff.mp found
    refine ⟨before, f, after, fields, same, (names f other).mpr listed, fun later hl hid x named => ?_⟩
    rw [names, last later hl hid] at named
    cases named
  · rintro ⟨before, f, after, fields, same, named, last⟩
    have listed := (names f other).mp named
    refine ⟨f.dependencies, get?_ofFields_iff.mpr ⟨before, f, after, fields, same, rfl,
      List.ne_nil_of_mem listed, fun later hl hid => ?_⟩, listed⟩
    refine List.eq_nil_iff_forall_not_mem.mpr fun x hx => ?_
    exact last later hl hid x ((names later x).mpr hx)

theorem acyclic_ofFields_iff : (ofFields s.fields).Acyclic ↔ ¬ s.Cyclic := by
  have same : (ofFields s.fields).Reads = s.DependsOn := by
    funext id other
    exact propext reads_ofFields_iff
  unfold Acyclic Cyclic
  rw [same, not_exists]

end FormSchema

namespace DependencyGraph

/-- What is loaded from a source is refused just if its fields depend on each other in a cycle. -/
theorem resolve_loaded_cases (source : SchemaSource) :
    (∃ issues, source.load = .error (.invalid issues) ∧
      (do resolve (← source.load)) = .error (.invalid issues)) ∨
    (∃ s, source.load = .ok s ∧ ¬ s.Cyclic ∧
      (do resolve (← source.load)) = .ok (ofFields s.fields)) ∨
    ∃ s path, source.load = .ok s ∧ s.Cyclic ∧ (ofFields s.fields).IsCycle path ∧
      (do resolve (← source.load)) = .error (.circularDependency (path.headD "") path) := by
  have loaded : (∃ s, source.load = .ok s) ∨ ∃ issues, source.load = .error (.invalid issues) := by
    cases source with
    | loaded s => exact .inl ⟨s, rfl⟩
    | raw data =>
      change (∃ s, (Load.formSchema data).toExcept = .ok s) ∨
        ∃ issues, (Load.formSchema data).toExcept = .error (.invalid issues)
      cases Load.formSchema data with
      | ok s => exact .inl ⟨s, rfl⟩
      | failed issues => exact .inr ⟨issues, rfl⟩
  rcases loaded with ⟨s, hs⟩ | ⟨issues, refused⟩
  · rw [hs]
    by_cases cyclic : s.Cyclic
    · have loop : ¬ (ofFields s.fields).Acyclic :=
        fun acyclic => FormSchema.acyclic_ofFields_iff.mp acyclic cyclic
      obtain ⟨path, cycle, refused⟩ := resolve_cyclic loop
      exact .inr (.inr ⟨s, path, rfl, cyclic, cycle, refused⟩)
    · have resolved := resolve_acyclic (FormSchema.acyclic_ofFields_iff.mpr cyclic)
      exact .inr (.inl ⟨s, rfl, cyclic, resolved⟩)
  · exact .inl ⟨issues, refused, by rw [refused]; rfl⟩

/-- The search ends within twice as many steps as there are entries, finds a cycle just if there is one,
and what it finds is a cycle. A schema is therefore refused for a cycle just if its fields, each known by
what it names where ids are distinct, depend on each other in one; and what is reported is a cycle of
them, by the id that it starts from. -/
theorem cycles_found_and_refused :
    (∀ g : DependencyGraph,
      (∀ n, 2 * g.ids.length < n → (Search.start g).proceed g n = some g.cycle?) ∧
      (g.cycle? = none ↔ g.Acyclic) ∧
      ∀ path, g.cycle? = some path → g.IsCycle path) ∧
    (∀ source : SchemaSource,
      ((∃ id path, (do resolve (← source.load)) = .error (.circularDependency id path)) ↔
        ∃ s, source.load = .ok s ∧ s.Cyclic) ∧
      ∀ id path, (do resolve (← source.load)) = .error (.circularDependency id path) →
        ∃ s, source.load = .ok s ∧ (ofFields s.fields).IsCycle path ∧
          path.IsChain s.DependsOn ∧ path.head? = some id) ∧
    ∀ s : FormSchema, s.fieldIds.Nodup → ∀ id other,
      s.DependsOn id other ↔ ∃ f ∈ s.fields, f.id = id ∧ f.Names other := by
  refine ⟨fun g => ⟨fun n enough => ?_, cycle?_eq_none_iff, fun _ => cycle?_eq_some⟩,
    fun source => ?_, fun _ distinct _ _ => FormSchema.dependsOn_iff distinct⟩
  · rw [← Search.run_start]
    exact Search.proceed_eq_run (Search.potential_start ▸ enough)
  rcases resolve_loaded_cases source with ⟨issues, unread, refused⟩ | ⟨s, loaded, cyclic, resolved⟩ |
    ⟨s, path, loaded, cyclic, cycle, refused⟩
  · rw [refused, unread]
    refine ⟨iff_of_false (by simp) (by simp), ?_⟩
    rintro _ _ ⟨⟩
  · rw [resolved, loaded]
    refine ⟨iff_of_false (by simp) ?_, ?_⟩
    · rintro ⟨_, ⟨⟩, h⟩
      exact cyclic h
    · rintro _ _ ⟨⟩
  · rw [refused]
    refine ⟨iff_of_true ⟨_, _, rfl⟩ ⟨s, loaded, cyclic⟩, ?_⟩
    rintro _ _ ⟨⟩
    have chain := cycle.chain.imp fun _ _ => FormSchema.reads_ofFields_iff.mp
    refine ⟨s, loaded, cycle, chain, ?_⟩
    cases path with
    | nil => cases cycle.long
    | cons id path => rfl

-- a reference to no field at all, and a field that names itself after another that was met
example : cycle? [("a", ["zzz", "b"]), ("c", ["b"]), ("b", ["d", "b"])] = some ["b", "b"] := by decide

end DependencyGraph

end FormEngine
