import FormEngine.Schema.Model
import FormEngine.Fault

/-!
Dependencies between fields: which fields a field reads, the graph of a whole form, its reverse, and
the search for a cycle. The search walks from each field along the dependencies, depth first, and
stops at the first edge back to a field on its own path.
-/

namespace FormEngine

/-- For each field that has some, the distinct fields it reads, in order. -/
abbrev DependencyGraph := Table (List String)

/-- Each text that is not empty once, where it first stands. -/
def distinctIds (ids : List String) : List String :=
  ids.foldl (fun kept id => if id.isEmpty || kept.contains id then kept else kept ++ [id]) []

namespace FieldAttributes

/-- The fields that conditions refer to, then those that options depend on. -/
def dependencies (f : FieldAttributes) : List String :=
  distinctIds (f.conditionalRules.map (fun r => r.field) ++ f.optionDependencies)

end FieldAttributes

namespace DependencyGraph

def dependenciesOf (g : DependencyGraph) (id : String) : List String := (g.get? id).getD []

def ofFields (fields : List FormField) : DependencyGraph :=
  Table.ofEntries ((fields.map fun f => (f.id, f.dependencies)).filter fun e => !e.2.isEmpty)

/-- The graph of lists that the host made; a null ends a list. -/
def ofLists (lists : List (String × List Value)) : DependencyGraph :=
  Table.ofEntries (lists.map fun e =>
    (e.1, (e.2.takeWhile fun v => !v.isNull).filterMap Value.text?))

/-- Every id that occurs in the graph. -/
def ids (g : DependencyGraph) : List String := g.flatMap fun e => e.1 :: e.2

/-- Walks on from an id that the last id on the path depends on; the ids met so far are returned,
unless a cycle is found. The path grows with each step, so the number of ids bounds its length. -/
def walk (g : DependencyGraph) : Nat → List String → List String → String →
    Except (List String) (List String)
  | 0, _, met, _ => .ok met
  | fuel + 1, path, met, id =>
    if path.contains id then .error (path.dropWhile (· != id) ++ [id])
    else if met.contains id then .ok met
    else (g.dependenciesOf id).foldlM (walk g fuel (path ++ [id])) (id :: met)

/-- A cycle as a path whose first id is repeated at the end, if there is one. -/
def cycle? (g : DependencyGraph) : Option (List String) :=
  match g.keys.foldlM (walk g (g.ids.length + 1) []) [] with
  | .error path => some path
  | .ok _ => none

/-- Adds to the list of a key, which is made if it is new. -/
def append (g : DependencyGraph) (key id : String) : DependencyGraph :=
  g.put key (g.dependenciesOf key ++ [id])

/-- For each id that some field depends on, those fields, in the order of the graph. -/
def dependents (g : DependencyGraph) : DependencyGraph :=
  g.foldl (fun r e => e.2.foldl (fun r id => append r id e.1) r) []

/-- The graph of a form, which must have no cycle. -/
def resolve (s : FormSchema) : Except Fault DependencyGraph :=
  let g := ofFields s.fields
  match cycle? g with
  | some path => .error (.circular (path.headD "") path)
  | none => .ok g

end DependencyGraph

end FormEngine
