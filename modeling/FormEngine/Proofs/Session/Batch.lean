import FormEngine.Proofs.Session.Independence
import FormEngine.Proofs.Session.Restore

/-!
Changes that are committed together and changes that are committed one after the other. They come to the
same, in whatever order: a commit evaluates the dependents of what it puts in, and a later one that does
not evaluate a field again has put in nothing that the field reads. This takes an application that does not
edit the form while it is told of a change.
-/

namespace FormEngine

namespace Form

variable {host : Host} {f g h : Form}

/-- What becomes of a form that takes changes, as far as it can be seen. -/
structure Takes (host : Host) (f : Form) (changes : Table Value) (g : Form) : Prop where
  parsed : g.parsed = f.parsed
  snapshot : g.snapshot = f.snapshot
  values : g.state.values = f.state.values.merge changes
  errors : g.state.errors = changes.keys.foldl Table.drop f.state.errors
  touched : g.state.touched = f.state.touched
  fieldState : ∀ p ∈ f.parsed.fields, g.fieldState p.id =
    if p.id ∈ f.dependents changes.keys then (p.field.state host g.resolved).value
    else f.fieldState p.id
  isDirty : g.state.isDirty = !(Value.record g.state.values).equal (.record g.snapshot)
  isValid : g.state.isValid = (g.state.errors.isEmpty && g.isComplete)

namespace Takes

variable {changes more : Table Value}

theorem resolved (taken : f.Takes host changes g) : g.resolved = (f.put changes).resolved := by
  unfold Form.resolved
  rw [taken.parsed, taken.values]
  rfl

theorem keyed (taken : f.Takes host changes g) (keyed : f.Keyed) : g.Keyed where
  values := taken.values ▸ Table.nodup_keys_merge keyed.values changes
  snapshot := taken.snapshot ▸ keyed.snapshot

/-- Changes that are taken one after the other are taken as if they were taken together. -/
theorem append (sound : f.parsed.Sound) (reads : f.parsed.ReadsDependencies host)
    (first : f.Takes host changes g) (second : g.Takes host more h) :
    f.Takes host (changes ++ more) h where
  parsed := second.parsed.trans first.parsed
  snapshot := second.snapshot.trans first.snapshot
  values := by rw [second.values, first.values, Table.merge_append]
  errors := by
    rw [second.errors, first.errors, ← List.foldl_append]
    simp [Table.keys]
  touched := second.touched.trans first.touched
  fieldState p hp := by
    have keys : (changes ++ more).keys = changes.keys ++ more.keys := List.map_append
    rw [second.fieldState p (first.parsed.symm ▸ hp), first.fieldState p hp,
      dependents_congr (congrArg ParsedSchema.dependencies first.parsed), keys]
    by_cases again : p.id ∈ f.dependents more.keys
    · rw [if_pos again, if_pos (mem_dependents_append_iff.mpr (.inr again))]
    · -- what was put in last is nothing that the field reads
      have same : (p.field.state host g.resolved).value = (p.field.state host h.resolved).value := by
        refine state_congr sound reads hp fun key depends => ?_
        rw [second.resolved]
        exact (get?_resolved_put (not_mem_of_not_mem_dependents sound hp again depends)).symm
      rw [if_neg again, same]
      simp only [mem_dependents_append_iff, again, or_false]
  isDirty := second.isDirty
  isValid := second.isValid

/-- What is noted besides makes no difference. -/
theorem noted (taken : f.Takes host changes g) (journal : List Milestone)
    (generations : Table Nat) (replaced : List String) :
    f.Takes host changes { g with journal, generations, replaced } :=
  ⟨taken.parsed, taken.snapshot, taken.values, taken.errors, taken.touched, taken.fieldState,
    taken.isDirty, taken.isValid⟩

end Takes

end Form

namespace Session

variable {app : Application}

section Unchecked

variable (now : app.defers = false)

variable (unlinked : app.link = none)

end Unchecked

end Session

end FormEngine
