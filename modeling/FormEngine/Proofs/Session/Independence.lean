import FormEngine.Proofs.Session.Display
import FormEngine.Proofs.Session.Verdict

/-!
What is made of a form depends on its values, not on how they came about. This takes predicates that read
no values but those on which their field depends: a commit evaluates the dependents of what was put in,
so that a predicate that reads another value is not asked again when that one changes.
-/

namespace FormEngine

namespace Form

variable {host : Host} {f g : Form}

/-- There is a state for each field. -/
theorem Integral.get?_fieldStates (integral : f.Integral host) {p : ParsedField}
    (hp : p ∈ f.parsed.fields) : f.fieldStates.get? p.id = some (f.fieldState p.id) := by
  have known : p.id ∈ f.fieldStates.keys := by
    rw [integral.states]
    exact List.mem_map.mpr ⟨p, hp, rfl⟩
  rw [Table.mem_keys, Table.has, Option.isSome_iff_exists] at known
  obtain ⟨state, there⟩ := known
  unfold fieldState
  rw [there]
  rfl

/-- Forms that agree show the same fields. -/
theorem Agrees.visibleFields (agrees : f.Agrees host g) : g.visibleFields = f.visibleFields := by
  unfold Form.visibleFields
  rw [agrees.parsed]
  refine congrArg _ (List.filter_congr fun p hp => ?_)
  unfold isVisible
  rw [agrees.fieldState p hp]

/-- And they show them enabled and required alike. -/
theorem Agrees.props (agrees : f.Agrees host g) (integral : f.Integral host)
    (integral' : g.Integral host) {field : FormField} (h : field ∈ f.visibleFields)
    (disabled : Bool) :
    ((g.context disabled).propsOf field).disabled = ((f.context disabled).propsOf field).disabled ∧
      ((g.context disabled).propsOf field).required =
        ((f.context disabled).propsOf field).required := by
  obtain ⟨p, hp, rfl⟩ := List.mem_map.mp h
  have hp := (List.mem_filter.mp hp).1
  have same : (g.context disabled).states.get? p.field.id =
      (f.context disabled).states.get? p.field.id := by
    refine (integral'.get?_fieldStates (agrees.parsed.symm ▸ hp)).trans ?_
    rw [agrees.fieldState p hp]
    exact (integral.get?_fieldStates hp).symm
  unfold RenderContext.propsOf
  rw [same]
  exact ⟨rfl, rfl⟩

end Form

namespace Session

variable {app : Application}

end Session

end FormEngine
