import FormEngine.Proofs.Form.Fresh
import FormEngine.Proofs.Schema.Specimen

/-!
What the conditions of a field read. Its dependencies are the ids that its rules and its options refer
to, each once and in the order in which they are first met; values that differ elsewhere make no
difference to the state of the field.
-/

namespace FormEngine

/-- The rules of all five lists, in the order in which they are evaluated. -/
def Conditions.inOrder (c : Conditions) : List ConditionalRule :=
  c.shows.getD [] ++ c.hides.getD [] ++ c.enables.getD [] ++ c.disables.getD [] ++ c.requires.getD []

namespace FieldAttributes

/-- The ids that the options of a selection depend on, if these are looked up. -/
def optionReferences (f : FieldAttributes) : List String :=
  match f.options with
  | some (.dynamic d) =>
    if f.type = FieldType.select.tag ∨ f.type = FieldType.multiselect.tag then d.dependencies else []
  | _ => []

/-- Every id to which a field refers as often as it does: in its rules, then in its options. -/
def references (f : FieldAttributes) : List String :=
  (f.conditional.elim [] Conditions.inOrder).map ConditionalRule.field ++ f.optionReferences

theorem conditionalRules_eq (f : FieldAttributes) :
    f.conditionalRules = f.conditional.elim [] Conditions.inOrder := by
  unfold conditionalRules
  cases f.conditional with
  | none => rfl
  | some c => simp [Conditions.allRules, Conditions.inOrder, Effect.all, Conditions.rules]

theorem optionDependencies_eq (f : FieldAttributes) : f.optionDependencies = f.optionReferences := by
  unfold optionDependencies optionReferences FieldType.isSelection
  simp only [Bool.or_eq_true, beq_iff_eq]
  cases f.options with
  | none => simp
  | some choices =>
    cases choices with
    | fixed options => simp
    | dynamic d => rfl

theorem dependencies_eq (f : FieldAttributes) : f.dependencies = distinctIds f.references := by
  unfold dependencies references
  rw [conditionalRules_eq, optionDependencies_eq]

/-- The dependencies of a field are the ids to which its rules and its options refer, the empty one left
out, each once and in the order in which they first stand. Where every rule names a field and no predicate
reads its second argument, nothing else that the values hold has a part in the state of the field; a
missing value counts as null. -/
theorem dependencies_cover (host : Host) (f : FieldAttributes) :
    f.dependencies.Nodup ∧
    (∀ id, id ∈ f.dependencies ↔ id ≠ "" ∧ id ∈ f.references) ∧
    (f.dependencies.Pairwise fun a b => f.references.idxOf a < f.references.idxOf b) ∧
    ((∀ r ∈ f.conditional.elim [] Conditions.inOrder, r.field ≠ "" ∧ r.IsLocal host) →
      ∀ values others : Table Value,
        (∀ id ∈ f.dependencies, Value.entry values id = Value.entry others id) →
          (f.state host values).value = (f.state host others).value) := by
  have ordered := distinctIds_firstSeen f.references
  rw [← dependencies_eq] at ordered
  refine ⟨ordered.imp fun earlier same => ?_, fun id => ?_, ordered, ?_⟩
  · rw [same] at earlier
    exact Nat.lt_irrefl _ earlier
  · rw [dependencies_eq]
    exact mem_distinctIds_iff
  · intro reads values others same
    refine state_of_evaluated fun r hr => ?_
    have ⟨named, isLocal⟩ := reads r (f.conditionalRules_eq ▸ hr)
    exact isLocal.evaluate_congr (same _ (mem_dependencies hr named))

/-- A host whose functions return what they are given first. -/
def echoingHost : Host where
  run _ arguments := { outcome := .ok (arguments.headD .null) }
  delay _ _ := .zero false

/-- A selection that is hidden by one field, shown by a predicate on another, and offers what depends on
a third and the first. -/
def offered : FieldAttributes :=
  { FormField.plain "s" "select" with
    conditional := some ⟨some [⟨"b", some "custom", .null, some ⟨.function, 0, .null⟩⟩],
      some [⟨"a", some "is_empty", .null, none⟩], none, none, none⟩
    options := some (.dynamic ⟨.api, some "u", .get, [], [], none, none, none, ["c", "", "a"], true,
      none, 300000, 0, 1000⟩) }

theorem offered_covered :
    offered.dependencies = ["b", "a", "c"] ∧
      (offered.state echoingHost [("b", .bool true), ("a", .int 1), ("d", .int 2)]).value =
        (offered.state echoingHost [("a", .int 1), ("c", .null), ("b", .bool true)]).value := by
  have listed : offered.dependencies = ["b", "a", "c"] := by decide +kernel
  have reads : ∀ r ∈ offered.conditional.elim [] Conditions.inOrder,
      r.field ≠ "" ∧ r.IsLocal echoingHost := by
    intro r hr
    refine ⟨?_, fun g _ actual _ _ => ?_⟩
    · have named : ∀ r ∈ offered.conditional.elim [] Conditions.inOrder, r.field ≠ "" := by
        simp [offered, Conditions.inOrder]
      exact named r hr
    · unfold Host.reply
      split <;> rfl
  refine ⟨listed, (dependencies_cover echoingHost offered).2.2.2 reads _ _ ?_⟩
  rw [listed]
  simp [Value.entry, Table.get?_cons]

end FieldAttributes

end FormEngine
