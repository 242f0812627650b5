import FormEngine.Proofs.Rule.Making
import FormEngine.Proofs.Schema.Cycles
import FormEngine.Proofs.Schema.Specimen
import FormEngine.Parsed

/-!
How the parsing of a schema ends. A schema that something is wrong with is refused with all that is
wrong; one that is well formed but has a cycle, with the cycle. Any other is parsed, if its rules can be
made. Where they cannot, the fault that comes up is none of the form family, so that whoever looks out
for the two refusals misses it: the rules are made last, and nothing before looks at what they are made
of.
-/

namespace FormEngine

/-- The two faults with which a schema is refused. -/
inductive Fault.RefusesSchema : Fault → Prop
  | invalid (errors : List String) : RefusesSchema (.schemaInvalid errors)
  | circular (fieldId : String) (cycle : List String) :
    RefusesSchema (.circularDependency fieldId cycle)

theorem Fault.Outside.not_refusesSchema {e : Fault} (h : e.Outside) : ¬ e.RefusesSchema := by
  intro refuses
  cases refuses <;> cases h

/-- Nothing is found wrong with a schema, which is loaded as `s`. -/
structure SchemaSource.Accepted (source : SchemaSource) (environment : Environment)
    (s : FormSchema) : Prop where
  loaded : (source.report environment).schema = some s
  valid : (source.report environment).isValid = true

/-- What nothing is found wrong with is a schema. -/
theorem SchemaSource.exists_accepted {source : SchemaSource} {environment : Environment}
    (valid : (source.report environment).isValid = true) :
    ∃ s, source.Accepted environment s := by
  have schema : (source.report environment).schema ≠ none := by
    intro missing
    cases source with
    | loaded s => cases missing
    | raw v =>
      cases v with
      | record entries =>
        unfold report Wellformed.reportRaw at missing valid
        dsimp only at missing valid
        split at missing
        · cases missing
        · next noList =>
          split at valid
          · next items list => exact noList items list
          · simp [SchemaReport.isValid] at valid
      | _ => cases valid
  obtain ⟨s, hs⟩ := Option.ne_none_iff_exists'.mp schema
  exact ⟨s, hs, valid⟩

/-- A schema whose only field takes texts in which a regular expression has a match. -/
def FormSchema.patterned (regex : String) : FormSchema :=
  .plain [{ FormField.plain "a" "text" with
    validation := some ⟨none, .null, some regex, [], [], none⟩ }]

namespace ParsedSchema

variable {environment : Environment} {source : SchemaSource} {s : FormSchema}

theorem parse_invalid (h : (source.report environment).isValid = false) :
    parse environment source = .error (.schemaInvalid (source.report environment).errors) := by
  unfold parse
  dsimp only
  rw [h]
  split
  · next valid => cases valid
  · rfl

theorem parse_accepted (h : source.Accepted environment s) :
    parse environment source = (do
      let dependencies ← DependencyGraph.resolve s
      return assemble s dependencies (← FormRules.compile s)) := by
  unfold parse
  dsimp only
  rw [h.loaded, h.valid]

theorem parse_cyclic (h : source.Accepted environment s)
    (cyclic : ¬ (DependencyGraph.ofFields s.fields).Acyclic) :
    ∃ path, (DependencyGraph.ofFields s.fields).IsCycle path ∧
      parse environment source = .error (.circularDependency (path.headD "") path) := by
  obtain ⟨path, cycle, refused⟩ := DependencyGraph.resolve_cyclic cyclic
  refine ⟨path, cycle, ?_⟩
  rw [parse_accepted h, refused]
  rfl

theorem parse_acyclic (h : source.Accepted environment s)
    (acyclic : (DependencyGraph.ofFields s.fields).Acyclic) :
    parse environment source = (do
      return assemble s (DependencyGraph.ofFields s.fields) (← FormRules.compile s)) := by
  rw [parse_accepted h, DependencyGraph.resolve_acyclic acyclic]
  rfl

/-- A schema that nothing is wrong with is parsed just if its rules can be made. -/
theorem exists_parse_iff (h : source.Accepted environment s)
    (acyclic : (DependencyGraph.ofFields s.fields).Acyclic) :
    (∃ parsed, parse environment source = .ok parsed) ↔ s.Compilable := by
  rw [parse_acyclic h acyclic, ← FormRules.exists_compile_iff]
  exact Except.exists_return_iff

/-- A schema is parsed or refused in one of the two ways just if, should it be well formed and without
cycles, its rules can be made. -/
theorem parse_refuses_only_iff (environment : Environment) (source : SchemaSource) :
    RaisesOnly Fault.RefusesSchema (parse environment source) ↔
      ∀ s, source.Accepted environment s → (DependencyGraph.ofFields s.fields).Acyclic →
        s.Compilable := by
  constructor
  · intro refuses s accepted acyclic
    rw [← exists_parse_iff accepted acyclic]
    have outside : RaisesOnly Fault.Outside (parse environment source) := by
      rw [parse_acyclic accepted acyclic]
      exact (FormRules.compile_raises s).bind fun _ => .ok _
    cases h : parse environment source with
    | ok parsed => exact ⟨parsed, rfl⟩
    | error e => exact absurd (refuses e h) (outside e h).not_refusesSchema
  · intro compiles
    cases valid : (source.report environment).isValid with
    | false =>
      rw [parse_invalid valid]
      exact .error (.invalid _)
    | true =>
      obtain ⟨s, accepted⟩ := SchemaSource.exists_accepted valid
      by_cases acyclic : (DependencyGraph.ofFields s.fields).Acyclic
      · obtain ⟨parsed, made⟩ := (exists_parse_iff accepted acyclic).mpr (compiles s accepted acyclic)
        rw [made]
        exact .ok parsed
      · obtain ⟨path, -, refused⟩ := parse_cyclic accepted acyclic
        rw [refused]
        exact .error (.circular _ path)

theorem patterned_compilable : (SchemaSource.loaded (.patterned "a+")).Accepted [] (.patterned "a+") ∧
    (DependencyGraph.ofFields (FormSchema.patterned "a+").fields).Acyclic ∧
      (FormSchema.patterned "a+").Compilable := by
  have accepted : (SchemaSource.loaded (.patterned "a+")).Accepted [] (.patterned "a+") :=
    ⟨rfl, by decide +kernel⟩
  have acyclic : (DependencyGraph.ofFields (FormSchema.patterned "a+").fields).Acyclic :=
    DependencyGraph.cycle?_eq_none_iff.mp (by decide +kernel)
  have refuses : RaisesOnly Fault.RefusesSchema (parse [] (.loaded (.patterned "a+"))) := by
    rw [FormSchema.parse_eq (by decide +kernel)]
    exact .ok _
  exact ⟨accepted, acyclic, (parse_refuses_only_iff [] _).mp refuses _ accepted acyclic⟩

/-- Nothing is found wrong with a regular expression that cannot be read, and its fault escapes. -/
theorem unreadable_pattern_escapes :
    ¬ RaisesOnly Fault.RefusesSchema (parse [] (.loaded (.patterned "("))) := by
  intro refuses
  have escaped : parse [] (.loaded (.patterned "(")) = .error .badPattern := rfl
  cases refuses _ escaped

end ParsedSchema

end FormEngine
