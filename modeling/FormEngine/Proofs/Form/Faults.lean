import FormEngine.Proofs.Form.Twin
import FormEngine.Proofs.Rule.Presence

/-!
Which faults come out of the checks of a form. A function that is asked for a yes or a no makes no check
fail, and a rule that is derived from the type of a field fails with no value at all. What is left are the
rules that a schema gives explicitly: a function that raises, a type without a meaning, and a test that
cannot be made of a value.
-/

namespace FormEngine

theorem Reading.pairs_raises {p : Fault → Prop} {readKey read : Value → Reading}
    (key : ∀ v, RaisesOnly p (readKey v)) (value : ∀ v, RaisesOnly p (read v)) (least most : Option Nat)
    (entries : List (Value × Value)) : RaisesOnly p (pairs readKey read least most entries) := by
  have each (e : Value × Value) : RaisesOnly p (pair readKey read e) :=
    (key e.1).bind fun _ => (value e.2).bind fun _ => .ok _
  refine (RaisesOnly.mapM fun e _ => each e).bind fun readings => ?_
  dsimp only
  split
  · exact .ok _
  · split <;> exact .ok _

/-- Whether a record has texts for keys is told of every value. -/
theorem Datatype.read_record_raises (v : Value) :
    RaisesOnly (fun _ => False) ((recordOf plainText .anything).read v) := by
  have text (v : Value) : RaisesOnly (fun _ => False) (plainText.read v) := by
    unfold plainText
    rw [Datatype.read]
    split <;> exact .ok _
  have anything (v : Value) : RaisesOnly (fun _ => False) (Datatype.anything.read v) := by
    rw [Datatype.read]
    exact .ok _
  unfold recordOf
  rw [Datatype.read]
  split
  · exact .ok _
  · exact Reading.pairs_raises text anything none none _

/-- A rule that is given explicitly raises a fault at some value. -/
structure FieldRule.Raises (host : Host) (r : FieldRule) (e : Fault) : Prop where
  explicit : ∃ x, r.shape = .explicit x
  found : ∃ v, (r.violations host v).value = .error e

/-- Only shapes that are given explicitly cannot be held against a value. -/
theorem Shape.explicit_of_fault {host : Host} {shape : Shape} {v : Value} {e : Fault}
    (h : ((shape.verdict v).settle host).value = .error e) : ∃ x, shape = .explicit x := by
  have said (message : Option String) : ((Verdict.sayIf message).settle host).value ≠ .error e := by
    cases message <;> exact fun h => by cases h
  unfold verdict at h
  split at h
  · cases h
  · split at h
    · exact absurd h (said _)
    · cases h
  · split at h
    · exact absurd h (said _)
    · cases h
  · split at h <;> cases h
  · cases h
  · exact absurd h (said _)
  · exact absurd h (said _)
  · exact absurd h (said _)
  · exact absurd h (said _)
  · have raised := Datatype.read_record_raises v
    cases hr : (Datatype.recordOf Datatype.plainText .anything).read v with
    | ok checked =>
      rw [hr] at h
      cases h
    | error e' => exact (raised e' hr).elim
  · exact ⟨_, rfl⟩

theorem FieldRule.raises_of_violations {host : Host} {r : FieldRule} {v : Value} {e : Fault}
    (h : (r.violations host v).value = .error e) : r.Raises host e := by
  refine ⟨?_, v, h⟩
  unfold violations at h
  rw [verdict_eq] at h
  split at h
  · split at h <;> cases h
  · exact Shape.explicit_of_fault h

/-- A fault of one of the rules of a schema. -/
def ParsedSchema.Raises (host : Host) (s : ParsedSchema) (e : Fault) : Prop :=
  ∃ r ∈ s.compiledRules, r.Raises host e

namespace Form

variable {host : Host}

theorem compiledRules_amend (f : Form) (id : String) (v : Value) :
    (f.amend id v).parsed.compiledRules = f.parsed.compiledRules := by
  unfold amend
  split
  · rfl
  · exact ParsedSchema.compiledRules_withDefault f.parsed id v

theorem Amended.compiledRules {ps : List ParsedField} {f g : Form} (h : Amended host ps f g) :
    g.parsed.compiledRules = f.parsed.compiledRules := by
  induction h with
  | refl => rfl
  | amend p r v _ _ _ _ ih => rw [compiledRules_amend, ih]

section Checks

variable {f : Form} {p : ParsedField}

theorem valueComplaints_raises (v : Value) :
    RaisesOnly (fun e => ∃ r, p.rule = some r ∧ r.Raises host e)
      (f.valueComplaints host p v).value.2 := by
  unfold valueComplaints
  cases hr : p.rule with
  | none => exact .ok _
  | some r =>
    have checked : (r.check host v).value = ((r.violations host v).value).map fun found =>
      FieldRule.distinct (found.map Issue.message) := rfl
    dsimp only
    rw [Logged.value_bind, checked]
    cases hv : (r.violations host v).value with
    | error e => exact .error ⟨r, rfl, FieldRule.raises_of_violations hv⟩
    | ok found => exact .ok _

theorem fieldComplaints_raises :
    RaisesOnly (fun e => ∃ r, p.rule = some r ∧ r.Raises host e)
      (f.fieldComplaints host p).value.2 := by
  unfold fieldComplaints
  dsimp only
  split
  · exact .ok _
  · split
    · exact .ok _
    · exact valueComplaints_raises _

theorem mem_compiledRules {s : ParsedSchema} {p : ParsedField} (hp : p ∈ s.fields) {r : FieldRule}
    (hr : p.rule = some r) : r ∈ s.compiledRules :=
  List.mem_append_right _ (List.mem_filterMap.mpr ⟨p, hp, hr⟩)

variable (host f)

theorem complaintsAt_raises (id : String) :
    RaisesOnly (f.parsed.Raises host) (f.complaintsAt host id).value.2 := by
  unfold complaintsAt
  split
  · next p hp =>
    intro e h
    obtain ⟨r, hr, raises⟩ := fieldComplaints_raises e h
    exact ⟨r, mem_compiledRules (List.mem_of_find?_eq_some hp) hr, raises⟩
  · exact .ok _

/-- The first field that cannot be checked ends it. -/
theorem fieldsComplaints_raises (ps : List ParsedField) :
    RaisesOnly (fun e => ∃ p ∈ ps, ∃ r, p.rule = some r ∧ r.Raises host e)
      (f.fieldsComplaints host ps).value.2 := by
  induction ps generalizing f with
  | nil => exact .ok _
  | cons p ps ih =>
    have first : RaisesOnly _ (f.fieldComplaints host p).value.2 := fieldComplaints_raises
    unfold fieldsComplaints
    rw [Logged.value_bind]
    split
    · next g e h =>
      rw [h] at first
      exact .error ⟨p, List.mem_cons_self, first e rfl⟩
    · next g messages h =>
      refine (ih g).map.mono ?_
      rintro e ⟨q, hq, raises⟩
      exact ⟨q, List.mem_cons_of_mem p hq, raises⟩

/-- The rule of the form is what fails; its functions are asked for a yes or a no. -/
theorem formComplaints_raises : RaisesOnly (f.parsed.Raises host) (f.formComplaints host).value := by
  have ruled (values : Table Value) :
      RaisesOnly (f.parsed.Raises host) (f.ruleComplaints host values).value := by
    unfold ruleComplaints
    cases hr : f.parsed.rules.globalRule with
    | none => exact .ok _
    | some r =>
      have violated : RaisesOnly (f.parsed.Raises host) (r.violations host (.record values)).value :=
        fun e h => ⟨r, List.mem_append_left _ (by simp [hr]), FieldRule.raises_of_violations h⟩
      exact violated.map
  have failed := ruled f.resolved
  unfold formComplaints
  dsimp only
  rw [Logged.value_bind]
  split
  · next e h =>
    rw [h] at failed
    exact .error (failed e rfl)
  · exact .ok _

theorem complaints_raises : RaisesOnly (f.parsed.Raises host) (f.complaints host).value.2 := by
  have fields : RaisesOnly (f.parsed.Raises host) (f.fieldsComplaints host f.parsed.fields).value.2 :=
    (fieldsComplaints_raises host f f.parsed.fields).mono
      fun _ ⟨_, hp, r, hr, raises⟩ => ⟨r, mem_compiledRules hp hr, raises⟩
  have amended : Amended host f.parsed.fields f (f.fieldsComplaints host f.parsed.fields).value.1 :=
    fieldsComplaints_amended f.parsed.fields .refl fun _ h => h
  unfold complaints
  rw [Logged.value_bind]
  split
  · next g e h =>
    rw [h] at fields
    exact .error (fields e rfl)
  · next g found h =>
    rw [h] at amended
    have whole := formComplaints_raises host g
    unfold ParsedSchema.Raises at whole ⊢
    rw [amended.compiledRules] at whole
    exact whole.map

theorem recheck_raises (id : String) :
    RaisesOnly (f.parsed.Raises host) (f.recheck host id).value.2 := by
  have checked := complaintsAt_raises host f id
  unfold recheck
  rw [Logged.value_bind]
  split
  next g outcome h =>
    rw [h] at checked
    split
    · next e => exact .error (checked e rfl)
    · exact .ok _

end Checks

end Form

end FormEngine
