import FormEngine.Proofs.Table
import FormEngine.Schema.Load

/-!
Loading never fails in silence: where something cannot be loaded, at least one thing is wrong with it.
This holds of each way to read a plain value, is kept by all ways to put parts together, and so holds of
fields, however deep others are nested in them.
-/

namespace FormEngine

namespace Checked

variable {α β : Type}

/-- Not a failure without a complaint. -/
def Told (x : Checked α) : Prop := x ≠ .failed []

namespace Told

theorem ok (a : α) : (Checked.ok a).Told := by
  intro h
  cases h

theorem fail (message : String) : (Checked.fail message : Checked α).Told := by
  intro h
  cases h

theorem map {x : Checked α} {f : α → β} (h : x.Told) : (f <$> x).Told := by
  cases x with
  | ok a => exact ok (f a)
  | failed is =>
    intro silent
    cases silent
    exact h rfl

theorem seq {f : Checked (α → β)} {x : Checked α} (hf : f.Told) (hx : x.Told) :
    (f <*> x).Told := by
  cases f with
  | ok f =>
    have whole : (Checked.ok f <*> x) = f <$> x := by cases x <;> rfl
    rw [whole]
    exact hx.map
  | failed is =>
    have some : is ≠ [] := fun none => hf (congrArg failed none)
    cases x with
    | ok a =>
      intro silent
      exact some (failed.inj silent)
    | failed js =>
      intro silent
      exact some (List.append_eq_nil_iff.mp (failed.inj silent)).1

theorem under {x : Checked α} (h : x.Told) (step : PathStep) : (x.under step).Told := by
  cases x with
  | ok a => exact ok a
  | failed is =>
    intro silent
    have none : is = [] := List.map_eq_nil_iff.mp (failed.inj silent)
    exact h (congrArg failed none)

theorem items {load : α → Checked β} (h : ∀ a, (load a).Told) (n : Nat) (xs : List α) :
    (Checked.items load n xs).Told := by
  induction xs generalizing n with
  | nil => exact ok []
  | cons x xs ih => exact ((h x).under (.index n)).map.seq (ih (n + 1))

theorem entries {load : α → Checked β} (h : ∀ a, (load a).Told) (t : Table α) :
    (Checked.entries load t).Told := by
  induction t with
  | nil => exact ok []
  | cons e t ih => exact ((h e.2).under (.key e.1)).map.seq ih

end Told

end Checked

/-- A way to load values that fails on none of them in silence. -/
def Telling {α : Type} (load : Value → Checked α) : Prop := ∀ v, (load v).Told

namespace Scalar

open Checked (Told)

theorem text_telling : Telling text := by
  intro v
  unfold text
  split
  · exact .ok _
  · exact .fail _

theorem any_telling : Telling any := fun v => .ok v

theorem boolOfWord_told (s : String) : (boolOfWord s).Told := by
  unfold boolOfWord
  dsimp only
  split
  · exact .ok true
  · split
    · exact .ok false
    · exact .fail _

theorem boolOfInt_told (i : Int) : (boolOfInt i).Told := by
  unfold boolOfInt
  split
  · exact .ok false
  · split
    · exact .ok true
    · exact .fail _

theorem intOfText_told (s : String) : (intOfText s).Told := by
  unfold intOfText
  split
  · exact .ok _
  · exact .fail _
  · exact .fail _

theorem intOfFloat_told (x : Binary64) : (intOfFloat x).Told := by
  unfold intOfFloat
  split
  · exact .fail _
  · split
    · split
      · exact .ok _
      · exact .fail _
    · exact .fail _

theorem bool_telling : Telling bool := by
  intro v
  unfold bool
  dsimp only
  split
  · exact .ok _
  · split
    · exact boolOfInt_told _
    · exact .fail _
  · split
    · exact boolOfInt_told _
    · exact .fail _
  · split
    · exact boolOfWord_told _
    · exact .fail _

theorem int_telling : Telling int := by
  intro v
  unfold int
  split
  · exact .ok _
  · exact .ok _
  · exact intOfFloat_told _
  · split
    · exact intOfText_told _
    · exact .fail _

theorem floatOfInt_told (i : Int) : (floatOfInt i).Told := by
  unfold floatOfInt
  dsimp only
  split
  · exact .ok _
  · exact .fail _

theorem float_telling : Telling float := by
  intro v
  unfold float
  split
  · exact .ok _
  · exact floatOfInt_told _
  · exact .ok _
  · split
    · split
      · exact .ok _
      · exact .fail _
    · exact .fail _

variable {α : Type} {load : Value → Checked α}

theorem listOf_telling (h : Telling load) : Telling (listOf load) := by
  intro v
  unfold listOf
  split
  · exact .items h 0 _
  · exact .fail _

theorem recordOf_telling (h : Telling load) : Telling (recordOf load) := by
  intro v
  unfold recordOf
  split
  · exact .entries h _
  · exact .fail _

theorem word_telling (choices : List α) (wordOf : α → String) : Telling (word choices wordOf) := by
  intro v
  unfold word
  split
  · exact .ok _
  · exact .fail _

theorem optional_telling (h : Telling load) : Telling (optional load) := by
  intro v
  unfold optional
  split
  · exact .ok none
  · exact (h v).map

end Scalar

namespace Load

open Checked (Told)
open Scalar

variable {α : Type} {load : Value → Checked α}

theorem among_told (entries : Table Value) (keys : List String) (missing : α)
    (h : Telling load) : (among entries keys missing load).Told := by
  unfold among
  split
  · next key v _ => exact (h v).under (.key key)
  · exact .ok missing

theorem entry_told (entries : Table Value) (name : String) (missing : α) (h : Telling load) :
    (entry entries name missing load).Told :=
  among_told entries (spellings name) missing h

theorem optional_told (entries : Table Value) (name : String) (h : Telling load) :
    (optional entries name load).Told :=
  entry_told entries name none (Scalar.optional_telling h)

theorem required_told (entries : Table Value) (name : String) (h : Telling load) :
    (required entries name load).Told := by
  unfold required
  split
  · next key v _ => exact (h v).under (.key key)
  · exact (Told.fail _).under (.key _)

theorem record_telling {kind : String} {load : Table Value → Checked α}
    (h : ∀ entries, (load entries).Told) : Telling (record kind load) := by
  intro v
  unfold record
  split
  · exact h _
  · exact .fail _

theorem callable_telling : Telling callable := by
  intro v
  unfold callable
  split
  · exact .ok _
  · exact .fail _

theorem texts_telling : Telling texts := Scalar.listOf_telling Scalar.text_telling

theorem selectOption_telling : Telling selectOption := by
  intro v
  unfold selectOption
  dsimp only
  split
  · exact .fail _
  · next entries _ =>
    exact (required_told entries _ text_telling).map
      |>.seq (required_told entries _ any_telling)
      |>.seq (entry_told entries _ _ bool_telling)
      |>.seq (optional_told entries _ text_telling)
      |>.seq (optional_told entries _ text_telling)
      |>.seq (optional_told entries _ text_telling)

theorem choices_telling : Telling choices := by
  intro v
  unfold choices
  split
  · exact .ok _
  · exact .ok _
  · next is _ fixed dynamic =>
    have told : is ≠ [] := by
      rintro rfl
      exact listOf_telling selectOption_telling v fixed
    intro silent
    have none := (List.append_eq_nil_iff.mp (Checked.failed.inj silent)).1
    exact told (List.map_eq_nil_iff.mp none)

theorem operatorWord_telling : Telling operatorWord := by
  intro v
  exact (Scalar.optional_telling text_telling v).map

theorem conditionalRule_telling : Telling conditionalRule := by
  refine record_telling fun entries => ?_
  exact (entry_told entries _ _ text_telling).map
    |>.seq (entry_told entries _ _ operatorWord_telling)
    |>.seq (entry_told entries _ _ any_telling)
    |>.seq (among_told entries _ _ (optional_telling callable_telling))

theorem conditions_telling : Telling conditions := by
  refine record_telling fun entries => ?_
  have rules (e : Effect) := optional_told entries e.word (listOf_telling conditionalRule_telling)
  exact (rules .shows).map |>.seq (rules .hides) |>.seq (rules .enables) |>.seq (rules .disables)
    |>.seq (rules .requires)

theorem customRule_telling : Telling customRule := by
  refine record_telling fun entries => ?_
  exact (required_told entries _ text_telling).map
    |>.seq (required_told entries _ text_telling)
    |>.seq (required_told entries _ callable_telling)

theorem asyncRule_telling : Telling asyncRule := by
  refine record_telling fun entries => ?_
  exact (required_told entries _ text_telling).map
    |>.seq (required_told entries _ text_telling)
    |>.seq (required_told entries _ callable_telling)
    |>.seq (optional_told entries _ int_telling)

theorem fieldValidation_telling : Telling fieldValidation := by
  refine record_telling fun entries => ?_
  exact (optional_told entries _ bool_telling).map
    |>.seq (entry_told entries _ _ any_telling)
    |>.seq (optional_told entries _ text_telling)
    |>.seq (entry_told entries _ _ (listOf_telling customRule_telling))
    |>.seq (among_told entries _ _ (listOf_telling asyncRule_telling))
    |>.seq (optional_told entries _ int_telling)

/-- No nested field failed to load in silence. -/
structure Nested.Told (nested : Nested) : Prop where
  item : ∀ e ∈ nested.items, e.2.Told
  group : ∀ e ∈ nested.groups, e.2.Told

theorem find?_mem {entries : Table α} {keys : List String} {e : String × α}
    (h : find? entries keys = some e) : e ∈ entries := by
  induction keys with
  | nil => cases h
  | cons key keys ih =>
    unfold find? at h
    split at h
    · next v hv =>
      cases h
      exact Table.mem_of_get? hv
    · exact ih h

theorem nestedAttribute_told {loaded : Table (Checked (Option α))} (name : String)
    (h : ∀ e ∈ loaded, e.2.Told) : (nestedAttribute loaded name).Told := by
  unfold nestedAttribute
  split
  · next key x found => exact (h _ (find?_mem found)).under (.key key)
  · exact .ok none

theorem assembleField_told (entries : Table Value) {nested : Nested} (h : nested.Told) :
    (assembleField entries nested).Told := by
  exact (entry_told entries _ _ text_telling).map
    |>.seq (entry_told entries _ _ text_telling)
    |>.seq (entry_told entries _ _ text_telling)
    |>.seq (optional_told entries _ text_telling)
    |>.seq (optional_told entries _ text_telling)
    |>.seq (entry_told entries _ _ bool_telling)
    |>.seq (entry_told entries _ _ bool_telling)
    |>.seq (entry_told entries _ _ bool_telling)
    |>.seq (entry_told entries _ _ any_telling)
    |>.seq (optional_told entries _ fieldValidation_telling)
    |>.seq (optional_told entries _ conditions_telling)
    |>.seq (optional_told entries _ choices_telling)
    |>.seq (optional_told entries _ float_telling)
    |>.seq (optional_told entries _ float_telling)
    |>.seq (optional_told entries _ float_telling)
    |>.seq (optional_told entries _ int_telling)
    |>.seq (optional_told entries _ int_telling)
    |>.seq (optional_told entries _ int_telling)
    |>.seq (optional_told entries _ int_telling)
    |>.seq (optional_told entries _ int_telling)
    |>.seq (optional_told entries _ int_telling)
    |>.seq (nestedAttribute_told _ h.item)
    |>.seq (nestedAttribute_told _ h.group)
    |>.seq (optional_told entries _ texts_telling)
    |>.seq (optional_told entries _ bool_telling)
    |>.seq (optional_told entries _ text_telling)
    |>.seq (optional_told entries _ (recordOf_telling any_telling))

mutual

theorem formFieldWithin_told : (level : Nat) → (v : Value) → (formFieldWithin level v).Told
  | 0, v => by
    unfold formFieldWithin
    exact .fail _
  | level + 1, .record entries => assembleField_told entries (nestedFields_told level entries)
  | _ + 1, .entity kind _ description => by
    cases kind with
    | field => exact formFieldWithin_told deepest description
    | _ => exact .fail _
  | _ + 1, .null | _ + 1, .bool _ | _ + 1, .int _ | _ + 1, .float _ | _ + 1, .str _
  | _ + 1, .list _ | _ + 1, .tuple _ | _ + 1, .set _ | _ + 1, .mapping _ | _ + 1, .name .. =>
    .fail _

theorem formFieldList_told : (level : Nat) → (v : Value) → (formFieldList level v).Told
  | level, .list xs | level, .tuple xs | level, .set xs => formFieldItems_told level 0 xs
  | _, .null | _, .bool _ | _, .int _ | _, .float _ | _, .str _ | _, .record _ | _, .mapping _
  | _, .name .. | _, .entity .. => .fail _

theorem formFieldItems_told : (level n : Nat) → (xs : List Value) →
    (formFieldItems level n xs).Told
  | _, _, [] => .ok []
  | level, n, x :: xs =>
    ((formFieldWithin_told level x).under (.index n)).map.seq (formFieldItems_told level (n + 1) xs)

theorem nestedFields_told : (level : Nat) → (es : List (String × Value)) →
    (nestedFields level es).Told
  | _, [] => ⟨by simp [nestedFields], by simp [nestedFields]⟩
  | level, e :: es => nestedField_told level e (nestedFields_told level es)

theorem nestedField_told : (level : Nat) → (e : String × Value) → {nested : Nested} → nested.Told →
    (nestedField level e nested).Told
  | level, (key, v), nested, h => by
    have item := (formFieldWithin_told level v).map (f := some)
    have group := (formFieldList_told level v).map (f := some)
    unfold nestedField
    split
    · refine ⟨List.forall_mem_cons.mpr ⟨?_, h.item⟩, h.group⟩
      dsimp only
      split
      · exact .ok none
      · exact item
    · split
      · refine ⟨h.item, List.forall_mem_cons.mpr ⟨?_, h.group⟩⟩
        dsimp only
        split
        · exact .ok none
        · exact group
      · exact h

end

/-- Of a field that cannot be loaded something is said. -/
theorem formField_telling : Telling formField := formFieldWithin_told deepest

theorem formRule_telling : Telling formRule := by
  refine record_telling fun entries => ?_
  exact (required_told entries _ text_telling).map
    |>.seq (required_told entries _ text_telling)
    |>.seq (required_told entries _ callable_telling)
    |>.seq (entry_told entries _ _ texts_telling)

theorem globalValidation_telling : Telling globalValidation := by
  refine record_telling fun entries => ?_
  exact (entry_told entries _ _ any_telling).map
    |>.seq (entry_told entries _ _ (listOf_telling formRule_telling))
    |>.seq (entry_told entries _ _ bool_telling)
    |>.seq (entry_told entries _ _ bool_telling)
    |>.seq (entry_told entries _ _ bool_telling)

theorem layout_telling : Telling layout := by
  refine record_telling fun entries => ?_
  exact (entry_told entries _ _ (word_telling _ _)).map
    |>.seq (optional_told entries _ int_telling)
    |>.seq (optional_told entries _ int_telling)

theorem behavior_telling : Telling behavior := by
  refine record_telling fun entries => ?_
  exact (entry_told entries _ _ bool_telling).map
    |>.seq (optional_told entries _ int_telling)
    |>.seq (entry_told entries _ _ bool_telling)
    |>.seq (entry_told entries _ _ bool_telling)
    |>.seq (entry_told entries _ _ bool_telling)

/-- Of a schema that cannot be loaded something is said. -/
theorem formSchema_telling : Telling formSchema := by
  refine record_telling fun entries => ?_
  exact (entry_told entries _ _ text_telling).map
    |>.seq (optional_told entries _ text_telling)
    |>.seq (optional_told entries _ text_telling)
    |>.seq (entry_told entries _ _ (formFieldList_told deepest))
    |>.seq (optional_told entries _ globalValidation_telling)
    |>.seq (optional_told entries _ layout_telling)
    |>.seq (optional_told entries _ behavior_telling)

/-- A field that is loaded already is read as its description. -/
theorem formField_entity (key : Nat) (description : Value) :
    formField (.entity .field key description) = formField description := by
  unfold formField
  conv => lhs; unfold deepest
  rw [formFieldWithin]

theorem formField_other {v : Value} (record : ∀ entries, v = .record entries → False)
    (loaded : ∀ key description, v = .entity .field key description → False) :
    formField v = .fail "Input should be a valid dictionary or instance of FormField" := by
  unfold formField deepest
  rw [formFieldWithin]
  · exact record
  · exact loaded

end Load

end FormEngine
