import FormEngine.Proofs.Schema.Specimen
import FormEngine.Render.Script
import Mathlib.Data.List.Forall2

/-!
A failure of a renderer stays with its field. What comes of one field depends on the renderer for its
type alone, whatever becomes of the others and whoever is told: one node for each field, in order, and
one word to the observer for each that failed.
-/

namespace FormEngine

namespace FieldRenderer

/-- A renderer makes a node of the inputs: a function by giving it back, a class by way of a component
that is drawn. -/
inductive Makes : FieldRenderer → FieldProps → Node → Prop
  | function {draw : FieldProps → Except Fault Rendered} {p : FieldProps} {n : Node}
      (given : draw p = .ok (.node n)) : Makes (.function draw) p n
  | component {construct : FieldProps → Except Fault (Unit → Except Fault Rendered)}
      {p : FieldProps} {draw : Unit → Except Fault Rendered} {n : Node}
      (constructed : construct p = .ok draw) (given : draw () = .ok (.node n)) :
      Makes (.component construct) p n

/-- The ways in which a renderer fails: a function raises or gives back no node; a component cannot be
constructed, or fails like a function when it is drawn. -/
inductive Fails : FieldRenderer → FieldProps → Fault → Prop
  | raises {draw : FieldProps → Except Fault Rendered} {p : FieldProps} {e : Fault}
      (raised : draw p = .error e) : Fails (.function draw) p e
  | gives {draw : FieldProps → Except Fault Rendered} {p : FieldProps} {v : Value}
      (given : draw p = .ok (.other v)) : Fails (.function draw) p (notANode p.field.type v)
  | unmade {construct : FieldProps → Except Fault (Unit → Except Fault Rendered)}
      {p : FieldProps} {e : Fault} (raised : construct p = .error e) :
      Fails (.component construct) p e
  | undrawn {construct : FieldProps → Except Fault (Unit → Except Fault Rendered)}
      {p : FieldProps} {draw : Unit → Except Fault Rendered} {e : Fault}
      (constructed : construct p = .ok draw) (raised : draw () = .error e) :
      Fails (.component construct) p e
  | draws {construct : FieldProps → Except Fault (Unit → Except Fault Rendered)}
      {p : FieldProps} {draw : Unit → Except Fault Rendered} {v : Value}
      (constructed : construct p = .ok draw) (given : draw () = .ok (.other v)) :
      Fails (.component construct) p (notANode p.field.type v)

variable {r : FieldRenderer} {p : FieldProps}

/-- There is no third way. -/
theorem makes_or_fails (r : FieldRenderer) (p : FieldProps) :
    (∃ n, r.Makes p n) ∨ ∃ e, r.Fails p e := by
  cases r with
  | function draw =>
    cases drawn : draw p with
    | error e => exact .inr ⟨e, .raises drawn⟩
    | ok given =>
      cases given with
      | node n => exact .inl ⟨n, .function drawn⟩
      | other v => exact .inr ⟨_, .gives drawn⟩
  | component construct =>
    cases constructed : construct p with
    | error e => exact .inr ⟨e, .unmade constructed⟩
    | ok draw =>
      cases drawn : draw () with
      | error e => exact .inr ⟨e, .undrawn constructed drawn⟩
      | ok given =>
        cases given with
        | node n => exact .inl ⟨n, .component constructed drawn⟩
        | other v => exact .inr ⟨_, .draws constructed drawn⟩

theorem draw_component {construct : FieldProps → Except Fault (Unit → Except Fault Rendered)}
    {draw : Unit → Except Fault Rendered} (h : construct p = .ok draw) :
    (component construct).draw p = draw () := by
  unfold FieldRenderer.draw
  dsimp only
  rw [h]
  rfl

theorem nodeOf_of_node {n : Node} (h : r.draw p = .ok (.node n)) : r.nodeOf p = .ok n := by
  unfold nodeOf
  rw [h]
  rfl

theorem nodeOf_of_other {v : Value} (h : r.draw p = .ok (.other v)) :
    r.nodeOf p = .error (notANode p.field.type v) := by
  unfold nodeOf
  rw [h]
  rfl

theorem nodeOf_of_error {e : Fault} (h : r.draw p = .error e) : r.nodeOf p = .error e := by
  unfold nodeOf
  rw [h]
  rfl

theorem Makes.nodeOf_eq {n : Node} (h : r.Makes p n) : r.nodeOf p = .ok n := by
  cases h with
  | function given => exact nodeOf_of_node given
  | component constructed given => exact nodeOf_of_node ((draw_component constructed).trans given)

theorem Fails.nodeOf_eq {e : Fault} (h : r.Fails p e) : r.nodeOf p = .error e := by
  cases h with
  | raises raised => exact nodeOf_of_error raised
  | gives given => exact nodeOf_of_other given
  | unmade raised =>
    refine nodeOf_of_error ?_
    unfold FieldRenderer.draw
    dsimp only
    rw [raised]
    rfl
  | undrawn constructed raised =>
    exact nodeOf_of_error ((draw_component constructed).trans raised)
  | draws constructed given => exact nodeOf_of_other ((draw_component constructed).trans given)

end FieldRenderer

/-- A node of a kind that carries the id and the type of a field. -/
structure Node.StandsFor (n : Node) (kind : String) (f : FormField) : Prop where
  kind : n.kind = kind
  fieldId : n.fieldId = f.id
  fieldType : n.fieldType = f.type

theorem Node.unsupported_standsFor (f : FormField) :
    (Node.unsupported f).StandsFor "unsupported" f := ⟨rfl, rfl, rfl⟩

theorem Node.failed_standsFor (f : FormField) (cause : Fault) (debug : Bool) :
    (Node.failed f cause debug).StandsFor "render_error" f := ⟨rfl, rfl, rfl⟩

namespace RenderSettings

variable {s : RenderSettings} {c : RenderContext} {f : FormField}

/-- What comes of a field: its node, and the failure that is reported, if there is one. -/
inductive Outcome (s : RenderSettings) (c : RenderContext) (f : FormField) :
    Node → Option Fault → Prop
  | unsupported (missing : s.registry.get? f.type = none) : Outcome s c f (.unsupported f) none
  | made {r : FieldRenderer} {n : Node} (found : s.registry.get? f.type = some r)
      (makes : r.Makes (c.propsOf f) n) : Outcome s c f n none
  | failed {r : FieldRenderer} {cause : Fault} (found : s.registry.get? f.type = some r)
      (fails : r.Fails (c.propsOf f) cause) :
      Outcome s c f (.failed f cause s.debug) (some (.fieldRender f.id f.type cause))

/-- What is seen of telling the observer of a failure once. -/
def told (s : RenderSettings) (e : Fault) : List Event :=
  s.observer.elim [] fun observe => (observe e).events

theorem events_report (s : RenderSettings) (e : Fault) : (s.report e).events = s.told e := by
  unfold report told
  cases s.observer with
  | none => rfl
  | some observe => rfl

/-- A field has just one outcome, and this is what is rendered and told. -/
theorem Outcome.render_eq {n : Node} {failure : Option Fault} (h : s.Outcome c f n failure) :
    s.render c f = ⟨n, failure.elim [] s.told⟩ := by
  unfold render
  cases h with
  | unsupported missing =>
    rw [missing]
    rfl
  | made found makes =>
    rw [found]
    dsimp only
    rw [makes.nodeOf_eq]
    rfl
  | @failed r cause found fails =>
    rw [found]
    dsimp only
    rw [fails.nodeOf_eq]
    have events := s.events_report (.fieldRender f.id f.type cause)
    exact congrArg (Logged.mk _) ((List.append_nil _).trans events)

theorem exists_outcome (s : RenderSettings) (c : RenderContext) (f : FormField) :
    ∃ n failure, s.Outcome c f n failure := by
  cases found : s.registry.get? f.type with
  | none => exact ⟨_, _, .unsupported found⟩
  | some r =>
    rcases r.makes_or_fails (c.propsOf f) with ⟨n, makes⟩ | ⟨cause, fails⟩
    · exact ⟨_, _, .made found makes⟩
    · exact ⟨_, _, .failed found fails⟩

/-- Fields are rendered one by one, each on its own. -/
theorem renderFields_eq (s : RenderSettings) (c : RenderContext) (fs : List FormField) :
    s.renderFields c fs =
      ⟨fs.map fun f => (s.render c f).value, fs.flatMap fun f => (s.render c f).events⟩ := by
  induction fs with
  | nil => rfl
  | cons f fs ih =>
    unfold renderFields
    rw [ih]
    exact congrArg (Logged.mk _) (congrArg _ (List.append_nil _))

/-- The settings with another renderer for a type. -/
def withRenderer (s : RenderSettings) (tag : String) (r : FieldRenderer) : RenderSettings :=
  { s with registry := s.registry.register tag r }

theorem render_withRenderer {tag : String} (r : FieldRenderer) (other : f.type ≠ tag) :
    (s.withRenderer tag r).render c f = s.render c f := by
  have found : (s.withRenderer tag r).registry.get? f.type = s.registry.get? f.type :=
    Table.get?_put_ne _ r other
  unfold render
  rw [found]
  rfl

/-- The settings with someone else, or nobody, who is told of failures. -/
def withObserver (s : RenderSettings) (observer : Option (Fault → Logged (Except Fault Unit))) :
    RenderSettings :=
  { s with observer }

theorem value_render_withObserver (observer : Option (Fault → Logged (Except Fault Unit))) :
    ((s.withObserver observer).render c f).value = (s.render c f).value := by
  obtain ⟨n, failure, outcome⟩ := s.exists_outcome c f
  have same : (s.withObserver observer).Outcome c f n failure := by
    cases outcome with
    | unsupported missing => exact .unsupported missing
    | made found makes => exact .made found makes
    | failed found fails => exact .failed found fails
  rw [outcome.render_eq, same.render_eq]

/-- One outcome for each field, in order: the nodes are theirs, and the observer is told of their
failures, of each one once. No node depends on the renderer for another type or on the observer. -/
theorem failures_contained (s : RenderSettings) (c : RenderContext) (fs : List FormField) :
    (∃ outcomes : List (Node × Option Fault),
      List.Forall₂ (fun f o => s.Outcome c f o.1 o.2) fs outcomes ∧
      (s.renderFields c fs).value = outcomes.map Prod.fst ∧
      (s.renderFields c fs).events = (outcomes.filterMap Prod.snd).flatMap s.told) ∧
    (∀ f ∈ fs, (Node.unsupported f).StandsFor "unsupported" f ∧
      ∀ cause, (Node.failed f cause s.debug).StandsFor "render_error" f) ∧
    (∀ (i : Nat) (f : FormField), fs[i]? = some f → ∀ tag r, f.type ≠ tag →
      ((s.withRenderer tag r).renderFields c fs).value[i]? = (s.renderFields c fs).value[i]?) ∧
    ∀ observer,
      ((s.withObserver observer).renderFields c fs).value = (s.renderFields c fs).value := by
  refine ⟨?outcomes, ?placeholders, ?renderers, ?observers⟩
  case outcomes =>
    rw [renderFields_eq]
    induction fs with
    | nil => exact ⟨[], .nil, rfl, rfl⟩
    | cons f fs ih =>
      obtain ⟨outcomes, each, nodes, events⟩ := ih
      obtain ⟨n, failure, outcome⟩ := s.exists_outcome c f
      have rendered := outcome.render_eq
      refine ⟨(n, failure) :: outcomes, .cons outcome each, ?_, ?_⟩
      · dsimp only at nodes ⊢
        rw [List.map_cons, List.map_cons, nodes, rendered]
      · dsimp only at events ⊢
        rw [List.flatMap_cons, events, rendered]
        cases failure with
        | none => rfl
        | some e => rfl
  case placeholders =>
    intro f _
    exact ⟨Node.unsupported_standsFor f, fun cause => Node.failed_standsFor f cause s.debug⟩
  case renderers =>
    intro i f hi tag r other
    rw [renderFields_eq, renderFields_eq]
    dsimp only
    rw [List.getElem?_map, List.getElem?_map, hi, Option.map_some, Option.map_some,
      render_withRenderer r other]
  case observers =>
    intro observer
    rw [renderFields_eq, renderFields_eq]
    exact List.map_congr_left fun f _ => value_render_withObserver observer

/-- A bench with a renderer that works and one that fails, and an observer that raises. -/
def bench : RenderSettings where
  registry := (Registry.register {} "text" RendererScript.echo.renderer).register "number"
    (RendererScript.unmade (.badValue "no")).renderer
  observer := some ObserverScript.recordAndRaise.observe

def benched : List FormField := [.plain "a" "text", .plain "b" "number", .plain "c" "map"]

theorem bench_contains :
    (bench.renderFields {} benched).value.map Node.kind =
      ["echo", "render_error", "unsupported"] ∧
    ((bench.withRenderer "text" (RendererScript.raises (.badValue "no")).renderer).renderFields {}
      benched).value[1]? = (bench.renderFields {} benched).value[1]? := by
  obtain ⟨-, -, renderers, -⟩ := failures_contained bench {} benched
  exact ⟨rfl, renderers 1 (.plain "b" "number") rfl "text" _ (by decide)⟩

end RenderSettings

end FormEngine
