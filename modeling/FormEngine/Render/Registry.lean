import FormEngine.Render.Component

/-!
The registry of renderers by field type. The last registration for a type wins; types are listed in
the order in which they were first registered.
-/

namespace FormEngine

/-- A field type as a host gives it: a text, or a name of a vocabulary, which stands for its text. -/
inductive TypeTag
  | text (type : String)
  | name (vocabulary : Vocabulary) (type : String)
  deriving DecidableEq, Repr

namespace TypeTag

/-- The type itself, however it is given. -/
def type : TypeTag → String
  | .text type => type
  | .name _ type => type

def toValue : TypeTag → Value
  | .text type => .str type
  | .name vocabulary type => .name vocabulary type

def ofValue? : Value → Option TypeTag
  | .str type => some (.text type)
  | .name vocabulary type => some (.name vocabulary type)
  | _ => none

@[simp] theorem text?_toValue (tag : TypeTag) : tag.toValue.text? = some tag.type := by
  cases tag <;> rfl

end TypeTag

structure Registry (α : Type) where
  renderers : Table α := []

namespace Registry

variable {α : Type}

def register (r : Registry α) (tag : String) (renderer : α) : Registry α :=
  ⟨r.renderers.put tag renderer⟩

/-- Registers one renderer for several types. -/
def registerAll (r : Registry α) (tags : List String) (renderer : α) : Registry α :=
  tags.foldl (fun r tag => r.register tag renderer) r

/-- Registers the built-in components, each for its own type. -/
def registerBuiltIns (r : Registry α) (renderer : BuiltIn → α) : Registry α :=
  BuiltIn.all.foldl (fun r c => r.register c.fieldType.tag (renderer c)) r

def get? (r : Registry α) (tag : String) : Option α := r.renderers.get? tag

def has (r : Registry α) (tag : String) : Bool := r.renderers.has tag

/-- A value is contained if it is a text or a name and has a renderer. -/
def contains (r : Registry α) (v : Value) : Bool := v.text?.any r.has

/-- Removes a renderer, and says whether there was one. -/
def unregister (r : Registry α) (tag : String) : Registry α × Bool :=
  (⟨r.renderers.drop tag⟩, r.has tag)

def clear (_ : Registry α) : Registry α := {}

def tags (r : Registry α) : List String := r.renderers.keys

def size (r : Registry α) : Nat := r.renderers.length

end Registry

/-- What a host does with a registry. -/
inductive RegistryCommand (α : Type)
  | register (tag : TypeTag) (renderer : α)
  /-- one renderer for several types -/
  | decorate (tags : List TypeTag) (renderer : α)
  | registerBuiltIns
  | unregister (tag : TypeTag)
  | clear

/-- Carries out a command. Where a renderer is to be removed, the answer is whether there was one. -/
def Registry.run {α : Type} (builtIn : BuiltIn → α) (r : Registry α) :
    RegistryCommand α → Registry α × Option Bool
  | .register tag renderer => (r.register tag.type renderer, none)
  | .decorate tags renderer => (r.registerAll (tags.map TypeTag.type) renderer, none)
  | .registerBuiltIns => (r.registerBuiltIns builtIn, none)
  | .unregister tag =>
    let (r, removed) := r.unregister tag.type
    (r, some removed)
  | .clear => (r.clear, none)

end FormEngine
