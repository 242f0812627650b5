import FormEngine.Render.Registry
import Mathlib.Data.List.Induction
import Mathlib.Data.List.Nodup

/-!
A registry is an ordered map in which the last registration wins. What it holds after any commands is
read off the history of its entries: for each type the renderer that was registered last since the type
was removed, and the types in the order in which each was first registered since then.
-/

namespace FormEngine

/-- What happens to the entries of a registry, one at a time. -/
inductive RegistryEvent (α : Type)
  | registered (type : String) (renderer : α)
  | removed (type : String)
  | cleared

namespace RegistryEvent

variable {α : Type}

def Registers (e : RegistryEvent α) (type : String) : Prop := ∃ x, e = .registered type x

def Removes (e : RegistryEvent α) (type : String) : Prop := e = .removed type ∨ e = .cleared

/-- A renderer is registered for a type, and nothing happens to that type later. -/
def Latest (past : List (RegistryEvent α)) (type : String) (x : α) : Prop :=
  ∃ before after, past = before ++ .registered type x :: after ∧
    ∀ e ∈ after, ¬ e.Registers type ∧ ¬ e.Removes type

/-- A type is registered and not removed later. -/
def Holds (past : List (RegistryEvent α)) (type : String) : Prop :=
  ∃ before e after, past = before ++ e :: after ∧ e.Registers type ∧ ∀ e ∈ after, ¬ e.Removes type

/-- A type that is not held is registered at some place of the history, and not removed later. -/
def Enters (past : List (RegistryEvent α)) (type : String) (place : Nat) : Prop :=
  ∃ before e after, past = before ++ e :: after ∧ before.length = place ∧ e.Registers type ∧
    ¬ Holds before type ∧ ∀ e ∈ after, ¬ e.Removes type

variable {past : List (RegistryEvent α)} {e : RegistryEvent α} {type : String}

/-- A place in a history that is followed by one more event is the last one or a place before. -/
theorem exists_split_append_iff {p : List (RegistryEvent α) → RegistryEvent α → Prop}
    {q : RegistryEvent α → Prop} :
    (∃ before f after, past ++ [e] = before ++ f :: after ∧ p before f ∧ ∀ g ∈ after, q g) ↔
      p past e ∨ (∃ before f after, past = before ++ f :: after ∧ p before f ∧ ∀ g ∈ after, q g) ∧
        q e := by
  constructor
  · rintro ⟨before, f, after, split, here, later⟩
    rcases List.eq_nil_or_concat' after with rfl | ⟨after, g, rfl⟩
    · obtain ⟨rfl, same⟩ := List.append_inj' split rfl
      cases same
      exact .inl here
    · rw [← List.cons_append, ← List.append_assoc] at split
      obtain ⟨rfl, same⟩ := List.append_inj' split rfl
      cases same
      rw [List.forall_mem_append] at later
      exact .inr ⟨⟨before, f, after, rfl, here, later.1⟩, later.2 e List.mem_cons_self⟩
  · rintro (here | ⟨⟨before, f, after, rfl, here, later⟩, last⟩)
    · exact ⟨past, e, [], rfl, here, by simp⟩
    · refine ⟨before, f, after ++ [e], by simp, here, List.forall_mem_append.mpr ⟨later, ?_⟩⟩
      exact List.forall_mem_singleton.mpr last

theorem latest_append_iff {x : α} : Latest (past ++ [e]) type x ↔
    e = .registered type x ∨ Latest past type x ∧ ¬ e.Registers type ∧ ¬ e.Removes type := by
  have latest (past : List (RegistryEvent α)) : Latest past type x ↔
      ∃ before f after, past = before ++ f :: after ∧ f = .registered type x ∧
        ∀ g ∈ after, ¬ g.Registers type ∧ ¬ g.Removes type := by
    constructor
    · rintro ⟨before, after, split, later⟩
      exact ⟨before, _, after, split, rfl, later⟩
    · rintro ⟨before, _, after, split, rfl, later⟩
      exact ⟨before, after, split, later⟩
  rw [latest, latest, exists_split_append_iff (p := fun _ f => f = .registered type x)]

theorem holds_append_iff :
    Holds (past ++ [e]) type ↔ e.Registers type ∨ Holds past type ∧ ¬ e.Removes type :=
  exists_split_append_iff (p := fun _ f => f.Registers type)

theorem enters_append_iff {place : Nat} : Enters (past ++ [e]) type place ↔
    (past.length = place ∧ e.Registers type ∧ ¬ Holds past type) ∨
      Enters past type place ∧ ¬ e.Removes type := by
  have enters (past : List (RegistryEvent α)) : Enters past type place ↔
      ∃ before f after, past = before ++ f :: after ∧
        (before.length = place ∧ f.Registers type ∧ ¬ Holds before type) ∧
          ∀ g ∈ after, ¬ g.Removes type := by
    simp only [Enters, and_assoc]
  rw [enters, enters, exists_split_append_iff
    (p := fun before f => before.length = place ∧ f.Registers type ∧ ¬ Holds before type)]

theorem Enters.lt {place : Nat} (h : Enters past type place) : place < past.length := by
  obtain ⟨before, e, after, rfl, rfl, -⟩ := h
  simp

theorem Enters.holds {place : Nat} (h : Enters past type place) : Holds past type := by
  obtain ⟨before, e, after, split, -, registers, -, later⟩ := h
  exact ⟨before, e, after, split, registers, later⟩

theorem not_holds_nil : ¬ Holds ([] : List (RegistryEvent α)) type := by
  rintro ⟨before, e, after, split, -⟩
  exact List.append_ne_nil_of_right_ne_nil before (List.cons_ne_nil e after) split.symm

end RegistryEvent

namespace Registry

open RegistryEvent

variable {α : Type}

/-- What an event makes of a registry. -/
def after (r : Registry α) : RegistryEvent α → Registry α
  | .registered type x => r.register type x
  | .removed type => (r.unregister type).1
  | .cleared => r.clear

/-- What a history makes of an empty registry. -/
def ofHistory (past : List (RegistryEvent α)) : Registry α := past.foldl after {}

theorem ofHistory_append (past : List (RegistryEvent α)) (e : RegistryEvent α) :
    ofHistory (past ++ [e]) = (ofHistory past).after e := List.foldl_append

theorem get?_after {r : Registry α} {e : RegistryEvent α} {type : String} {x : α} :
    (r.after e).get? type = some x ↔
      e = .registered type x ∨ r.get? type = some x ∧ ¬ e.Registers type ∧ ¬ e.Removes type := by
  cases e with
  | registered other y =>
    have found : (r.after (.registered other y)).get? type =
        if type = other then some y else r.get? type := Table.get?_put r.renderers other type y
    rw [found]
    by_cases same : type = other
    · subst same
      simp [Registers, Removes]
    · simp [Registers, Removes, same, Ne.symm same]
  | removed other =>
    have found : (r.after (.removed other)).get? type =
        if type = other then none else r.get? type := Table.get?_drop r.renderers other type
    rw [found]
    by_cases same : type = other
    · subst same
      simp [Registers, Removes]
    · simp [Registers, Removes, same, Ne.symm same]
  | cleared =>
    have found : (r.after .cleared).get? type = none := rfl
    simp [found, Removes]

/-- For each type there is the renderer that was registered last. -/
theorem get?_ofHistory (past : List (RegistryEvent α)) (type : String) (x : α) :
    (ofHistory past).get? type = some x ↔ Latest past type x := by
  induction past using List.reverseRecOn with
  | nil =>
    refine ⟨fun h => (nomatch h), ?_⟩
    rintro ⟨before, after, split, -⟩
    exact absurd split.symm (List.append_ne_nil_of_right_ne_nil before (List.cons_ne_nil _ after))
  | append_singleton past e ih => rw [ofHistory_append, get?_after, ih, latest_append_iff]

theorem mem_tags {r : Registry α} {type : String} : type ∈ r.tags ↔ r.has type = true :=
  Table.mem_keys r.renderers type

theorem tags_register (r : Registry α) (type : String) (x : α) :
    (r.register type x).tags = if r.has type then r.tags else r.tags ++ [type] :=
  Table.keys_put r.renderers type x

theorem tags_unregister (r : Registry α) (type : String) :
    (r.unregister type).1.tags = r.tags.filter fun other => other ≠ type :=
  Table.keys_drop r.renderers type

theorem mem_tags_after {r : Registry α} {e : RegistryEvent α} {type : String} :
    type ∈ (r.after e).tags ↔ e.Registers type ∨ type ∈ r.tags ∧ ¬ e.Removes type := by
  cases e with
  | registered other y =>
    have listed : (r.after (.registered other y)).tags = _ := tags_register r other y
    rw [listed]
    by_cases same : type = other
    · subst same
      by_cases held : r.has type = true <;> simp [held, mem_tags, Registers]
    · split <;> simp [Registers, Removes, same, Ne.symm same]
  | removed other =>
    have listed : (r.after (.removed other)).tags = _ := tags_unregister r other
    rw [listed, List.mem_filter]
    by_cases same : type = other
    · subst same
      simp [Registers, Removes]
    · simp [Registers, Removes, same, Ne.symm same]
  | cleared =>
    have none : (r.after .cleared).tags = [] := rfl
    simp [none, Registers, Removes]

/-- The types that a registry lists are those that are held. -/
theorem mem_tags_ofHistory (past : List (RegistryEvent α)) (type : String) :
    type ∈ (ofHistory past).tags ↔ Holds past type := by
  induction past using List.reverseRecOn with
  | nil => exact ⟨fun h => (nomatch h), fun h => absurd h not_holds_nil⟩
  | append_singleton past e ih => rw [ofHistory_append, mem_tags_after, ih, holds_append_iff]

theorem nodup_tags_ofHistory (past : List (RegistryEvent α)) : (ofHistory past).tags.Nodup := by
  induction past using List.reverseRecOn with
  | nil => exact List.nodup_nil
  | append_singleton past e ih =>
    rw [ofHistory_append]
    cases e with
    | registered type x => exact Table.nodup_keys_put ih type x
    | removed type =>
      have listed : ((ofHistory past).after (.removed type)).tags = _ := tags_unregister _ type
      rw [listed]
      exact ih.filter _
    | cleared => exact List.nodup_nil

/-- Each type that is held came in at some place. -/
theorem exists_enters {past : List (RegistryEvent α)} {type : String} (h : Holds past type) :
    ∃ place, Enters past type place := by
  induction past using List.reverseRecOn with
  | nil => exact absurd h not_holds_nil
  | append_singleton past e ih =>
    by_cases held : Holds past type
    · rcases holds_append_iff.mp h with registers | ⟨-, kept⟩
      · obtain ⟨place, enters⟩ := ih held
        obtain ⟨x, rfl⟩ := registers
        exact ⟨place, enters_append_iff.mpr (.inr ⟨enters, by simp [Removes]⟩)⟩
      · obtain ⟨place, enters⟩ := ih held
        exact ⟨place, enters_append_iff.mpr (.inr ⟨enters, kept⟩)⟩
    · rcases holds_append_iff.mp h with registers | ⟨before, -⟩
      · exact ⟨past.length, enters_append_iff.mpr (.inl ⟨rfl, registers, held⟩)⟩
      · exact absurd before held

/-- Types are listed in the order in which they came in. -/
theorem tags_ordered (past : List (RegistryEvent α)) :
    (ofHistory past).tags.Pairwise fun a b => ∀ m n, Enters past a m → Enters past b n → m < n := by
  induction past using List.reverseRecOn with
  | nil => exact .nil
  | append_singleton past e ih =>
    -- of a type that was held before the place stays the same
    have earlier {type : String} {place : Nat} (held : type ∈ (ofHistory past).tags)
        (h : Enters (past ++ [e]) type place) : Enters past type place := by
      rcases enters_append_iff.mp h with ⟨-, -, absent⟩ | ⟨enters, -⟩
      · exact absurd ((mem_tags_ofHistory past type).mp held) absent
      · exact enters
    have kept : (ofHistory past).tags.Pairwise fun a b =>
        ∀ m n, Enters (past ++ [e]) a m → Enters (past ++ [e]) b n → m < n :=
      ih.imp_of_mem fun ha hb before m n hm hn => before m n (earlier ha hm) (earlier hb hn)
    rw [ofHistory_append]
    cases e with
    | registered type x =>
      have listed : ((ofHistory past).after (.registered type x)).tags = _ := tags_register _ type x
      rw [listed]
      split
      · exact kept
      · next fresh =>
        refine List.pairwise_append.mpr ⟨kept, List.pairwise_singleton _ _, ?_⟩
        intro a ha b hb m n hm hn
        obtain rfl := List.mem_singleton.mp hb
        rcases enters_append_iff.mp hn with ⟨rfl, -⟩ | ⟨enters, -⟩
        · exact (earlier ha hm).lt
        · exact absurd (mem_tags.mp ((mem_tags_ofHistory past b).mpr enters.holds)) fresh
    | removed type =>
      have listed : ((ofHistory past).after (.removed type)).tags = _ := tags_unregister _ type
      rw [listed]
      exact kept.filter _
    | cleared => exact .nil

end Registry

/-- What a command does, entry by entry. -/
def RegistryCommand.events {α : Type} (builtIn : BuiltIn → α) :
    RegistryCommand α → List (RegistryEvent α)
  | .register tag x => [.registered tag.type x]
  | .decorate tags x => tags.map fun tag => .registered tag.type x
  | .registerBuiltIns => BuiltIn.all.map fun c => .registered c.fieldType.tag (builtIn c)
  | .unregister tag => [.removed tag.type]
  | .clear => [.cleared]

namespace Registry

open RegistryEvent

variable {α : Type}

theorem run_eq (builtIn : BuiltIn → α) (r : Registry α) (command : RegistryCommand α) :
    (r.run builtIn command).1 = (command.events builtIn).foldl after r := by
  cases command with
  | decorate tags x =>
    unfold run RegistryCommand.events registerAll
    dsimp only
    rw [List.foldl_map, List.foldl_map]
    rfl
  | _ => rfl

/-- What commands make of an empty registry. -/
def replay (builtIn : BuiltIn → α) (commands : List (RegistryCommand α)) : Registry α :=
  commands.foldl (fun r command => (r.run builtIn command).1) {}

theorem replay_eq (builtIn : BuiltIn → α) (commands : List (RegistryCommand α)) :
    replay builtIn commands =
      ofHistory (commands.flatMap (RegistryCommand.events builtIn)) := by
  unfold replay ofHistory
  rw [List.foldl_flatMap]
  exact congrArg (fun step => commands.foldl step {}) (funext₂ (run_eq builtIn))

theorem contains_toValue (r : Registry α) (tag : TypeTag) :
    r.contains tag.toValue = r.has tag.type := by
  unfold contains
  rw [TypeTag.text?_toValue]
  rfl

theorem has_iff (r : Registry α) (type : String) :
    r.has type = true ↔ ∃ x, r.get? type = some x := by
  unfold has Table.has
  rw [Option.isSome_iff_exists]
  rfl

/-- After any commands on an empty registry, for types given as texts or as names alike: what is found for
a type is the renderer that was registered last, unless the type was removed since; the types are listed
once each, in the order in which they were first registered since they were last removed; and removing a
type says whether it was registered and leaves the others as they are. -/
theorem last_registration_wins (builtIn : BuiltIn → α) (commands : List (RegistryCommand α)) :
    let r := replay builtIn commands
    let past := commands.flatMap (RegistryCommand.events builtIn)
    (∀ (tag : TypeTag) x, r.get? tag.type = some x ↔ Latest past tag.type x) ∧
    (∀ tag : TypeTag, (r.has tag.type = true ↔ ∃ x, r.get? tag.type = some x) ∧
      r.contains tag.toValue = r.has tag.type) ∧
    r.tags.Nodup ∧ r.tags.length = r.size ∧
    (∀ type, type ∈ r.tags ↔ ∃ place, Enters past type place) ∧
    (r.tags.Pairwise fun a b => ∀ m n, Enters past a m → Enters past b n → m < n) ∧
    ∀ tag, ((r.run builtIn (.unregister tag)).2 = some true ↔ ∃ x, Latest past tag.type x) ∧
      (∀ other : TypeTag, other.type ≠ tag.type →
        (r.run builtIn (.unregister tag)).1.get? other.type = r.get? other.type) ∧
      (r.run builtIn (.unregister tag)).1.tags = r.tags.filter fun type => type ≠ tag.type := by
  intro r past
  have history : r = ofHistory past := replay_eq builtIn commands
  have found (type : String) (x : α) : r.get? type = some x ↔ Latest past type x := by
    rw [history]
    exact get?_ofHistory past type x
  refine ⟨fun tag => found tag.type, fun tag => ⟨r.has_iff tag.type, r.contains_toValue tag⟩, ?_,
    List.length_map _, fun type => ?_, ?_, fun tag => ⟨?_, fun other differs => ?_, ?_⟩⟩
  · rw [history]
    exact nodup_tags_ofHistory past
  · rw [history, mem_tags_ofHistory]
    exact ⟨exists_enters, fun ⟨_, enters⟩ => enters.holds⟩
  · rw [history]
    exact tags_ordered past
  · simp only [← found]
    rw [← r.has_iff]
    exact Option.some_inj
  · exact (Table.get?_drop r.renderers tag.type other.type).trans (if_neg differs)
  · exact tags_unregister r tag.type

example : (replay (fun _ => 0) [.register (.text "a") 1, .register (.text "b") 2,
    .register (.name .fieldType "a") 3]).renderers = [("a", 3), ("b", 2)] := by decide

example : (replay (fun _ => 0) [.register (.text "a") 1, .register (.text "b") 2,
    .unregister (.name .fieldType "a"), .register (.text "a") 3]).renderers =
      [("b", 2), ("a", 3)] := by decide

end Registry

end FormEngine
