import FormEngine.Proofs.Schema.Loading
import Mathlib.Data.List.Basic
import Mathlib.Data.List.Nodup

/-!
The spellings of the attributes in a declaration. Each kind of record declares attributes, and an
attribute the keys under which it is accepted; writing every declared attribute under its name, however
deep the records are nested, gives the plain form of a declaration. Two declarations with the same plain
form are spelled differently and say the same.
-/

namespace FormEngine

namespace Spelling

/-- The kinds of records in a declaration. -/
inductive Kind
  | schema
  | field
  | option
  | dynamicOptions
  | conditions
  | rule
  | fieldValidation
  | customRule
  | asyncRule
  | globalValidation
  | formRule
  | layout
  | behavior
  deriving DecidableEq, Repr

/-- What can stand under a key: a record of some kind, a list of such records, or either. What is
neither is free. -/
structure Content where
  whole : Option Kind := none
  items : Option Kind := none
  deriving DecidableEq, Repr

namespace Content

def free : Content := {}

def one (k : Kind) : Content := { whole := some k }

def many (k : Kind) : Content := { items := some k }

end Content

structure Attribute where
  name : String
  keys : List String
  content : Content
  deriving DecidableEq, Repr

/-- An attribute under its usual spellings. -/
def Attribute.usual (name : String) (content : Content) : Attribute :=
  ⟨name, Load.spellings name, content⟩

namespace Kind

/-- The attributes with usual spellings in which no records stand. -/
def plainNames : Kind → List String
  | schema => ["id", "title", "description"]
  | field => [
    "id", "type", "label", "placeholder", "description", "required", "disabled", "readonly",
    "default_value", "min", "max", "step", "min_length", "max_length", "rows", "max_selections",
    "min_items", "max_items", "accept", "multiple", "component", "props"]
  | option => ["label", "value", "disabled", "group", "icon", "description"]
  | dynamicOptions => [
    "source", "url", "method", "headers", "params", "transform", "loader", "store_key",
    "dependencies", "cache", "cache_key", "cache_duration", "retry_attempts", "retry_delay"]
  | conditions => []
  | rule => ["field", "operator", "value"]
  | fieldValidation => ["required", "rule", "regex", "debounce_ms"]
  | customRule => ["name", "message", "validator"]
  | asyncRule => ["name", "message", "validator", "debounce_ms"]
  | globalValidation => ["rule", "validate_on_change", "validate_on_blur", "validate_on_submit"]
  | formRule => ["name", "message", "validator", "fields"]
  | layout => ["type", "spacing", "columns"]
  | behavior => [
    "auto_save", "auto_save_delay", "reset_on_submit", "focus_first_error", "scroll_to_error"]

/-- The attributes in which records stand, or that have further spellings. -/
def parts : Kind → List Attribute
  | schema => [
    .usual "fields" (.many field), .usual "validation" (.one globalValidation),
    .usual "layout" (.one layout), .usual "behavior" (.one behavior)]
  | field => [
    .usual "validation" (.one fieldValidation), .usual "conditional" (.one conditions),
    .usual "options" ⟨some dynamicOptions, some option⟩, .usual "item_schema" (.one field),
    .usual "fields" (.many field)]
  | conditions => Effect.all.map fun e => .usual e.word (.many rule)
  | rule => [⟨"custom_predicate", Load.predicateKeys, .free⟩]
  | fieldValidation => [
    .usual "custom" (.many customRule), ⟨"async_rules", ["async", "async_rules"], .many asyncRule⟩]
  | globalValidation => [.usual "custom_rules" (.many formRule)]
  | option | dynamicOptions | customRule | asyncRule | formRule | layout | behavior => []

def attributes (k : Kind) : List Attribute :=
  k.plainNames.map (Attribute.usual · .free) ++ k.parts

theorem usual_mem {k : Kind} {name : String} (h : name ∈ k.plainNames) :
    Attribute.usual name .free ∈ k.attributes :=
  List.mem_append_left _ (List.mem_map_of_mem h)

theorem part_mem {k : Kind} {a : Attribute} (h : a ∈ k.parts) : a ∈ k.attributes :=
  List.mem_append_right _ h

/-- The attribute that a key is a spelling of. -/
def attribute? (k : Kind) (key : String) : Option Attribute :=
  k.attributes.find? fun a => a.keys.contains key

/-- No key is a spelling of two attributes, and the name of each is one of its spellings. -/
theorem attributes_apart (k : Kind) :
    (k.attributes.Pairwise fun a b => ∀ key ∈ a.keys, key ∉ b.keys) ∧
      ∀ a ∈ k.attributes, a.name ∈ a.keys := by
  cases k <;> decide +kernel

variable {k : Kind} {a : Attribute}

theorem attribute?_of_mem (ha : a ∈ k.attributes) {key : String} (hk : key ∈ a.keys) :
    k.attribute? key = some a := by
  obtain ⟨before, after, split⟩ := List.append_of_mem ha
  have apart := k.attributes_apart.1
  unfold attribute?
  rw [split] at apart ⊢
  have absent : ∀ b ∈ before, ¬ b.keys.contains key = true := by
    intro b hb listed
    exact (List.pairwise_append.mp apart).2.2 b hb a List.mem_cons_self key
      (List.contains_iff_mem.mp listed) hk
  rw [List.find?_append, List.find?_eq_none.mpr absent, Option.none_or]
  exact List.find?_cons_of_pos (List.contains_iff_mem.mpr hk)

example : Kind.attribute? .field "minLength" = some (.usual "min_length" .free) := by decide +kernel

theorem mem_of_attribute? {key : String} (h : k.attribute? key = some a) :
    a ∈ k.attributes ∧ key ∈ a.keys := by
  have listed := List.find?_some h
  exact ⟨List.mem_of_find?_eq_some h, List.contains_iff_mem.mp listed⟩

theorem attribute?_eq_some_iff (ha : a ∈ k.attributes) {key : String} :
    k.attribute? key = some a ↔ key ∈ a.keys :=
  ⟨fun h => (mem_of_attribute? h).2, attribute?_of_mem ha⟩

theorem attribute?_name (ha : a ∈ k.attributes) : k.attribute? a.name = some a :=
  attribute?_of_mem ha (k.attributes_apart.2 a ha)

end Kind

/-! ## The plain form -/

mutual

/-- A declaration with every declared attribute under its name. -/
def plain : Content → Value → Value
  | c, .record es =>
    match c.whole with
    | some k => .record (plainEntries k es)
    | none => .record es
  | c, .list xs =>
    match c.items with
    | some k => .list (plainItems k xs)
    | none => .list xs
  | c, .tuple xs =>
    match c.items with
    | some k => .tuple (plainItems k xs)
    | none => .tuple xs
  | c, .set xs =>
    match c.items with
    | some k => .set (plainItems k xs)
    | none => .set xs
  | _, v => v
termination_by structural _ v => v

def plainItems (k : Kind) : List Value → List Value
  | [] => []
  | x :: xs => plain (.one k) x :: plainItems k xs
termination_by structural xs => xs

def plainEntries (k : Kind) : List (String × Value) → List (String × Value)
  | [] => []
  | e :: es => plainEntry k e :: plainEntries k es
termination_by structural es => es

def plainEntry (k : Kind) : String × Value → String × Value
  | (key, v) =>
    match k.attribute? key with
    | some a => (a.name, plain a.content v)
    | none => (key, v)
termination_by structural e => e

end

mutual

/-- In each declared record no key stands twice. -/
def distinct : Content → Value → Bool
  | c, .record es =>
    match c.whole with
    | some k => decide (Table.keys es).Nodup && distinctEntries k es
    | none => true
  | c, .list xs | c, .tuple xs | c, .set xs =>
    match c.items with
    | some k => distinctItems k xs
    | none => true
  | _, _ => true
termination_by structural _ v => v

def distinctItems (k : Kind) : List Value → Bool
  | [] => true
  | x :: xs => distinct (.one k) x && distinctItems k xs
termination_by structural xs => xs

def distinctEntries (k : Kind) : List (String × Value) → Bool
  | [] => true
  | e :: es => distinctEntry k e && distinctEntries k es
termination_by structural es => es

def distinctEntry (k : Kind) : String × Value → Bool
  | (key, v) =>
    match k.attribute? key with
    | some a => distinct a.content v
    | none => true
termination_by structural e => e

end

/-- No record of a declaration gives an attribute in two spellings. -/
def Once (c : Content) (v : Value) : Prop := distinct c (plain c v) = true

instance (c : Content) (v : Value) : Decidable (Once c v) :=
  inferInstanceAs (Decidable (distinct c (plain c v) = true))

variable {c : Content} {k : Kind}

theorem plainEntries_eq (k : Kind) (es : Table Value) : plainEntries k es = es.map (plainEntry k) := by
  induction es with
  | nil => rfl
  | cons e es ih => rw [plainEntries, ih, List.map_cons]

theorem plainItems_eq (k : Kind) (xs : List Value) : plainItems k xs = xs.map (plain (.one k)) := by
  induction xs with
  | nil => rfl
  | cons x xs ih => rw [plainItems, ih, List.map_cons]

theorem plainEntry_of_mem {a : Attribute} (ha : a ∈ k.attributes) {key : String} (hk : key ∈ a.keys)
    (v : Value) : plainEntry k (key, v) = (a.name, plain a.content v) := by
  rw [plainEntry, Kind.attribute?_of_mem ha hk]

theorem plainEntry_of_none {key : String} (undeclared : k.attribute? key = none) (v : Value) :
    plainEntry k (key, v) = (key, v) := by
  rw [plainEntry, undeclared]

/-- A key and the one it becomes in the plain form are spellings of the same. -/
theorem attribute?_plainEntry (e : String × Value) :
    k.attribute? (plainEntry k e).1 = k.attribute? e.1 := by
  obtain ⟨key, v⟩ := e
  cases declared : k.attribute? key with
  | none => rw [plainEntry_of_none declared, declared]
  | some a =>
    obtain ⟨ha, hk⟩ := Kind.mem_of_attribute? declared
    rw [plainEntry_of_mem ha hk, Kind.attribute?_name ha]

theorem plainEntry_key (e : String × Value) :
    (plainEntry k (plainEntry k e)).1 = (plainEntry k e).1 := by
  obtain ⟨key, v⟩ := e
  cases declared : k.attribute? key with
  | none => rw [plainEntry_of_none declared, plainEntry_of_none declared]
  | some a =>
    obtain ⟨ha, hk⟩ := Kind.mem_of_attribute? declared
    rw [plainEntry_of_mem ha hk, plainEntry_of_mem ha (k.attributes_apart.2 a ha)]

theorem plain_record (h : c.whole = some k) (es : Table Value) :
    plain c (.record es) = .record (es.map (plainEntry k)) := by
  rw [plain, h, ← plainEntries_eq]

theorem plain_list (h : c.items = some k) (xs : List Value) :
    plain c (.list xs) = .list (xs.map (plain (.one k))) := by
  rw [plain, h, ← plainItems_eq]

theorem plain_free (v : Value) : plain .free v = v := by
  cases v <;> rfl

theorem isNull_plain (v : Value) : (plain c v).isNull = v.isNull := by
  obtain ⟨_ | k, _ | k'⟩ := c <;> cases v <;> rfl

theorem elements?_plain (h : c.items = some k) (v : Value) :
    (plain c v).elements? = v.elements?.map (List.map (plain (.one k))) := by
  rw [← funext (plainItems_eq k)]
  cases v with
  | list | tuple | set =>
    rw [plain, h]
    rfl
  | record es =>
    rw [plain]
    cases c.whole <;> rfl
  | _ => rfl

/-- A record of a kind gives each of its attributes in one spelling, and so do the records in it. -/
structure OnceIn (k : Kind) (es : Table Value) : Prop where
  apart : (Table.keys (es.map (plainEntry k))).Nodup
  inside : ∀ e ∈ es, ∀ a, k.attribute? e.1 = some a → Once a.content e.2

theorem distinctEntries_iff {es : Table Value} :
    distinctEntries k es = true ↔ ∀ e ∈ es, distinctEntry k e = true := by
  induction es with
  | nil => simp [distinctEntries]
  | cons e es ih => simp [distinctEntries, ih]

theorem distinctItems_iff {xs : List Value} :
    distinctItems k xs = true ↔ ∀ x ∈ xs, distinct (.one k) x = true := by
  induction xs with
  | nil => simp [distinctItems]
  | cons x xs ih => simp [distinctItems, ih]

theorem once_record_iff (h : c.whole = some k) {es : Table Value} :
    Once c (.record es) ↔ OnceIn k es := by
  have entry (e : String × Value) : distinctEntry k (plainEntry k e) = true ↔
      ∀ a, k.attribute? e.1 = some a → Once a.content e.2 := by
    obtain ⟨key, v⟩ := e
    cases declared : k.attribute? key with
    | none => simp [plainEntry, distinctEntry, declared]
    | some a =>
      have name := Kind.attribute?_name (Kind.mem_of_attribute? declared).1
      simp [plainEntry, distinctEntry, declared, name, Once]
  unfold Once
  rw [plain_record h, distinct, h]
  dsimp only
  rw [Bool.and_eq_true, decide_eq_true_eq, distinctEntries_iff, List.forall_mem_map]
  simp only [entry]
  exact ⟨fun ⟨apart, inside⟩ => ⟨apart, inside⟩, fun ⟨apart, inside⟩ => ⟨apart, inside⟩⟩

theorem Once.elements (h : c.items = some k) {v : Value} {xs : List Value} (once : Once c v)
    (elements : v.elements? = some xs) : ∀ x ∈ xs, Once (.one k) x := by
  have whole : distinct c (plain c v) = distinctItems k (xs.map (plain (.one k))) := by
    rw [← plainItems_eq]
    cases v with
    | list | tuple | set =>
      cases elements
      rw [plain, h]
      dsimp only
      rw [distinct, h]
    | _ => cases elements
  unfold Once at once
  rw [whole, distinctItems_iff, List.forall_mem_map] at once
  exact once

end Spelling

end FormEngine
