/-!
Ordered tables: entries keyed by a text, in the order in which the keys were first given. A later
value for a key takes the place of the earlier one. What an operation does is said by what `get?` finds
after it, and by the keys it leaves.
-/

namespace FormEngine

abbrev Table (α : Type) := List (String × α)

namespace Table

variable {α : Type}

def get? (t : Table α) (key : String) : Option α := t.lookup key

def has (t : Table α) (key : String) : Bool := (t.get? key).isSome

def keys (t : Table α) : List String := t.map Prod.fst

/-- Puts a value in the place of the key, or at the end when the key is new. -/
def put : Table α → String → α → Table α
  | [], key, x => [(key, x)]
  | (k, y) :: rest, key, x =>
    if k = key then (key, x) :: rest else (k, y) :: put rest key x

def drop (t : Table α) (key : String) : Table α := t.filter fun e => e.1 ≠ key

/-- The entries of `changes` over those of `t`. -/
def merge (t changes : Table α) : Table α := changes.foldl (fun t e => t.put e.1 e.2) t

def ofEntries (entries : List (String × α)) : Table α := merge [] entries

@[simp] theorem get?_nil (key : String) : get? ([] : Table α) key = none := rfl

theorem get?_cons (k : String) (x : α) (t : Table α) (key : String) :
    get? ((k, x) :: t) key = if key = k then some x else get? t key := by
  have unfolded : get? ((k, x) :: t) key =
      match key == k with
      | true => some x
      | false => get? t key := rfl
  rw [unfolded]
  by_cases h : key = k
  · simp [h]
  · have differs : (key == k) = false := by simp [h]
    simp [h, differs]

@[simp] theorem get?_put_self (t : Table α) (key : String) (x : α) :
    get? (put t key x) key = some x := by
  induction t with
  | nil => simp [put, get?_cons]
  | cons e t ih =>
    obtain ⟨k, y⟩ := e
    by_cases h : k = key
    · simp [put, h, get?_cons]
    · simp [put, h, get?_cons, ih, Ne.symm h]

theorem get?_put_ne (t : Table α) {key other : String} (x : α) (h : other ≠ key) :
    get? (put t key x) other = get? t other := by
  induction t with
  | nil => simp [put, get?_cons, h]
  | cons e t ih =>
    obtain ⟨k, y⟩ := e
    by_cases hk : k = key
    · simp [put, hk, get?_cons, h]
    · simp [put, hk, get?_cons, ih]

theorem get?_put (t : Table α) (key other : String) (x : α) :
    get? (put t key x) other = if other = key then some x else get? t other := by
  by_cases h : other = key
  · simp [h]
  · simp [h, get?_put_ne]

theorem get?_drop (t : Table α) (key other : String) :
    get? (drop t key) other = if other = key then none else get? t other := by
  induction t with
  | nil => simp [drop]
  | cons e t ih =>
    obtain ⟨k, y⟩ := e
    simp only [drop, List.filter_cons] at ih ⊢
    by_cases hk : k = key
    · subst hk
      by_cases ho : other = k <;> simp_all [get?_cons]
    · by_cases ho : other = key
      · subst ho
        simp_all [get?_cons, Ne.symm hk]
      · by_cases hok : other = k <;> simp_all [get?_cons]

theorem mem_keys (t : Table α) (key : String) : key ∈ keys t ↔ has t key = true := by
  induction t with
  | nil => simp [keys, has]
  | cons e t ih =>
    obtain ⟨k, y⟩ := e
    by_cases h : key = k <;> simp_all [keys, has, get?_cons]

theorem keys_put (t : Table α) (key : String) (x : α) :
    keys (put t key x) = if has t key then keys t else keys t ++ [key] := by
  induction t with
  | nil => simp [put, keys, has]
  | cons e t ih =>
    obtain ⟨k, y⟩ := e
    by_cases h : k = key
    · simp [put, h, keys, has, get?_cons]
    · simp only [put, h, if_false]
      simp only [keys, List.map_cons, has, get?_cons, Ne.symm h, if_false] at ih ⊢
      rw [ih]
      split <;> simp_all

theorem keys_drop (t : Table α) (key : String) :
    keys (drop t key) = (keys t).filter fun k => k ≠ key := by
  simp [keys, drop, List.filter_map, Function.comp_def]

@[simp] theorem merge_nil (t : Table α) : merge t [] = t := rfl

@[simp] theorem merge_cons (t : Table α) (key : String) (x : α) (changes : Table α) :
    merge t ((key, x) :: changes) = merge (put t key x) changes := rfl

theorem nodup_keys_put {t : Table α} (h : (keys t).Nodup) (key : String) (x : α) :
    (keys (put t key x)).Nodup := by
  rw [keys_put]
  split
  · exact h
  · next absent =>
    rw [List.nodup_append]
    refine ⟨h, by simp, ?_⟩
    intro a ha b hb hab
    simp only [List.mem_singleton] at hb
    subst hab hb
    exact absent ((mem_keys t _).1 ha)

theorem nodup_keys_merge {t : Table α} (h : (keys t).Nodup) (changes : Table α) :
    (keys (merge t changes)).Nodup := by
  induction changes generalizing t with
  | nil => exact h
  | cons e changes ih => exact ih (nodup_keys_put h e.1 e.2)

end Table

end FormEngine
