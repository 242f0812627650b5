import Mathlib.Data.List.Forall2

/-!
Computations that can fail: what is known of the steps when a series of them comes to an end or does
not, and which faults there can be.
-/

namespace FormEngine

namespace Except

variable {ε α β : Type}

theorem eq_ok_of_toOption {x : Except ε α} {a : α} (h : x.toOption = some a) : x = .ok a := by
  cases x with
  | error e => cases h
  | ok b => exact congrArg Except.ok (Option.some.inj h)

theorem isOk_map (x : Except ε α) (f : α → β) : (x.map f).isOk = x.isOk := by
  cases x <;> rfl

theorem bind_eq_ok {x : Except ε α} {f : α → Except ε β} {b : β} :
    (x >>= f) = .ok b ↔ ∃ a, x = .ok a ∧ f a = .ok b := by
  cases x with
  | error e => exact ⟨fun h => (nomatch h), fun ⟨_, h, _⟩ => (nomatch h)⟩
  | ok a =>
    refine ⟨fun h => ⟨a, rfl, h⟩, ?_⟩
    rintro ⟨_, ⟨⟩, h⟩
    exact h

theorem exists_bind_iff {x : Except ε α} {f : α → Except ε β} :
    (∃ b, (x >>= f) = .ok b) ↔ ∃ a, x = .ok a ∧ ∃ b, f a = .ok b := by
  constructor
  · rintro ⟨b, h⟩
    obtain ⟨a, ha, made⟩ := bind_eq_ok.mp h
    exact ⟨a, ha, b, made⟩
  · rintro ⟨a, ha, b, made⟩
    exact ⟨b, bind_eq_ok.mpr ⟨a, ha, made⟩⟩

theorem exists_map_iff {x : Except ε α} {f : α → β} :
    (∃ b, f <$> x = .ok b) ↔ ∃ a, x = .ok a := by
  cases x with
  | error e => exact ⟨fun ⟨_, h⟩ => (nomatch h), fun ⟨_, h⟩ => (nomatch h)⟩
  | ok a => exact ⟨fun _ => ⟨a, rfl⟩, fun _ => ⟨f a, rfl⟩⟩

theorem exists_return_iff {x : Except ε α} {f : α → β} :
    (∃ b, (do return f (← x)) = .ok b) ↔ ∃ a, x = .ok a := by
  rw [exists_bind_iff]
  exact ⟨fun ⟨a, ha, _⟩ => ⟨a, ha⟩, fun ⟨a, ha⟩ => ⟨a, ha, f a, rfl⟩⟩

/-- Something is made of two parts just if each of them is made. -/
theorem exists_both_iff {γ : Type} {x : Except ε α} {y : Except ε β} {f : α → β → γ} :
    (∃ c, (do return f (← x) (← y)) = .ok c) ↔ (∃ a, x = .ok a) ∧ ∃ b, y = .ok b := by
  rw [exists_bind_iff]
  constructor
  · rintro ⟨a, ha, made⟩
    exact ⟨⟨a, ha⟩, exists_return_iff.mp made⟩
  · rintro ⟨⟨a, ha⟩, made⟩
    exact ⟨a, ha, exists_return_iff.mpr made⟩

/-- The elements of a list and what was made of them, one by one. -/
theorem mapM_eq_ok {f : α → Except ε β} {xs : List α} {ys : List β} (h : xs.mapM f = .ok ys) :
    List.Forall₂ (fun x y => f x = .ok y) xs ys := by
  induction xs generalizing ys with
  | nil =>
    cases h
    exact .nil
  | cons x xs ih =>
    rw [List.mapM_cons, bind_eq_ok] at h
    obtain ⟨y, hy, made⟩ := h
    obtain ⟨rest, hs, same⟩ := bind_eq_ok.mp made
    cases same
    exact .cons hy (ih hs)

theorem exists_mapM_iff {f : α → Except ε β} {xs : List α} :
    (∃ ys, xs.mapM f = .ok ys) ↔ ∀ x ∈ xs, ∃ y, f x = .ok y := by
  induction xs with
  | nil => exact ⟨fun _ => by simp, fun _ => ⟨[], rfl⟩⟩
  | cons x xs ih =>
    rw [List.mapM_cons, exists_both_iff, List.forall_mem_cons, ih]

section Folding

variable {f : β → α → Except ε β} {b b' : β} {xs : List α}

/-- What each step keeps holds in the end, and what each step shows holds of all elements. -/
theorem foldlM_eq_ok (inv : β → Prop) (shown : α → Prop)
    (step : ∀ x ∈ xs, ∀ b b', f b x = .ok b' → inv b → inv b' ∧ shown x)
    (h : xs.foldlM f b = .ok b') (start : inv b) : inv b' ∧ ∀ x ∈ xs, shown x := by
  induction xs generalizing b with
  | nil =>
    cases h
    exact ⟨start, by simp⟩
  | cons x xs ih =>
    rw [List.foldlM_cons, bind_eq_ok] at h
    obtain ⟨next, hx, made⟩ := h
    obtain ⟨kept, first⟩ := step x List.mem_cons_self b next hx start
    obtain ⟨last, others⟩ := ih (fun y hy => step y (List.mem_cons_of_mem _ hy)) made kept
    exact ⟨last, List.forall_mem_cons.mpr ⟨first, others⟩⟩

/-- A fold that fails fails at one of the elements. -/
theorem foldlM_eq_error {e : ε} (h : xs.foldlM f b = .error e) :
    ∃ x ∈ xs, ∃ b, f b x = .error e := by
  induction xs generalizing b with
  | nil => cases h
  | cons x xs ih =>
    rw [List.foldlM_cons] at h
    cases hx : f b x with
    | error e' =>
      rw [hx] at h
      cases h
      exact ⟨x, List.mem_cons_self, b, hx⟩
    | ok next =>
      rw [hx] at h
      obtain ⟨y, hy, found⟩ := ih h
      exact ⟨y, List.mem_cons_of_mem _ hy, found⟩

end Folding

end Except

/-- A computation fails, if it does, with a fault of a kind. -/
def RaisesOnly {ε α : Type} (p : ε → Prop) (x : Except ε α) : Prop := ∀ e, x = .error e → p e

namespace RaisesOnly

variable {ε α β : Type} {p : ε → Prop}

theorem ok (a : α) : RaisesOnly p (.ok a : Except ε α) := by
  intro e h
  cases h

theorem error {e : ε} (h : p e) : RaisesOnly p (.error e : Except ε α) := by
  rintro e' ⟨⟩
  exact h

theorem mono {q : ε → Prop} {x : Except ε α} (h : RaisesOnly p x) (sub : ∀ e, p e → q e) :
    RaisesOnly q x :=
  fun e failed => sub e (h e failed)

theorem bind {x : Except ε α} {f : α → Except ε β} (hx : RaisesOnly p x)
    (hf : ∀ a, RaisesOnly p (f a)) : RaisesOnly p (x >>= f) := by
  cases x with
  | error e => exact error (hx e rfl)
  | ok a => exact hf a

theorem map {x : Except ε α} {f : α → β} (hx : RaisesOnly p x) : RaisesOnly p (f <$> x) := by
  cases x with
  | error e => exact error (hx e rfl)
  | ok a => exact ok (f a)

/-- Faults of another kind become those of this one. -/
theorem mapError {δ : Type} {x : Except δ α} {f : δ → ε} (hf : ∀ e, p (f e)) :
    RaisesOnly p (x.mapError f) := by
  cases x with
  | error e => exact error (hf e)
  | ok a => exact ok a

theorem mapM {f : α → Except ε β} {xs : List α} (hf : ∀ x ∈ xs, RaisesOnly p (f x)) :
    RaisesOnly p (xs.mapM f) := by
  induction xs with
  | nil => exact ok []
  | cons x xs ih =>
    rw [List.mapM_cons]
    obtain ⟨first, others⟩ := List.forall_mem_cons.mp hf
    exact first.bind fun y => (ih others).bind fun ys => ok (y :: ys)

theorem foldlM {f : β → α → Except ε β} {xs : List α} (b : β) (hf : ∀ b x, RaisesOnly p (f b x)) :
    RaisesOnly p (xs.foldlM f b) := by
  intro e h
  obtain ⟨x, -, b', step⟩ := Except.foldlM_eq_error h
  exact hf b' x e step

end RaisesOnly

end FormEngine
