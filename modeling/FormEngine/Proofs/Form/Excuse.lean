import FormEngine.Form.Check

/-!
Two hosts of which one says no where the other may raise. Whoever asks a function of the application for
a yes or a no takes a fault for a no, so that conditions and checks come out the same with either host.
What a function does on the way, and what it alters, is the same as well.
-/

namespace FormEngine

/-- An outcome, or a no in the place of a fault. -/
def Excused (outcome other : Except Fault Value) : Prop :=
  other = outcome ∨ (∃ e, outcome = .error e) ∧ other = .ok (.bool false)

/-- The functions of the other host do what those of a host do; where one raises, it may say no. -/
structure Host.Excuses (host other : Host) : Prop where
  delay : other.delay = host.delay
  events (f arguments) : (other.run f arguments).events = (host.run f arguments).events
  altered (f arguments) : (other.run f arguments).altered = (host.run f arguments).altered
  outcome (f arguments) : Excused (host.run f arguments).outcome (other.run f arguments).outcome

/-- The host in which some functions say no where they raised. -/
def Host.excusing (host : Host) (excused : Callable → Bool) : Host :=
  { host with run := fun f arguments =>
      let reply := host.run f arguments
      match reply.outcome with
      | .ok _ => reply
      | .error _ => if excused f then { reply with outcome := .ok (.bool false) } else reply }

namespace Host.Excuses

theorem refl (host : Host) : host.Excuses host :=
  ⟨rfl, fun _ _ => rfl, fun _ _ => rfl, fun _ _ => .inl rfl⟩

theorem excusing (host : Host) (excused : Callable → Bool) :
    host.Excuses (host.excusing excused) := by
  have each (f : Callable) (arguments : List Value) :
      ∃ outcome, Excused (host.run f arguments).outcome outcome ∧
        (host.excusing excused).run f arguments = { host.run f arguments with outcome } := by
    unfold Host.excusing
    dsimp only
    split
    · exact ⟨_, .inl rfl, rfl⟩
    · next e raised =>
      split
      · exact ⟨_, .inr ⟨⟨e, raised⟩, rfl⟩, rfl⟩
      · exact ⟨_, .inl rfl, rfl⟩
  refine ⟨rfl, fun f arguments => ?_, fun f arguments => ?_, fun f arguments => ?_⟩
  · obtain ⟨outcome, -, same⟩ := each f arguments
    rw [same]
  · obtain ⟨outcome, -, same⟩ := each f arguments
    rw [same]
  · obtain ⟨outcome, excused, same⟩ := each f arguments
    rw [same]
    exact excused

end Host.Excuses

/-- A fault and a no are complained of alike. -/
theorem complaint?_excused {outcome other : Except Fault Value} (h : Excused outcome other)
    (message : String) : complaint? other message = complaint? outcome message := by
  rcases h with rfl | ⟨⟨e, rfl⟩, rfl⟩ <;> rfl

namespace Host.Excuses

variable {host other : Host} (excuses : host.Excuses other) (f : Callable) (arguments : List Value)
include excuses

theorem carryOut_frame : ∃ outcome, Excused (host.carryOut f arguments).outcome outcome ∧
    other.carryOut f arguments = { host.carryOut f arguments with outcome } := by
  refine ⟨(other.run f arguments).outcome, excuses.outcome f arguments, ?_⟩
  unfold Host.carryOut
  dsimp only
  rw [excuses.altered, ← excuses.events]

theorem reply_frame : ∃ outcome, Excused (host.reply f arguments).outcome outcome ∧
    other.reply f arguments = { host.reply f arguments with outcome } := by
  unfold Host.reply
  split
  · exact ⟨_, .inl rfl, rfl⟩
  · exact excuses.carryOut_frame f arguments

/-- What is waited for without being deferred is a fault in either case. -/
theorem awaited_frame (message : String) :
    ∃ outcome, complaint? outcome message = complaint? (host.awaited f arguments).outcome message ∧
      other.awaited f arguments = { host.awaited f arguments with outcome } := by
  obtain ⟨outcome, excused, same⟩ := excuses.carryOut_frame f arguments
  unfold Host.awaited
  dsimp only
  rw [same]
  split
  · exact ⟨outcome, complaint?_excused excused message, rfl⟩
  · refine ⟨_, ?_, rfl⟩
    rcases excused with rfl | ⟨⟨e, raised⟩, rfl⟩
    · rfl
    · rw [raised]
      rfl

end Host.Excuses

section Conditions

variable {host other : Host} (excuses : host.Excuses other)
include excuses

theorem ConditionalRule.ask_excused (r : ConditionalRule) (actual : Value) (values : Table Value) :
    r.ask other actual values = r.ask host actual values := by
  unfold ask
  cases r.predicate with
  | none => rfl
  | some f =>
    obtain ⟨outcome, excused, same⟩ := excuses.reply_frame f [actual, .record values]
    dsimp only [Host.call]
    rw [same]
    rcases excused with rfl | ⟨⟨e, raised⟩, rfl⟩
    · rfl
    · rw [raised]
      rfl

theorem ConditionalRule.evaluate_excused (r : ConditionalRule) (values : Table Value) :
    r.evaluate other values = r.evaluate host values := by
  unfold evaluate
  dsimp only
  rw [r.ask_excused excuses]

namespace Conditions

theorem allHold_excused (values : Table Value) (rules : List ConditionalRule) :
    allHold other values rules = allHold host values rules := by
  induction rules with
  | nil => rfl
  | cons r rules ih => rw [allHold, allHold, r.evaluate_excused excuses, ih]

theorem someHolds_excused (values : Table Value) (rules : List ConditionalRule) :
    someHolds other values rules = someHolds host values rules := by
  induction rules with
  | nil => rfl
  | cons r rules ih => rw [someHolds, someHolds, r.evaluate_excused excuses, ih]

theorem admits_excused (values : Table Value) (wanted unwanted : List ConditionalRule) :
    admits other values wanted unwanted = admits host values wanted unwanted := by
  unfold admits
  rw [allHold_excused excuses, someHolds_excused excuses]

end Conditions

theorem FieldAttributes.state_excused (f : FieldAttributes) (values : Table Value) :
    f.state other values = f.state host values := by
  unfold state
  simp only [Conditions.admits_excused excuses, Conditions.someHolds_excused excuses]

end Conditions

end FormEngine
