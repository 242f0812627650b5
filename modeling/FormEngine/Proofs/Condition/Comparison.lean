import FormEngine.Condition
import FormEngine.Proofs.Schema.Specimen
import FormEngine.Proofs.Value.Order
import FormEngine.Schema.Load

/-!
The operators of conditions as an algebra. An operator and its negation disagree about any two values
that they can compare, and about values without NaNs and sets in them the four operators of order say
either nothing or what one order of the two values says. What cannot be compared makes a rule fail, and
so does a predicate that raises.
-/

namespace FormEngine

namespace Operator

/-- A value that cannot be in a set cannot be looked up in one, unless it is a set itself. -/
def Unfit (x container : Value) : Prop :=
  (∃ ys, container = .set ys) ∧ (∀ xs, x ≠ .set xs) ∧ x.hashable = false

theorem Unfit.not_of_not_set {x container : Value} (h : ∀ ys, container ≠ .set ys) : ¬ Unfit x container := by
  rintro ⟨⟨ys, same⟩, -⟩
  exact h ys same

theorem occursIn?_eq_none_iff {x container : Value} (h : container.elements?.isSome = true) :
    x.occursIn? container = none ↔ Unfit x container := by
  cases container with
  | list ys => exact iff_of_false (Option.some_ne_none _) (Unfit.not_of_not_set fun _ => by simp)
  | tuple ys => exact iff_of_false (Option.some_ne_none _) (Unfit.not_of_not_set fun _ => by simp)
  | set ys =>
    cases x with
    | set xs =>
      refine iff_of_false (Option.some_ne_none _) ?_
      rintro ⟨-, apart, -⟩
      exact apart xs rfl
    | _ => simp [Value.occursIn?, Unfit]
  | _ => cases h

theorem contains?_eq_none_iff {actual expected : Value} :
    contains? actual expected = none ↔ Unfit expected actual := by
  unfold contains?
  split
  · next text =>
    refine iff_of_false (Option.some_ne_none _) (Unfit.not_of_not_set ?_)
    rintro ys rfl
    cases text
  · split
    · next collection => exact occursIn?_eq_none_iff collection
    · next plain =>
      refine iff_of_false (Option.some_ne_none _) (Unfit.not_of_not_set ?_)
      rintro ys rfl
      exact plain rfl

theorem memberOf?_eq_none_iff {actual expected : Value} :
    memberOf? actual expected = none ↔ Unfit actual expected := by
  unfold memberOf?
  split
  · next collection => exact occursIn?_eq_none_iff collection
  · next plain =>
    refine iff_of_false (Option.some_ne_none _) (Unfit.not_of_not_set ?_)
    rintro ys rfl
    exact plain rfl

/-- What an operator says of two values; of what it cannot compare it says no. -/
def verdict (actual expected : Value) (o : Operator) : Bool := (o.compare? actual expected).getD false

/-- A question and its negation are never both answered with yes, and with no only if neither has an
answer. -/
theorem opposed (answer : Option Bool) :
    (answer.getD false && (answer.map (!·)).getD false) = false ∧
      ((answer.getD false = false ∧ (answer.map (!·)).getD false = false) ↔ answer = none) := by
  cases answer with
  | none => simp
  | some b => cases b <;> simp

theorem eq_some_of_getD {answer : Option Bool} (h : answer.getD false = true) : answer = some true := by
  cases answer with
  | none => cases h
  | some b => exact congrArg some h

/-- What a family of answers has to be like for operators to mean what they are called. -/
structure Consistent (actual expected : Value) (answers : Operator → Bool) : Prop where
  equality : answers .notEquals = !answers .equals
  emptiness : answers .isNotEmpty = !answers .isEmpty
  containment : (answers .contains && answers .notContains) = false ∧
    ((answers .contains = false ∧ answers .notContains = false) ↔ Unfit expected actual)
  membership : (answers .memberOf && answers .notMemberOf) = false ∧
    ((answers .memberOf = false ∧ answers .notMemberOf = false) ↔ Unfit actual expected)
  order : actual.Orderly → expected.Orderly →
    actual.relate? expected = none ∧
      (∀ o ∈ [greaterThan, lessThan, greaterOrEqual, lessOrEqual], answers o = false) ∨
    (actual.relate? expected).isSome = true ∧
      [answers .greaterThan, answers .lessThan, answers .equals].count true = 1 ∧
      answers .greaterOrEqual = !answers .lessThan ∧ answers .lessOrEqual = !answers .greaterThan

section Order

variable {actual expected : Value}

theorem verdict_equals (h : actual.Definite) (expected : Value) :
    verdict actual expected .equals = actual.same expected := by
  change actual.equal expected = _
  cases actual with
  | float x =>
    cases x with
    | nan payload => cases h
    | _ => rfl
  | _ => rfl

theorem verdict_order (ha : actual.Orderly) (he : expected.Orderly) :
    (verdict actual expected .lessThan = ((actual.relate? expected).map (· == .less)).getD false ∧
    verdict actual expected .lessOrEqual =
      ((actual.relate? expected).map fun r => r == .less || r == .equal).getD false) ∧
    verdict actual expected .greaterThan = ((actual.relate? expected).map (· == .greater)).getD false ∧
    verdict actual expected .greaterOrEqual =
      ((actual.relate? expected).map fun r => r == .greater || r == .equal).getD false := by
  refine ⟨⟨rfl, rfl⟩, ?_⟩
  change ((expected.relate? actual).map _).getD false = _ ∧
    ((expected.relate? actual).map _).getD false = _
  rw [Value.relate?_swap ha he]
  cases actual.relate? expected with
  | none => exact ⟨rfl, rfl⟩
  | some r => cases r <;> exact ⟨rfl, rfl⟩

/-- The operators of order say nothing of two values, or what their one order says. -/
theorem verdict_ordered (ha : actual.Orderly) (he : expected.Orderly) :
    actual.relate? expected = none ∧
      (∀ o ∈ [greaterThan, lessThan, greaterOrEqual, lessOrEqual], verdict actual expected o = false) ∨
    (actual.relate? expected).isSome = true ∧
      [verdict actual expected .greaterThan, verdict actual expected .lessThan,
        verdict actual expected .equals].count true = 1 ∧
      verdict actual expected .greaterOrEqual = !verdict actual expected .lessThan ∧
      verdict actual expected .lessOrEqual = !verdict actual expected .greaterThan := by
  obtain ⟨⟨less, lessEqual⟩, greater, greaterEqual⟩ := verdict_order ha he
  have equals := verdict_equals ha.definite expected
  cases related : actual.relate? expected with
  | none =>
    rw [related] at less lessEqual greater greaterEqual
    refine .inl ⟨rfl, ?_⟩
    simp [less, lessEqual, greater, greaterEqual]
  | some r =>
    rw [related] at less lessEqual greater greaterEqual
    obtain ⟨comparable, equal⟩ := Value.relate?_sound ha he related
    refine .inr ⟨rfl, ?_⟩
    rw [less, lessEqual, greater, greaterEqual, equals]
    cases r with
    | incomparable => exact absurd rfl comparable
    | equal => simp [equal.mp rfl]
    | less =>
      have differ := Bool.eq_false_iff.mpr (mt equal.mpr nofun)
      simp [differ]
    | greater =>
      have differ := Bool.eq_false_iff.mpr (mt equal.mpr nofun)
      simp [differ]

end Order

theorem consistent_verdict (actual expected : Value) :
    Consistent actual expected (verdict actual expected) where
  equality := rfl
  emptiness := rfl
  containment := by
    rw [← contains?_eq_none_iff]
    exact opposed (contains? actual expected)
  membership := by
    rw [← memberOf?_eq_none_iff]
    exact opposed (memberOf? actual expected)
  order := verdict_ordered

end Operator

namespace ConditionalRule

open Operator

/-- The same rule with another operator. -/
def under (r : ConditionalRule) (o : Operator) : ConditionalRule := { r with operator := some o.word }

/-- A rule holds if its comparison does, or if its predicate answers with something true. -/
inductive Holds (host : Host) (values : Table Value) (r : ConditionalRule) : Prop
  | compared (o : Operator) (operator : r.operator = some o.word)
      (comparison : o.compare? (Value.entry values r.field) r.value = some true) : Holds host values r
  | asked (f : Callable) (outcome : Value) (operator : r.operator = some Operator.custom.word)
      (predicate : r.predicate = some f)
      (answer : (host.call f [Value.entry values r.field, .record values]).value = .ok outcome)
      (true : outcome.truthy = true) : Holds host values r

variable (host : Host) (values : Table Value) (r : ConditionalRule)

theorem evaluate_of_word {o : Operator} (operator : r.operator = some o.word) :
    r.evaluate host values =
      if o = .custom then r.ask host (Value.entry values r.field) values
      else pure (o.verdict (Value.entry values r.field) r.value) := by
  have found : r.operator.bind Operator.ofWord? = some o := by
    rw [operator]
    exact ofWord?_eq_some.mpr rfl
  unfold evaluate
  dsimp only
  rw [found]
  cases o <;> rfl

theorem value_ask (actual : Value) : (r.ask host actual values).value = true ↔
    ∃ f outcome, r.predicate = some f ∧ (host.call f [actual, .record values]).value = .ok outcome ∧
      outcome.truthy = true := by
  unfold ask
  cases r.predicate with
  | none => simp
  | some f =>
    rw [Logged.value_bind]
    cases answer : (host.call f [actual, .record values]).value with
    | error e => simp [answer]
    | ok outcome => simp [answer]

/-- A rule is evaluated to true just if it holds: to false where its operator is unknown, where the two
values cannot be compared, and where its predicate raises or is missing. -/
theorem evaluate_iff_holds : (r.evaluate host values).value = true ↔ r.Holds host values := by
  cases known : r.operator.bind Operator.ofWord? with
  | none =>
    have unknown (o : Operator) : r.operator ≠ some o.word := by
      intro operator
      rw [operator, Option.bind_some, ofWord?_eq_some.mpr rfl] at known
      cases known
    refine iff_of_false ?_ fun
      | .compared o operator _ => unknown o operator
      | .asked f outcome operator _ _ _ => unknown .custom operator
    unfold evaluate
    rw [known]
    exact Bool.false_ne_true
  | some o =>
    obtain ⟨word, operator, found⟩ := Option.bind_eq_some_iff.mp known
    obtain rfl := ofWord?_eq_some.mp found
    have only {o' : Operator} (h : r.operator = some o'.word) : o' = o := by
      rw [h, Option.bind_some, ofWord?_eq_some.mpr rfl] at known
      exact Option.some.inj known
    rw [evaluate_of_word host values r operator]
    split
    · next custom =>
      subst custom
      rw [value_ask]
      constructor
      · rintro ⟨f, outcome, predicate, answer, true⟩
        exact .asked f outcome operator predicate answer true
      · rintro (⟨o', operator', comparison⟩ | ⟨f, outcome, -, predicate, answer, true⟩)
        · rw [only operator'] at comparison
          cases comparison
        · exact ⟨f, outcome, predicate, answer, true⟩
    · next comparing =>
      constructor
      · intro h
        exact .compared o operator (eq_some_of_getD h)
      · rintro (⟨o', operator', comparison⟩ | ⟨f, outcome, operator', -, -, -⟩)
        · rw [only operator'] at comparison
          unfold verdict
          rw [comparison]
          rfl
        · exact (comparing (only operator').symm).elim

/-- What a rule gives for each operator in the place of its own is a consistent family of answers. -/
theorem consistent_under : Consistent (Value.entry values r.field) r.value
    fun o => ((r.under o).evaluate host values).value := by
  have compared (o : Operator) (comparing : o ≠ .custom) :
      ((r.under o).evaluate host values).value = verdict (Value.entry values r.field) r.value o := by
    rw [evaluate_of_word host values (r.under o) rfl, if_neg comparing]
    rfl
  have consistent := consistent_verdict (Value.entry values r.field) r.value
  constructor
  all_goals simp only [compared, ne_eq, reduceCtorEq, not_false_eq_true, List.forall_mem_cons]
  · exact consistent.equality
  · exact consistent.emptiness
  · exact consistent.containment
  · exact consistent.membership
  · exact fun ha he => by simpa [compared] using consistent.order ha he

end ConditionalRule

namespace Load

/-- Where other keys are looked for, it makes no difference what is put under a key. -/
theorem find?_put_of_not_mem {α : Type} (entries : Table α) {key : String} (x : α) {keys : List String}
    (h : key ∉ keys) : find? (entries.put key x) keys = find? entries keys := by
  induction keys with
  | nil => rfl
  | cons k keys ih =>
    obtain ⟨other, rest⟩ := List.ne_and_not_mem_of_not_mem_cons h
    unfold find?
    rw [Table.get?_put_ne entries x other.symm, ih rest]

theorem among_put_of_not_mem {α : Type} (entries : Table Value) {key : String} (x : Value)
    {keys : List String} (h : key ∉ keys) (missing : α) (load : Value → Checked α) :
    among (entries.put key x) keys missing load = among entries keys missing load := by
  unfold among
  rw [find?_put_of_not_mem entries x h]

theorem operator_put (entries : Table Value) (w : String) :
    entry (entries.put "operator" (.str w)) "operator" none operatorWord =
      .ok (some (Operator.canonicalWord w)) := by
  have spelled : spellings "operator" = ["operator", "operator"] := by decide +kernel
  unfold entry among
  rw [spelled]
  unfold find?
  rw [Table.get?_put_self]
  rfl

/-- A rule is loaded the same under each of two words that stand for one operator. -/
theorem conditionalRule_congr (entries : Table Value) {w w' : String}
    (same : Operator.canonicalWord w = Operator.canonicalWord w') :
    conditionalRule (.record (entries.put "operator" (.str w))) =
      conditionalRule (.record (entries.put "operator" (.str w'))) := by
  have others (w : String) : conditionalRule (.record (entries.put "operator" (.str w))) =
      (ConditionalRule.mk <$> entry entries "field" "" Scalar.text
        <*> .ok (some (Operator.canonicalWord w)) <*> entry entries "value" .null Scalar.any
        <*> among entries predicateKeys none (Scalar.optional callable)) := by
    change (ConditionalRule.mk <$> entry (entries.put "operator" (.str w)) "field" "" Scalar.text
        <*> entry (entries.put "operator" (.str w)) "operator" none operatorWord
        <*> entry (entries.put "operator" (.str w)) "value" .null Scalar.any
        <*> among (entries.put "operator" (.str w)) predicateKeys none (Scalar.optional callable)) = _
    rw [operator_put]
    unfold entry
    rw [among_put_of_not_mem entries (.str w) (by decide +kernel),
      among_put_of_not_mem entries (.str w) (by decide +kernel),
      among_put_of_not_mem entries (.str w) (by decide +kernel)]
  rw [others w, others w', same]

end Load

namespace ConditionalRule

open Operator

/-- The longer words for operators, with the operators that they stand for. -/
def longWords : List (String × Operator) :=
  [("greater_than_or_equal", .greaterOrEqual), ("less_than_or_equal", .lessOrEqual)]

theorem canonicalWord_of_mem {p : String × Operator} (h : p ∈ longWords) :
    canonicalWord p.1 = canonicalWord p.2.word := by
  simp only [longWords, List.mem_cons, List.not_mem_nil, or_false] at h
  rcases h with rfl | rfl <;> decide +kernel

/-- A rule is evaluated to true exactly if it holds, whatever its operator and its predicate are and
whatever the values; with one operator or another in it, its answers are those of a consistent family;
and it is loaded the same from the longer word for an operator as from the operator's own. -/
theorem comparisons_consistent (host : Host) (r : ConditionalRule) (values : Table Value) :
    ((r.evaluate host values).value = true ↔ r.Holds host values) ∧
    Consistent (Value.entry values r.field) r.value (fun o => ((r.under o).evaluate host values).value) ∧
    ∀ (entries : Table Value), ∀ p ∈ longWords,
      Load.conditionalRule (.record (entries.put "operator" (.str p.1))) =
        Load.conditionalRule (.record (entries.put "operator" (.str p.2.word))) :=
  ⟨evaluate_iff_holds host values r, consistent_under host values r,
    fun entries _ h => Load.conditionalRule_congr entries (canonicalWord_of_mem h)⟩

/-- A list with a number, a record and a text in it. -/
def mixed (number : Value) (text : String) : Value :=
  .list [number, .record [("k", .list [.float (.ofInt 2)])], .str text]

theorem plain {v : Value} (own : v.Distinct ∧ v.Definite) (whole : v.parts = []) : v.Orderly :=
  .intro own (by rw [whole]; exact nofun)

theorem orderly_mixed {number : Value} (h : number.Orderly) (text : String) :
    (mixed number text).Orderly := by
  have definite : (Binary64.ofInt 2).isNaN = false := by decide +kernel
  have two : (Value.float (.ofInt 2)).Orderly := plain ⟨trivial, definite⟩ rfl
  have inner : (Value.list [.float (.ofInt 2)]).Orderly := by
    refine .intro ⟨trivial, trivial⟩ fun w hw => ?_
    rwa [List.mem_singleton.mp hw]
  have record : (Value.record [("k", .list [.float (.ofInt 2)])]).Orderly := by
    refine .intro ⟨List.nodup_singleton _, trivial⟩ fun w hw => ?_
    rwa [List.mem_singleton.mp hw]
  refine .intro ⟨trivial, trivial⟩ (List.forall_mem_cons.mpr ⟨h, List.forall_mem_cons.mpr ⟨record, ?_⟩⟩)
  intro w hw
  rw [List.mem_singleton.mp hw]
  exact plain ⟨trivial, trivial⟩ rfl

/-- A rule about a list that holds the number one, for a form where the truth value stands in its place. -/
def mixedRule : ConditionalRule := ⟨"a", none, mixed (.int 1) "y", none⟩

/-- One is what true counts as and the records are equal, so that the texts decide. -/
theorem mixed_lists_ordered :
    let values : Table Value := [("a", mixed (.bool true) "x")]
    let answers := fun o => ((mixedRule.under o).evaluate (.constant .null (.zero false)) values).value
    (mixed (.bool true) "x").Orderly ∧ (mixed (.int 1) "y").Orderly ∧
      [answers .greaterThan, answers .lessThan, answers .equals].count true = 1 ∧
      answers .greaterOrEqual = !answers .lessThan ∧ answers .lessOrEqual = !answers .greaterThan := by
  intro values answers
  have true : (Value.bool true).Orderly := plain ⟨trivial, trivial⟩ rfl
  have one : (Value.int 1).Orderly := plain ⟨trivial, trivial⟩ rfl
  have actual := orderly_mixed true "x"
  have expected := orderly_mixed one "y"
  have consistent := (comparisons_consistent (.constant .null (.zero false)) mixedRule values).2.1
  rcases consistent.order actual expected with ⟨unrelated, -⟩ | ⟨-, ordered⟩
  · exact absurd unrelated (by decide +kernel)
  · exact ⟨actual, expected, ordered⟩

end ConditionalRule

end FormEngine
