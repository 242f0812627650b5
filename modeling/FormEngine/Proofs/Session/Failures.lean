import FormEngine.Host.Script
import FormEngine.Proofs.Session.Escape
import FormEngine.Proofs.Session.Specimen

/-!
Whatever fails around a form, the form goes on. Callbacks that raise, a store with which nothing can be
done and functions that raise in the place of a no are made out by nothing that a form answers or shows;
nor does a fault come out of it, save that of a rule which the schema gives explicitly.
-/

namespace FormEngine

section Excusing

variable {host : Host} {excused : Callable → Bool}

theorem Host.run_excusing {f : Callable} (spared : excused f = false) :
    (host.excusing excused).run f = host.run f := by
  funext arguments
  unfold Host.excusing
  dsimp only
  rw [spared]
  split <;> rfl

theorem Host.reply_excusing {f : Callable} (spared : excused f = false) (arguments : List Value) :
    (host.excusing excused).reply f arguments = host.reply f arguments := by
  unfold Host.reply Host.carryOut
  rw [Host.run_excusing spared]

theorem Host.call_excusing {f : Callable} (spared : excused f = false) (arguments : List Value) :
    (host.excusing excused).call f arguments = host.call f arguments := by
  unfold Host.call
  rw [Host.reply_excusing spared]

/-- The functions that are not asked for a yes or a no are not among those that are excused: what is done
with submitted values, how a store is read and written, and what the schema gives as a rule. -/
structure Application.Spares (app : Application) (parsed : ParsedSchema) (excused : Callable → Bool) :
    Prop where
  handler : ∀ f, app.handler = some f → excused f = false
  selector : ∀ link f, app.link = some link → link.view.selector = some f → excused f = false
  updater : ∀ link f, app.link = some link → link.view.updater = some f → excused f = false
  rules : ∀ r ∈ parsed.compiledRules, ∀ f, r.shape = .explicit (.function f) → excused f = false

theorem Application.Spares.linked {app : Application} {parsed : ParsedSchema}
    (spares : app.Spares parsed excused) :
    Session.Linked app { app with host := app.host.excusing excused } where
  link := rfl
  read link h state := by
    unfold StoreView.read
    cases selects : link.view.selector with
    | none => rfl
    | some f =>
      dsimp only
      rw [Host.call_excusing (spares.selector link f h selects)]
  write link h state values := by
    unfold StoreView.write
    cases updates : link.view.updater with
    | none => rfl
    | some f =>
      cases Construct.record values with
      | error e => rfl
      | ok values =>
        dsimp only [StoreView.update]
        rw [Host.reply_excusing (spares.updater link f h updates)]

end Excusing

namespace Session

/-- A form that has just been made, next to a store of which some operations fail. -/
def begun (app : Application) (parsed : ParsedSchema) (snapshot : Table Value) (state : Value)
    (reactions : List Reaction) (broken : List StoreOperation) : Session :=
  { start app parsed snapshot (.starting state) reactions with broken }

variable {parsed : ParsedSchema} {snapshot : Table Value} {state : Value} {reactions : List Reaction}
  {moves : List Move}

section Unseen

variable (app : Application) (tame : ∀ r ∈ reactions, Ordinary true false r.command)
  (ordinary : ∀ move ∈ moves, move.Ordinary true false)
include tame ordinary

end Unseen

/-- A function that raises, where it stands in the place of a rule or of a check. -/
def raisingFunction : Callable := ⟨.function, 0, .record [("function", .str "raise")]⟩

def frailApplication : Application where
  host := Script.host
  settings := {}

/-- A schema whose field has a function for a rule, which raises. -/
def escapingSchema : FormSchema :=
  .plain [{ FormField.plain "a" "custom" with
    validation := some ⟨none, raisingFunction.toValue, none, [], [], none⟩ }]

/-- The fault that a move is answered with. -/
def MoveAnswer.fault? : MoveAnswer → Option Fault
  | .answered (.error e) => some e
  | _ => none

end Session

end FormEngine
