import FormEngine.Form.Check
import FormEngine.Form.Session
import FormEngine.Host.Script
import FormEngine.Proofs.Form.Fresh

/-!
What is seen on the way to a result. Functions of the host may report what they do; as long as none of
them poses as a callback, evaluating conditions, checking, reading and writing a store and rendering are
seen without one: the application is called back by the form alone.
-/

namespace FormEngine

/-- None of some events is a callback. -/
def Silent (events : List Event) : Prop := ∀ e ∈ events, e.occasion? = none

theorem Silent.nil : Silent [] := by simp [Silent]

theorem Silent.append {events others : List Event} (h : Silent events) (h' : Silent others) :
    Silent (events ++ others) := by
  intro e he
  rcases List.mem_append.mp he with he | he
  · exact h e he
  · exact h' e he

/-- No function of the host poses as a callback. -/
def Host.Discreet (host : Host) : Prop := ∀ f arguments, Silent (host.run f arguments).events

/-- Scripted functions report no more than that they were called. -/
theorem Script.host_discreet : Script.host.Discreet := by
  intro f arguments
  change Silent (Script.reply f arguments).events
  unfold Script.reply
  split
  · exact .nil
  · exact .nil
  · exact .nil
  · exact .nil
  · exact .nil
  · exact .nil
  · dsimp only
    split
    · simp [Silent, Event.occasion?]
    · exact .nil

/-- Nothing that the application supplies poses as a callback of it. -/
structure Application.Discreet (app : Application) : Prop where
  host : app.host.Discreet
  observer : ∀ observe, app.settings.observer = some observe → ∀ e, Silent (observe e).events

namespace Logged

variable {α β γ : Type}

theorem silent_pure (a : α) : Silent (pure a : Logged α).events := .nil

theorem silent_bind {x : Logged α} {f : α → Logged β} (h : Silent x.events)
    (next : ∀ a, Silent (f a).events) : Silent (x >>= f).events :=
  h.append (next x.value)

theorem silent_mapM {f : α → Logged β} (step : ∀ a, Silent (f a).events) (xs : List α) :
    Silent (xs.mapM f).events := by
  induction xs with
  | nil => exact silent_pure []
  | cons x xs ih =>
    rw [List.mapM_cons]
    exact silent_bind (step x) fun y => silent_bind ih fun ys => silent_pure _

theorem silent_foldlM {f : β → α → Logged β} (step : ∀ b a, Silent (f b a).events) (b : β)
    (xs : List α) : Silent (xs.foldlM f b).events := by
  induction xs generalizing b with
  | nil => exact silent_pure b
  | cons x xs ih =>
    rw [List.foldlM_cons]
    exact silent_bind (step b x) fun b => ih b

end Logged

open Logged

section Host

variable {host : Host} (discreet : host.Discreet)
include discreet

theorem Host.Discreet.reply (f : Callable) (arguments : List Value) :
    Silent (host.reply f arguments).events := by
  unfold Host.reply
  split
  · exact .nil
  · exact discreet f arguments

theorem Host.Discreet.awaited (f : Callable) (arguments : List Value) :
    Silent (host.awaited f arguments).events := by
  unfold Host.awaited
  dsimp only
  split <;> exact discreet f arguments

theorem Host.Discreet.call (f : Callable) (arguments : List Value) :
    Silent (host.call f arguments).events :=
  discreet.reply f arguments

theorem ConditionalRule.silent_evaluate (r : ConditionalRule) (values : Table Value) :
    Silent (r.evaluate host values).events := by
  have asked (actual : Value) : Silent (r.ask host actual values).events := by
    unfold ask
    split
    · exact silent_pure _
    · refine silent_bind (discreet.call _ _) fun outcome => ?_
      cases outcome <;> exact silent_pure _
  unfold evaluate
  dsimp only
  split
  · exact silent_pure _
  · exact asked _
  · exact silent_pure _

namespace Conditions

theorem silent_allHold (values : Table Value) (rules : List ConditionalRule) :
    Silent (allHold host values rules).events := by
  induction rules with
  | nil => exact silent_pure _
  | cons r rules ih =>
    refine silent_bind (r.silent_evaluate discreet values) fun holds => ?_
    cases holds
    · exact silent_pure _
    · exact ih

theorem silent_someHolds (values : Table Value) (rules : List ConditionalRule) :
    Silent (someHolds host values rules).events := by
  induction rules with
  | nil => exact silent_pure _
  | cons r rules ih =>
    refine silent_bind (r.silent_evaluate discreet values) fun holds => ?_
    cases holds
    · exact ih
    · exact silent_pure _

theorem silent_admits (values : Table Value) (wanted unwanted : List ConditionalRule) :
    Silent (admits host values wanted unwanted).events := by
  refine silent_bind (silent_allHold discreet values wanted) fun holds => ?_
  cases holds
  · exact silent_pure _
  · exact silent_bind (silent_someHolds discreet values unwanted) fun _ => silent_pure _

end Conditions

theorem FieldAttributes.silent_state (f : FieldAttributes) (values : Table Value) :
    Silent (f.state host values).events := by
  unfold state
  split
  · exact silent_pure _
  · refine silent_bind (Conditions.silent_admits discreet _ _ _) fun _ => ?_
    refine silent_bind (Conditions.silent_admits discreet _ _ _) fun _ => ?_
    dsimp only
    split
    · exact silent_pure _
    · exact silent_bind (Conditions.silent_someHolds discreet _ _) fun _ => silent_pure _

theorem FieldRule.silent_violations (r : FieldRule) (v : Value) :
    Silent (r.violations host v).events := by
  unfold violations Verdict.settle
  split
  · exact silent_pure _
  · exact silent_pure _
  · exact silent_bind (discreet.call _ _) fun _ => silent_pure _

namespace Form

theorem silent_seed (f : Form) : Silent (f.seed host).events :=
  silent_bind (silent_mapM (fun _ =>
    silent_bind (FieldAttributes.silent_state discreet _ _) fun _ => silent_pure _) _)
    fun _ => silent_pure _

theorem silent_setSnapshot (snapshot : Table Value) (f : Form) :
    Silent (f.setSnapshot host snapshot).events := by
  unfold setSnapshot
  split
  · exact silent_pure _
  · exact silent_seed discreet _

theorem silent_refresh (changed : List String) (f : Form) :
    Silent (f.refresh host changed).events := by
  refine silent_foldlM (fun f id => ?_) f _
  unfold evaluateField
  split
  · exact silent_pure _
  · exact silent_bind (FieldAttributes.silent_state discreet _ _) fun _ => silent_pure _

theorem silent_fieldComplaints (p : ParsedField) (f : Form) :
    Silent (f.fieldComplaints host p).events := by
  have checked (v : Value) : Silent (f.valueComplaints host p v).events := by
    have asked (messages : List String) : Silent
        ((p.field.validation.elim [] FieldValidation.custom).foldlM (askRule host p.id)
          (f, messages)).events :=
      silent_foldlM (fun _ _ => discreet.reply _ _) _ _
    unfold valueComplaints
    cases p.rule with
    | none =>
      dsimp only
      rw [pure_bind]
      exact silent_bind (asked []) fun _ => silent_pure _
    | some r =>
      refine silent_bind (silent_bind (FieldRule.silent_violations discreet _ _)
        fun _ => silent_pure _) fun outcome => ?_
      cases outcome with
      | error e => exact silent_pure _
      | ok messages => exact silent_bind (asked messages) fun _ => silent_pure _
  unfold fieldComplaints
  dsimp only
  split
  · exact silent_pure _
  · split
    · exact silent_pure _
    · exact checked _

theorem silent_complaintsAt (id : String) (f : Form) : Silent (f.complaintsAt host id).events := by
  unfold complaintsAt
  split
  · exact silent_fieldComplaints discreet _ f
  · exact silent_pure _

theorem silent_recheck (id : String) (f : Form) : Silent (f.recheck host id).events := by
  refine silent_bind (silent_complaintsAt discreet id f) fun found => ?_
  dsimp only
  split <;> exact silent_pure _

theorem silent_fieldsComplaints (ps : List ParsedField) (f : Form) :
    Silent (f.fieldsComplaints host ps).events := by
  induction ps generalizing f with
  | nil => exact silent_pure _
  | cons p ps ih =>
    refine silent_bind (silent_fieldComplaints discreet p f) fun found => ?_
    split
    · exact silent_pure _
    · exact silent_bind (ih _) fun _ => silent_pure _

theorem silent_formComplaints (f : Form) : Silent (f.formComplaints host).events := by
  have ruled : Silent (f.ruleComplaints host f.resolved).events := by
    unfold ruleComplaints
    split
    · exact silent_bind (FieldRule.silent_violations discreet _ _) fun _ => silent_pure _
    · exact silent_pure _
  refine silent_bind ruled fun found => ?_
  split
  · exact silent_pure _
  · refine silent_bind (silent_mapM (fun _ => ?_) _) fun _ => silent_pure _
    exact silent_bind (discreet.call _ _) fun _ => silent_pure _

theorem silent_complaints (f : Form) : Silent (f.complaints host).events := by
  refine silent_bind (silent_fieldsComplaints discreet _ f) fun found => ?_
  split
  · exact silent_pure _
  · exact silent_bind (silent_formComplaints discreet _) fun _ => silent_pure _

end Form

namespace StoreView

theorem silent_read (view : StoreView) (state : Value) : Silent (view.read host state).events := by
  unfold read
  split
  · exact silent_pure _
  · exact silent_bind (discreet.call _ _) fun _ => silent_pure _

theorem silent_write (view : StoreView) (state values : Value) :
    Silent (view.write host state values).events := by
  unfold write
  split
  · exact discreet.reply _ _
  · exact silent_pure _
  · exact silent_pure _

end StoreView

end Host

theorem Form.silent_render {app : Application} (discreet : app.Discreet) (f : Form) :
    Silent (f.render app.settings app.disabled).events := by
  have reported (e : Fault) : Silent (app.settings.report e).events := by
    unfold RenderSettings.report
    split
    · exact silent_pure _
    · next observe told => exact discreet.observer observe told e
  have rendered (c : RenderContext) (field : FormField) :
      Silent (app.settings.render c field).events := by
    unfold RenderSettings.render
    split
    · exact silent_pure _
    · split
      · exact silent_pure _
      · exact silent_bind (reported _) fun _ => silent_pure _
  unfold render
  induction f.visibleFields with
  | nil => exact silent_pure _
  | cons field fields ih =>
    exact silent_bind (rendered _ field) fun _ => silent_bind ih fun _ => silent_pure _

end FormEngine
