import FormEngine.Proofs.Session.Failures
import FormEngine.Proofs.Session.Repose
import Mathlib.Data.List.Chain

/-!
The comings and goings of a form next to a store. Mounting and unmounting are the only operations that
touch what is at stake: whether the form is mounted, who listens to the store, and what the application
is told of it. Everything else, tasks included, leaves that alone; so the three stay in step along every
run, up to a mount that raises. That one leaves the form mounted, unheard of and deaf.
-/

namespace FormEngine

/-- Of an event, whether it tells that the form is there now, or that it is gone. -/
def Event.arrival? : Event → Option Bool
  | .mounted => some true
  | .unmounted => some false
  | _ => none

/-- What events tell of the comings and goings of a form. -/
def arrivals (events : List Event) : List Bool := events.filterMap Event.arrival?

theorem arrivals_append (events others : List Event) :
    arrivals (events ++ others) = arrivals events ++ arrivals others :=
  List.filterMap_append

theorem Silent.arrivals {events : List Event} (h : Silent events) : arrivals events = [] := by
  refine List.filterMap_eq_nil_iff.mpr fun e he => ?_
  have silent := h e he
  cases e <;> first | rfl | cases silent

/-- Whether the application is called back when the form comes, or when it goes. -/
def Application.hearsArrival (app : Application) (here : Bool) : Bool :=
  app.hears (if here then .mount else .unmount)

/-- Commands that neither mount nor unmount a form, nor make its store fail. -/
def FormCommand.IsNeutral : FormCommand → Prop
  | .mount | .unmount | .breakStore _ => False
  | _ => True

/-- Commands that do not make the store fail. -/
def FormCommand.SparesStore : FormCommand → Prop
  | .breakStore _ => False
  | _ => True

namespace Session

variable {app : Application}

/-- Nothing comes or goes. -/
structure Stays (s t : Session) : Prop where
  mounted : t.form.mounted = s.form.mounted
  listeners : t.store.listeners = s.store.listeners
  subscription : t.subscription = s.subscription
  broken : t.broken = s.broken
  told : arrivals t.events = arrivals s.events

namespace Stays

variable {s t u : Session}

/-- A change of the form that does not concern its being mounted. -/
theorem of {f : Form} (mounted : f.mounted = s.form.mounted) : Stays s { s with form := f } :=
  ⟨mounted, rfl, rfl, rfl, rfl⟩

theorem arranged (s : Session) (agenda : Agenda) : Stays s { s with agenda } :=
  ⟨rfl, rfl, rfl, rfl, rfl⟩

theorem refl (s : Session) : Stays s s := .of rfl

theorem trans (h : Stays s t) (h' : Stays t u) : Stays s u where
  mounted := h'.mounted.trans h.mounted
  listeners := h'.listeners.trans h.listeners
  subscription := h'.subscription.trans h.subscription
  broken := h'.broken.trans h.broken
  told := h'.told.trans h.told

theorem noted (s : Session) {events : List Event} (silent : Silent events) :
    Stays s { s with events := s.events ++ events } :=
  ⟨rfl, rfl, rfl, rfl, by rw [arrivals_append, silent.arrivals, List.append_nil]⟩

theorem amended {ps : List ParsedField} {f : Form} (hg : s.form.Amended app.host ps f) :
    Stays s { s with form := f } := by
  obtain ⟨values, parsed, rfl⟩ := hg.frame
  exact .of rfl

theorem recheck (discreet : app.Discreet) (s : Session) (id : String) :
    Stays s (s.recheck app id).1 := by
  have mounted : (s.form.recheck app.host id).value.1.mounted = s.form.mounted := by
    obtain ⟨g, hg, h⟩ := Form.recheck_amended app.host s.form id
    obtain ⟨values, parsed, frame⟩ := hg.frame
    rcases h with h | ⟨messages, -, h⟩
    · rw [h, frame]
    · rw [h, frame]
      rfl
  exact (noted s (Form.silent_recheck discreet.host id s.form)).trans ⟨mounted, rfl, rfl, rfl, rfl⟩

theorem inquire (app : Application) (s : Session) (id : String) : Stays s (s.inquire app id) := by
  unfold Session.inquire
  split
  · exact .refl s
  · split
    · exact .refl s
    · dsimp only
      split
      · exact ⟨rfl, rfl, rfl, rfl, rfl⟩
      · exact .of rfl

theorem course (discreet : app.Discreet) : Course app FormCommand.IsNeutral Stays where
  refl := refl
  trans := trans
  remembered _ _ _ _ _ := ⟨rfl, rfl, rfl, rfl, rfl⟩
  noted s events silent := noted s (silent discreet)
  calledBack s e o ho hears arises := by
    have silent : arrivals [e] = [] := by
      cases e <;> first | rfl | exact arises.elim
    exact ⟨rfl, rfl, rfl, rfl, by rw [arrivals_append, silent, List.append_nil]⟩
  committed s t changes h := by
    obtain ⟨states, frame⟩ := Form.refresh_frame app.host changes.keys (s.form.put changes)
    rw [frame] at h
    have put : Stays s { s with form := { s.form.put changes with fieldStates := states } } := .of rfl
    refine (put.trans h).trans ?_
    exact reconsiderAll_keeps refl trans (fun s _ id _ => recheck discreet s id)
      (fun s id _ => inquire app s id) (fun _ _ => .of rfl) t
  weighed _ := .of rfl
  deferred s := .arranged s _
  tookOver s t _ h := ⟨h.mounted, h.listeners, h.subscription, h.broken, h.told⟩
  altered _ _ _ := ⟨rfl, rfl, rfl, rfl, rfl⟩
  shared _ _ _ _ _ _ _ := ⟨rfl, rfl, rfl, rfl, rfl⟩
  touched _ _ := .of rfl
  rechecked := recheck discreet
  probed s id := amended (Form.complaintsAt_amended app.host s.form id)
  checked s := amended (Form.complaints_amended app.host s.form)
  settled _ _ _ := .of rfl
  reported s := by
    obtain ⟨reported, frame⟩ := s.form.report_frame
    rw [frame]
    exact .of rfl
  seeded _ := .of rfl
  stored _ _ _ := ⟨rfl, rfl, rfl, rfl, rfl⟩
  broke _ _ neutral := neutral.elim
  mounted _ neutral := neutral.elim
  listened _ neutral := neutral.elim
  unmounted _ neutral _ := neutral.elim
  schemaSet _ _ _ _ _ := .of rfl
  snapshotSet s v values _ _ := by
    unfold Form.setSnapshot
    split
    · exact .of rfl
    · exact .of rfl
  arranged s agenda _ := .arranged s agenda
  accepted _ _ _ := .of rfl
  handed _ _ _ := .of rfl
  ended s id epoch fault := by
    obtain ⟨submitting, frame⟩ :=
      Form.endSubmission_frame id epoch { s.form with submitFault := fault }
    rw [frame]
    exact .of rfl

theorem inquireOn (discreet : app.Discreet) (s : Session) (id : Nat) (q : Inquiry)
    (stage : InquiryStage) : Stays s (s.inquireOn app id q stage) := by
  have inquiring : Inquiring app q (fun _ => True) (fun _ => True) Stays := {
    silent := trivial
    told := fun _ _ => trivial
    trans := trans
    noted := fun s _ silent => noted s (silent discreet)
    asked := fun _ _ _ _ => .of rfl
    amended := fun s _ _ v _ _ _ => by
      obtain ⟨values, parsed, frame, -⟩ := Form.amend_frame q.field.id v s.form
      rw [frame]
      exact .of rfl
    complained := fun _ _ _ _ _ _ _ => .of rfl
    slept := fun s _ _ _ _ _ => .arranged s _
    forgot := fun s _ => .arranged s _ }
  exact inquiring.follows_inquireOn id trivial (fun _ _ => trivial) s

end Stays

/-- Nothing comes or goes while tasks run and neutral commands are carried out. -/
theorem Leads.stays (discreet : app.Discreet) {s t : Session}
    (h : Leads app FormCommand.IsNeutral s t) (tame : s.Tame FormCommand.IsNeutral) :
    Stays s t ∧ t.Tame FormCommand.IsNeutral := by
  refine h.keeps (I := Stays s) (Stays.course discreet) (fun h hs => hs.trans h) ?_ tame (.refl s)
  intro u ready id q stage _ hs _
  have popped : Stays s { u with agenda.ready := ready } := hs.trans (.arranged u _)
  exact popped.trans (.inquireOn discreet _ id q stage)

/-- The form comes, or goes, and the application is told just that, if it hears of it. -/
structure Arrives (app : Application) (here : Bool) (s t : Session) : Prop where
  before : s.form.mounted = !here
  after : t.form.mounted = here
  told : arrivals t.events = arrivals s.events ++ [here].filter app.hearsArrival

/-- The form came and went in turns, beginning with its coming, and each time the application was told, if
it hears of it. The form listens to its store once while it is there, and else not at all. -/
structure Orderly (app : Application) (s : Session) : Prop where
  told : ∃ turns : List Bool, (false :: turns).IsChain (· ≠ ·) ∧
    (false :: turns).getLast? = some s.form.mounted ∧
    arrivals s.events = turns.filter app.hearsArrival
  attached : s.subscription.isSome = s.form.mounted
  listeners : s.store.listeners = s.subscription.toList
  broken : s.broken = []

namespace Orderly

variable {s t : Session}

theorem stays (h : Orderly app s) (stays : Stays s t) : Orderly app t where
  told := by
    rw [stays.mounted, stays.told]
    exact h.told
  attached := by
    rw [stays.mounted, stays.subscription]
    exact h.attached
  listeners := by
    rw [stays.listeners, stays.subscription]
    exact h.listeners
  broken := stays.broken.trans h.broken

/-- A form that is not there does not listen, and nobody else does. -/
theorem apart (h : Orderly app s) (apart : s.form.mounted = false) :
    s.subscription = none ∧ s.store.listeners = [] := by
  have attached := h.attached
  rw [apart, Option.isSome_eq_false_iff, Option.isNone_iff_eq_none] at attached
  exact ⟨attached, by rw [h.listeners, attached, Option.toList_none]⟩

/-- Another turn. -/
theorem arrives (h : Orderly app s) {here : Bool} (arrives : Arrives app here s t)
    (attached : t.subscription.isSome = here) (listeners : t.store.listeners = t.subscription.toList)
    (broken : t.broken = []) : Orderly app t where
  told := by
    obtain ⟨turns, alternates, last, told⟩ := h.told
    refine ⟨turns ++ [here], ?_, ?_, ?_⟩
    · rw [← List.cons_append, List.isChain_append]
      refine ⟨alternates, List.isChain_singleton _, ?_⟩
      intro x hx y hy
      rw [last, arrives.before] at hx
      obtain rfl := Option.some.inj hx
      obtain rfl := Option.some.inj hy
      simp
    · rw [← List.cons_append, List.getLast?_concat, arrives.after]
    · rw [arrives.told, told, List.filter_append]
  attached := attached.trans arrives.after.symm
  listeners := listeners
  broken := broken

/-- Where the application hears of both, what it was told alternates and ends with how things are. -/
theorem alternates (h : Orderly app s) (comes : app.hears .mount = true)
    (goes : app.hears .unmount = true) : (false :: arrivals s.events).IsChain (· ≠ ·) ∧
      (false :: arrivals s.events).getLast? = some s.form.mounted := by
  obtain ⟨turns, alternates, last, told⟩ := h.told
  have all : turns.filter app.hearsArrival = turns := by
    refine List.filter_eq_self.mpr fun here _ => ?_
    cases here
    · exact goes
    · exact comes
  rw [told, all]
  exact ⟨alternates, last⟩

end Orderly

/-- A fresh form is not there, and nothing was told of it. -/
theorem begins_orderly (discreet : app.Discreet) {s : Session} (h : Begins app s) :
    Orderly app s := by
  obtain ⟨source, parsed, given, snapshot, state, reactions, -, -, rfl⟩ := h
  refine ⟨⟨[], List.isChain_singleton _, rfl, ?_⟩, rfl, rfl, rfl⟩
  exact (Form.silent_seed discreet.host _).arrivals

/-- Telling the application that the form is there, or is gone, leads to nothing but neutral answers. -/
theorem notify_arrival (discreet : app.Discreet) {s : Session} (tame : s.Tame FormCommand.IsNeutral)
    {e : Event} {here : Bool} (he : e.arrival? = some here) :
    Stays { s with events := s.events ++ [e].filter fun _ => app.hearsArrival here }
        (notify app s e).1 ∧
      (notify app s e).1.Tame FormCommand.IsNeutral := by
  have occasion : e.occasion? = some (if here then .mount else .unmount) := by
    cases e <;> cases he <;> rfl
  unfold notify callBack
  rw [occasion, Option.filter_some]
  cases hears : app.hears (if here then .mount else .unmount) with
  | false =>
    have deaf : ([e].filter fun _ => app.hearsArrival here) = [] := by
      simp [Application.hearsArrival, hears]
    rw [deaf, List.append_nil]
    exact ⟨.refl s, tame⟩
  | true =>
    have heard : ([e].filter fun _ => app.hearsArrival here) = [e] := by
      simp [Application.hearsArrival, hears]
    rw [heard]
    have marked : Stays { s with events := s.events ++ [e] }
        { s with events := s.events ++ [e]
                 form := s.form.mark (.calledBack s.form.state.isSubmitting) } := .of rfl
    obtain ⟨answered, tame⟩ := (Stays.course discreet).follows_react s.reactions.length
      (if here then .mount else .unmount)
      { s with events := s.events ++ [e]
               form := s.form.mark (.calledBack s.form.state.isSubmitting) } tame
    exact ⟨marked.trans answered, tame⟩

/-- A form in order is so again once it has come or gone and the application was told. -/
theorem Orderly.notify (discreet : app.Discreet) {s t : Session} (orderly : Orderly app s)
    (tame : t.Tame FormCommand.IsNeutral) {e : Event} {here : Bool} (he : e.arrival? = some here)
    (before : s.form.mounted = !here) (after : t.form.mounted = here)
    (untold : arrivals t.events = arrivals s.events) (attached : t.subscription.isSome = here)
    (listeners : t.store.listeners = t.subscription.toList) (broken : t.broken = []) :
    Arrives app here s (Session.notify app t e).1 ∧ Orderly app (Session.notify app t e).1 ∧
      (Session.notify app t e).1.Tame FormCommand.IsNeutral := by
  obtain ⟨told, tame⟩ := notify_arrival discreet tame he
  have arrives : Arrives app here s (Session.notify app t e).1 := by
    refine ⟨before, told.mounted.trans after, ?_⟩
    rw [told.told, arrivals_append, untold]
    cases hears : app.hearsArrival here with
    | false => simp [arrivals, hears]
    | true => simp [arrivals, hears, he]
  refine ⟨arrives, orderly.arrives arrives ?_ ?_ (told.broken.trans broken), tame⟩
  · rw [told.subscription]
    exact attached
  · rw [told.listeners, told.subscription]
    exact listeners

theorem perform_mount (app : Application) (s : Session) : s.perform app .mount =
    ((s.mount app (notify app)).1, (s.mount app (notify app)).2.map fun _ => .nothing) :=
  rfl

theorem perform_unmount (app : Application) (s : Session) :
    s.perform app .unmount = (s.unmount (notify app), .ok .nothing) :=
  rfl

section Linked

variable (discreet : app.Discreet) {s : Session} (tame : s.Tame FormCommand.IsNeutral)
include discreet tame

/-- Taking over the values of the store moves nothing. It may raise; else the form listens then. -/
theorem attach_cases {link : StoreLink} (connected : link.connected = true) (works : s.broken = [])
    (quiet : s.form.syncing = false) :
    ∃ t, Stays s t ∧ t.Tame FormCommand.IsNeutral ∧
      ((∃ e, s.attach app (notify app) link = (t, .error e)) ∨
        s.attach app (notify app) link = (t.listen, .ok ())) := by
  have accord := (Stays.course discreet).toAccord
  have read : Stays s { s with
      events := s.events ++ (link.view.read app.host s.store.state).events } :=
    .noted s (link.view.silent_read discreet.host s.store.state)
  unfold attach note
  rw [connected, isBroken_eq_false works]
  simp only [Bool.not_true, Bool.false_eq_true, if_false]
  cases (link.view.read app.host s.store.state).value with
  | error e => exact ⟨_, read, tame, .inr rfl⟩
  | ok values =>
    obtain ⟨taken, tame⟩ := accord.follows_takeOver accord.obeys
      { s with events := s.events ++ (link.view.read app.host s.store.state).events }
      values (.inl quiet) tame
    refine ⟨_, read.trans taken, tame, ?_⟩
    simp only [Except.map]
    split
    · next t e h =>
      obtain ⟨rfl, -⟩ := Prod.ext_iff.mp (Except.ok.inj h)
      exact .inl ⟨e, rfl⟩
    · next t h =>
      obtain ⟨rfl, -⟩ := Prod.ext_iff.mp (Except.ok.inj h)
      exact .inr rfl
    · next h => cases h

/-- A form that is mounted is there, is told of and listens; or else the mount raises, and the form is
there although it was not told of and does not listen. -/
theorem mount_cases {link : StoreLink} (linked : app.link = some link)
    (connected : link.connected = true) (orderly : Orderly app s) (quiet : s.form.syncing = false)
    (apart : s.form.mounted = false) :
    let mounted := s.perform app .mount
    (mounted.2 = .ok .nothing ∧ Arrives app true s mounted.1 ∧ Orderly app mounted.1 ∧
      mounted.1.Tame FormCommand.IsNeutral) ∨
    ((∃ e, mounted.2 = .error e) ∧ mounted.1.form.mounted = true ∧
      mounted.1.subscription = none ∧ mounted.1.store.listeners = [] ∧
      arrivals mounted.1.events = arrivals s.events) := by
  intro mounted
  obtain ⟨deaf, unheard⟩ := orderly.apart apart
  have performed : mounted = _ := perform_mount app s
  rw [performed]
  unfold mount
  rw [apart, linked]
  simp only [Bool.false_eq_true, if_false]
  obtain ⟨t, stays, tame, ⟨e, raised⟩ | attached⟩ := attach_cases discreet
    (s := { s with form.mounted := true }) tame connected orderly.broken quiet
  · rw [raised]
    exact .inr ⟨⟨e, rfl⟩, stays.mounted, stays.subscription.trans deaf,
      stays.listeners.trans unheard, stays.told⟩
  · rw [attached]
    have works : t.broken = [] := stays.broken.trans orderly.broken
    have listening : t.listen = { t with
        store := t.store.subscribe t.nextToken
        subscription := some t.nextToken
        nextToken := t.nextToken + 1 } := by
      unfold listen
      rw [isBroken_eq_false works]
      rfl
    refine .inl ⟨rfl, orderly.notify discreet (t := t.listen) (e := .mounted) ?_ rfl apart
      ?_ ?_ ?_ ?_ ?_⟩
    · rw [listening]
      exact tame
    · rw [listening]
      exact stays.mounted
    · rw [listening]
      exact stays.told
    · rw [listening]
      rfl
    · rw [listening]
      exact congrArg (· ++ [t.nextToken]) (stays.listeners.trans unheard)
    · rw [listening]
      exact works

/-- A form that is unmounted is gone, is told of and listens no more. -/
theorem unmount_orderly (orderly : Orderly app s) (mounted : s.form.mounted = true) :
    let unmounted := s.perform app .unmount
    unmounted.2 = .ok .nothing ∧ Arrives app false s unmounted.1 ∧ Orderly app unmounted.1 ∧
      unmounted.1.Tame FormCommand.IsNeutral := by
  intro unmounted
  have performed : unmounted = _ := perform_unmount app s
  obtain ⟨token, subscribed⟩ : ∃ token, s.subscription = some token := by
    have attached := orderly.attached
    rw [mounted] at attached
    exact Option.isSome_iff_exists.mp attached
  let gone : Session := { s with
    form := { s.form with mounted := false }.supersedeAll.mark .unmounted
    store := s.store.unsubscribe token
    subscription := none }
  have left : s.unmount (notify app) = (notify app gone .unmounted).1 := by
    unfold unmount detach tell
    dsimp only
    rw [mounted, subscribed]
    dsimp only
    rw [if_neg (by simp), if_neg (by simp [isBroken, orderly.broken])]
  have unheard : gone.store.listeners = [] := by
    have alone := orderly.listeners
    rw [subscribed] at alone
    change s.store.listeners.erase token = []
    simp [alone]
  rw [performed, left]
  exact ⟨rfl, orderly.notify discreet (t := gone) (e := .unmounted) tame rfl mounted rfl rfl rfl unheard
    orderly.broken⟩

end Linked

/-- What may come of a session as long as no mount raises. -/
inductive Fares (app : Application) (s : Session) : Session → Prop
  | refl : Fares app s s
  | goOn {t u : Session} : Fares app s t → Leads app FormCommand.IsNeutral t u → Fares app s u
  | mount {t : Session} : Fares app s t → (t.perform app .mount).2.isOk = true →
      Fares app s (t.perform app .mount).1
  | unmount {t : Session} : Fares app s t → Fares app s (t.perform app .unmount).1

theorem Fares.leads {s t : Session} (h : Fares app s t) : Leads app (fun _ => True) s t := by
  induction h with
  | refl => exact .refl
  | goOn _ led ih => exact ih.trans (led.mono fun _ _ => trivial)
  | mount _ _ ih => exact ih.command .mount trivial
  | unmount _ ih => exact ih.command .unmount trivial

/-- Mounting a form that is there does nothing. -/
theorem mount_idle {s : Session} (mounted : s.form.mounted = true) :
    s.perform app .mount = (s, .ok .nothing) := by
  rw [perform_mount]
  unfold mount
  rw [mounted]
  rfl

/-- Unmounting a form that is not there does nothing. -/
theorem unmount_idle {s : Session} (apart : s.form.mounted = false) :
    s.perform app .unmount = (s, .ok .nothing) := by
  rw [perform_unmount]
  unfold unmount
  rw [apart]
  rfl

/-- Nobody is told of what is written to the store while the form is not there. -/
theorem setStore_unheard {s : Session} (orderly : Orderly app s) (apart : s.form.mounted = false)
    (v : Value) : (s.perform app (.setStore v)).1 = { s with store := s.store.write v } := by
  obtain ⟨-, unheard⟩ := orderly.apart apart
  have performed : (s.perform app (.setStore v)).1 = (s.setStore app (notify app) v).1 := rfl
  rw [performed]
  unfold setStore
  rw [isBroken_eq_false orderly.broken, unheard]
  rfl

/-- As long as no mount raises, a form stays in order. -/
theorem Fares.orderly {link : StoreLink} (linked : app.link = some link)
    (connected : link.connected = true) (discreet : app.Discreet) {begun t : Session}
    (hb : Begins app begun) (tame : begun.Tame FormCommand.IsNeutral) (h : Fares app begun t) :
    Orderly app t ∧ t.Tame FormCommand.IsNeutral := by
  induction h with
  | refl => exact ⟨begins_orderly discreet hb, tame⟩
  | goOn _ led ih =>
    obtain ⟨orderly, tame⟩ := ih
    obtain ⟨stays, tame⟩ := led.stays discreet tame
    exact ⟨orderly.stays stays, tame⟩
  | @mount t fares ok ih =>
    obtain ⟨orderly, tame⟩ := ih
    cases mounted : t.form.mounted with
    | true =>
      rw [mount_idle mounted]
      exact ⟨orderly, tame⟩
    | false =>
      have reached : Reachable app t := ⟨begun, hb, fares.leads⟩
      rcases mount_cases discreet tame linked connected orderly reached.quiet mounted with
        ⟨-, -, orderly, tame⟩ | ⟨⟨e, raised⟩, -⟩
      · exact ⟨orderly, tame⟩
      · rw [raised] at ok
        cases ok
  | @unmount t _ ih =>
    obtain ⟨orderly, tame⟩ := ih
    cases mounted : t.form.mounted with
    | true =>
      obtain ⟨-, -, orderly, tame⟩ := unmount_orderly discreet tame orderly mounted
      exact ⟨orderly, tame⟩
    | false =>
      rw [unmount_idle mounted]
      exact ⟨orderly, tame⟩

/-- What a form in order does next. Nothing but mounting and unmounting moves anything, and these only
where they change something; only a mount that raises brings the form out of order, and it takes a rule
that the schema gives explicitly to raise. -/
structure InOrder (app : Application) (t : Session) : Prop extends Orderly app t where
  stays : ∀ u, Leads app FormCommand.IsNeutral t u → Stays t u
  goes : t.form.mounted = true → (t.perform app .mount).1 = t ∧
    Arrives app false t (t.perform app .unmount).1
  comes : t.form.mounted = false → (t.perform app .unmount).1 = t ∧
    ((t.perform app .mount).2.isOk = true → Arrives app true t (t.perform app .mount).1)
  deaf : t.form.mounted = false → ∀ v, (t.perform app (.setStore v)).1 =
    { t with store := t.store.write v }
  raised : t.form.mounted = false → ∀ e, (t.perform app .mount).2 = .error e →
    (t.perform app .mount).1.form.mounted = true ∧
      (t.perform app .mount).1.store.listeners = [] ∧
      arrivals (t.perform app .mount).1.events = arrivals t.events ∧
      (t.Tame (Ordinary true false) → t.form.parsed.Raises app.host e)

/-- Along every run in which no mount raises, and no callback mounts or unmounts, a form next to a working
store comes and goes in turns, and is told of so. It listens to the store while it is there and only
then. What an inquiry complains of was asked for after the form was last unmounted. -/
theorem lifecycle_orderly {link : StoreLink} (linked : app.link = some link)
    (connected : link.connected = true) (discreet : app.Discreet) {begun t : Session}
    (hb : Begins app begun) (tame : begun.Tame FormCommand.IsNeutral) (fares : Fares app begun t) :
    InOrder app t ∧
    (app.hears .mount = true → app.hears .unmount = true →
      (false :: arrivals t.events).IsChain (· ≠ ·) ∧
        (false :: arrivals t.events).getLast? = some t.form.mounted) ∧
    ∀ later id field given now earlier,
      t.form.journal = later ++ .complained id field given now :: earlier →
      ∃ since value before, earlier = since ++ .inquired id field value :: before ∧
        .unmounted ∉ since := by
  obtain ⟨orderly, tame⟩ := fares.orderly linked connected discreet hb tame
  have reached : Reachable app t := ⟨begun, hb, fares.leads⟩
  have mounts (apart : t.form.mounted = false) :=
    mount_cases discreet tame linked connected orderly reached.quiet apart
  refine ⟨{ orderly with stays := ?_, goes := ?_, comes := ?_, deaf := ?_, raised := ?_ },
    orderly.alternates, ?_⟩
  · intro u led
    exact (led.stays discreet tame).1
  · intro mounted
    obtain ⟨-, arrives, -⟩ := unmount_orderly discreet tame orderly mounted
    exact ⟨congrArg Prod.fst (mount_idle mounted), arrives⟩
  · intro apart
    refine ⟨congrArg Prod.fst (unmount_idle apart), fun ok => ?_⟩
    rcases mounts apart with ⟨-, arrives, -⟩ | ⟨⟨e, raised⟩, -⟩
    · exact arrives
    · rw [raised] at ok
      cases ok
  · intro apart v
    exact setStore_unheard orderly apart v
  · intro apart e failed
    rcases mounts apart with ⟨returned, -⟩ | ⟨-, mounted, -, unheard, untold⟩
    · rw [returned] at failed
      cases failed
    · refine ⟨mounted, unheard, untold, fun tame => ?_⟩
      have ordinary : Ordinary true false .mount := rfl
      exact perform_raised tame ordinary trivial e failed
  · intro later id field given now earlier journal
    have timely := (History.iff_forall _).mp reached.sound.chronicle.timely
    obtain ⟨since, value, before, he, standing, -⟩ :=
      timely later _ earlier journal id field given now (.inr rfl)
    exact ⟨since, value, before, he, fun unmounted => standing _ unmounted trivial⟩

/-- A form that is mounted, unmounted and mounted again, while the store changes. -/
def visitingSession : Session :=
  let s := (FormSchema.plain [.plain "a" "text"]).begin bridgedApplication
  let s := (s.perform bridgedApplication .mount).1
  let s := (s.perform bridgedApplication .unmount).1
  let s := (s.perform bridgedApplication (.setStore (.record [("a", .str "x")]))).1
  (s.perform bridgedApplication .mount).1

theorem visitingSession_orderly : arrivals visitingSession.events = [true, false, true] ∧
    visitingSession.form.state.values.get? "a" = some (.str "x") ∧
    visitingSession.store.listeners = [1] ∧ InOrder bridgedApplication visitingSession := by
  have fares : Fares bridgedApplication ((FormSchema.plain [.plain "a" "text"]).begin bridgedApplication)
      visitingSession := by
    refine .mount (.goOn (.unmount (.mount .refl ?_)) (Leads.refl.command _ trivial)) ?_
    · decide +kernel
    · decide +kernel
  have discreet : bridgedApplication.Discreet :=
    ⟨fun _ _ => .nil, fun _ none => nomatch none⟩
  have linked : bridgedApplication.link = some { view := {} } := rfl
  obtain ⟨order, -⟩ := lifecycle_orderly linked rfl discreet (FormSchema.begins (by decide +kernel))
    (fun _ none => nomatch none) fares
  exact ⟨by decide +kernel, rfl, by decide +kernel, order⟩

/-- A schema with a rule that raises, whose field is checked when it changes. -/
def touchySchema : FormSchema :=
  { escapingSchema with validation := some ⟨.null, [], true, false, true⟩ }

def touchyApplication : Application := { frailApplication with link := some { view := {} } }

/-- A form that is mounted next to a store with a value for its field, and unmounted. -/
def touchySession : Session :=
  start touchyApplication (touchySchema.parsed []) []
    (.starting (.record [("a", .list [.int 1])])) []

/-- The mount raises on the way, so that the form is told to be gone without having come. -/
theorem raised_mount_untold : ¬ ∀ (app : Application) (link : StoreLink) (begun t : Session),
    app.link = some link → link.connected = true → app.Discreet → Begins app begun →
    begun.Tame FormCommand.IsNeutral → Leads app FormCommand.SparesStore begun t → Orderly app t := by
  intro always
  have discreet : touchyApplication.Discreet :=
    ⟨Script.host_discreet, fun _ none => nomatch none⟩
  have parsed : ParsedSchema.parse touchyApplication.environment (.loaded touchySchema) = .ok _ :=
    FormSchema.parse_eq (by decide +kernel)
  have begins : Begins touchyApplication touchySession :=
    ⟨_, _, .null, [], _, [], parsed, rfl, rfl⟩
  have untouched : Leads touchyApplication FormCommand.SparesStore touchySession touchySession := .refl
  have led := (untouched.command .mount trivial).command .unmount trivial
  have orderly := always touchyApplication { view := {} } touchySession _ rfl rfl discreet begins
    (fun _ none => nomatch none) led
  have alternates := (orderly.alternates rfl rfl).1
  have told : arrivals (((touchySession.perform touchyApplication .mount).1.perform
      touchyApplication .unmount).1).events = [false] := by decide +kernel
  rw [told] at alternates
  simp at alternates

end Session

end FormEngine
