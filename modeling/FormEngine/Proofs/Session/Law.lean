import FormEngine.Form.Run
import FormEngine.Proofs.Form.Silence

/-!
How a relation between sessions is extended from single changes to whole operations. An operation
changes a session in a few places and calls the application back in between, which may answer with
operations of its own. An accord names the changes that make up operations; what follows from it are
the operations, with callbacks nested to any depth. Reactions are restricted to commands that are
allowed. Under a law each single change keeps to the relation, also those that follow a commit up.
-/

namespace FormEngine

/-- What allowed commands can bring about. -/
def Event.Arises (allowed : FormCommand → Prop) : Event → Prop
  | .mounted => allowed .mount
  | .unmounted => allowed .unmount
  | _ => True

/-- Where all commands are allowed, every event can come about. -/
theorem Event.arises (e : Event) : e.Arises fun _ => True := by
  cases e <;> trivial

namespace Session

/-- Every reaction that is still to come is an allowed command. -/
def Tame (allowed : FormCommand → Prop) (s : Session) : Prop :=
  ∀ r ∈ s.reactions, allowed r.command

/-- What comes of a commit once it was told and shared: the fields are reconsidered and, unless that was
cut short, the validity of the form is reviewed. -/
def followUp (app : Application) (ids : List String) (s : Session) : Session :=
  match s.reconsiderAll app ids with
  | (s, .ok ()) => s.reviewValidity app
  | (s, .error _) => s

/-- A relation that each change that is part of an operation keeps to. -/
structure Accord (app : Application) (allowed : FormCommand → Prop)
    (R : Session → Session → Prop) : Prop where
  refl (s) : R s s
  trans {s t u} : R s t → R t u → R s u
  /-- reactions have their turn, and none is added -/
  remembered (s nodes reactions submissions) : reactions.Sublist s.reactions →
    R s { s with nodes, reactions, submissions }
  /-- what functions report on the way to a result is seen -/
  noted (s) (events : List Event) : (app.Discreet → Silent events) →
    R s { s with events := s.events ++ events }
  calledBack (s e o) : e.occasion? = some o → app.hears o = true → e.Arises allowed →
    R s { s with
      events := s.events ++ [e]
      form := s.form.mark (.calledBack s.form.state.isSubmitting) }
  /-- the application is told of changes and the store shares them before they are followed up -/
  followedUp (s t) (changes : Table Value) :
    R { s with form := ((s.form.put changes).refresh app.host changes.keys).value } t →
      R s (t.followUp app changes.keys)
  tookOver (s t) : s.form.syncing = false ∨ allowed .mount →
    R { s with form.syncing := true } t → R s { t with form.syncing := false }
  /-- writing the values may alter the state of the store in place -/
  altered (s link) : app.link = some link →
    R s { s with store.state :=
      (link.view.write app.host s.store.state (.record s.form.state.values)).value.altered }
  shared (s link state values v) : app.link = some link →
    (link.view.write app.host state values).value.outcome = .ok v →
    R s { s with store := s.store.write v }
  touched (s id) : R s { s with form := s.form.touch id }
  blurred (s id) : s.form.validatesOnBlur = true → R s (s.recheck app id).1
  probed (s id) : R s { s with form := (s.form.complaintsAt app.host id).value.1 }
  checked (s) : R s { s with form := (s.form.complaints app.host).value.1 }
  settled (s errors) : (∃ f : Form, (f.complaints app.host).value = (s.form, .ok errors)) →
    R s { s with form := s.form.settle errors }
  reported (s) : R s { s with form := s.form.report.2 }
  seeded (s) : R s { s with form := (s.form.seed app.host).value }
  stored (s v) : allowed (.setStore v) → R s { s with store := s.store.write v }
  broke (s operations) : allowed (.breakStore operations) → R s { s with broken := operations }
  mounted (s) : allowed .mount → R s { s with form.mounted := true }
  listened (s) : allowed .mount → R s s.listen
  unmounted (s) : allowed .unmount → s.form.mounted = true →
    R s { { s with form.mounted := false }.detach with
      form := { s with form.mounted := false }.detach.form.supersedeAll.mark .unmounted }
  schemaSet (s v parsed) : allowed (.setSchema v) →
    ParsedSchema.parse app.environment (.raw v) = .ok parsed →
    R s { s with form := (s.form.setSchema app.host parsed).value }
  snapshotSet (s v values) : allowed (.setSnapshot v) → Construct.record v = .ok values →
    R s { s with form := (s.form.setSnapshot app.host (Form.entriesOf values)).value }

/-- Where reconsidering fields keeps to a relation, and reviewing the validity too, so does following a
commit up. -/
theorem followUp_keeps {app : Application} {R : Session → Session → Prop}
    (trans : ∀ {s t u}, R s t → R t u → R s u)
    (weighed : ∀ s : Session, R s { s with form := s.form.checkValidity })
    (deferred : ∀ s : Session, R s { s with agenda := s.agenda.add .checkValidity }) {s t : Session}
    {ids : List String} (reconsidered : R s (t.reconsiderAll app ids).1) :
    R s (t.followUp app ids) := by
  unfold followUp
  split
  · next u h =>
    rw [h] at reconsidered
    refine trans reconsidered ?_
    unfold reviewValidity
    split
    · exact deferred u
    · exact weighed u
  · next u e h =>
    rw [h] at reconsidered
    exact reconsidered

/-- A relation that each single change of a session keeps to. -/
structure Law (app : Application) (allowed : FormCommand → Prop)
    (R : Session → Session → Prop) : Prop extends Accord app allowed R where
  /-- the application is told of changes and the store shares them before fields are reconsidered -/
  committed (s t) (changes : Table Value) :
    R { s with form := ((s.form.put changes).refresh app.host changes.keys).value } t →
      R s (t.reconsiderAll app changes.keys).1
  weighed (s) : R s { s with form := s.form.checkValidity }
  deferred (s) : R s { s with agenda := s.agenda.add .checkValidity }
  rechecked (s id) : R s (s.recheck app id).1
  followedUp s t changes h :=
    followUp_keeps (R := R) trans weighed deferred (committed s t changes h)
  blurred s id _ := rechecked s id

/-- What an operation makes of a tame session is tame again and keeps to the relation. -/
def Follows (allowed : FormCommand → Prop) (R : Session → Session → Prop) (s t : Session) : Prop :=
  s.Tame allowed → R s t ∧ t.Tame allowed

/-- A notifier whose callbacks keep to the relation, whatever they answer with, on events that allowed
commands can bring about. -/
def Obeys (allowed : FormCommand → Prop) (R : Session → Session → Prop) (notify : Notifier) :
    Prop :=
  ∀ s e, e.Arises allowed → Follows allowed R s (notify s e).1

theorem inquire_frame (app : Application) (s : Session) (id : String) :
    ∃ form agenda, s.inquire app id = { s with form, agenda } := by
  unfold inquire
  split
  · exact ⟨s.form, s.agenda, rfl⟩
  · split
    · exact ⟨s.form, s.agenda, rfl⟩
    · dsimp only
      split
      · exact ⟨_, _, rfl⟩
      · exact ⟨_, s.agenda, rfl⟩

theorem reconsider_frame (app : Application) (s : Session) (id : String) :
    ∃ form agenda events, (s.reconsider app id).1 = { s with form, agenda, events } := by
  unfold reconsider
  cases s.form.validatesOnChange with
  | false =>
      obtain ⟨form, agenda, h⟩ := inquire_frame app s id
      exact ⟨form, agenda, s.events, h⟩
  | true =>
      simp only [if_true]
      split
      · obtain ⟨form, agenda, h⟩ := inquire_frame app (s.recheck app id).1 id
        exact ⟨form, agenda, (s.recheck app id).1.events, h⟩
      · exact ⟨_, s.agenda, _, rfl⟩

/-- Reconsidering fields changes the form and the agenda, and may be seen. -/
theorem reconsiderAll_frame (app : Application) (s : Session) (ids : List String) :
    ∃ form agenda events, (s.reconsiderAll app ids).1 = { s with form, agenda, events } := by
  induction ids generalizing s with
  | nil => exact ⟨s.form, s.agenda, s.events, rfl⟩
  | cons id ids ih =>
      obtain ⟨form, agenda, events, first⟩ := reconsider_frame app s id
      rw [reconsiderAll]
      split
      · next t h =>
        rw [h] at first
        dsimp only at first
        subst first
        obtain ⟨form', agenda', events', rest⟩ := ih { s with form, agenda, events }
        exact ⟨form', agenda', events', rest⟩
      · next t e h =>
        rw [h] at first
        dsimp only at first
        subst first
        exact ⟨_, agenda, events, rfl⟩

/-- A relation that a check of some fields, if they are checked when they change, inquiries about them and
cutting fields short keep to, is kept to when these fields are reconsidered. -/
theorem reconsiderAll_keeps {app : Application} {R : Session → Session → Prop}
    (refl : ∀ s, R s s) (trans : ∀ {s t u}, R s t → R t u → R s u) {ids : List String}
    (rechecked : ∀ s : Session, s.form.validatesOnChange = true → ∀ id ∈ ids,
      R s (s.recheck app id).1)
    (inquired : ∀ s, ∀ id ∈ ids, R s (s.inquire app id))
    (cut : ∀ s ids, R s { s with form := s.form.mark (.cutShort ids) }) (s : Session) :
    R s (s.reconsiderAll app ids).1 := by
  induction ids generalizing s with
  | nil => exact refl s
  | cons id ids ih =>
      have reconsidered : R s (s.reconsider app id).1 := by
        unfold reconsider
        cases checks : s.form.validatesOnChange with
        | false => exact inquired s id List.mem_cons_self
        | true =>
            have rechecked := rechecked s checks id List.mem_cons_self
            simp only [if_true]
            split
            · exact trans rechecked (inquired _ id List.mem_cons_self)
            · exact rechecked
      have rest := ih (fun s checks other ho => rechecked s checks other (List.mem_cons_of_mem _ ho))
        fun s other ho => inquired s other (List.mem_cons_of_mem _ ho)
      rw [reconsiderAll]
      split
      · next t h =>
        rw [h] at reconsidered
        exact trans reconsidered (rest t)
      · next t e h =>
        rw [h] at reconsidered
        exact trans reconsidered (cut t _)

/-- A commit puts the changes in, tells of them, shares them, and is then followed up. -/
theorem commit_eq (app : Application) (notify : Notifier) (share : Session → Session) (s : Session)
    (changes : Table Value) :
    let put := s.become ((s.form.put changes).refresh app.host changes.keys)
    (s.commit app notify share changes).1 =
      (share (put.tell notify (.changed put.form.state.values))).followUp app changes.keys := by
  intro put
  unfold commit followUp
  dsimp only
  rcases (share _).reconsiderAll app changes.keys with ⟨t, outcome⟩
  cases outcome with
  | ok _ => rfl
  | error e => rfl

theorem reactions_followUp (app : Application) (s : Session) (ids : List String) :
    (s.followUp app ids).reactions = s.reactions := by
  obtain ⟨form, agenda, events, frame⟩ := reconsiderAll_frame app s ids
  have reconsidered : (s.reconsiderAll app ids).1.reactions = s.reactions := by rw [frame]
  exact followUp_keeps (R := fun s t => t.reactions = s.reactions) (fun h h' => h'.trans h)
    (fun _ => rfl) (fun _ => rfl) reconsidered

theorem reactions_listen (s : Session) : s.listen.reactions = s.reactions := by
  unfold listen
  split <;> rfl

theorem listen_form (s : Session) : s.listen.form = s.form := by
  unfold listen
  split <;> rfl

theorem reactions_detach (s : Session) : s.detach.reactions = s.reactions := by
  unfold detach
  split <;> rfl

theorem detach_form (s : Session) : s.detach.form = s.form := by
  unfold detach
  split <;> rfl

theorem detach_agenda (s : Session) : s.detach.agenda = s.agenda := by
  unfold detach
  split <;> rfl

theorem takeReaction?_tame {allowed : FormCommand → Prop} {s t : Session} {o : Occasion}
    {c : FormCommand} (tame : s.Tame allowed) (h : s.takeReaction? o = some (c, t)) :
    allowed c ∧ t = { s with reactions := s.reactions.eraseP fun r => r.occasion == o } ∧
      t.Tame allowed := by
  obtain ⟨r, hr, h⟩ := Option.map_eq_some_iff.mp h
  obtain ⟨rfl, rfl⟩ := Prod.ext_iff.mp h
  refine ⟨tame r (List.mem_of_find?_eq_some hr), rfl, ?_⟩
  intro other ho
  exact tame other (List.mem_of_mem_eraseP ho)

namespace Accord

variable {app : Application} {allowed : FormCommand → Prop} {R : Session → Session → Prop}

theorem follows_refl (accord : Accord app allowed R) (s : Session) : Follows allowed R s s :=
  fun tame => ⟨accord.refl s, tame⟩

theorem follows_trans (accord : Accord app allowed R) {s t u : Session} (h : Follows allowed R s t)
    (h' : Follows allowed R t u) : Follows allowed R s u := by
  intro tame
  obtain ⟨hst, tame⟩ := h tame
  obtain ⟨htu, tame⟩ := h' tame
  exact ⟨accord.trans hst htu, tame⟩

/-- A change that leaves the reactions alone. -/
theorem follows_of {s t : Session} (h : R s t) (hr : t.reactions = s.reactions) :
    Follows allowed R s t := by
  intro tame
  refine ⟨h, ?_⟩
  unfold Tame
  rw [hr]
  exact tame

theorem follows_noted (accord : Accord app allowed R) (s : Session) {events : List Event}
    (silent : app.Discreet → Silent events) :
    Follows allowed R s { s with events := s.events ++ events } :=
  follows_of (accord.noted s events silent) rfl

/-- A change of the form that comes with events. -/
theorem follows_become (accord : Accord app allowed R) (s : Session) (f : Logged Form)
    (silent : app.Discreet → Silent f.events) (h : R s { s with form := f.value }) :
    Follows allowed R s (s.become f) :=
  accord.follows_trans (t := { s with form := f.value }) (follows_of h rfl)
    (accord.follows_noted { s with form := f.value } silent)

section Sharing

variable {notify : Notifier} (accord : Accord app allowed R) (hn : Obeys allowed R notify)
include accord hn

theorem follows_commit {share : Session → Session} (hs : ∀ s, Follows allowed R s (share s))
    (s : Session) (changes : Table Value) :
    Follows allowed R s (s.commit app notify share changes).1 := by
  let put := (s.form.put changes).refresh app.host changes.keys
  let told := share ((s.become put).tell notify (.changed (s.become put).form.state.values))
  have before : Follows allowed R { s with form := put.value } told :=
    accord.follows_trans
      (accord.follows_noted { s with form := put.value }
        fun discreet => Form.silent_refresh discreet.host _ _)
      (accord.follows_trans (hn _ (.changed _) trivial) (hs _))
  rw [commit_eq]
  intro tame
  obtain ⟨hr, tame⟩ := before tame
  refine ⟨accord.followedUp s told changes hr, ?_⟩
  unfold Tame
  rw [reactions_followUp]
  exact tame

theorem follows_takeOver (s : Session) (values : Value)
    (h : s.form.syncing = false ∨ allowed .mount) :
    Follows allowed R s (s.takeOver app notify values).1 := by
  unfold takeOver
  dsimp only
  split
  · exact accord.follows_refl s
  · intro tame
    have done := accord.follows_commit hn (fun s => accord.follows_refl s)
      { s with form.syncing := true } (s.form.differing (Form.namedEntries values))
    obtain ⟨hr, tame'⟩ := done tame
    exact ⟨accord.tookOver s _ h hr, tame'⟩

theorem follows_hear (s : Session) (view : StoreView) (state : Value) :
    Follows allowed R s (s.hear app notify view state) := by
  have noted : Follows allowed R s
      { s with events := s.events ++ (view.read app.host state).events } :=
    accord.follows_noted s fun discreet => view.silent_read discreet.host state
  unfold hear note
  dsimp only
  split
  · split
    · exact noted
    · next calm =>
      refine accord.follows_trans noted (accord.follows_takeOver hn _ _ (.inl ?_))
      exact Bool.eq_false_iff.mpr calm
  · exact noted

theorem follows_hearing (s : Session) (view : StoreView) (state : Value) (listeners : List Nat) :
    Follows allowed R s (listeners.foldl (fun s _ => s.hear app notify view state) s) := by
  induction listeners generalizing s with
  | nil => exact accord.follows_refl s
  | cons _ _ ih => exact accord.follows_trans (accord.follows_hear hn s view state) (ih _)

theorem follows_setStore (s : Session) (v : Value) (h : R s { s with store := s.store.write v }) :
    Follows allowed R s (s.setStore app notify v).1 := by
  unfold setStore
  split
  · exact accord.follows_refl s
  · exact accord.follows_trans (follows_of h rfl) (accord.follows_hearing hn _ _ _ _)

theorem follows_share (s : Session) : Follows allowed R s (s.share app notify) := by
  unfold share note
  split
  · exact accord.follows_refl s
  · next link hl =>
    split
    · exact accord.follows_refl s
    · have noted := accord.follows_trans
        (accord.follows_noted s fun discreet =>
          link.view.silent_write discreet.host s.store.state (.record s.form.state.values))
        (follows_of (accord.altered _ link hl) rfl)
      dsimp only
      split
      · next v hv =>
        exact accord.follows_trans noted
          (accord.follows_setStore hn _ v (accord.shared _ link _ _ v hl hv))
      · exact noted

theorem follows_setValues (s : Session) (changes : Value) :
    Follows allowed R s (s.setValues app notify changes).1 := by
  unfold setValues
  split
  · exact accord.follows_refl s
  · split
    · exact accord.follows_commit hn (accord.follows_share hn) s _
    · exact accord.follows_refl s

theorem follows_change (s : Session) (id : String) (v : Value) :
    Follows allowed R s (s.change app notify id v).1 :=
  accord.follows_commit hn (accord.follows_share hn) s [(id, v)]

theorem follows_blur (s : Session) (id : String) :
    Follows allowed R s (s.blur app notify id).1 := by
  have told := accord.follows_trans (follows_of (accord.touched s id) rfl)
    (hn _ (.blurred id) trivial)
  unfold blur tell
  dsimp only
  split
  · next checks => exact accord.follows_trans told (follows_of (accord.blurred _ id checks) rfl)
  · exact told

theorem follows_validate (s : Session) : Follows allowed R s (s.validate app notify).1 := by
  unfold validate note
  let checked : Session := { s with
    form := (s.form.complaints app.host).value.1
    events := s.events ++ (s.form.complaints app.host).events }
  have noted : Follows allowed R s checked :=
    accord.follows_trans (follows_of (accord.checked s) rfl)
      (accord.follows_noted { s with form := (s.form.complaints app.host).value.1 }
        fun discreet => Form.silent_complaints discreet.host s.form)
  dsimp only
  split
  · exact noted
  · next found hf =>
    have complained : (s.form.complaints app.host).value = (checked.form, .ok found) :=
      Prod.ext rfl hf
    have told : Follows allowed R checked
        (notify { checked with form := checked.form.settle found }
          (.validated (checked.form.settle found).state.isValid found)).1 :=
      accord.follows_trans (follows_of (accord.settled checked found ⟨s.form, complained⟩) rfl)
        (hn _ _ trivial)
    exact accord.follows_trans noted (accord.follows_trans told (follows_of (accord.reported _) rfl))

theorem follows_reset (s : Session) : Follows allowed R s (s.reset app notify) :=
  accord.follows_trans
    (accord.follows_become s _ (fun discreet => Form.silent_seed discreet.host _) (accord.seeded s))
    (accord.follows_trans (hn _ .restored trivial) (accord.follows_share hn _))

theorem follows_attach (hm : allowed .mount) (s : Session) (link : StoreLink) :
    Follows allowed R s (s.attach app notify link).1 := by
  have listens (t : Session) : Follows allowed R t t.listen :=
    follows_of (accord.listened t hm) (reactions_listen t)
  unfold attach note
  split
  · exact accord.follows_refl s
  · split
    · exact listens s
    · have noted := accord.follows_noted s fun discreet =>
        link.view.silent_read discreet.host s.store.state
      dsimp only
      cases (link.view.read app.host s.store.state).value with
      | error e => exact accord.follows_trans noted (listens _)
      | ok values =>
          have taken := accord.follows_takeOver hn
            { s with events := s.events ++ (link.view.read app.host s.store.state).events }
            values (.inr hm)
          simp only [Except.map]
          split
          · next t e h =>
            have ht := (Prod.ext_iff.mp (Except.ok.inj h)).1
            simp only at ht
            rw [ht] at taken
            exact accord.follows_trans noted taken
          · next t h =>
            have ht := (Prod.ext_iff.mp (Except.ok.inj h)).1
            simp only at ht
            rw [ht] at taken
            exact accord.follows_trans noted (accord.follows_trans taken (listens t))
          · next h => cases h

theorem follows_mount (hm : allowed .mount) (s : Session) :
    Follows allowed R s (s.mount app notify).1 := by
  unfold mount
  split
  · exact accord.follows_refl s
  · have mounted : Follows allowed R s { s with form.mounted := true } :=
      follows_of (accord.mounted s hm) rfl
    dsimp only
    cases app.link with
    | none => exact accord.follows_trans mounted (hn _ .mounted hm)
    | some link =>
        have attached := accord.follows_trans mounted (accord.follows_attach hn hm _ link)
        dsimp only
        split
        · exact accord.follows_trans attached (hn _ .mounted hm)
        · exact attached

theorem follows_unmount (hu : allowed .unmount) (s : Session) :
    Follows allowed R s (s.unmount notify) := by
  unfold unmount
  split
  · exact accord.follows_refl s
  · next h =>
    have mounted : s.form.mounted = true := by simpa using h
    exact accord.follows_trans
      (follows_of (accord.unmounted s hu mounted) (reactions_detach { s with form.mounted := false }))
      (hn _ .unmounted hu)

omit hn in
theorem follows_setSchema (s : Session) (v : Value) (h : allowed (.setSchema v)) :
    Follows allowed R s (s.setSchema app v).1 := by
  unfold setSchema replaceSchema
  split
  · next parsed hp =>
    exact accord.follows_become s _ (fun discreet => Form.silent_seed discreet.host _)
      (accord.schemaSet s v parsed h hp)
  · exact accord.follows_refl s

omit hn in
theorem follows_setSnapshot (s : Session) (v : Value) (h : allowed (.setSnapshot v)) :
    Follows allowed R s (s.setSnapshot app v).1 := by
  unfold setSnapshot
  split
  · next values hv =>
    exact accord.follows_become s _ (fun discreet => Form.silent_setSnapshot discreet.host _ _)
      (accord.snapshotSet s v values h hv)
  · exact accord.follows_refl s

omit hn in
theorem follows_render (s : Session) : Follows allowed R s (s.render app).1 :=
  accord.follows_trans
    (accord.follows_noted s fun discreet => Form.silent_render discreet s.form)
    (follows_of (accord.remembered _ _ s.reactions s.submissions (.refl _)) rfl)

theorem follows_handle (s : Session) (id name : String) (arguments : List Value) :
    Follows allowed R s (s.handle app notify id name arguments).1 := by
  have reported (id : String) (r : Report) :
      Follows allowed R s (s.applyReport app notify id r).1 := by
    unfold applyReport
    split
    · exact accord.follows_change hn s id _
    · exact accord.follows_blur hn s id
    · exact hn s (.focused id) trivial
    · exact accord.follows_refl s
  unfold handle
  split
  · exact accord.follows_refl s
  · split
    · exact accord.follows_refl s
    · split
      · exact accord.follows_refl s
      · next response _ =>
        cases response with
        | report r => exact reported _ r
        | quiet => exact accord.follows_refl s
        | toggled => exact accord.follows_refl s

/-- An allowed command keeps to the relation. -/
theorem follows_run (s : Session) (c : FormCommand) (hc : allowed c) :
    Follows allowed R s (s.run app notify c).1 := by
  cases c with
  | change id v => exact accord.follows_change hn s id v
  | setValues values => exact accord.follows_setValues hn s values
  | blur id => exact accord.follows_blur hn s id
  | focus id => exact hn s (.focused id) trivial
  | validate => exact accord.follows_validate hn s
  | validateField id =>
      exact accord.follows_trans (follows_of (accord.probed s id) rfl)
        (accord.follows_noted { s with form := (s.form.complaintsAt app.host id).value.1 }
          fun discreet => Form.silent_complaintsAt discreet.host id s.form)
  | reset => exact accord.follows_reset hn s
  | mount => exact accord.follows_mount hn hc s
  | unmount => exact accord.follows_unmount hn hc s
  | setSchema v => exact accord.follows_setSchema s v hc
  | setSnapshot v => exact accord.follows_setSnapshot s v hc
  | render => exact accord.follows_render s
  | handle id name arguments => exact accord.follows_handle hn s id name arguments
  | setStore v =>
      exact accord.follows_setStore hn s v (accord.stored s v hc)
  | breakStore operations => exact follows_of (accord.broke s operations hc) rfl
  | look => exact accord.follows_refl s

end Sharing

/-- Calling the application back keeps to the relation if its answer does. -/
theorem obeys_callBack (accord : Accord app allowed R)
    {answer : Occasion → Session → Session × Except Fault Unit}
    (h : ∀ o s, Follows allowed R s (answer o s).1) : Obeys allowed R (callBack app answer) := by
  intro s e arises
  unfold callBack
  split
  · exact accord.follows_refl s
  · next o ho =>
    obtain ⟨occasion, hears⟩ := Option.filter_eq_some_iff.mp ho
    exact accord.follows_trans (follows_of (accord.calledBack s e o occasion hears arises) rfl)
      (h _ _)

/-- The induction is on the number of reactions that may still have their turn: a reaction is carried
out with one fewer. -/
theorem follows_react (accord : Accord app allowed R) (fuel : Nat) (o : Occasion) (s : Session) :
    Follows allowed R s (react app fuel o s).1 := by
  induction fuel generalizing o s with
  | zero => exact accord.follows_refl s
  | succ fuel ih =>
      unfold react
      split
      · exact accord.follows_refl s
      · next c t ht =>
        intro tame
        obtain ⟨allows, rfl, tame'⟩ := takeReaction?_tame tame ht
        have ran := accord.follows_run (accord.obeys_callBack ih)
          { s with reactions := s.reactions.eraseP fun r => r.occasion == o } c allows
        have taken := accord.remembered s s.nodes (s.reactions.eraseP fun r => r.occasion == o)
          s.submissions List.eraseP_sublist
        split
        · next u e hu =>
          rw [hu] at ran
          obtain ⟨hr, tame''⟩ := ran tame'
          exact ⟨accord.trans taken hr, tame''⟩
        · next u a hu =>
          rw [hu] at ran
          obtain ⟨hr, tame''⟩ := accord.follows_trans ran (ih o u) tame'
          exact ⟨accord.trans taken hr, tame''⟩

end Accord

theorem Accord.obeys {app : Application} {allowed : FormCommand → Prop}
    {R : Session → Session → Prop} (accord : Accord app allowed R) : Obeys allowed R (notify app) :=
  fun s e => accord.obeys_callBack (accord.follows_react s.reactions.length) s e

theorem Accord.performs {app : Application} {allowed : FormCommand → Prop}
    {R : Session → Session → Prop} (accord : Accord app allowed R) (s : Session) (c : FormCommand)
    (hc : allowed c) : Follows allowed R s (s.perform app c).1 :=
  accord.follows_run accord.obeys s c hc

/-- Telling the application keeps to every law. -/
theorem notify_obeys {app : Application} {allowed : FormCommand → Prop}
    {R : Session → Session → Prop} (law : Law app allowed R) : Obeys allowed R (notify app) :=
  law.obeys

theorem perform_follows {app : Application} {allowed : FormCommand → Prop}
    {R : Session → Session → Prop} (law : Law app allowed R) (s : Session) (c : FormCommand)
    (hc : allowed c) : Follows allowed R s (s.perform app c).1 :=
  law.performs s c hc

end Session

end FormEngine
