import FormEngine.Proofs.Session.Inquiry
import FormEngine.Proofs.Session.Specimen

/-!
What an inquiry finds is never applied once it is superseded. A commit of a field supersedes the
inquiries about it, since it opens another one; the only commits that do not are those that a check cut
short before the field had its turn.
-/

namespace FormEngine

namespace Milestone

/-- Values are put into a field, perhaps with others. -/
def Commits (field : String) : Milestone → Prop
  | .committed ids => field ∈ ids
  | _ => False

/-- A check keeps a committed field from being reconsidered. -/
def CutsShort (field : String) : Milestone → Prop
  | .cutShort ids => field ∈ ids
  | _ => False

/-- After a commit of a field, what relieves it of being reconsidered. -/
def Closes (field : String) : Milestone → Prop
  | .reseeded => True
  | .inquired _ other _ => other = field
  | .cutShort ids => field ∈ ids
  | _ => False

/-- An inquiry writes complaints about a field. -/
def Complains (field : String) : Milestone → Prop
  | .complained _ other _ _ => other = field
  | _ => False

/-- An inquiry has an effect: its first rule is asked, or it writes complaints. -/
def Applies (id : Nat) (field : String) (given now : Value) (m : Milestone) : Prop :=
  m = .asked id field given now ∨ m = .complained id field given now

/-- A milestone of an inquiry that has an effect. -/
def IsEffect (m : Milestone) : Prop := ∃ id field given now, m.Applies id field given now

/-- A commit of a field that nothing has closed yet. -/
def Pending (field : String) : List Milestone → Prop
  | [] => False
  | m :: earlier => ¬ m.Closes field ∧ (m.Commits field ∨ Pending field earlier)

/-- A commit of a field, with no complaint about it since. -/
def Fresh (field : String) : List Milestone → Prop
  | [] => False
  | m :: earlier => m.Commits field ∨ ¬ m.Complains field ∧ Fresh field earlier

/-- An inquiry about a field is opened for a commit of it. -/
def Founded (earlier : List Milestone) : Milestone → Prop
  | .inquired _ field _ => Fresh field earlier
  | _ => True

/-- An inquiry has an effect only while it is the latest about its field, with nothing that supersedes
it since it was opened, and about the value that the field has. Commits of the field since then are just
those that were cut short. -/
def Timely (host : Host) (earlier : List Milestone) (m : Milestone) : Prop :=
  ∀ id field given now, m.Applies id field given now → ∃ since value before,
    earlier = since ++ .inquired id field value :: before ∧
    (∀ n ∈ since, ¬ n.Supersedes field) ∧
    now.equal given = true ∧ (host.KeepsValues → given = value) ∧
    ((∃ n ∈ since, n.Commits field) ↔ ∃ later n before, since = later ++ n :: before ∧
      n.Commits field ∧ ∃ cut ∈ later, cut.CutsShort field)

theorem pending_append {field : String} {later earlier : List Milestone}
    (h : Pending field (later ++ earlier)) :
    Pending field later ∨ (∀ m ∈ later, ¬ m.Closes field) ∧ Pending field earlier := by
  induction later with
  | nil => exact .inr ⟨by simp, h⟩
  | cons m later ih =>
      obtain ⟨closes, commits | pending⟩ := h
      · exact .inl ⟨closes, .inl commits⟩
      · rcases ih pending with h | ⟨none, h⟩
        · exact .inl ⟨closes, .inr h⟩
        · refine .inr ⟨?_, h⟩
          intro n hn
          rcases List.mem_cons.mp hn with rfl | hn
          · exact closes
          · exact none n hn

theorem exists_commits_of_pending {field : String} {journal : List Milestone}
    (h : Pending field journal) : ∃ m ∈ journal, m.Commits field := by
  induction journal with
  | nil => exact h.elim
  | cons m earlier ih =>
      rcases h.2 with commits | pending
      · exact ⟨m, List.mem_cons_self, commits⟩
      · obtain ⟨n, hn, commits⟩ := ih pending
        exact ⟨n, List.mem_cons_of_mem _ hn, commits⟩

/-- A commit that is not followed by what closes it is pending. -/
theorem pending_of_commits {field : String} {later earlier : List Milestone} {m : Milestone}
    (hm : m.Commits field) (open_ : ∀ n ∈ later, ¬ n.Closes field) :
    Pending field (later ++ m :: earlier) := by
  induction later with
  | nil =>
      refine ⟨?_, .inl hm⟩
      cases m <;> first | exact hm.elim | exact id
  | cons n later ih =>
      exact ⟨open_ n List.mem_cons_self, .inr (ih fun n hn => open_ n (List.mem_cons_of_mem _ hn))⟩

theorem fresh_append {field : String} {later : List Milestone} (h : Fresh field later)
    (earlier : List Milestone) : Fresh field (later ++ earlier) := by
  induction later with
  | nil => exact h.elim
  | cons m later ih => exact h.imp_right fun ⟨quiet, h⟩ => ⟨quiet, ih h⟩

theorem fresh_of_commits {field : String} {journal : List Milestone}
    (quiet : ∀ m ∈ journal, ¬ m.Complains field) (h : ∃ m ∈ journal, m.Commits field) :
    Fresh field journal := by
  obtain ⟨m, hm, commits⟩ := h
  induction journal with
  | nil => cases hm
  | cons n earlier ih =>
      rcases List.mem_cons.mp hm with rfl | hm
      · exact .inl commits
      · refine .inr ⟨quiet n List.mem_cons_self, ih ?_ hm⟩
        exact fun m hm => quiet m (List.mem_cons_of_mem _ hm)

/-- The commit comes after the last complaint. -/
theorem exists_commits_of_fresh {field : String} {later earlier : List Milestone} {m : Milestone}
    (hm : m.Complains field) (h : Fresh field (later ++ m :: earlier)) :
    ∃ n ∈ later, n.Commits field := by
  induction later with
  | nil =>
      rcases h with commits | ⟨quiet, -⟩
      · cases m <;> first | exact hm.elim | exact commits.elim
      · exact absurd hm quiet
  | cons n later ih =>
      rcases h with commits | ⟨-, h⟩
      · exact ⟨n, List.mem_cons_self, commits⟩
      · obtain ⟨o, ho, commits⟩ := ih h
        exact ⟨o, List.mem_cons_of_mem _ ho, commits⟩

theorem founded_mono (m : Milestone) (before more : List Milestone) (h : m.Founded before) :
    m.Founded (before ++ more) := by
  cases m with
  | inquired id field value => exact fresh_append h more
  | _ => trivial

theorem not_isEffect_of {m : Milestone} (h : ∀ id field given now,
    m ≠ .asked id field given now ∧ m ≠ .complained id field given now) : ¬ m.IsEffect := by
  rintro ⟨id, field, given, now, rfl | rfl⟩
  · exact (h id field given now).1 rfl
  · exact (h id field given now).2 rfl

theorem not_complains_of_not_isEffect {m : Milestone} (h : ¬ m.IsEffect) (field : String) :
    ¬ m.Complains field := by
  cases m with
  | complained id other given now => exact absurd ⟨id, other, given, now, .inr rfl⟩ h
  | _ => exact fun h => h

end Milestone

open Milestone

/-- What operations that are carried out at once add to the journal: no inquiry has an effect, each is
opened for a commit, and each commit is closed, unless its field has no rules that take time. -/
structure Stretch (app : Application) (added : List Milestone) (f g : Form) : Prop where
  journal : g.journal = added ++ f.journal
  quiet : ∀ m ∈ added, ¬ m.IsEffect
  founded : History (fun e m => m.Founded e) added
  asks : .reseeded ∉ added → ∀ id, g.asks id = f.asks id
  closed : app.defers = true → ∀ field, Pending field added → g.asks field = []

namespace Stretch

variable {app : Application} {f g h : Form} {added more : List Milestone}

theorem still (journal : g.journal = f.journal) (asks : ∀ id, g.asks id = f.asks id) :
    Stretch app [] f g where
  journal := journal
  quiet := by simp
  founded := trivial
  asks _ := asks
  closed _ _ pending := pending.elim

/-- One milestone that neither commits nor inquires. -/
theorem single {m : Milestone} (journal : g.journal = m :: f.journal)
    (asks : m ≠ .reseeded → ∀ id, g.asks id = f.asks id) (quiet : ¬ m.IsEffect)
    (founded : m.Founded []) (commits : ∀ field, ¬ m.Commits field) : Stretch app [m] f g where
  journal := journal
  quiet := by simpa using quiet
  founded := ⟨founded, trivial⟩
  asks absent := asks fun hm => absent (by simp [hm])
  closed _ field pending := by
    rcases pending.2 with h | h
    · exact (commits field h).elim
    · exact h.elim

theorem append (first : Stretch app added f g) (second : Stretch app more g h) :
    Stretch app (more ++ added) f h where
  journal := by rw [second.journal, first.journal, List.append_assoc]
  quiet m hm := (List.mem_append.mp hm).elim (second.quiet m) (first.quiet m)
  founded := second.founded.append_mono founded_mono first.founded
  asks absent id := by
    rw [List.mem_append, not_or] at absent
    rw [second.asks absent.1, first.asks absent.2]
  closed defers field pending := by
    rcases pending_append pending with h | ⟨none, h⟩
    · exact second.closed defers field h
    · have kept : .reseeded ∉ more := fun hm => none _ hm trivial
      rw [second.asks kept, first.closed defers field h]

end Stretch

namespace Session

variable {app : Application}

/-- The journal goes on by a stretch. -/
def Proceeds (app : Application) (s t : Session) : Prop := ∃ added, Stretch app added s.form t.form

theorem Proceeds.trans {s t u : Session} (h : Proceeds app s t) (h' : Proceeds app t u) :
    Proceeds app s u := by
  obtain ⟨added, h⟩ := h
  obtain ⟨more, h'⟩ := h'
  exact ⟨more ++ added, h.append h'⟩

theorem proceeds_still {s t : Session} (journal : t.form.journal = s.form.journal)
    (asks : ∀ id, t.form.asks id = s.form.asks id) : Proceeds app s t :=
  ⟨[], .still journal asks⟩

/-- What is added when fields are reconsidered after a commit: inquiries about some of them, and what
was cut short. Of the fields with rules that take time none is left out. -/
structure Reconsidered (app : Application) (ids : List String) (added : List Milestone)
    (f g : Form) : Prop where
  journal : g.journal = added ++ f.journal
  asks : ∀ id, g.asks id = f.asks id
  kinds : ∀ m ∈ added, (∃ id field value, m = .inquired id field value ∧ field ∈ ids) ∨
    ∃ cut, m = .cutShort cut
  closed : app.defers = true → ∀ field ∈ ids, f.asks field = [] ∨ ∃ m ∈ added, m.Closes field

variable (app) in
theorem inquire_reconsidered (s : Session) (id : String) :
    ∃ added, Reconsidered app [id] added s.form (s.inquire app id).form := by
  have untouched (h : s.form.asks id = []) : Reconsidered app [id] [] s.form s.form :=
    ⟨rfl, fun _ => rfl, by simp, by simp [h]⟩
  unfold inquire
  split
  · next hp => exact ⟨[], untouched (by simp [Form.asks, hp])⟩
  · next p hp =>
    split
    · next empty =>
      refine ⟨[], untouched ?_⟩
      unfold Form.asks
      rw [hp]
      simpa using empty
    · dsimp only
      split
      · refine ⟨[.inquired s.agenda.nextTask id (s.form.value id)], rfl, fun _ => rfl, ?_, ?_⟩
        · intro m hm
          exact .inl ⟨_, _, _, List.mem_singleton.mp hm, List.mem_singleton_self id⟩
        · intro _ field hf
          exact .inr ⟨_, List.mem_singleton_self _, (List.mem_singleton.mp hf).symm⟩
      · next never => exact ⟨[], rfl, fun _ => rfl, by simp, fun defers => absurd defers never⟩

variable (app) in
theorem reconsiderAll_reconsidered (s : Session) (ids : List String) :
    ∃ added, Reconsidered app ids added s.form (s.reconsiderAll app ids).1.form := by
  induction ids generalizing s with
  | nil => exact ⟨[], rfl, fun _ => rfl, by simp, by simp⟩
  | cons id ids ih =>
      -- a field that cannot be checked ends it: what is left is cut short, this field included
      have cut (t : Session) (journal : t.form.journal = s.form.journal)
          (asks : ∀ other, t.form.asks other = s.form.asks other) :
          Reconsidered app (id :: ids) [.cutShort (id :: ids)] s.form
            (t.form.mark (.cutShort (id :: ids))) := by
        refine ⟨congrArg (Milestone.cutShort (id :: ids) :: ·) journal, asks, ?_, ?_⟩
        · intro m hm
          exact .inr ⟨_, List.mem_singleton.mp hm⟩
        · intro _ field hf
          exact .inr ⟨_, List.mem_singleton_self _, hf⟩
      have goesOn (t : Session) (journal : t.form.journal = s.form.journal)
          (asks : ∀ other, t.form.asks other = s.form.asks other) :
          ∃ added, Reconsidered app (id :: ids) added s.form
            ((t.inquire app id).reconsiderAll app ids).1.form := by
        obtain ⟨first, hf⟩ := inquire_reconsidered app t id
        obtain ⟨rest, hr⟩ := ih (t.inquire app id)
        refine ⟨rest ++ first, ?_, ?_, ?_, ?_⟩
        · rw [hr.journal, hf.journal, journal, List.append_assoc]
        · exact fun other => ((hr.asks other).trans (hf.asks other)).trans (asks other)
        · intro m hm
          rcases List.mem_append.mp hm with hm | hm
          · refine (hr.kinds m hm).imp_left ?_
            rintro ⟨task, field, value, rfl, hi⟩
            exact ⟨task, field, value, rfl, List.mem_cons_of_mem _ hi⟩
          · refine (hf.kinds m hm).imp_left ?_
            rintro ⟨task, field, value, rfl, hi⟩
            exact ⟨task, field, value, rfl, by simpa using Or.inl (List.mem_singleton.mp hi)⟩
        · intro defers field hfield
          rcases List.mem_cons.mp hfield with rfl | hfield
          · rcases hf.closed defers field (List.mem_singleton_self _) with h | ⟨m, hm, closes⟩
            · exact .inl ((asks field).symm.trans h)
            · exact .inr ⟨m, List.mem_append_right _ hm, closes⟩
          · rcases hr.closed defers field hfield with h | ⟨m, hm, closes⟩
            · exact .inl (((hf.asks field).trans (asks field)).symm.trans h)
            · exact .inr ⟨m, List.mem_append_left _ hm, closes⟩
      obtain ⟨journal, asks⟩ : (s.recheck app id).1.form.journal = s.form.journal ∧
          ∀ other, (s.recheck app id).1.form.asks other = s.form.asks other :=
        Form.recheck_frame app.host s.form id
      rw [reconsiderAll]
      unfold reconsider
      cases s.form.validatesOnChange with
      | false => exact goesOn s rfl fun _ => rfl
      | true =>
          rcases hr : s.recheck app id with ⟨t, outcome⟩
          rw [hr] at journal asks
          simp only [if_true]
          cases outcome with
          | ok _ => exact goesOn t journal asks
          | error e => exact ⟨_, cut t journal asks⟩

/-- Inquiries that are opened for a commit are founded on it. -/
theorem founded_append {ids : List String} {added before : List Milestone}
    (kinds : ∀ m ∈ added, (∃ id field value, m = .inquired id field value ∧ field ∈ ids) ∨
      ∃ cut, m = .cutShort cut)
    (founded : History (fun e m => m.Founded e) before) (quiet : ∀ m ∈ before, ¬ m.IsEffect)
    (committed : .committed ids ∈ before) :
    History (fun e m => m.Founded e) (added ++ before) ∧ ∀ m ∈ added ++ before, ¬ m.IsEffect := by
  induction added with
  | nil => exact ⟨founded, quiet⟩
  | cons m added ih =>
      obtain ⟨rest, calm⟩ := ih fun n hn => kinds n (List.mem_cons_of_mem _ hn)
      rcases kinds m List.mem_cons_self with ⟨id, field, value, rfl, hf⟩ | ⟨cut, rfl⟩
      · refine ⟨⟨?_, rest⟩, List.forall_mem_cons.mpr ⟨not_isEffect_of (by simp), calm⟩⟩
        refine fresh_of_commits (fun n hn => not_complains_of_not_isEffect (calm n hn) field) ?_
        exact ⟨_, List.mem_append_right _ committed, hf⟩
      · exact ⟨⟨trivial, rest⟩, List.forall_mem_cons.mpr ⟨not_isEffect_of (by simp), calm⟩⟩

/-- A commit goes on by what is told of it, then its fields are reconsidered. -/
theorem proceeds_committed {s t : Session} {changes : Table Value}
    (h : Proceeds app
      { s with form := ((s.form.put changes).refresh app.host changes.keys).value } t) :
    Proceeds app s (t.reconsiderAll app changes.keys).1 := by
  obtain ⟨states, hf⟩ := Form.refresh_frame app.host changes.keys (s.form.put changes)
  rw [hf] at h
  obtain ⟨told, ht⟩ := h
  obtain ⟨added, hr⟩ := reconsiderAll_reconsidered app t changes.keys
  have told_journal : t.form.journal = told ++ .committed changes.keys :: s.form.journal :=
    ht.journal
  have calm : ∀ m ∈ told ++ [.committed changes.keys], ¬ m.IsEffect := by
    intro m hm
    rcases List.mem_append.mp hm with hm | hm
    · exact ht.quiet m hm
    · rw [List.mem_singleton.mp hm]
      exact not_isEffect_of (by simp)
  have grounded : History (fun e m => m.Founded e) (told ++ [.committed changes.keys]) :=
    ht.founded.append_mono founded_mono (show History _ [_] from ⟨trivial, trivial⟩)
  obtain ⟨founded, quiet⟩ := founded_append hr.kinds grounded calm
    (List.mem_append_right told (List.mem_singleton_self _))
  refine ⟨added ++ (told ++ [.committed changes.keys]), ?_, quiet, founded, ?_, ?_⟩
  · rw [hr.journal, told_journal]
    simp
  · intro absent id
    simp only [List.mem_append, not_or] at absent
    exact (hr.asks id).trans (ht.asks absent.2.1 id)
  · intro defers field pending
    rw [hr.asks field]
    rcases pending_append pending with h | ⟨none, h⟩
    · obtain ⟨m, hm, commits⟩ := exists_commits_of_pending h
      rcases hr.kinds m hm with ⟨_, _, _, rfl, _⟩ | ⟨_, rfl⟩
      · exact commits.elim
      · exact commits.elim
    · rcases pending_append h with h | ⟨-, h⟩
      · exact ht.closed defers field h
      · have hm : field ∈ changes.keys := h.2.resolve_right id
        refine (hr.closed defers field hm).resolve_right ?_
        rintro ⟨m, hm, closes⟩
        exact none m hm closes

/-- Every operation that is carried out at once lets the journal go on by a stretch. -/
theorem proceeds_law (allowed : FormCommand → Prop) : Law app allowed (Proceeds app) where
  refl _ := proceeds_still rfl fun _ => rfl
  trans := Proceeds.trans
  remembered _ _ _ _ _ := proceeds_still rfl fun _ => rfl
  noted _ _ _ := proceeds_still rfl fun _ => rfl
  calledBack _ _ _ _ _ _ :=
    ⟨_, .single rfl (fun _ _ => rfl) (not_isEffect_of (by simp)) trivial fun _ h => h⟩
  committed _ _ _ := proceeds_committed
  weighed _ := proceeds_still rfl fun _ => rfl
  deferred _ := proceeds_still rfl fun _ => rfl
  tookOver s t _ h := by
    have began : Proceeds app s { s with form.syncing := true } :=
      proceeds_still rfl fun _ => rfl
    exact (began.trans h).trans (proceeds_still rfl fun _ => rfl)
  altered _ _ _ := proceeds_still rfl fun _ => rfl
  shared _ _ _ _ _ _ _ := proceeds_still rfl fun _ => rfl
  touched _ _ := proceeds_still rfl fun _ => rfl
  rechecked s id :=
    have frame := Form.recheck_frame app.host s.form id
    proceeds_still frame.1 frame.2
  probed s id :=
    have amended := Form.complaintsAt_amended app.host s.form id
    proceeds_still amended.journal amended.asks
  checked s :=
    have amended := Form.complaints_amended app.host s.form
    proceeds_still amended.journal amended.asks
  settled _ _ _ :=
    ⟨_, .single rfl (fun _ _ => rfl) (not_isEffect_of (by simp)) trivial fun _ h => h⟩
  reported s := by
    obtain ⟨reported, frame⟩ := s.form.report_frame
    rw [frame]
    exact proceeds_still rfl fun _ => rfl
  seeded s := ⟨_, .single rfl (fun h => absurd rfl h) (not_isEffect_of (by simp)) trivial fun _ h => h⟩
  stored _ _ _ := proceeds_still rfl fun _ => rfl
  broke _ _ _ := proceeds_still rfl fun _ => rfl
  mounted _ _ := proceeds_still rfl fun _ => rfl
  listened s _ := by
    refine proceeds_still (by rw [listen_form]) ?_
    rw [listen_form]
    exact fun _ => rfl
  unmounted s _ _ := by
    refine ⟨[.unmounted], .single ?_ (fun _ => ?_) (not_isEffect_of (by simp)) trivial fun _ h => h⟩
    · dsimp only
      rw [detach_form]
      rfl
    · dsimp only
      rw [detach_form]
      exact fun _ => rfl
  schemaSet s _ _ _ _ :=
    ⟨_, .single rfl (fun h => absurd rfl h) (not_isEffect_of (by simp)) trivial fun _ h => h⟩
  snapshotSet s _ values _ _ := by
    unfold Form.setSnapshot
    split
    · exact proceeds_still rfl fun _ => rfl
    · exact ⟨_, .single rfl (fun h => absurd rfl h) (not_isEffect_of (by simp)) trivial fun _ h => h⟩

theorem proceeds_course (allowed : FormCommand → Prop) : Course app allowed (Proceeds app) where
  toLaw := proceeds_law allowed
  arranged _ _ _ := proceeds_still rfl fun _ => rfl
  accepted s id _ :=
    ⟨_, .single rfl (fun _ _ => rfl) (not_isEffect_of (by simp)) trivial fun _ h => h⟩
  handed s id values :=
    ⟨_, .single rfl (fun _ _ => rfl) (not_isEffect_of (by simp)) trivial fun _ h => h⟩
  ended s id epoch fault := by
    obtain ⟨submitting, frame⟩ :=
      Form.endSubmission_frame id epoch { s.form with submitFault := fault }
    refine ⟨[.ended id epoch], .single ?_ (fun _ => ?_) (not_isEffect_of (by simp)) trivial
      fun _ h => h⟩
    · rw [frame]
      rfl
    · rw [frame]
      exact fun _ => rfl

end Session

/-- What the journal of a form tells of inquiries. -/
structure Chronicle (app : Application) (f : Form) : Prop where
  timely : History (Timely app.host) f.journal
  founded : History (fun e m => m.Founded e) f.journal
  closed : app.defers = true → ∀ field, Pending field f.journal → f.asks field = []

namespace Chronicle

variable {app : Application} {f g : Form}

theorem proceeds {added : List Milestone} (h : Chronicle app f) (stretch : Stretch app added f g) :
    Chronicle app g where
  timely := by
    have quiet := stretch.quiet
    rw [stretch.journal]
    clear stretch
    induction added with
    | nil => exact h.timely
    | cons m added ih =>
        refine ⟨?_, ih fun n hn => quiet n (List.mem_cons_of_mem _ hn)⟩
        intro id field given now applies
        exact absurd ⟨id, field, given, now, applies⟩ (quiet m List.mem_cons_self)
  founded := by
    rw [stretch.journal]
    exact stretch.founded.append_mono founded_mono h.founded
  closed defers field pending := by
    rw [stretch.journal] at pending
    rcases pending_append pending with hp | ⟨none, hp⟩
    · exact stretch.closed defers field hp
    · rw [stretch.asks fun hm => none _ hm trivial]
      exact h.closed defers field hp

/-- An effect of an inquiry that stands is noted in time. -/
theorem effect {m : Milestone} (h : Chronicle app f) (effect : m.IsEffect)
    (timely : Timely app.host f.journal m) : Chronicle app (f.mark m) where
  timely := ⟨timely, h.timely⟩
  founded := by
    refine ⟨?_, h.founded⟩
    obtain ⟨id, field, given, now, rfl | rfl⟩ := effect
    · trivial
    · trivial
  closed defers field pending := by
    refine h.closed defers field (pending.2.resolve_left ?_)
    obtain ⟨id, other, given, now, rfl | rfl⟩ := effect
    · exact fun commits => commits
    · exact fun commits => commits

/-- While an inquiry stands, the commits of its field since it was opened were cut short: any other
would have opened an inquiry in its place. -/
theorem commits_cutShort {since before : List Milestone} {field : String} {id : Nat} {value : Value}
    (h : Chronicle app f) (defers : app.defers = true) (asks : f.asks field ≠ [])
    (journal : f.journal = since ++ .inquired id field value :: before)
    (standing : ∀ n ∈ since, ¬ n.Supersedes field) :
    (∃ n ∈ since, n.Commits field) ↔ ∃ later n before, since = later ++ n :: before ∧
      n.Commits field ∧ ∃ cut ∈ later, cut.CutsShort field := by
  constructor
  · rintro ⟨n, hn, commits⟩
    obtain ⟨later, earlier, rfl⟩ := List.append_of_mem hn
    refine ⟨later, n, earlier, rfl, commits, ?_⟩
    refine Classical.byContradiction fun none => asks (h.closed defers field ?_)
    rw [journal, List.append_assoc]
    refine pending_of_commits commits fun m hm closes => ?_
    have stands := standing m (List.mem_append_left _ hm)
    cases m with
    | reseeded => exact stands trivial
    | inquired task other v => exact stands closes
    | cutShort ids => exact none ⟨_, hm, closes⟩
    | _ => exact closes
  · rintro ⟨later, n, earlier, rfl, commits, -⟩
    exact ⟨n, List.mem_append_right _ List.mem_cons_self, commits⟩

/-- What an inquiry does while it is not stale is in time. -/
theorem timely_of_not_isStale {id : Nat} {q : Inquiry} {stage : InquiryStage} {m : Milestone}
    {ts : List (Nat × Inquiry × InquiryStage)} (h : Chronicle app f)
    (inquiries : Inquiries app ((id, q, stage) :: ts) f) (current : q.isStale f = false)
    (hm : m = .asked id q.fieldId q.value (f.value q.fieldId) ∨
      m = .complained id q.fieldId q.value (f.value q.fieldId)) : Timely app.host f.journal m := by
  unfold Inquiry.isStale Form.isStale at current
  simp only [Bool.or_eq_false_iff, bne_eq_false_iff_eq, Bool.not_eq_false'] at current
  obtain ⟨latest, equal⟩ := current
  have stands := inquiries.stands _ List.mem_cons_self latest
  obtain ⟨since, value, before, journal, standing, scheduled⟩ := stands.opened
  have asks : f.asks q.fieldId ≠ [] := by
    rw [stands.rules]
    exact (inquiries.asks _ List.mem_cons_self).1
  intro task field given now applies
  obtain ⟨rfl, rfl, rfl, rfl⟩ : id = task ∧ q.fieldId = field ∧ q.value = given ∧
      f.value q.fieldId = now := by
    rcases hm with rfl | rfl <;> rcases applies with h | h <;> cases h
    · exact ⟨rfl, rfl, rfl, rfl⟩
    · exact ⟨rfl, rfl, rfl, rfl⟩
  refine ⟨since, value, before, journal, standing, equal, scheduled, ?_⟩
  exact h.commits_cutShort (inquiries.defers (List.cons_ne_nil _ _)) asks journal standing

end Chronicle

namespace Session

variable {app : Application}

/-- The invariant for a session in which an inquiry may be running. -/
structure Sound (app : Application) (running : List (Nat × Inquiry × InquiryStage)) (s : Session) :
    Prop where
  inquiries : Inquiries app (running ++ s.seen Task.inquiry?) s.form
  chronicle : Chronicle app s.form

namespace Sound

variable {s : Session} {id : Nat} {q : Inquiry} {stage : InquiryStage}

theorem forgot (h : s.Sound app [(id, q, stage)]) (other : Nat) :
    Sound app [] { s with agenda := s.agenda.add (.forget other) } := by
  refine ⟨?_, h.chronicle⟩
  unfold seen
  rw [s.agenda.tasks_add_none (.forget other) rfl]
  exact h.inquiries.tail

theorem slept (h : s.Sound app [(id, q, stage)]) (span : Span) :
    Sound app [] { s with agenda := s.agenda.sleep span (.inquiry id q stage) } :=
  ⟨h.inquiries.perm ((s.agenda.tasks_sleep span _).filterMap Task.inquiry?).symm, h.chronicle⟩

theorem goOn (h : s.Sound app [(id, q, stage)]) (later : InquiryStage)
    (rules : ∀ rule ∈ later.rules q, rule ∈ q.rules) : s.Sound app [(id, q, later)] :=
  ⟨Inquiries.goOn (q := q) rfl rfl rules (fun stands => stands) h.inquiries, h.chronicle⟩

theorem refreshed (h : s.Sound app [(id, q, stage)]) :
    s.Sound app [(id, q.refreshed s.form, stage)] :=
  ⟨h.inquiries.refreshed, h.chronicle⟩

/-- Asking a rule may alter the value that the inquiry is about, not its rules. -/
theorem ask (h : s.Sound app [(id, q, .rested)]) (rule : AsyncRule) (values : Table Value)
    (messages : List String) :
    (s.ask app q rule values messages).1.Sound app
        [(id, (s.ask app q rule values messages).2.1, .rested)] ∧
      (s.ask app q rule values messages).2.1.rules = q.rules := by
  unfold Session.ask
  dsimp only
  split
  · exact ⟨⟨h.inquiries, h.chronicle⟩, rfl⟩
  · next v hv =>
    have alters : ¬ app.host.KeepsValues := by
      intro keeps
      rw [app.host.awaited_unaltered (keeps _ _)] at hv
      cases hv
    have renewed {f : Form} (hi : Inquiries app ((id, q, .rested) :: s.seen Task.inquiry?) f) :
        Inquiries app ((id, { q with value := v }, .rested) :: s.seen Task.inquiry?) f := by
      refine Inquiries.goOn (q := q) rfl rfl (fun _ hr => hr) (fun stands => ?_) hi
      obtain ⟨since, value, earlier, hj, hs, -⟩ := stands.opened
      exact ⟨⟨since, value, earlier, hj, hs, fun keeps => absurd keeps alters⟩, stands.rules,
        fun keeps => absurd keeps alters⟩
    refine ⟨?_, rfl⟩
    dsimp only
    split
    · refine ⟨renewed (h.inquiries.amend _ v alters), h.chronicle.proceeds (.still ?_ ?_)⟩
      · obtain ⟨values, parsed, hf, -⟩ := Form.amend_frame q.field.id v s.form
        rw [hf]
      · exact fun other => Form.asks_amend s.form _ other v
    · exact ⟨renewed h.inquiries, h.chronicle⟩

/-- An inquiry that has asked all its rules ends; if it writes complaints, it does so in time. -/
theorem settleInquiry (h : s.Sound app [(id, q, .rested)]) (messages : List String) :
    (s.settleInquiry id q messages).Sound app [] := by
  unfold Session.settleInquiry
  dsimp only
  split
  · exact h.forgot id
  · next complains =>
    have current : q.isStale s.form = false := by
      rw [Bool.or_eq_true, not_or] at complains
      exact Bool.eq_false_iff.mpr complains.1
    have timely := h.chronicle.timely_of_not_isStale h.inquiries current (.inr rfl)
    have noted := h.chronicle.effect ⟨_, _, _, _, .inr rfl⟩ timely
    have latest : q.IsLatest s.form := by
      unfold Inquiry.isStale Form.isStale at current
      rw [Bool.or_eq_false_iff, bne_eq_false_iff_eq] at current
      exact current.1
    have others := h.inquiries.fieldId_ne latest
    have marked := h.inquiries.tail.mark
      (m := .complained id q.fieldId q.value (s.form.value q.fieldId)) others
    refine ⟨?_, noted.proceeds (.still rfl fun _ => rfl)⟩
    unfold seen
    rw [s.agenda.tasks_add_none (.forget id) rfl]
    exact marked.congr rfl rfl rfl rfl rfl

theorem askAll (values : Table Value) (messages : List String) (rules : List AsyncRule)
    (h : s.Sound app [(id, q, .rested)]) (asked : ∀ rule ∈ rules, rule ∈ q.rules) :
    (s.askAll app id values q messages rules).Sound app [] := by
  induction rules generalizing q messages s with
  | nil => exact h.settleInquiry messages
  | cons rule later ih =>
      unfold Session.askAll
      dsimp only
      split
      · obtain ⟨sound, same⟩ := h.ask rule values messages
        refine ih _ sound fun r hr => ?_
        rw [same]
        exact asked r (List.mem_cons_of_mem _ hr)
      · exact (h.goOn (.asking rule later values messages) asked).slept _

theorem openQuestions (h : s.Sound app [(id, q, stage)]) :
    (s.openQuestions app id q).Sound app [] := by
  unfold Session.openQuestions
  split
  · exact h.forgot id
  · next wanted =>
    have current : q.isStale s.form = false := by
      rw [Bool.or_eq_true, not_or] at wanted
      exact Bool.eq_false_iff.mpr wanted.1
    have timely := h.chronicle.timely_of_not_isStale h.inquiries current (.inl rfl)
    have begun := h.goOn .rested fun _ hr => hr
    have asked : Sound app [(id, q, .rested)] { s with
        form := s.form.mark (.asked id q.field.id q.value (s.form.value q.field.id)) } :=
      ⟨begun.inquiries.mark fun _ _ _ hs => hs,
        h.chronicle.effect ⟨_, _, _, _, .inl rfl⟩ timely⟩
    exact asked.askAll _ _ _ fun _ hr => hr

/-- A step of an inquiry keeps the invariant. -/
theorem inquireOn (h : s.Sound app [(id, q, stage)]) :
    (s.inquireOn app id q stage).Sound app [] := by
  have renewed := h.refreshed
  unfold Session.inquireOn
  dsimp only
  cases stage with
  | begun =>
      dsimp only
      split
      · exact renewed.forgot id
      · split
        · exact (renewed.goOn .rested fun _ hr => hr).slept _
        · exact renewed.openQuestions
  | rested => exact renewed.openQuestions
  | asking rule later values messages =>
      have asked := (renewed.inquiries.asks _ List.mem_cons_self).2
      have running := renewed.goOn .rested fun _ hr => hr
      obtain ⟨sound, same⟩ := running.ask rule values messages
      refine sound.askAll values _ later fun r hr => ?_
      rw [same]
      exact asked r (List.mem_cons_of_mem _ hr)

end Sound

theorem begins_sound {s : Session} (h : Begins app s) : s.Sound app [] := by
  obtain ⟨source, parsed, given, snapshot, state, reactions, -, -, rfl⟩ := h
  have blank : Inquiries app [] ({ parsed, snapshot } : Form) :=
    ⟨by simp, by simp, by simp, by simp, by simp⟩
  refine ⟨(inquiries_upkeep app).seeded parsed snapshot (.inl rfl) (.inl rfl) blank, ⟨?_, ?_, ?_⟩⟩
  · refine ⟨fun _ _ _ _ applies => ?_, trivial⟩
    rcases applies with h | h <;> cases h
  · exact ⟨trivial, trivial⟩
  · exact fun _ _ pending => absurd trivial pending.1

/-- In every session that a form can come to, inquiries are known to the form and have had effects in
time only. -/
theorem Reachable.sound {s : Session} (h : Reachable app s) : s.Sound app [] := by
  obtain ⟨begun, hb, h⟩ := h
  have course := (inquiries_course app fun _ => True).and (proceeds_course fun _ => True)
  refine (h.keeps course ?_ ?_ (fun _ _ => trivial) (begins_sound hb)).1
  · rintro s t ⟨keeps, added, stretch⟩ sound
    exact ⟨keeps [] sound.inquiries, sound.chronicle.proceeds stretch⟩
  · intro s ready id q stage _ sound hr
    have running : Sound app [(id, q, stage)] { s with agenda.ready := ready } := by
      have inquiries := sound.inquiries
      rw [seen_ready Task.inquiry? hr] at inquiries
      exact ⟨inquiries, sound.chronicle⟩
    exact running.inquireOn

section Resuming

variable {s : Session} (h : Reachable app s) {id : Nat} {q : Inquiry} {stage : InquiryStage}
  {ready : List Job} (hr : s.agenda.ready = .resume (.inquiry id q stage) :: ready)
include h hr

/-- An inquiry that has its turn asks rules of its own. -/
theorem Reachable.asks : q.rules ≠ [] ∧ ∀ rule ∈ stage.rules q, rule ∈ q.rules := by
  refine h.sound.inquiries.asks (id, q, stage) ?_
  rw [seen_ready Task.inquiry? hr]
  exact List.mem_cons_self

/-- While it is the latest about its field, it stands. -/
theorem Reachable.stands (latest : q.IsLatest s.form) : q.Stands app.host s.form id := by
  refine h.sound.inquiries.stands (id, q, stage) ?_ latest
  rw [seen_ready Task.inquiry? hr]
  exact List.mem_cons_self

end Resuming

/-- An inquiry that nothing has superseded was opened after every complaint about its field. -/
theorem opened_between {between earlier since before : List Milestone} {n : Milestone} {id : Nat}
    {field : String} {value : Value} (hn : n.Complains field)
    (standing : ∀ m ∈ since, ¬ m.Supersedes field)
    (h : between ++ n :: earlier = since ++ .inquired id field value :: before) :
    ∃ between', between = since ++ .inquired id field value :: between' ∧
      before = between' ++ n :: earlier := by
  have supersedes : n.Supersedes field := by
    cases n <;> first | exact hn | exact hn.elim
  rcases List.append_eq_append_iff.mp h with ⟨rest, rfl, hr⟩ | ⟨rest, rfl, hr⟩
  · cases rest with
    | nil =>
        obtain ⟨rfl, -⟩ := List.cons_eq_cons.mp hr
        exact hn.elim
    | cons m rest =>
        obtain ⟨rfl, -⟩ := List.cons_eq_cons.mp hr
        exact absurd supersedes (standing n (List.mem_append_right _ List.mem_cons_self))
  · cases rest with
    | nil =>
        obtain ⟨rfl, -⟩ := List.cons_eq_cons.mp hr
        exact hn.elim
    | cons m rest =>
        obtain ⟨rfl, rfl⟩ := List.cons_eq_cons.mp hr
        exact ⟨rest, rfl, rfl⟩

/-- Whenever an inquiry about a field asks its first rule or writes complaints, the state was not made
anew since it was opened, the form was not unmounted, no other inquiry about the field was opened or
wrote complaints, and the value it was given is that of the field. The field was committed since just
if a commit was cut short before the field had its turn. Between two complaints about a field there is
always a commit of it. -/
theorem inquiry_effects_timely {s : Session} (h : Reachable app s) :
    (∀ later m earlier id field given now, s.form.journal = later ++ m :: earlier →
      m = .asked id field given now ∨ m = .complained id field given now →
      ∃ since value before, earlier = since ++ .inquired id field value :: before ∧
        .reseeded ∉ since ∧ .unmounted ∉ since ∧
        (∀ other v, .inquired other field v ∉ since) ∧
        (∀ other v w, .complained other field v w ∉ since) ∧
        now.equal given = true ∧ (app.host.KeepsValues → given = value) ∧
        ((∃ n ∈ since, n.Commits field) ↔ ∃ later n before, since = later ++ n :: before ∧
          n.Commits field ∧ ∃ cut ∈ later, cut.CutsShort field)) ∧
    ∀ later m between n earlier field,
      s.form.journal = later ++ m :: (between ++ n :: earlier) →
      m.Complains field → n.Complains field → ∃ c ∈ between, c.Commits field := by
  have timely := (History.iff_forall _).mp h.sound.chronicle.timely
  have founded := (History.iff_forall _).mp h.sound.chronicle.founded
  constructor
  · intro later m earlier id field given now hj hm
    obtain ⟨since, value, before, he, standing, equal, scheduled, commits⟩ :=
      timely later m earlier hj id field given now hm
    exact ⟨since, value, before, he, fun hr => standing _ hr trivial,
      fun hu => standing _ hu trivial, fun _ _ hi => standing _ hi rfl,
      fun _ _ _ hc => standing _ hc rfl, equal, scheduled, commits⟩
  · intro later m between n earlier field hj hm hn
    cases m with
    | complained id other given now =>
        obtain rfl : other = field := hm
        obtain ⟨since, value, before, he, standing, -⟩ :=
          timely later _ _ hj id other given now (.inr rfl)
        -- the inquiry was opened after the first complaint, which would have superseded it
        obtain ⟨between', rfl, rfl⟩ := opened_between hn standing he
        have opened : Founded (between' ++ n :: earlier) (.inquired id other value) :=
          founded (later ++ .complained id other given now :: since) _ _ (by simp [hj])
        obtain ⟨c, hc, commits⟩ := exists_commits_of_fresh hn opened
        exact ⟨c, List.mem_append_right _ (List.mem_cons_of_mem _ hc), commits⟩
    | _ => exact hm.elim

/-- A field that cannot be checked: its rule names a type that there is none of. -/
def strictField : FormField :=
  { FormField.plain "a" "text" with
    validation := some ⟨none, .str "Nowhere", none, [], [], none⟩ }

/-- A field that is inquired about after a tenth of a second. -/
def askingField : FormField :=
  { FormField.plain "b" "text" with
    validation := some ⟨none, .null, none, [],
      [⟨"r", "taken", ⟨.deferredFunction, 0, .null⟩, none⟩], some 100⟩ }

/-- A schema whose fields are checked when they change. -/
def strictSchema : FormSchema :=
  { FormSchema.plain [strictField, askingField] with
    validation := some ⟨.null, [], true, false, true⟩ }

/-- An application next to a store, which finds every value taken. -/
def strictApplication : Application where
  host := .constant (.bool false) (.zero false)
  settings := {}
  link := some { view := {} }

/-- A value is put in, then the store puts in another and the first one again. Each time the check of
the other field cuts it short. -/
def strictSession : Session :=
  let s := strictSchema.begin strictApplication
  let s := (s.perform strictApplication .mount).1
  let s := (s.perform strictApplication (.change "b" (.str "x"))).1
  let s := (s.perform strictApplication
    (.setStore (.record [("a", .str "1"), ("b", .str "y")]))).1
  let s := (s.perform strictApplication
    (.setStore (.record [("a", .str "2"), ("b", .str "x")]))).1
  s.pause strictApplication (Time.seconds 200)

theorem strictSession_reachable : Reachable strictApplication strictSession := by
  refine ⟨_, FormSchema.begins (s := strictSchema) (by decide +kernel), Leads.waited ?_ _⟩
  exact (((Leads.refl.command .mount trivial).command _ trivial).command _ trivial).command _ trivial

/-- The complaint that the inquiry of that session wrote, with what led to it. -/
theorem strictSession_complains : ∃ given now earlier,
    strictSession.form.journal = [] ++ .complained 0 "b" given now :: earlier ∧
      ∃ since value before, earlier = since ++ .inquired 0 "b" value :: before ∧
        ∃ n ∈ since, n.Commits "b" := by
  have complained : (strictSession.form.journal[0]?).any (fun m =>
      match m with | .complained 0 "b" _ _ => true | _ => false) = true := by decide +kernel
  have inquired : ((strictSession.form.journal.drop 1)[7]?).any (fun m =>
      match m with | .inquired 0 "b" _ => true | _ => false) = true := by decide +kernel
  have committed : (((strictSession.form.journal.drop 1).take 7)[3]?).any (fun m =>
      match m with | .committed ids => ids.contains "b" | _ => false) = true := by decide +kernel
  obtain ⟨m, hm, journal⟩ := exists_split 0 complained
  obtain ⟨i, hi, earlier⟩ := exists_split 7 inquired
  obtain ⟨c, hc, since⟩ := exists_split 3 committed
  split at hm
  · next given now =>
    split at hi
    · next value =>
      refine ⟨given, now, _, journal, _, value, _, earlier, c, ?_, ?_⟩
      · rw [since]
        exact List.mem_append_right _ List.mem_cons_self
      · cases c with
        | committed ids => exact List.contains_iff_mem.mp hc
        | _ => cases hc
    · cases hi
  · cases hm

/-- An inquiry can write complaints although its field was committed since it was opened. -/
theorem superseded_inquiry_complains : ¬ ∀ (app : Application) (s : Session), Reachable app s →
    ∀ later earlier id field given now, s.form.journal =
        later ++ .complained id field given now :: earlier →
      ∀ since value before, earlier = since ++ .inquired id field value :: before →
        ∀ n ∈ since, ¬ n.Commits field := by
  intro always
  obtain ⟨given, now, earlier, hj, since, value, before, he, n, hn, commits⟩ :=
    strictSession_complains
  exact always strictApplication strictSession strictSession_reachable [] earlier 0 "b" given now hj
    since value before he n hn commits

/-- Since then the state was not made anew, and the field was committed just if a commit was cut
short. -/
theorem strictSession_timely : ∃ given now earlier,
    strictSession.form.journal = [] ++ .complained 0 "b" given now :: earlier ∧
      ∃ since value before, earlier = since ++ .inquired 0 "b" value :: before ∧
        .reseeded ∉ since ∧ now.equal given = true ∧
        ((∃ n ∈ since, n.Commits "b") ↔ ∃ later n before, since = later ++ n :: before ∧
          n.Commits "b" ∧ ∃ cut ∈ later, cut.CutsShort "b") := by
  obtain ⟨given, now, earlier, hj, -⟩ := strictSession_complains
  obtain ⟨effects, -⟩ := inquiry_effects_timely strictSession_reachable
  obtain ⟨since, value, before, he, absent, -, -, -, equal, -, commits⟩ :=
    effects [] _ earlier 0 "b" given now hj (.inr rfl)
  exact ⟨given, now, earlier, hj, since, value, before, he, absent, equal, commits⟩

end Session

end FormEngine
