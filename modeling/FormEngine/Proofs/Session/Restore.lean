import FormEngine.Proofs.Form.Frame
import FormEngine.Proofs.Session.Specimen
import FormEngine.Proofs.Value.Record

/-!
Resetting a form that shares its values with a store. The values go into the store over what is
there, and the store tells the form of the result, which the form takes over where it differs. So a key
that was in the store, and is none of the snapshot, comes back.
-/

namespace FormEngine

/-- A value that is there is what its key resolves to. -/
theorem Form.entry_resolved {f : Form} (distinct : f.state.values.keys.Nodup) {id : String}
    {x : Value} (h : f.state.values.get? id = some x) : Value.entry f.resolved id = x :=
  congrArg (fun v => v.getD Value.null)
    (Table.get?_merge_of_mem _ distinct (Table.mem_of_get? h))

/-- What becomes of a form while it reconsiders fields. Its values keep their keys; where the values of
those fields have no parts, nothing is altered at all. -/
structure Form.Rests (ids : List String) (f g : Form) : Prop where
  snapshot : g.snapshot = f.snapshot
  isDirty : g.state.isDirty = f.state.isDirty
  syncing : g.syncing = f.syncing
  keys : ∀ key ∈ f.state.values.keys, key ∈ g.state.values.keys
  still : (∀ id ∈ ids, (Value.entry f.resolved id).hasParts = false) →
    g.state.values = f.state.values ∧ g.parsed = f.parsed

namespace Form.Rests

variable {ids : List String} {f g h : Form}

/-- A change that leaves alone what is at stake. -/
theorem of (snapshot : g.snapshot = f.snapshot) (state : g.state.isDirty = f.state.isDirty)
    (syncing : g.syncing = f.syncing) (values : g.state.values = f.state.values)
    (parsed : g.parsed = f.parsed) : f.Rests ids g :=
  ⟨snapshot, state, syncing, fun _ hk => values ▸ hk, fun _ => ⟨values, parsed⟩⟩

theorem trans (r : f.Rests ids g) (r' : g.Rests ids h) : f.Rests ids h where
  snapshot := r'.snapshot.trans r.snapshot
  isDirty := r'.isDirty.trans r.isDirty
  syncing := r'.syncing.trans r.syncing
  keys key hk := r'.keys key (r.keys key hk)
  still plain := by
    obtain ⟨values, parsed⟩ := r.still plain
    have resolved : g.resolved = f.resolved := by
      unfold resolved
      rw [values, parsed]
    obtain ⟨values', parsed'⟩ := r'.still (resolved ▸ plain)
    exact ⟨values'.trans values, parsed'.trans parsed⟩

theorem mono {more : List String} (sub : ∀ id ∈ ids, id ∈ more) (r : f.Rests ids g) :
    f.Rests more g :=
  ⟨r.snapshot, r.isDirty, r.syncing, r.keys,
    fun plain => r.still fun id hid => plain id (sub id hid)⟩

variable {host : Host}

theorem amended {id : String} (hg : f.Amended host (f.parsed.field? id).toList g) :
    f.Rests [id] g := by
  obtain ⟨values, parsed, frame⟩ := hg.frame
  refine ⟨by rw [frame], by rw [frame], by rw [frame], ?_, fun plain => ?_⟩
  · clear frame
    induction hg with
    | refl => exact fun _ hk => hk
    | amend p r v _ _ _ _ ih => exact fun key hk => mem_keys_amend p.id v _ (ih key hk)
  · have same : g = f := hg.eq fun p hp r _ => by
      have hid : p.id = id := by simpa using List.find?_some (Option.mem_toList.mp hp)
      exact host.reply_plain (hid ▸ plain id List.mem_cons_self)
    rw [same]
    exact ⟨rfl, rfl⟩

end Form.Rests

namespace Session

variable {app : Application}

theorem recheck_rests (s : Session) (id : String) :
    s.form.Rests [id] (s.recheck app id).1.form := by
  obtain ⟨g, hg, h | ⟨messages, -, h⟩⟩ := Form.recheck_amended app.host s.form id
  · rw [show (s.recheck app id).1.form = g from h]
    exact .amended hg
  · rw [show (s.recheck app id).1.form = g.setErrors id messages from h]
    exact (Form.Rests.amended hg).trans (.of rfl rfl rfl rfl rfl)

theorem inquire_rests (s : Session) (id : String) :
    s.form.Rests [id] (s.inquire app id).form := by
  unfold inquire
  split
  · exact .of rfl rfl rfl rfl rfl
  · split
    · exact .of rfl rfl rfl rfl rfl
    · dsimp only
      split
      · exact .of rfl rfl rfl rfl rfl
      · exact .of rfl rfl rfl rfl rfl

theorem reconsiderAll_rests (s : Session) (ids : List String) :
    s.form.Rests ids (s.reconsiderAll app ids).1.form := by
  have among {id : String} (hid : id ∈ ids) : ∀ other ∈ [id], other ∈ ids := by
    intro other ho
    rw [List.mem_singleton.mp ho]
    exact hid
  exact reconsiderAll_keeps (R := fun s t => s.form.Rests ids t.form)
    (fun _ => .of rfl rfl rfl rfl rfl) Form.Rests.trans
    (fun s _ id hid => (recheck_rests s id).mono (among hid))
    (fun s id hid => (inquire_rests s id).mono (among hid))
    (fun _ _ => .of rfl rfl rfl rfl rfl) s

theorem reviewValidity_rests (s : Session) (ids : List String) :
    s.form.Rests ids (s.reviewValidity app).form ∧
      (s.reviewValidity app).reactions = s.reactions := by
  unfold reviewValidity
  split
  · exact ⟨.of rfl rfl rfl rfl rfl, rfl⟩
  · exact ⟨.of rfl rfl rfl rfl rfl, rfl⟩

/-- An application that answers an event with nothing only takes note of it. -/
theorem notify_calm (app : Application) {s : Session} {e : Event}
    (calm : ∀ r ∈ s.reactions, e.occasion? ≠ some r.occasion) :
    ∃ journal events, (notify app s e).1 = { s with form.journal := journal, events } := by
  unfold notify callBack
  split
  · exact ⟨s.form.journal, s.events, rfl⟩
  · next o ho =>
    obtain ⟨occasion, -⟩ := Option.filter_eq_some_iff.mp ho
    have none : s.reactions.find? (fun r => r.occasion == o) = none := by
      refine List.find?_eq_none.mpr fun r hr same => calm r hr ?_
      rw [occasion, beq_iff_eq.mp same]
    have silent : (react app s.reactions.length o { s with
        events := s.events ++ [e]
        form := s.form.mark (.calledBack s.form.state.isSubmitting) }).1 = { s with
        events := s.events ++ [e]
        form := s.form.mark (.calledBack s.form.state.isSubmitting) } := by
      cases s.reactions.length with
      | zero => rfl
      | succ fuel =>
          unfold react takeReaction?
          dsimp only
          rw [none]
          rfl
    exact ⟨_, _, silent⟩

/-- A commit that is not shared, and not answered, puts the changes in. -/
theorem commit_rests (app : Application) {s : Session}
    (calm : ∀ r ∈ s.reactions, r.occasion ≠ .change) (changes : Table Value) :
    (s.form.put changes).Rests changes.keys
        (s.commit app (notify app) (fun s => s) changes).1.form ∧
      (s.commit app (notify app) (fun s => s) changes).1.reactions = s.reactions := by
  let put := s.become ((s.form.put changes).refresh app.host changes.keys)
  let told := put.tell (notify app) (.changed put.form.state.values)
  have begun : (s.form.put changes).Rests changes.keys told.form ∧
      told.reactions = s.reactions := by
    obtain ⟨states, refreshed⟩ := Form.refresh_frame app.host changes.keys (s.form.put changes)
    obtain ⟨journal, events, frame⟩ := notify_calm app (s := put)
      (e := .changed put.form.state.values) fun r hr same => calm r hr (Option.some.inj same).symm
    have whole : told = { put with form.journal := journal, events } := frame
    have form : put.form = { s.form.put changes with fieldStates := states } := refreshed
    rw [whole, form]
    exact ⟨.of rfl rfl rfl rfl rfl, rfl⟩
  have reconsidered : (s.form.put changes).Rests changes.keys
      (told.reconsiderAll app changes.keys).1.form ∧
      (told.reconsiderAll app changes.keys).1.reactions = s.reactions := by
    obtain ⟨form, agenda, events, frame⟩ := reconsiderAll_frame app told changes.keys
    refine ⟨begun.1.trans (reconsiderAll_rests told changes.keys), ?_⟩
    rw [frame]
    exact begun.2
  rw [commit_eq]
  unfold followUp
  split
  · next t h =>
    rw [h] at reconsidered
    obtain ⟨reviewed, same⟩ := reviewValidity_rests t changes.keys
    exact ⟨reconsidered.1.trans reviewed, same.trans reconsidered.2⟩
  · next t e h =>
    rw [h] at reconsidered
    exact reconsidered

/-- The form is not taking over values, and its application answers no change. -/
structure Idle (s : Session) : Prop where
  quiet : s.form.syncing = false
  calm : ∀ r ∈ s.reactions, r.occasion ≠ .change

/-- When the store tells of a record, the form takes over what differs. -/
theorem hear_rests (app : Application) {s : Session} (idle : s.Idle) {state : Value}
    (mapping : state.pairs?.isSome = true) :
    (s.hear app (notify app) {} state).Idle ∧
      ((s.hear app (notify app) {} state).form = s.form ∧
          s.form.differing (Form.namedEntries state) = [] ∨
        (s.form.put (s.form.differing (Form.namedEntries state))).Rests
          (s.form.differing (Form.namedEntries state)).keys
          (s.hear app (notify app) {} state).form) := by
  obtain ⟨w, read, same⟩ := StoreView.read_record app.host mapping
  have heard : s.hear app (notify app) {} state =
      ({ s with events := s.events ++ (StoreView.read app.host {} state).events }.takeOver app
        (notify app) w).1 := by
    unfold hear note
    dsimp only
    rw [read]
    dsimp only
    rw [if_neg (Bool.eq_false_iff.mp idle.quiet)]
  rw [heard]
  unfold takeOver
  dsimp only
  rw [same]
  split
  · next none => exact ⟨⟨idle.quiet, idle.calm⟩, .inl ⟨rfl, List.isEmpty_iff.mp none⟩⟩
  · obtain ⟨rests, reactions⟩ := commit_rests app (s := { s with
        events := s.events ++ (StoreView.read app.host {} state).events, form.syncing := true })
      idle.calm (s.form.differing (Form.namedEntries state))
    refine ⟨⟨rfl, ?_⟩, .inr ⟨rests.snapshot, rests.isDirty, idle.quiet.symm, rests.keys,
      rests.still⟩⟩
    rw [reactions]
    exact idle.calm

/-- The form is as a reset leaves it, with some fields. -/
structure Restored (snapshot : Table Value) (ids : List String) (f : Form) : Prop where
  values : f.state.values = snapshot
  snapshot : f.snapshot = snapshot
  isDirty : f.state.isDirty = false
  fieldIds : f.parsed.fieldIds = ids

section Hearing

variable {snapshot own : Table Value} {ids : List String}

/-- Putting in values that are there already leaves the form as it is. -/
theorem Restored.put {f : Form} (restored : Restored snapshot ids f) {changes : Table Value}
    (there : ∀ e ∈ changes, snapshot.get? e.1 = some e.2) :
    Restored snapshot ids (f.put changes) := by
  have values : f.state.values.merge changes = snapshot := by
    rw [restored.values]
    exact Table.merge_self there
  refine ⟨values, restored.snapshot, ?_, restored.fieldIds⟩
  unfold Form.put
  dsimp only
  rw [values, restored.snapshot, Value.equal_record_self]
  rfl

/-- Where every known key of the record is one of the snapshot, only a NaN differs from the values. -/
theorem differing_restored {f : Form} (restored : Restored snapshot ids f)
    (distinct : snapshot.keys.Nodup)
    (known : ∀ id ∈ ids, id ∈ own.keys → id ∈ snapshot.keys) :
    ∀ e ∈ f.differing ((Table.ofEntries own).merge snapshot),
      snapshot.get? e.1 = some e.2 ∧ e.2.hasParts = false := by
  intro e he
  obtain ⟨laid, differs⟩ := List.mem_filter.mp he
  rw [Bool.and_eq_true, restored.fieldIds, restored.values] at differs
  have declared : e.1 ∈ ids := List.contains_iff_mem.mp differs.1
  have key : e.1 ∈ snapshot.keys := by
    have whole := (Table.mem_keys_merge (Table.ofEntries own) snapshot e.1).mp
      (List.mem_map.mpr ⟨e, laid, rfl⟩)
    rcases whole with before | after
    · rcases (Table.mem_keys_merge [] own e.1).mp before with none | before
      · cases none
      · exact known e.1 declared before
    · exact after
  obtain ⟨⟨k, x⟩, hx, same⟩ := List.mem_map.mp key
  dsimp only at same
  subst same
  have nodup : ((Table.ofEntries own).merge snapshot).keys.Nodup :=
    Table.nodup_keys_merge (Table.nodup_keys_merge (t := []) List.nodup_nil own) snapshot
  have found := Table.get?_of_mem nodup laid
  rw [Table.get?_merge_of_mem _ distinct hx] at found
  have value : x = e.2 := Option.some.inj found
  have there := Table.get?_of_mem distinct hx
  rw [there] at differs
  refine ⟨value ▸ there, Value.hasParts_of_not_equal_self ?_⟩
  simpa [value] using differs.2

theorem hear_restored {s : Session} {state : Value} (idle : s.Idle)
    (restored : Restored snapshot ids s.form) (distinct : snapshot.keys.Nodup)
    (mapping : state.pairs?.isSome = true)
    (entries : Form.namedEntries state = (Table.ofEntries own).merge snapshot)
    (known : ∀ id ∈ ids, id ∈ own.keys → id ∈ snapshot.keys) :
    Restored snapshot ids (s.hear app (notify app) {} state).form := by
  have differing := differing_restored restored distinct known
  obtain ⟨-, ⟨same, -⟩ | rests⟩ := hear_rests app idle mapping
  · rw [same]
    exact restored
  · rw [entries] at rests
    generalize s.form.differing ((Table.ofEntries own).merge snapshot) = changes at differing rests
    have put := restored.put fun e he => (differing e he).1
    have plain : ∀ id ∈ changes.keys,
        (Value.entry (s.form.put changes).resolved id).hasParts = false := by
      intro id hid
      obtain ⟨e, he, rfl⟩ := List.mem_map.mp hid
      obtain ⟨there, plain⟩ := differing e he
      rw [Form.entry_resolved (put.values.symm ▸ distinct) (put.values.symm ▸ there)]
      exact plain
    obtain ⟨same, parsed⟩ := rests.still plain
    refine ⟨same.trans put.values, rests.snapshot.trans put.snapshot,
      rests.isDirty.trans put.isDirty, ?_⟩
    rw [parsed]
    exact put.fieldIds

/-- A key that the form has stays one of its keys. -/
theorem hear_key {s : Session} {state : Value} {key : String} (idle : s.Idle)
    (mapping : state.pairs?.isSome = true) (there : key ∈ s.form.state.values.keys) :
    key ∈ (s.hear app (notify app) {} state).form.state.values.keys := by
  obtain ⟨-, ⟨same, -⟩ | rests⟩ := hear_rests app idle mapping
  · rw [same]
    exact there
  · exact rests.keys key ((Table.mem_keys_merge _ _ key).mpr (.inl there))

/-- A known key of the record that the form lacks becomes one of its keys. -/
theorem hear_key_new {s : Session} {state : Value} {key : String} (idle : s.Idle)
    (mapping : state.pairs?.isSome = true) (declared : key ∈ s.form.parsed.fieldIds)
    (entry : key ∈ (Form.namedEntries state).keys) :
    key ∈ (s.hear app (notify app) {} state).form.state.values.keys := by
  by_cases there : key ∈ s.form.state.values.keys
  · exact hear_key idle mapping there
  · have differs : key ∈ (s.form.differing (Form.namedEntries state)).keys := by
      obtain ⟨e, he, rfl⟩ := List.mem_map.mp entry
      refine List.mem_map.mpr ⟨e, List.mem_filter.mpr ⟨he, ?_⟩, rfl⟩
      have none : s.form.state.values.get? e.1 = none := by
        rw [Table.mem_keys, Table.has] at there
        simpa using there
      rw [none, Bool.and_true]
      exact List.contains_iff_mem.mpr declared
    obtain ⟨-, ⟨-, none⟩ | rests⟩ := hear_rests app idle mapping
    · rw [none] at differs
      cases differs
    · exact rests.keys key ((Table.mem_keys_merge _ _ key).mpr (.inr differs))

/-- Further listeners are told the same, and change no more. -/
theorem hearing_restored {s : Session} {state : Value} (listeners : List Nat) (idle : s.Idle)
    (restored : Restored snapshot ids s.form) (distinct : snapshot.keys.Nodup)
    (mapping : state.pairs?.isSome = true)
    (entries : Form.namedEntries state = (Table.ofEntries own).merge snapshot)
    (known : ∀ id ∈ ids, id ∈ own.keys → id ∈ snapshot.keys) :
    Restored snapshot ids
      (listeners.foldl (fun s _ => s.hear app (notify app) {} state) s).form := by
  induction listeners generalizing s with
  | nil => exact restored
  | cons _ listeners ih =>
      exact ih (hear_rests app idle mapping).1
        (hear_restored idle restored distinct mapping entries known)

theorem hearing_key {s : Session} {state : Value} {key : String} (listeners : List Nat)
    (idle : s.Idle) (mapping : state.pairs?.isSome = true)
    (there : key ∈ s.form.state.values.keys) :
    key ∈ (listeners.foldl
      (fun s _ => s.hear app (notify app) {} state) s).form.state.values.keys := by
  induction listeners generalizing s with
  | nil => exact there
  | cons _ listeners ih =>
      exact ih (hear_rests app idle mapping).1 (hear_key idle mapping there)

/-- A form that is as a reset leaves it stays so just if nothing new is in what it hears. -/
theorem hearing_iff {s : Session} {state : Value} (listeners : List Nat) (idle : s.Idle)
    (restored : Restored snapshot ids s.form) (distinct : snapshot.keys.Nodup)
    (mapping : state.pairs?.isSome = true)
    (entries : Form.namedEntries state = (Table.ofEntries own).merge snapshot) :
    let heard := listeners.foldl (fun s _ => s.hear app (notify app) {} state) s
    ((Value.record heard.form.state.values).equal (.record snapshot) = true ∧
        heard.form.state.isDirty = false) ↔
      listeners = [] ∨ ∀ id ∈ ids, id ∈ own.keys → id ∈ snapshot.keys := by
  intro heard
  have clean (h : Restored snapshot ids heard.form) :
      (Value.record heard.form.state.values).equal (.record snapshot) = true ∧
        heard.form.state.isDirty = false := by
    rw [h.values]
    exact ⟨Value.equal_record_self snapshot, h.isDirty⟩
  by_cases known : ∀ id ∈ ids, id ∈ own.keys → id ∈ snapshot.keys
  · refine ⟨fun _ => .inr known, fun _ => clean ?_⟩
    exact hearing_restored listeners idle restored distinct mapping entries known
  · cases listeners with
    | nil => exact ⟨fun _ => .inl rfl, fun _ => clean restored⟩
    | cons token listeners =>
        refine ⟨fun equal => absurd (fun id declared entry => ?_) known,
          fun h => absurd (h.resolve_left (List.cons_ne_nil _ _)) known⟩
        have laid : id ∈ (Form.namedEntries state).keys := by
          rw [entries]
          refine (Table.mem_keys_merge _ _ id).mpr (.inl ?_)
          exact (Table.mem_keys_merge [] _ id).mpr (.inr entry)
        refine Value.keys_of_equal_record equal.1 ?_
        exact hearing_key listeners (hear_rests app idle mapping).1 mapping
          (hear_key_new idle mapping (restored.fieldIds ▸ declared) laid)

end Hearing

theorem isBroken_eq_false {s : Session} (sturdy : s.broken = []) (o : StoreOperation) :
    s.isBroken o = false := by
  unfold isBroken
  rw [sturdy]
  rfl

/-- A store that works takes the state and tells all listeners of it. -/
theorem setStore_eq {s : Session} (linked : app.link = some { view := {} })
    (sturdy : s.broken = []) (state : Value) :
    (s.setStore app (notify app) state).1 = s.store.listeners.foldl
      (fun s _ => s.hear app (notify app) {} state) { s with store := s.store.write state } := by
  unfold setStore
  rw [isBroken_eq_false sturdy .set, linked]
  rfl

/-- Sharing writes the values over a record and tells all listeners of the result. -/
theorem share_eq {s : Session} (linked : app.link = some { view := {} }) (sturdy : s.broken = [])
    (quiet : s.form.syncing = false) (mapping : s.store.state.pairs?.isSome = true) :
    ∃ state events, state.pairs?.isSome = true ∧
      Form.namedEntries state =
        (Table.ofEntries (Form.namedEntries s.store.state)).merge s.form.state.values ∧
      s.share app (notify app) = s.store.listeners.foldl
        (fun s _ => s.hear app (notify app) {} state)
        { s with events, store := s.store.write state } := by
  obtain ⟨own, ho⟩ := Option.isSome_iff_exists.mp mapping
  obtain ⟨state, joined⟩ : ∃ state, Store.joined s.store.state (.record s.form.state.values) =
      .ok state := by
    unfold Store.joined
    rw [ho]
    exact ⟨_, rfl⟩
  obtain ⟨whole, entries⟩ := Store.joined_eq_ok joined
  rw [Form.namedEntries_record] at entries
  refine ⟨state, s.events ++ [], whole, entries, ?_⟩
  have written : (StoreView.write app.host {} s.store.state (.record s.form.state.values)) =
      pure ⟨s.store.state, .ok state⟩ := by
    unfold StoreView.write
    dsimp only
    rw [mapping, if_pos rfl, joined]
  unfold share note
  rw [linked]
  dsimp only
  rw [quiet, isBroken_eq_false sturdy .get, written]
  exact setStore_eq (s := { s with events := s.events ++ [] }) linked sturdy state

/-- After a reset the form has the values of the snapshot, and counts as clean, just if it does not
listen to the store or every known key of the store is one of the snapshot. -/
theorem reset_iff {s : Session} (linked : app.link = some { view := {} }) (sturdy : s.broken = [])
    (quiet : s.form.syncing = false) (mapping : s.store.state.pairs?.isSome = true)
    (calm : ∀ r ∈ s.reactions, r.occasion ≠ .change ∧ r.occasion ≠ .restore)
    (distinct : s.form.snapshot.keys.Nodup) :
    ((Value.record (s.reset app (notify app)).form.state.values).equal (.record s.form.snapshot) =
        true ∧ (s.reset app (notify app)).form.state.isDirty = false) ↔
      s.store.listeners = [] ∨ ∀ id ∈ s.form.parsed.fieldIds,
        id ∈ (Form.namedEntries s.store.state).keys → id ∈ s.form.snapshot.keys := by
  let seeded := s.become (s.form.seed app.host)
  obtain ⟨journal, events, told⟩ := notify_calm app (s := seeded) (e := .restored)
    fun r hr same => (calm r hr).2 (Option.some.inj same).symm
  let anew : Session := { seeded with form.journal := journal, events }
  have idle : anew.Idle := ⟨quiet, fun r hr => (calm r hr).1⟩
  have restored : Restored s.form.snapshot s.form.parsed.fieldIds anew.form :=
    ⟨rfl, rfl, rfl, rfl⟩
  have unfolded : s.reset app (notify app) = anew.share app (notify app) :=
    congrArg (share app (notify app)) told
  obtain ⟨state, noted, whole, entries, shared⟩ := share_eq linked (s := anew) sturdy quiet mapping
  rw [unfolded, shared]
  exact hearing_iff anew.store.listeners ⟨idle.quiet, idle.calm⟩ restored distinct whole entries

end Session

/-- The commands of those who fill in a form, and of a store that goes on holding a record. -/
def FormCommand.IsEdit : FormCommand → Prop
  | .unmount | .setSchema _ | .setSnapshot _ | .breakStore _ => False
  | .setStore state => state.pairs?.isSome = true
  | _ => True

namespace Session

variable {app : Application}

/-- What edits leave as it is. -/
structure Carries (s t : Session) : Prop where
  snapshot : t.form.snapshot = s.form.snapshot
  broken : t.broken = s.broken
  quiet : s.form.syncing = false → t.form.syncing = false
  mapping : s.store.state.pairs?.isSome = true → t.store.state.pairs?.isSome = true

namespace Carries

/-- A change of the form alone. -/
theorem of {s : Session} {f : Form} (snapshot : f.snapshot = s.form.snapshot)
    (syncing : f.syncing = s.form.syncing) : Carries s { s with form := f } :=
  ⟨snapshot, rfl, fun quiet => syncing.trans quiet, fun mapping => mapping⟩

theorem trans {s t u : Session} (h : Carries s t) (h' : Carries t u) : Carries s u :=
  ⟨h'.snapshot.trans h.snapshot, h'.broken.trans h.broken,
    fun quiet => h'.quiet (h.quiet quiet), fun mapping => h'.mapping (h.mapping mapping)⟩

/-- A change of the agenda or of what is seen. -/
theorem arranged (s : Session) (agenda : Agenda) (events : List Event) :
    Carries s { s with agenda, events } :=
  ⟨rfl, rfl, fun quiet => quiet, fun mapping => mapping⟩

theorem amended {s : Session} {ps : List ParsedField} {f : Form}
    (hg : s.form.Amended app.host ps f) : Carries s { s with form := f } := by
  obtain ⟨values, parsed, rfl⟩ := hg.frame
  exact .of rfl rfl

theorem course (linked : app.link = some { view := {} }) :
    Course app FormCommand.IsEdit Carries where
  refl _ := .of rfl rfl
  trans := trans
  remembered _ _ _ _ _ := ⟨rfl, rfl, fun quiet => quiet, fun mapping => mapping⟩
  noted s events _ := .arranged s s.agenda (s.events ++ events)
  calledBack _ _ _ _ _ _ := ⟨rfl, rfl, fun quiet => quiet, fun mapping => mapping⟩
  committed s t changes h := by
    obtain ⟨states, frame⟩ := Form.refresh_frame app.host changes.keys (s.form.put changes)
    rw [frame] at h
    have rests : t.form.Rests changes.keys (t.reconsiderAll app changes.keys).1.form :=
      reconsiderAll_rests t changes.keys
    obtain ⟨form, agenda, events, same⟩ := reconsiderAll_frame app t changes.keys
    rw [same] at rests ⊢
    exact ⟨rests.snapshot.trans h.snapshot, h.broken,
      fun quiet => rests.syncing.trans (h.quiet quiet), h.mapping⟩
  weighed _ := .of rfl rfl
  deferred s := .arranged s _ s.events
  tookOver s t _ h := ⟨h.snapshot, h.broken, fun _ => rfl, h.mapping⟩
  altered s link hl := by
    rw [linked] at hl
    cases hl
    exact ⟨rfl, rfl, fun quiet => quiet, fun mapping => mapping⟩
  shared s link state values v hl hv := by
    rw [linked] at hl
    cases hl
    exact ⟨rfl, rfl, fun quiet => quiet, fun _ => StoreView.isSome_pairs?_write hv⟩
  touched _ _ := .of rfl rfl
  rechecked s id := by
    have rests : s.form.Rests [id] (s.recheck app id).1.form := recheck_rests s id
    exact ⟨rests.snapshot, rfl, fun quiet => rests.syncing.trans quiet, fun mapping => mapping⟩
  probed s id := amended (Form.complaintsAt_amended app.host s.form id)
  checked s := amended (Form.complaints_amended app.host s.form)
  settled _ _ _ := .of rfl rfl
  reported s := by
    obtain ⟨reported, frame⟩ := s.form.report_frame
    rw [frame]
    exact .of rfl rfl
  seeded _ := .of rfl rfl
  stored _ _ mapping := ⟨rfl, rfl, fun quiet => quiet, fun _ => mapping⟩
  broke _ _ allowed := allowed.elim
  mounted _ _ := .of rfl rfl
  listened s _ := by
    unfold listen
    split
    · exact .of rfl rfl
    · exact ⟨rfl, rfl, fun quiet => quiet, fun mapping => mapping⟩
  unmounted _ allowed _ := allowed.elim
  schemaSet _ _ _ allowed _ := allowed.elim
  snapshotSet _ _ _ allowed _ := allowed.elim
  arranged s agenda _ := .arranged s agenda s.events
  accepted _ _ _ := .of rfl rfl
  handed _ _ _ := .of rfl rfl
  ended s id epoch fault := by
    obtain ⟨submitting, frame⟩ :=
      Form.endSubmission_frame id epoch { s.form with submitFault := fault }
    rw [frame]
    exact .of rfl rfl

end Carries

theorem inquireOn_carries (s : Session) (id : Nat) (q : Inquiry) (stage : InquiryStage) :
    Carries s (s.inquireOn app id q stage) := by
  have inquiring : Inquiring app q (fun _ => True) (fun _ => True) Carries := {
    silent := trivial
    told := fun _ _ => trivial
    trans := Carries.trans
    noted := fun s events _ => .arranged s s.agenda (s.events ++ events)
    asked := fun _ _ _ _ => .of rfl rfl
    amended := fun s _ _ v _ _ _ => by
      obtain ⟨values, parsed, hf, -⟩ := Form.amend_frame q.field.id v s.form
      rw [hf]
      exact .of rfl rfl
    complained := fun _ _ _ _ _ _ _ => .of rfl rfl
    slept := fun s _ _ _ _ _ => .arranged s _ s.events
    forgot := fun s _ => .arranged s _ s.events }
  exact inquiring.follows_inquireOn id trivial (fun _ _ => trivial) s

/-- The sessions that a form with a snapshot comes to by edits, next to a store that holds a record. -/
def Edited (app : Application) (snapshot : Table Value) (s : Session) : Prop :=
  ∃ source parsed given state reactions,
    ParsedSchema.parse app.environment source = .ok parsed ∧
    Form.initialValues given = .ok snapshot ∧
    (Store.starting state).state.pairs?.isSome = true ∧
    (∀ r ∈ reactions, r.command.IsEdit) ∧
    Leads app FormCommand.IsEdit (start app parsed snapshot (.starting state) reactions) s

/-- The values that a form begins with are found under distinct keys. -/
theorem nodup_initialValues {given : Value} {snapshot : Table Value}
    (h : Form.initialValues given = .ok snapshot) : snapshot.keys.Nodup := by
  unfold Form.initialValues at h
  split at h
  · cases hr : Construct.record given with
    | error e =>
        rw [hr] at h
        cases h
    | ok v =>
        rw [hr] at h
        cases h
        exact Table.nodup_keys_merge (t := []) List.nodup_nil _
  · cases h
    exact List.nodup_nil

/-- A reset restores the snapshot of a form that is next to a record just if the form does not listen
to it or every known key of the record is one of the snapshot. Until then any edits can have been made;
no callback answers the reset with another. -/
theorem reset_restores_iff {s : Session} {snapshot : Table Value}
    (linked : app.link = some { view := {} }) (h : Edited app snapshot s)
    (calm : ∀ r ∈ s.reactions, r.occasion ≠ .change ∧ r.occasion ≠ .restore) :
    ((Value.record (s.reset app (notify app)).form.state.values).equal (.record snapshot) = true ∧
        (s.reset app (notify app)).form.state.isDirty = false) ↔
      s.store.listeners = [] ∨ ∀ id ∈ s.form.parsed.fieldIds,
        id ∈ (Form.namedEntries s.store.state).keys → id ∈ snapshot.keys := by
  obtain ⟨source, parsed, given, state, reactions, -, hg, mapping, tame, led⟩ := h
  have carries : Carries (start app parsed snapshot (.starting state) reactions) s := by
    refine (led.keeps (Carries.course linked) (fun h h' => h'.trans h) ?_ tame (.of rfl rfl)).1
    intro u ready id q stage _ h _
    exact h.trans ((Carries.arranged u { u.agenda with ready } u.events).trans
      (inquireOn_carries _ id q stage))
  have same : s.form.snapshot = snapshot := carries.snapshot
  subst same
  exact reset_iff linked carries.broken (carries.quiet rfl) (carries.mapping mapping) calm
    (nodup_initialValues hg)

/-- An application next to an empty record. -/
def bridgedApplication : Application where
  host := .constant .null (.zero false)
  settings := {}
  link := some { view := {} }

/-- A form with one field, whose value is shared when it changes. -/
def bridgedSession (snapshot : Table Value) : Session :=
  let parsed := (FormSchema.plain [.plain "a" "text"]).parsed []
  let s := start bridgedApplication parsed snapshot (.starting .null) []
  let s := (s.perform bridgedApplication .mount).1
  (s.perform bridgedApplication (.change "a" (.str "x"))).1

theorem bridgedSession_edited (given : Value) {snapshot : Table Value}
    (h : Form.initialValues given = .ok snapshot) :
    Edited bridgedApplication snapshot (bridgedSession snapshot) := by
  refine ⟨.loaded (FormSchema.plain [.plain "a" "text"]), _, given, .null, [],
    FormSchema.parse_eq (by decide +kernel), h, rfl, by simp, ?_⟩
  exact (Leads.refl.command .mount trivial).command _ trivial

/-- The snapshot has a value for the one field, and a reset restores it. -/
theorem bridgedSession_restores :
    (bridgedSession [("a", .str "1")]).form.state.isDirty = true ∧
    (Value.record ((bridgedSession [("a", .str "1")]).reset bridgedApplication
      (notify bridgedApplication)).form.state.values).equal (.record [("a", .str "1")]) = true ∧
    ((bridgedSession [("a", .str "1")]).reset bridgedApplication
      (notify bridgedApplication)).form.state.isDirty = false := by
  have edited : Edited bridgedApplication [("a", .str "1")] (bridgedSession [("a", .str "1")]) :=
    bridgedSession_edited (.record [("a", .str "1")]) rfl
  have calm : (bridgedSession [("a", .str "1")]).reactions.isEmpty = true := by decide +kernel
  have fields : (bridgedSession [("a", .str "1")]).form.parsed.fieldIds = ["a"] := by
    decide +kernel
  refine ⟨by decide +kernel, (reset_restores_iff rfl edited ?_).mpr (.inr ?_)⟩
  · rw [List.isEmpty_iff.mp calm]
    exact fun _ hr => absurd hr List.not_mem_nil
  · rw [fields]
    exact fun _ hid _ => hid

/-- Without that value the field keeps the one that was shared. -/
theorem shared_value_outlives_reset : ¬ ∀ (app : Application) (snapshot : Table Value)
    (s : Session), app.link = some { view := {} } → Edited app snapshot s →
    s.form.mounted = true → s.reactions = [] →
      (Value.record (s.reset app (notify app)).form.state.values).equal (.record snapshot) = true ∧
        (s.reset app (notify app)).form.state.isDirty = false := by
  intro always
  have calm : (bridgedSession []).reactions.isEmpty = true := by decide +kernel
  obtain ⟨-, clean⟩ := always bridgedApplication [] (bridgedSession []) rfl
    (bridgedSession_edited .null rfl) (by decide +kernel) (List.isEmpty_iff.mp calm)
  have dirty : ((bridgedSession []).reset bridgedApplication
      (notify bridgedApplication)).form.state.isDirty = true := by decide +kernel
  rw [dirty] at clean
  cases clean

end Session

end FormEngine
