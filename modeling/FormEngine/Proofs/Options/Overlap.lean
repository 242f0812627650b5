import FormEngine.Proofs.Clock.Time
import FormEngine.Proofs.Options.Cache
import FormEngine.Proofs.Schema.Specimen
import Mathlib.Logic.Relation

/-!
Loads that overlap. A load looks into the cache when it opens and leaves its options there when it closes;
while it waits for its source in between, others open and close and time goes by. Whatever their order, the
cache holds under a key what was delivered under it last, until that expires. A load that fails leaves the
cache as it is, but for an entry under its own key that had expired, unless it fails for want of a time to
keep its options until: then all expired entries are gone.
-/

namespace FormEngine

namespace OptionsLoader

/-- Opens a load: options that the cache has for it are given at once. -/
def opened (l : OptionsLoader) (c : OptionsCall) (now : Time) : OptionsLoader × Option (List SelectOption) :=
  if c.config.cache then l.lookup c.key now else (l, none)

/-- Closes a load when its source has come to something. -/
def closed (l : OptionsLoader) (c : OptionsCall) (now : Time) :
    Except Fault (List SelectOption) → OptionsLoader × Except Fault (List SelectOption)
  | .error e => (l, .error e)
  | .ok options =>
    if c.config.cache then
      let kept := l.keep c.key options now c.config.cacheDuration
      (kept.1, kept.2.map fun _ => options)
    else (l, .ok options)

section

variable (l : OptionsLoader) {c : OptionsCall} (now : Time)

theorem opened_on (cached : c.config.cache = true) : l.opened c now = l.lookup c.key now := if_pos cached

theorem opened_off (off : c.config.cache = false) : l.opened c now = (l, none) := by
  unfold opened
  rw [off, if_neg Bool.false_ne_true]

/-- Opening a load leaves the loader as it is, or forgets what has expired under the key of the load. -/
theorem opened_cases (c : OptionsCall) : (l.opened c now).1 = l ∨
    ∃ entry, c.config.cache = true ∧ l.cache.lookup c.key = some entry ∧
      now.before entry.expires = false ∧ l.opened c now = (l.forget c.key, none) := by
  cases cached : c.config.cache with
  | false =>
    rw [opened_off _ _ cached]
    exact .inl rfl
  | true =>
    rw [opened_on _ _ cached]
    unfold lookup
    cases found : l.cache.lookup c.key with
    | none => exact .inl rfl
    | some entry =>
      cases lasts : now.before entry.expires with
      | true =>
        left
        dsimp only
        rw [if_pos lasts]
      | false =>
        right
        dsimp only
        rw [if_neg (Bool.eq_false_iff.mp lasts)]
        exact ⟨entry, rfl, rfl, lasts, rfl⟩

theorem closed_on (cached : c.config.cache = true) (options : List SelectOption) :
    l.closed c now (.ok options) =
      ((l.keep c.key options now c.config.cacheDuration).1,
        (l.keep c.key options now c.config.cacheDuration).2.map fun _ => options) := if_pos cached

theorem closed_off (off : c.config.cache = false) (outcome : Except Fault (List SelectOption)) :
    l.closed c now outcome = (l, outcome) := by
  cases outcome with
  | error e => rfl
  | ok options =>
    unfold closed
    rw [off]
    rfl

end

theorem mem_of_lookup {cache : List (CacheKey × CacheEntry)} {key : CacheKey} {entry : CacheEntry}
    (h : cache.lookup key = some entry) : (key, entry) ∈ cache := by
  obtain ⟨before, after, rfl, -⟩ := List.lookup_eq_some_iff.mp h
  exact List.mem_append_right _ List.mem_cons_self

theorem lookup_of_mem {cache : List (CacheKey × CacheEntry)} (single : (cache.map Prod.fst).Nodup)
    {e : CacheKey × CacheEntry} (h : e ∈ cache) : cache.lookup e.1 = some e.2 := by
  obtain ⟨before, after, rfl⟩ := List.append_of_mem h
  refine List.lookup_eq_some_iff.mpr ⟨before, after, rfl, fun other there => ?_⟩
  rw [List.map_append, List.map_cons] at single
  have apart := List.nodup_append.mp single
  exact bne_iff_ne.mpr (apart.2.2 _ (List.mem_map_of_mem there) _ List.mem_cons_self).symm

section

variable {l : OptionsLoader} {c : OptionsCall} {now : Time}

/-- What is given from the cache is left there. -/
theorem opened_served {options : List SelectOption} (h : (l.opened c now).2 = some options) :
    (l.opened c now).1 = l := by
  rcases opened_cases l now c with same | ⟨entry, -, -, -, forgets⟩
  · exact same
  · rw [forgets] at h
    cases h

theorem opened_sublist : (l.opened c now).1.cache.Sublist l.cache := by
  rcases opened_cases l now c with same | ⟨entry, -, -, -, forgets⟩
  · rw [same]
  · rw [forgets]
    exact List.filter_sublist

/-- A load that opens removes at most the expired entry under its own key. -/
theorem opened_dropped (single : (l.cache.map Prod.fst).Nodup) {e : CacheKey × CacheEntry}
    (he : e ∈ l.cache) :
    e ∈ (l.opened c now).1.cache ∨
      c.config.cache = true ∧ e.1 = c.key ∧ now.before e.2.expires = false := by
  rcases opened_cases l now c with same | ⟨entry, cached, found, expired, forgets⟩
  · rw [same]
    exact .inl he
  · rw [forgets]
    by_cases own : e.1 = c.key
    · have there := lookup_of_mem single he
      rw [own, found] at there
      obtain rfl := Option.some.inj there
      exact .inr ⟨cached, own, expired⟩
    · exact .inl (List.mem_filter.mpr ⟨he, decide_eq_true own⟩)

/-- A load that closes with options puts them in the place of what there is under its key, and all that has
expired is removed. -/
theorem closed_told (cached : c.config.cache = true) (told : Time.isSpan c.config.cacheDuration = true)
    (options : List SelectOption) :
    (l.closed c now (.ok options)).2 = .ok options ∧ (l.closed c now (.ok options)).1.cache =
      (l.cache.filter fun e => now.before e.2.expires && decide (e.1 ≠ c.key)) ++
        [(c.key, ⟨now.after (Time.seconds c.config.cacheDuration), options⟩)] := by
  rw [closed_on _ _ cached]
  unfold keep
  dsimp only
  rw [if_pos told]
  refine ⟨rfl, ?_⟩
  rw [List.filter_filter]
  simp only [Bool.and_comm]

/-- All that has expired is removed also if the options cannot be kept. -/
theorem closed_untold (cached : c.config.cache = true) (untold : Time.isSpan c.config.cacheDuration = false)
    (options : List SelectOption) :
    (l.closed c now (.ok options)).2 = .error LoadFault.spanTooLong ∧
      (l.closed c now (.ok options)).1.cache = l.cache.filter fun e => now.before e.2.expires := by
  rw [closed_on _ _ cached]
  unfold keep
  dsimp only
  rw [if_neg (Bool.eq_false_iff.mp untold)]
  exact ⟨rfl, rfl⟩

end

/-- A load is given options where it opens, or it closes after whatever its source takes. -/
theorem throughCache_opened (c : OptionsCall) (fresh : LoadRun.M (Except Fault (List SelectOption)))
    (r : LoadRun) :
    LoadRun.throughCache c.config c.key fresh r =
      let opening := r.loader.opened c r.now
      let looked : LoadRun := { r with loader := opening.1 }
      match opening.2 with
      | some options => (.ok options, looked)
      | none =>
        let after := (fresh looked).2
        let closing := after.loader.closed c after.now (fresh looked).1
        (closing.2, { after with loader := closing.1 }) := by
  cases cached : c.config.cache with
  | false =>
    have past : LoadRun.throughCache c.config c.key fresh r = fresh r := by
      unfold LoadRun.throughCache
      rw [cached]
      rfl
    simp only [opened_off _ _ cached, closed_off _ _ cached]
    exact past
  | true =>
    rw [LoadRun.throughCache_eq cached, opened_on _ _ cached]
    dsimp only
    cases (r.loader.lookup c.key r.now).2 with
    | some options => rfl
    | none =>
      dsimp only
      cases (fresh { r with loader := (r.loader.lookup c.key r.now).1 }).1 with
      | error e => rfl
      | ok options => rw [closed_on _ _ cached]

/-- A load step by step. One that is given options does nothing else; any other asks its source as if there
was no cache, and closes when that has answered. -/
def stepwise (host : Host) (transport : LoadRun.Transport) (c : OptionsCall) (r : LoadRun) :
    Except Fault (List SelectOption) × LoadRun :=
  let opening := r.loader.opened c r.now
  match opening.2 with
  | some options => (.ok options, r)
  | none =>
    let fresh := LoadRun.loadFresh host transport c.config c.values r
    let after := fresh.2.withCache opening.1.cache
    let closing := after.loader.closed c after.now fresh.1
    (closing.2, { after with loader := closing.1 })

theorem load_eq_stepwise (host : Host) (transport : LoadRun.Transport) (c : OptionsCall) (r : LoadRun) :
    LoadRun.load host transport c.config c.values r = stepwise host transport c r := by
  have looked : { r with loader := (r.loader.opened c r.now).1 } =
      r.withCache (r.loader.opened c r.now).1.cache := by
    rcases opened_cases r.loader r.now c with same | ⟨entry, -, -, -, forgets⟩
    · rw [same]
      rfl
    · rw [forgets]
      rfl
  refine (throughCache_opened c _ r).trans ?_
  unfold stepwise
  dsimp only
  cases found : (r.loader.opened c r.now).2 with
  | some options => rw [opened_served found]
  | none => rw [looked, LoadRun.Blind.loadFresh host transport c.config c.values r]

end OptionsLoader

/-- A load that came to options and left them in the cache. -/
structure Delivery where
  call : OptionsCall
  options : List SelectOption
  time : Time

namespace Delivery

def expires (f : Delivery) : Time := f.time.after (Time.seconds f.call.config.cacheDuration)

def entry (f : Delivery) : CacheKey × CacheEntry := (f.call.key, ⟨f.expires, f.options⟩)

end Delivery

/-- A loader with the loads that wait for their sources, and with what was delivered since its cache was
cleared, the last first. -/
structure Overlap where
  loader : OptionsLoader
  now : Time
  waiting : List OptionsCall := []
  delivered : List Delivery := []

namespace Overlap

/-- What a load delivers when it closes. -/
def delivery (c : OptionsCall) (now : Time) : Except Fault (List SelectOption) → List Delivery
  | .ok options => if c.config.cache then [⟨c, options, now⟩] else []
  | .error _ => []

/-- What can happen next: a load opens, and is given options at once or waits for its source; one that waits
closes, whatever its source has come to; time goes by; or the cache is cleared. -/
inductive Move (s : Overlap) : Overlap → Prop
  | served (c : OptionsCall) {options : List SelectOption}
      (found : (s.loader.opened c s.now).2 = some options) :
      Move s { s with loader := (s.loader.opened c s.now).1 }
  | opened (c : OptionsCall) (missed : (s.loader.opened c s.now).2 = none) :
      Move s { s with loader := (s.loader.opened c s.now).1, waiting := c :: s.waiting }
  | closed (before after : List OptionsCall) (c : OptionsCall) (waits : s.waiting = before ++ c :: after)
      (outcome : Except Fault (List SelectOption)) :
      Move s { s with
        loader := (s.loader.closed c s.now outcome).1
        waiting := before ++ after
        delivered := delivery c s.now (s.loader.closed c s.now outcome).2 ++ s.delivered }
  | time (now : Time) (later : s.now.NotAfter now) : Move s { s with now }
  | cleared : Move s { s with loader := s.loader.clearCache, delivered := [] }

/-- What was delivered under a key last. -/
def latest (s : Overlap) (key : CacheKey) : Option Delivery := s.delivered.find? fun f => f.call.key = key

/-- The options that were delivered under a key last, unless they have expired. -/
def current (s : Overlap) (key : CacheKey) : Option (List SelectOption) :=
  (s.latest key).bind fun f => if s.now.before f.expires then some f.options else none

/-- The cache holds what was delivered last, and all of it that has not expired. -/
structure Sound (s : Overlap) : Prop where
  single : (s.loader.cache.map Prod.fst).Nodup
  latest : ∀ e ∈ s.loader.cache, ∃ f, s.latest e.1 = some f ∧ e = f.entry
  lasting : ∀ key f, s.latest key = some f → s.now.before f.expires = true → f.entry ∈ s.loader.cache

theorem key_of_latest {s : Overlap} {key : CacheKey} {f : Delivery} (h : s.latest key = some f) :
    f.call.key = key := by
  have held := List.find?_some h
  exact of_decide_eq_true held

namespace Sound

variable {s : Overlap}

/-- A load is given what was delivered last, unless it has expired. -/
theorem given (h : Sound s) {c : OptionsCall} (cached : c.config.cache = true) :
    (s.loader.opened c s.now).2 = s.current c.key := by
  rw [OptionsLoader.opened_on _ _ cached]
  unfold OptionsLoader.lookup current
  split
  · next missing =>
    cases last : s.latest c.key with
    | none => rfl
    | some f =>
      have expired : s.now.before f.expires = false := by
        refine Bool.eq_false_iff.mpr fun lasts => ?_
        have found := OptionsLoader.lookup_of_mem h.single (h.lasting _ _ last lasts)
        change List.lookup f.call.key _ = _ at found
        rw [key_of_latest last, missing] at found
        cases found
      rw [Option.bind_some, expired]
      rfl
  · next entry found =>
    obtain ⟨f, last, same⟩ := h.latest _ (OptionsLoader.mem_of_lookup found)
    change s.latest c.key = some f at last
    have stands : entry = ⟨f.expires, f.options⟩ := congrArg Prod.snd same
    rw [last, stands]
    dsimp only [Option.bind_some]
    split <;> rfl

/-- Expired entries may go. -/
theorem prune (h : Sound s) {loader : OptionsLoader} (waiting : List OptionsCall)
    (sub : loader.cache.Sublist s.loader.cache)
    (keeps : ∀ e ∈ s.loader.cache, s.now.before e.2.expires = true → e ∈ loader.cache) :
    Sound { s with loader, waiting } where
  single := h.single.sublist (sub.map _)
  latest e he := h.latest e (sub.subset he)
  lasting key f last lasts := keeps _ (h.lasting key f last lasts) lasts

/-- What is delivered takes the place of what was delivered under the same key before. -/
theorem deliver (h : Sound s) {loader : OptionsLoader} (waiting : List OptionsCall) (f : Delivery)
    (cache : loader.cache =
      (s.loader.cache.filter fun e => s.now.before e.2.expires && decide (e.1 ≠ f.call.key)) ++ [f.entry]) :
    Sound { s with loader, waiting, delivered := f :: s.delivered } := by
  have others {e : CacheKey × CacheEntry} : e ∈ s.loader.cache.filter (fun e =>
      s.now.before e.2.expires && decide (e.1 ≠ f.call.key)) ↔
        e ∈ s.loader.cache ∧ s.now.before e.2.expires = true ∧ e.1 ≠ f.call.key := by
    simp
  have newest (key : CacheKey) :
      Overlap.latest { s with loader, waiting, delivered := f :: s.delivered } key =
        if f.call.key = key then some f else s.latest key := by
    unfold Overlap.latest
    rw [List.find?_cons]
    by_cases own : f.call.key = key <;> simp [own]
  constructor
  · rw [cache, List.map_append]
    refine List.nodup_append.mpr
      ⟨h.single.sublist (List.filter_sublist.map _), List.nodup_singleton _, fun key there key' own => ?_⟩
    obtain ⟨e, he, rfl⟩ := List.mem_map.mp there
    rw [List.mem_singleton.mp own]
    exact (others.mp he).2.2
  · intro e he
    rw [newest]
    rcases List.mem_append.mp (cache ▸ he) with old | own
    · obtain ⟨there, -, other⟩ := others.mp old
      rw [if_neg (Ne.symm other)]
      exact h.latest e there
    · obtain rfl := List.mem_singleton.mp own
      exact ⟨f, if_pos rfl, rfl⟩
  · intro key g last lasts
    rw [newest] at last
    change g.entry ∈ loader.cache
    rw [cache]
    split at last
    · obtain rfl := Option.some.inj last
      exact List.mem_append_right _ List.mem_cons_self
    · next other =>
      refine List.mem_append_left _ (others.mpr ⟨h.lasting key g last lasts, lasts, ?_⟩)
      change g.call.key ≠ _
      rw [key_of_latest last]
      exact Ne.symm other

theorem closed (h : Sound s) (waiting : List OptionsCall) (c : OptionsCall)
    (outcome : Except Fault (List SelectOption)) :
    Sound { s with
      loader := (s.loader.closed c s.now outcome).1
      waiting
      delivered := delivery c s.now (s.loader.closed c s.now outcome).2 ++ s.delivered } := by
  have unchanged := h.prune waiting (.refl _) fun _ he _ => he
  cases cached : c.config.cache with
  | false =>
    have nothing : delivery c s.now outcome = [] := by
      cases outcome with
      | error e => rfl
      | ok options => exact if_neg (Bool.eq_false_iff.mp cached)
    rw [OptionsLoader.closed_off _ _ cached, nothing]
    exact unchanged
  | true =>
    cases outcome with
    | error e => exact unchanged
    | ok options =>
      cases told : Time.isSpan c.config.cacheDuration with
      | false =>
        obtain ⟨result, cache⟩ : _ ∧ (s.loader.closed c s.now (.ok options)).1.cache = _ :=
          OptionsLoader.closed_untold cached told options
        rw [result]
        refine h.prune waiting ?_ fun e he lasts => ?_
        · rw [cache]
          exact List.filter_sublist
        · rw [cache]
          exact List.mem_filter.mpr ⟨he, lasts⟩
      | true =>
        obtain ⟨result, cache⟩ : _ ∧ (s.loader.closed c s.now (.ok options)).1.cache = _ :=
          OptionsLoader.closed_told cached told options
        have delivers : delivery c s.now (.ok options) = [⟨c, options, s.now⟩] := if_pos cached
        rw [result, delivers]
        exact h.deliver waiting ⟨c, options, s.now⟩ cache

/-- Whatever happens next, the cache goes on to hold what was delivered last. -/
theorem step (h : Sound s) {s' : Overlap} (move : Move s s') : Sound s' := by
  cases move with
  | served c found =>
    rw [OptionsLoader.opened_served found]
    exact h
  | opened c missed =>
    refine h.prune _ OptionsLoader.opened_sublist fun e he lasts => ?_
    refine (OptionsLoader.opened_dropped h.single he).resolve_right fun dropped => ?_
    rw [dropped.2.2] at lasts
    cases lasts
  | closed before after c waits outcome => exact h.closed _ c outcome
  | time now later =>
    -- a clock that ran back could have an entry last that is gone
    exact ⟨h.single, h.latest, fun key f last lasts => h.lasting key f last (later.before lasts)⟩
  | cleared =>
    refine ⟨List.nodup_nil, fun e he => absurd he List.not_mem_nil, fun key f last _ => ?_⟩
    have nothing : none = some f := last
    cases nothing

/-- Throughout a run the cache holds what was delivered last. -/
theorem run (h : Sound s) {s' : Overlap} (moves : Relation.ReflTransGen Move s s') : Sound s' := by
  induction moves with
  | refl => exact h
  | tail _ move ih => exact ih.step move

end Sound

/-- How a load opens: with caching on it is given what was delivered under its key last, unless that has
expired, and with nothing else it removes at most the expired entry under its key. -/
structure Opens (s : Overlap) (c : OptionsCall) : Prop where
  given : (s.loader.opened c s.now).2 = if c.config.cache then s.current c.key else none
  served : ∀ options, (s.loader.opened c s.now).2 = some options → (s.loader.opened c s.now).1 = s.loader
  past : c.config.cache = false → (s.loader.opened c s.now).1 = s.loader
  added : ∀ e ∈ (s.loader.opened c s.now).1.cache, e ∈ s.loader.cache
  dropped : ∀ e ∈ s.loader.cache, e ∈ (s.loader.opened c s.now).1.cache ∨
    c.config.cache = true ∧ e.1 = c.key ∧ s.now.before e.2.expires = false

/-- How a load closes: one that fails, or has caching off, leaves the loader as it is; any other puts its
options in the place of those under its key and removes all that has expired. If it cannot be told when its
options expire, it removes the expired entries and fails. -/
structure Closes (s : Overlap) (c : OptionsCall) : Prop where
  failed : ∀ e, s.loader.closed c s.now (.error e) = (s.loader, .error e)
  past : c.config.cache = false → ∀ outcome, s.loader.closed c s.now outcome = (s.loader, outcome)
  told : c.config.cache = true → |(c.config.cacheDuration : ℚ)| < 1000 * Binary64.overflow → ∀ options,
    (s.loader.closed c s.now (.ok options)).2 = .ok options ∧
    (s.loader.closed c s.now (.ok options)).1.cache =
      (s.loader.cache.filter fun e => s.now.before e.2.expires && decide (e.1 ≠ c.key)) ++
        [(c.key, ⟨s.now.after (Time.seconds c.config.cacheDuration), options⟩)]
  untold : c.config.cache = true → 1000 * Binary64.overflow ≤ |(c.config.cacheDuration : ℚ)| → ∀ options,
    (s.loader.closed c s.now (.ok options)).2 = .error LoadFault.spanTooLong ∧
    (s.loader.closed c s.now (.ok options)).1.cache = s.loader.cache.filter fun e => s.now.before e.2.expires

theorem closes (s : Overlap) (c : OptionsCall) : Closes s c where
  failed _ := rfl
  past off := OptionsLoader.closed_off _ _ off
  told cached within options := by
    refine OptionsLoader.closed_told cached (Time.isSpan_iff.mpr ?_) options
    rwa [div_lt_iff₀' (by norm_num)]
  untold cached beyond options := by
    refine OptionsLoader.closed_untold cached (Bool.eq_false_iff.mpr fun told => ?_) options
    have within := Time.isSpan_iff.mp told
    rw [div_lt_iff₀' (by norm_num)] at within
    exact absurd beyond (not_le_of_gt within)

theorem Sound.opens {s : Overlap} (h : Sound s) (c : OptionsCall) : Opens s c where
  given := by
    cases cached : c.config.cache with
    | false => rw [OptionsLoader.opened_off _ _ cached, if_neg Bool.false_ne_true]
    | true => rw [h.given cached, if_pos rfl]
  served _ found := OptionsLoader.opened_served found
  past off := by rw [OptionsLoader.opened_off _ _ off]
  added _ he := OptionsLoader.opened_sublist.subset he
  dropped _ he := OptionsLoader.opened_dropped h.single he

/-- In the course of overlapping loads every entry of the cache is what was delivered under its key last,
and expires as long after that as its load has it. Loads open and close as they should, and running one is
to open it, to ask its source past the cache unless it is given options, and to close it. -/
theorem cache_follows_deliveries {start s : Overlap} (empty : start.loader.cache = [])
    (undelivered : start.delivered = []) (moves : Relation.ReflTransGen Move start s) :
    (s.loader.cache.map Prod.fst).Nodup ∧
    (∀ e ∈ s.loader.cache, ∃ f, s.latest e.1 = some f ∧
      e.2 = ⟨f.time.after (Time.seconds f.call.config.cacheDuration), f.options⟩) ∧
    ∀ c : OptionsCall, Opens s c ∧ Closes s c ∧
      ∀ (host : Host) (transport : LoadRun.Transport) (r : LoadRun),
        LoadRun.load host transport c.config c.values r = OptionsLoader.stepwise host transport c r := by
  have first : Sound start := by
    refine ⟨?_, ?_, ?_⟩
    · rw [empty]
      exact List.nodup_nil
    · rw [empty]
      exact fun e he => absurd he List.not_mem_nil
    · intro key f last
      unfold Overlap.latest at last
      rw [undelivered] at last
      cases last
  have sound := first.run moves
  refine ⟨sound.single, fun e he => ?_, fun c => ⟨sound.opens c, closes s c, ?_⟩⟩
  · obtain ⟨f, last, same⟩ := sound.latest e he
    exact ⟨f, last, congrArg Prod.snd same⟩
  · exact fun host transport r => OptionsLoader.load_eq_stepwise host transport c r

/-- A loader that nothing was asked of yet. -/
def idle : Overlap := { loader := (OptionsCall.beside .null).loader, now := .start }

def one : SelectOption := ⟨"1", .str "1", false, none, none, none⟩

theorem Move.delivered {s : Overlap} (before after : List OptionsCall) (c : OptionsCall)
    (waits : s.waiting = before ++ c :: after) (cached : c.config.cache = true)
    (told : Time.isSpan c.config.cacheDuration = true) (options : List SelectOption) :
    Move s { s with
      loader := (s.loader.closed c s.now (.ok options)).1
      waiting := before ++ after
      delivered := ⟨c, options, s.now⟩ :: s.delivered } := by
  have move := Move.closed before after c waits (.ok options)
  have delivers : delivery c s.now (.ok options) = [⟨c, options, s.now⟩] := if_pos cached
  rw [(OptionsLoader.closed_told cached told options).1, delivers] at move
  exact move

/-- What was delivered just now is given until it expires. -/
theorem current_of_delivered {s : Overlap} {f : Delivery} {earlier : List Delivery}
    (delivered : s.delivered = f :: earlier) (lasts : s.now.before f.expires = true) :
    s.current f.call.key = some f.options := by
  have last : s.latest f.call.key = some f := by
    unfold latest
    rw [delivered]
    exact List.find?_cons_of_pos (decide_eq_true rfl)
  unfold current
  rw [last, Option.bind_some, if_pos lasts]

/-- Of two loads with one key that overlap, the one that closed last counts, though it opened first. -/
theorem last_to_close_counts :
    ∃ s, Relation.ReflTransGen Move idle s ∧ s.waiting = [] ∧
      (s.loader.opened (OptionsCall.stored "x" "k") s.now).2 = some [one] := by
  have told : Time.isSpan 300000 = true := by decide +kernel
  have lasts : Time.start.before (Time.start.after (Time.seconds 300000)) = true := by decide +kernel
  have opening : Move idle _ := .opened (OptionsCall.stored "x" "k") rfl
  have joined := Relation.ReflTransGen.tail (.single opening) (.opened (OptionsCall.stored "y" "k") rfl)
  have closing := joined.tail (.delivered [] _ (OptionsCall.stored "y" "k") rfl rfl told [])
  have moves := closing.tail (.delivered [] _ (OptionsCall.stored "x" "k") rfl rfl told [one])
  obtain ⟨-, -, follows⟩ := cache_follows_deliveries rfl rfl moves
  refine ⟨_, moves, rfl, ?_⟩
  exact (follows (OptionsCall.stored "x" "k")).1.given.trans
    ((if_pos rfl).trans (current_of_delivered (f := ⟨OptionsCall.stored "x" "k", [one], .start⟩) rfl lasts))

/-- A load of what there is in a store, with some milliseconds to keep it for. -/
def keeping (name : String) (milliseconds : Int) : OptionsCall where
  config := { OptionsCall.plain .store with storeKey := some name, cacheDuration := milliseconds }
  values := []

/-- A load fails because it cannot be told when its options expire, and removes the expired entry of
another one. -/
theorem untold_load_removes_another :
    let host : Host := .constant .null (.zero false)
    let brief := keeping "x" 1000
    let endless := keeping "y" (Nat.pow 10 400 : Nat)
    let start := OptionsCall.beside (.record [("x", .list [.str "1"]), ("y", .list [.str "2"])])
    let first := LoadRun.load host (fun _ => .failed "") brief.config [] start
    let r := { first.2 with now := Time.seconds 2000 }
    let outcome := LoadRun.load host (fun _ => .failed "") endless.config [] r
    outcome.1.toOption = none ∧ r.loader.cache.map Prod.fst = [brief.key] ∧ endless.key ≠ brief.key ∧
      outcome.2.loader.cache.map Prod.fst = [] := by
  decide +kernel

end Overlap

end FormEngine
