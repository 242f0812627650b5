import FormEngine.Proofs.Except
import FormEngine.Proofs.Options.Specimen

/-!
The option cache. An entry holds what an earlier call with its key loaded, so that a load gives what its
source gives to the call itself, or to an earlier one with the same key. The key tells apart the sources
and the values of the declared dependencies, and nothing else: calls with one key are served the same,
whether or not they read alike.
-/

namespace FormEngine

namespace OptionsLoader

variable (l : OptionsLoader) (key : CacheKey) (options : List SelectOption) (now : Time)
  (duration : Int)

/-- What is found in the cache is there under the key. -/
theorem lookup_eq_some {l : OptionsLoader} {key : CacheKey} {now : Time}
    {options : List SelectOption} (h : (l.lookup key now).2 = some options) :
    ∃ expires, (key, ⟨expires, options⟩) ∈ l.cache := by
  unfold lookup at h
  split at h
  · cases h
  · next entry he =>
    split at h
    · refine ⟨entry.expires, ?_⟩
      rw [← Option.some.inj h]
      obtain ⟨before, after, same, -⟩ := List.lookup_eq_some_iff.mp he
      rw [same]
      exact List.mem_append_right _ List.mem_cons_self
    · cases h

/-- Looking options up adds nothing to the cache. -/
theorem lookup_frame : (l.lookup key now).1.store = l.store ∧
    ∀ e ∈ (l.lookup key now).1.cache, e ∈ l.cache := by
  unfold lookup
  split
  · exact ⟨rfl, fun _ he => he⟩
  · split
    · exact ⟨rfl, fun _ he => he⟩
    · exact ⟨rfl, fun _ he => (List.mem_filter.mp he).1⟩

/-- Keeping options adds just their own entry to the cache. -/
theorem keep_frame : (l.keep key options now duration).1.store = l.store ∧
    ∀ e ∈ (l.keep key options now duration).1.cache,
      e ∈ l.cache ∨ e.1 = key ∧ e.2.options = options := by
  unfold keep
  dsimp only
  split
  · refine ⟨rfl, fun e he => ?_⟩
    rcases List.mem_append.mp he with kept | new
    · exact .inl (List.mem_filter.mp (List.mem_filter.mp kept).1).1
    · rw [List.mem_singleton.mp new]
      exact .inr ⟨rfl, rfl⟩
  · exact ⟨rfl, fun _ he => .inl (List.mem_filter.mp he).1⟩

theorem keep_ok (h : Time.isSpan duration = true) : (l.keep key options now duration).2 = .ok () := by
  unfold keep
  dsimp only
  rw [if_pos h]

/-- What was kept is found as long as it lasts. -/
theorem lookup_keep (h : Time.isSpan duration = true)
    (lasts : now.before (now.after (Time.seconds duration)) = true) :
    ((l.keep key options now duration).1.lookup key now).2 = some options := by
  unfold keep
  dsimp only
  rw [if_pos h]
  have others : List.lookup key ((l.cache.filter fun e => now.before e.2.expires).filter
      fun e => e.1 ≠ key) = none := by
    refine List.lookup_eq_none_iff.mpr fun e he => ?_
    have other : e.1 ≠ key := of_decide_eq_true (List.mem_filter.mp he).2
    exact bne_iff_ne.mpr other.symm
  unfold lookup
  dsimp only
  rw [List.lookup_append, others]
  simp [lasts]

end OptionsLoader

/-- Whether options are cached makes no difference to the requests for them. -/
theorem LoadRun.request_uncached (transport : LoadRun.Transport) (d : DynamicOptions) (url : String)
    (r : Except String Request) (left : Nat) (last : String) :
    LoadRun.request transport { d with cache := false } url r left last =
      LoadRun.request transport d url r left last := by
  induction left generalizing last with
  | zero => rfl
  | succ left ih =>
      unfold LoadRun.request
      simp only [ih]

/-- A load that may use the cache, step by step. -/
theorem LoadRun.throughCache_eq {d : DynamicOptions} (cached : d.cache = true) (key : CacheKey)
    (fresh : LoadRun.M (Except Fault (List SelectOption))) (r : LoadRun) :
    LoadRun.throughCache d key fresh r =
      let looked : LoadRun := { r with loader := (r.loader.lookup key r.now).1 }
      match (r.loader.lookup key r.now).2 with
      | some options => (.ok options, looked)
      | none =>
        let after := (fresh looked).2
        match (fresh looked).1 with
        | .error e => (.error e, after)
        | .ok options =>
          let kept := after.loader.keep key options after.now d.cacheDuration
          (kept.2.map fun _ => options, { after with loader := kept.1 }) := by
  unfold LoadRun.throughCache
  rw [cached, Bool.not_true, if_neg Bool.false_ne_true]
  simp only [bind_apply, get_apply, set_apply]
  rcases r.loader.lookup key r.now with ⟨loader, found⟩
  cases found with
  | some options => rfl
  | none =>
      simp only [bind_apply]
      rcases fresh { r with loader } with ⟨outcome, s⟩
      cases outcome <;> rfl

namespace OptionsCall

open LoadRun

variable {host : Host} {server : Server}

/-- The key under which a call looks for options. -/
def key (c : OptionsCall) : CacheKey := c.config.cacheKeyFor c.values

def load (host : Host) (server : Server) (c : OptionsCall) : M (Except Fault (List SelectOption)) :=
  LoadRun.load host (fun _ => c.answer server) c.config c.values

/-- The same call with caching off. -/
def uncached (c : OptionsCall) : OptionsCall := { c with config.cache := false }

theorem load_uncached (host : Host) (server : Server) (c : OptionsCall) :
    c.uncached.load host server = c.fresh host server := by
  have fetches : LoadRun.fetch (fun _ => c.answer server) c.uncached.config c.values =
      LoadRun.fetch (fun _ => c.answer server) c.config c.values := by
    unfold LoadRun.fetch uncached
    simp only [LoadRun.request_uncached]
    rfl
  have obtains : LoadRun.obtain host (fun _ => c.answer server) c.uncached.config c.values =
      LoadRun.obtain host (fun _ => c.answer server) c.config c.values := by
    unfold LoadRun.obtain
    rw [fetches]
    rfl
  change LoadRun.loadFresh host (fun _ => c.answer server) c.uncached.config c.values = _
  unfold LoadRun.loadFresh
  rw [obtains]
  rfl

/-- What comes of a loader by some calls in a row, whatever the clock shows, and with the cache cleared
at times. -/
inductive Asked (host : Host) (server : Server) (start : LoadRun) : List OptionsCall → LoadRun → Prop
  | start : Asked host server start [] start
  | load {calls : List OptionsCall} {r : LoadRun} (c : OptionsCall) : Asked host server start calls r →
      Asked host server start (calls ++ [c]) (c.load host server r).2
  | clock {calls : List OptionsCall} {r : LoadRun} (now : Time) : Asked host server start calls r →
      Asked host server start calls { r with now }
  | cleared {calls : List OptionsCall} {r : LoadRun} : Asked host server start calls r →
      Asked host server start calls { r with loader := r.loader.clearCache }

/-- The entries of a cache are what some calls loaded under their keys. -/
def Kept (host : Host) (server : Server) (calls : List OptionsCall) (r : LoadRun) : Prop :=
  ∀ e ∈ r.loader.cache, ∃ d ∈ calls, d.config.cache = true ∧ d.key = e.1 ∧
    (d.fresh host server r).1 = .ok e.2.options

namespace Kept

variable {calls later : List OptionsCall} {r s : LoadRun}

/-- What another cache holds of this one is kept as well, as long as the store stays the same. -/
theorem frame (h : Kept host server calls r) (store : s.loader.store = r.loader.store)
    (cache : ∀ e ∈ s.loader.cache, e ∈ r.loader.cache) : Kept host server calls s := by
  intro e he
  obtain ⟨d, hd, cached, same, fresh⟩ := h e (cache e he)
  refine ⟨d, hd, cached, same, ?_⟩
  rw [(d.fresh_steady host server).result s r store]
  exact fresh

theorem append (h : Kept host server calls r) : Kept host server (calls ++ later) r := by
  intro e he
  obtain ⟨d, hd, kept⟩ := h e he
  exact ⟨d, List.mem_append_left _ hd, kept⟩

/-- The cache still holds what calls loaded when the options of another one are kept. -/
theorem keep (h : Kept host server calls r) (c : OptionsCall) (cached : c.config.cache = true)
    {options : List SelectOption} (fresh : (c.fresh host server r).1 = .ok options) (duration : Int) :
    Kept host server (calls ++ [c])
      { r with loader := (r.loader.keep c.key options r.now duration).1 } := by
  obtain ⟨store, entries⟩ := r.loader.keep_frame c.key options r.now duration
  intro e he
  rcases entries e he with old | ⟨same, options'⟩
  · obtain ⟨d, hd, cached, same, loaded⟩ := h e old
    refine ⟨d, List.mem_append_left _ hd, cached, same, ?_⟩
    rw [(d.fresh_steady host server).result _ r store]
    exact loaded
  · refine ⟨c, List.mem_append_right _ List.mem_cons_self, cached, same.symm, ?_⟩
    rw [(c.fresh_steady host server).result _ r store, options']
    exact fresh

end Kept

section Loading

variable {calls : List OptionsCall} {r : LoadRun} {c : OptionsCall}

/-- A call past the cache leaves the cache alone, and would give the same again. -/
theorem fresh_kept (kept : Kept host server calls r) (c : OptionsCall) :
    Kept host server calls (c.fresh host server r).2 ∧
      (c.fresh host server (c.fresh host server r).2).1 = (c.fresh host server r).1 := by
  have loader := (c.fresh_steady host server).loader r
  have store := congrArg OptionsLoader.store loader
  refine ⟨kept.frame store ?_, (c.fresh_steady host server).result _ r store⟩
  rw [loader]
  exact fun _ he => he

theorem load_off (off : c.config.cache = false) : c.load host server r = c.fresh host server r := by
  unfold load LoadRun.load LoadRun.throughCache
  rw [off]
  rfl

theorem load_hit (cached : c.config.cache = true) {options : List SelectOption}
    (found : (r.loader.lookup c.key r.now).2 = some options) : c.load host server r =
      (.ok options, { r with loader := (r.loader.lookup c.key r.now).1 }) := by
  refine (LoadRun.throughCache_eq cached c.key (c.fresh host server) r).trans ?_
  dsimp only
  rw [found]

theorem load_missed (cached : c.config.cache = true)
    (missed : (r.loader.lookup c.key r.now).2 = none) : c.load host server r =
      let after := (c.fresh host server { r with loader := (r.loader.lookup c.key r.now).1 }).2
      match (c.fresh host server { r with loader := (r.loader.lookup c.key r.now).1 }).1 with
      | .error e => (.error e, after)
      | .ok options =>
        let kept := after.loader.keep c.key options after.now c.config.cacheDuration
        (kept.2.map fun _ => options, { after with loader := kept.1 }) := by
  refine (LoadRun.throughCache_eq cached c.key (c.fresh host server) r).trans ?_
  dsimp only
  rw [missed]

/-- Right after a load, and as long as its options last, a call with the same key gives them again,
whatever it would load itself. -/
theorem load_again {d : OptionsCall} {options : List SelectOption} (cached : c.config.cache = true)
    (also : d.config.cache = true) (same : d.key = c.key)
    (missed : (r.loader.lookup c.key r.now).2 = none)
    (fresh : (c.fresh host server { r with loader := (r.loader.lookup c.key r.now).1 }).1 = .ok options)
    (tellable : Time.isSpan c.config.cacheDuration = true)
    (lasts : (c.load host server r).2.now.before
      ((c.load host server r).2.now.after (Time.seconds c.config.cacheDuration)) = true) :
    (d.load host server (c.load host server r).2).1 = .ok options := by
  rw [load_missed cached missed, fresh] at lasts ⊢
  have found := OptionsLoader.lookup_keep (c.fresh host server { r with
    loader := (r.loader.lookup c.key r.now).1 }).2.loader c.key options _ _ tellable lasts
  refine congrArg Prod.fst (load_hit also ?_)
  rw [same]
  exact found

/-- A load gives what the source gives to the call, or what it gave to an earlier one with the same key,
unless the time to keep options cannot be told. -/
theorem load_kept (kept : Kept host server calls r) (c : OptionsCall) :
    Kept host server (calls ++ [c]) (c.load host server r).2 ∧
    ((c.load host server r).1 = (c.fresh host server r).1 ∨
      (c.config.cache = true ∧ ∃ d ∈ calls, d.config.cache = true ∧ d.key = c.key ∧ ∃ options,
        (d.fresh host server r).1 = .ok options ∧ (c.load host server r).1 = .ok options) ∨
      c.config.cache = true ∧ Time.isSpan c.config.cacheDuration = false) := by
  cases cached : c.config.cache with
  | false =>
      rw [load_off cached]
      exact ⟨(fresh_kept kept c).1.append, .inl rfl⟩
  | true =>
      obtain ⟨store, entries⟩ := r.loader.lookup_frame c.key r.now
      cases found : (r.loader.lookup c.key r.now).2 with
      | some options =>
          obtain ⟨expires, there⟩ := OptionsLoader.lookup_eq_some found
          obtain ⟨d, hd, cached', key, loaded⟩ := kept _ there
          rw [load_hit cached found]
          exact ⟨(kept.frame store entries).append,
            .inr (.inl ⟨rfl, d, hd, cached', key, options, loaded, rfl⟩)⟩
      | none =>
          let looked : LoadRun := { r with loader := (r.loader.lookup c.key r.now).1 }
          have before : Kept host server calls looked := kept.frame store entries
          have same : (c.fresh host server looked).1 = (c.fresh host server r).1 :=
            (c.fresh_steady host server).result looked r store
          obtain ⟨rest, again⟩ := fresh_kept before c
          rw [load_missed cached found]
          cases outcome : (c.fresh host server looked).1 with
          | error e =>
              rw [← same, outcome]
              exact ⟨rest.append, .inl rfl⟩
          | ok options =>
              rw [← same, outcome]
              refine ⟨rest.keep c cached (again.trans outcome) _, ?_⟩
              cases tellable : Time.isSpan c.config.cacheDuration with
              | false => exact .inr (.inr ⟨rfl, rfl⟩)
              | true =>
                  left
                  have told := OptionsLoader.keep_ok (c.fresh host server looked).2.loader c.key options
                    (c.fresh host server looked).2.now _ tellable
                  exact congrArg (fun kept => Except.map (fun _ => options) kept) told

end Loading

/-- In the course of calls the cache holds what they loaded. -/
theorem Asked.kept {start r : LoadRun} {calls : List OptionsCall} (empty : start.loader.cache = [])
    (h : Asked host server start calls r) : Kept host server calls r := by
  induction h with
  | start =>
      intro e he
      rw [empty] at he
      cases he
  | load c _ ih => exact (load_kept ih c).1
  | clock now _ ih => exact ih.frame rfl fun _ he => he
  | cleared _ _ => exact fun _ he => nomatch he

/-- Within calls over sources that answer the same to the same, a load gives what the same call would
give with caching off, or what that of an earlier call with its key would. It gives the former if all
earlier cached calls with its key read alike. -/
theorem cache_serves {start r : LoadRun} {calls : List OptionsCall} (empty : start.loader.cache = [])
    (asked : Asked host server start calls r) (c : OptionsCall)
    (tellable : c.config.cache = true → Time.isSpan c.config.cacheDuration = true) :
    ((c.load host server r).1 = (c.uncached.load host server r).1 ∨
      c.config.cache = true ∧ ∃ d ∈ calls, d.config.cache = true ∧ d.key = c.key ∧
        (c.load host server r).1 = (d.uncached.load host server r).1) ∧
    ((∀ d ∈ calls, d.config.cache = true → d.key = c.key → d.Alike c) →
      (c.load host server r).1 = (c.uncached.load host server r).1) := by
  simp only [load_uncached]
  obtain ⟨-, own | ⟨cached, d, hd, cached', key, options, fresh, served⟩ | ⟨cached, untold⟩⟩ :=
    load_kept (asked.kept empty) c
  · exact ⟨.inl own, fun _ => own⟩
  · refine ⟨.inr ⟨cached, d, hd, cached', key, served.trans fresh.symm⟩, fun alike => ?_⟩
    exact served.trans ((alike d hd cached' key).fresh_ok fresh).symm
  · rw [tellable cached] at untold
    cases untold

/-- A host whose functions give what they are given as a list. -/
def listingHost : Host where
  run _ arguments := { outcome := .ok (match arguments with
    | [.record values] => Value.entry values "list"
    | _ => .null) }
  delay _ _ := .zero false

/-- A server that answers with what it is sent as a list. -/
def listingServer : Server := fun _ _ _ payload => .answered 200 (.data (Value.entry payload "list"))

/-- A call of a function, with a list among the values. -/
def listing (texts : List String) : OptionsCall where
  config := { plain .function with loader := some ⟨.function, 0, .null⟩ }
  values := [("list", .list (texts.map .str))]

/-- A call of a server, with a list among the parameters. -/
def listingFrom (url : String) (texts : List String) : OptionsCall where
  config := { plain .api with url := some url, params := [("list", .list (texts.map .str))] }
  values := []

/-- A call of a store, for what is there under a name, with a key for the cache. -/
def stored (name cacheKey : String) : OptionsCall where
  config := { plain .store with storeKey := some name, cacheKey := some cacheKey }
  values := []

/-- When a call comes again, it is served from the cache what it would get past it. -/
theorem listing_served :
    ((listing ["1"]).load listingHost listingServer
        ((listing ["1"]).load listingHost listingServer (beside .null)).2).1 =
      ((listing ["1"]).uncached.load listingHost listingServer
        ((listing ["1"]).load listingHost listingServer (beside .null)).2).1 := by
  have asked : Asked listingHost listingServer (beside .null) [listing ["1"]]
      ((listing ["1"]).load listingHost listingServer (beside .null)).2 := .load _ .start
  refine (cache_serves rfl asked (listing ["1"]) fun _ => by decide +kernel).2 ?_
  intro d hd _ _
  rw [List.mem_singleton.mp hd]
  exact ⟨rfl, rfl, fun _ => ⟨rfl, rfl, rfl, rfl⟩, fun _ => ⟨rfl, rfl⟩, fun _ => rfl⟩

/-- For options from a source, caching makes no difference to what is loaded after other calls. -/
def Transparent (source : OptionSource) : Prop :=
  ∀ (host : Host) (server : Server) (start : LoadRun) (calls : List OptionsCall) (c : OptionsCall),
    start.loader.cache = [] → c.config.source = source →
      Time.isSpan c.config.cacheDuration = true →
        let r := calls.foldl (fun r d => (d.load host server r).2) start
        (c.load host server r).1 = (c.uncached.load host server r).1

/-- Every element of a list is made into one option. -/
theorem length_optionsOf {d : DynamicOptions} {xs : List Value} {options : List SelectOption}
    (h : optionsOf d (.list xs) = .ok options) : options.length = xs.length :=
  (Except.mapM_eq_ok h).length_eq.symm

/-- Without a transformation, the elements of a list that is obtained are made into options. -/
theorem fresh_listed {c : OptionsCall} {xs : List Value} {r : LoadRun}
    (untransformed : c.config.transform = none)
    (obtained : (LoadRun.obtain host (fun _ => c.answer server) c.config c.values r).1 =
      .ok (.list xs)) :
    (c.fresh host server r).1 = optionsOf c.config (.list xs) := by
  unfold fresh
  rw [loadFresh_result, obtained]
  unfold LoadRun.transform
  rw [untransformed]
  rfl

/-- A call that is served an empty list, though it would load another one. -/
theorem not_transparent {x : Value} (store : Value) (first second : OptionsCall)
    (cached : first.config.cache = true ∧ second.config.cache = true)
    (untransformed : first.config.transform = none ∧ second.config.transform = none)
    (same : second.key = first.key)
    (tellable : Time.isSpan first.config.cacheDuration = true ∧
      Time.isSpan second.config.cacheDuration = true)
    (lasts : (first.load listingHost listingServer (beside store)).2.now.before
      ((first.load listingHost listingServer (beside store)).2.now.after
        (Time.seconds first.config.cacheDuration)) = true)
    (empty : (LoadRun.obtain listingHost (fun _ => first.answer listingServer) first.config
      first.values (beside store)).1 = .ok (.list []))
    (other : (LoadRun.obtain listingHost (fun _ => second.answer listingServer) second.config
      second.values (first.load listingHost listingServer (beside store)).2).1 = .ok (.list [x])) :
    ¬ Transparent second.config.source := by
  intro transparent
  have served := load_again (d := second) cached.1 cached.2 same rfl
    (fresh_listed untransformed.1 empty) tellable.1 lasts
  have past := transparent listingHost listingServer (beside store) [first] second rfl rfl tellable.2
  dsimp only [List.foldl_cons, List.foldl_nil] at past
  rw [served, load_uncached, fresh_listed untransformed.2 other] at past
  have length := length_optionsOf past.symm
  cases length

/-- A call is served what another one loaded: with a function, though it reads a value that is no
declared dependency; from a server, though it sends other parameters; and from a store, though it looks
under another name, if both go by one key for the cache. -/
theorem cache_shared : ¬ Transparent .function ∧ ¬ Transparent .api ∧ ¬ Transparent .store := by
  have tellable : Time.isSpan 300000 = true := by decide +kernel
  refine ⟨?_, ?_, ?_⟩
  · exact not_transparent .null (listing []) (listing ["2"])
      ⟨rfl, rfl⟩ ⟨rfl, rfl⟩ rfl ⟨tellable, tellable⟩ (by decide +kernel) rfl rfl
  · exact not_transparent .null (listingFrom "http:\x2f\x2fh" []) (listingFrom "http:\x2f\x2fh" ["2"])
      ⟨rfl, rfl⟩ ⟨rfl, rfl⟩ rfl ⟨tellable, tellable⟩ (by decide +kernel) rfl rfl
  · exact not_transparent (.record [("x", .list []), ("y", .list [.str "2"])]) (stored "x" "k")
      (stored "y" "k")
      ⟨rfl, rfl⟩ ⟨rfl, rfl⟩ rfl ⟨tellable, tellable⟩ (by decide +kernel) rfl rfl

end OptionsCall

end FormEngine
