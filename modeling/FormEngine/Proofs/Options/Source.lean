import FormEngine.Options.Loader

/-!
Loading past the cache. It neither reads nor changes what the cache holds. As long as a server gives the
same answer to the same request, what a load comes to depends on nothing that loading changes: not on the
time, and not on the requests sent before. It leaves the store as it is.
-/

namespace FormEngine

namespace LoadRun

variable {α β : Type}

theorem bind_apply (x : M α) (f : α → M β) (r : LoadRun) : (x >>= f) r = f (x r).1 (x r).2 := rfl

theorem pure_apply (a : α) (r : LoadRun) : (pure a : M α) r = (a, r) := rfl

theorem get_apply (r : LoadRun) : (get : M LoadRun) r = (r, r) := rfl

theorem set_apply (r s : LoadRun) : (set s : M PUnit) r = (.unit, s) := rfl

/-- What follows a pause between two attempts. -/
def resume (again : M (Except Fault Value)) : Except Fault Unit → M (Except Fault Value)
  | .error e => pure (.error e)
  | .ok _ => again

/-- An action whose result depends on the store alone, and which leaves the loader as it is. -/
structure Steady (x : M α) : Prop where
  result (r r' : LoadRun) : r.loader.store = r'.loader.store → (x r).1 = (x r').1
  loader (r : LoadRun) : (x r).2.loader = r.loader

namespace Steady

theorem pure (a : α) : Steady (Pure.pure a) := ⟨fun _ _ _ => rfl, fun _ => rfl⟩

theorem bind {x : M α} {f : α → M β} (hx : Steady x) (hf : ∀ a, Steady (f a)) : Steady (x >>= f) where
  result r r' same := by
    have first : (x r).1 = (x r').1 := hx.result r r' same
    have stores : (x r).2.loader.store = (x r').2.loader.store := by
      rw [hx.loader r, hx.loader r', same]
    change (f (x r).1 (x r).2).1 = (f (x r').1 (x r').2).1
    rw [first]
    exact (hf _).result _ _ stores
  loader r := by
    change (f (x r).1 (x r).2).2.loader = r.loader
    rw [(hf _).loader, hx.loader]

theorem emit (events : List Event) : Steady (LoadRun.emit events) := ⟨fun _ _ _ => rfl, fun _ => rfl⟩

theorem pause (span : Span) : Steady (LoadRun.pause span) where
  result _ _ _ := rfl
  loader r := by
    change (if Time.passes span then _ else _ : LoadRun).loader = _
    split <;> rfl

theorem rest (milliseconds : Int) : Steady (LoadRun.rest milliseconds) := by
  unfold LoadRun.rest
  split
  · exact .pure _
  · exact .bind (.pause _) fun _ => .pure _

/-- A server that answers every request the same is as good as one that answers once. -/
theorem send (answer : TransportOutcome) (request : Request) :
    Steady (LoadRun.send (fun _ => answer) request) :=
  ⟨fun _ _ _ => rfl, fun _ => rfl⟩

theorem attempt (answer : TransportOutcome) (request : Except String Request) :
    Steady (LoadRun.attempt (fun _ => answer) request) := by
  unfold LoadRun.attempt
  split
  · exact .pure _
  · exact .bind (.send answer _) fun _ => .pure _

theorem request (answer : TransportOutcome) (d : DynamicOptions) (url : String)
    (r : Except String Request) (left : Nat) (last : String) :
    Steady (LoadRun.request (fun _ => answer) d url r left last) := by
  induction left generalizing last with
  | zero => exact .pure _
  | succ left ih =>
      unfold LoadRun.request
      refine .bind (.attempt answer r) fun outcome => ?_
      split
      · exact .pure _
      · exact .pure _
      · next message =>
        have again (rested : Except Fault Unit) :
            Steady (resume (LoadRun.request (fun _ => answer) d url r left message) rested) := by
          cases rested with
          | error e => exact .pure _
          | ok _ => exact ih message
        dsimp only
        split
        · exact .bind (.pure _) again
        · exact .bind (.rest _) again

theorem fetch (answer : TransportOutcome) (d : DynamicOptions) (values : Table Value) :
    Steady (LoadRun.fetch (fun _ => answer) d values) := by
  unfold LoadRun.fetch
  split
  · exact .pure _
  · split
    · exact .request answer d _ _ _ _
    · exact .request answer d _ _ _ _
    · exact .pure _

theorem callLoader (host : Host) (d : DynamicOptions) (values : Table Value) :
    Steady (LoadRun.callLoader host d values) := by
  unfold LoadRun.callLoader
  split
  · exact .pure _
  · dsimp only
    split
    · exact .bind (.pause _) fun _ => .bind (.emit _) fun _ => .pure _
    · exact .bind (.emit _) fun _ => .pure _

theorem obtain (host : Host) (answer : TransportOutcome) (d : DynamicOptions)
    (values : Table Value) : Steady (LoadRun.obtain host (fun _ => answer) d values) := by
  unfold LoadRun.obtain
  split
  · exact .fetch answer d values
  · exact .callLoader host d values
  · refine ⟨fun r r' same => ?_, fun _ => rfl⟩
    change readStore r.loader d = readStore r'.loader d
    unfold readStore
    rw [same]

theorem transform (host : Host) (d : DynamicOptions) (v : Value) :
    Steady (LoadRun.transform host d v) := by
  unfold LoadRun.transform
  split
  · exact .pure _
  · exact .bind (.emit _) fun _ => .pure _

theorem loadFresh (host : Host) (answer : TransportOutcome) (d : DynamicOptions)
    (values : Table Value) : Steady (LoadRun.loadFresh host (fun _ => answer) d values) := by
  unfold LoadRun.loadFresh
  refine .bind (.obtain host answer d values) fun raw => ?_
  split
  · exact .pure _
  · exact .bind (.transform host d _) fun _ => .pure _

end Steady

/-- A run with another cache. -/
def withCache (r : LoadRun) (cache : List (CacheKey × CacheEntry)) : LoadRun :=
  { r with loader := { r.loader with cache } }

/-- An action that neither reads nor changes the cache. -/
def Blind {α : Type} (x : M α) : Prop := ∀ r cache, x (r.withCache cache) = ((x r).1, (x r).2.withCache cache)

namespace Blind

variable {α β : Type}

theorem pure (a : α) : Blind (Pure.pure a) := fun _ _ => rfl

theorem bind {x : M α} {f : α → M β} (hx : Blind x) (hf : ∀ a, Blind (f a)) : Blind (x >>= f) := by
  intro r cache
  rw [bind_apply, hx r cache, hf]
  rfl

theorem pause (span : Span) : Blind (LoadRun.pause span) := by
  intro r cache
  have passed : (LoadRun.pause span (r.withCache cache)).2 = (LoadRun.pause span r).2.withCache cache := by
    change (if Time.passes span then _ else _ : LoadRun) =
      LoadRun.withCache (if Time.passes span then _ else _) cache
    split <;> rfl
  exact Prod.ext rfl passed

theorem rest (milliseconds : Int) : Blind (LoadRun.rest milliseconds) := by
  unfold LoadRun.rest
  split
  · exact .pure _
  · exact .bind (.pause _) fun _ => .pure _

theorem attempt (transport : Transport) (request : Except String Request) :
    Blind (LoadRun.attempt transport request) := by
  cases request with
  | error message => exact .pure _
  | ok r => exact fun _ _ => rfl

theorem request (transport : Transport) (d : DynamicOptions) (url : String)
    (r : Except String Request) (left : Nat) (last : String) :
    Blind (LoadRun.request transport d url r left last) := by
  induction left generalizing last with
  | zero => exact .pure _
  | succ left ih =>
    unfold LoadRun.request
    refine .bind (.attempt transport r) fun outcome => ?_
    split
    · exact .pure _
    · exact .pure _
    · next message =>
      have again (rested : Except Fault Unit) :
          Blind (resume (LoadRun.request transport d url r left message) rested) := by
        cases rested with
        | error e => exact .pure _
        | ok _ => exact ih message
      dsimp only
      split
      · exact .bind (.pure _) again
      · exact .bind (.rest _) again

theorem fetch (transport : Transport) (d : DynamicOptions) (values : Table Value) :
    Blind (LoadRun.fetch transport d values) := by
  unfold LoadRun.fetch
  split
  · exact .pure _
  · split
    · exact .request transport d _ _ _ _
    · exact .request transport d _ _ _ _
    · exact .pure _

theorem callLoader (host : Host) (d : DynamicOptions) (values : Table Value) :
    Blind (LoadRun.callLoader host d values) := by
  have emit (events : List Event) : Blind (LoadRun.emit events) := fun _ _ => rfl
  unfold LoadRun.callLoader
  split
  · exact .pure _
  · dsimp only
    split
    · exact .bind (.pause _) fun _ => .bind (emit _) fun _ => .pure _
    · exact .bind (emit _) fun _ => .pure _

theorem obtain (host : Host) (transport : Transport) (d : DynamicOptions) (values : Table Value) :
    Blind (LoadRun.obtain host transport d values) := by
  unfold LoadRun.obtain
  split
  · exact .fetch transport d values
  · exact .callLoader host d values
  · exact fun _ _ => rfl

theorem transform (host : Host) (d : DynamicOptions) (v : Value) : Blind (LoadRun.transform host d v) := by
  unfold LoadRun.transform
  split
  · exact .pure _
  · exact .bind (fun _ _ => rfl) fun _ => .pure _

theorem loadFresh (host : Host) (transport : Transport) (d : DynamicOptions) (values : Table Value) :
    Blind (LoadRun.loadFresh host transport d values) := by
  unfold LoadRun.loadFresh
  refine .bind (.obtain host transport d values) fun raw => ?_
  split
  · exact .pure _
  · exact .bind (.transform host d _) fun _ => .pure _

end Blind

/-- What an attempt comes to that is answered so, if a request could be made at all. -/
def attemptOf (answer : TransportOutcome) : Except String Request → TransportOutcome.Attempt
  | .error message => .failed message
  | .ok r => answer.attempt r.address

theorem attempt_result (answer : TransportOutcome) (request : Except String Request) (r : LoadRun) :
    (attempt (fun _ => answer) request r).1 = attemptOf answer request := by
  cases request <;> rfl

/-- Attempts that are all answered the same succeed just if the first one does. -/
theorem request_ok {answer : TransportOutcome} {request : Except String Request} {data : Value}
    (d : DynamicOptions) (url : String) (left : Nat) (last : String) (r : LoadRun) :
    (LoadRun.request (fun _ => answer) d url request left last r).1 = .ok data ↔
      left ≠ 0 ∧ attemptOf answer request = .succeeded data := by
  induction left generalizing last r with
  | zero =>
      constructor
      · intro ok
        cases ok
      · exact fun ⟨absurd, _⟩ => (absurd rfl).elim
  | succ left ih =>
      have first := attempt_result answer request r
      unfold LoadRun.request
      rw [bind_apply]
      rcases ha : attempt (fun _ => answer) request r with ⟨outcome, s⟩
      rw [ha] at first
      rw [← first]
      cases outcome with
      | succeeded found => simp [pure_apply]
      | broken fault => simp [pure_apply]
      | failed message =>
          have failing (rested : Except Fault Unit) (t : LoadRun) :
              (resume (LoadRun.request (fun _ => answer) d url request left message)
                rested t).1 ≠ .ok data := by
            cases rested with
            | error e => exact fun ok => nomatch ok
            | ok _ =>
                intro ok
                have again := ((ih message t).mp ok).2
                rw [← first] at again
                cases again
          refine iff_of_false ?_ fun ⟨_, succeeds⟩ => nomatch succeeds
          dsimp only
          split
          · exact failing (.ok ()) s
          · exact failing (rest d.retryDelay s).1 (rest d.retryDelay s).2

/-- Calls that send the same get the same data, however often they try. -/
theorem fetch_ok {answer : TransportOutcome} {d e : DynamicOptions} {values others : Table Value}
    {raw : Value} {r : LoadRun} (method : d.method = e.method)
    (url : DynamicOptions.named? d.url = DynamicOptions.named? e.url) (headers : d.headers = e.headers)
    (payload : d.payload values = e.payload others)
    (ok : (LoadRun.fetch (fun _ => answer) d values r).1 = .ok raw) :
    (LoadRun.fetch (fun _ => answer) e others r).1 = .ok raw := by
  unfold LoadRun.fetch at ok ⊢
  rw [← method, ← url, ← headers, ← payload]
  cases hu : DynamicOptions.named? d.url with
  | none =>
      rw [hu] at ok
      cases ok
  | some url =>
      rw [hu] at ok
      dsimp only at ok ⊢
      have again {request} (succeeds :
          (LoadRun.request (fun _ => answer) d url request d.attempts "" r).1 = .ok raw) :
          (LoadRun.request (fun _ => answer) e url request e.attempts "" r).1 = .ok raw :=
        (request_ok _ _ _ _ _).mpr ⟨Nat.succ_ne_zero _, ((request_ok _ _ _ _ _).mp succeeds).2⟩
      rcases hm : Request.make d.method url (d.payload values) d.headers with (e | message) | request
      · rw [hm] at ok
        cases ok
      · rw [hm] at ok
        exact again ok
      · rw [hm] at ok
        exact again ok

theorem loadFresh_result (host : Host) (transport : Transport) (d : DynamicOptions)
    (values : Table Value) (r : LoadRun) :
    (loadFresh host transport d values r).1 =
      match (obtain host transport d values r).1 with
      | .error e => .error e
      | .ok raw => (transform host d raw (obtain host transport d values r).2).1.bind
          (optionsOf d) := by
  unfold loadFresh
  rw [bind_apply]
  rcases obtain host transport d values r with ⟨outcome, s⟩
  cases outcome <;> rfl

end LoadRun

/-- A call of a loader, for the options of a field and with the values of its form. -/
structure OptionsCall where
  config : DynamicOptions
  values : Table Value

/-- A server whose answer depends only on the method, the url, the headers and the payload. -/
abbrev Server := Method → String → Table String → Table Value → TransportOutcome

namespace OptionsCall

open DynamicOptions LoadRun

/-- The answer to every request of a call. -/
def answer (server : Server) (c : OptionsCall) : TransportOutcome :=
  server c.config.method ((named? c.config.url).getD "") c.config.headers (c.config.payload c.values)

/-- A call past the cache. -/
def fresh (host : Host) (server : Server) (c : OptionsCall) : M (Except Fault (List SelectOption)) :=
  loadFresh host (fun _ => c.answer server) c.config c.values

theorem fresh_steady (host : Host) (server : Server) (c : OptionsCall) :
    Steady (c.fresh host server) :=
  .loadFresh host (c.answer server) c.config c.values

/-- Two calls read alike: they send the same to the same server, run the same function on the same
values, or look in the store under the same key; and what they get is transformed alike. -/
structure Alike (c d : OptionsCall) : Prop where
  source : c.config.source = d.config.source
  transform : c.config.transform = d.config.transform
  sent : c.config.source = .api → c.config.method = d.config.method ∧
    named? c.config.url = named? d.config.url ∧ c.config.headers = d.config.headers ∧
      c.config.payload c.values = d.config.payload d.values
  run : c.config.source = .function → c.config.loader = d.config.loader ∧ c.values = d.values
  looked : c.config.source = .store → named? c.config.storeKey = named? d.config.storeKey

namespace Alike

variable {host : Host} {server : Server} {c d : OptionsCall}

/-- Calls that read alike get the same data. -/
theorem obtain_ok (h : Alike c d) {raw : Value} {r : LoadRun}
    (ok : (LoadRun.obtain host (fun _ => c.answer server) c.config c.values r).1 = .ok raw) :
    (LoadRun.obtain host (fun _ => d.answer server) d.config d.values r).1 = .ok raw := by
  unfold LoadRun.obtain at ok ⊢
  rw [← h.source]
  cases source : c.config.source with
  | api =>
      obtain ⟨method, url, headers, payload⟩ := h.sent source
      have answers : d.answer server = c.answer server := by
        unfold answer
        rw [method, url, headers, payload]
      rw [source] at ok
      change (LoadRun.fetch (fun _ => d.answer server) d.config d.values r).1 = .ok raw
      rw [answers]
      exact fetch_ok method url headers payload ok
  | function =>
      obtain ⟨loader, values⟩ := h.run source
      rw [source] at ok
      dsimp only at ok ⊢
      unfold callLoader at ok ⊢
      rw [← loader, ← values]
      exact ok
  | store =>
      rw [source] at ok
      change readStore r.loader d.config = .ok raw
      have looked : readStore r.loader c.config = .ok raw := ok
      unfold readStore at looked ⊢
      rw [← h.looked source]
      exact looked

/-- Calls that read alike load the same options. -/
theorem fresh_ok (h : Alike c d) {options : List SelectOption} {r : LoadRun}
    (ok : (c.fresh host server r).1 = .ok options) : (d.fresh host server r).1 = .ok options := by
  unfold fresh at ok ⊢
  rw [loadFresh_result] at ok ⊢
  cases obtained : (LoadRun.obtain host (fun _ => c.answer server) c.config c.values r).1 with
  | error e =>
      rw [obtained] at ok
      cases ok
  | ok raw =>
      rw [obtained] at ok
      rw [h.obtain_ok obtained]
      have transforms : LoadRun.transform host d.config raw = LoadRun.transform host c.config raw := by
        unfold LoadRun.transform
        rw [h.transform]
      have reads : optionsOf d.config = optionsOf c.config := by
        funext v
        unfold optionsOf
        rw [h.source]
      dsimp only at ok ⊢
      rw [transforms, reads, ← ok]
      refine congrArg (fun outcome => Except.bind outcome (optionsOf c.config)) ?_
      apply (Steady.transform host c.config raw).result
      rw [(Steady.obtain host _ d.config d.values).loader,
        (Steady.obtain host _ c.config c.values).loader]

end Alike

end OptionsCall

end FormEngine
