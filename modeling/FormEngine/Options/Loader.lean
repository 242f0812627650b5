import FormEngine.Clock.Time
import FormEngine.Condition
import FormEngine.Host.Construct
import FormEngine.Options.Transport
import FormEngine.Schema.Load

/-!
Loading options. Option lists are kept under a key made of their source and of the values they depend
on, until they expire; a load first looks there. An api is asked again after a failure, a number of
times and with a pause in between.
-/

namespace FormEngine

/-- What tells one source of options from another. -/
inductive SourceIdentity
  | named (name : String)
  | loader (key : Option Nat)
  deriving DecidableEq, Repr

structure CacheKey where
  source : OptionSource
  identity : SourceIdentity
  method : Method
  dependencies : List (String × String)
  deriving DecidableEq, Repr

structure CacheEntry where
  expires : Time
  options : List SelectOption

/-- Why options cannot be loaded. -/
inductive LoadFault
  | urlMissing
  | loaderMissing
  | storeKeyMissing
  | notInStore (key : String)
  | requestFailed (url : String) (attempts : Nat) (last : String)
  | loaderFailed (cause : Fault)
  | transformFailed (cause : Fault)
  | notAList (source : OptionSource) (kind : String)
  | badEntry (issues : List Issue)

namespace LoadFault

def spanTooLong : Fault := .overflow "integer division result too large for a float"

def message : LoadFault → String
  | .urlMissing => "Dynamic options from api require a url"
  | .loaderMissing => "Dynamic options from function require a loader"
  | .storeKeyMissing => "Dynamic options from store require a store_key"
  | .notInStore key => s!"No options in store under '{key}'"
  | .requestFailed url _ last => s!"Failed to load options from {url}: {last}"
  | .loaderFailed cause => "Options loader failed: " ++ cause.message
  | .transformFailed cause => "Options transform failed: " ++ cause.message
  | .notAList _ kind => s!"Expected a list of options, got {kind}"
  | .badEntry _ => "Invalid option entry"

def details : LoadFault → Table Value
  | .notInStore key => [("store_key", .str key)]
  | .requestFailed url attempts _ => [("url", .str url), ("attempts", .int attempts)]
  | .notAList source _ => [("source", .str source.word)]
  | _ => []

def toFault (e : LoadFault) : Fault :=
  .optionsLoad e.message e.details (match e with
    | .badEntry issues => issues
    | _ => [])

end LoadFault

namespace DynamicOptions

/-- A name that is given and not empty. -/
def named? (name : Option String) : Option String := name.filter fun s => !s.isEmpty

def identity (d : DynamicOptions) : SourceIdentity :=
  match ((named? d.cacheKey).or (named? d.url)).or (named? d.storeKey) with
  | some name => .named name
  | none => .loader (d.loader.map Callable.key)

/-- The values of the declared dependencies, null for those that are missing. -/
def dependencyValues (d : DynamicOptions) (values : Table Value) : Table Value :=
  Table.ofEntries (d.dependencies.map fun id => (id, Value.entry values id))

def cacheKeyFor (d : DynamicOptions) (values : Table Value) : CacheKey where
  source := d.source
  identity := d.identity
  method := d.method
  dependencies :=
    ((d.dependencyValues values).map fun e => (e.1, e.2.quoted)).mergeSort fun a b => a.1 ≤ b.1

/-- What is sent with a request: the declared parameters and the dependencies that have a value. -/
def payload (d : DynamicOptions) (values : Table Value) : Table Value :=
  d.params.merge ((d.dependencyValues values).filter fun e => !e.2.isNull)

/-- The number of requests that are made at most. -/
def attempts (d : DynamicOptions) : Nat := d.retryAttempts.toNat + 1

end DynamicOptions

structure OptionsLoader where
  timeout : Value
  /-- what the store holds, a record if it is of use -/
  store : Value
  cache : List (CacheKey × CacheEntry) := []

namespace OptionsLoader

def clearCache (l : OptionsLoader) : OptionsLoader := { l with cache := [] }

def forget (l : OptionsLoader) (key : CacheKey) : OptionsLoader :=
  { l with cache := l.cache.filter fun e => e.1 ≠ key }

/-- Looks options up in the cache; an entry that has expired is removed. -/
def lookup (l : OptionsLoader) (key : CacheKey) (now : Time) :
    OptionsLoader × Option (List SelectOption) :=
  match l.cache.lookup key with
  | none => (l, none)
  | some entry => if now.before entry.expires then (l, some entry.options) else (l.forget key, none)

/-- Keeps options in the cache, unless their time cannot be told; all entries that have expired are
removed. -/
def keep (l : OptionsLoader) (key : CacheKey) (options : List SelectOption) (now : Time)
    (duration : Int) : OptionsLoader × Except Fault Unit :=
  let fresh := l.cache.filter fun e => now.before e.2.expires
  if Time.isSpan duration then
    ({ l with
        cache := fresh.filter (fun e => e.1 ≠ key) ++ [(key, ⟨now.after (Time.seconds duration), options⟩)] },
      .ok ())
  else ({ l with cache := fresh }, .error LoadFault.spanTooLong)

end OptionsLoader

/-- The surroundings of a load: the transport answers the n-th request, and the clock goes on. -/
structure LoadRun where
  loader : OptionsLoader
  now : Time
  sent : Nat := 0
  events : List Event := []

namespace LoadRun

abbrev Transport := Nat → TransportOutcome

abbrev M := StateM LoadRun

def emit (events : List Event) : M Unit := modify fun r => { r with events := r.events ++ events }

/-- Lets some time pass. -/
def pause (span : Span) : M Unit := modify fun r =>
  if Time.passes span then { r with now := r.now.after span } else r

/-- Pauses between two attempts; a pause that cannot be told is a fault. -/
def rest (milliseconds : Int) : M (Except Fault Unit) := do
  if 0 < milliseconds && !Time.isSpan milliseconds then return .error LoadFault.spanTooLong
  pause (Time.seconds milliseconds)
  return .ok ()

def send (transport : Transport) (request : Request) : M TransportOutcome := do
  let r ← get
  set { r with sent := r.sent + 1, events := r.events ++ [Event.requested request] }
  return transport r.sent

/-- One attempt; a request that was refused fails without being sent. -/
def attempt (transport : Transport) (request : Except String Request) :
    M TransportOutcome.Attempt := do
  match request with
  | .error message => return .failed message
  | .ok r => return (← send transport r).attempt r.address

/-- Makes up to `left` more attempts, with a pause before each but the first. -/
def request (transport : Transport) (d : DynamicOptions) (url : String)
    (r : Except String Request) : Nat → String → M (Except Fault Value)
  | 0, last => return .error (LoadFault.requestFailed url d.attempts last).toFault
  | left + 1, _ => do
    match ← attempt transport r with
    | .succeeded data => return .ok data
    | .broken fault => return .error fault
    | .failed message =>
      match ← if left = 0 then pure (.ok ()) else rest d.retryDelay with
      | .error e => return .error e
      | .ok () => request transport d url r left message

def fetch (transport : Transport) (d : DynamicOptions) (values : Table Value) :
    M (Except Fault Value) := do
  match DynamicOptions.named? d.url with
  | none => return .error LoadFault.urlMissing.toFault
  | some url =>
    match Request.make d.method url (d.payload values) d.headers with
    | .ok r => request transport d url (.ok r) d.attempts ""
    | .error (.refused message) => request transport d url (.error message) d.attempts ""
    | .error (.fault e) => return .error e

def callLoader (host : Host) (d : DynamicOptions) (values : Table Value) :
    M (Except Fault Value) := do
  match d.loader with
  | none => return .error LoadFault.loaderMissing.toFault
  | some f =>
    let arguments : List Value := [.record values]
    if f.isDeferred then pause (host.delay f arguments)
    let reply := host.run f arguments
    emit reply.events
    return reply.outcome.mapError fun e => (LoadFault.loaderFailed e).toFault

/-- What a store holds under a key. In a store that is no record nothing can be looked up. -/
def readStore (l : OptionsLoader) (d : DynamicOptions) : Except Fault Value :=
  match DynamicOptions.named? d.storeKey with
  | none => .error LoadFault.storeKeyMissing.toFault
  | some key =>
    let missing := Except.error (LoadFault.notInStore key).toFault
    match l.store with
    | .null => missing
    | .record entries => (Table.get? entries key).elim missing Except.ok
    | v =>
      if v.length?.isSome && Operator.contains? v (.str key) == some false then missing
      else .error (.typeMismatch "a store is no record")

/-- The list in a record with an entry of options, or the value itself. -/
def unwrap (v : Value) : Value :=
  match v with
  | .record entries =>
    match Table.get? entries "options" with
    | some (.list xs) => .list xs
    | _ => v
  | _ => v

/-- Every element as an option; the first that is none is reported. -/
def optionsOf (d : DynamicOptions) (v : Value) : Except Fault (List SelectOption) :=
  let each := fun xs => xs.mapM fun x =>
    match Load.selectOption x with
    | .ok o => Except.ok o
    | .failed issues => .error (LoadFault.badEntry issues).toFault
  match unwrap v with
  | .list xs => each xs
  | .tuple xs => each xs
  | v => .error (LoadFault.notAList d.source v.kindName).toFault

def transform (host : Host) (d : DynamicOptions) (v : Value) : M (Except Fault Value) := do
  match d.transform with
  | none => return .ok v
  | some f =>
    let result := host.call f [v]
    emit result.events
    return result.value.mapError fun e => (LoadFault.transformFailed e).toFault

/-- The data of the source, before it is made into options. -/
def obtain (host : Host) (transport : Transport) (d : DynamicOptions) (values : Table Value) :
    M (Except Fault Value) := do
  match d.source with
  | .api => fetch transport d values
  | .function => callLoader host d values
  | .store => return readStore (← get).loader d

/-- Loads from the source, past the cache. -/
def loadFresh (host : Host) (transport : Transport) (d : DynamicOptions) (values : Table Value) :
    M (Except Fault (List SelectOption)) := do
  match ← obtain host transport d values with
  | .error e => return .error e
  | .ok raw => return (← transform host d raw).bind (optionsOf d)

/-- Looks options up in the cache, if it may be used; those that are loaded are kept there. -/
def throughCache (d : DynamicOptions) (key : CacheKey)
    (fresh : M (Except Fault (List SelectOption))) : M (Except Fault (List SelectOption)) := do
  if !d.cache then fresh
  else
    let r ← get
    let (loader, found) := r.loader.lookup key r.now
    set { r with loader := loader }
    match found with
    | some options => return .ok options
    | none =>
      match ← fresh with
      | .error e => return .error e
      | .ok options =>
        let r ← get
        let (loader, outcome) := r.loader.keep key options r.now d.cacheDuration
        set { r with loader := loader }
        return outcome.map fun _ => options

/-- Loads options, from the cache if it has them and may be used. -/
def load (host : Host) (transport : Transport) (d : DynamicOptions) (values : Table Value) :
    M (Except Fault (List SelectOption)) :=
  throughCache d (d.cacheKeyFor values) (loadFresh host transport d values)

/-- Loads options for what an application gives as the values of its form. Values that are no record
can have no dependencies in them; a function is given the record that they can be made into. -/
def loadFor (host : Host) (transport : Transport) (d : DynamicOptions) (v : Value) :
    M (Except Fault (List SelectOption)) := do
  if !v.truthy then load host transport d []
  else
    match v.record?, d.dependencies with
    | some values, _ => load host transport d values
    | none, _ :: _ =>
      return .error (.missingAttribute s!"'{v.kindName}' object has no attribute 'get'")
    | none, [] =>
      match Construct.record v, d.source, d.loader with
      | .error e, .function, some _ =>
        throughCache d (d.cacheKeyFor []) (return .error (LoadFault.loaderFailed e).toFault)
      | made, _, _ => load host transport d ((made.toOption.bind Value.record?).getD [])

end LoadRun

end FormEngine
