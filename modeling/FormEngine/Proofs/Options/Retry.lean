import FormEngine.Proofs.Clock.Time
import FormEngine.Proofs.Options.Specimen
import FormEngine.Proofs.Schema.Specimen
import Mathlib.Data.ENat.Lattice

/-!
Asking an api again. A request is sent until it is answered with data, up to a number of times, and time
goes by between one time and the next; nothing is sent and no time goes by afterwards. A pause that is
too long to be told in seconds ends the attempts with a fault of its own.
-/

namespace FormEngine

namespace TransportOutcome

namespace Attempt

def succeeds : Attempt → Bool
  | .succeeded _ => true
  | _ => false

end Attempt

/-- The position of the first attempt that brings data, counted from one; infinite if none does. -/
noncomputable def firstSuccess (answers : Nat → Attempt) : ℕ∞ :=
  sInf {k | ∃ i : ℕ, k = i + 1 ∧ (answers i).succeeds = true}

theorem firstSuccess_of_success {answers : Nat → Attempt} (h : (answers 0).succeeds = true) :
    firstSuccess answers = 1 := by
  apply le_antisymm
  · exact sInf_le ⟨0, rfl, h⟩
  · refine le_sInf ?_
    rintro _ ⟨i, rfl, -⟩
    exact le_add_self

theorem firstSuccess_of_failure {answers : Nat → Attempt} (h : (answers 0).succeeds = false) :
    firstSuccess answers = firstSuccess (fun i => answers (i + 1)) + 1 := by
  apply le_antisymm
  · by_cases some : {k : ℕ∞ | ∃ i : ℕ, k = i + 1 ∧ (answers (i + 1)).succeeds = true}.Nonempty
    · obtain ⟨i, first, success⟩ := csInf_mem some
      refine sInf_le ⟨i + 1, ?_, success⟩
      unfold firstSuccess
      rw [first]
      rfl
    · have never : firstSuccess (fun i => answers (i + 1)) = ⊤ := by
        unfold firstSuccess
        rw [Set.not_nonempty_iff_eq_empty.mp some, sInf_empty]
      rw [never, top_add]
      exact le_top
  · refine le_sInf ?_
    rintro _ ⟨i, rfl, success⟩
    cases i with
    | zero =>
      rw [h] at success
      cases success
    | succ i =>
      gcongr
      exact sInf_le ⟨i, rfl, success⟩

theorem one_le_firstSuccess (answers : Nat → Attempt) : 1 ≤ firstSuccess answers := by
  refine le_sInf ?_
  rintro _ ⟨i, rfl, -⟩
  exact le_add_self

theorem one_lt_firstSuccess {answers : Nat → Attempt} (h : (answers 0).succeeds = false) :
    1 < firstSuccess answers := by
  rw [firstSuccess_of_failure h]
  exact ENat.natCast_lt_add_one_iff.mpr (one_le_firstSuccess _)

end TransportOutcome

namespace LoadRun

open TransportOutcome

/-- A run in which a request was sent, if it could be made. -/
def asked (run : LoadRun) : Except String Request → LoadRun
  | .error _ => run
  | .ok r => { run with sent := run.sent + 1, events := run.events ++ [.requested r] }

/-- A run in which some milliseconds have gone by, if they are more than none. -/
def waited (run : LoadRun) (milliseconds : Int) : LoadRun :=
  if 0 < milliseconds then { run with now := run.now.after (Time.seconds milliseconds) } else run

theorem now_waited {milliseconds : Int} (h : 0 < milliseconds) (run : LoadRun) :
    (run.waited milliseconds).now = run.now.after (Time.seconds milliseconds) := by
  unfold waited
  rw [if_pos h]

/-- A run in which a request was sent some times, with a pause between one time and the next. -/
def tried (request : Except String Request) (milliseconds : Int) : Nat → LoadRun → LoadRun
  | 0, run => run
  | 1, run => run.asked request
  | m + 2, run => tried request milliseconds (m + 1) ((run.asked request).waited milliseconds)

/-- What the attempts from a run on come to. -/
def answers (run : LoadRun) (transport : Transport) (request : Except String Request) (i : Nat) : Attempt :=
  attemptOf (transport (run.sent + i)) request

section Steps

variable (transport : Transport) (request : Except String Request) (run : LoadRun) (milliseconds : Int)

theorem attempt_apply :
    attempt transport request run = (run.answers transport request 0, run.asked request) := by
  cases request <;> rfl

/-- Between two attempts the pause goes by, unless it cannot be told. -/
theorem rest_apply : rest milliseconds run =
    if 0 < milliseconds ∧ Time.isSpan milliseconds = false then (.error LoadFault.spanTooLong, run)
    else (.ok (), run.waited milliseconds) := by
  have paused : (pause (Time.seconds milliseconds) run).2 = run.waited milliseconds := by
    change (if Time.passes (Time.seconds milliseconds) = true then _ else _ : LoadRun) = _
    simp only [Time.passes_seconds, decide_eq_true_eq]
    rfl
  unfold rest
  by_cases endless : 0 < milliseconds ∧ Time.isSpan milliseconds = false
  · rw [if_pos endless, if_pos (by simpa using endless)]
    rfl
  · rw [if_neg endless, if_neg (by simpa using endless), ← paused]
    rfl

/-- After an attempt the next ones come to what came after it before. -/
theorem answers_asked (i : Nat) :
    ((run.asked request).waited milliseconds).answers transport request i =
      run.answers transport request (i + 1) := by
  have sent : ((run.asked request).waited milliseconds).sent = (run.asked request).sent := by
    unfold waited
    split <;> rfl
  unfold answers
  rw [sent]
  cases request with
  | error message => rfl
  | ok r =>
    change attemptOf (transport (run.sent + 1 + i)) _ = _
    rw [Nat.add_assoc, Nat.add_comm 1]

end Steps

theorem sent_tried (r : Request) (milliseconds : Int) (m : Nat) (run : LoadRun) :
    (tried (.ok r) milliseconds m run).sent = run.sent + m ∧
      (tried (.ok r) milliseconds m run).events = run.events ++ List.replicate m (.requested r) := by
  induction m, run using tried.induct (.ok r) milliseconds with
  | case1 run => exact ⟨rfl, (List.append_nil _).symm⟩
  | case2 run => exact ⟨rfl, rfl⟩
  | case3 m run ih =>
    obtain ⟨sent, events⟩ := ih
    have waiting : ((run.asked (.ok r)).waited milliseconds).sent = run.sent + 1 ∧
        ((run.asked (.ok r)).waited milliseconds).events = run.events ++ [.requested r] := by
      unfold waited
      split <;> exact ⟨rfl, rfl⟩
    rw [waiting.1] at sent
    rw [waiting.2] at events
    refine ⟨sent.trans (by omega), events.trans ?_⟩
    rw [List.append_assoc]
    rfl

/-- What asking an api comes to, up to some number of times: how often and when it is asked, and what it
answers. -/
structure Retried (transport : Transport) (request : Except String Request) (milliseconds : Int)
    (failing : String → Fault) (n : Nat) (run : LoadRun) (result : Except Fault Value × LoadRun) : Prop where
  asked : ∃ m : ℕ, m = min (firstSuccess (run.answers transport request)) n ∧
    result.2 = tried request milliseconds m run
  answered : firstSuccess (run.answers transport request) ≤ n →
    ∃ (i : ℕ) (data : Value), firstSuccess (run.answers transport request) = i + 1 ∧
      run.answers transport request i = .succeeded data ∧ result.1 = .ok data
  exhausted : n < firstSuccess (run.answers transport request) →
    ∃ last, run.answers transport request (n - 1) = .failed last ∧ result.1 = .error (failing last)

section Asking

variable {transport : Transport} {request : Except String Request} {run : LoadRun} {d : DynamicOptions}
  {url : String}

theorem request_of_success {data : Value} (success : run.answers transport request 0 = .succeeded data)
    (left : Nat) (last : String) :
    LoadRun.request transport d url request (left + 1) last run = (.ok data, run.asked request) := by
  unfold LoadRun.request
  rw [bind_apply, attempt_apply, success]
  rfl

theorem request_of_failure {message : String} (failure : run.answers transport request 0 = .failed message)
    (last : String) : LoadRun.request transport d url request 1 last run =
      (.error (LoadFault.requestFailed url d.attempts message).toFault, run.asked request) := by
  unfold LoadRun.request
  rw [bind_apply, attempt_apply, failure]
  rfl

/-- After a failure the next attempts follow, with a pause before them. -/
theorem request_again {message : String} (failure : run.answers transport request 0 = .failed message)
    (left : Nat) (last : String) : LoadRun.request transport d url request (left + 2) last run =
      if 0 < d.retryDelay ∧ Time.isSpan d.retryDelay = false then
        (.error LoadFault.spanTooLong, run.asked request)
      else LoadRun.request transport d url request (left + 1) message
        ((run.asked request).waited d.retryDelay) := by
  rw [LoadRun.request, bind_apply, attempt_apply, failure]
  dsimp only
  rw [if_neg (Nat.succ_ne_zero left), bind_apply, rest_apply]
  split <;> rfl

end Asking

namespace Retried

variable {transport : Transport} {request : Except String Request} {milliseconds : Int}
  {failing : String → Fault} {n : Nat} {run : LoadRun} {message : String}

theorem of_success {data : Value} (success : run.answers transport request 0 = .succeeded data) :
    Retried transport request milliseconds failing (n + 1) run (.ok data, run.asked request) := by
  have first : firstSuccess (run.answers transport request) = 1 :=
    firstSuccess_of_success (congrArg Attempt.succeeds success)
  have within : (1 : ℕ∞) ≤ (n + 1 : ℕ) := by exact_mod_cast Nat.le_add_left 1 n
  constructor
  · refine ⟨1, ?_, rfl⟩
    rw [first, min_eq_left within, Nat.cast_one]
  · exact fun _ => ⟨0, data, first, success, rfl⟩
  · intro beyond
    rw [first] at beyond
    exact absurd within (not_le_of_gt beyond)

theorem of_failure (failure : run.answers transport request 0 = .failed message) :
    Retried transport request milliseconds failing 1 run (.error (failing message), run.asked request) := by
  have beyond : ((1 : ℕ) : ℕ∞) < firstSuccess (run.answers transport request) :=
    one_lt_firstSuccess (congrArg Attempt.succeeds failure)
  constructor
  · exact ⟨1, (min_eq_right beyond.le).symm, rfl⟩
  · exact fun within => absurd beyond (not_lt_of_ge within)
  · exact fun _ => ⟨message, failure, rfl⟩

theorem again {result : Except Fault Value × LoadRun}
    (failure : run.answers transport request 0 = .failed message)
    (h : Retried transport request milliseconds failing (n + 1)
      ((run.asked request).waited milliseconds) result) :
    Retried transport request milliseconds failing (n + 2) run result := by
  obtain ⟨⟨m, least, tried⟩, answered, exhausted⟩ := h
  have shifted : ((run.asked request).waited milliseconds).answers transport request =
      fun i => run.answers transport request (i + 1) :=
    funext (answers_asked transport request run milliseconds)
  rw [shifted] at least answered exhausted
  have later := firstSuccess_of_failure (congrArg Attempt.succeeds failure)
  have next : ((n + 2 : ℕ) : ℕ∞) = (n + 1 : ℕ) + 1 := rfl
  constructor
  · have some : 1 ≤ m := by
      have : (1 : ℕ∞) ≤ m := least ▸ le_min (one_le_firstSuccess _) (by exact_mod_cast Nat.le_add_left 1 n)
      exact_mod_cast this
    obtain ⟨m, rfl⟩ := Nat.exists_eq_add_of_le' some
    refine ⟨m + 2, ?_, tried⟩
    rw [later, next, min_add_add_right, ← least]
    rfl
  · intro within
    rw [later, next] at within
    obtain ⟨i, data, first, success, result⟩ := answered (by simpa using within)
    refine ⟨i + 1, data, ?_, success, result⟩
    rw [later, first]
    rfl
  · intro beyond
    rw [later, next] at beyond
    exact exhausted (by simpa using beyond)

end Retried

section Api

variable {transport : Transport} {request : Except String Request} {d : DynamicOptions} {url : String}

/-- Asking an api up to some times, as long as no attempt ends in a fault and the pauses can be told. -/
theorem request_retried (url : String)
    (unbroken : ∀ i fault, attemptOf (transport i) request ≠ .broken fault) (left : Nat) (last : String) (run : LoadRun)
    (told : left = 0 ∨ firstSuccess (run.answers transport request) = 1 ∨
      ¬ (0 < d.retryDelay ∧ Time.isSpan d.retryDelay = false)) :
    Retried transport request d.retryDelay
      (fun last => (LoadFault.requestFailed url d.attempts last).toFault) (left + 1) run
      (LoadRun.request transport d url request (left + 1) last run) := by
  -- by induction on the attempts after the first: a failure moves the answers on by one, and the last
  -- attempt is followed by no pause
  induction left generalizing last run with
  | zero =>
    cases first : run.answers transport request 0 with
    | succeeded data =>
      rw [request_of_success first]
      exact .of_success first
    | failed message =>
      rw [request_of_failure first]
      exact .of_failure first
    | broken fault => exact absurd first (unbroken _ fault)
  | succ left ih =>
    cases first : run.answers transport request 0 with
    | succeeded data =>
      rw [request_of_success first]
      exact .of_success first
    | failed message =>
      have later := one_lt_firstSuccess (congrArg Attempt.succeeds first)
      have told := (told.resolve_left (Nat.succ_ne_zero left)).resolve_left later.ne'
      rw [request_again first, if_neg told]
      exact .again first (ih message _ (.inr (.inr told)))
    | broken fault => exact absurd first (unbroken _ fault)

/-- A pause that cannot be told ends the attempts after the first one, unless that succeeds. -/
theorem request_endless (unbroken : ∀ i fault, attemptOf (transport i) request ≠ .broken fault)
    {left : Nat} {run : LoadRun} (failing : firstSuccess (run.answers transport request) ≠ 1)
    (endless : 0 < d.retryDelay ∧ Time.isSpan d.retryDelay = false) (last : String) :
    LoadRun.request transport d url request (left + 2) last run =
      (.error LoadFault.spanTooLong, run.asked request) := by
  cases first : run.answers transport request 0 with
  | succeeded data => exact absurd (firstSuccess_of_success (congrArg Attempt.succeeds first)) failing
  | failed message => rw [request_again first, if_pos endless]
  | broken fault => exact absurd first (unbroken _ fault)

theorem obtain_api (host : Host) (request : Except String Request) {values : Table Value} {run : LoadRun}
    (source : d.source = .api)
    (named : DynamicOptions.named? d.url = some url)
    (sendable : Request.make d.method url (d.payload values) d.headers =
      request.mapError Unsendable.refused) :
    obtain host transport d values run = LoadRun.request transport d url request d.attempts "" run := by
  unfold obtain
  rw [source]
  dsimp only
  unfold fetch
  rw [named]
  dsimp only
  rw [sendable]
  cases request <;> rfl

end Api

/-- An api is asked until it answers with data, and at most once more than it is to be asked again; it is
asked the same each time, with a pause in between if there is to be one. The data are the result, or a
fault that tells the url and the number of attempts. Only if a second attempt is due and the seconds of the
pause are beyond all doubles, the first failure is followed by another fault. -/
theorem retries_exact (host : Host) (transport : Transport) (d : DynamicOptions) (values : Table Value)
    (url : String) (request : Except String Request) (run : LoadRun) (source : d.source = .api)
    (named : DynamicOptions.named? d.url = some url)
    (sendable : Request.make d.method url (d.payload values) d.headers =
      request.mapError Unsendable.refused)
    (unbroken : ∀ i fault, attemptOf (transport i) request ≠ .broken fault) :
    let answers := run.answers transport request
    let k := firstSuccess answers
    let n := d.attempts
    let result := obtain host transport d values run
    (n : Int) = max d.retryAttempts 0 + 1 ∧
    if 1 < n ∧ k ≠ 1 ∧ 1000 * Binary64.overflow ≤ d.retryDelay then
      result = (.error LoadFault.spanTooLong, run.asked request)
    else ∃ m : ℕ, m = min k n ∧ result.2 = tried request d.retryDelay m run ∧
      (∀ r, request = .ok r →
        result.2.sent = run.sent + m ∧ result.2.events = run.events ++ List.replicate m (.requested r)) ∧
      (k ≤ n → ∃ (i : ℕ) (data : Value), k = i + 1 ∧ answers i = .succeeded data ∧ result.1 = .ok data) ∧
      (n < k → ∃ last, answers (n - 1) = .failed last ∧
        result.1 = .error (.optionsLoad s!"Failed to load options from {url}: {last}"
          [("url", .str url), ("attempts", .int n)] [])) := by
  intro answers k n result
  have attempts : n = d.retryAttempts.toNat + 1 := rfl
  have asking : result = LoadRun.request transport d url request n "" run :=
    obtain_api host request source named sendable
  have endless_iff : 0 < d.retryDelay ∧ Time.isSpan d.retryDelay = false ↔ _ := Time.endless_iff
  refine ⟨by omega, ?_⟩
  split
  · next barred =>
    obtain ⟨several, failing, endless⟩ := barred
    obtain ⟨left, hn⟩ := Nat.exists_eq_add_of_le' several
    rw [asking, hn]
    exact request_endless unbroken failing (endless_iff.mpr endless) ""
  · next fair =>
    have told : d.retryAttempts.toNat = 0 ∨ k = 1 ∨
        ¬ (0 < d.retryDelay ∧ Time.isSpan d.retryDelay = false) := by
      rw [endless_iff]
      by_contra barred
      simp only [not_or, not_not] at barred
      exact fair ⟨by omega, barred.2⟩
    obtain ⟨⟨m, least, tried⟩, answered, exhausted⟩ :=
      request_retried url unbroken d.retryAttempts.toNat "" run told
    change result = LoadRun.request transport d url request (d.retryAttempts.toNat + 1) "" run at asking
    rw [← asking] at tried answered exhausted
    refine ⟨m, least, tried, ?_, answered, exhausted⟩
    rintro r rfl
    rw [tried]
    exact sent_tried r d.retryDelay m run

/-- An api that is asked once more, some milliseconds after the first time. -/
def retrying (milliseconds : Int) : DynamicOptions :=
  { OptionsCall.plain .api with
    url := some "http:\x2f\x2fh", retryAttempts := 1, retryDelay := milliseconds }

/-- What is sent to it. -/
def homeRequest : Request := ⟨.get, { scheme := "http", host := "h" }, none, []⟩

/-- A server that fails the first time it is asked. -/
def waking : Transport
  | 0 => .answered 500 (.text "")
  | _ => .answered 200 (.data (.list []))

theorem make_retrying (milliseconds : Int) :
    Request.make (retrying milliseconds).method "http:\x2f\x2fh" ((retrying milliseconds).payload [])
      (retrying milliseconds).headers = .ok homeRequest := by
  rfl

/-- The second request, a second later, brings the data. -/
theorem retrying_once :
    let result := obtain (.constant .null (.zero false)) waking (retrying 1000) [] (OptionsCall.beside .null)
    result.1 = .ok (.list []) ∧ result.2.events = [.requested homeRequest, .requested homeRequest] ∧
      result.2.now = Time.start.after (Time.seconds 1000) := by
  have unbroken (i : Nat) (fault : Fault) : attemptOf (waking i) (.ok homeRequest) ≠ .broken fault := by
    cases i <;> exact nofun
  obtain ⟨-, outcome⟩ := retries_exact (.constant .null (.zero false)) waking (retrying 1000) [] _
    (.ok homeRequest) (OptionsCall.beside .null) rfl rfl (make_retrying 1000) unbroken
  have second : firstSuccess ((OptionsCall.beside .null).answers waking (.ok homeRequest)) = 2 := by
    rw [firstSuccess_of_failure rfl, firstSuccess_of_success rfl]
    rfl
  have told : ¬ 1000 * Binary64.overflow ≤ (1000 : Int) := by
    rw [← Time.endless_iff]
    exact fun endless => absurd endless.2 (by decide +kernel)
  have attempts : (retrying 1000).attempts = 2 := rfl
  rw [if_neg fun barred => told barred.2.2, second, attempts] at outcome
  dsimp only
  generalize obtain (.constant .null (.zero false)) waking (retrying 1000) [] (OptionsCall.beside .null) =
    result at outcome ⊢
  obtain ⟨m, least, tried, sent, answered, -⟩ := outcome
  have two : m = 2 := by
    have : (m : ℕ∞) = 2 := by simpa using least
    exact_mod_cast this
  obtain ⟨i, data, position, success, ok⟩ := answered (by norm_num)
  have one : i = 1 := by
    have : 2 = i + 1 := by exact_mod_cast position
    omega
  subst two one
  have found : (OptionsCall.beside .null).answers waking (.ok homeRequest) 1 = .succeeded (.list []) := rfl
  rw [found] at success
  obtain rfl := Attempt.succeeded.inj success
  refine ⟨ok, (sent homeRequest rfl).2, ?_⟩
  rw [tried, LoadRun.tried, LoadRun.tried]
  exact now_waited (by decide) _

/-- A server that is out of order. -/
def failing : Transport := fun _ => .answered 500 (.text "")

theorem request_failing {milliseconds : Int}
    (endless : 0 < milliseconds ∧ Time.isSpan milliseconds = false) (run : LoadRun) :
    obtain (.constant .null (.zero false)) failing (retrying milliseconds) [] run =
      (.error LoadFault.spanTooLong, run.asked (.ok homeRequest)) := by
  have unbroken (i : Nat) (fault : Fault) : attemptOf (failing i) (.ok homeRequest) ≠ .broken fault := nofun
  rw [obtain_api _ (.ok homeRequest) rfl rfl (make_retrying milliseconds)]
  exact request_endless unbroken (one_lt_firstSuccess rfl).ne' endless ""

/-- A pause of so many milliseconds cannot be told in seconds: one request is sent instead of two, and the
fault tells neither the url nor the number of attempts. -/
theorem endless_pause :
    let d := retrying (Nat.pow 10 400 : Nat)
    let run := OptionsCall.beside .null
    let result := obtain (.constant .null (.zero false)) failing d [] run
    result.2.sent ≠ run.sent + min (firstSuccess (run.answers failing (.ok homeRequest))) d.attempts ∧
      result.1 = .error (.overflow "integer division result too large for a float") := by
  intro d run result
  have endless : 0 < ((Nat.pow 10 400 : Nat) : Int) ∧ Time.isSpan (Nat.pow 10 400 : Nat) = false := by
    decide +kernel
  have outcome : result = (.error LoadFault.spanTooLong, run.asked (.ok homeRequest)) :=
    request_failing endless run
  have more : 1 < min (firstSuccess (run.answers failing (.ok homeRequest))) d.attempts :=
    lt_min (one_lt_firstSuccess rfl) (by norm_num [show d.attempts = 2 from rfl])
  rw [outcome]
  refine ⟨?_, rfl⟩
  change ((1 : ℕ) : ℕ∞) ≠ (0 : ℕ) + _
  rw [Nat.cast_zero, zero_add]
  exact more.ne

end LoadRun

end FormEngine
