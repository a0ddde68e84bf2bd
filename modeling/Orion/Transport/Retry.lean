import Orion.Configuration.RetryPolicy

/-! # Retries

`sendWithRetry` sends a request until an answer is not to be retried or the
pauses of the back-off are used up.
-/

namespace Orion.Transport

open Foundation Http Orion.Configuration List Nat

/-! ## Transport errors

An error is a chain of causes, the outermost first. Retry decisions look
through the chain for the first cause whose kind they know.
-/

inductive IoErrorKind where
  | connectionRefused
  | notConnected
  | addrInUse
  | addrNotAvailable
  | networkUnreachable
  | permissionDenied
  | connectionAborted
  | connectionReset
  | timedOut
  | invalidData
  | other
  deriving DecidableEq

structure IoError where
  kind : IoErrorKind
  message : Text
  deriving DecidableEq

inductive EventError where
  | ioError (error : IoError)
  | connectTimeout
  | perTryTimeout
  | routeTimeout
  | reset
  | refusedStream
  | http3PostConnectFailure
  deriving DecidableEq

inductive H2Reason where
  | refusedStream
  | connectError
  | other (code : Nat)
  deriving DecidableEq

/-- One link of an error chain, by the type to which it can be downcast. -/
inductive Cause where
  | elapsed
  | event (error : EventError)
  | h2 (reason : Option H2Reason)
  | inputOutput (error : IoError)
  | other (message : Text)
  deriving DecidableEq

structure Error where
  outermost : Cause
  sources : List Cause
  deriving DecidableEq

namespace Error

def new (message : Text) : Error := ⟨.other message, []⟩

def ofEvent (error : EventError) : Error := ⟨.event error, []⟩

def ofIo (error : IoError) : Error := ⟨.inputOutput error, []⟩

end Error

def Cause.infer : Cause → Option EventError
  | .elapsed => some .perTryTimeout
  | .event error => some error
  | .h2 none => none
  | .h2 (some .refusedStream) => some .refusedStream
  | .h2 (some .connectError) =>
    some (.ioError ⟨.connectionRefused, "H2 connection refused".toList⟩)
  | .h2 (some (.other _)) => some .reset
  | .inputOutput error => some (.ioError error)
  | .other _ => none

def EventError.tryInferFromChain : Cause → List Cause → Option EventError
  | cause, sources =>
    match cause.infer, sources with
    | some error, _ => some error
    | none, source :: rest => tryInferFromChain source rest
    | none, [] => some .reset

def EventError.tryInferFrom (error : Error) : Option EventError :=
  tryInferFromChain error.outermost error.sources

inductive RetryCondition where
  | error (error : EventError)
  | response (response : Response Body)

/-- Informational and successful responses are never retried. -/
def RetryCondition.tryInferFrom :
    Except Error (Response Body) → Option RetryCondition
  | .ok resp =>
    if 100 ≤ resp.status ∧ resp.status < 300 then
      none
    else
      some (.response resp)
  | .error failure => (EventError.tryInferFrom failure).map .error

def xEnvoyRatelimited : HeaderName := .ofText "x-envoy-ratelimited".toList

def xOrionRatelimited : HeaderName := .ofText "x-orion-ratelimited".toList

section

variable [HttpCrate] [RegexEngine]

/-- What one entry of `retryOn` decides: `none` leaves the decision to the
entries after it. -/
def RetryCondition.verdict (condition : RetryCondition) (policy : RetryPolicy) :
    RetryOn → Option Bool
  | .err5xx =>
    match condition with
    | .response resp =>
      if 500 ≤ resp.status ∧ resp.status ≤ 599 then some true else none
    | .error _ => none
  | .gatewayError =>
    match condition with
    | .response resp =>
      if 502 ≤ resp.status ∧ resp.status ≤ 504 then some true else none
    | .error _ => none
  | .envoyRateLimited =>
    match condition with
    | .response resp =>
      if resp.headers.any fun (name, _) =>
          name = xEnvoyRatelimited ∨ name = xOrionRatelimited then
        some true
      else
        none
    | .error _ => none
  | .retriable4xx =>
    match condition with
    | .response resp => if resp.status = 409 then some true else none
    | .error _ => none
  | .retriableStatusCodes =>
    match condition with
    | .response resp => some (policy.retriableStatusCodes.contains resp.status)
    | .error _ => none
  | .retriableHeaders =>
    match condition with
    | .response resp =>
      -- Matching a response does not panic: only ASCII values are matched at all.
      some (policy.retriableHeaders.any fun matcher =>
        (matcher.responseMatches resp).getD false)
    | .error _ => none
  | .reset =>
    match condition with
    | .error .reset => some true
    | _ => none
  | .connectFailure =>
    match condition with
    | .error (.ioError _) | .error .connectTimeout => some true
    | _ => none
  | .refusedStream =>
    match condition with
    | .error .refusedStream => some true
    | _ => none
  | .http3PostConnectFailure =>
    match condition with
    | .error .http3PostConnectFailure => some true
    | _ => none
  | .grpcCancelled | .grpcDeadlineExceeded | .grpcInternal | .grpcResourceExhausted
  | .grpcUnavailable => none

def RetryCondition.shouldRetry (condition : RetryCondition) (policy : RetryPolicy) : Bool :=
  match condition with
  | .error .perTryTimeout => true
  | _ => (policy.retryOn.findSome? (condition.verdict policy)).getD false

structure Reply where
  result : Except Error (Response Body)
  /-- The result comes only after the per-try timeout, if there is one. -/
  late : Bool

def Reply.outcome (policy : RetryPolicy) (reply : Reply) : Except Error (Response Body) :=
  if policy.perTryTimeout.isSome ∧ reply.late then
    .error (.ofEvent .perTryTimeout)
  else
    reply.result

structure Sent where
  result : Except Error (Response Body)
  totalRequests : Nat
  requests : List (Request Body)
  sleeps : List Duration

def retryLoop (policy : RetryPolicy) (replies : Nat → Reply) (request : Request Body) :
    Nat → List (Option Duration) → Sent
  | _, [] =>
    { result := .error (.ofIo ⟨.invalidData, "invalid retry_policy configuration".toList⟩)
      totalRequests := 0
      requests := []
      sleeps := [] }
  | index, pause :: pauses =>
    let backOff := pause.getD 1000000000
    let result := (replies index).outcome policy
    let returned : Sent :=
      { result := result, totalRequests := 1, requests := [request], sleeps := [] }
    match RetryCondition.tryInferFrom result with
    | none => returned
    | some condition =>
      if condition.shouldRetry policy then
        let rest := retryLoop policy replies request (index + 1) pauses
        { result := rest.result
          totalRequests := rest.totalRequests + 1
          requests := request :: rest.requests
          sleeps := if index < policy.numRetries then backOff :: rest.sleeps
            else rest.sleeps }
      else
        returned

/-- Send a request, where `replies` says how the upstream treats each attempt. -/
def sendWithRetry [BackoffCrate] (policy : RetryPolicy) (replies : Nat → Reply)
    (request : Request Body) : Sent :=
  match request.body.collect with
  | .error error => ⟨.error (.new error), 0, [], []⟩
  | .ok collected =>
    retryLoop policy replies { request with body := .full collected.bytes } 0
      policy.exponentialBackOff

/-! ## The retry contract -/

def Retriable (policy : RetryPolicy) (outcome : Except Error (Response Body)) : Prop :=
  ∃ condition, RetryCondition.tryInferFrom outcome = some condition ∧
    condition.shouldRetry policy = true

/-- Attempts are numbered from zero, so attempt `number` is followed by at most
`numRetries - number` retries. -/
structure RetryContract (policy : RetryPolicy) (replies : Nat → Reply) (sent : Sent) :
    Prop where
  atLeastOnce : 1 ≤ sent.requests.length
  atMost : sent.requests.length ≤ 1 + policy.numRetries
  continues : ∀ number, number + 1 < sent.requests.length ↔
    number < sent.requests.length ∧ Retriable policy ((replies number).outcome policy) ∧
      number < policy.numRetries
  lastOutcome : sent.result =
    (replies (sent.requests.length - 1)).outcome policy

/-! ## What the loop does -/

theorem retriable_iff_of_infer (inferred : RetryCondition.tryInferFrom outcome = some condition) :
    Retriable policy outcome ↔ condition.shouldRetry policy := by
  constructor
  · rintro ⟨other, otherInferred, retried⟩
    rw [inferred] at otherInferred
    cases otherInferred
    exact retried
  · intro retried
    exact ⟨condition, inferred, retried⟩

section

variable (policy : RetryPolicy) (replies : Nat → Reply) (request : Request Body)

theorem retryLoop_cons_of_retriable (pause : Option Duration) (pauses : List (Option Duration))
    (retriable : Retriable policy ((replies index).outcome policy)) :
    let rest := retryLoop policy replies request (index + 1) pauses
    let sent := retryLoop policy replies request index (pause :: pauses)
    sent.result = rest.result ∧ sent.totalRequests = rest.totalRequests + 1 ∧
      sent.requests = request :: rest.requests := by
  rcases retriable with ⟨condition, inferred, retried⟩
  simp [retryLoop, inferred, retried]

theorem retryLoop_cons_of_not_retriable (pause : Option Duration) (pauses : List (Option Duration))
    (final : ¬ Retriable policy ((replies index).outcome policy)) :
    retryLoop policy replies request index (pause :: pauses) =
      ⟨(replies index).outcome policy, 1, [request], []⟩ := by
  simp only [retryLoop]
  cases inferred : RetryCondition.tryInferFrom ((replies index).outcome policy) with
  | none => rfl
  | some condition =>
    rw [retriable_iff_of_infer inferred] at final
    simp [final]

theorem retryLoop_of_first_final (pauses : List (Option Duration)) (reached : index ≤ final)
    (within : final < index + pauses.length) (earlier : ∀ number, index ≤ number → number < final →
      Retriable policy ((replies number).outcome policy))
    (notRetriable : ¬ Retriable policy ((replies final).outcome policy)) :
    (retryLoop policy replies request index pauses).requests.length =
      final - index + 1 ∧
    (retryLoop policy replies request index pauses).result = (replies final).outcome policy := by
  induction pauses generalizing index with
  | nil =>
    rw [length_nil] at within
    omega
  | cons pause pauses induction =>
    rw [length_cons] at within
    rcases eq_or_lt_of_le reached with here | later
    · rw [here, retryLoop_cons_of_not_retriable policy replies request pause pauses notRetriable]
      simp
    · rcases retryLoop_cons_of_retriable policy replies request pause pauses
        (earlier index (le_refl _) later) with ⟨result, _, requests⟩
      have rest := induction later (by omega)
        fun number least less => earlier number (by omega) less
      rw [result, requests, length_cons, rest.1]
      exact ⟨by omega, rest.2⟩

theorem retryLoop_of_all_retriable (index : Nat) (pauses : List (Option Duration))
    (retriable : ∀ number, index ≤ number → number < index + pauses.length →
      Retriable policy ((replies number).outcome policy)) :
    (retryLoop policy replies request index pauses).requests.length = pauses.length := by
  induction pauses generalizing index with
  | nil => rfl
  | cons pause pauses induction =>
    rw [length_cons] at retriable
    rcases retryLoop_cons_of_retriable policy replies request pause pauses
      (retriable index (le_refl _) (by omega)) with ⟨_, _, requests⟩
    have rest := induction (index + 1) fun number least less =>
      retriable number (le_of_succ_le least) (by omega)
    rw [requests, length_cons, length_cons, rest]

end

/-! ## When the contract holds -/

/-- The request can be read, and some attempt within the number of retries ends
with an outcome that is not retried. -/
def SettlesInTime (policy : RetryPolicy) (replies : Nat → Reply) (request : Request Body) : Prop :=
  request.body.error = none ∧
    ∃ number < policy.numRetries, ¬ Retriable policy ((replies number).outcome policy)

theorem exists_first_final {replies : Nat → Reply}
    (final : ¬ Retriable policy ((replies number).outcome policy)) :
    ∃ first ≤ number, ¬ Retriable policy ((replies first).outcome policy) ∧
      ∀ earlier < first, Retriable policy ((replies earlier).outcome policy) := by
  classical
  have found : ∃ first, ¬ Retriable policy ((replies first).outcome policy) :=
    ⟨number, final⟩
  refine ⟨Nat.find found, Nat.find_min' found final, Nat.find_spec found, ?_⟩
  intro earlier less
  exact Decidable.not_not.mp (Nat.find_min found less)

section

variable [BackoffCrate]

theorem retryContract_of_settlesInTime (settles : SettlesInTime policy replies request) :
    RetryContract policy replies (sendWithRetry policy replies request) := by
  rcases settles with ⟨readable, number, within, final⟩
  rcases exists_first_final final with ⟨first, atMost, firstFinal, earlier⟩
  simp only [sendWithRetry, Body.collect_of_no_error readable]
  rcases retryLoop_of_first_final policy replies
    { request with body := .full request.body.bytes } policy.exponentialBackOff
    (zero_le first)
    (by rw [policy.length_exponentialBackOff]; omega)
    (fun number _ less => earlier number less) firstFinal with ⟨length, result⟩
  refine ⟨by omega, by omega, ?_, by rw [length]; exact result⟩
  intro attempt
  constructor
  · intro followed
    exact ⟨by omega, earlier attempt (by omega), by omega⟩
  · rintro ⟨made, retriable, _⟩
    have notFirst : attempt ≠ first := by
      rintro rfl
      exact firstFinal retriable
    omega

theorem settlesInTime_of_retryContract
    (contract : RetryContract policy replies (sendWithRetry policy replies request)) :
    SettlesInTime policy replies request := by
  cases unreadable : request.body.error with
  | some error =>
    have sentOnce := contract.atLeastOnce
    simp [sendWithRetry, Body.collect_of_error unreadable] at sentOnce
  | none =>
    refine ⟨unreadable, ?_⟩
    by_contra noneFinal
    have retriable : ∀ number < policy.numRetries,
        Retriable policy ((replies number).outcome policy) := by
      intro number within
      by_contra final
      exact noneFinal ⟨number, within, final⟩
    have length := retryLoop_of_all_retriable policy replies
      { request with body := .full request.body.bytes } 0 policy.exponentialBackOff
      fun number _ within => retriable number (by simpa using within)
    rw [policy.length_exponentialBackOff] at length
    have atLeastOnce := contract.atLeastOnce
    have continues := contract.continues (policy.numRetries - 1)
    simp only [sendWithRetry, Body.collect_of_no_error unreadable] at atLeastOnce continues
    have retried := retriable (policy.numRetries - 1) (by omega)
    have goesOn := continues.mpr ⟨by omega, retried, by omega⟩
    omega

/-- The retry contract holds exactly when the request can be read and an
outcome that is not retried comes within `numRetries` attempts. -/
theorem sendWithRetry_contract_iff :
    RetryContract policy replies (sendWithRetry policy replies request) ↔
      SettlesInTime policy replies request :=
  ⟨settlesInTime_of_retryContract, retryContract_of_settlesInTime⟩

end

end

def RetryPolicy.onceOn5xx : RetryPolicy where
  retryOn := [.err5xx]
  numRetries := 1
  perTryTimeout := none
  retriableStatusCodes := []
  retryBackoff := {}
  retriableHeaders := []
  retriableRequestHeaders := []

/-- With one retry allowed and an upstream that always answers 503, the request
is sent once, and an error of the proxy's own is returned for the answer. -/
theorem sendWithRetry_loses_answer :
    letI := HttpCrate.ascii
    letI := RegexEngine.literal
    letI := BackoffCrate.constant
    let replies := fun _ => Reply.mk (.ok ⟨503, .http11, [], .empty⟩) false
    let sent := sendWithRetry RetryPolicy.onceOn5xx replies (.get "/".toList)
    sent.totalRequests = 1 ∧
      sent.result = .error (.ofIo ⟨.invalidData, "invalid retry_policy configuration".toList⟩) ∧
      ¬ RetryContract RetryPolicy.onceOn5xx replies sent := by
  refine ⟨rfl, rfl, ?_⟩
  rintro ⟨_, _, _, lastOutcome⟩
  cases lastOutcome

/-! ## The conditions of a retry policy

The conditions are meant as alternatives. Two of them decide about every response, also when they
do not hold of it, so that what comes after them is not looked at.
-/

variable [HttpCrate] [RegexEngine] {condition : RetryCondition}

/-- What is decided if there is no other condition. -/
def RetryCondition.retriesAlone (condition : RetryCondition) (policy : RetryPolicy)
    (entry : RetryOn) : Bool :=
  condition.shouldRetry { policy with retryOn := [entry] }

/-- The order makes no difference, and one condition that holds is enough. -/
def RetryCondition.Disjunctive (condition : RetryCondition) (policy : RetryPolicy) : Prop :=
  (∀ retryOn, retryOn.Perm policy.retryOn →
    condition.shouldRetry { policy with retryOn := retryOn } = condition.shouldRetry policy) ∧
  (condition.shouldRetry policy = true ↔
    ∃ entry ∈ policy.retryOn, condition.retriesAlone policy entry = true)

/-- The condition decides about responses of which it does not hold. -/
def RetryCondition.EndsAt : RetryCondition → RetryOn → Prop
  | .response _, entry => entry = .retriableStatusCodes ∨ entry = .retriableHeaders
  | .error _, _ => False

theorem RetryCondition.verdict_eq_some_false_iff (entry : RetryOn) :
    condition.verdict policy entry = some false ↔
      condition.EndsAt entry ∧ condition.verdict policy entry ≠ some true := by
  cases condition with
  | error error => cases entry <;> cases error <;> simp [verdict, EndsAt]
  | response response => cases entry <;> simp [verdict, EndsAt]

section

variable (untimed : condition ≠ .error .perTryTimeout)

include untimed

theorem RetryCondition.shouldRetry_eq (retryOn : List RetryOn) :
    condition.shouldRetry { policy with retryOn := retryOn } =
      (retryOn.findSome? (condition.verdict policy)).getD false := by
  have same : condition.verdict { policy with retryOn := retryOn } = condition.verdict policy := by
    funext entry
    cases entry <;> rfl
  rw [shouldRetry, same]
  exact untimed

theorem RetryCondition.retriesAlone_iff (entry : RetryOn) :
    condition.retriesAlone policy entry ↔ condition.verdict policy entry = some true := by
  rw [retriesAlone, shouldRetry_eq untimed]
  cases decided : condition.verdict policy entry <;> simp [decided]

/-- Conditions that do not contradict each other are alternatives. -/
theorem RetryCondition.shouldRetry_iff
    (agree : (∀ entry ∈ retryOn, condition.verdict policy entry ≠ some false) ∨
      ∀ entry ∈ retryOn, condition.verdict policy entry ≠ some true) :
    condition.shouldRetry { policy with retryOn := retryOn } ↔
      ∃ entry ∈ retryOn, condition.retriesAlone policy entry := by
  simp only [shouldRetry_eq untimed, retriesAlone_iff untimed]
  cases found : retryOn.findSome? (condition.verdict policy) with
  | none =>
    rw [findSome?_eq_none_iff] at found
    refine iff_of_false (by simp) ?_
    rintro ⟨entry, member, holds⟩
    rw [found entry member] at holds
    cases holds
  | some answer =>
    rcases exists_of_findSome?_eq_some found with ⟨entry, member, decided⟩
    cases answer with
    | true => exact iff_of_true rfl ⟨entry, member, decided⟩
    | false =>
      rcases agree with accepting | refusing
      · exact absurd decided (accepting entry member)
      · exact iff_of_false (by simp) fun ⟨other, known, holds⟩ => refusing other known holds

end

/-- The conditions are alternatives exactly when a timeout of an attempt is retried because of one
of them, and a condition that decides about the response and does not hold of it is listed only
beside others that do not hold. -/
theorem RetryCondition.disjunctive_iff :
    condition.Disjunctive policy ↔
      (condition = .error .perTryTimeout → policy.retryOn ≠ []) ∧
      ∀ entry ∈ policy.retryOn, condition.EndsAt entry →
        condition.retriesAlone policy entry = false →
          ∀ other ∈ policy.retryOn, condition.retriesAlone policy other = false := by
  by_cases timed : condition = .error .perTryTimeout
  · subst timed
    constructor
    · rintro ⟨_, alternatives⟩
      rcases alternatives.mp rfl with ⟨entry, member, _⟩
      exact ⟨fun _ => ne_nil_of_mem member, fun _ _ ends => ends.elim⟩
    · rintro ⟨nonempty, _⟩
      rcases exists_mem_of_ne_nil _ (nonempty rfl) with ⟨entry, member⟩
      exact ⟨fun _ _ => rfl, iff_of_true rfl ⟨entry, member, rfl⟩⟩
  · constructor
    · rintro ⟨ordered, alternatives⟩
      refine ⟨fun timeout => absurd timeout timed, fun entry member ends fails other known => ?_⟩
      by_contra holds
      rw [Bool.not_eq_false] at holds
      have decided : condition.verdict policy entry = some false :=
        (verdict_eq_some_false_iff entry).mpr ⟨ends, fun alone => by
          rw [(retriesAlone_iff timed entry).mpr alone] at fails
          cases fails⟩
      have moved := ordered _ (perm_cons_erase member).symm
      rw [shouldRetry_eq timed, findSome?_cons, decided,
        alternatives.mpr ⟨other, known, holds⟩] at moved
      cases moved
    · rintro ⟨_, consistent⟩
      have agree : (∀ entry ∈ policy.retryOn, condition.verdict policy entry ≠ some false) ∨
          ∀ entry ∈ policy.retryOn, condition.verdict policy entry ≠ some true := by
        by_contra both
        push Not at both
        rcases both with ⟨⟨entry, member, decided⟩, other, known, holds⟩
        have fails := consistent entry member ((verdict_eq_some_false_iff entry).mp decided).1
          (by rw [← Bool.not_eq_true, retriesAlone_iff timed, decided]; decide) other known
        rw [(retriesAlone_iff timed other).mpr holds] at fails
        cases fails
      refine ⟨fun retryOn permuted => ?_, shouldRetry_iff timed agree⟩
      have same : ∀ answer, (∀ entry ∈ policy.retryOn, condition.verdict policy entry ≠ answer) →
          ∀ entry ∈ retryOn, condition.verdict policy entry ≠ answer :=
        fun answer all entry member => all entry (permuted.mem_iff.mp member)
      rw [Bool.eq_iff_iff, shouldRetry_iff timed (agree.imp (same _) (same _)),
        shouldRetry_iff timed agree]
      simp only [permuted.mem_iff]

omit [HttpCrate] [RegexEngine] in
/-- A server error is retried, unless the list of status codes is looked at before. -/
theorem status_codes_hide_server_errors :
    letI := HttpCrate.ascii
    letI := RegexEngine.literal
    let condition := RetryCondition.response ⟨503, .http11, [], .empty⟩
    let retryOn (entries : List RetryOn) := { RetryPolicy.onceOn5xx with retryOn := entries }
    condition.shouldRetry (retryOn [.err5xx, .retriableStatusCodes]) = true ∧
      condition.shouldRetry (retryOn [.retriableStatusCodes, .err5xx]) = false :=
  ⟨rfl, rfl⟩

end Orion.Transport
