import Orion.Clusters.Channels
import Orion.Transport.Retry

/-! # What the attempts of a request transmit

Without a retry policy a request is streamed, and the headers that announce trailers are
stripped from it unless the channel allows trailers. With one, its data is collected first, and
each attempt sends the data with the headers as they were.
-/

namespace Orion.Transport

open Foundation Http Orion.Configuration Clusters List

def teHeader : HeaderName := .ofText "te".toList

def trailerHeader : HeaderName := .ofText "trailer".toList

def stripTrailersHeaders (headers : HeaderMap) : Codec → HeaderMap
  | .http1 => (headers.remove teHeader).remove trailerHeader
  | .http2 =>
    let headers := headers.remove trailerHeader
    match headers.get teHeader with
    | some value => if value ≠ "trailers".toUTF8.toList then headers.remove teHeader else headers
    | none => headers

/-- The attempt of `sendRequest` when no retry policy applies. -/
def singleAttempt (httpVersion : Codec) (enableTrailers : Bool) (request : Request Body) :
    Request Body :=
  if enableTrailers then request
  else { request with headers := stripTrailersHeaders request.headers httpVersion }

structure SameTransmission (left right : Request Body) : Prop where
  method : left.method = right.method
  uri : left.uri = right.uri
  headers : left.headers = right.headers
  body : left.body.collect = right.body.collect

section

variable [HttpCrate] [RegexEngine]

theorem mem_retryLoop {pauses : List (Option Duration)}
    (member : attempt ∈ (retryLoop policy replies request index pauses).requests) :
    attempt = request := by
  induction pauses generalizing index with
  | nil => cases member
  | cons pause pauses induction =>
    by_cases retriable : Retriable policy ((replies index).outcome policy)
    · rw [(retryLoop_cons_of_retriable policy replies request pause pauses retriable).2.2] at member
      exact (mem_cons.mp member).elim id induction
    · rw [retryLoop_cons_of_not_retriable policy replies request pause pauses retriable] at member
      exact mem_singleton.mp member

theorem mem_sendWithRetry [BackoffCrate]
    (member : attempt ∈ (sendWithRetry policy replies request).requests) :
    request.body.collect = .ok ⟨request.body.bytes, request.body.trailers⟩ ∧
      attempt = { request with body := .full request.body.bytes } := by
  cases complete : request.body.error with
  | some error =>
    rw [sendWithRetry, Body.collect_of_error complete] at member
    cases member
  | none =>
    rw [sendWithRetry, Body.collect_of_no_error complete] at member
    exact ⟨Body.collect_of_no_error complete, mem_retryLoop member⟩

theorem requests_eq_nil_iff [BackoffCrate] (policy : RetryPolicy) (replies : Nat → Reply)
    (request : Request Body) : (sendWithRetry policy replies request).requests = [] ↔
      policy.numRetries = 0 ∨ request.body.error.isSome := by
  have pauses := policy.length_exponentialBackOff
  cases complete : request.body.error with
  | some error =>
    rw [sendWithRetry, Body.collect_of_error complete]
    simp
  | none =>
    rw [sendWithRetry, Body.collect_of_no_error complete]
    dsimp only
    cases made : policy.exponentialBackOff with
    | nil =>
      rw [made] at pauses
      simp [retryLoop, ← pauses]
    | cons pause later =>
      rw [made, length_cons] at pauses
      have retries : policy.numRetries ≠ 0 := by omega
      simp only [retries, Option.isSome_none, Bool.false_eq_true, or_self, iff_false]
      by_cases retriable : Retriable policy ((replies 0).outcome policy)
      · rw [(retryLoop_cons_of_retriable policy replies _ pause later retriable).2.2]
        exact cons_ne_nil _ _
      · rw [retryLoop_cons_of_not_retriable policy replies _ pause later retriable]
        exact cons_ne_nil _ _

/-- The attempts transmit what the single attempt does exactly if there is none, because no
retries are allowed or the body cannot be read, or the body has no trailers and there is no
header to be stripped. -/
theorem attempts_transmit_iff [BackoffCrate] (policy : RetryPolicy) (replies : Nat → Reply)
    (request : Request Body) (httpVersion : Codec) (enableTrailers : Bool) :
    (∀ attempt ∈ (sendWithRetry policy replies request).requests,
        SameTransmission attempt (singleAttempt httpVersion enableTrailers request)) ↔
      (policy.numRetries = 0 ∨ request.body.error.isSome) ∨ request.body.trailers = none ∧
        (enableTrailers ∨ stripTrailersHeaders request.headers httpVersion = request.headers) := by
  rw [← requests_eq_nil_iff policy replies request]
  constructor
  · intro same
    refine (eq_nil_or_concat' (sendWithRetry policy replies request).requests).imp_right ?_
    rintro ⟨_, attempt, attempts⟩
    have member : attempt ∈ (sendWithRetry policy replies request).requests := by simp [attempts]
    rcases mem_sendWithRetry member with ⟨collected, rfl⟩
    have trailers : request.body.collect = (Body.full request.body.bytes).collect →
        request.body.trailers = none := by
      simp [collected]
    rcases same _ member with ⟨_, _, headers, body⟩
    cases enableTrailers with
    | true => exact ⟨trailers body.symm, .inl rfl⟩
    | false => exact ⟨trailers body.symm, .inr headers.symm⟩
  · rintro (none | ⟨trailers, headers⟩) attempt member
    · rw [none] at member
      cases member
    · rcases mem_sendWithRetry member with ⟨collected, rfl⟩
      have bodies : (Body.full request.body.bytes).collect = request.body.collect := by
        rw [collected, trailers, Body.collect_full]
      cases enableTrailers with
      | true => exact ⟨rfl, rfl, rfl, bodies⟩
      | false => exact ⟨rfl, rfl, (headers.resolve_left nofun).symm, bodies⟩

end

/-- The header that announces trailers is sent with a retry policy only. -/
theorem trailer_header_kept :
    letI := HttpCrate.ascii
    letI := RegexEngine.literal
    letI := BackoffCrate.constant
    let request := { Request.get "/".toList with headers := [(trailerHeader, [])] }
    let replies := fun _ => Reply.mk (.ok ⟨200, .http11, [], .empty⟩) false
    (sendWithRetry RetryPolicy.onceOn5xx replies request).requests.map Request.headers =
        [[(trailerHeader, [])]] ∧
      (singleAttempt .http1 false request).headers = [] := by
  exact ⟨rfl, by decide⟩

/-! ## What is left of the headers -/

def TrailersStripped (headers : HeaderMap) : Codec → Prop
  | .http1 => headers.getAll teHeader = [] ∧ headers.getAll trailerHeader = []
  | .http2 => ∀ value ∈ headers.getAll teHeader, value = "trailers".toUTF8.toList

/-- Only the first value is looked at, so that others stay behind it. -/
theorem trailersStripped_iff (headers : HeaderMap) (httpVersion : Codec) :
    TrailersStripped (stripTrailersHeaders headers httpVersion) httpVersion ↔
      httpVersion = .http1 ∨ headers.get teHeader ≠ some "trailers".toUTF8.toList ∨
        ∀ value ∈ headers.getAll teHeader, value = "trailers".toUTF8.toList := by
  have different : teHeader ≠ trailerHeader := by decide
  cases httpVersion with
  | http1 => simp [TrailersStripped, stripTrailersHeaders, MultiMap.getAll_remove_of_ne different]
  | http2 =>
    rw [TrailersStripped, stripTrailersHeaders]
    simp only [MultiMap.get, MultiMap.getAll_remove_of_ne different]
    generalize "trailers".toUTF8.toList = trailers
    cases values : headers.getAll teHeader with
    | nil => simp [MultiMap.getAll_remove_of_ne different, values]
    | cons first others =>
      by_cases same : first = trailers
      · simp [same, MultiMap.getAll_remove_of_ne different, values]
      · simp [same]

theorem second_te_value_kept :
    ¬ TrailersStripped (stripTrailersHeaders
      [(teHeader, "trailers".toUTF8.toList), (teHeader, "gzip".toUTF8.toList)] .http2) .http2 := by
  intro stripped
  exact absurd (stripped "gzip".toUTF8.toList (by decide +kernel)) (by decide +kernel)

end Orion.Transport
