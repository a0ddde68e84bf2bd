import Orion.Transport.Retry

/-! # Failover between upstream channels

A request that may fail over is read into memory first, and then offered to one
channel after the other.
-/

namespace Orion.Transport

open Foundation Http Orion.Configuration List Option Nat

structure RequestContext where
  routeTimeout : Option Duration
  retryPolicy : Option RetryPolicy

structure RequestExt where
  req : Request Body
  ctx : RequestContext

/-- A channel to one upstream, by the answer it gives to a request. -/
structure HttpChannel where
  clusterName : Text
  upstreamAuthority : Text
  toResponse : RequestExt → Except Error (Response Body)

inductive HttpChannels where
  | single (channel : HttpChannel)
  | multiWithFailover (channel : HttpChannel) (failoverChannels : List HttpChannel)

/-- What forwarding did: the channels contacted, by position, and the result. -/
structure Forwarded where
  contacted : List Nat
  result : Except Error (Response Body)

/-- The request rebuilt for one attempt; retries of the attempt are switched off. -/
def RequestExt.rebuilt (request : RequestExt) (bytes : Bytes) : RequestExt where
  req := { request.req with body := .full bytes }
  ctx := { routeTimeout := request.ctx.routeTimeout, retryPolicy := none }

/-- The response with its body read into memory. A body that cannot be read is
replaced by an empty one. -/
def replayable (response : Response Body) : Response Body :=
  match response.body.collect with
  | .ok collected => { response with body := .full collected.bytes }
  | .error _ => { response with body := .full [] }

def attemptLoop (request : RequestExt) (totalAttempts : Nat) :
    Nat → List HttpChannel → Option Error → Option (Response Body) → Forwarded
  | _, [], lastError, lastResponse =>
    match lastResponse with
    | some response => ⟨[], .ok response⟩
    | none => ⟨[], .error (lastError.getD
        (.new "Failed to forward request to any upstream channel".toList))⟩
  | attempt, channel :: channels, lastError, lastResponse =>
    let hasMore := attempt + 1 < totalAttempts
    let rest :=
      match channel.toResponse request with
      | .ok response =>
        if hasMore then
          attemptLoop request totalAttempts (attempt + 1) channels lastError
            (some (replayable response))
        else
          ⟨[], .ok (replayable response)⟩
      | .error error =>
        attemptLoop request totalAttempts (attempt + 1) channels (some error)
          lastResponse
    { rest with contacted := attempt :: rest.contacted }

def HttpChannels.toResponse (channels : HttpChannels) (request : RequestExt) : Forwarded :=
  match channels with
  | .single channel => ⟨[0], channel.toResponse request⟩
  | .multiWithFailover channel failoverChannels =>
    match request.req.body.collect with
    | .error error => ⟨[], .error (.new error)⟩
    | .ok collected =>
      attemptLoop (request.rebuilt collected.bytes) (1 + failoverChannels.length) 0
        (channel :: failoverChannels) none none

/-! ## The failover contract -/

def RequestExt.offered (request : RequestExt) : RequestExt :=
  match request.req.body.collect with
  | .ok collected => request.rebuilt collected.bytes
  | .error _ => request

def HttpChannel.Fails (channel : HttpChannel) (request : RequestExt) : Prop :=
  ∃ error, channel.toResponse request.offered = .error error

/-- Two responses agree in status, headers and the bytes read from the body; a
body that cannot be read agrees only with one failing in the same way. -/
structure SameResponse (left right : Response Body) : Prop where
  status : left.status = right.status
  headers : left.headers = right.headers
  body : left.body.collect.map Body.Collected.bytes =
    right.body.collect.map Body.Collected.bytes

/-- A channel is contacted only after all before it failed, and the result is
that of the first channel that answered. -/
structure FailoverContract (channels : List HttpChannel) (request : RequestExt)
    (forwarded : Forwarded) : Prop where
  onlyAfterFailure : ∀ position, position + 1 ∈ forwarded.contacted →
    ∀ earlier ≤ position, ∀ channel, channels[earlier]? = some channel →
      channel.Fails request
  firstAnswer : ∀ (position : Nat) (channel : HttpChannel) (response : Response Body),
    channels[position]? = some channel →
    channel.toResponse request.offered = .ok response →
    (∀ earlier < position, ∀ other, channels[earlier]? = some other →
      other.Fails request) →
    ∃ returned, forwarded.result = .ok returned ∧ SameResponse returned response
  errorOnlyIfAllFail : ∀ error, forwarded.result = .error error →
    ∀ channel ∈ channels, channel.Fails request

/-- Nothing but the last channel answers, and an answer of the last channel can
be read. When the request itself cannot be read, no channel may answer. -/
def OnlyLastAnswers (channels : List HttpChannel) (request : RequestExt) : Prop :=
  match request.req.body.error with
  | some _ => ∀ channel ∈ channels, channel.Fails request
  | none =>
    (∀ channel ∈ channels.dropLast, channel.Fails request) ∧
    ∀ channel ∈ channels.getLast?, ∀ response,
      channel.toResponse request.offered = .ok response →
      response.body.error = none

/-! ## What the loop does -/

theorem attemptLoop_contacted (request : RequestExt) (channels : List HttpChannel)
    (lastError : Option Error) (lastResponse : Option (Response Body))
    (total : totalAttempts = attempt + channels.length) :
    (attemptLoop request totalAttempts attempt channels lastError lastResponse).contacted =
      range' attempt channels.length := by
  induction channels generalizing attempt lastError lastResponse with
  | nil => cases lastResponse <;> rfl
  | cons channel channels induction =>
    have totalRest : totalAttempts = attempt + 1 + channels.length := by
      simp only [length_cons] at total
      omega
    rw [length_cons, range'_succ]
    simp only [attemptLoop]
    cases channel.toResponse request with
    | error error => rw [induction (some error) lastResponse totalRest]
    | ok response =>
      cases channels with
      | nil =>
        have last : ¬ attempt + 1 < totalAttempts := by simp [totalRest]
        simp [last]
      | cons next channels =>
        have more : attempt + 1 < totalAttempts := by
          simp only [length_cons] at totalRest
          omega
        simp only [more, if_true]
        rw [induction lastError (some (replayable response)) totalRest]

theorem attemptLoop_result (request : RequestExt) (front : List HttpChannel) (last : HttpChannel)
    (lastError : Option Error) (total : totalAttempts = attempt + front.length + 1)
    (failed : ∀ channel ∈ front, ∃ error, channel.toResponse request = .error error) :
    (attemptLoop request totalAttempts attempt (front ++ [last]) lastError none).result =
      (last.toResponse request).map replayable := by
  induction front generalizing attempt lastError with
  | nil =>
    have noMore : ¬ attempt + 1 < totalAttempts := by
      simp only [length_nil] at total
      omega
    simp only [nil_append, attemptLoop, noMore, if_false]
    cases last.toResponse request <;> rfl
  | cons channel front induction =>
    rcases failed channel mem_cons_self with ⟨error, equal⟩
    have totalRest : totalAttempts = attempt + 1 + front.length + 1 := by
      simp only [length_cons] at total
      omega
    simp only [cons_append, attemptLoop, equal]
    exact induction (some error) totalRest fun other member =>
      failed other (mem_cons_of_mem _ member)

/-! ## When the contract holds -/

/-- A response survives being read into memory exactly if its body can be read. -/
theorem sameResponse_replayable_iff (response : Response Body) :
    SameResponse (replayable response) response ↔ response.body.error = none := by
  cases failed : response.body.error with
  | none =>
    have collected := Body.collect_of_no_error failed
    have replayed : replayable response =
        { response with body := .full response.body.bytes } := by
      simp [replayable, collected]
    refine iff_of_true ?_ rfl
    rw [replayed]
    refine ⟨rfl, rfl, ?_⟩
    rw [collected]
    rw [Body.collect_full]
    rfl
  | some error =>
    have collected := Body.collect_of_error failed
    refine iff_of_false ?_ (by simp)
    intro same
    have bodies := same.body
    have replayed : replayable response = { response with body := .full [] } := by
      simp [replayable, collected]
    rw [replayed, collected, Body.collect_full] at bodies
    cases bodies

section

variable {last : HttpChannel}

theorem fails_of_getElem? (frontFails : ∀ channel ∈ front, channel.Fails request)
    (within : position < front.length) (found : (front ++ [last])[position]? = some channel) :
    channel.Fails request := by
  rw [getElem?_append_left within] at found
  exact frontFails channel (mem_of_getElem? found)

theorem FailoverContract.frontFails
    (contract : FailoverContract (front ++ [last]) request forwarded)
    (contacted : forwarded.contacted = range' 0 (front.length + 1)) :
    ∀ channel ∈ front, channel.Fails request := by
  intro channel member
  rcases mem_iff_getElem?.mp member with ⟨position, found⟩
  have within : position < front.length := (List.getElem?_eq_some_iff.mp found).1
  refine contract.onlyAfterFailure position ?_ position (le_refl _) channel ?_
  · simp [contacted, within]
  · rw [getElem?_append_left within]
    exact found

theorem FailoverContract.lastReadable
    (contract : FailoverContract (front ++ [last]) request forwarded)
    (frontFails : ∀ channel ∈ front, channel.Fails request)
    (result : forwarded.result = (last.toResponse request.offered).map replayable)
    (answered : last.toResponse request.offered = .ok response) : response.body.error = none := by
  rcases contract.firstAnswer front.length last response (by simp) answered
    (fun _ within _ => fails_of_getElem? frontFails within) with ⟨returned, equal, same⟩
  rw [result, answered] at equal
  cases equal
  exact (sameResponse_replayable_iff response).mp same

theorem failoverContract_of_frontFails
    (contacted : forwarded.contacted = range' 0 (front.length + 1))
    (frontFails : ∀ channel ∈ front, channel.Fails request)
    (result : forwarded.result = (last.toResponse request.offered).map replayable)
    (readable : ∀ response, last.toResponse request.offered = .ok response →
      response.body.error = none) :
    FailoverContract (front ++ [last]) request forwarded where
  onlyAfterFailure := by
    intro position member earlier before channel found
    have within : earlier < front.length := by
      simp [contacted] at member
      omega
    exact fails_of_getElem? frontFails within found
  firstAnswer := by
    intro position channel response found answered _
    rcases lt_or_ge position front.length with within | beyond
    · rcases fails_of_getElem? frontFails within found with ⟨error, failed⟩
      rw [failed] at answered
      cases answered
    · rw [getElem?_append_right beyond, getElem?_singleton] at found
      split_ifs at found
      cases found
      refine ⟨replayable response, by rw [result, answered]; rfl, ?_⟩
      exact (sameResponse_replayable_iff response).mpr (readable response answered)
  errorOnlyIfAllFail := by
    intro error failed channel member
    rcases mem_append.mp member with inFront | isLast
    · exact frontFails channel inFront
    · rw [mem_singleton] at isLast
      rw [isLast]
      rw [result] at failed
      cases answer : last.toResponse request.offered with
      | error error => exact ⟨error, answer⟩
      | ok response =>
        rw [answer] at failed
        cases failed

/-- With every channel contacted, the contract asks for failures up to the last
channel and for a readable answer of the last. -/
theorem failoverContract_iff_of_contacted_all
    (contacted : forwarded.contacted = range' 0 (front.length + 1))
    (result : (∀ channel ∈ front, channel.Fails request) →
      forwarded.result = (last.toResponse request.offered).map replayable) :
    FailoverContract (front ++ [last]) request forwarded ↔
      (∀ channel ∈ front, channel.Fails request) ∧
      ∀ response, last.toResponse request.offered = .ok response → response.body.error = none := by
  constructor
  · intro contract
    have frontFails := contract.frontFails contacted
    refine ⟨frontFails, ?_⟩
    intro response answered
    exact contract.lastReadable frontFails (result frontFails) answered
  · rintro ⟨frontFails, readable⟩
    exact failoverContract_of_frontFails contacted frontFails (result frontFails) readable

end

theorem failoverContract_iff_of_unsent :
    FailoverContract channels request ⟨[], .error error⟩ ↔
      ∀ channel ∈ channels, channel.Fails request := by
  constructor
  · intro contract
    exact contract.errorOnlyIfAllFail error rfl
  · intro allFail
    refine ⟨by simp, ?_, fun _ _ => allFail⟩
    intro position channel response found answered _
    rcases allFail channel (mem_of_getElem? found) with ⟨failure, failed⟩
    rw [failed] at answered
    cases answered

/-- Failover keeps its contract exactly when only the last channel answers. -/
theorem toResponse_failoverContract_iff (channel : HttpChannel)
    (failoverChannels : List HttpChannel) (request : RequestExt) :
    FailoverContract (channel :: failoverChannels) request
        ((HttpChannels.multiWithFailover channel failoverChannels).toResponse request) ↔
      OnlyLastAnswers (channel :: failoverChannels) request := by
  cases unreadable : request.req.body.error with
  | some error =>
    simp only [HttpChannels.toResponse, Body.collect_of_error unreadable, OnlyLastAnswers,
      unreadable]
    exact failoverContract_iff_of_unsent
  | none =>
    have collected := Body.collect_of_no_error unreadable
    have offered : request.offered = request.rebuilt request.req.body.bytes := by
      simp [RequestExt.offered, collected]
    have nonempty : channel :: failoverChannels ≠ [] := by simp
    have split := dropLast_append_getLast nonempty
    have lengths : failoverChannels.length =
        (channel :: failoverChannels).dropLast.length := by simp
    simp only [HttpChannels.toResponse, collected, OnlyLastAnswers, unreadable,
      getLast?_eq_some_getLast nonempty, mem_some_iff, forall_eq']
    rw [← offered]
    conv_lhs => rw [← split]
    apply failoverContract_iff_of_contacted_all
    · rw [split, attemptLoop_contacted]
      · simp
      · simp [add_comm]
    · intro frontFails
      apply attemptLoop_result _ _ _ _ ?_ frontFails
      omega

def HttpChannel.answering (status : StatusCode) : HttpChannel where
  clusterName := "backend".toList
  upstreamAuthority := "127.0.0.1:8080".toList
  toResponse _ := .ok ⟨status, .http11, [], .empty⟩

def RequestExt.getRoot : RequestExt := ⟨.get "/".toList, ⟨none, none⟩⟩

/-- The first channel answers, yet the second is contacted as well and its
answer is the one returned. -/
theorem toResponse_contacts_after_answer :
    let forwarded := (HttpChannels.multiWithFailover (.answering 200)
      [.answering 503]).toResponse .getRoot
    forwarded.contacted = [0, 1] ∧
      forwarded.result = .ok ⟨503, .http11, [], .full []⟩ ∧
      ¬ FailoverContract [.answering 200, .answering 503] .getRoot forwarded := by
  refine ⟨rfl, rfl, ?_⟩
  intro contract
  rcases contract.onlyAfterFailure 0 (by decide) 0 (le_refl 0) (.answering 200) rfl with ⟨error, ⟨⟩⟩

end Orion.Transport
