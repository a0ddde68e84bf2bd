import Orion.Xds.Handler
import Orion.Clusters.Rebuild

/-! # Answers to the server

Every response is to be answered by one request with its nonce, which carries an error
exactly if some resource was not accepted. The worker does not wait for the handler
beyond a timeout, and it does not answer at all when the handler fails.
-/

namespace Orion.Xds

open Foundation Http Tls Clusters DiscoveryClientState List

/-! ## Decoding -/

section

variable [XdsCrates]

def Undecodable (response : DeltaDiscoveryResponse) (typeUrl : TypeUrl) : Prop :=
  ∃ resource ∈ response.resources, ∃ error, decodeUpdate typeUrl resource = .error error

theorem decodeResponse_error_iff : (∃ errors, decodeResponse response typeUrl = .error errors) ↔
      Undecodable response typeUrl := by
  rw [decodeResponse]
  split_ifs with none
  · rw [filterMap_eq_nil_iff] at none
    constructor
    · rintro ⟨_, returned⟩
      cases returned
    · rintro ⟨resource, member, error, failed⟩
      have accepted := none resource member
      rw [failed] at accepted
      cases accepted
  · constructor
    · intro _
      rcases exists_mem_of_ne_nil _ none with ⟨rejected, member⟩
      rcases mem_filterMap.mp member with ⟨resource, member, failed⟩
      split at failed
      · exact ⟨resource, member, _, by assumption⟩
      · cases failed
    · intro _
      exact ⟨_, rfl⟩

end

/-! ## The race with the timeout -/

/-- When the handler is done with a batch, in nanoseconds; never, if `none`. Of two events
at the same time, either may be taken first. -/
structure Timing where
  done : Option Nat
  handlerFirst : Bool

def Timing.inTime (timing : Timing) : Bool :=
  match timing.done with
  | none => false
  | some time => time < ackTimeout || (time = ackTimeout && timing.handlerFirst)

/-- A handler that panics drops the channel for its answer. -/
def BatchResult.acknowledgement {Limiter : Type} (result : BatchResult Limiter)
    (timing : Timing) : Acknowledgement :=
  if timing.inTime then
    if result.panicked then .dropped else .answered result.rejected
  else
    .timedOut

/-- One request is sent, with the nonce, and with an error exactly if there is a fault. -/
def AnsweredTruthfully (nonce : Text) (fault : Prop)
    (requests : List DeltaDiscoveryRequest) : Prop :=
  ∃ request, requests = [request] ∧ request.responseNonce = nonce ∧
    (request.errorDetail.isSome ↔ fault)

theorem conclude_answeredTruthfully_iff (state : DiscoveryClientState)
    (batch : PendingBatch) (result : BatchResult Limiter) (timing : Timing) :
    AnsweredTruthfully batch.nonce (result.rejected ≠ [])
        (state.conclude batch (result.acknowledgement timing)).2 ↔
      if timing.inTime then result.panicked = false else result.rejected ≠ [] := by
  rw [BatchResult.acknowledgement]
  split_ifs with inTime panicked
  · simp [conclude, AnsweredTruthfully, panicked]
  · cases result.rejected with
    | nil => simp [conclude, AnsweredTruthfully, panicked]
    | cons first rest =>
      simp [conclude, AnsweredTruthfully, nack, panicked]
  · simp [conclude, AnsweredTruthfully]

section

variable {Limiter : Type} [TlsPlatform] [HttpCrate] [ChannelCrates] [BalancerCrates]
  [HashMapOrder] [XdsCrates] (newLimiter : Configuration.LocalRateLimit → Limiter)
  (profile : BuildProfile)

section

variable (handler : ConfigurationHandler) (response : DeltaDiscoveryResponse) (typeUrl : TypeUrl)

def ConfigurationHandler.result? : Option (BatchResult Limiter) :=
  (decodeResponse response typeUrl).toOption.map fun updates =>
    handler.processUpdates newLimiter profile (batchedUpdates response typeUrl updates)

/-- Some resource of a response cannot be decoded or is rejected. -/
def ConfigurationHandler.FindsFault : Prop :=
  Undecodable response typeUrl ∨
    ∃ result, handler.result? newLimiter profile response typeUrl = some result ∧
      result.rejected ≠ []

end

def ConfigurationHandler.acknowledge (handler : ConfigurationHandler) (timing : Timing)
    (updates : List ResourceUpdate) : Acknowledgement :=
  (handler.processUpdates newLimiter profile updates).acknowledgement timing

variable {newLimiter profile} {response : DeltaDiscoveryResponse} {typeUrl : TypeUrl}

/-- A response is answered once and truthfully exactly if it cannot be decoded, or the
handler answers in time, or is late and rejects some resource. -/
theorem answeredTruthfully_iff (state : DiscoveryClientState) (handler : ConfigurationHandler)
    (timing : Timing) (known : TypeUrl.tryFrom response.typeUrl = some typeUrl) :
    ∃ next requests,
      state.processDiscoveryResponse response
        (handler.acknowledge newLimiter profile timing) = some (next, requests) ∧
      (AnsweredTruthfully response.nonce
          (handler.FindsFault newLimiter profile response typeUrl) requests ↔
        ∀ result, handler.result? newLimiter profile response typeUrl = some result →
          if timing.inTime then result.panicked = false else result.rejected ≠ []) := by
  cases decoded : decodeResponse response typeUrl with
  | error errors =>
    have undecodable := decodeResponse_error_iff.mp ⟨errors, decoded⟩
    refine ⟨_, _, state.processDiscoveryResponse_of_error _ known decoded, ?_⟩
    constructor
    · intro _ result found
      simp [ConfigurationHandler.result?, decoded, Except.toOption] at found
    · intro _
      exact ⟨_, rfl, rfl, fun _ => .inl undecodable, fun _ => rfl⟩
  | ok updates =>
    have decodable : ¬ Undecodable response typeUrl := by
      intro undecodable
      rcases decodeResponse_error_iff.mpr undecodable with ⟨errors, failed⟩
      rw [decoded] at failed
      cases failed
    have found : handler.result? newLimiter profile response typeUrl = some
        (handler.processUpdates newLimiter profile (batchedUpdates response typeUrl updates)) := by
      rw [ConfigurationHandler.result?, decoded]
      rfl
    have fault : handler.FindsFault newLimiter profile response typeUrl ↔
        (handler.processUpdates newLimiter profile
          (batchedUpdates response typeUrl updates)).rejected ≠ [] := by
      simp [ConfigurationHandler.FindsFault, decodable, found]
    refine ⟨_, _, state.processDiscoveryResponse_of_ok _ known decoded, ?_⟩
    rw [fault, found]
    simp only [Option.some.injEq, forall_eq']
    exact conclude_answeredTruthfully_iff _
      ⟨typeUrl, response.nonce, extractUpdateVersions updates⟩ _ timing

end

/-! ## A route configuration -/

attribute [local instance] TlsPlatform.withoutFiles AsciiChannel.httpCrate ChannelCrates.ascii
  BalancerCrates.simple HashMapOrder.insertion XdsCrates.plain

/-- A route configuration that is processed in time is accepted truthfully. -/
theorem route_answered_in_time :
    let handler : ConfigurationHandler := ⟨.empty, .empty⟩
    let timing : Timing := ⟨some 1, true⟩
    ∃ next requests,
      new.processDiscoveryResponse routeResponse
        (handler.acknowledge (fun _ => ()) ⟨true⟩ timing) = some (next, requests) ∧
      AnsweredTruthfully "nonce".toList
        (handler.FindsFault (fun _ => ()) ⟨true⟩ routeResponse .routeConfiguration)
        requests := by
  let platform := TlsPlatform.withoutFiles
  let http := AsciiChannel.httpCrate
  let channels := ChannelCrates.ascii
  let balancers := BalancerCrates.simple
  let order := HashMapOrder.insertion
  let crates := XdsCrates.plain
  have known : TypeUrl.tryFrom routeResponse.typeUrl = some .routeConfiguration := by decide
  rcases @answeredTruthfully_iff _ platform http channels balancers order crates
    (fun _ => ()) ⟨true⟩ _ _ new ⟨.empty, .empty⟩ ⟨some 1, true⟩ known
    with ⟨next, requests, handled, truthful⟩
  refine ⟨next, requests, handled, truthful.mpr ?_⟩
  intro result found
  cases found
  rfl

/-- A route configuration that is processed too late is answered with an error, although
it is accepted. -/
theorem late_route_answered_with_error :
    let handler : ConfigurationHandler := ⟨.empty, .empty⟩
    let timing : Timing := ⟨some (ackTimeout + 1), true⟩
    ∃ next request,
      new.processDiscoveryResponse routeResponse
        (handler.acknowledge (fun _ => ()) ⟨true⟩ timing) = some (next, [request]) ∧
      request.errorDetail.isSome ∧
      ¬ handler.FindsFault (fun _ => ()) ⟨true⟩ routeResponse .routeConfiguration := by
  refine ⟨_, _, rfl, rfl, ?_⟩
  rintro (⟨resource, member, error, failed⟩ | ⟨result, found, rejected⟩)
  · cases mem_singleton.mp member
    cases failed
  · cases found
    exact rejected rfl

end Orion.Xds
