import Orion.Clusters.Rebuild
import Orion.Xds.Exchange

/-! # The versions that are reported

On a new connection the client reports the versions of the resources it has. It changes
them before a response is decoded and after the handler has answered, while the handler
applies the resources one by one.
-/

namespace Orion.Xds

open Foundation Http Tls Clusters List Option
open ResourceUpdate hiding update

/-! ## The versions that are applied -/

def ResourceUpdate.applyTo (applied : TypeUrl → Table Text Text) :
    ResourceUpdate → TypeUrl → Table Text Text
  | .update id payload version =>
    Function.update applied payload.typeUrl ((applied payload.typeUrl).insert id version)
  | .remove id typeUrl =>
    Function.update applied typeUrl
      (DiscoveryClientState.removeTracked (applied typeUrl) [id])

def applyAll (applied : TypeUrl → Table Text Text) (updates : List ResourceUpdate) :
    TypeUrl → Table Text Text :=
  updates.foldl applyTo applied

/-- Updates that are rejected are not applied. -/
def Exchange.Output.applyTo {Limiter : Type} (applied : TypeUrl → Table Text Text) :
    Exchange.Output Limiter → TypeUrl → Table Text Text
  | .processed update (.ok ()) => update.applyTo applied
  | _ => applied

/-- The versions of the resources that the handler has applied and not removed since. -/
def appliedVersions {Limiter : Type} (outputs : List (Exchange.Output Limiter)) :
    TypeUrl → Table Text Text :=
  outputs.foldl Exchange.Output.applyTo fun _ => Table.empty

section

variable {Limiter : Type} (outputs : List (Exchange.Output Limiter))

theorem appliedVersions_requests (requests : List DeltaDiscoveryRequest) :
    appliedVersions (outputs ++ requests.map .request) = appliedVersions outputs := by
  rw [appliedVersions, foldl_append, foldl_map]
  exact foldl_fixed requests

theorem appliedVersions_processed (actions : List (Action Limiter)) (update : ResourceUpdate) :
    appliedVersions (outputs ++ (actions.map .action ++ [.processed update (.ok ())])) =
      update.applyTo (appliedVersions outputs) := by
  rw [appliedVersions, foldl_append, foldl_append, foldl_map]
  change update.applyTo (actions.foldl (fun applied _ => applied) (appliedVersions outputs)) = _
  rw [foldl_fixed]

end

/-! ## The versions of a response -/

namespace DiscoveryClientState

theorem insertVersions_get_congr {tracked : Table Text Text} {id : Text}
    (same : tracked id = other id) (versions : List (Text × Text)) :
    insertVersions tracked versions id = insertVersions other versions id := by
  induction versions generalizing tracked other with
  | nil => exact same
  | cons entry rest induction =>
    apply induction
    simp only [Table.insert, same]

theorem insertVersions_append (tracked : Table Text Text) (versions : List (Text × Text))
    (id version : Text) :
    insertVersions tracked (versions ++ [(id, version)]) =
      (insertVersions tracked versions).insert id version :=
  foldl_append

theorem insertVersions_filter_get {id : Text} (different : other ≠ id)
    (tracked : Table Text Text) (versions : List (Text × Text)) :
    insertVersions tracked (versions.filter fun entry => entry.1 ≠ id) other =
      insertVersions tracked versions other := by
  induction versions generalizing tracked with
  | nil => rfl
  | cons entry rest induction =>
    by_cases same : entry.1 = id
    · rw [filter_cons_of_neg (by simpa using same), induction]
      apply insertVersions_get_congr
      exact (if_neg fun equal => different (equal.trans same)).symm
    · rw [filter_cons_of_pos (by simpa using same)]
      exact induction _

theorem removeTracked_insertVersions (tracked : Table Text Text)
    (apart : ∀ entry ∈ versions, entry.1 ∉ ids) :
    removeTracked (insertVersions tracked versions) ids =
      insertVersions (removeTracked tracked ids) versions := by
  induction versions generalizing tracked with
  | nil => rfl
  | cons entry rest induction =>
    have kept := apart entry mem_cons_self
    change removeTracked (insertVersions (tracked.insert entry.1 entry.2) rest) ids =
      insertVersions ((removeTracked tracked ids).insert entry.1 entry.2) rest
    rw [induction _ fun other member => apart other (mem_cons_of_mem _ member)]
    congr 1
    funext id
    by_cases same : id = entry.1
    · subst same
      simp [removeTracked, Table.insert, kept]
    · simp [removeTracked, Table.insert, same]

end DiscoveryClientState

open DiscoveryClientState (insertVersions removeTracked insertVersions_append
  insertVersions_filter_get removeTracked_insertVersions)

def ResourceUpdate.version? : ResourceUpdate → Option (Text × Text)
  | .update id _ version => some (id, version)
  | .remove _ _ => none

theorem insertVersions_extractUpdateVersions (tracked : Table Text Text)
    (updates : List ResourceUpdate) :
    insertVersions tracked (extractUpdateVersions updates) =
      insertVersions tracked (updates.filterMap version?) := by
  induction updates using reverseRecOn with
  | nil => rfl
  | append_singleton updates update induction =>
    rw [extractUpdateVersions, foldl_append, filterMap_append]
    cases update with
    | remove id typeUrl =>
      change insertVersions tracked (extractUpdateVersions updates) =
        insertVersions tracked (updates.filterMap version? ++ [])
      rw [append_nil, induction]
    | update id payload version =>
      change insertVersions tracked ((extractUpdateVersions updates).filter
          (fun entry => entry.1 ≠ id) ++ [(id, version)]) =
        insertVersions tracked (updates.filterMap version? ++ [(id, version)])
      rw [insertVersions_append, insertVersions_append, ← induction]
      funext other
      by_cases same : other = id
      · simp [Table.insert, same]
      · simp only [Table.insert, if_neg same]
        exact insertVersions_filter_get same tracked _

/-- The updates are all for resources of one type. -/
def AllUpdates (typeUrl : TypeUrl) (updates : List ResourceUpdate) : Prop :=
  ∀ update ∈ updates, ∃ id payload version,
    update = .update id payload version ∧ payload.typeUrl = typeUrl

theorem applyAll_updates (all : AllUpdates typeUrl updates) (applied : TypeUrl → Table Text Text) :
    applyAll applied updates = Function.update applied typeUrl
      (insertVersions (applied typeUrl) (updates.filterMap version?)) := by
  induction updates generalizing applied with
  | nil => exact (Function.update_eq_self typeUrl applied).symm
  | cons update rest induction =>
    rcases all update mem_cons_self with ⟨id, payload, version, rfl, rfl⟩
    have later := induction (fun other member => all other (mem_cons_of_mem _ member))
      (applyTo applied (.update id payload version))
    rw [applyAll, foldl_cons]
    rw [applyAll] at later
    rw [later]
    simp only [applyTo, Function.update_self, Function.update_idem]
    rfl

theorem applyAll_removals (typeUrl : TypeUrl) (ids : List Text)
    (applied : TypeUrl → Table Text Text) :
    applyAll applied (ids.map fun id => .remove id typeUrl) =
      Function.update applied typeUrl (removeTracked (applied typeUrl) ids) := by
  induction ids generalizing applied with
  | nil => exact (Function.update_eq_self typeUrl applied).symm
  | cons id rest induction =>
    have later := induction (applyTo applied (.remove id typeUrl))
    rw [applyAll, map_cons, foldl_cons]
    rw [applyAll] at later
    rw [later]
    simp only [applyTo, Function.update_idem]
    congr 1
    funext other
    by_cases same : other = id <;> simp [removeTracked, same]

section

variable [XdsCrates]

theorem decodeResponse_updates (decoded : decodeResponse response typeUrl = .ok updates) :
    updates = response.resources.filterMap fun resource =>
      (decodeUpdate typeUrl resource).toOption := by
  rw [decodeResponse] at decoded
  split_ifs at decoded
  cases decoded
  rfl

theorem decodeUpdate_eq_ok (decoded : decodeUpdate typeUrl resource = .ok update) :
    ∃ payload, update = .update resource.name payload resource.version ∧
      payload.typeUrl = typeUrl := by
  rcases map_eq_ok_iff.mp decoded with ⟨payload, found, rfl⟩
  exact ⟨payload, rfl, ResourcePayload.tryFrom_typeUrl found⟩

/-- What the client tracks once a response is accepted, is what the handler has applied
by then. -/
theorem insertVersions_eq_applyAll (applied : TypeUrl → Table Text Text)
    (decoded : decodeResponse response typeUrl = .ok updates)
    (apart : ∀ resource ∈ response.resources, resource.name ∉ response.removedResources) :
    Function.update applied typeUrl (insertVersions
        (removeTracked (applied typeUrl) response.removedResources)
        (extractUpdateVersions updates)) =
      applyAll applied (batchedUpdates response typeUrl updates) := by
  have each : ∀ update ∈ updates, ∃ resource ∈ response.resources, ∃ payload,
      update = .update resource.name payload resource.version ∧ payload.typeUrl = typeUrl := by
    intro update member
    rw [decodeResponse_updates decoded] at member
    rcases mem_filterMap.mp member with ⟨resource, known, found⟩
    exact ⟨resource, known, decodeUpdate_eq_ok (toOption_eq_some_iff.mp found)⟩
  have all : AllUpdates typeUrl updates := by
    intro update member
    rcases each update member with ⟨resource, _, payload, same, typed⟩
    exact ⟨_, payload, _, same, typed⟩
  rw [batchedUpdates, applyAll, foldl_append]
  change _ = applyAll (applyAll applied updates) _
  rw [applyAll_updates all, applyAll_removals, Function.update_self, Function.update_idem,
    removeTracked_insertVersions, insertVersions_extractUpdateVersions]
  intro entry member
  rcases mem_filterMap.mp member with ⟨update, known, version⟩
  rcases each update known with ⟨resource, listed, payload, rfl, _⟩
  cases version
  exact apart resource listed

end

/-! ## What is tracked on the way -/

namespace Exchange

variable {Limiter : Type}

/-- What the client tracks once a batch is accepted. -/
def concluded (self : Exchange Limiter) (pending : PendingBatch) : TypeUrl → Table Text Text :=
  (self.client.conclude pending (.answered [])).1.tracked

/-- The updates of the only batch under way that are still to be applied. -/
inductive Remaining (exchange : Exchange Limiter) (number : Nat) : List ResourceUpdate → Prop
  | queued {updates} (idle : exchange.phase = .idle)
      (queued : exchange.resources = [⟨number, updates⟩]) : Remaining exchange number updates
  | busy {remaining} (busy : exchange.phase = .busy number remaining [])
      (empty : exchange.resources = []) : Remaining exchange number remaining
  | subscribing {update processed toSend remaining}
      (subscribing : exchange.phase = .subscribing number update processed toSend remaining [])
      (empty : exchange.resources = []) : Remaining exchange number (update :: remaining)

structure Quiet (exchange : Exchange Limiter) : Prop where
  idle : exchange.phase = .idle
  empty : exchange.resources = []

/-- How the tracked versions relate to those that are applied. -/
inductive Tracks (applied : TypeUrl → Table Text Text) (exchange : Exchange Limiter) : Prop
  | idle (idle : exchange.worker = .idle) (quiet : exchange.Quiet)
      (same : exchange.client.tracked = applied)
  | sending {pending updates} (sending : exchange.worker = .sending pending updates)
      (quiet : exchange.Quiet) (same : exchange.concluded pending = applyAll applied updates)
  | waiting {pending number remaining}
      (waiting : exchange.worker = .waiting pending number none)
      (still : exchange.Remaining number remaining)
      (same : exchange.concluded pending = applyAll applied remaining)
  | answered {pending number}
      (waiting : exchange.worker = .waiting pending number (some (.answered [])))
      (quiet : exchange.Quiet) (same : exchange.concluded pending = applied)

theorem removeTracked_of_untracked (untracked : ∀ id ∈ ids, tracked id = none) :
    DiscoveryClientState.removeTracked tracked ids = tracked := by
  funext id
  by_cases removed : id ∈ ids
  · rw [DiscoveryClientState.removeTracked, if_pos removed, untracked id removed]
  · exact if_neg removed

section

variable [XdsCrates]

/-- Responses that cannot be decoded remove nothing that is tracked, no resource is both
updated and removed, the handler accepts every update, and answers before the timeout. -/
def Accepted (self : Exchange Limiter) : Event → Prop
  | .response response => ∀ typeUrl, TypeUrl.tryFrom response.typeUrl = some typeUrl →
      match decodeResponse response typeUrl with
      | .error _ => ∀ id ∈ response.removedResources, self.client.tracked typeUrl id = none
      | .ok _ => ∀ resource ∈ response.resources,
          resource.name ∉ response.removedResources
  | .timeout => False
  | .apply => ∀ number update processed toSend remaining rejected,
      self.phase = .subscribing number update processed toSend remaining rejected →
        processed.result = .ok ()
  | _ => True

variable {self : Exchange Limiter}

theorem tracks_receiveResponse (idle : self.worker = .idle) (quiet : self.Quiet)
    (accepted : self.Accepted (.response response)) :
    Tracks self.client.tracked (self.receiveResponse response).1 := by
  unfold receiveResponse
  cases known : TypeUrl.tryFrom response.typeUrl with
  | none =>
    have received : self.client.receive response = (self.client, .unknownType) := by
      rw [DiscoveryClientState.receive, known]
    rw [received]
    exact .idle idle ⟨quiet.idle, quiet.empty⟩ rfl
  | some typeUrl =>
    have condition := accepted typeUrl known
    cases decoded : decodeResponse response typeUrl with
    | error errors =>
      rw [decoded] at condition
      rw [DiscoveryClientState.receive_of_error _ known decoded]
      refine .idle idle ⟨quiet.idle, quiet.empty⟩ ?_
      change Function.update self.client.tracked typeUrl
        (DiscoveryClientState.removeTracked (self.client.tracked typeUrl)
          response.removedResources) = _
      rw [removeTracked_of_untracked condition, Function.update_eq_self]
    | ok updates =>
      rw [decoded] at condition
      rw [DiscoveryClientState.receive_of_ok _ known decoded]
      refine .sending rfl ⟨quiet.idle, quiet.empty⟩ ?_
      rw [← insertVersions_eq_applyAll _ decoded condition]
      change Function.update (Function.update self.client.tracked typeUrl _) typeUrl _ = _
      rw [Function.update_idem]
      congr 2
      exact Function.update_self _ _ _

variable [TlsPlatform] [HttpCrate] [ChannelCrates] [BalancerCrates] [HashMapOrder]
  {next : Exchange Limiter}

theorem Tracks.stepHandler (waiting : self.worker = .waiting pending number none)
    (still : self.Remaining number remaining)
    (same : self.concluded pending = applyAll (appliedVersions before) remaining)
    (accepted : self.Accepted event) (moves : Moves newLimiter profile self event next outputs) :
    Tracks (appliedVersions (before ++ outputs)) next := by
  cases moves with
  | response idle => cases waiting.symm.trans idle
  | sendFailed sending | sendBatch sending => cases waiting.symm.trans sending
  | receiveAnswer answered => cases waiting.symm.trans answered
  | timeout => cases accepted
  | processSubscription idle | reconnect idle => cases waiting.symm.trans idle
  | takeBatch idle queued =>
    cases still with
    | queued _ only =>
      cases queued.symm.trans only
      rw [append_nil]
      exact .waiting waiting (.busy rfl rfl) same
    | busy busy => cases idle.symm.trans busy
    | subscribing subscribing => cases idle.symm.trans subscribing
  | takeUpdate taking =>
    cases still with
    | queued idle => cases taking.symm.trans idle
    | busy busy empty =>
      cases taking.symm.trans busy
      rw [append_nil]
      exact .waiting waiting (.subscribing rfl empty) same
    | subscribing subscribing => cases taking.symm.trans subscribing
  | sendSubscription sends =>
    cases still with
    | queued idle => cases sends.symm.trans idle
    | busy busy => cases sends.symm.trans busy
    | subscribing subscribing empty =>
      cases sends.symm.trans subscribing
      rw [append_nil]
      exact .waiting waiting (.subscribing rfl empty) same
  | apply applies =>
    cases still with
    | queued idle => cases applies.symm.trans idle
    | busy busy => cases applies.symm.trans busy
    | subscribing subscribing empty =>
      cases applies.symm.trans subscribing
      have ok := accepted _ _ _ _ _ _ applies
      rw [ok, appliedVersions_processed]
      simp only [applyUpdate, ok]
      exact .waiting waiting (.busy rfl empty) same
  | answer answers =>
    cases still with
    | queued idle => cases answers.symm.trans idle
    | busy busy empty =>
      cases answers.symm.trans busy
      have delivered : self.worker.deliver number (.answered []) =
          .waiting pending number (some (.answered [])) := by
        simp [waiting, WorkerPhase.deliver]
      rw [append_nil]
      exact .answered delivered ⟨rfl, empty⟩ same
    | subscribing subscribing => cases answers.symm.trans subscribing

theorem Quiet.worker_step (quiet : self.Quiet)
    (taken : self.step newLimiter profile event = some (next, outputs)) :
    self.stepWorker event = some (next, outputs) := by
  cases event with
  | response | sendBatch | receiveAnswer | timeout | processSubscription | reconnect =>
    exact taken
  | takeBatch | takeUpdate | sendSubscription | apply | answer =>
    simp [step, stepHandler, quiet.idle, quiet.empty] at taken

theorem Tracks.step (tracks : Tracks (appliedVersions before) self) (accepted : self.Accepted event)
    (taken : self.step newLimiter profile event = some (next, outputs)) :
    Tracks (appliedVersions (before ++ outputs)) next := by
  cases tracks with
  | waiting waiting still same =>
    exact stepHandler waiting still same accepted (moves_of_step taken)
  | idle idle quiet same =>
    have worked := quiet.worker_step taken
    cases event with
    | response response =>
      simp only [stepWorker, idle, some.injEq] at worked
      have tracks := tracks_receiveResponse idle quiet accepted
      rcases self.receiveResponse_eq response with ⟨_, requests, received⟩
      rw [worked] at tracks
      cases worked.symm.trans received
      rw [appliedVersions_requests, ← same]
      exact tracks
    | processSubscription =>
      simp only [stepWorker, idle] at worked
      split at worked
      · cases worked
        rw [appliedVersions_requests]
        exact .idle rfl ⟨quiet.idle, quiet.empty⟩
          ((self.client.processSubscriptionEvent_tracked _).trans same)
      · cases worked
    | reconnect =>
      simp only [stepWorker, idle] at worked
      cases worked
      rw [appliedVersions_requests]
      exact .idle idle quiet same
    | sendBatch | receiveAnswer | timeout | takeBatch | takeUpdate | sendSubscription
    | apply | answer => simp [stepWorker, idle] at worked
  | sending sending quiet same =>
    have worked := quiet.worker_step taken
    cases event with
    | sendBatch =>
      simp only [stepWorker, sending, quiet.idle, quiet.empty] at worked
      cases worked
      rw [append_nil]
      exact .waiting rfl (.queued rfl rfl) same
    | response | receiveAnswer | timeout | processSubscription | reconnect | takeBatch
    | takeUpdate | sendSubscription | apply | answer => simp [stepWorker, sending] at worked
  | answered waiting quiet same =>
    have worked := quiet.worker_step taken
    cases event with
    | receiveAnswer =>
      simp only [stepWorker, waiting] at worked
      cases worked
      rw [appliedVersions_requests]
      exact .idle rfl ⟨quiet.idle, quiet.empty⟩ same
    | timeout => cases accepted
    | response | sendBatch | processSubscription | reconnect | takeBatch | takeUpdate
    | sendSubscription | apply | answer => simp [stepWorker, waiting] at worked

/-- In every run whose steps are all as above, the versions reported between two responses
are those that the handler has applied. -/
theorem reports_applied_versions {handler : ConfigurationHandler} {events : List Event}
    {outputs : List (Output Limiter)} {self : Exchange Limiter}
    (run : (machine newLimiter profile).Run Accepted (.start handler) events outputs self)
    (between : self.worker = .idle) :
    ∀ request ∈ self.client.buildInitialDiscoveryRequests,
      request.initialResourceVersions = appliedVersions outputs request.typeUrl := by
  have tracks : Tracks (appliedVersions outputs) self := by
    refine run.invariant (fun _ outputs self => Tracks (appliedVersions outputs) self)
      (.idle rfl ⟨rfl, rfl⟩ rfl) ?_
    intro events outputs state event next emitted tracks accepted taken
    exact tracks.step accepted taken
  intro request member
  rcases mem_map.mp member with ⟨typeUrl, _, rfl⟩
  cases tracks with
  | idle _ _ same => rw [← same]
  | sending sending => cases between.symm.trans sending
  | waiting waiting | answered waiting => cases between.symm.trans waiting

end

/-! ## A route configuration that takes too long -/

/-- The events of a batch with one update, up to the answer. -/
def oneUpdate (response : DeltaDiscoveryResponse) : List Event :=
  [.response response, .sendBatch, .takeBatch, .takeUpdate, .apply, .answer]

attribute [local instance] TlsPlatform.withoutFiles AsciiChannel.httpCrate ChannelCrates.ascii
  BalancerCrates.simple HashMapOrder.insertion XdsCrates.plain

theorem reports_processed_routes :
    ∃ (outputs : List (Output Unit)) (self : Exchange Unit),
      (machine (fun _ => ()) ⟨true⟩).Run Accepted (.start ⟨.empty, .empty⟩)
        (oneUpdate routeResponse ++ [.receiveAnswer]) outputs self ∧
      appliedVersions outputs .routeConfiguration "routes".toList = some "1".toList ∧
      ∀ request ∈ self.client.buildInitialDiscoveryRequests,
        request.initialResourceVersions = appliedVersions outputs request.typeUrl := by
  have accepted : (machine (fun _ => ()) ⟨true⟩).AllAllowed Accepted
      (.start ⟨.empty, .empty⟩) (oneUpdate routeResponse ++ [.receiveAnswer]) := by
    refine ⟨?_, trivial, trivial, trivial, ?_, trivial, trivial, trivial⟩
    · intro typeUrl known
      have same : typeUrl = .routeConfiguration := by
        have found : TypeUrl.tryFrom routeResponse.typeUrl = some .routeConfiguration := by decide
        exact (some.inj known).symm
      subst same
      exact fun _ _ => not_mem_nil
    · intro number update processed toSend remaining rejected subscribing
      cases subscribing
      rfl
  have run : (machine (fun _ => ()) ⟨true⟩).Run Accepted _ _ _ _ :=
    Machine.Run.of_execute rfl accepted
  exact ⟨_, _, run, rfl, reports_applied_versions run rfl⟩

/-- After a timeout, a route configuration that was applied is not reported. -/
theorem late_routes_not_reported :
    ∃ (outputs : List (Output Unit)) (self : Exchange Unit),
      (machine (fun _ => ()) ⟨true⟩).Run Machine.anyStep (.start ⟨.empty, .empty⟩)
        (oneUpdate routeResponse ++ [.timeout]) outputs self ∧
      self.worker = .idle ∧
      appliedVersions outputs .routeConfiguration "routes".toList = some "1".toList ∧
      self.client.tracked .routeConfiguration "routes".toList = none := by
  exact ⟨_, _, Machine.Run.any_of_execute rfl, rfl, rfl, rfl⟩

end Exchange

end Orion.Xds
