import Orion.Clusters.Cluster
import Orion.Listeners.Listener

/-! # The discovery client

The worker that talks to the server. It passes what the server sends on to the
configuration handler, and waits for the handler before it answers.
-/

namespace Orion.Xds

open Foundation Http Orion.Configuration Tls Listeners Clusters

/-! ## Resources of the discovery service

What the server sends, what it means once decoded, and what is sent back.
-/

inductive TypeUrl where
  | listener
  | cluster
  | routeConfiguration
  | clusterLoadAssignment
  | secret
  deriving DecidableEq

namespace TypeUrl

def text : TypeUrl → Text
  | .listener => "type.googleapis.com/envoy.config.listener.v3.Listener".toList
  | .cluster => "type.googleapis.com/envoy.config.cluster.v3.Cluster".toList
  | .routeConfiguration =>
    "type.googleapis.com/envoy.config.route.v3.RouteConfiguration".toList
  | .clusterLoadAssignment =>
    "type.googleapis.com/envoy.config.endpoint.v3.ClusterLoadAssignment".toList
  | .secret => "type.googleapis.com/envoy.extensions.transport_sockets.tls.v3.Secret".toList

def tryFrom (text : Text) : Option TypeUrl :=
  [.listener, .cluster, .routeConfiguration, .clusterLoadAssignment, .secret].find?
    fun typeUrl => typeUrl.text = text

example : ∀ typeUrl : TypeUrl, tryFrom typeUrl.text = some typeUrl := by
  intro typeUrl
  cases typeUrl <;> decide

end TypeUrl

/-! ## Resources -/

inductive ResourcePayload where
  | listener (id : Text) (listener : ListenerConfig)
  | cluster (id : Text) (cluster : ClusterConfig)
  | endpoints (id : Text) (cla : ClusterLoadAssignmentConfig)
  | routeConfiguration (id : Text) (route : RouteConfiguration)
  | secret (id : Text) (secret : Secret)

def ResourcePayload.typeUrl : ResourcePayload → TypeUrl
  | .listener _ _ => .listener
  | .cluster _ _ => .cluster
  | .endpoints _ _ => .clusterLoadAssignment
  | .routeConfiguration _ _ => .routeConfiguration
  | .secret _ _ => .secret

inductive ResourceUpdate where
  | update (id : Text) (payload : ResourcePayload) (version : Text)
  | remove (id : Text) (typeUrl : TypeUrl)

def ResourceUpdate.id : ResourceUpdate → Text
  | .update id _ _ | .remove id _ => id

/-- Why the configuration handler did not accept an update. -/
inductive UpdateError where
  | listener (error : ListenerError)
  | invalidTls
  | build (error : BuildError)
  | change (error : ChangeError)
  | invalidSecret
  | message (text : Text)
  deriving DecidableEq

/-- The decoding of resources, with the texts of its errors, and the texts of errors
that come from other crates. -/
class XdsCrates where
  decodeListener : Bytes → Except Text ListenerConfig
  decodeCluster : Bytes → Except Text ClusterConfig
  decodeEndpoints : Bytes → Except Text ClusterLoadAssignmentConfig
  decodeRoute : Bytes → Except Text RouteConfiguration
  decodeSecret : Bytes → Except Text Secret
  errorText : UpdateError → Text

/-- A decoding for examples: the bytes of a cluster are its name, a listener discovers its
routes under one name for each byte, and every route configuration is empty. -/
@[reducible] def XdsCrates.plain : XdsCrates where
  decodeListener bytes := .ok ⟨"listener".toList, .internal, bytes.map fun byte =>
    ({ serverNames := [⟨[Char.ofNat byte.toNat], false⟩] },
      ⟨[], none, .http ⟨.rds [Char.ofNat byte.toNat], []⟩⟩), true⟩
  decodeCluster bytes := .ok
    { name := bytes.map fun byte => Char.ofNat byte.toNat
      discoverySettings := .eds none }
  decodeEndpoints _ := .error "Decode".toList
  decodeRoute _ := .ok ⟨[], []⟩
  decodeSecret _ := .error "Decode".toList
  errorText _ := []

structure Resource where
  name : Text
  version : Text
  resource : Option Bytes
  deriving DecidableEq

def ResourcePayload.tryFrom [XdsCrates] (resource : Resource) (typeUrl : TypeUrl) :
    Except Text ResourcePayload :=
  match resource.resource with
  | none => .error "MissingResource".toList
  | some bytes =>
    match typeUrl with
    | .listener => (XdsCrates.decodeListener bytes).map (.listener resource.name)
    | .cluster => (XdsCrates.decodeCluster bytes).map (.cluster resource.name)
    | .routeConfiguration =>
      (XdsCrates.decodeRoute bytes).map (.routeConfiguration resource.name)
    | .clusterLoadAssignment =>
      (XdsCrates.decodeEndpoints bytes).map (.endpoints resource.name)
    | .secret => (XdsCrates.decodeSecret bytes).map (.secret resource.name)

theorem ResourcePayload.tryFrom_typeUrl [XdsCrates] {typeUrl : TypeUrl}
    (decoded : ResourcePayload.tryFrom resource typeUrl = .ok payload) :
    payload.typeUrl = typeUrl := by
  unfold ResourcePayload.tryFrom at decoded
  split at decoded
  · cases decoded
  · cases typeUrl <;> rcases map_eq_ok_iff.mp decoded with ⟨_, _, rfl⟩ <;> rfl

structure RejectedConfig where
  name : Text
  reason : Text
  deriving DecidableEq

def RejectedConfig.text (self : RejectedConfig) : Text :=
  self.name ++ ": ".toList ++ self.reason

/-! ## Messages -/

structure DeltaDiscoveryResponse where
  typeUrl : Text
  nonce : Text
  resources : List Resource
  removedResources : List Text
  deriving DecidableEq

inductive StatusCode where
  | unknown
  | invalidArgument
  deriving DecidableEq

structure Status where
  code : StatusCode
  message : Text
  deriving DecidableEq

/-- The sets of names are lists on the wire, in any order. -/
structure DeltaDiscoveryRequest where
  typeUrl : TypeUrl
  responseNonce : Text := []
  resourceNamesSubscribe : Finset Text := ∅
  resourceNamesUnsubscribe : Finset Text := ∅
  initialResourceVersions : Table Text Text := Table.empty
  errorDetail : Option Status := none

inductive SubscriptionEvent where
  | subscribe (typeUrl : TypeUrl) (id : Text)
  | unsubscribe (typeUrl : TypeUrl) (id : Text)
  deriving DecidableEq

/-- The versions of the resources the client has, and the names it asks for. A type
without an entry has none. -/
structure DiscoveryClientState where
  tracked : TypeUrl → Table Text Text
  subscriptions : TypeUrl → Finset Text

structure PendingBatch where
  typeUrl : TypeUrl
  nonce : Text
  updateVersions : List (Text × Text)
  deriving DecidableEq

inductive Acknowledgement where
  | answered (rejected : List RejectedConfig)
  | dropped
  | timedOut
  deriving DecidableEq

def ackTimeout : Nat := 20 * 1000000000

/-- The capacity of the channels between the worker and the configuration handler. -/
def channelCapacity : Nat := 100

namespace DiscoveryClientState

def new : DiscoveryClientState := ⟨fun _ => Table.empty, fun _ => ∅⟩

section

variable (state : DiscoveryClientState)

def setTracked (typeUrl : TypeUrl) (tracked : Table Text Text) : DiscoveryClientState :=
  { state with tracked := Function.update state.tracked typeUrl tracked }

def setSubscriptions (typeUrl : TypeUrl) (names : Finset Text) : DiscoveryClientState :=
  { state with subscriptions := Function.update state.subscriptions typeUrl names }

/-! ## Subscriptions -/

/-- The server is asked only for names that are new. -/
def processSubscriptionEvent :
    SubscriptionEvent → DiscoveryClientState × List DeltaDiscoveryRequest
  | .subscribe typeUrl id =>
    (state.setSubscriptions typeUrl (insert id (state.subscriptions typeUrl)),
      if id ∈ state.subscriptions typeUrl then []
      else [{ typeUrl := typeUrl, resourceNamesSubscribe := {id} }])
  | .unsubscribe typeUrl id =>
    (state.setSubscriptions typeUrl ((state.subscriptions typeUrl).erase id),
      if id ∈ state.subscriptions typeUrl then
        [{ typeUrl := typeUrl, resourceNamesUnsubscribe := {id} }]
      else [])

theorem processSubscriptionEvent_tracked (event : SubscriptionEvent) :
    (state.processSubscriptionEvent event).1.tracked = state.tracked := by
  cases event <;> rfl

def buildInitialDiscoveryRequests : List DeltaDiscoveryRequest :=
  [.secret, .cluster, .clusterLoadAssignment, .listener, .routeConfiguration].map
    fun typeUrl =>
      { typeUrl := typeUrl
        initialResourceVersions := state.tracked typeUrl
        resourceNamesSubscribe := state.subscriptions typeUrl }

end

/-! ## Responses -/

def removeTracked (tracked : Table Text Text) (ids : List Text) : Table Text Text :=
  fun id => if id ∈ ids then none else tracked id

/-- The resources are no longer tracked, whatever becomes of the response. -/
def processResourceIdsForRemoval (state : DiscoveryClientState)
    (response : DeltaDiscoveryResponse) (typeUrl : TypeUrl) : DiscoveryClientState :=
  state.setTracked typeUrl
    (removeTracked (state.tracked typeUrl) response.removedResources)

def insertVersions (tracked : Table Text Text) (versions : List (Text × Text)) : Table Text Text :=
  versions.foldl (fun tracked entry => tracked.insert entry.1 entry.2) tracked

end DiscoveryClientState

section

variable [XdsCrates]

def decodingError (resource : Resource) (error : Text) : RejectedConfig :=
  ⟨resource.name, "problem decoding config update for ".toList ++ resource.name ++
    " : error Some(".toList ++ error ++ ")".toList⟩

def decodeUpdate (typeUrl : TypeUrl) (resource : Resource) : Except Text ResourceUpdate :=
  (ResourcePayload.tryFrom resource typeUrl).map fun payload =>
    .update resource.name payload resource.version

/-- All resources are decoded, and all errors are collected. -/
def decodeResponse (response : DeltaDiscoveryResponse) (typeUrl : TypeUrl) :
    Except (List RejectedConfig) (List ResourceUpdate) :=
  let decodingErrors := response.resources.filterMap fun resource =>
    match decodeUpdate typeUrl resource with
    | .error error => some (decodingError resource error)
    | .ok _ => none
  let decodedUpdates := response.resources.filterMap fun resource =>
    (decodeUpdate typeUrl resource).toOption
  if decodingErrors = [] then .ok decodedUpdates else .error decodingErrors

end

/-- The version of each resource that is updated; the last of a name counts. -/
def extractUpdateVersions (updates : List ResourceUpdate) : List (Text × Text) :=
  updates.foldl (fun versions update =>
    match update with
    | .update id _ version => versions.filter (fun entry => entry.1 ≠ id) ++ [(id, version)]
    | .remove _ _ => versions) []

/-- The updates of a response, and then its removals. -/
def batchedUpdates (response : DeltaDiscoveryResponse) (typeUrl : TypeUrl)
    (decodedUpdates : List ResourceUpdate) : List ResourceUpdate :=
  decodedUpdates ++ response.removedResources.map fun id => .remove id typeUrl

def joinTexts (texts : List Text) : Text :=
  List.intercalate "; ".toList texts

def nack (typeUrl : TypeUrl) (nonce : Text) (rejected : List RejectedConfig) :
    DeltaDiscoveryRequest where
  typeUrl := typeUrl
  responseNonce := nonce
  errorDetail := some ⟨.invalidArgument, joinTexts (rejected.map RejectedConfig.text)⟩

def DiscoveryClientState.conclude (state : DiscoveryClientState) (batch : PendingBatch) :
    Acknowledgement → DiscoveryClientState × List DeltaDiscoveryRequest
  | .answered [] =>
    (state.setTracked batch.typeUrl
        (insertVersions (state.tracked batch.typeUrl) batch.updateVersions),
      [{ typeUrl := batch.typeUrl, responseNonce := batch.nonce }])
  | .answered rejected => (state, [nack batch.typeUrl batch.nonce rejected])
  -- Nothing is sent.
  | .dropped => (state, [])
  | .timedOut =>
    (state, [{
      typeUrl := batch.typeUrl
      responseNonce := batch.nonce
      errorDetail := some ⟨.unknown, "timed out trying to apply resource updates for [".toList
        ++ joinTexts (batch.updateVersions.map Prod.fst) ++ "]".toList⟩ }])

inductive Received where
  | unknownType
  | undecodable (answer : DeltaDiscoveryRequest)
  | decoded (batch : PendingBatch) (updates : List ResourceUpdate)

/-- The part of the response handling that comes before the configuration handler. -/
def DiscoveryClientState.receive [XdsCrates] (state : DiscoveryClientState)
    (response : DeltaDiscoveryResponse) : DiscoveryClientState × Received :=
  match TypeUrl.tryFrom response.typeUrl with
  | none => (state, .unknownType)
  | some typeUrl =>
    (state.processResourceIdsForRemoval response typeUrl,
      match decodeResponse response typeUrl with
      | .error decodingErrors =>
        .undecodable (nack typeUrl response.nonce decodingErrors)
      | .ok decodedUpdates =>
        .decoded ⟨typeUrl, response.nonce, extractUpdateVersions decodedUpdates⟩
          (batchedUpdates response typeUrl decodedUpdates))

/-- A response is handled, when the handler does with its updates as given. A response of
an unknown type ends the stream. -/
def DiscoveryClientState.processDiscoveryResponse [XdsCrates] (state : DiscoveryClientState)
    (response : DeltaDiscoveryResponse) (handle : List ResourceUpdate → Acknowledgement) :
    Option (DiscoveryClientState × List DeltaDiscoveryRequest) :=
  match state.receive response with
  | (_, .unknownType) => none
  | (state, .undecodable answer) => some (state, [answer])
  | (state, .decoded batch updates) => some (state.conclude batch (handle updates))

namespace DiscoveryClientState

variable [XdsCrates] {response : DeltaDiscoveryResponse} (state : DiscoveryClientState)

theorem receive_subscriptions (response : DeltaDiscoveryResponse) :
    (state.receive response).1.subscriptions = state.subscriptions := by
  unfold receive
  split <;> rfl

omit [XdsCrates] in
theorem conclude_subscriptions (batch : PendingBatch) (answer : Acknowledgement) :
    (state.conclude batch answer).1.subscriptions = state.subscriptions := by
  unfold conclude
  split <;> rfl

theorem receive_of_error (known : TypeUrl.tryFrom response.typeUrl = some typeUrl)
    (failed : decodeResponse response typeUrl = .error errors) :
    state.receive response = (state.processResourceIdsForRemoval response typeUrl,
      .undecodable (nack typeUrl response.nonce errors)) := by
  simp only [receive, known, failed]

theorem receive_of_ok (known : TypeUrl.tryFrom response.typeUrl = some typeUrl)
    (decoded : decodeResponse response typeUrl = .ok updates) :
    state.receive response = (state.processResourceIdsForRemoval response typeUrl,
      .decoded ⟨typeUrl, response.nonce, extractUpdateVersions updates⟩
        (batchedUpdates response typeUrl updates)) := by
  simp only [receive, known, decoded]

section

variable (handle : List ResourceUpdate → Acknowledgement)
  (known : TypeUrl.tryFrom response.typeUrl = some typeUrl)

include known

theorem processDiscoveryResponse_of_error
    (failed : decodeResponse response typeUrl = .error errors) :
    state.processDiscoveryResponse response handle =
      some (state.processResourceIdsForRemoval response typeUrl,
        [nack typeUrl response.nonce errors]) := by
  rw [processDiscoveryResponse, receive_of_error state known failed]

theorem processDiscoveryResponse_of_ok (decoded : decodeResponse response typeUrl = .ok updates) :
    state.processDiscoveryResponse response handle =
      some ((state.processResourceIdsForRemoval response typeUrl).conclude
        ⟨typeUrl, response.nonce, extractUpdateVersions updates⟩
        (handle (batchedUpdates response typeUrl updates))) := by
  rw [processDiscoveryResponse, receive_of_ok state known decoded]

end

end DiscoveryClientState

/-- A route configuration of a first version. -/
def routeResponse : DeltaDiscoveryResponse :=
  ⟨TypeUrl.routeConfiguration.text, "nonce".toList,
    [⟨"routes".toList, "1".toList, some []⟩], []⟩

end Orion.Xds
