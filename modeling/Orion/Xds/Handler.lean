import Orion.Xds.Client

/-! # The configuration handler

The handler takes the updates of a batch one by one. It changes the secrets and clusters,
and tells the client, the listeners and the health checks what follows from it.
-/

namespace Orion.Xds

open Foundation Http Tls Listeners Clusters

structure ConfigurationHandler where
  secretManager : SecretManager
  clusters : ClustersMap

/-- What the handler does on the way, in this order. -/
inductive Action (Limiter : Type) where
  | subscription (event : SubscriptionEvent)
  | listenerChange (change : ListenerConfigurationChange Limiter)
  | routeChange (change : RouteConfigurationChange)
  /-- The loggers are told what to log of a listener, or that it is removed. -/
  | accessLogs (listener : Text) (config : Option ListenerConfig)
  | restartCluster (cluster : ClusterType)
  | stopCluster (name : Text)

def Action.subscription? {Limiter : Type} : Action Limiter → Option SubscriptionEvent
  | .subscription event => some event
  | _ => none

inductive UpdateFailure where
  | panicked (panic : Panic)
  | rejected (error : UpdateError)
  deriving DecidableEq

def UpdateFailure.ofFailure : Failure → UpdateFailure
  | .panicked panic => .panicked panic
  | .failed error => .rejected (.build error)

/-- The handler after an update, or as it was left by one that failed. -/
structure Processed (Limiter : Type) where
  handler : ConfigurationHandler
  actions : List (Action Limiter)
  result : Except UpdateFailure Unit

/-- The handler after a batch. -/
structure BatchResult (Limiter : Type) where
  handler : ConfigurationHandler
  actions : List (Action Limiter)
  rejected : List RejectedConfig
  panicked : Bool

namespace ConfigurationHandler

variable {Limiter : Type}

/-- A cluster that is removed is subscribed to, not unsubscribed from. -/
def processRemoveEvent (self : ConfigurationHandler) (id : Text) :
    TypeUrl → Processed Limiter
  | .cluster =>
    let subscribed := .subscription (.subscribe .clusterLoadAssignment id)
    match self.clusters.removeCluster id with
    | (.error text, clusters) =>
      ⟨{ self with clusters := clusters }, [subscribed],
        .error (.rejected (.message text))⟩
    | (.ok (), clusters) =>
      ⟨{ self with clusters := clusters }, [subscribed, .stopCluster id], .ok ()⟩
  | .listener => ⟨self, [.listenerChange (.removed id), .accessLogs id none], .ok ()⟩
  | .clusterLoadAssignment =>
    match self.clusters.removeClusterLoadAssignment id with
    | (.error text, clusters) =>
      ⟨{ self with clusters := clusters }, [], .error (.rejected (.message text))⟩
    | (.ok (), clusters) =>
      ⟨{ self with clusters := clusters }, [.stopCluster id], .ok ()⟩
  | .routeConfiguration => ⟨self, [.routeChange (.removed id)], .ok ()⟩
  | .secret =>
    ⟨self, [], .error (.rejected (.message "Secret removal is not supported".toList))⟩

variable [TlsPlatform] [HttpCrate] [ChannelCrates] [BalancerCrates] [HashMapOrder]
  (newLimiter : Configuration.LocalRateLimit → Limiter) (profile : BuildProfile)

section

variable (self : ConfigurationHandler)

def updateListener (id : Text) (listener : ListenerConfig) : Processed Limiter :=
  match ListenerFactory.tryFrom newLimiter listener self.secretManager with
  | .error error => ⟨self, [], .error (.rejected (.listener error))⟩
  | .ok factory =>
    ⟨self, listener.rdsNames.map (fun name =>
        .subscription (.subscribe .routeConfiguration name)) ++
      [.listenerChange (.added factory listener), .accessLogs id (some listener)], .ok ()⟩

/-- The endpoints of every cluster are asked for, before the cluster is built. -/
def updateCluster (id : Text) (cluster : ClusterConfig) : Processed Limiter :=
  match PartialClusterType.ofConfig cluster self.secretManager with
  | none => ⟨self, [], .error (.rejected .invalidTls)⟩
  | some cluster =>
    let subscribed := .subscription (.subscribe .clusterLoadAssignment id)
    match self.clusters.addCluster profile cluster with
    | (.error failure, clusters) =>
      ⟨{ self with clusters := clusters }, [subscribed], .error (.ofFailure failure)⟩
    | (.ok cluster, clusters) =>
      ⟨{ self with clusters := clusters }, [subscribed, .restartCluster cluster], .ok ()⟩

def updateEndpoints (id : Text) (cla : ClusterLoadAssignmentConfig) : Processed Limiter :=
  match self.clusters.changeClusterLoadAssignment profile id (.ofConfig cla) with
  | (.error failure, clusters) =>
    ⟨{ self with clusters := clusters }, [], .error (.ofFailure failure)⟩
  | (.ok cluster, clusters) =>
    ⟨{ self with clusters := clusters }, [.restartCluster cluster], .ok ()⟩

/-- The secret is kept under its own name, and passed on under that of the resource. -/
def updateSecret (id : Text) (secret : Secret) : Processed Limiter :=
  match self.secretManager.add secret with
  | none => ⟨self, [], .error (.rejected .invalidSecret)⟩
  | some (secretManager, secret) =>
    match self.clusters.updateTlsContext id secret with
    | (.error error, clusters) =>
      ⟨⟨secretManager, clusters⟩, [], .error (.rejected (.change error))⟩
    | (.ok changed, clusters) =>
      ⟨⟨secretManager, clusters⟩, changed.map .restartCluster ++
        [.listenerChange (.tlsContextChanged id secret)], .ok ()⟩

def processUpdateEvent : ResourcePayload → Processed Limiter
  | .listener id listener => self.updateListener newLimiter id listener
  | .cluster id cluster => self.updateCluster profile id cluster
  | .routeConfiguration id route => ⟨self, [.routeChange (.added id route)], .ok ()⟩
  | .endpoints id cla => self.updateEndpoints profile id cla
  | .secret id secret => self.updateSecret id secret

def processUpdate : ResourceUpdate → Processed Limiter
  | .update _ payload _ => self.processUpdateEvent newLimiter profile payload
  | .remove id typeUrl => self.processRemoveEvent id typeUrl

end

/-- Updates that are rejected do not keep the others from being processed. -/
def processUpdates [XdsCrates] (self : ConfigurationHandler) :
    List ResourceUpdate → BatchResult Limiter
  | [] => ⟨self, [], [], false⟩
  | update :: rest =>
    let processed := self.processUpdate newLimiter profile update
    match processed.result with
    | .error (.panicked _) => ⟨processed.handler, processed.actions, [], true⟩
    | .error (.rejected error) =>
      let later := processed.handler.processUpdates rest
      { later with
        actions := processed.actions ++ later.actions
        rejected := ⟨update.id, XdsCrates.errorText error⟩ :: later.rejected }
    | .ok () =>
      let later := processed.handler.processUpdates rest
      { later with actions := processed.actions ++ later.actions }

end ConfigurationHandler

/-! ## The subscriptions of an update -/

/-- The names that an update asks for, by its result. -/
def ResourceUpdate.subscribed (result : Except UpdateFailure Unit) :
    ResourceUpdate → List SubscriptionEvent
  | .update _ (.listener _ listener) _ =>
    match result with
    | .ok () => listener.rdsNames.map (.subscribe .routeConfiguration)
    | .error _ => []
  | .update _ (.cluster id _) _ =>
    match result with
    | .error (.rejected .invalidTls) => []
    | _ => [.subscribe .clusterLoadAssignment id]
  | .remove id .cluster => [.subscribe .clusterLoadAssignment id]
  | _ => []

namespace ConfigurationHandler

variable {Limiter : Type} [TlsPlatform] [HttpCrate] [ChannelCrates] [BalancerCrates]
  [HashMapOrder] (newLimiter : Configuration.LocalRateLimit → Limiter) (profile : BuildProfile)

omit [HttpCrate] [ChannelCrates] [BalancerCrates] [HashMapOrder] in
theorem updateListener_subscriptions (self : ConfigurationHandler) (id version : Text)
    (listener : ListenerConfig) :
    (self.updateListener newLimiter id listener).actions.filterMap Action.subscription? =
      ResourceUpdate.subscribed (self.updateListener newLimiter id listener).result
        (.update id (.listener id listener) version) := by
  unfold updateListener
  split
  · rfl
  · simp [ResourceUpdate.subscribed, Action.subscription?, List.filterMap_map, Function.comp_def]

theorem updateCluster_subscriptions (self : ConfigurationHandler) (id version : Text)
    (cluster : ClusterConfig) :
    (self.updateCluster profile id cluster : Processed Limiter).actions.filterMap
        Action.subscription? =
      ResourceUpdate.subscribed
        (self.updateCluster profile id cluster : Processed Limiter).result
        (.update id (.cluster id cluster) version) := by
  unfold updateCluster
  split
  · rfl
  · split
    · rename_i failure _ _
      cases failure <;> rfl
    · rfl

theorem processUpdate_subscriptions (self : ConfigurationHandler) (update : ResourceUpdate) :
    (self.processUpdate newLimiter profile update).actions.filterMap Action.subscription? =
      update.subscribed (self.processUpdate newLimiter profile update).result := by
  cases update with
  | remove id typeUrl =>
    cases typeUrl with
    | cluster | clusterLoadAssignment =>
      simp only [processUpdate, processRemoveEvent]
      split <;> rfl
    | listener | routeConfiguration | secret => rfl
  | update id payload version =>
    cases payload with
    | listener id listener =>
      exact self.updateListener_subscriptions newLimiter id version listener
    | cluster id cluster => exact self.updateCluster_subscriptions profile id version cluster
    | routeConfiguration id route => rfl
    | endpoints id cla =>
      simp only [processUpdate, processUpdateEvent, updateEndpoints]
      split <;> rfl
    | secret id secret =>
      simp only [processUpdate, processUpdateEvent, updateSecret]
      split
      · rfl
      · split
        · rfl
        · simp [ResourceUpdate.subscribed, Action.subscription?, Function.comp_def]

end ConfigurationHandler

end Orion.Xds
