import Orion.Clusters.AddressRoundTrip
import Orion.Xds.Handler

/-! # Secrets and their users

A secret that arrives is to reach the clusters that use it and the listeners, and to
leave the other clusters alone. But a cluster with another secret takes it for an error,
which ends the update, clusters without TLS are built again, and the endpoints that a
balancer or a cache holds keep what they were built with.
-/

/-! ## Configurations that use a secret -/

namespace Orion.Tls

open Foundation WantsToBuildClient Option

def ClientConfigurator.RefersTo (configurator : ClientConfigurator) (secretId : Text) :
    TransportSecret → Prop
  | .certificate _ => some secretId = configurator.contextBuilder.certificateSecretId
  | .validationContext _ =>
    some secretId = configurator.contextBuilder.validationContextSecretId

def ClientConfig.Uses (config : ClientConfig) : TransportSecret → Prop
  | .certificate secret => config.clientAuth = some (.ofSecret secret)
  | .validationContext store =>
    config.verifier = if store.store.isEmpty then .ignoreCert else .webPki store.store

variable [TlsPlatform]

/-- The key of the client certificate fits, with the new secret. -/
def ClientConfigurator.CanUse (configurator : ClientConfigurator) :
    TransportSecret → Prop
  | .certificate secret => TlsPlatform.acceptsKey secret.certs secret.key = true
  | .validationContext _ => ∀ certificate,
      configurator.contextBuilder.clientCertificate = some certificate →
        TlsPlatform.acceptsKey certificate.certs certificate.key = true

/-- The configurator refers to the secret, and can use it. -/
structure ClientConfigurator.Takes (configurator : ClientConfigurator) (secretId : Text)
    (secret : TransportSecret) : Prop where
  refers : configurator.RefersTo secretId secret
  fits : configurator.CanUse secret

/-- The configurator was built with the secret. -/
def ClientConfigurator.BuiltWith (configurator : ClientConfigurator) (secret : TransportSecret) :
    Prop :=
  configurator.contextBuilder.build = some configurator.config ∧
    match secret with
    | .certificate secret =>
      configurator.contextBuilder.clientCertificate = some (.ofSecret secret)
    | .validationContext store =>
      configurator.contextBuilder.certificateStore = store.store ∧
        (configurator.contextBuilder.clientCertificate = none →
          configurator.contextBuilder.certificateSecretId = none)

theorem WantsToBuildClient.configurator_eq_some_iff (builder : WantsToBuildClient)
    (configurator : ClientConfigurator) :
    builder.configurator = some configurator ↔
      configurator.contextBuilder = builder ∧
        configurator.contextBuilder.build = some configurator.config := by
  cases configurator with
  | mk contextBuilder config =>
    simp only [configurator, map_eq_some_iff, ClientConfigurator.mk.injEq]
    constructor
    · rintro ⟨_, built, rfl, rfl⟩
      exact ⟨rfl, built⟩
    · rintro ⟨rfl, built⟩
      exact ⟨config, built, rfl, rfl⟩

theorem WantsToBuildClient.build_eq_some {builder : WantsToBuildClient} {config : ClientConfig}
    (built : builder.build = some config) :
    config.clientAuth = builder.clientCertificate ∧
      config.verifier = if builder.certificateStore.isEmpty then .ignoreCert
        else .webPki builder.certificateStore := by
  unfold build at built
  cases present : builder.clientCertificate with
  | none =>
    rw [present] at built
    cases built
    exact ⟨rfl, rfl⟩
  | some certificate =>
    rw [present] at built
    rcases bind_eq_some_iff.mp built with ⟨_, _, ⟨⟩⟩
    exact ⟨rfl, rfl⟩

namespace ClientConfigurator

theorem update_isSome_iff (configurator : ClientConfigurator) (secretId : Text)
    (secret : TransportSecret) : (configurator.update secretId secret).isSome ↔
      configurator.Takes secretId secret := by
  by_cases refers : configurator.RefersTo secretId secret
  · cases secret with
    | certificate secret =>
      simp only [update, if_pos (show _ = _ from refers)]
      rw [WantsToBuildClient.configurator, isSome_map, WantsToBuildClient.build_isSome_iff]
      simp only [some.injEq, forall_eq']
      exact ⟨fun fits => ⟨refers, fits⟩, Takes.fits⟩
    | validationContext store =>
      simp only [update, if_pos (show _ = _ from refers)]
      rw [WantsToBuildClient.configurator, isSome_map, WantsToBuildClient.build_isSome_iff]
      exact ⟨fun fits => ⟨refers, fits⟩, Takes.fits⟩
  · have rejected : configurator.update secretId secret = none := by
      cases secret <;> exact if_neg refers
    rw [rejected]
    constructor
    · intro impossible
      cases impossible
    · intro takes
      exact absurd takes.refers refers

variable {configurator : ClientConfigurator} {secretId : Text} {secret : TransportSecret}

/-- A configurator that refers to a secret stays the same if it was built with it. -/
theorem update_eq_self_iff (refers : configurator.RefersTo secretId secret) :
    configurator.update secretId secret = some configurator ↔ configurator.BuiltWith secret := by
  rcases configurator with ⟨builder, config⟩
  rcases builder with ⟨versions, storeId, store, certificateId, certificate, sni⟩
  cases secret with
  | certificate secret =>
    simp only [update, if_pos (show _ = _ from refers)]
    rw [configurator_eq_some_iff]
    simp [BuiltWith, and_comm]
  | validationContext fresh =>
    simp only [update, if_pos (show _ = _ from refers)]
    rw [configurator_eq_some_iff]
    cases certificate <;> simp [BuiltWith, and_comm]

theorem update_uses {next : ClientConfigurator}
    (updated : configurator.update secretId secret = some next) : next.config.Uses secret := by
  cases secret with
  | certificate secret =>
    simp only [update, ite_none_right_eq_some] at updated
    rcases map_eq_some_iff.mp updated.2 with ⟨config, built, rfl⟩
    exact (build_eq_some built).1
  | validationContext store =>
    simp only [update, ite_none_right_eq_some] at updated
    rcases map_eq_some_iff.mp updated.2 with ⟨config, built, rfl⟩
    exact (build_eq_some built).2

theorem not_takes_of_update (rejected : configurator.update secretId secret = none) :
    ¬ configurator.Takes secretId secret := by
  rw [← update_isSome_iff, rejected]
  exact Bool.false_ne_true

theorem takes_of_update (updated : configurator.update secretId secret = some next) :
    configurator.Takes secretId secret := by
  rw [← update_isSome_iff, updated]
  rfl

end ClientConfigurator

end Orion.Tls

/-! ## Clusters that use a secret -/

namespace Orion.Clusters

open Foundation Http Tls Option ClusterType ClientConfigurator
open UpstreamTransportSocketConfigurator hiding none

namespace UpstreamTransportSocketConfigurator

def Uses (socket : UpstreamTransportSocketConfigurator) (secret : TransportSecret) : Prop :=
  ∃ configurator, socket.tlsConfigurator = some configurator ∧ configurator.config.Uses secret

variable [TlsPlatform] {socket : UpstreamTransportSocketConfigurator} {secretId : Text}
  {secret : TransportSecret}

theorem updateSecret_of_plain (plain : socket.tlsConfigurator = Option.none) :
    socket.updateSecret secretId secret = some socket := by
  cases socket with
  | tls => cases plain
  | proxyProtocol proxy =>
    change proxy.innerTlsConfigurator = Option.none at plain
    simp only [updateSecret, plain]
  | none => rfl

theorem updateSecret_channelTls {next : UpstreamTransportSocketConfigurator}
    (updated : socket.updateSecret secretId secret = some next) :
    (LbEndpointBuilder.channelTls next).isSome = (LbEndpointBuilder.channelTls socket).isSome := by
  cases socket with
  | tls configurator =>
    rcases map_eq_some_iff.mp updated with ⟨current, _, rfl⟩
    rfl
  | proxyProtocol proxy =>
    simp only [updateSecret] at updated
    split at updated
    · rcases map_eq_some_iff.mp updated with ⟨current, _, rfl⟩
      rfl
    · cases updated
      rfl
  | none =>
    cases updated
    rfl

section

variable {configurator : ClientConfigurator} (secured : socket.tlsConfigurator = some configurator)

include secured

theorem updateSecret_of_none (rejected : configurator.update secretId secret = Option.none) :
    socket.updateSecret secretId secret = Option.none := by
  cases socket with
  | tls =>
    cases secured
    simp only [updateSecret, rejected, Option.map_none]
  | proxyProtocol proxy =>
    change proxy.innerTlsConfigurator = some configurator at secured
    simp only [updateSecret, secured, rejected, Option.map_none]
  | none => cases secured

theorem updateSecret_of_some (updated : configurator.update secretId secret = some next) :
    ∃ current, socket.updateSecret secretId secret = some current ∧
      current.tlsConfigurator = some next := by
  cases socket with
  | tls =>
    cases secured
    exact ⟨.tls next, by simp only [updateSecret, updated, map_some], rfl⟩
  | proxyProtocol proxy =>
    change proxy.innerTlsConfigurator = some configurator at secured
    exact ⟨.proxyProtocol ⟨some next⟩,
      by simp only [updateSecret, secured, updated, map_some], rfl⟩
  | none => cases secured

end

end UpstreamTransportSocketConfigurator

/-! ### Endpoints -/

def HttpChannel.Uses (channel : HttpChannel) (secret : TransportSecret) : Prop :=
  ∃ config, channel.tlsConfig = some config ∧ config.Uses secret

/-- The channels of an endpoint have the secret; sockets in the file system need none. -/
structure LbEndpoint.Uses (endpoint : LbEndpoint) (secret : TransportSecret) : Prop where
  http : ∀ channel, endpoint.httpChannel = some channel → channel.isUnix = false →
    channel.Uses secret
  tcp : ∀ channel, endpoint.tcpChannel = some channel → channel.transportSocket.Uses secret

structure DstEndpoint.Uses (endpoint : DstEndpoint) (secret : TransportSecret) : Prop where
  http : endpoint.httpChannel.Uses secret
  tcp : endpoint.tcpChannel.transportSocket.Uses secret

/-- HTTP channels to an address can have a secret: the socket is a TLS socket, and not TLS
under the PROXY protocol, or they do not lead over the network. -/
def UpstreamTransportSocketConfigurator.Secures (socket : UpstreamTransportSocketConfigurator)
    (address : Address) : Prop :=
  (LbEndpointBuilder.channelTls socket).isSome ∨ address.channelKind ≠ some false

theorem LbEndpointBuilder.build_uses_iff [HttpCrate] [ChannelCrates] {builder : LbEndpointBuilder}
    {endpoint : LbEndpoint} (built : builder.build = .ok endpoint)
    (uses : builder.transportSocket.Uses secret) :
    endpoint.Uses secret ↔ builder.transportSocket.Secures builder.endpoint.address := by
  have kind := LbEndpoint.channelKind_of_built built
  constructor
  · rintro ⟨http, _⟩
    by_contra unsecured
    rcases not_or.mp unsecured with ⟨plain, network⟩
    rw [not_not.mp network] at kind
    rcases map_eq_some_iff.mp kind with ⟨channel, reached, connected⟩
    rcases http channel reached connected with ⟨config, configured, _⟩
    rw [build_httpChannel built reached connected, not_isSome_iff_eq_none.mp plain] at configured
    cases configured
  · intro secures
    refine ⟨fun channel reached network => ?_, fun channel reached => ?_⟩
    · rw [HttpChannel.Uses, build_httpChannel built reached network]
      rcases secures with secured | elsewhere
      · rcases uses with ⟨configurator, configured, uses⟩
        cases socket : builder.transportSocket with
        | tls =>
          rw [socket] at configured
          cases configured
          exact ⟨_, rfl, uses⟩
        | proxyProtocol | none =>
          rw [socket] at secured
          cases secured
      · rw [LbEndpoint.channelKind, reached, map_some, network] at kind
        exact absurd kind.symm elsewhere
    · rw [build_tcpChannel built reached]
      exact uses

/-! ### Load assignments -/

/-- Endpoints that a balancer holds all have a property. -/
def BalancerType.Holds [BalancerCrates] (balancer : BalancerType) (P : LbEndpoint → Prop) : Prop :=
  balancer.chooser.Has fun _ _ _ chooser =>
    ∀ item ∈ DefaultBalancer.items chooser.priorities, P item.item

/-- The endpoints of a load assignment, those that can be named and those that the balancer
holds have the secret, and others are built with it. -/
structure ClusterLoadAssignment.Uses [BalancerCrates] (assignment : ClusterLoadAssignment)
    (secret : TransportSecret) : Prop where
  socket : assignment.transportSocket.Uses secret
  listed : ∀ endpoint ∈ assignment.allEndpoints, endpoint.Uses secret
  named : ∀ balancer key entry, assignment.balancer = .overrideHost balancer →
    balancer.endpoints key = some entry → entry.endpoint.Uses secret
  held : assignment.balancer.Holds fun endpoint => endpoint.Uses secret

/-- A load assignment can be built again with a secret, which the endpoints that its
balancer holds must have already. -/
structure ClusterLoadAssignment.Takes [HttpCrate] [ChannelCrates] [BalancerCrates]
    (assignment : ClusterLoadAssignment) (socket : UpstreamTransportSocketConfigurator)
    (secret : TransportSecret) : Prop where
  rebuildable : assignment.Rebuildable
  secured : ∀ endpoint ∈ assignment.allEndpoints, socket.Secures endpoint.address.toAddress
  held : assignment.balancer.Holds fun endpoint => endpoint.Uses secret

namespace ClusterLoadAssignment

variable [HttpCrate] [ChannelCrates] {self next : ClusterLoadAssignment}

theorem rebuild_uses_iff (rebuilt : self.rebuild = .ok next)
    (uses : self.transportSocket.Uses secret) :
    (∀ endpoint ∈ next.allEndpoints, endpoint.Uses secret) ↔
      ∀ endpoint ∈ self.allEndpoints,
        self.transportSocket.Secures endpoint.address.toAddress := by
  rcases bind_eq_ok_iff.mp rebuilt with ⟨localities, mapped, ⟨⟩⟩
  constructor
  · intro each endpoint member
    rcases List.mem_flatMap.mp member with ⟨locality, listed, within⟩
    rcases partner_of_left (mapM_eq_ok_iff.mp mapped) listed with ⟨next, known, localityBuilt⟩
    rcases bind_eq_ok_iff.mp localityBuilt with ⟨endpoints, endpointsBuilt, ⟨⟩⟩
    rcases partner_of_left (mapM_eq_ok_iff.mp endpointsBuilt) within with ⟨built, there, made⟩
    exact (LbEndpointBuilder.build_uses_iff made uses).mp
      (each built (List.mem_flatMap.mpr ⟨_, known, there⟩))
  · intro secures endpoint member
    rcases List.mem_flatMap.mp member with ⟨locality, listed, within⟩
    rcases partner_of_right (mapM_eq_ok_iff.mp mapped) listed with ⟨before, known, localityBuilt⟩
    rcases bind_eq_ok_iff.mp localityBuilt with ⟨endpoints, endpointsBuilt, ⟨⟩⟩
    rcases partner_of_right (mapM_eq_ok_iff.mp endpointsBuilt) within with ⟨original, there, made⟩
    exact (LbEndpointBuilder.build_uses_iff made uses).mpr
      (secures original (List.mem_flatMap.mpr ⟨before, known, there⟩))

/-- A load assignment that is built again has a secret if its HTTP channels can have it,
and the balancer has it already. -/
theorem uses_rebuild_iff [BalancerCrates] (rebuilt : self.rebuild = .ok next)
    (uses : self.transportSocket.Uses secret) :
    next.Uses secret ↔
      (∀ endpoint ∈ self.allEndpoints,
        self.transportSocket.Secures endpoint.address.toAddress) ∧
      self.balancer.Holds fun endpoint => endpoint.Uses secret := by
  have listed := rebuild_uses_iff rebuilt uses
  rcases bind_eq_ok_iff.mp rebuilt with ⟨localities, mapped, ⟨⟩⟩
  have chooser : (self.balancer.rebuild localities).chooser = self.balancer.chooser := by
    cases self.balancer <;> rfl
  have held : (self.balancer.rebuild localities).Holds (fun endpoint => endpoint.Uses secret) ↔
      self.balancer.Holds fun endpoint => endpoint.Uses secret := by
    rw [BalancerType.Holds, chooser, BalancerType.Holds]
  rw [← listed, ← held]
  constructor
  · intro all
    exact ⟨all.listed, all.held⟩
  · rintro ⟨each, held⟩
    refine ⟨uses, each, fun balancer key entry same known => ?_, held⟩
    cases previous : self.balancer with
    | standard standard =>
      simp only [previous] at same
      cases same
    | overrideHost override =>
      simp only [previous] at same
      cases same
      exact each entry.endpoint (OverrideHostLoadBalancer.overrideMap_entry known).1

theorem takes_iff_rebuild [BalancerCrates] [TlsPlatform]
    {socket current : UpstreamTransportSocketConfigurator}
    (updated : socket.updateSecret secretId secret = some current)
    (uses : current.Uses secret) :
    self.Takes socket secret ↔ ∃ next, ClusterLoadAssignment.rebuild
      { self with transportSocket := current } = .ok next ∧ next.Uses secret := by
  have rebuildable := rebuild_isOk_iff { self with transportSocket := current }
  change _ ↔ self.Rebuildable at rebuildable
  have same : ∀ address, current.Secures address ↔ socket.Secures address := fun address => by
    rw [Secures, Secures, updateSecret_channelTls updated]
  constructor
  · intro takes
    rcases rebuildable.mpr takes.rebuildable with ⟨next, rebuilt⟩
    refine ⟨next, rebuilt, (uses_rebuild_iff rebuilt uses).mpr ⟨?_, takes.held⟩⟩
    intro endpoint member
    exact (same _).mpr (takes.secured endpoint member)
  · rintro ⟨next, rebuilt, nextUses⟩
    rcases (uses_rebuild_iff rebuilt uses).mp nextUses with ⟨secured, held⟩
    refine ⟨rebuildable.mp ⟨next, rebuilt⟩, fun endpoint member => ?_, held⟩
    exact (same _).mp (secured endpoint member)

end ClusterLoadAssignment

/-! ### Clusters -/

namespace ClusterType

def RefersTo (self : ClusterType) (secretId : Text) (secret : TransportSecret) : Prop :=
  ∃ configurator, self.transportSocket.tlsConfigurator = some configurator ∧
    configurator.RefersTo secretId secret

theorem not_refersTo_of_plain (self : ClusterType) (secretId : Text) (secret : TransportSecret)
    (plain : self.transportSocket.tlsConfigurator = none) : ¬ self.RefersTo secretId secret := by
  rintro ⟨configurator, secured, _⟩
  rw [plain] at secured
  cases secured

/-- The socket of the cluster, and what was made from it, have the secret. -/
def Uses [BalancerCrates] (now : Nat) (secret : TransportSecret) : ClusterType → Prop
  | .static cluster =>
    cluster.transportSocket.Uses secret ∧ cluster.loadAssignment.Uses secret
  | .dynamic cluster => cluster.transportSocket.Uses secret ∧
      ∀ loadAssignment, cluster.loadAssignment = some loadAssignment → loadAssignment.Uses secret
  | .onDemand cluster => cluster.transportSocket.Uses secret ∧
      (∃ configurator, cluster.httpConfig.tlsConfigurator = some configurator ∧
        configurator.config.Uses secret) ∧
      ∀ authority endpoint, cluster.endpoints.find now authority = some endpoint →
        endpoint.Uses secret

end ClusterType

section

variable [HttpCrate] [ChannelCrates] [BalancerCrates]

/-- The load assignment stays the same when it is built again. -/
def ClusterLoadAssignment.RebuildsToItself (self : ClusterLoadAssignment)
    (socket : UpstreamTransportSocketConfigurator) : Prop :=
  ClusterLoadAssignment.rebuild { self with transportSocket := socket } = .ok self

variable [TlsPlatform]

/-- A cluster with TLS refers to the secret and can be built with it; without TLS it stays
the same when it is built again. A cluster that follows the original destination must have
the secret in its socket and in its cache already, where it is not updated. -/
def ClusterType.Takes (now : Nat) (secretId : Text) (secret : TransportSecret) :
    ClusterType → Prop
  | .static cluster =>
    match cluster.transportSocket.tlsConfigurator with
    | some configurator => configurator.Takes secretId secret ∧
        cluster.loadAssignment.Takes cluster.transportSocket secret
    | none => cluster.loadAssignment.RebuildsToItself cluster.transportSocket
  | .dynamic cluster =>
    match cluster.transportSocket.tlsConfigurator with
    | some configurator => configurator.Takes secretId secret ∧
        ∀ loadAssignment, cluster.loadAssignment = some loadAssignment →
          loadAssignment.Takes cluster.transportSocket secret
    | none => ∀ loadAssignment, cluster.loadAssignment = some loadAssignment →
        loadAssignment.RebuildsToItself cluster.transportSocket
  | .onDemand cluster =>
    (∀ configurator, cluster.httpConfig.tlsConfigurator = some configurator →
      configurator.Takes secretId secret) ∧
    ((ClusterType.onDemand cluster).RefersTo secretId secret →
      cluster.httpConfig.tlsConfigurator.isSome ∧ cluster.transportSocket.Uses secret ∧
        ∀ authority endpoint, cluster.endpoints.find now authority = some endpoint →
          endpoint.Uses secret) ∧
    (¬ (ClusterType.onDemand cluster).RefersTo secretId secret →
      ∀ configurator, cluster.httpConfig.tlsConfigurator = some configurator →
        configurator.BuiltWith secret)

/-- The change succeeds, a cluster that refers to the secret uses it then, and any other
is as before. -/
structure ClusterType.Reached (now : Nat) (secretId : Text) (secret : TransportSecret)
    (cluster : ClusterType) : Prop where
  succeeds : (cluster.changeTlsContext secretId secret).1 = .ok ()
  user : cluster.RefersTo secretId secret →
    (cluster.changeTlsContext secretId secret).2.Uses now secret
  other : ¬ cluster.RefersTo secretId secret →
    (cluster.changeTlsContext secretId secret).2 = cluster

namespace ClusterType

variable {cluster next : ClusterType} {secretId : Text} {secret : TransportSecret}

theorem not_reached (failed : cluster.changeTlsContext secretId secret = (.error error, next)) :
    ¬ cluster.Reached now secretId secret := by
  intro reached
  have succeeds := reached.succeeds
  rw [failed] at succeeds
  cases succeeds

section

variable (changed : cluster.changeTlsContext secretId secret = (.ok (), next))

include changed

theorem reached_iff : cluster.Reached now secretId secret ↔
    (cluster.RefersTo secretId secret → next.Uses now secret) ∧
      (¬ cluster.RefersTo secretId secret → next = cluster) := by
  constructor
  · rintro ⟨_, user, other⟩
    rw [changed] at user other
    exact ⟨user, other⟩
  · rintro ⟨user, other⟩
    refine ⟨by rw [changed], ?_, ?_⟩
    · rwa [changed]
    · rwa [changed]

theorem reached_iff_of_user (refers : cluster.RefersTo secretId secret) :
    cluster.Reached now secretId secret ↔ next.Uses now secret := by
  simp [reached_iff changed, refers]

theorem reached_iff_of_other (apart : ¬ cluster.RefersTo secretId secret) :
    cluster.Reached now secretId secret ↔ next = cluster := by
  simp [reached_iff changed, apart]

end

end ClusterType

theorem DynamicCluster.takes_iff_reached (cluster : DynamicCluster) (now : Nat) (secretId : Text)
    (secret : TransportSecret) : (ClusterType.dynamic cluster).Takes now secretId secret ↔
      (ClusterType.dynamic cluster).Reached now secretId secret := by
  have changed : (ClusterType.dynamic cluster).changeTlsContext secretId secret =
      (cluster.changeTlsContext secretId secret).map id .dynamic := rfl
  cases secured : cluster.transportSocket.tlsConfigurator with
  | none =>
    have apart := not_refersTo_of_plain (.dynamic cluster) secretId secret secured
    have updated := @updateSecret_of_plain _ _ secretId secret secured
    simp only [ClusterType.Takes, secured, ClusterLoadAssignment.RebuildsToItself]
    cases assigned : cluster.loadAssignment with
    | none =>
      simp only [changeTlsContext, updated, assigned] at changed
      rw [reached_iff_of_other changed apart]
      refine iff_of_true (by simp) ?_
      rw [← assigned]
    | some before =>
      simp only [some.injEq, forall_eq']
      cases rebuilt : ClusterLoadAssignment.rebuild
        { before with transportSocket := cluster.transportSocket } with
      | error error =>
        simp only [changeTlsContext, updated, assigned, rebuilt] at changed
        exact iff_of_false (by simp) (not_reached changed)
      | ok loadAssignment =>
        simp only [changeTlsContext, updated, assigned, rebuilt] at changed
        rw [reached_iff_of_other changed apart]
        constructor
        · intro same
          rw [Except.ok.inj same, ← assigned]
        · intro same
          have kept := congrArg DynamicCluster.loadAssignment (ClusterType.dynamic.inj same)
          rw [assigned] at kept
          rw [some.inj kept]
  | some configurator =>
    simp only [ClusterType.Takes, secured]
    cases update : configurator.update secretId secret with
    | none =>
      have rejected :=
        updateSecret_of_none secured update
      simp only [changeTlsContext, rejected] at changed
      exact iff_of_false (fun takes => not_takes_of_update update takes.1) (not_reached changed)
    | some next =>
      rcases updateSecret_of_some secured update with ⟨socket, updated, current⟩
      have takes := takes_of_update update
      have refers : (ClusterType.dynamic cluster).RefersTo secretId secret :=
        ⟨configurator, secured, takes.refers⟩
      have uses : socket.Uses secret := ⟨next, current, update_uses update⟩
      cases assigned : cluster.loadAssignment with
      | none =>
        simp only [changeTlsContext, updated, assigned] at changed
        rw [reached_iff_of_user changed refers]
        exact iff_of_true ⟨takes, by simp⟩ ⟨uses, fun _ impossible => by cases impossible⟩
      | some before =>
        simp only [takes, true_and, some.injEq, forall_eq',
          ClusterLoadAssignment.takes_iff_rebuild updated uses]
        cases rebuilt : ClusterLoadAssignment.rebuild
          { before with transportSocket := socket } with
        | error error =>
          simp only [changeTlsContext, updated, assigned, rebuilt] at changed
          exact iff_of_false (by simp) (not_reached changed)
        | ok loadAssignment =>
          simp only [changeTlsContext, updated, assigned, rebuilt] at changed
          rw [reached_iff_of_user changed refers]
          simp [ClusterType.Uses, uses]

theorem StaticCluster.takes_iff_reached (cluster : StaticCluster) (now : Nat) (secretId : Text)
    (secret : TransportSecret) : (ClusterType.static cluster).Takes now secretId secret ↔
      (ClusterType.static cluster).Reached now secretId secret := by
  -- The cluster succeeds with its endpoints like one that discovered them.
  let discovered : DynamicCluster := ⟨cluster.name, {}, some cluster.loadAssignment,
    cluster.transportSocket, .standard .random, cluster.config⟩
  have dynamic := discovered.takes_iff_reached now secretId secret
  have found : (ClusterType.dynamic discovered).changeTlsContext secretId secret =
      (discovered.changeTlsContext secretId secret).map id .dynamic := rfl
  have changed : (ClusterType.static cluster).changeTlsContext secretId secret =
      (cluster.changeTlsContext secretId secret).map id .static := rfl
  simp only [ClusterType.Takes, discovered, some.injEq, forall_eq'] at dynamic
  rw [ClusterType.Takes, dynamic]
  cases updated : cluster.transportSocket.updateSecret secretId secret with
  | none =>
    simp only [discovered, DynamicCluster.changeTlsContext, changeTlsContext, updated]
      at found changed
    exact iff_of_false (not_reached found) (not_reached changed)
  | some socket =>
    cases rebuilt : ClusterLoadAssignment.rebuild
      { cluster.loadAssignment with transportSocket := socket } with
    | error error =>
      simp only [discovered, DynamicCluster.changeTlsContext, changeTlsContext, updated, rebuilt]
        at found changed
      exact iff_of_false (not_reached found) (not_reached changed)
    | ok loadAssignment =>
      simp only [discovered, DynamicCluster.changeTlsContext, changeTlsContext, updated, rebuilt]
        at found changed
      rw [reached_iff found, reached_iff changed]
      cases cluster
      simp [ClusterType.RefersTo, ClusterType.Uses, ClusterType.transportSocket]

theorem OriginalDstCluster.takes_iff_reached (cluster : OriginalDstCluster) (now : Nat)
    (secretId : Text) (secret : TransportSecret) : (ClusterType.onDemand cluster).Takes now secretId secret ↔
      (ClusterType.onDemand cluster).Reached now secretId secret := by
  have changed : (ClusterType.onDemand cluster).changeTlsContext secretId secret =
      (cluster.changeTlsContext secretId secret).map id .onDemand := rfl
  rw [ClusterType.Takes]
  cases secured : cluster.httpConfig.tlsConfigurator with
  | none =>
    simp only [changeTlsContext, secured] at changed
    rw [reached_iff changed]
    simp [ClusterType.Uses, secured]
  | some configurator =>
    simp only [some.injEq, forall_eq']
    cases update : configurator.update secretId secret with
    | none =>
      simp only [changeTlsContext, secured, update] at changed
      exact iff_of_false (fun takes => not_takes_of_update update takes.1) (not_reached changed)
    | some next =>
      simp only [changeTlsContext, secured, update] at changed
      have takes := takes_of_update update
      have uses := update_uses update
      rw [reached_iff changed, ← update_eq_self_iff takes.refers, update]
      simp only [takes, uses, ClusterType.Uses, true_and, some.injEq, exists_eq_left', isSome_some]
      refine and_congr_right fun _ => imp_congr_right fun _ => ⟨?_, ?_⟩
      · intro same
        rw [same, ← secured]
      · intro same
        have kept := congrArg (fun cluster => cluster.httpConfig.tlsConfigurator)
          (ClusterType.onDemand.inj same)
        exact some.inj (kept.trans secured)

theorem ClusterType.takes_iff_reached (cluster : ClusterType) (now : Nat) (secretId : Text)
    (secret : TransportSecret) :
    cluster.Takes now secretId secret ↔ cluster.Reached now secretId secret := by
  cases cluster with
  | static cluster | dynamic cluster => exact cluster.takes_iff_reached now secretId secret
  | onDemand cluster => exact cluster.takes_iff_reached now secretId secret

end

end Orion.Clusters

/-! ## The handler -/

namespace Orion.Xds

open Foundation Http Tls Clusters Option

variable {Limiter : Type}

section

variable [TlsPlatform] [HttpCrate] [ChannelCrates] [BalancerCrates] [HashMapOrder]
  {newLimiter : Configuration.LocalRateLimit → Limiter} {profile : BuildProfile}
  {handler : ConfigurationHandler} {id : Text} {secret : Secret}
  {secrets : SecretManager} {material : TransportSecret}

section

variable (valid : handler.secretManager.add secret = some (secrets, material))

include valid

end

end

/-! ## Two clusters with a secret each -/

attribute [local instance] TlsPlatform.inlineSecrets AsciiChannel.httpCrate ChannelCrates.ascii
  BalancerCrates.simple HashMapOrder.insertion

end Orion.Xds
