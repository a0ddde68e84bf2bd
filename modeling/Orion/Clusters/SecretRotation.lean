import Orion.Clusters.AssignmentHealth
import Orion.Clusters.Rebuild

/-! # Rotating the secrets of a cluster

A secret that changes gives a cluster a new TLS configuration. The endpoints are built
again with it, but a balancer keeps those it was built from, and endpoints on demand
stay in their cache.
-/

namespace Orion.Clusters

open Foundation Http Tls ClientConfigurator List Option
open OverrideHostLoadBalancer hiding channels

/-! ## The TLS configuration of a channel -/

inductive Channel where
  | http (channel : HttpChannel)
  | tcp (channel : TcpChannelConnector)
  | grpc (service : GrpcService)
  deriving DecidableEq

def HttpChannel.tlsConfig (channel : HttpChannel) : Option ClientConfig :=
  match channel.client with
  | .tls _ _ config _ _ => some config
  | .plain _ _ | .unix _ _ => none

def HttpChannel.isUnix (channel : HttpChannel) : Bool :=
  match channel.client with
  | .unix _ _ => true
  | .plain _ _ | .tls _ _ _ _ _ => false

def UpstreamTransportSocketConfigurator.tlsConfig
    (socket : UpstreamTransportSocketConfigurator) : Option ClientConfig :=
  socket.tlsConfigurator.map config

def Channel.tlsConfig : Channel → Option ClientConfig
  | .http channel => channel.tlsConfig
  | .tcp channel => channel.transportSocket.tlsConfig
  | .grpc service => service.inner.tlsConfig

theorem GrpcService.inner_of_tryNew {upstream : Authority}
    (made : tryNew channel upstream = .ok service) : service.inner = channel := by
  by_cases version : channel.httpVersion ≠ .http2
  · simp only [tryNew, if_pos version] at made
    cases made
  · simp only [tryNew, if_neg version] at made
    cases made
    rfl

def ClusterType.tlsConfigurator : ClusterType → Option ClientConfigurator
  | .static cluster => cluster.transportSocket.tlsConfigurator
  | .dynamic cluster => cluster.transportSocket.tlsConfigurator
  | .onDemand cluster => cluster.httpConfig.tlsConfigurator

def ClusterType.tlsConfig (self : ClusterType) : Option ClientConfig :=
  self.tlsConfigurator.map config

section

variable [ChannelCrates]

theorem HttpChannelBuilder.buildChannelFromAuthority_tlsConfig {builder : HttpChannelBuilder}
    (built : builder.buildChannelFromAuthority = .ok channel) :
    channel.tlsConfig = builder.tls.map config := by
  unfold buildChannelFromAuthority at built
  split at built
  · cases built
  · cases built
    cases builder.tls <;> rfl

theorem HttpChannelBuilder.build_tlsConfig {builder : HttpChannelBuilder}
    (built : builder.build = .ok channel) (network : channel.isUnix = false) :
    channel.tlsConfig = builder.tls.map config := by
  unfold HttpChannelBuilder.build at built
  split at built
  · exact buildChannelFromAuthority_tlsConfig built
  · unfold buildChannelFromPipe at built
    split at built
    · cases built
      cases network
    · cases built
  · cases built
  · cases built

theorem LbEndpointBuilder.build_httpChannel [HttpCrate] {builder : LbEndpointBuilder}
    {endpoint : LbEndpoint} (built : builder.build = .ok endpoint)
    (reached : endpoint.httpChannel = some channel) (network : channel.isUnix = false) :
    channel.tlsConfig = (channelTls builder.transportSocket).map config := by
  rw [LbEndpoint.httpChannel] at reached
  rcases (build_eq_ok built).2 with ⟨address, _, same⟩ | ⟨authority, channels, channelsBuilt, same⟩
  · rw [same] at reached
    cases reached
  · rw [same] at reached
    cases reached
    rcases bind_eq_ok_iff.mp channelsBuilt with ⟨httpChannel, httpBuilt, ⟨⟩⟩
    exact HttpChannelBuilder.build_tlsConfig httpBuilt network

theorem LbEndpointBuilder.build_tcpChannel [HttpCrate] {builder : LbEndpointBuilder}
    {endpoint : LbEndpoint} (built : builder.build = .ok endpoint)
    (reached : endpoint.tcpChannel = some channel) :
    channel.transportSocket = builder.transportSocket := by
  rw [LbEndpoint.tcpChannel] at reached
  rcases (build_eq_ok built).2 with ⟨address, _, same⟩ | ⟨authority, channels, channelsBuilt, same⟩
  · rw [same] at reached
    cases reached
  · rw [same] at reached
    cases reached
    rcases bind_eq_ok_iff.mp channelsBuilt with ⟨httpChannel, _, ⟨⟩⟩
    rfl

end

/-! ## Picking channels -/

inductive Pick where
  | http (now : Nat) (context : RoutingContext) (choice : Choice LbEndpoint)
  | tcp (now : Nat) (context : RoutingContext) (choice : Choice LbEndpoint)
  | grpc (now : Nat) (context : RoutingContext) (choice : Choice LbEndpoint)

def HttpChannels.toList : HttpChannels → List HttpChannel
  | .single channel => [channel]
  | .multiWithFailover channel failoverChannels => channel :: failoverChannels

namespace Channel

def ofHttp (result : Except BuildError HttpChannels) : List Channel :=
  (result.toOption.elim [] HttpChannels.toList).map .http

def ofTcp (result : Except BuildError TcpChannelConnector) : List Channel :=
  result.toOption.toList.map .tcp

def ofGrpc (result : Except BuildError GrpcService) : List Channel :=
  result.toOption.toList.map .grpc

theorem mem_ofHttp (member : channel ∈ ofHttp result) :
    ∃ channels http, result = .ok channels ∧ http ∈ channels.toList ∧ channel = .http http := by
  rcases mem_map.mp member with ⟨http, listed, rfl⟩
  cases result with
  | error error => cases listed
  | ok channels => exact ⟨channels, http, rfl, listed, rfl⟩

theorem mem_ofGrpc (member : channel ∈ ofGrpc result) :
    ∃ service, result = .ok service ∧ channel = .grpc service := by
  rcases mem_map.mp member with ⟨service, listed, rfl⟩
  cases result with
  | error error => cases listed
  | ok other =>
    rw [mem_singleton.mp listed]
    exact ⟨other, rfl, rfl⟩

end Channel

section

variable [HttpCrate] [ChannelCrates] [BalancerCrates]

/-- The channels returned by a pick; none if it fails. -/
def ClusterType.pick (self : ClusterType) : Pick → List Channel × ClusterType
  | .http now context choice =>
    (self.getHttpConnection now context choice).map Channel.ofHttp id
  | .tcp now context choice =>
    (self.getTcpConnection now context choice).map Channel.ofTcp id
  | .grpc now context choice =>
    (self.getGrpcConnection now context choice).map Channel.ofGrpc id

def ClusterType.machine : Machine ClusterType Pick Channel where
  step self pick := some ((self.pick pick).2, (self.pick pick).1)

/-! ## Channels that are built with the secret

Only endpoints that a request names are built again, and TCP channels on demand are not.
-/

/-- The healthy endpoints that a request names by the header for it. -/
def BalancerType.named (self : BalancerType) (context : RoutingContext) : List LbEndpoint :=
  match self, context with
  | .overrideHost balancer, .overrideHost header _ =>
    (HttpCrate.headerValueToStr header).elim [] balancer.overrideEndpoints
  | _, _ => []

/-- The request names endpoints, none of which is a socket in the file system, and HTTP
channels are secured as the socket is. -/
def ClusterLoadAssignment.Renewed (self : ClusterLoadAssignment)
    (socket : UpstreamTransportSocketConfigurator) : Pick → Prop
  | .http _ context _ =>
    self.balancer.named context ≠ [] ∧
      LbEndpointBuilder.channelTls socket = socket.tlsConfigurator ∧
      ∀ endpoint ∈ self.balancer.named context, ∀ channel,
        endpoint.httpChannel = some channel → channel.isUnix = false
  | .tcp _ _ _ | .grpc _ _ _ => False

/-- Where an HTTP or a gRPC channel on demand leads. -/
def Pick.destination : Pick → Option (Authority × Option Text)
  | .http _ (.authority authority address) _ => some (authority, some address)
  | .http _ (.header value) _ =>
    (ChannelCrates.authorityFromBytes value).map fun authority => (authority, none)
  | .grpc _ (.authority authority _) _ => some (authority, none)
  | _ => none

/-- No TCP channel is asked for, and the cache of the cluster has no endpoint for the
destination, or one that has expired. -/
def OriginalDstCluster.Renewed (self : OriginalDstCluster) (pick : Pick) : Prop :=
  match pick with
  | .http now _ _ | .grpc now _ _ => ∀ authority address,
      pick.destination = some (authority, address) → ∀ resolved,
        self.resolveAuthority authority address = .ok resolved →
          self.endpoints.find now resolved = none
  | .tcp _ _ _ => False

/-- A pick from a cluster since a change of its secret left it as it is here, which only
gets channels that the change or the picks since have built. -/
def ClusterType.Renewed : ClusterType → Pick → Prop
  | .static cluster, pick => cluster.loadAssignment.Renewed cluster.transportSocket pick
  | .dynamic cluster, pick => ∀ loadAssignment, cluster.loadAssignment = some loadAssignment →
      loadAssignment.Renewed cluster.transportSocket pick
  | .onDemand cluster, pick => cluster.Renewed pick

/-! ## Picks from a load assignment -/

omit [HttpCrate] [ChannelCrates] [BalancerCrates] in
theorem OverrideHostLoadBalancer.mem_channels {endpoints : List LbEndpoint}
    {channels : HttpChannels}
    (returned : OverrideHostLoadBalancer.channels named endpoints = .ok channels)
    (member : channel ∈ channels.toList) :
    ∃ endpoint ∈ endpoints, endpoint.httpChannel = some channel := by
  cases endpoints with
  | nil => cases returned
  | cons primary rest =>
    simp only [OverrideHostLoadBalancer.channels] at returned
    split at returned
    · cases returned
    · rename_i first reached
      split_ifs at returned with isNamed
      · rcases bind_eq_ok_iff.mp returned with ⟨failovers, mapped, ⟨⟩⟩
        rcases mem_cons.mp member with rfl | later
        · exact ⟨primary, by simp, reached⟩
        · rcases partner_of_right (mapM_eq_ok_iff.mp mapped) later with ⟨endpoint, known, found⟩
          split at found
          · cases found
          · rename_i other otherReached
            cases found
            exact ⟨endpoint, by simp [known], otherReached⟩
      · cases returned
        rw [mem_singleton.mp member]
        exact ⟨primary, by simp, reached⟩

namespace ClusterLoadAssignment

/-- The endpoints that can be named have the configuration of the socket, unless they
are sockets in the file system. -/
def NamesSecured (self : ClusterLoadAssignment)
    (socket : UpstreamTransportSocketConfigurator) : Prop :=
  ∀ context, ∀ endpoint ∈ self.balancer.named context, ∀ channel,
    endpoint.httpChannel = some channel → channel.isUnix = false →
      channel.tlsConfig = (LbEndpointBuilder.channelTls socket).map config

variable {self : ClusterLoadAssignment}

omit [ChannelCrates] in
/-- A request that names endpoints gets theirs, and the balancer is not asked. -/
theorem getHttpChannel_of_named (named : self.balancer.named context ≠ [])
    (choice : Choice LbEndpoint) :
    self.getHttpChannel context choice =
      (OverrideHostLoadBalancer.channels true (self.balancer.named context), self) := by
  rcases self with ⟨clusterName, transportSocket, protocolOptions, balancer, endpoints⟩
  cases balancer with
  | standard balancer => exact absurd rfl named
  | overrideHost balancer =>
    cases context with
    | overrideHost header fallbackHash =>
      simp only [BalancerType.named] at named ⊢
      cases text : HttpCrate.headerValueToStr header with
      | none =>
        rw [text] at named
        exact absurd rfl named
      | some value =>
        rw [text] at named
        change balancer.overrideEndpoints value ≠ [] at named
        simp only [getHttpChannel, selectOverride, OverrideHostLoadBalancer.selectEndpoints, text,
          elim_some]
    | none | header | authority | hash => exact absurd rfl named

omit [ChannelCrates] in
theorem NamesSecured.http {socket : UpstreamTransportSocketConfigurator}
    {choice : Choice LbEndpoint} (secured : self.NamesSecured socket) (now : Nat)
    (renewed : self.Renewed socket (.http now context choice)) :
    (∀ channels, (self.getHttpChannel context choice).1 = .ok channels →
        ∀ channel ∈ channels.toList, channel.tlsConfig = socket.tlsConfig) ∧
      (self.getHttpChannel context choice).2 = self := by
  rcases renewed with ⟨named, same, network⟩
  rw [getHttpChannel_of_named named]
  refine ⟨fun channels returned channel member => ?_, rfl⟩
  rcases mem_channels returned member with ⟨endpoint, listed, reached⟩
  rw [secured context endpoint listed channel reached (network endpoint listed channel reached),
    same]
  rfl

omit [BalancerCrates] in
theorem rebuild_namesSecured {next : ClusterLoadAssignment}
    (rebuilt : self.rebuild = .ok next) : next.NamesSecured self.transportSocket := by
  rcases bind_eq_ok_iff.mp rebuilt with ⟨endpoints, mapped, ⟨⟩⟩
  intro context endpoint named channel reached network
  rcases self with ⟨clusterName, transportSocket, protocolOptions, previous, localities⟩
  cases previous with
  | standard previous => cases named
  | overrideHost previous =>
    cases context with
    | overrideHost header fallbackHash =>
      simp only [BalancerType.rebuild, BalancerType.named] at named
      cases text : HttpCrate.headerValueToStr header with
      | none =>
        rw [text] at named
        cases named
      | some value =>
        rw [text] at named
        rcases mem_overrideEndpoints named with ⟨key, entry, known, _, rfl⟩
        rcases overrideMap_entry known with ⟨member, _⟩
        rcases mem_flatMap.mp member with ⟨locality, listed, within⟩
        rcases partner_of_right (mapM_eq_ok_iff.mp mapped) listed with
          ⟨original, _, localityBuilt⟩
        rcases bind_eq_ok_iff.mp localityBuilt with ⟨built, each, ⟨⟩⟩
        rcases partner_of_right (mapM_eq_ok_iff.mp each) within with ⟨_, _, endpointBuilt⟩
        exact LbEndpointBuilder.build_httpChannel endpointBuilt reached network
    | none | header | authority | hash => cases named

end ClusterLoadAssignment

/-! ## Picks on demand -/

namespace OriginalDstCluster

def tlsConfig (self : OriginalDstCluster) : Option ClientConfig :=
  self.httpConfig.tlsConfigurator.map ClientConfigurator.config

/-- The cluster since a secret was changed: the endpoints that came into its cache have
the configuration. -/
def Since (changed state : OriginalDstCluster) : Prop :=
  ∃ endpoints, state = { changed with endpoints := endpoints } ∧
    changed.endpoints.Since (fun endpoint => endpoint.httpChannel.tlsConfig = changed.tlsConfig)
      endpoints

variable {changed state : OriginalDstCluster} {choice : Choice LbEndpoint}

omit [HttpCrate] [BalancerCrates] in
theorem tryNew_tlsConfig {authority : Authority} {httpConfig : HttpChannelConfig}
    {bindDeviceOptions : BindDeviceOptions} {transportSocket : UpstreamTransportSocketConfigurator}
    (built : DstEndpoint.tryNew authority httpConfig bindDeviceOptions transportSocket =
      .ok endpoint) :
    endpoint.httpChannel.tlsConfig = httpConfig.tlsConfigurator.map ClientConfigurator.config := by
  rcases bind_eq_ok_iff.mp built with ⟨channel, channelBuilt, ⟨⟩⟩
  exact HttpChannelBuilder.buildChannelFromAuthority_tlsConfig channelBuilt

omit [BalancerCrates] in
/-- A connection is made by an endpoint that was built since. -/
theorem Since.connectionByAuthority {Connection : Type} (since : changed.Since state)
    (missing : ∀ resolved, changed.resolveAuthority authority address = .ok resolved →
      changed.endpoints.find now resolved = none)
    (channel : DstEndpoint → Except BuildError Connection) :
    (∀ connection, (state.connectionByAuthority channel now authority address).1 =
        .ok connection → ∃ endpoint, channel endpoint = .ok connection ∧
          endpoint.httpChannel.tlsConfig = changed.tlsConfig) ∧
      changed.Since (state.connectionByAuthority channel now authority address).2 := by
  rcases since with ⟨endpoints, rfl, since⟩
  unfold OriginalDstCluster.connectionByAuthority
  split
  · exact ⟨fun connection returned => (by cases returned), endpoints, rfl, since⟩
  · rename_i resolved resolves
    have absent := missing resolved resolves
    have found := LruCache.get_fst endpoints now resolved
    have kept := since.get absent
    rcases lookup : endpoints.get now resolved with ⟨cached, next⟩
    rw [lookup] at found kept
    cases cached with
    | some endpoint =>
      exact ⟨fun connection returned => ⟨endpoint, returned, since.find absent found.symm⟩,
        next, rfl, kept⟩
    | none =>
      simp only
      split
      · exact ⟨fun connection returned => (by cases returned), next, rfl, kept⟩
      · rename_i endpoint built
        have fresh := tryNew_tlsConfig built
        split
        · exact ⟨fun connection returned => (by cases returned), next, rfl, kept⟩
        · rename_i made
          refine ⟨fun connection returned => ?_, _, rfl, kept.insert fresh now resolved⟩
          cases returned
          exact ⟨endpoint, made, fresh⟩

omit [BalancerCrates] in
theorem Since.getHttpConnection (since : changed.Since state)
    (renewed : changed.Renewed (.http now context choice)) :
    (∀ channels, (state.getHttpConnection now context).1 = .ok channels →
        ∀ channel ∈ channels.toList, channel.tlsConfig = changed.tlsConfig) ∧
      changed.Since (state.getHttpConnection now context).2 := by
  have single : ∀ {authority address},
      (Pick.http now context choice).destination = some (authority, address) →
      (∀ channels, ((state.getHttpConnectionByAuthority now authority address).1.map
          HttpChannels.single) = .ok channels →
        ∀ channel ∈ channels.toList, channel.tlsConfig = changed.tlsConfig) ∧
      changed.Since (state.getHttpConnectionByAuthority now authority address).2 := by
    intro authority address asked
    rcases since.connectionByAuthority (renewed authority address asked)
      (fun endpoint => .ok endpoint.httpChannel) with ⟨made, next⟩
    refine ⟨fun channels returned channel member => ?_, next⟩
    rcases map_eq_ok_iff.mp returned with ⟨only, found, rfl⟩
    rcases made only found with ⟨endpoint, ⟨⟩, current⟩
    rw [mem_singleton.mp member]
    exact current
  cases context with
  | authority authority address => exact single rfl
  | header value =>
    cases parsed : ChannelCrates.authorityFromBytes value with
    | none =>
      simp only [OriginalDstCluster.getHttpConnection, getHttpConnectionByHeader, parsed]
      exact ⟨fun channels returned => (by cases returned), since⟩
    | some authority =>
      simp only [OriginalDstCluster.getHttpConnection, getHttpConnectionByHeader, parsed]
      exact single (by simp [Pick.destination, parsed])
  | none | hash | overrideHost => exact ⟨fun channels returned => (by cases returned), since⟩

omit [BalancerCrates] in
theorem Since.getGrpcConnection (since : changed.Since state)
    (renewed : changed.Renewed (.grpc now context choice)) :
    (∀ service, (state.getGrpcConnection now context).1 = .ok service →
        service.inner.tlsConfig = changed.tlsConfig) ∧
      changed.Since (state.getGrpcConnection now context).2 := by
  cases context with
  | authority authority address =>
    rcases since.connectionByAuthority (renewed authority none rfl) DstEndpoint.grpcService with
      ⟨made, next⟩
    refine ⟨fun service returned => ?_, next⟩
    rcases made service returned with ⟨endpoint, adapted, current⟩
    rw [GrpcService.inner_of_tryNew (mapError_eq_ok adapted)]
    exact current
  | none | header | hash | overrideHost =>
    exact ⟨fun service returned => (by cases returned), since⟩

end OriginalDstCluster

/-! ## Picks from a cluster -/

namespace ClusterType

/-- The endpoints that can be named were built again with the socket. -/
def Rebuilt : ClusterType → Prop
  | .static cluster => cluster.loadAssignment.NamesSecured cluster.transportSocket
  | .dynamic cluster => ∀ loadAssignment, cluster.loadAssignment = some loadAssignment →
      loadAssignment.NamesSecured cluster.transportSocket
  | .onDemand _ => True

/-- The cluster since a secret was changed. -/
def Since : ClusterType → ClusterType → Prop
  | .onDemand changed, .onDemand state => changed.Since state
  | changed, state => state = changed

/-- A pick that returns channels with the configuration of the changed cluster. -/
structure PicksRenewed (changed state : ClusterType) (pick : Pick) : Prop where
  channels : ∀ channel ∈ (state.pick pick).1, channel.tlsConfig = changed.tlsConfig
  since : changed.Since (state.pick pick).2

theorem picksRenewed {changed state : ClusterType} {pick : Pick} (rebuilt : changed.Rebuilt)
    (since : changed.Since state) (renewed : changed.Renewed pick) :
    changed.PicksRenewed state pick := by
  cases changed with
  | static cluster =>
    cases since
    cases pick with
    | http now context choice =>
      rcases ClusterLoadAssignment.NamesSecured.http rebuilt now renewed with ⟨secured, next⟩
      refine ⟨fun channel member => ?_, congrArg (fun loadAssignment =>
        static (cluster.changeLoadAssignment loadAssignment)) next⟩
      rcases Channel.mem_ofHttp member with ⟨channels, http, returned, listed, rfl⟩
      exact secured channels (mapError_eq_ok returned) http listed
    | tcp | grpc => exact renewed.elim
  | dynamic cluster =>
    cases since
    rcases cluster with ⟨name, options, loadAssignment, transportSocket, policy, config⟩
    cases loadAssignment with
    | none => cases pick <;> exact ⟨fun _ member => (by cases member), rfl⟩
    | some loadAssignment =>
      cases pick with
      | http now context choice =>
        rcases (rebuilt loadAssignment rfl).http now (renewed loadAssignment rfl) with
          ⟨secured, next⟩
        refine ⟨fun channel member => ?_, congrArg (fun loadAssignment => dynamic
          ⟨name, options, some loadAssignment, transportSocket, policy, config⟩) next⟩
        rcases Channel.mem_ofHttp member with ⟨channels, http, returned, listed, rfl⟩
        exact secured channels (mapError_eq_ok returned) http listed
      | tcp | grpc => exact (renewed loadAssignment rfl).elim
  | onDemand changed =>
    cases state with
    | static | dynamic => cases since
    | onDemand state =>
      cases pick with
      | http now context choice =>
        rcases OriginalDstCluster.Since.getHttpConnection since renewed with ⟨current, next⟩
        refine ⟨fun channel member => ?_, next⟩
        rcases Channel.mem_ofHttp member with ⟨channels, http, returned, listed, rfl⟩
        exact current channels returned http listed
      | tcp => exact renewed.elim
      | grpc now context choice =>
        rcases OriginalDstCluster.Since.getGrpcConnection since renewed with ⟨current, next⟩
        refine ⟨fun channel member => ?_, next⟩
        rcases Channel.mem_ofGrpc member with ⟨service, returned, rfl⟩
        exact current service returned

theorem Rebuilt.run {changed : ClusterType} (rebuilt : changed.Rebuilt)
    (run : machine.Run (fun _ => changed.Renewed) changed picks channels state) :
    ∀ channel ∈ channels, channel.tlsConfig = changed.tlsConfig := by
  have unchanged : changed.Since changed := by
    cases changed with
    | static | dynamic => rfl
    | onDemand cluster => exact ⟨cluster.endpoints, rfl, .refl⟩
  refine (run.invariant (fun _ channels state =>
    (∀ channel ∈ channels, channel.tlsConfig = changed.tlsConfig) ∧ changed.Since state)
    ⟨by simp, unchanged⟩ ?_).1
  rintro _ earlier state pick _ _ ⟨current, since⟩ renewed taken
  cases taken
  have picks := picksRenewed rebuilt since renewed
  refine ⟨fun channel member => ?_, picks.since⟩
  rcases mem_append.mp member with before | now
  · exact current channel before
  · exact picks.channels channel now

end ClusterType

end

/-! ## Rotation -/

section

variable [TlsPlatform]

theorem UpstreamTransportSocketConfigurator.updateSecret_tlsConfigurator
    {socket next : UpstreamTransportSocketConfigurator} {secretId : Text} {secret : TransportSecret}
    {configurator : ClientConfigurator} (updated : socket.updateSecret secretId secret = some next)
    (uses : socket.tlsConfigurator = some configurator) :
    ∃ current, configurator.update secretId secret = some current ∧
      next.tlsConfigurator = some current := by
  cases socket with
  | tls configurator =>
    cases uses
    rcases map_eq_some_iff.mp updated with ⟨current, accepted, rfl⟩
    exact ⟨current, accepted, rfl⟩
  | proxyProtocol proxy =>
    simp only [tlsConfigurator] at uses
    simp only [updateSecret, uses] at updated
    rcases map_eq_some_iff.mp updated with ⟨current, accepted, rfl⟩
    exact ⟨current, accepted, rfl⟩
  | none => cases uses

variable [HttpCrate] [ChannelCrates] [BalancerCrates]

omit [BalancerCrates] in
/-- A change that succeeds updates the configurator, and builds again what it can. -/
theorem ClusterType.changeTlsContext_ok {before after : ClusterType}
    (changed : before.changeTlsContext secretId secret = (.ok (), after)) :
    after.Rebuilt ∧ ∀ configurator, before.tlsConfigurator = some configurator →
      ∃ current, configurator.update secretId secret = some current ∧
        after.tlsConfigurator = some current := by
  cases before with
  | static cluster =>
    simp only [changeTlsContext, StaticCluster.changeTlsContext] at changed
    split at changed
    · cases changed
    · rename_i socket updated
      split at changed
      · cases changed
      · rename_i loadAssignment rebuilt
        cases changed
        exact ⟨ClusterLoadAssignment.rebuild_namesSecured rebuilt, fun _ =>
          UpstreamTransportSocketConfigurator.updateSecret_tlsConfigurator updated⟩
  | dynamic cluster =>
    simp only [changeTlsContext, DynamicCluster.changeTlsContext] at changed
    split at changed
    · cases changed
    · rename_i socket updated
      have current := fun configurator =>
        @UpstreamTransportSocketConfigurator.updateSecret_tlsConfigurator _ _ _ _ _
          configurator updated
      split at changed
      · rename_i missing
        cases changed
        refine ⟨fun loadAssignment assigned => ?_, current⟩
        rw [missing] at assigned
        cases assigned
      · rename_i previous assigned
        split at changed
        · cases changed
        · rename_i next rebuilt
          cases changed
          refine ⟨fun loadAssignment same => ?_, current⟩
          cases same
          exact ClusterLoadAssignment.rebuild_namesSecured rebuilt
  | onDemand cluster =>
    refine ⟨?_, fun configurator uses => ?_⟩
    · have next : after = .onDemand (cluster.changeTlsContext secretId secret).2 :=
        (congrArg Prod.snd changed).symm
      rw [next]
      trivial
    · simp only [tlsConfigurator] at uses
      simp only [changeTlsContext, OriginalDstCluster.changeTlsContext, uses] at changed
      split at changed
      · cases changed
      · rename_i current accepted
        cases changed
        exact ⟨current, accepted, rfl⟩

/-- After a change that succeeded, every channel returned is built with the secret, if the
endpoints are named by the requests, or are built on demand since and not for TCP. -/
theorem ClusterType.rotation_takes_effect {before after state : ClusterType} {secretId : Text}
    {secret : TransportSecret} {picks : List Pick} {channels : List Channel}
    (changed : before.changeTlsContext secretId secret = (.ok (), after))
    (run : machine.Run (fun _ => after.Renewed) after picks channels state)
    {configurator : ClientConfigurator} (uses : before.tlsConfigurator = some configurator) :
    ∃ current, configurator.update secretId secret = some current ∧
      ∀ channel ∈ channels, channel.tlsConfig = some current.config := by
  rcases changeTlsContext_ok changed with ⟨rebuilt, current⟩
  rcases current configurator uses with ⟨next, updated, inUse⟩
  refine ⟨next, updated, fun channel member => ?_⟩
  rw [rebuilt.run run channel member, tlsConfig, inUse]
  rfl

end

attribute [local instance] TlsPlatform.withoutFiles HttpCrate.ascii ChannelCrates.ascii
  BalancerCrates.simple HashMapOrder.insertion

/-- A destination whose endpoint has expired is picked for HTTP, for gRPC and for HTTP
again. -/
theorem ClusterType.rotation_takes_effect_onDemand : let config : ClusterConfig :=
      ⟨"cluster".toList, .originalDst {}, none, {}, .standard .clusterProvided,
        { codec := .http2 }, none, some 10⟩
    let context : RoutingContext := .authority "a:80".toList "10.0.0.1:80".toList
    let choice : Choice LbEndpoint := ⟨none, fun _ => 0, fun _ => 0⟩
    let before : ClusterType := .onDemand (OriginalDstCluster.getHttpConnection
      (OriginalDstClusterBuilder.build
        ⟨"cluster".toList, {}, .tls clientWithRoots, none, none, config⟩) 0 context).2
    let change := before.changeTlsContext "ca".toList (.validationContext ⟨[[2]], .none⟩)
    ∃ channels state current,
      machine.Run (fun _ => change.2.Renewed) change.2
        [.http 20 context choice, .grpc 21 context choice, .http 22 context choice]
        channels state ∧
      change.1 = .ok () ∧ channels.length = 3 ∧
      clientWithRoots.update "ca".toList (.validationContext ⟨[[2]], .none⟩) = some current ∧
      ∀ channel ∈ channels, channel.tlsConfig = some current.config := by
  intro config context choice before change
  let changed := OriginalDstCluster.changeTlsContext (OriginalDstCluster.getHttpConnection
    (OriginalDstClusterBuilder.build
      ⟨"cluster".toList, {}, .tls clientWithRoots, none, none, config⟩) 0 context).2
    "ca".toList (.validationContext ⟨[[2]], .none⟩)
  have old : changed.2.endpoints.timeToLive = 10 ∧
      ∀ entry ∈ changed.2.endpoints.entries, entry.2.2 = 0 := by decide +kernel
  have expired : ∀ now > 10, ∀ authority, changed.2.endpoints.find now authority = none := by
    intro now later authority
    refine (LruCache.find_eq_none_iff _ _ _).mpr fun endpoint used cached => ?_
    have unused : used = 0 := old.2 _ cached
    rw [old.1, unused]
    exact later
  have http : ∀ now > 10, change.2.Renewed (.http now context choice) :=
    fun now later _ _ _ resolved _ => expired now later resolved
  have grpc : change.2.Renewed (.grpc 21 context choice) :=
    fun _ _ _ resolved _ => expired 21 (by decide) resolved
  have initial : machine.Run (fun _ => change.2.Renewed) change.2 [] [] change.2 := .start
  have run := ((initial.extend (http 20 (by decide)) rfl).extend grpc rfl).extend
    (http 22 (by decide)) rfl
  rcases rotation_takes_effect (Prod.ext rfl rfl) run rfl with ⟨current, updated, renewed⟩
  exact ⟨_, _, current, run, rfl, by decide +kernel, updated, renewed⟩

/-- A static cluster keeps returning channels with the old roots. -/
theorem ClusterType.rotation_without_effect : let builder : ClusterLoadAssignmentBuilder :=
      { ClusterLoadAssignmentBuilder.plain [⟨[.plain "a".toList 80 .healthy], 0⟩]
          (.standard .roundRobin) with transportSocket := .tls clientWithRoots }
    (builder.build ⟨true⟩).toOption.map (fun loadAssignment =>
      let cluster : ClusterType := .static ⟨builder.clusterName, loadAssignment,
        builder.transportSocket, ⟨builder.clusterName, .eds none, none, {}, builder.lbPolicy,
          {}, none, none⟩⟩
      let change := cluster.changeTlsContext "ca".toList (.validationContext ⟨[[2]], .none⟩)
      (change.1.toOption, change.2.tlsConfig.map ClientConfig.verifier,
        (change.2.pick (.http 0 .none ⟨none, fun _ => 0, fun _ => 0⟩)).1.map fun channel =>
          channel.tlsConfig.map ClientConfig.verifier)) =
    some (some (), some (.webPki [[2]]), [some (.webPki [[1]])]) := by
  decide +kernel

end Orion.Clusters
