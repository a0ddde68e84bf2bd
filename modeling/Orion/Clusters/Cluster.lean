import Orion.Clusters.LoadAssignment
import Orion.Foundation.OrderedMap

/-! # Clusters

A cluster has its endpoints from the configuration, from discovery, or makes them on
demand from the destination of a connection.
-/

namespace Orion.Clusters

open Foundation Http Orion.Configuration Tls

inductive ChangeError where
  | rejected
  | notRebuilt (error : BuildError)
  deriving DecidableEq

/-! ## Clusters with endpoints from the configuration -/

structure StaticCluster where
  name : Text
  loadAssignment : ClusterLoadAssignment
  transportSocket : UpstreamTransportSocketConfigurator
  config : ClusterConfig

namespace StaticCluster

def changeLoadAssignment (self : StaticCluster) (loadAssignment : ClusterLoadAssignment) :
    StaticCluster :=
  { self with loadAssignment := loadAssignment }

/-- The socket is changed before the endpoints are built again. -/
def changeTlsContext [TlsPlatform] [HttpCrate] [ChannelCrates] (self : StaticCluster)
    (secretId : Text) (secret : TransportSecret) : Except ChangeError Unit × StaticCluster :=
  match self.transportSocket.updateSecret secretId secret with
  | none => (.error .rejected, self)
  | some transportSocket =>
    let self := { self with transportSocket := transportSocket }
    match ClusterLoadAssignment.rebuild
      { self.loadAssignment with transportSocket := transportSocket } with
    | .error error => (.error (.notRebuilt error), self)
    | .ok loadAssignment => (.ok (), { self with loadAssignment := loadAssignment })

end StaticCluster

/-! ## Clusters with endpoints from discovery -/

structure DynamicCluster where
  name : Text
  bindDeviceOptions : BindDeviceOptions
  loadAssignment : Option ClusterLoadAssignment
  transportSocket : UpstreamTransportSocketConfigurator
  loadBalancingPolicy : LbPolicy
  config : ClusterConfig

namespace DynamicCluster

def changeLoadAssignment (self : DynamicCluster)
    (loadAssignment : Option ClusterLoadAssignment) : DynamicCluster :=
  { self with loadAssignment := loadAssignment }

/-- The load assignment is taken out before its endpoints are built again. -/
def changeTlsContext [TlsPlatform] [HttpCrate] [ChannelCrates] (self : DynamicCluster)
    (secretId : Text) (secret : TransportSecret) : Except ChangeError Unit × DynamicCluster :=
  match self.transportSocket.updateSecret secretId secret with
  | none => (.error .rejected, self)
  | some transportSocket =>
    let self := { self with transportSocket := transportSocket }
    match self.loadAssignment with
    | none => (.ok (), self)
    | some loadAssignment =>
      let self := { self with loadAssignment := none }
      match ClusterLoadAssignment.rebuild
        { loadAssignment with transportSocket := transportSocket } with
      | .error error => (.error (.notRebuilt error), self)
      | .ok loadAssignment =>
        (.ok (), { self with loadAssignment := some loadAssignment })

end DynamicCluster

/-! ## Clusters that follow the original destination -/

structure HttpChannelConfig where
  tlsConfigurator : Option ClientConfigurator
  connectTimeout : Option Duration
  serverName : Option ServerName
  httpProtocolOptions : HttpProtocolOptions

structure DstEndpoint where
  httpChannel : HttpChannel
  tcpChannel : TcpChannelConnector
  deriving DecidableEq

def DstEndpoint.tryNew [ChannelCrates] (authority : Authority)
    (httpConfig : HttpChannelConfig) (bindDeviceOptions : BindDeviceOptions)
    (transportSocket : UpstreamTransportSocketConfigurator) :
    Except BuildError DstEndpoint := do
  let httpChannel ← HttpChannelBuilder.buildWithNoAddress
    { tls := httpConfig.tlsConfigurator
      authority := some authority
      bindDeviceOptions := bindDeviceOptions
      serverName := if httpConfig.tlsConfigurator.isSome then httpConfig.serverName else none
      httpProtocolOptions := httpConfig.httpProtocolOptions
      connectionTimeout := httpConfig.connectTimeout }
  return ⟨httpChannel, TcpChannelConnector.new authority "original_dst_cluster".toList
    bindDeviceOptions httpConfig.connectTimeout transportSocket⟩

def DstEndpoint.grpcService (self : DstEndpoint) : Except BuildError GrpcService :=
  (GrpcService.tryNew self.httpChannel self.httpChannel.upstreamAuthority).mapError .message

structure OriginalDstCluster where
  name : Text
  httpConfig : HttpChannelConfig
  transportSocket : UpstreamTransportSocketConfigurator
  bindDeviceOptions : BindDeviceOptions
  endpoints : LruCache Authority DstEndpoint
  upstreamPortOverride : Option Nat
  config : ClusterConfig

namespace OriginalDstCluster

def maximumEndpoints : Nat := 10000

def defaultCleanupInterval : Duration := 5 * 1000000000

def changeTlsContext [TlsPlatform] (self : OriginalDstCluster) (secretId : Text)
    (secret : TransportSecret) : Except ChangeError Unit × OriginalDstCluster :=
  match self.httpConfig.tlsConfigurator with
  | none => (.ok (), self)
  | some configurator =>
    match configurator.update secretId secret with
    | none => (.error .rejected, self)
    | some configurator =>
      (.ok (), { self with
        httpConfig := { self.httpConfig with tlsConfigurator := some configurator } })

variable [HttpCrate] [ChannelCrates]

section

variable (self : OriginalDstCluster)

def applyPortOverride (authority : Authority) : Except BuildError Authority :=
  match self.upstreamPortOverride with
  | none => .ok authority
  | some port =>
    let host := ChannelCrates.authorityHost authority
    match HttpCrate.authorityFromStr (host ++ ':' :: Nat.toDigits 10 port) with
    | some authority => .ok authority
    | none => .error (.message ("Failed to apply port override ".toList ++
        Nat.toDigits 10 port ++ " for cluster ".toList ++ self.name))

/-- The authority to connect to: that of the original destination, if there is one. -/
def resolveAuthority (authority : Authority)
    (originalDstAddress : Option Text) : Except BuildError Authority :=
  match originalDstAddress with
  | none => self.applyPortOverride authority
  | some address =>
    match HttpCrate.authorityFromStr address with
    | none => .error .invalidUri
    | some authority => self.applyPortOverride authority

/-- A connection to an authority by a channel of its endpoint, which is kept for a while
if it has that channel. -/
def connectionByAuthority {Connection : Type}
    (channel : DstEndpoint → Except BuildError Connection) (now : Nat) (authority : Authority)
    (originalDstAddress : Option Text) : Except BuildError Connection × OriginalDstCluster :=
  match self.resolveAuthority authority originalDstAddress with
  | .error error => (.error error, self)
  | .ok authority =>
    let (cached, endpoints) := self.endpoints.get now authority
    match cached with
    | some endpoint => (channel endpoint, { self with endpoints := endpoints })
    | none =>
      match DstEndpoint.tryNew authority self.httpConfig self.bindDeviceOptions
        self.transportSocket with
      | .error error => (.error error, { self with endpoints := endpoints })
      | .ok endpoint =>
        match channel endpoint with
        | .error error => (.error error, { self with endpoints := endpoints })
        | .ok connection =>
          (.ok connection, { self with endpoints := endpoints.insert now authority endpoint })

def getHttpConnectionByAuthority :=
  self.connectionByAuthority fun endpoint => .ok endpoint.httpChannel

def getTcpConnectionByAuthority :=
  self.connectionByAuthority fun endpoint => .ok endpoint.tcpChannel

/-- The original destination of a gRPC connection is not looked at. -/
def getGrpcConnectionByAuthority (now : Nat) (authority : Authority) :=
  self.connectionByAuthority DstEndpoint.grpcService now authority none

def getHttpConnectionByHeader (now : Nat)
    (value : HeaderValue) : Except BuildError HttpChannel × OriginalDstCluster :=
  match ChannelCrates.authorityFromBytes value with
  | none => (.error (.message
      ("Invalid authority in header for ORIGINAL_DST cluster ".toList ++ self.name)), self)
  | some authority => self.getHttpConnectionByAuthority now authority none

def getHttpConnection (now : Nat) (context : RoutingContext) :
    Except BuildError HttpChannels × OriginalDstCluster :=
  match context with
  | .authority authority address =>
    (self.getHttpConnectionByAuthority now authority (some address)).map
      (Except.map .single) id
  | .header value => (self.getHttpConnectionByHeader now value).map (Except.map .single) id
  | _ => (.error (.message ("ORIGINAL_DST cluster ".toList ++ self.name ++
      " requires authority or header routing context".toList)), self)

def getTcpConnection (now : Nat) (context : RoutingContext) :
    Except BuildError TcpChannelConnector × OriginalDstCluster :=
  match context with
  | .authority authority address =>
    self.getTcpConnectionByAuthority now authority (some address)
  | _ => (.error (.message ("ORIGINAL_DST cluster ".toList ++ self.name ++
      " requires authority routing context".toList)), self)

def getGrpcConnection (now : Nat) (context : RoutingContext) :
    Except BuildError GrpcService × OriginalDstCluster :=
  match context with
  | .authority authority _ => self.getGrpcConnectionByAuthority now authority
  | _ => (.error (.message ("ORIGINAL_DST cluster ".toList ++ self.name ++
      " requires authority routing context".toList)), self)

end

end OriginalDstCluster

/-! ## Clusters -/

inductive ClusterType where
  | static (cluster : StaticCluster)
  | dynamic (cluster : DynamicCluster)
  | onDemand (cluster : OriginalDstCluster)

namespace ClusterType

def name : ClusterType → Text
  | .static cluster => cluster.name
  | .dynamic cluster => cluster.name
  | .onDemand cluster => cluster.name

def transportSocket : ClusterType → UpstreamTransportSocketConfigurator
  | .static cluster => cluster.transportSocket
  | .dynamic cluster => cluster.transportSocket
  | .onDemand cluster => cluster.transportSocket

def loadAssignment : ClusterType → Option ClusterLoadAssignment
  | .static cluster => some cluster.loadAssignment
  | .dynamic cluster => cluster.loadAssignment
  | .onDemand _ => none

variable [HttpCrate] [ChannelCrates]

def changeTlsContext [TlsPlatform] (self : ClusterType) (secretId : Text)
    (secret : TransportSecret) : Except ChangeError Unit × ClusterType :=
  match self with
  | .static cluster => (cluster.changeTlsContext secretId secret).map id .static
  | .dynamic cluster => (cluster.changeTlsContext secretId secret).map id .dynamic
  | .onDemand cluster => (cluster.changeTlsContext secretId secret).map id .onDemand

variable [BalancerCrates]

def updateHealth (profile : BuildProfile) (self : ClusterType) (endpoint : Authority)
    (health : HealthStatus) : Except Panic ClusterType :=
  match self with
  | .static cluster => do
      let loadAssignment ← cluster.loadAssignment.updateEndpointHealth profile endpoint health
      return .static (cluster.changeLoadAssignment loadAssignment)
  | .dynamic cluster =>
    match cluster.loadAssignment with
    | none => .ok (.dynamic cluster)
    | some loadAssignment => do
        let loadAssignment ← loadAssignment.updateEndpointHealth profile endpoint health
        return .dynamic (cluster.changeLoadAssignment (some loadAssignment))
  | .onDemand cluster => .ok (.onDemand cluster)

/-- A connection to an endpoint of the cluster, or to one that is made on demand. -/
def getConnection {T : Type} (self : ClusterType)
    (getChannel : ClusterLoadAssignment → Except Text T × ClusterLoadAssignment)
    (onDemand : OriginalDstCluster → Except BuildError T × OriginalDstCluster) :
    Except BuildError T × ClusterType :=
  match self with
  | .static cluster =>
    (getChannel cluster.loadAssignment).map (Except.mapError .message)
      fun loadAssignment => .static (cluster.changeLoadAssignment loadAssignment)
  | .dynamic cluster =>
    match cluster.loadAssignment with
    | none =>
      (.error (.message (cluster.name ++ " No channels available".toList)),
        .dynamic cluster)
    | some loadAssignment =>
      (getChannel loadAssignment).map (Except.mapError .message)
        fun loadAssignment =>
          .dynamic (cluster.changeLoadAssignment (some loadAssignment))
  | .onDemand cluster => (onDemand cluster).map id .onDemand

section

variable (self : ClusterType) (now : Nat) (context : RoutingContext) (choice : Choice LbEndpoint)

def getHttpConnection : Except BuildError HttpChannels × ClusterType :=
  self.getConnection (·.getHttpChannel context choice) (·.getHttpConnection now context)

def getTcpConnection : Except BuildError TcpChannelConnector × ClusterType :=
  self.getConnection (·.getTcpChannel choice) (·.getTcpConnection now context)

def getGrpcConnection : Except BuildError GrpcService × ClusterType :=
  self.getConnection (·.getGrpcChannel choice) (·.getGrpcConnection now context)

end

end ClusterType

/-! ## Building clusters -/

structure StaticClusterBuilder where
  name : Text
  loadAssignment : ClusterLoadAssignmentBuilder
  transportSocket : UpstreamTransportSocketConfigurator
  config : ClusterConfig

structure DynamicClusterBuilder where
  name : Text
  bindDeviceOptions : BindDeviceOptions
  transportSocket : UpstreamTransportSocketConfigurator
  loadBalancingPolicy : LbPolicy
  config : ClusterConfig

def DynamicClusterBuilder.build (self : DynamicClusterBuilder) : DynamicCluster where
  name := self.name
  bindDeviceOptions := self.bindDeviceOptions
  loadAssignment := none
  transportSocket := self.transportSocket
  loadBalancingPolicy := self.loadBalancingPolicy
  config := self.config

structure OriginalDstClusterBuilder where
  name : Text
  bindDeviceOptions : BindDeviceOptions
  transportSocket : UpstreamTransportSocketConfigurator
  connectTimeout : Option Duration
  serverName : Option ServerName
  config : ClusterConfig

def OriginalDstClusterBuilder.build (self : OriginalDstClusterBuilder) :
    OriginalDstCluster where
  name := self.name
  httpConfig := ⟨self.transportSocket.tlsConfigurator, self.connectTimeout, self.serverName,
    self.config.httpProtocolOptions⟩
  transportSocket := self.transportSocket
  bindDeviceOptions := self.bindDeviceOptions
  endpoints := .withExpiryDurationAndCapacity
    (self.config.cleanupInterval.getD OriginalDstCluster.defaultCleanupInterval)
    OriginalDstCluster.maximumEndpoints
  upstreamPortOverride := match self.config.discoverySettings with
    | .originalDst config => config.upstreamPortOverride
    | _ => none
  config := self.config

inductive PartialClusterType where
  | static (builder : StaticClusterBuilder)
  | dynamic (builder : DynamicClusterBuilder)
  | onDemand (builder : OriginalDstClusterBuilder)

namespace PartialClusterType

variable [ChannelCrates]

/-- The server name of the TLS configuration, unless it is no name. -/
def serverName (transportSocket : UpstreamTransportSocketConfigurator) : Option ServerName :=
  transportSocket.tlsConfigurator.bind fun configurator =>
    ChannelCrates.serverNameFromStr configurator.contextBuilder.sni

/-- The load assignment of a cluster that has its endpoints from the configuration. -/
def loadAssignmentBuilder (cluster : ClusterConfig)
    (transportSocket : UpstreamTransportSocketConfigurator)
    (cla : ClusterLoadAssignmentConfig) : ClusterLoadAssignmentBuilder where
  clusterName := cluster.name
  cla := .ofConfig cla
  bindDeviceOptions := cluster.bindDeviceOptions
  protocolOptions := some cluster.httpProtocolOptions
  lbPolicy := cluster.loadBalancingPolicy
  transportSocket := transportSocket
  serverName := serverName transportSocket
  connectionTimeout := cluster.connectTimeout

def dynamicBuilder (cluster : ClusterConfig)
    (transportSocket : UpstreamTransportSocketConfigurator) : DynamicClusterBuilder where
  name := cluster.name
  bindDeviceOptions := cluster.bindDeviceOptions
  transportSocket := transportSocket
  loadBalancingPolicy := cluster.loadBalancingPolicy
  config := cluster

/-- `none` is an invalid TLS configuration. -/
def ofConfig [TlsPlatform] (cluster : ClusterConfig) (secrets : SecretManager) :
    Option PartialClusterType :=
  (UpstreamTransportSocketConfigurator.ofConfig cluster.transportSocket secrets).map
    fun transportSocket =>
      match cluster.discoverySettings with
      | .static cla | .strictDns cla =>
        .static ⟨cluster.name, loadAssignmentBuilder cluster transportSocket cla,
          transportSocket, cluster⟩
      -- Endpoints in the configuration are not used.
      | .eds _ => .dynamic (dynamicBuilder cluster transportSocket)
      | .originalDst _ =>
        .onDemand ⟨cluster.name, cluster.bindDeviceOptions, transportSocket,
          cluster.connectTimeout, serverName transportSocket, cluster⟩

def build [HttpCrate] [BalancerCrates] [HashMapOrder] (profile : BuildProfile)
    (self : PartialClusterType) : Except Failure ClusterType :=
  match self with
  | .static builder => do
      let loadAssignment ← builder.loadAssignment.build profile
      return .static ⟨builder.name, loadAssignment, builder.transportSocket, builder.config⟩
  | .dynamic builder => .ok (.dynamic builder.build)
  | .onDemand builder => .ok (.onDemand builder.build)

end PartialClusterType

/-! ## The clusters of the proxy

All clusters by their names, with the changes that discovery makes to them.
-/

/-! ## Load assignments from discovery -/

/-- Of the settings of the cluster, the protocol options, the server name and the
timeout are not passed on. -/
def DynamicCluster.assignmentBuilder (self : DynamicCluster)
    (cla : PartialClusterLoadAssignment) : ClusterLoadAssignmentBuilder where
  clusterName := self.name
  cla := cla
  bindDeviceOptions := self.bindDeviceOptions
  lbPolicy := self.loadBalancingPolicy
  transportSocket := self.transportSocket

/-- A static cluster gets the endpoints too, balanced by turns. -/
def StaticCluster.assignmentBuilder (self : StaticCluster)
    (cla : PartialClusterLoadAssignment) : ClusterLoadAssignmentBuilder where
  clusterName := self.name
  cla := cla
  bindDeviceOptions := {}
  lbPolicy := .standard .roundRobin
  transportSocket := self.transportSocket

/-- The text for endpoints that a cluster cannot have, up to where they are listed. -/
def unexpectedEndpoints (name : Text) : Text :=
  name ++ (" Attempt to change CLA for ORIGINAL_DST cluster " ++
    "...but endpoints are not empty ").toList

section

variable [HttpCrate] [ChannelCrates] [BalancerCrates] [HashMapOrder]

def ClusterType.changeLoadAssignment (profile : BuildProfile) (self : ClusterType)
    (name : Text) (cla : PartialClusterLoadAssignment) : Except Failure ClusterType :=
  match self with
  | .dynamic cluster => do
      let loadAssignment ← (cluster.assignmentBuilder cla).build profile
      return .dynamic (cluster.changeLoadAssignment (some loadAssignment))
  | .static cluster => do
      let loadAssignment ← (cluster.assignmentBuilder cla).build profile
      return .static (cluster.changeLoadAssignment loadAssignment)
  | .onDemand cluster =>
    match cla.endpoints with
    | [] => .ok (.onDemand cluster)
    | _ => .error (.failed (.message (unexpectedEndpoints name)))

end

/-! ## The map -/

abbrev ClustersMap := OrderedMap Text ClusterType

namespace ClustersMap

def noClusterFound (name : Text) : Text := name ++ " No cluster found".toList

/-- Clusters without discovery keep their load assignment. -/
def removeClusterLoadAssignment (self : ClustersMap) (name : Text) :
    Except Text Unit × ClustersMap :=
  match self.get? name with
  | none => (.error (noClusterFound name), self)
  | some (.dynamic cluster) =>
    (.ok (), self.insert name (.dynamic (cluster.changeLoadAssignment none)))
  | some (.static _) =>
    (.error (name ++ " Attempt to change CLA for static cluster".toList), self)
  | some (.onDemand _) =>
    (.error (name ++ " Attempt to change CLA for ORIGINAL_DST cluster".toList), self)

def removeCluster (self : ClustersMap) (name : Text) : Except Text Unit × ClustersMap :=
  match self.get? name with
  | none => (.error "No such cluster".toList, self)
  | some _ => (.ok (), self.erase name)

variable [HttpCrate] [ChannelCrates]

/-- The clusters are changed in the order of their names; the first that fails ends it. -/
def updateTlsContext [TlsPlatform] (self : ClustersMap) (secretId : Text)
    (secret : TransportSecret) : Except ChangeError (List ClusterType) × ClustersMap :=
  self.tryUpdate fun cluster => cluster.changeTlsContext secretId secret

variable [BalancerCrates] [HashMapOrder]

section

variable (profile : BuildProfile)

def changeClusterLoadAssignment (self : ClustersMap) (name : Text)
    (cla : PartialClusterLoadAssignment) : Except Failure ClusterType × ClustersMap :=
  match self.get? name with
  | none => (.error (.failed (.message (noClusterFound name))), self)
  | some cluster =>
    match cluster.changeLoadAssignment profile name cla with
    | .error failure => (.error failure, self)
    | .ok cluster => (.ok cluster, self.insert name cluster)

theorem changeClusterLoadAssignment_fst {self : ClustersMap}
    (found : self.get? name = some cluster) (cla : PartialClusterLoadAssignment) :
    (self.changeClusterLoadAssignment profile name cla).1 =
      cluster.changeLoadAssignment profile name cla := by
  simp only [changeClusterLoadAssignment, found]
  split
  · rename_i failure failed
    exact failed.symm
  · rename_i next changed
    exact changed.symm

/-- A cluster of the same name is replaced. -/
def addCluster (self : ClustersMap)
    (partialCluster : PartialClusterType) : Except Failure ClusterType × ClustersMap :=
  match partialCluster.build profile with
  | .error failure => (.error failure, self)
  | .ok cluster => (.ok cluster, self.insert cluster.name cluster)

theorem addCluster_fst (self : ClustersMap) (partialCluster : PartialClusterType) :
    (self.addCluster profile partialCluster).1 = partialCluster.build profile := by
  unfold addCluster
  cases partialCluster.build profile <;> rfl

def updateEndpointHealth (self : ClustersMap) (name : Text)
    (endpoint : Authority) (health : HealthStatus) : Except Panic ClustersMap :=
  match self.get? name with
  | none => .ok self
  | some cluster =>
    (cluster.updateHealth profile endpoint health).map fun cluster =>
      self.insert name cluster

end

end ClustersMap

end Orion.Clusters
