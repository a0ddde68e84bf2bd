import Orion.Clusters.Balancers.DefaultBalancer
import Orion.Clusters.Balancers.LeastRequest
import Orion.Clusters.Balancers.Maglev
import Orion.Clusters.Balancers.RingHash
import Orion.Clusters.Channels

/-! # Load assignments

The endpoints of a cluster by locality, and the balancer that chooses among them.
-/

namespace Orion.Clusters

open Foundation Http Orion.Configuration DefaultBalancer

/-! ## Endpoints

An endpoint of a cluster, with the channels built for it.
-/

/-- The authority that stands for endpoints that have none. -/
def dummyAuthority : Authority := "invalid.authority".toList

inductive EndpointAddressType where
  | socket (authority : Authority) (httpChannel : HttpChannel)
      (tcpChannel : TcpChannelConnector)
  | pipe (name : Text) (mode : Nat) (httpChannel : HttpChannel)
      (tcpChannel : TcpChannelConnector)
  | internal (address : InternalAddress)
  deriving DecidableEq

namespace EndpointAddressType

/-- `PartialEq`: channels do not count, and pipes are never equal. -/
def same : EndpointAddressType → EndpointAddressType → Bool
  | .socket left _ _, .socket right _ _ => left.eqIgnoreAsciiCase right
  | .internal left, .internal right => left = right
  | _, _ => false

def authority : EndpointAddressType → Authority
  | .socket authority _ _ => authority
  | .internal _ => dummyAuthority
  | .pipe _ _ _ _ => dummyAuthority

def toAddress [ChannelCrates] : EndpointAddressType → Address
  | .socket authority _ _ =>
    .socket (ChannelCrates.authorityHost authority)
      ((ChannelCrates.authorityPort authority).getD 0)
  | .internal address => .internal address
  | .pipe name mode _ _ => .pipe name mode

end EndpointAddressType

structure LbEndpoint where
  name : Text
  address : EndpointAddressType
  bindDeviceOptions : BindDeviceOptions
  weight : NonZeroU32
  healthStatus : HealthStatus
  deriving DecidableEq

namespace LbEndpoint

def authority (self : LbEndpoint) : Authority := self.address.authority

def httpChannel (self : LbEndpoint) : Option HttpChannel :=
  match self.address with
  | .socket _ httpChannel _ | .pipe _ _ httpChannel _ => some httpChannel
  | .internal _ => none

def tcpChannel (self : LbEndpoint) : Option TcpChannelConnector :=
  match self.address with
  | .socket _ _ tcpChannel | .pipe _ _ _ tcpChannel => some tcpChannel
  | .internal _ => none

def grpcService (self : LbEndpoint) : Except Text GrpcService :=
  match self.address with
  | .socket authority httpChannel _ => GrpcService.tryNew httpChannel authority
  | .pipe _ _ httpChannel _ => GrpcService.tryNew httpChannel dummyAuthority
  | .internal _ => .error "Internal endpoints don't support gRPC service yet".toList

end LbEndpoint

theorem eqIgnoreAsciiCase_refl (text : Text) : text.eqIgnoreAsciiCase text := by
  simp [Text.eqIgnoreAsciiCase]

instance : Endpoint LbEndpoint where
  same left right := left.address.same right.address
  authority := LbEndpoint.authority
  weight endpoint := endpoint.weight.value
  health := LbEndpoint.healthStatus
  weight_pos endpoint := endpoint.weight.positive
  weight_lt endpoint := endpoint.weight.fits
  same_authority := by
    intro left right equal
    rcases left with ⟨_, left, _, _, _⟩
    rcases right with ⟨_, right, _, _, _⟩
    cases left <;> cases right <;> simp only [EndpointAddressType.same] at equal
    · exact equal
    · cases equal
    · cases equal
    · cases equal
    · cases equal
    · cases equal
    · cases equal
    · cases equal
    · exact eqIgnoreAsciiCase_refl _

/-! ## Building endpoints -/

structure PartialLbEndpoint where
  address : Address
  bindDeviceOptions : BindDeviceOptions
  weight : NonZeroU32
  healthStatus : HealthStatus

def PartialLbEndpoint.new [ChannelCrates] (endpoint : LbEndpoint) : PartialLbEndpoint :=
  ⟨endpoint.address.toAddress, endpoint.bindDeviceOptions, endpoint.weight,
    endpoint.healthStatus⟩

def PartialLbEndpoint.ofConfig (config : LbEndpointConfig) : PartialLbEndpoint :=
  ⟨config.address, {}, config.loadBalancingWeight, config.healthStatus⟩

structure LbEndpointBuilder where
  clusterName : Text
  endpoint : PartialLbEndpoint
  httpProtocolOptions : HttpProtocolOptions
  transportSocket : UpstreamTransportSocketConfigurator
  serverName : Option ServerName := none
  connectTimeout : Option Duration

namespace LbEndpointBuilder

def authorityText (hostname : Text) (port : Nat) : Text :=
  match IpAddr.fromStr hostname with
  | some (.v6 _) => '[' :: hostname ++ "]:".toList ++ Nat.toDigits 10 port
  | _ => hostname ++ ':' :: Nat.toDigits 10 port

def channelTls (socket : UpstreamTransportSocketConfigurator) : Option Tls.ClientConfigurator :=
  match socket with
  | .tls configurator => some configurator
  | _ => none

variable [HttpCrate] [ChannelCrates]

def buildChannels (self : LbEndpointBuilder) (authority : Authority) :
    Except BuildError (HttpChannel × TcpChannelConnector) := do
  let httpChannel ← HttpChannelBuilder.build
    { tls := channelTls self.transportSocket
      address := some self.endpoint.address
      authority := some authority
      bindDeviceOptions := self.endpoint.bindDeviceOptions
      serverName := self.serverName
      httpProtocolOptions := self.httpProtocolOptions
      connectionTimeout := self.connectTimeout
      clusterName := some self.clusterName }
  let tcpChannel := TcpChannelConnector.new authority self.clusterName
    self.endpoint.bindDeviceOptions self.connectTimeout self.transportSocket
  return (httpChannel, tcpChannel)

def buildAddress (self : LbEndpointBuilder) : Except BuildError EndpointAddressType :=
  match self.endpoint.address with
  | .socket hostname port =>
    match HttpCrate.authorityFromStr (authorityText hostname port) with
    | none => .error .invalidUri
    | some authority => do
        let (httpChannel, tcpChannel) ← self.buildChannels authority
        return .socket authority httpChannel tcpChannel
  | .pipe _ _ => do
      -- A pipe becomes a socket with an authority that stands for none.
      let (httpChannel, tcpChannel) ← self.buildChannels dummyAuthority
      return .socket dummyAuthority httpChannel tcpChannel
  | .internal address => .ok (.internal address)

def build (self : LbEndpointBuilder) : Except BuildError LbEndpoint := do
  return ⟨self.clusterName, ← self.buildAddress, self.endpoint.bindDeviceOptions,
    self.endpoint.weight, self.endpoint.healthStatus⟩

end LbEndpointBuilder

section

variable [HttpCrate]

/-- Where an endpoint leads is where the configuration says. -/
def EndpointAddressType.LeadsTo (self : EndpointAddressType) : Address → Prop
  | .socket hostname port =>
    HttpCrate.authorityFromStr (LbEndpointBuilder.authorityText hostname port) =
      some self.authority
  | .pipe path _ => ∃ channel tcpChannel client,
      self = .socket dummyAuthority channel tcpChannel ∧ channel.client = .unix path client
  | .internal address => self = .internal address

variable [ChannelCrates]

/-- An endpoint leads where the configuration says, through channels of its own unless it
is internal. -/
theorem LbEndpointBuilder.build_eq_ok {builder : LbEndpointBuilder} {endpoint : LbEndpoint}
    (built : builder.build = .ok endpoint) :
    endpoint.address.LeadsTo builder.endpoint.address ∧
      ((∃ address, builder.endpoint.address = .internal address ∧
          endpoint.address = .internal address) ∨
        ∃ authority channels, builder.buildChannels authority = .ok channels ∧
          endpoint.address = .socket authority channels.1 channels.2) := by
  rcases bind_eq_ok_iff.mp built with ⟨address, addressBuilt, ⟨⟩⟩
  unfold buildAddress at addressBuilt
  cases target : builder.endpoint.address with
  | socket hostname port =>
    simp only [target] at addressBuilt
    split at addressBuilt
    · cases addressBuilt
    · rename_i authority parsed
      rcases bind_eq_ok_iff.mp addressBuilt with ⟨channels, channelsBuilt, ⟨⟩⟩
      exact ⟨parsed, .inr ⟨authority, channels, channelsBuilt, rfl⟩⟩
  | pipe path mode =>
    simp only [target] at addressBuilt
    rcases bind_eq_ok_iff.mp addressBuilt with ⟨channels, channelsBuilt, ⟨⟩⟩
    refine ⟨?_, .inr ⟨dummyAuthority, channels, channelsBuilt, rfl⟩⟩
    simp only [buildChannels, HttpChannelBuilder.build, target] at channelsBuilt
    cases channelsBuilt
    exact ⟨_, _, _, rfl, rfl⟩
  | internal address =>
    simp only [target] at addressBuilt
    cases addressBuilt
    exact ⟨rfl, .inl ⟨address, rfl, rfl⟩⟩

end

/-! ## Localities -/

structure LocalityLbEndpoints extends LocalityEndpoints LbEndpoint where
  name : Text
  transportSocket : UpstreamTransportSocketConfigurator
  httpProtocolOptions : HttpProtocolOptions
  connectionTimeout : Option Duration

structure PartialLocalityLbEndpoints where
  endpoints : List PartialLbEndpoint
  priority : Nat

def PartialLocalityLbEndpoints.ofConfig (config : LocalityLbEndpointsConfig) :
    PartialLocalityLbEndpoints :=
  ⟨config.lbEndpoints.map .ofConfig, config.priority⟩

structure LocalityLbEndpointsBuilder where
  clusterName : Text
  bindDeviceOptions : BindDeviceOptions
  endpoints : PartialLocalityLbEndpoints
  httpProtocolOptions : HttpProtocolOptions
  transportSocket : UpstreamTransportSocketConfigurator
  serverName : Option ServerName
  connectionTimeout : Option Duration

/-- A server name is only used where there is a TLS configuration. -/
def UpstreamTransportSocketConfigurator.serverName
    (socket : UpstreamTransportSocketConfigurator) (serverName : Option ServerName) :
    Option ServerName :=
  match socket.tlsConfigurator with
  | some _ => serverName
  | Option.none => Option.none

section

variable [HttpCrate] [ChannelCrates]

def LocalityLbEndpointsBuilder.endpointBuilder (self : LocalityLbEndpointsBuilder)
    (endpoint : PartialLbEndpoint) : LbEndpointBuilder where
  clusterName := self.clusterName
  endpoint := { endpoint with bindDeviceOptions := self.bindDeviceOptions }
  httpProtocolOptions := self.httpProtocolOptions
  transportSocket := self.transportSocket
  serverName := self.transportSocket.serverName self.serverName
  connectTimeout := self.connectionTimeout

def LocalityLbEndpointsBuilder.build (self : LocalityLbEndpointsBuilder) :
    Except BuildError LocalityLbEndpoints := do
  let endpoints ← self.endpoints.endpoints.mapM fun endpoint =>
    (self.endpointBuilder endpoint).build
  match LocalityEndpoints.build self.endpoints.priority endpoints with
  | .error message => .error (.message message)
  | .ok counted => return ⟨counted, self.clusterName, self.transportSocket,
      self.httpProtocolOptions, self.connectionTimeout⟩

def LocalityLbEndpoints.endpointBuilder (self : LocalityLbEndpoints) (endpoint : LbEndpoint) :
    LbEndpointBuilder where
  clusterName := self.name
  endpoint := .new endpoint
  httpProtocolOptions := self.httpProtocolOptions
  transportSocket := self.transportSocket
  connectTimeout := self.connectionTimeout

def LocalityLbEndpoints.rebuild (self : LocalityLbEndpoints) :
    Except BuildError LocalityLbEndpoints := do
  let endpoints ← self.endpoints.mapM fun endpoint => (self.endpointBuilder endpoint).build
  return { self with endpoints := endpoints }

end

/-! ## Balancers -/

inductive StandardBalancer where
  | roundRobin (balancer : DefaultBalancer (WeightedRoundRobinBalancer LbEndpoint) LbEndpoint)
  | random (balancer : DefaultBalancer (RandomBalancer LbEndpoint) LbEndpoint)
  | leastRequests
      (balancer : DefaultBalancer (WeightedLeastRequestBalancer LbEndpoint) LbEndpoint)
  | ringHash (balancer : DefaultBalancer (RingHashBalancer LbEndpoint) LbEndpoint)
  | maglev (balancer : DefaultBalancer (MaglevBalancer LbEndpoint) LbEndpoint)

namespace StandardBalancer

variable [BalancerCrates]

def buildFromPolicy [HashMapOrder] (profile : BuildProfile) (policy : StandardLbPolicy)
    (endpoints : List LocalityLbEndpoints) : Except Panic StandardBalancer :=
  let slice := endpoints.map LocalityLbEndpoints.toLocalityEndpoints
  match policy with
  | .random | .clusterProvided => (fromSlice profile slice).map .random
  | .roundRobin => (fromSlice profile slice).map .roundRobin
  | .leastRequest => (fromSlice profile slice).map .leastRequests
  | .ringHash => (fromSlice profile slice).map .ringHash
  | .maglev => (fromSlice profile slice).map .maglev

def updateHealth (profile : BuildProfile) (self : StandardBalancer) (endpoint : LbEndpoint)
    (health : HealthStatus) : Except Panic (Option ValueUpdated × StandardBalancer) :=
  match self with
  | .roundRobin balancer =>
    (balancer.updateHealth profile endpoint health).map (Prod.map id .roundRobin)
  | .random balancer =>
    (balancer.updateHealth profile endpoint health).map (Prod.map id .random)
  | .leastRequests balancer =>
    (balancer.updateHealth profile endpoint health).map (Prod.map id .leastRequests)
  | .ringHash balancer =>
    (balancer.updateHealth profile endpoint health).map (Prod.map id .ringHash)
  | .maglev balancer =>
    (balancer.updateHealth profile endpoint health).map (Prod.map id .maglev)

def nextItem (self : StandardBalancer) (choice : Choice LbEndpoint) :
    Option LbEndpoint × StandardBalancer :=
  match self with
  | .roundRobin balancer => (balancer.nextItem choice).map id .roundRobin
  | .random balancer => (balancer.nextItem choice).map id .random
  | .leastRequests balancer => (balancer.nextItem choice).map id .leastRequests
  | .ringHash balancer => (balancer.nextItem choice).map id .ringHash
  | .maglev balancer => (balancer.nextItem choice).map id .maglev

end StandardBalancer

/-! ## Overriding the host -/

structure OverrideEndpoint where
  endpoint : LbEndpoint
  healthy : Bool

/-- A balancer that prefers the hosts that a header of the request names. Its fallback
is built from a standard policy. -/
structure OverrideHostLoadBalancer where
  header : HeaderName
  fallback : StandardBalancer
  endpoints : Table Text OverrideEndpoint

namespace OverrideHostLoadBalancer

/-- Whether an endpoint is healthy, as far as it was known before. -/
def wasHealthy (previous : Option (Table Text OverrideEndpoint)) (endpoint : LbEndpoint) : Bool :=
  match previous.bind fun entries => entries endpoint.authority with
  | some entry => entry.healthy
  | none => endpoint.healthStatus.isHealthy

def overrideMap (previous : Option (Table Text OverrideEndpoint))
    (endpoints : List LocalityLbEndpoints) : Table Text OverrideEndpoint :=
  (endpoints.flatMap (·.endpoints)).foldl
    (fun entries endpoint =>
      entries.insert endpoint.authority ⟨endpoint, wasHealthy previous endpoint⟩)
    Table.empty

def new (header : HeaderName) (fallback : StandardBalancer)
    (endpoints : List LocalityLbEndpoints) : OverrideHostLoadBalancer :=
  ⟨header, fallback, overrideMap none endpoints⟩

def rebuild (self : OverrideHostLoadBalancer) (endpoints : List LocalityLbEndpoints) :
    OverrideHostLoadBalancer :=
  { self with endpoints := overrideMap (some self.endpoints) endpoints }

/-- The healthy endpoints that a header value names, in its order. -/
def overrideEndpoints [HttpCrate] (self : OverrideHostLoadBalancer) (value : Text) :
    List LbEndpoint :=
  (value.splitOn ',').filterMap fun raw =>
    let trimmed := Text.trim raw
    if trimmed = [] then
      none
    else do
      let authority ← HttpCrate.authorityFromStr trimmed
      let entry ← self.endpoints authority
      if entry.healthy then some entry.endpoint else none

variable [BalancerCrates]

/-- The endpoints selected: those that the header names, the first one before its
failovers, or else one of the fallback. The flag says which. -/
def selectEndpoints [HttpCrate] (self : OverrideHostLoadBalancer) (header : HeaderValue)
    (choice : Choice LbEndpoint) : Bool × List LbEndpoint × OverrideHostLoadBalancer :=
  let named := match HttpCrate.headerValueToStr header with
    | none => []
    | some value => self.overrideEndpoints value
  match named with
  | [] =>
    let (endpoint, fallback) := self.fallback.nextItem choice
    (false, endpoint.toList, { self with fallback := fallback })
  | endpoints => (true, endpoints, self)

def channels : Bool → List LbEndpoint → Except Text HttpChannels
  | _, [] => .error "No active endpoint".toList
  | named, primary :: rest =>
    match primary.httpChannel with
    | none => .error "No HTTP channel available for this endpoint".toList
    | some channel =>
      if named then do
        let failoverChannels ← rest.mapM fun endpoint =>
          match endpoint.httpChannel with
          | none => .error "No HTTP failover channels available for this endpoint".toList
          | some channel => .ok channel
        return .multiWithFailover channel failoverChannels
      else
        .ok (.single channel)

def selectOverride [HttpCrate] (self : OverrideHostLoadBalancer) (header : HeaderValue)
    (choice : Choice LbEndpoint) : Except Text HttpChannels × OverrideHostLoadBalancer :=
  let (named, endpoints, next) := self.selectEndpoints header choice
  (channels named endpoints, next)

def updateHealth (profile : BuildProfile) (self : OverrideHostLoadBalancer)
    (endpoint : LbEndpoint) (health : HealthStatus) :
    Except Panic (Option ValueUpdated × OverrideHostLoadBalancer) := do
  let endpoints := match self.endpoints endpoint.authority with
    | some entry =>
      self.endpoints.insert endpoint.authority { entry with healthy := health.isHealthy }
    | none => self.endpoints
  let (outcome, fallback) ← self.fallback.updateHealth profile endpoint health
  return (outcome, { self with endpoints := endpoints, fallback := fallback })

end OverrideHostLoadBalancer

inductive BalancerType where
  | standard (balancer : StandardBalancer)
  | overrideHost (balancer : OverrideHostLoadBalancer)

namespace BalancerType

variable [BalancerCrates]

def updateHealth (profile : BuildProfile) (self : BalancerType) (endpoint : LbEndpoint)
    (health : HealthStatus) : Except Panic (Option ValueUpdated × BalancerType) :=
  match self with
  | .standard balancer =>
    (balancer.updateHealth profile endpoint health).map (Prod.map id .standard)
  | .overrideHost balancer =>
    (balancer.updateHealth profile endpoint health).map (Prod.map id .overrideHost)

def nextItem (self : BalancerType) (choice : Choice LbEndpoint) :
    Option LbEndpoint × BalancerType :=
  match self with
  | .standard balancer => (balancer.nextItem choice).map id .standard
  | .overrideHost balancer =>
    let (endpoint, fallback) := balancer.fallback.nextItem choice
    (endpoint, .overrideHost { balancer with fallback := fallback })

def rebuild (self : BalancerType) (endpoints : List LocalityLbEndpoints) : BalancerType :=
  match self with
  | .overrideHost balancer => .overrideHost (balancer.rebuild endpoints)
  | other => other

end BalancerType

/-! ## Load assignments -/

structure ClusterLoadAssignment where
  clusterName : Text
  transportSocket : UpstreamTransportSocketConfigurator
  protocolOptions : HttpProtocolOptions
  balancer : BalancerType
  endpoints : List LocalityLbEndpoints

structure PartialClusterLoadAssignment where
  endpoints : List PartialLocalityLbEndpoints

def PartialClusterLoadAssignment.ofConfig (config : ClusterLoadAssignmentConfig) :
    PartialClusterLoadAssignment :=
  ⟨config.endpoints.map .ofConfig⟩

/-- What a request gives to choose by. Hashes are those computed by the hash
policies, and the original destination is the address as it is displayed. -/
inductive RoutingContext where
  | none
  | header (value : HeaderValue)
  | authority (authority : Authority) (originalDstAddress : Text)
  | hash (hash : Option Nat)
  | overrideHost (header : HeaderValue) (fallbackHash : Option Nat)

namespace ClusterLoadAssignment

section

variable (self : ClusterLoadAssignment)

def allEndpoints : List LbEndpoint :=
  self.endpoints.flatMap (·.endpoints)

def allHttpChannels : List (Authority × HttpChannel) :=
  self.allEndpoints.filterMap fun endpoint =>
    endpoint.httpChannel.map fun channel => (endpoint.authority, channel)

def allTcpChannels : List (Authority × TcpChannelConnector) :=
  self.allEndpoints.filterMap fun endpoint =>
    endpoint.tcpChannel.map fun channel => (endpoint.authority, channel)

end

section

variable [BalancerCrates]

def nextHttpChannel (self : ClusterLoadAssignment) (choice : Choice LbEndpoint) :
    Except Text HttpChannels × ClusterLoadAssignment :=
  let (endpoint, balancer) := self.balancer.nextItem choice
  (OverrideHostLoadBalancer.channels false endpoint.toList,
    { self with balancer := balancer })

/-- The random numbers and the loads of `choice` are used with the hash of the
context. -/
def getHttpChannel [HttpCrate] (self : ClusterLoadAssignment) (context : RoutingContext)
    (choice : Choice LbEndpoint) : Except Text HttpChannels × ClusterLoadAssignment :=
  match context with
  | .overrideHost header fallbackHash =>
    match self.balancer with
    | .overrideHost balancer =>
      let (channels, balancer) :=
        balancer.selectOverride header { choice with hash := fallbackHash }
      (channels, { self with balancer := .overrideHost balancer })
    | .standard _ => self.nextHttpChannel { choice with hash := fallbackHash }
  | .hash hash => self.nextHttpChannel { choice with hash := hash }
  | _ => self.nextHttpChannel { choice with hash := none }

def getTcpChannel (self : ClusterLoadAssignment) (choice : Choice LbEndpoint) :
    Except Text TcpChannelConnector × ClusterLoadAssignment :=
  let (endpoint, balancer) := self.balancer.nextItem { choice with hash := none }
  let channel := match endpoint with
    | none => .error "No active endpoint".toList
    | some endpoint =>
      match endpoint.tcpChannel with
      | none => .error "No TCP channel available for this endpoint".toList
      | some channel => .ok channel
  (channel, { self with balancer := balancer })

def getGrpcChannel (self : ClusterLoadAssignment) (choice : Choice LbEndpoint) :
    Except Text GrpcService × ClusterLoadAssignment :=
  let (endpoint, balancer) := self.balancer.nextItem { choice with hash := none }
  let channel := match endpoint with
    | none => .error "No active endpoint".toList
    | some endpoint => endpoint.grpcService
  (channel, { self with balancer := balancer })

def updateEndpointHealth (profile : BuildProfile) (self : ClusterLoadAssignment)
    (authority : Authority) (health : HealthStatus) : Except Panic ClusterLoadAssignment := do
  let affected := self.allEndpoints.filter fun endpoint =>
    endpoint.authority.eqIgnoreAsciiCase authority
  let balancer ← affected.foldlM (fun balancer endpoint =>
    (balancer.updateHealth profile endpoint health).map Prod.snd) self.balancer
  return { self with balancer := balancer }

end

def rebuild [HttpCrate] [ChannelCrates] (self : ClusterLoadAssignment) :
    Except BuildError ClusterLoadAssignment := do
  let endpoints ← self.endpoints.mapM fun locality =>
    LocalityLbEndpoints.rebuild { locality with transportSocket := self.transportSocket }
  return { self with endpoints := endpoints, balancer := self.balancer.rebuild endpoints }

end ClusterLoadAssignment

inductive Failure where
  | panicked (panic : Panic)
  | failed (error : BuildError)
  deriving DecidableEq

structure ClusterLoadAssignmentBuilder where
  clusterName : Text
  cla : PartialClusterLoadAssignment
  bindDeviceOptions : BindDeviceOptions
  protocolOptions : Option HttpProtocolOptions := none
  lbPolicy : LbPolicy
  transportSocket : UpstreamTransportSocketConfigurator
  serverName : Option ServerName := none
  connectionTimeout : Option Duration := none

namespace ClusterLoadAssignmentBuilder

variable [HttpCrate] [ChannelCrates]

def localityBuilder (self : ClusterLoadAssignmentBuilder)
    (endpoints : PartialLocalityLbEndpoints) : LocalityLbEndpointsBuilder where
  clusterName := self.clusterName
  bindDeviceOptions := self.bindDeviceOptions
  endpoints := endpoints
  httpProtocolOptions := self.protocolOptions.getD {}
  transportSocket := self.transportSocket
  serverName := self.transportSocket.serverName self.serverName
  connectionTimeout := self.connectionTimeout

def buildLocalities (self : ClusterLoadAssignmentBuilder) :
    Except BuildError (List LocalityLbEndpoints) :=
  self.cla.endpoints.mapM fun endpoints => (self.localityBuilder endpoints).build

def buildBalancer [BalancerCrates] [HashMapOrder] (profile : BuildProfile)
    (policy : LbPolicy) (endpoints : List LocalityLbEndpoints) : Except Failure BalancerType :=
  match policy with
  | .standard policy =>
    match StandardBalancer.buildFromPolicy profile policy endpoints with
    | .error panic => .error (.panicked panic)
    | .ok balancer => .ok (.standard balancer)
  | .overrideHost config =>
    match config.overrideHostSource with
    | .metadata _ =>
      .error (.failed (.message "Metadata override host source is not supported".toList))
    | .header header =>
      match StandardBalancer.buildFromPolicy profile config.fallbackPolicy endpoints with
      | .error panic => .error (.panicked panic)
      | .ok fallback => .ok (.overrideHost (.new header fallback endpoints))

def build [BalancerCrates] [HashMapOrder] (profile : BuildProfile)
    (self : ClusterLoadAssignmentBuilder) : Except Failure ClusterLoadAssignment :=
  match self.buildLocalities with
  | .error error => .error (.failed error)
  | .ok endpoints => do
      let balancer ← buildBalancer profile self.lbPolicy endpoints
      return ⟨self.clusterName, self.transportSocket, self.protocolOptions.getD {}, balancer,
        endpoints⟩

end ClusterLoadAssignmentBuilder

end Orion.Clusters
