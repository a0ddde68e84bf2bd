import Orion.Clusters.Balancers.Balancer
import Orion.Configuration.RetryPolicy
import Orion.Foundation.IpAddress
import Orion.Tls.Configurator

/-! # Channels to endpoints

A channel keeps what is needed to connect: where to, from which device, within
which time, and how the connection is secured. Here a channel is what it was built
from; what it answers is not looked at.
-/

namespace Orion.Clusters

open Foundation Http Orion.Configuration Tls

/-! ## Addresses -/

structure InternalAddress where
  serverListenerName : Text
  endpointId : Option Text
  deriving DecidableEq

inductive Address where
  | socket (hostname : Text) (port : Nat)
  | pipe (name : Text) (mode : Nat)
  | internal (address : InternalAddress)
  deriving DecidableEq

structure BindDeviceOptions where
  bindDevice : Option Bytes := none
  bindAddress : Option Address := none
  bindToPort : Option Bool := none
  deriving DecidableEq

/-! ## Protocols -/

inductive Codec where
  | http1
  | http2
  deriving DecidableEq

structure Http1ProtocolOptions where
  enableTrailers : Bool := false
  deriving DecidableEq

structure Http2KeepAliveSettings where
  keepAliveInterval : Duration
  keepAliveTimeout : Option Duration
  deriving DecidableEq

structure Http2ProtocolOptions where
  keepAliveSettings : Option Http2KeepAliveSettings := none
  maxConcurrentStreams : Option Nat := none
  initialStreamWindowSize : Option Nat := none
  initialConnectionWindowSize : Option Nat := none
  deriving DecidableEq

structure CommonHttpOptions where
  idleTimeout : Option Duration := none
  deriving DecidableEq

structure HttpProtocolOptions where
  codec : Codec := .http1
  common : CommonHttpOptions := {}
  http2Options : Http2ProtocolOptions := {}
  http1Options : Http1ProtocolOptions := {}
  deriving DecidableEq

structure UpstreamProxyProtocolConfig where
  innerTlsConfig : Option TlsClientConfig
  deriving DecidableEq

inductive UpstreamTransportSocketConfig where
  | tls (config : TlsClientConfig)
  | proxyProtocol (config : UpstreamProxyProtocolConfig)
  | rawBuffer
  deriving DecidableEq

/-! ## Load balancing -/

inductive StandardLbPolicy where
  | roundRobin
  | random
  | leastRequest
  | ringHash
  | maglev
  | clusterProvided
  deriving DecidableEq

inductive OverrideHostSource where
  | header (name : HeaderName)
  | metadata (key : Text)
  deriving DecidableEq

structure OverrideHostConfig where
  overrideHostSource : OverrideHostSource
  fallbackPolicy : StandardLbPolicy
  deriving DecidableEq

inductive LbPolicy where
  | standard (policy : StandardLbPolicy)
  | overrideHost (config : OverrideHostConfig)
  deriving DecidableEq

structure NonZeroU32 where
  value : Nat
  positive : 0 < value
  fits : value < U32.limit
  deriving DecidableEq

structure LbEndpointConfig where
  address : Address
  healthStatus : HealthStatus
  loadBalancingWeight : NonZeroU32
  deriving DecidableEq

structure LocalityLbEndpointsConfig where
  priority : Nat
  lbEndpoints : List LbEndpointConfig
  deriving DecidableEq

structure ClusterLoadAssignmentConfig where
  endpoints : List LocalityLbEndpointsConfig
  clusterName : Text
  deriving DecidableEq

/-! ## Clusters -/

structure OriginalDstConfig where
  upstreamPortOverride : Option Nat := none
  deriving DecidableEq

inductive ClusterDiscoveryType where
  | static (assignment : ClusterLoadAssignmentConfig)
  | strictDns (assignment : ClusterLoadAssignmentConfig)
  | eds (assignment : Option ClusterLoadAssignmentConfig)
  | originalDst (config : OriginalDstConfig)
  deriving DecidableEq

structure ClusterConfig where
  name : Text
  discoverySettings : ClusterDiscoveryType
  transportSocket : Option UpstreamTransportSocketConfig := none
  bindDeviceOptions : BindDeviceOptions := {}
  loadBalancingPolicy : LbPolicy := .standard .roundRobin
  httpProtocolOptions : HttpProtocolOptions := {}
  connectTimeout : Option Duration := none
  cleanupInterval : Option Duration := none
  deriving DecidableEq

inductive ServerName where
  | dnsName (name : Text)
  | ipAddress (address : IpAddr)
  deriving DecidableEq

/-- The parts of an authority as the `http` crate gives them, names as
`rustls-pki-types` accepts them, and the URI that `hyperlocal` makes of a path. -/
class ChannelCrates where
  authorityFromBytes : Bytes → Option Authority
  authorityHost : Authority → Text
  authorityPort : Authority → Option Nat
  dnsNameFromStr : Text → Option Text
  serverNameFromStr : Text → Option ServerName
  /-- The authority of the URI of a socket in the file system. -/
  pipeAuthority : Text → Option Authority

/-! ### The crates on ASCII text -/

namespace AsciiChannel

def hostPort (authority : Authority) : Text :=
  (authority.reverse.takeWhile (· ≠ '@')).reverse

/-- A bracketed address with its brackets, or what stands before a colon. -/
def host (authority : Authority) : Text :=
  match hostPort authority with
  | '[' :: rest => '[' :: rest.takeWhile (· ≠ ']') ++ [']']
  | text => text.takeWhile (· ≠ ':')

/-- The number after the last colon, if it fits in 16 bits. -/
def port (authority : Authority) : Option Nat :=
  if authority.contains ':' then
    let digits := (authority.reverse.takeWhile (· ≠ ':')).reverse
    if digits ≠ [] ∧ digits.all Char.isDigit then
      let number := digits.foldl (fun number digit => number * 10 + (digit.toNat - '0'.toNat)) 0
      if number < 2 ^ 16 then some number else none
    else
      none
  else
    none

/-- What a colon, a bracket or an `@` leaves to be checked at the end. -/
structure AuthorityScan where
  colons : Nat := 0
  startBracket : Bool := false
  endBracket : Bool := false
  percent : Bool := false
  lastIsAt : Bool := false

def AuthorityScan.step (scan : AuthorityScan) (character : Char) : Option AuthorityScan :=
  let scan := { scan with lastIsAt := false }
  match character with
  | ':' => if 8 ≤ scan.colons then none else some { scan with colons := scan.colons + 1 }
  | '[' =>
    if scan.percent ∨ scan.startBracket then none else some { scan with startBracket := true }
  | ']' =>
    if ¬ scan.startBracket ∨ scan.endBracket then none
    else some { scan with endBracket := true, colons := 0, percent := false }
  | '@' => some { scan with lastIsAt := true, colons := 0, percent := false }
  | '%' => some { scan with percent := true }
  | other =>
    if other.isAlphanum || "-._~!$&'()*+,;=".toList.contains other then some scan else none

def parseAuthority (text : Text) : Option Authority := do
  guard (text ≠ [])
  let scan ← text.foldlM AuthorityScan.step {}
  guard (scan.startBracket = scan.endBracket ∧ scan.colons ≤ 1 ∧ ¬ scan.lastIsAt ∧
    ¬ scan.percent)
  return text

def dnsName (text : Text) : Option Text :=
  if text ≠ [] ∧ text.all fun character =>
      character.isAlphanum || character = '-' || character = '.' then
    some text
  else
    none

end AsciiChannel

/-- The crates as they behave on ASCII text, to evaluate the model with. -/
@[reducible] def ChannelCrates.ascii : ChannelCrates where
  authorityFromBytes bytes := AsciiChannel.parseAuthority (Ascii.ofBytes bytes)
  authorityHost := AsciiChannel.host
  authorityPort := AsciiChannel.port
  dnsNameFromStr := AsciiChannel.dnsName
  serverNameFromStr text :=
    match AsciiChannel.dnsName text, IpAddr.fromStr text with
    | some name, _ => some (.dnsName name)
    | none, some address => some (.ipAddress address)
    | none, none => none
  pipeAuthority path := some path

@[reducible] def AsciiChannel.httpCrate : HttpCrate :=
  { HttpCrate.ascii with authorityFromStr := AsciiChannel.parseAuthority }

/-! ## Securing a connection -/

structure ProxyProtocolConfigurator where
  innerTlsConfigurator : Option ClientConfigurator
  deriving DecidableEq

inductive UpstreamTransportSocketConfigurator where
  | tls (configurator : ClientConfigurator)
  | proxyProtocol (configurator : ProxyProtocolConfigurator)
  | none
  deriving DecidableEq

namespace UpstreamTransportSocketConfigurator

def tlsConfigurator : UpstreamTransportSocketConfigurator → Option ClientConfigurator
  | .tls configurator => some configurator
  | .proxyProtocol configurator => configurator.innerTlsConfigurator
  | .none => Option.none

variable [TlsPlatform]

def ofConfig (config : Option UpstreamTransportSocketConfig) (secrets : SecretManager) :
    Option UpstreamTransportSocketConfigurator :=
  match config with
  | some (.tls config) => (ClientConfigurator.ofConfig config secrets).map .tls
  | some (.proxyProtocol config) =>
    match config.innerTlsConfig with
    | some config => (ClientConfigurator.ofConfig config secrets).map fun configurator =>
      .proxyProtocol ⟨some configurator⟩
    | Option.none => some (.proxyProtocol ⟨Option.none⟩)
  | some .rawBuffer => some .none
  | Option.none => some .none

/-- A socket whose update fails stays as it is. -/
def updateSecret (socket : UpstreamTransportSocketConfigurator) (secretId : Text)
    (secret : TransportSecret) : Option UpstreamTransportSocketConfigurator :=
  match socket with
  | .tls configurator => (configurator.update secretId secret).map .tls
  | .proxyProtocol configurator =>
    match configurator.innerTlsConfigurator with
    | some inner => (inner.update secretId secret).map fun inner =>
      .proxyProtocol ⟨some inner⟩
    | Option.none => some (.proxyProtocol configurator)
  | .none => some .none

end UpstreamTransportSocketConfigurator

/-! ## Connecting -/

structure LocalConnectorWithDNSResolver where
  addr : Authority
  clusterName : Text
  bindDeviceOptions : BindDeviceOptions
  timeout : Option Duration
  deriving DecidableEq

structure TcpChannelConnector where
  connector : LocalConnectorWithDNSResolver
  transportSocket : UpstreamTransportSocketConfigurator
  deriving DecidableEq

def TcpChannelConnector.new (authority : Authority) (clusterName : Text)
    (bindDeviceOptions : BindDeviceOptions) (timeout : Option Duration)
    (transportSocket : UpstreamTransportSocketConfigurator) : TcpChannelConnector :=
  ⟨⟨authority, clusterName, bindDeviceOptions, timeout⟩, transportSocket⟩

structure ClientBuilder where
  poolIdleTimeout : Duration
  /-- `none` unless only HTTP/2 is spoken. -/
  http2Only : Option Http2ProtocolOptions
  clusterName : Text
  deriving DecidableEq

inductive HttpChannelClient where
  | plain (client : ClientBuilder) (connector : LocalConnectorWithDNSResolver)
  | tls (configuredUpstreamHttpVersion : Codec) (client : ClientBuilder)
      (tlsConfig : ClientConfig) (serverName : ServerName)
      (connector : LocalConnectorWithDNSResolver)
  | unix (path : Text) (client : ClientBuilder)
  deriving DecidableEq

structure HttpChannel where
  client : HttpChannelClient
  httpVersion : Codec
  enableTrailers : Bool
  upstreamAuthority : Authority
  clusterName : Text
  deriving DecidableEq

inductive Scheme where
  | http
  | https
  deriving DecidableEq

structure GrpcService where
  inner : HttpChannel
  scheme : Scheme
  authority : Authority
  deriving DecidableEq

def HttpChannel.isHttps (self : HttpChannel) : Bool :=
  match self.client with
  | .tls _ _ _ _ _ => true
  | .plain _ _ | .unix _ _ => false

def GrpcService.tryNew (inner : HttpChannel) (authority : Authority) : Except Text GrpcService :=
  let scheme := if inner.isHttps then .https else .http
  if inner.httpVersion ≠ .http2 then
    .error "gRPC endpoints need explicit HTTP 2".toList
  else
    .ok ⟨inner, scheme, authority⟩

inductive HttpChannels where
  | single (channel : HttpChannel)
  | multiWithFailover (channel : HttpChannel) (failoverChannels : List HttpChannel)
  deriving DecidableEq

/-- Why something could not be built: the `http` crate rejects a text, or there is a
message. -/
inductive BuildError where
  | invalidUri
  | message (text : Text)
  deriving DecidableEq

structure HttpChannelBuilder where
  tls : Option ClientConfigurator := none
  address : Option Address := none
  authority : Option Authority := none
  bindDeviceOptions : BindDeviceOptions := {}
  serverName : Option ServerName := none
  httpProtocolOptions : HttpProtocolOptions := {}
  connectionTimeout : Option Duration := none
  clusterName : Option Text := none

namespace HttpChannelBuilder

def defaultIdleTimeout : Duration := 30 * 1000000000

def configureHyperClient (self : HttpChannelBuilder) : ClientBuilder where
  poolIdleTimeout := self.httpProtocolOptions.common.idleTimeout.getD defaultIdleTimeout
  http2Only := match self.httpProtocolOptions.codec with
    | .http2 => some self.httpProtocolOptions.http2Options
    | .http1 => none
  clusterName := self.clusterName.getD []

variable [ChannelCrates]

/-- The name that a server has to prove when none is configured. -/
def defaultServerName (authority : Authority) : ServerName :=
  let host := ChannelCrates.authorityHost authority
  match IpAddr.fromStr host with
  | some address => .ipAddress address
  | none => .dnsName
      ((ChannelCrates.dnsNameFromStr host).getD "default.orion-proxy.com".toList)

def buildChannelFromAuthority (self : HttpChannelBuilder) : Except BuildError HttpChannel :=
  match self.authority with
  | none => .error (.message "Authority is mandatory".toList)
  | some authority =>
    let client := self.configureHyperClient
    let enableTrailers := match self.httpProtocolOptions.codec with
      | .http1 => self.httpProtocolOptions.http1Options.enableTrailers
      | .http2 => false
    let connector : LocalConnectorWithDNSResolver :=
      ⟨authority, self.clusterName.getD [], self.bindDeviceOptions, self.connectionTimeout⟩
    let channelClient : HttpChannelClient := match self.tls with
      | some tlsContext => .tls self.httpProtocolOptions.codec client tlsContext.config
          (self.serverName.getD (defaultServerName authority)) connector
      | none => .plain client connector
    .ok ⟨channelClient, self.httpProtocolOptions.codec, enableTrailers, authority,
      self.clusterName.getD []⟩

def buildChannelFromPipe (self : HttpChannelBuilder) : Except BuildError HttpChannel :=
  match self.address with
  | some (.pipe name _) =>
    .ok ⟨.unix name self.configureHyperClient, self.httpProtocolOptions.codec, false,
      (ChannelCrates.pipeAuthority name).getD "none".toList, self.clusterName.getD []⟩
  | _ => .error (.message "Trying to build a pipe address from invalid address".toList)

def build (self : HttpChannelBuilder) : Except BuildError HttpChannel :=
  match self.address with
  | some (.socket _ _) => self.buildChannelFromAuthority
  | some (.pipe _ _) => self.buildChannelFromPipe
  | some (.internal _) => .error (.message "Internal not supported yet".toList)
  | none => .error (.message "Address is mandatory".toList)

def buildWithNoAddress (self : HttpChannelBuilder) : Except BuildError HttpChannel :=
  self.buildChannelFromAuthority

end HttpChannelBuilder

end Orion.Clusters
