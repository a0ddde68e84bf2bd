import Orion.Foundation.IpAddress
import Orion.Http.Message

/-! # What is known of a connection -/

/-! ## The configuration of the PROXY protocol -/

namespace Orion.Configuration

open Http

inductive ProxyProtocolVersion where
  | v1
  | v2
  deriving DecidableEq

inductive TlvType where
  | custom (value : UInt8)
  | noOp
  deriving DecidableEq

def TlvType.ofByte (value : UInt8) : TlvType :=
  if value = 0x00 then .noOp else .custom value

def TlvType.toByte : TlvType → UInt8
  | .noOp => 0x00
  | .custom value => value

inductive PassTlvMatchType where
  | includeAll
  | include
  deriving DecidableEq

structure ProxyProtocolPassThroughTlvs where
  matchType : PassTlvMatchType
  tlvTypes : List TlvType
  deriving DecidableEq

def ProxyProtocolPassThroughTlvs.shouldPassThrough (config : ProxyProtocolPassThroughTlvs)
    (tlvType : TlvType) : Bool :=
  match config.matchType with
  | .includeAll => true
  | .include => tlvType ∈ config.tlvTypes

structure TlvEntry where
  tlvType : TlvType
  value : Bytes
  deriving DecidableEq

structure DownstreamProxyProtocolConfig where
  allowRequestsWithoutProxyProtocol : Bool := false
  disallowedVersions : List ProxyProtocolVersion := []
  passThroughTlvs : Option ProxyProtocolPassThroughTlvs := none
  deriving DecidableEq

end Orion.Configuration

namespace Orion.Listeners

open Foundation Orion.Configuration Http

/-- The flow information and the scope of an IPv6 address are left out. -/
structure SocketAddr where
  ip : IpAddr
  port : Fin 65536
  deriving DecidableEq

def SocketAddr.display (address : SocketAddr) : Text :=
  match address.ip with
  | .v4 _ => address.ip.display ++ ':' :: Nat.toDigits 10 address.port
  | .v6 _ => '[' :: (address.ip.display ++ ']' :: ':' :: Nat.toDigits 10 address.port)

inductive Protocol where
  | unspecified
  | stream
  | datagram
  deriving DecidableEq

abbrev TlvData := AList fun _ : TlvType => Bytes

inductive DownstreamConnectionMetadata where
  | socket (peerAddress localAddress : SocketAddr)
      (originalDestinationAddress : Option SocketAddr)
  | proxyProtocol (originalPeerAddress originalDestinationAddress : SocketAddr)
      (protocol : Protocol) (tlvData : TlvData) (proxyPeerAddress proxyLocalAddress : SocketAddr)
  | tlv (originalDestinationAddress proxyPeerAddress proxyLocalAddress : SocketAddr)
  deriving DecidableEq

namespace DownstreamConnectionMetadata

def peerAddress : DownstreamConnectionMetadata → SocketAddr
  | .socket peerAddress _ _ => peerAddress
  | .proxyProtocol originalPeerAddress _ _ _ _ _ => originalPeerAddress
  | .tlv _ proxyPeerAddress _ => proxyPeerAddress

def localAddress : DownstreamConnectionMetadata → SocketAddr
  | .socket _ localAddress _ => localAddress
  | .proxyProtocol _ destination _ _ _ _ => destination
  | .tlv destination _ _ => destination

def originalDestinationAddress : DownstreamConnectionMetadata → SocketAddr
  | .socket _ _ (some destination) => destination
  | .socket _ localAddress none => localAddress
  | .proxyProtocol _ destination _ _ _ _ => destination
  | .tlv destination _ _ => destination

end DownstreamConnectionMetadata

end Orion.Listeners
