import Orion.Configuration.NetworkRbac
import Orion.Listeners.ServerNames
import Orion.Transport.ProxyProtocol
import Orion.Transport.TlvListenerFilter

/-! # Accepted connections

The listener filters look at the first bytes of a connection. What they find selects the
filter chain, which gets what they have left unread. -/

namespace Orion.Transport.InspectorResult

open Foundation Listeners

def serverName : InspectorResult → Option Text
  | .success serverName => some serverName
  | .successNoSni | .tlsError _ => none

def transportProtocol : InspectorResult → DetectedTransportProtocol
  | .success _ | .successNoSni => .ssl
  | .tlsError _ => .rawBuffer

end Orion.Transport.InspectorResult

namespace Orion.Listeners

open Foundation Transport Orion.Configuration Configuration.Network

structure ListenerFilters where
  withTlsInspector : Bool
  proxyProtocolConfig : Option DownstreamProxyProtocolConfig
  withTlvListenerFilter : Bool

structure Accepted where
  localAddress : SocketAddr
  peerAddress : SocketAddr
  originalDestinationAddress : Option SocketAddr := none
  deriving DecidableEq

namespace ListenerFilters

/-- The TLS inspector, which leaves the stream as it was. -/
def inspect [Acceptor] (filters : ListenerFilters) (stream : AsyncStream) :
    Option Text × DetectedTransportProtocol × AsyncStream :=
  if filters.withTlsInspector then
    let (tlsResult, rewoundStream) := inspectClientHello stream
    (tlsResult.serverName, tlsResult.transportProtocol, rewoundStream)
  else
    (none, .rawBuffer, stream)

def readProxyHeader [Ppp] (filters : ListenerFilters) (accepted : Accepted) (stream : AsyncStream) :
    Except ConnectionError (DownstreamConnectionMetadata × AsyncStream) :=
  match filters.proxyProtocolConfig with
  | some config =>
    (ProxyProtocolReader.mk config).tryReadProxyHeader stream accepted.localAddress
      accepted.peerAddress
  | none =>
    .ok (.socket accepted.peerAddress accepted.localAddress
      accepted.originalDestinationAddress, stream)

def readTlvs (filters : ListenerFilters) (accepted : Accepted)
    (metadata : DownstreamConnectionMetadata) (stream : AsyncStream) :
    Except ConnectionError (DownstreamConnectionMetadata × AsyncStream) :=
  if filters.withTlvListenerFilter then
    (TlvListenerFilter.default.processStream stream accepted.localAddress
      accepted.peerAddress).map Prod.swap
  else
    .ok (metadata, stream)

variable [Acceptor] [Ppp]

def process (filters : ListenerFilters) (accepted : Accepted) (stream : AsyncStream) :
    Except ConnectionError (FilterChains.Connection × AsyncStream) := do
  let (serverName, detectedTransportProtocol, stream) := filters.inspect stream
  let (metadata, stream) ← filters.readProxyHeader accepted stream
  let (metadata, stream) ← filters.readTlvs accepted metadata stream
  return (⟨metadata, serverName, detectedTransportProtocol⟩, stream)

end ListenerFilters

namespace FilterChains.Connection

def networkContext (connection : Connection) : NetworkContext :=
  ⟨connection.metadata.localAddress, connection.metadata.peerAddress, connection.serverName⟩

end FilterChains.Connection

end Orion.Listeners
