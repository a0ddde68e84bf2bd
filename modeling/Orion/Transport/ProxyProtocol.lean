import Orion.Transport.AsyncStream
import Orion.Transport.ProxyWire

/-! # Reading and writing PROXY protocol headers -/

namespace Orion.Transport

open Foundation Http Listeners Orion.Configuration

def v1PrefixLen : Nat := 5
def v1MaxLength : Nat := 107

def v2PrefixLen : Nat := 12
def v2MinimumLen : Nat := 16
def v2LengthIndex : Nat := 14

def readBufferLen : Nat := 512

inductive DetectedHeader where
  | v1
  | v2 (extraBuffer : Option Bytes)
  | none
  deriving DecidableEq

def DetectedHeader.bufferedData (header : DetectedHeader) (buffer : Bytes) : Bytes :=
  match header with
  | .v2 extraBuffer => extraBuffer.getD buffer
  | _ => buffer

inductive PolicyAction where
  | proceed
  | reject (message : Text)
  | transparentPassthrough
  deriving DecidableEq

/-- `buffer[offset..].copy_from_slice(bytes)`. -/
def overwrite (buffer : Bytes) (offset : Nat) (bytes : Bytes) : Bytes :=
  buffer.take offset ++ bytes ++ buffer.drop (offset + bytes.length)

def readOr (message : Text) (count : Nat) (stream : RewindableHeadAsyncStream) :
    Except ConnectionError (Bytes × RewindableHeadAsyncStream) :=
  match stream.readExact count with
  | (.ok bytes, stream) => .ok (bytes, stream)
  | (.error _, _) => .error (.message message)

/-! ## Reading -/

structure ProxyProtocolReader where
  config : DownstreamProxyProtocolConfig

namespace ProxyProtocolReader

section

variable (reader : ProxyProtocolReader)

def shouldReject (version : ProxyProtocolVersion) : Bool :=
  version ∈ reader.config.disallowedVersions ∧
    reader.config.allowRequestsWithoutProxyProtocol = false

def shouldAllowTransparentPassthrough (version : ProxyProtocolVersion) : Bool :=
  version ∈ reader.config.disallowedVersions ∧
    reader.config.allowRequestsWithoutProxyProtocol = true

def shouldRejectV1 : Bool := reader.shouldReject .v1

def shouldAllowV1TransparentPassthrough : Bool :=
  reader.shouldAllowTransparentPassthrough .v1

def shouldRejectV2 : Bool := reader.shouldReject .v2

def shouldAllowV2TransparentPassthrough : Bool :=
  reader.shouldAllowTransparentPassthrough .v2

def applyPolicy (detectedHeader : DetectedHeader) (peerAddress : SocketAddr) : PolicyAction :=
  match detectedHeader with
  | .v1 =>
    if reader.shouldRejectV1 then
      .reject ("Proxy protocol V1 is disallowed for peer ".toList ++ peerAddress.display)
    else if reader.shouldAllowV1TransparentPassthrough then
      .transparentPassthrough
    else
      .proceed
  | .v2 _ =>
    if reader.shouldRejectV2 then
      .reject ("Proxy protocol V2 is disallowed for peer ".toList ++ peerAddress.display)
    else if reader.shouldAllowV2TransparentPassthrough then
      .transparentPassthrough
    else
      .proceed
  | .none =>
    if reader.config.allowRequestsWithoutProxyProtocol then
      .transparentPassthrough
    else
      .reject (("Connection has been configured with proxy protocol enabled, but no valid " ++
        "proxy protocol header detected from peer ").toList ++ peerAddress.display)

end

/-- Read bytes of a line from the one at `index` on, until its terminator was read. -/
def readLine : (remaining index : Nat) → Bytes → RewindableHeadAsyncStream →
    Except ConnectionError (Bool × Bytes × RewindableHeadAsyncStream)
  | 0, _, buffer, stream => .ok (false, buffer, stream)
  | remaining + 1, index, buffer, stream => do
      let (byte, stream) ← readOr "Problem reading V1 proxy protocol header bytes".toList 1 stream
      let buffer := overwrite buffer index byte
      if (buffer.drop (index - 1)).take 2 = v1Terminator then
        return (true, buffer, stream)
      else
        readLine remaining (index + 1) buffer stream

def readHeaderBytes (stream : RewindableHeadAsyncStream) (buffer : Bytes)
    (peerAddress : SocketAddr) :
    Except ConnectionError (DetectedHeader × Bytes × RewindableHeadAsyncStream) := do
  let (bytes, stream) ← readOr
    ("Failed to read initial bytes from peer ".toList ++ peerAddress.display) v1PrefixLen stream
  let buffer := overwrite buffer 0 bytes
  if buffer.take v1PrefixLen = v1Prefix then
    let (endFound, buffer, stream) ←
      readLine (v1MaxLength - v1PrefixLen) v1PrefixLen buffer stream
    if endFound then
      return (.v1, buffer, stream)
    else
      throw (.message "Invalid proxy protocol V1 header: terminator not found".toList)
  else
    let (bytes, stream) ← readOr
      ("Problem reading additional header bytes from peer ".toList ++ peerAddress.display)
      (v2MinimumLen - v1PrefixLen) stream
    let buffer := overwrite buffer v1PrefixLen bytes
    if buffer.take v2PrefixLen = v2Prefix then
      let length := fromBeBytes ((buffer.drop v2LengthIndex).take 2)
      let fullLength := v2MinimumLen + length
      if readBufferLen < fullLength then
        -- `Vec::with_capacity` reserves memory, the vector is as long as what it is extended by
        let dynamicBuffer := buffer.take v2MinimumLen
        if dynamicBuffer.length < fullLength then
          throw .panicked
        else
          let (bytes, stream) ← readOr
            "Problem reading V2 proxy protocol header into extended buffer".toList length stream
          return (.v2 (some (overwrite dynamicBuffer v2MinimumLen bytes)), buffer, stream)
      else
        let (bytes, stream) ← readOr
          "Problem reading V2 proxy protocol header into buffer".toList length stream
        return (.v2 none, overwrite buffer v2MinimumLen bytes, stream)
    else
      return (.none, buffer, stream)

/-- The values that are kept, of which a later one replaces an earlier one. -/
def passedTlvs (reader : ProxyProtocolReader) (tlvs : List (UInt8 × Bytes)) : TlvData :=
  match reader.config.passThroughTlvs with
  | none => ∅
  | some passThroughConfig =>
    tlvs.foldl (fun data tlv =>
      if passThroughConfig.shouldPassThrough (.ofByte tlv.1) then
        data.insert (.ofByte tlv.1) tlv.2
      else
        data) ∅

variable [Ppp]

def extractMetadata (reader : ProxyProtocolReader) (parsedHeader : HeaderResult)
    (peerAddress localAddress : SocketAddr) : Except ConnectionError DownstreamConnectionMetadata :=
  match parsedHeader with
  | .v1 (.ok (.tcp endpoints)) =>
    .ok (.proxyProtocol endpoints.source endpoints.destination .stream ∅ peerAddress
      localAddress)
  | .v1 (.ok .unknown) => .ok (.socket peerAddress localAddress none)
  | .v1 (.error error) =>
    .error (.message
      ("Detected, but failed to parse proxy protocol V1 header: ".toList ++ error))
  | .v2 (.ok header) =>
    match header.addresses with
    | .ip endpoints =>
      .ok (.proxyProtocol endpoints.source endpoints.destination header.protocol
        (reader.passedTlvs header.tlvs) peerAddress localAddress)
    | .unix source destination =>
      .error (.message ("Unix socket addresses are not supported: ".toList ++
        Ppp.debugUnix source destination))
    | .unspecified => .ok (.socket peerAddress localAddress none)
  | .v2 (.error error) =>
    .error (.message
      ("Detected, but failed to parse proxy protocol V2 header: ".toList ++ error))

def tryReadProxyHeader (reader : ProxyProtocolReader) (stream : AsyncStream)
    (localAddress peerAddress : SocketAddr) :
    Except ConnectionError (DownstreamConnectionMetadata × AsyncStream) := do
  let (maybeHeader, buffer, stream) ←
    readHeaderBytes (.new stream) (List.replicate readBufferLen 0) peerAddress
  match reader.applyPolicy maybeHeader peerAddress with
  | .reject message => throw (.message message)
  | .transparentPassthrough =>
    return (.socket peerAddress localAddress none, stream.intoRewoundStream.toStream)
  | .proceed =>
    let metadata ← reader.extractMetadata (Ppp.parse (maybeHeader.bufferedData buffer))
      peerAddress localAddress
    return (metadata, stream.intoStream)

end ProxyProtocolReader

/-! ## Writing -/

structure ProxyProtocolConfigurator where
  version : ProxyProtocolVersion
  passThroughTlvs : Option ProxyProtocolPassThroughTlvs := none
  addedTlvs : List TlvEntry := []

namespace ProxyProtocolConfigurator

def v2Addresses (source destination : SocketAddr) : V2Addresses :=
  match source.ip, destination.ip with
  | .v4 _, .v4 _ | .v6 _, .v6 _ => .ip ⟨source, destination⟩
  | _, _ => .unspecified

def buildV1Header (metadata : DownstreamConnectionMetadata) : Except Text Bytes :=
  let source := metadata.peerAddress
  let destination := metadata.localAddress
  let addresses := source.ip.display ++ [' '] ++ destination.ip.display ++ [' '] ++
    Nat.toDigits 10 source.port ++ [' '] ++ Nat.toDigits 10 destination.port ++ "\r\n".toList
  match source.ip, destination.ip with
  | .v4 _, .v4 _ => .ok (asciiBytes ("PROXY TCP4 ".toList ++ addresses))
  | .v6 _, .v6 _ => .ok (asciiBytes ("PROXY TCP6 ".toList ++ addresses))
  | _, _ => .error "Mixed IPv4/IPv6 addresses not supported in proxy protocol v1".toList

/-- The values of a connection that are passed on, in the order of the map that has them. -/
def passedOn (configurator : ProxyProtocolConfigurator)
    (metadata : DownstreamConnectionMetadata) : List TlvEntry :=
  match metadata, configurator.passThroughTlvs with
  | .proxyProtocol _ _ _ tlvData _ _, some passThroughConfig =>
    (tlvData.entries.map fun entry => ⟨entry.1, entry.2⟩).filter fun entry =>
      passThroughConfig.shouldPassThrough entry.tlvType
  | _, _ => []

variable [Ppp]

def writeTlv (builder : V2Header) (kind : UInt8) (value : Bytes) : Except Text V2Header :=
  if 65535 < value.length then .error Ppp.tooLong
  else .ok { builder with tlvs := builder.tlvs ++ [(kind, value)] }

def build (builder : V2Header) : Except Text Bytes :=
  if 65535 < builder.payload.length then .error Ppp.tooLong else .ok builder.encode

section

variable (configurator : ProxyProtocolConfigurator) (metadata : DownstreamConnectionMetadata)

def buildV2Header : Except Text Bytes := do
  let builder : V2Header :=
    ⟨.proxyCommand, .stream, v2Addresses metadata.peerAddress metadata.localAddress, []⟩
  let builder ← configurator.addedTlvs.foldlM (fun builder tlvEntry =>
    (writeTlv builder tlvEntry.tlvType.toByte tlvEntry.value).mapError
      ("Failed to add configured TLV: ".toList ++ ·)) builder
  let builder ← (configurator.passedOn metadata).foldlM (fun builder entry =>
    (writeTlv builder entry.tlvType.toByte entry.value).mapError
      ("Failed to add pass-through TLV: ".toList ++ ·)) builder
  (build builder).mapError ("Failed to build proxy protocol v2 header: ".toList ++ ·)

def buildProxyHeader : Except Text Bytes :=
  match configurator.version with
  | .v1 => buildV1Header metadata
  | .v2 => configurator.buildV2Header metadata

end

end ProxyProtocolConfigurator

end Orion.Transport
