import Orion.Foundation.MachineInteger
import Orion.Listeners.FilterState
import Orion.Transport.AsyncStream

/-! # The TLV listener filter

In front of a connection there may be a list of types, lengths and values that says which
service the connection is for. The filter reads it, as far as it needs to.
-/

namespace Orion.Transport

open Foundation Http Listeners

def tlvTypeLen : Nat := 1
def tlvLengthLen : Nat := 4

def tlvTypeServiceAddress : UInt8 := 0x1
def tlvTypeEnding : UInt8 := 0xfe

def tlvTypeServiceAddressIpv4Len : Nat := 6
def tlvTypeServiceAddressIpv6Len : Nat := 18

def defaultMaxTlvLength : Nat := 256

inductive TlvParseState where
  | typeAndLength
  | content
  deriving DecidableEq

inductive ReadOrParseState where
  | done
  | error
  | skipFilter
  deriving DecidableEq

structure TlvListenerFilter where
  state : TlvParseState
  expectedLength : Nat
  index : Nat
  contentLength : Nat
  maxTlvLength : Nat
  buffer : Bytes
  deriving DecidableEq

namespace TlvListenerFilter

def new (maxTlvLength : Nat) : TlvListenerFilter where
  state := .typeAndLength
  expectedLength := tlvTypeLen + tlvLengthLen
  index := 0
  contentLength := 0
  maxTlvLength := maxTlvLength
  buffer := []

def default : TlvListenerFilter := new defaultMaxTlvLength

def slice (filter : TlvListenerFilter) (offset count : Nat) : Option Bytes :=
  if filter.buffer.length < offset + count then none
  else some ((filter.buffer.drop offset).take count)

def readU32Be (filter : TlvListenerFilter) (offset : Nat) : Option Nat :=
  (filter.slice offset 4).map fromBeBytes

def readU16Be (filter : TlvListenerFilter) (offset : Nat) : Option Nat :=
  (filter.slice offset 2).map fromBeBytes

def validateServiceAddressLength (contentLength : Nat) : Bool :=
  contentLength = tlvTypeServiceAddressIpv4Len ∨ contentLength = tlvTypeServiceAddressIpv6Len

/-- Two bytes never make a number that is no port. -/
def port (number : Nat) : Fin 65536 := Fin.ofNat 65536 number

section

variable (filter : TlvListenerFilter)

def parseIpv4Address (contentStart : Nat) : Option SocketAddr := do
  let ipBytes ← filter.slice contentStart 4
  let number ← filter.readU16Be (contentStart + 4)
  return ⟨.v4 (ipBytes.map UInt8.toNat), port number⟩

def parseIpv6Address (contentStart : Nat) : Option SocketAddr := do
  let ipBytes ← filter.slice contentStart 16
  let number ← filter.readU16Be (contentStart + 16)
  return ⟨.v6 (fromBePairs ipBytes), port number⟩

def processServiceAddressTlv : ReadOrParseState × TlvListenerFilter :=
  if filter.expectedLength < filter.index + tlvTypeLen + tlvLengthLen then
    (.done, { filter with expectedLength := filter.index + tlvTypeLen + tlvLengthLen })
  else
    match filter.readU32Be (filter.index + 1) with
    | none => (.error, filter)
    | some contentLength =>
      if validateServiceAddressLength contentLength = false then
        (.error, filter)
      else
        let filter := { filter with
          expectedLength := filter.index + tlvTypeLen + tlvLengthLen + contentLength }
        if filter.maxTlvLength < filter.expectedLength then
          (.error, filter)
        else
          (.done, { filter with
            contentLength := contentLength
            index := filter.index + (tlvTypeLen + tlvLengthLen)
            state := .content })

def processEndingTlv : ReadOrParseState × TlvListenerFilter :=
  if filter.expectedLength < filter.index + tlvTypeLen + tlvLengthLen then
    (.done, { filter with expectedLength := filter.index + tlvTypeLen + tlvLengthLen })
  else
    match filter.readU32Be (filter.index + 1) with
    | none => (.error, filter)
    | some endLength => if endLength ≠ 0 then (.error, filter) else (.done, filter)

def processTlvContent : ReadOrParseState × TlvListenerFilter :=
  (.done, { filter with
    expectedLength := filter.expectedLength + tlvTypeLen
    index := filter.index + filter.contentLength
    state := .typeAndLength })

/-- Bytes that were read stay in the buffer of the filter, also when they are too few. -/
def readRequiredData (stream : AsyncStream) : ReadOrParseState × TlvListenerFilter × AsyncStream :=
  let (bytes, reading, stream) :=
    stream.gather 512 (filter.expectedLength - filter.buffer.length)
  let filter := { filter with buffer := filter.buffer ++ bytes }
  match reading with
  | .complete => (.done, filter, stream)
  | .closed | .failed .wouldBlock => (.skipFilter, filter, stream)
  | .failed _ => (.error, filter, stream)

end

inductive Pass where
  | again (filter : TlvListenerFilter)
  | returned (state : ReadOrParseState) (filter : TlvListenerFilter)

def Pass.of : ReadOrParseState × TlvListenerFilter → Pass
  | (.done, filter) => .again filter
  | (other, filter) => .returned other filter

/-- `none` is a panic: there is no type at the index. -/
def parse (filter : TlvListenerFilter) : Option Pass :=
  match filter.state with
  | .typeAndLength =>
    filter.buffer[filter.index]?.map fun tlvType =>
      if tlvType = tlvTypeServiceAddress then
        .of filter.processServiceAddressTlv
      else if tlvType = tlvTypeEnding then
        .returned filter.processEndingTlv.1 filter.processEndingTlv.2
      else
        .returned .error filter
  | .content => some (.of filter.processTlvContent)

/-- The loop, for a number of passes. -/
def readAndParseWithin : Nat → TlvListenerFilter → AsyncStream →
    Option (ReadOrParseState × TlvListenerFilter × AsyncStream)
  | 0, _, _ => none
  | passes + 1, filter, stream =>
    match filter.readRequiredData stream with
    | (.done, filter, stream) =>
      match filter.parse with
      | none => none
      | some (.again filter) => readAndParseWithin passes filter stream
      | some (.returned state filter) => some (state, filter, stream)
    | (other, filter, stream) => some (other, filter, stream)

/-- Every three passes take at least one byte, and at most `maxTlvLength` are taken before
the last ones. -/
def readAndParseTlv (filter : TlvListenerFilter) (stream : AsyncStream) :
    Option (ReadOrParseState × TlvListenerFilter × AsyncStream) :=
  filter.readAndParseWithin (3 * (filter.maxTlvLength + 1)) stream

def extractFrom (filter : TlvListenerFilter) (currentIndex : Nat) : Option SocketAddr :=
  if currentIndex + tlvTypeLen + tlvLengthLen ≤ filter.buffer.length then
    match filter.buffer[currentIndex]?, filter.readU32Be (currentIndex + tlvTypeLen) with
    | some tlvType, some contentLength =>
      let contentStart := currentIndex + tlvTypeLen + tlvLengthLen
      if tlvType = tlvTypeEnding then
        none
      else if filter.buffer.length < contentStart + contentLength then
        none
      else
        let socketAddr :=
          if tlvType = tlvTypeServiceAddress then
            if contentLength = tlvTypeServiceAddressIpv4Len then
              filter.parseIpv4Address contentStart
            else if contentLength = tlvTypeServiceAddressIpv6Len then
              filter.parseIpv6Address contentStart
            else
              none
          else
            none
        match socketAddr with
        | some address => some address
        | none =>
          filter.extractFrom (currentIndex + tlvTypeLen + tlvLengthLen + contentLength)
    | _, _ => none
  else
    none
termination_by filter.buffer.length - currentIndex
decreasing_by
  unfold tlvTypeLen tlvLengthLen at *
  omega

def extractOriginalDestination (filter : TlvListenerFilter) : Option SocketAddr :=
  filter.extractFrom 0

def processStream (filter : TlvListenerFilter) (stream : AsyncStream)
    (localAddress peerAddress : SocketAddr) :
    Except ConnectionError (AsyncStream × DownstreamConnectionMetadata) :=
  match filter.readAndParseTlv stream with
  | none => .error .panicked
  | some (.done, filter, stream) =>
    match filter.extractOriginalDestination with
    | some originalDest => .ok (stream, .tlv originalDest peerAddress localAddress)
    | none => .ok (stream, .socket peerAddress localAddress none)
  | some (.skipFilter, _, stream) => .ok (stream, .socket peerAddress localAddress none)
  | some (.error, _, _) => .error (.message "Failed to parse TLV data".toList)

end TlvListenerFilter

end Orion.Transport
