import Orion.Transport.ProxyProtocol

/-! # Streams that begin with a PROXY protocol header

A header is found in whatever chunks its bytes arrive, and what follows it is left unread.
Headers that do not fit into the buffer of the reader are not read.
-/

namespace Orion.Transport

open Foundation Http Listeners Orion.Configuration List Nat

/-! ## Where a header ends -/

/-- A line whose terminator is at its end, and nowhere else after its first word. -/
structure V1Framed (header : Bytes) : Prop where
  starts : header.take v1PrefixLen = v1Prefix
  enough : v1PrefixLen < header.length
  short : header.length ≤ v1MaxLength
  terminated : (header.drop (header.length - 2)).take 2 = v1Terminator
  notBefore : ∀ index, v1PrefixLen ≤ index → index + 1 < header.length →
    (header.drop (index - 1)).take 2 ≠ v1Terminator

structure V2Framed (header : Bytes) : Prop where
  starts : header.take v2PrefixLen = v2Prefix
  length : header.length = v2MinimumLen + fromBeBytes ((header.drop v2LengthIndex).take 2)

def Framed : ProxyProtocolVersion → Bytes → Prop
  | .v1, header => V1Framed header
  | .v2, header => V2Framed header

theorem V2Framed.enough {header : Bytes} (framed : V2Framed header) :
    v2MinimumLen ≤ header.length := by
  rw [framed.length]
  exact le_add_right _ _

/-! ## Reading the first bytes -/

def headRead (origin : AsyncStream) (count : Nat) : RewindableHeadAsyncStream :=
  .headBufferingReadOnlyMode (origin.advance count) (origin.ready.take count)

def filled (origin : AsyncStream) (count : Nat) : Bytes :=
  origin.ready.take count ++ replicate (readBufferLen - count) 0

variable {origin : AsyncStream} {count : Nat}

theorem readOr_headRead (enough : count + more ≤ origin.ready.length) :
    readOr message more (headRead origin count) =
      .ok ((origin.ready.drop count).take more, headRead origin (count + more)) := by
  have first : count ≤ origin.ready.length := by omega
  have remaining := ReadStream.ready_advance first
  have read := @RewindableHeadAsyncStream.readExact_of_le (origin.advance count) more
    (origin.ready.take count) (by
      rw [remaining, length_drop]
      omega)
  rw [readOr, headRead, read, remaining, ReadStream.advance_advance first, ← take_add]
  rfl

theorem readOr_of_short (first : count ≤ origin.ready.length)
    (short : origin.ready.length < count + more) :
    readOr message more (headRead origin count) = .error (.message message) := by
  have missing : (origin.advance count).ready.length < more := by
    rw [ReadStream.ready_advance first, length_drop]
    omega
  rcases @RewindableHeadAsyncStream.readExact_of_lt _ _ (origin.ready.take count) missing with
    ⟨error, later, failed⟩
  rw [readOr, headRead, failed]

theorem overwrite_filled (enough : count + more ≤ origin.ready.length) :
    overwrite (filled origin count) count ((origin.ready.drop count).take more) =
      filled origin (count + more) := by
  have first : (origin.ready.take count).length = count := length_take_of_le (by omega)
  have second : ((origin.ready.drop count).take more).length = more :=
    length_take_of_le (by rw [length_drop]; omega)
  have front : (filled origin count).take count = origin.ready.take count := by
    exact take_left' first
  have back : (filled origin count).drop (count + more) =
      replicate (readBufferLen - (count + more)) 0 := by
    rw [filled, drop_append, drop_eq_nil_of_le (by omega), first, nil_append, drop_replicate]
    congr 1
    omega
  rw [overwrite, front, second, back, ← take_add, filled]

theorem slice_filled {header payload : Bytes} {start length : Nat}
    (input : origin.ready = header ++ payload) (within : count ≤ header.length)
    (inside : start + length ≤ count) :
    ((filled origin count).drop start).take length = (header.drop start).take length := by
  have front : (filled origin count).drop start =
      (header.take count).drop start ++ replicate (readBufferLen - count) 0 := by
    rw [filled, input, take_append_of_le_length within, drop_append_of_le_length]
    rw [length_take]
    omega
  rw [front, take_append_of_le_length, drop_take, take_take, min_eq_left (by omega)]
  rw [length_drop, length_take]
  omega

namespace ProxyProtocolReader

theorem readLine_of_framed {header : Bytes} (framed : V1Framed header)
    (input : origin.ready = header ++ payload) (after : v1PrefixLen ≤ index)
    (before : index < header.length) :
    readLine (v1MaxLength - index) index (filled origin index) (headRead origin index) =
      .ok (true, filled origin header.length, headRead origin header.length) := by
  have short := framed.short
  have enough : index + 1 ≤ origin.ready.length := by
    rw [input, length_append]
    omega
  have pair := @slice_filled origin (index + 1) header payload (index - 1) 2 input before
    (by unfold v1PrefixLen at after; omega)
  rw [show v1MaxLength - index = v1MaxLength - (index + 1) + 1 by omega, readLine,
    readOr_headRead enough]
  simp only [bind, Except.bind, overwrite_filled enough, pair]
  rcases lt_or_ge (index + 1) header.length with later | last
  · rw [if_neg (framed.notBefore index after later)]
    exact readLine_of_framed framed input (by omega) later
  · have same : index + 1 = header.length := by omega
    rw [if_pos, same]
    · rfl
    · rw [show index - 1 = header.length - 2 by omega]
      exact framed.terminated
termination_by header.length - index

section

variable {header : Bytes} (input : origin.ready = header ++ payload)
  (within : count ≤ header.length)

include input within

theorem enough_of_input : count ≤ origin.ready.length := by
  rw [input, length_append]
  omega

theorem take_filled (inside : start ≤ count) :
    (filled origin count).take start = header.take start := by
  have slice := @slice_filled origin count header payload 0 start input within (by omega)
  rwa [drop_zero, drop_zero] at slice

end

theorem first_read (enough : v1PrefixLen ≤ origin.ready.length) :
    (∀ message, readOr message v1PrefixLen (headRead origin 0) =
      .ok (origin.ready.take v1PrefixLen, headRead origin v1PrefixLen)) ∧
    overwrite (filled origin 0) 0 (origin.ready.take v1PrefixLen) = filled origin v1PrefixLen ∧
    (filled origin v1PrefixLen).take v1PrefixLen = origin.ready.take v1PrefixLen := by
  have start : 0 + v1PrefixLen ≤ origin.ready.length := enough
  exact ⟨fun _ => readOr_headRead start, overwrite_filled start,
    take_filled (append_nil _).symm enough (le_refl _)⟩

theorem readHeaderBytes_of_line (enough : v1PrefixLen ≤ origin.ready.length)
    (start : origin.ready.take v1PrefixLen = v1Prefix) (peerAddress : SocketAddr) :
    readHeaderBytes (headRead origin 0) (filled origin 0) peerAddress =
      (readLine (v1MaxLength - v1PrefixLen) v1PrefixLen (filled origin v1PrefixLen)
        (headRead origin v1PrefixLen)).bind fun (endFound, buffer, stream) =>
          if endFound then .ok (.v1, buffer, stream)
          else .error (.message
            "Invalid proxy protocol V1 header: terminator not found".toList) := by
  rcases first_read enough with ⟨read, first, found⟩
  rw [start] at found
  rw [readHeaderBytes, read]
  simp only [bind, Except.bind, first, found]
  rfl

/-- Without the first word of a line, the fixed part of a header is read. -/
theorem readHeaderBytes_of_other (enough : v2MinimumLen ≤ origin.ready.length)
    (other : origin.ready.take v1PrefixLen ≠ v1Prefix) (peerAddress : SocketAddr) :
    readHeaderBytes (headRead origin 0) (filled origin 0) peerAddress =
      if origin.ready.take v2PrefixLen = v2Prefix then
        let length := fromBeBytes ((origin.ready.drop v2LengthIndex).take 2)
        if readBufferLen < v2MinimumLen + length then
          .error .panicked
        else do
          let (bytes, stream) ← readOr
            "Problem reading V2 proxy protocol header into buffer".toList
            length (headRead origin v2MinimumLen)
          return (.v2 none, overwrite (filled origin v2MinimumLen) v2MinimumLen bytes, stream)
      else
        .ok (.none, filled origin v2MinimumLen, headRead origin v2MinimumLen) := by
  rcases first_read (le_trans (by decide) enough) with ⟨read, first, found⟩
  have input := (append_nil origin.ready).symm
  have all : v1PrefixLen + (v2MinimumLen - v1PrefixLen) ≤ origin.ready.length := enough
  have second : overwrite (filled origin v1PrefixLen) v1PrefixLen
      ((origin.ready.drop v1PrefixLen).take (v2MinimumLen - v1PrefixLen)) =
      filled origin v2MinimumLen := overwrite_filled all
  have length := @slice_filled _ v2MinimumLen _ _ v2LengthIndex 2 input enough (by decide)
  rw [readHeaderBytes, read]
  simp only [bind, Except.bind, first, found, other, if_false, readOr_headRead all, second,
    take_filled input enough (show v2PrefixLen ≤ v2MinimumLen by decide), length]
  split
  case isTrue =>
    split
    case isTrue long =>
      rw [if_pos]
      · rfl
      · rw [length_take]
        unfold readBufferLen v2MinimumLen at *
        omega
    case isFalse => rfl
  case isFalse => rfl

theorem readHeaderBytes_of_short (short : origin.ready.length < v2MinimumLen)
    (other : origin.ready.take v1PrefixLen ≠ v1Prefix) (peerAddress : SocketAddr) :
    ∃ message, readHeaderBytes (headRead origin 0) (filled origin 0) peerAddress =
      .error (.message message) := by
  rw [readHeaderBytes]
  rcases lt_or_ge origin.ready.length v1PrefixLen with none | some
  · rw [readOr_of_short (zero_le _) (by omega)]
    exact ⟨_, rfl⟩
  · rcases first_read some with ⟨read, first, found⟩
    rw [read]
    simp only [bind, Except.bind, first, found, other, if_false,
      readOr_of_short some (show _ < v1PrefixLen + (v2MinimumLen - v1PrefixLen) from short)]
    exact ⟨_, rfl⟩

section

variable {header : Bytes} (input : origin.ready = header ++ payload)

include input

theorem readHeaderBytes_of_v1 (framed : V1Framed header) (peerAddress : SocketAddr) :
    readHeaderBytes (headRead origin 0) (filled origin 0) peerAddress =
      .ok (.v1, filled origin header.length, headRead origin header.length) := by
  have some := le_of_lt framed.enough
  have start : origin.ready.take v1PrefixLen = v1Prefix := by
    rw [input, take_append_of_le_length some, framed.starts]
  rw [readHeaderBytes_of_line (enough_of_input input some) start,
    readLine_of_framed framed input (le_refl _) framed.enough]
  rfl

/-- The fixed part of a header of the second version is read, and its length is known. -/
theorem readHeaderBytes_start (framed : V2Framed header) (peerAddress : SocketAddr) :
    readHeaderBytes (headRead origin 0) (filled origin 0) peerAddress =
      if readBufferLen < header.length then
        .error .panicked
      else do
        let (bytes, stream) ← readOr
          "Problem reading V2 proxy protocol header into buffer".toList
          (header.length - v2MinimumLen) (headRead origin v2MinimumLen)
        return (.v2 none, overwrite (filled origin v2MinimumLen) v2MinimumLen bytes, stream) := by
  have some := framed.enough
  have start : origin.ready.take v2PrefixLen = v2Prefix := by
    rw [input, take_append_of_le_length (le_trans (by decide) some), framed.starts]
  have other : origin.ready.take v1PrefixLen ≠ v1Prefix := by
    rw [show v1PrefixLen = min v1PrefixLen v2PrefixLen from rfl, ← take_take, start]
    decide
  have length : fromBeBytes ((origin.ready.drop v2LengthIndex).take 2) =
      header.length - v2MinimumLen := by
    rw [input, drop_append_of_le_length (le_trans (by decide) some),
      List.take_append_of_le_length, framed.length, Nat.add_sub_cancel_left]
    rw [length_drop]
    unfold v2MinimumLen at some
    unfold v2LengthIndex
    omega
  rw [readHeaderBytes_of_other (enough_of_input input some) other, if_pos start]
  simp only [length, Nat.add_sub_cancel' some]

/-- A header that does not fit into the buffer makes the reader panic. -/
theorem readHeaderBytes_of_long (framed : V2Framed header) (long : readBufferLen < header.length)
    (peerAddress : SocketAddr) :
    readHeaderBytes (headRead origin 0) (filled origin 0) peerAddress = .error .panicked := by
  rw [readHeaderBytes_start input framed, if_pos long]

theorem readHeaderBytes_of_v2 (framed : V2Framed header)
    (fits : header.length ≤ readBufferLen) (peerAddress : SocketAddr) :
    readHeaderBytes (headRead origin 0) (filled origin 0) peerAddress =
      .ok (.v2 none, filled origin header.length, headRead origin header.length) := by
  have whole : v2MinimumLen + (header.length - v2MinimumLen) = header.length :=
    Nat.add_sub_cancel' framed.enough
  have enough : v2MinimumLen + (header.length - v2MinimumLen) ≤ origin.ready.length := by
    rw [whole]
    exact enough_of_input input (le_refl _)
  rw [readHeaderBytes_start input framed, if_neg (not_lt.mpr fits), readOr_headRead enough]
  simp only [bind, Except.bind, overwrite_filled enough, whole]
  rfl

end

def detected : ProxyProtocolVersion → DetectedHeader
  | .v1 => .v1
  | .v2 => .v2 none

theorem bufferedData_detected (version : ProxyProtocolVersion) (buffer : Bytes) :
    (detected version).bufferedData buffer = buffer := by
  cases version <;> rfl

theorem readHeaderBytes_of_framed {header : Bytes}
    (input : origin.ready = header ++ payload) (framed : Framed version header)
    (fits : header.length ≤ readBufferLen) (peerAddress : SocketAddr) :
    readHeaderBytes (headRead origin 0) (filled origin 0) peerAddress =
      .ok (detected version, filled origin header.length, headRead origin header.length) := by
  cases version with
  | v1 => exact readHeaderBytes_of_v1 input framed peerAddress
  | v2 => exact readHeaderBytes_of_v2 input framed fits peerAddress

theorem headRead_zero (origin : AsyncStream) : headRead origin 0 = .new origin := by
  rw [headRead, ReadStream.advance_zero]
  rfl

/-! ## The policy -/

section

variable {reader : ProxyProtocolReader}

theorem applyPolicy_of_allowed (allowed : version ∉ reader.config.disallowedVersions)
    (peerAddress : SocketAddr) : reader.applyPolicy (detected version) peerAddress = .proceed := by
  cases version <;>
    simp [detected, applyPolicy, shouldRejectV1, shouldRejectV2,
      shouldAllowV1TransparentPassthrough, shouldAllowV2TransparentPassthrough, shouldReject,
      shouldAllowTransparentPassthrough, allowed]

theorem applyPolicy_of_disallowed (disallowed : version ∈ reader.config.disallowedVersions)
    (peerAddress : SocketAddr) : (reader.config.allowRequestsWithoutProxyProtocol = false ∧
      ∃ message, reader.applyPolicy (detected version) peerAddress = .reject message) ∨
    (reader.config.allowRequestsWithoutProxyProtocol ∧
      reader.applyPolicy (detected version) peerAddress = .transparentPassthrough) := by
  cases allows : reader.config.allowRequestsWithoutProxyProtocol with
  | false =>
    cases version <;>
      simp [detected, applyPolicy, shouldRejectV1, shouldRejectV2, shouldReject, disallowed, allows]
  | true =>
    cases version <;>
      simp [detected, applyPolicy, shouldRejectV1, shouldRejectV2,
        shouldAllowV1TransparentPassthrough, shouldAllowV2TransparentPassthrough, shouldReject,
        shouldAllowTransparentPassthrough, disallowed, allows]

end

/-! ## Whole headers -/

section

variable [Ppp] {reader : ProxyProtocolReader} {stream : AsyncStream} {header : Bytes}
  (input : stream.ready = header ++ payload) (framed : Framed version header)
  (localAddress peerAddress : SocketAddr)

theorem tryReadProxyHeader_of_read
    (read : readHeaderBytes (headRead stream 0) (filled stream 0) peerAddress = result) :
    reader.tryReadProxyHeader stream localAddress peerAddress =
      result.bind fun (maybeHeader, buffer, later) =>
        match reader.applyPolicy maybeHeader peerAddress with
        | .reject message => .error (.message message)
        | .transparentPassthrough =>
          .ok (.socket peerAddress localAddress none, later.intoRewoundStream.toStream)
        | .proceed =>
          (reader.extractMetadata (Ppp.parse (maybeHeader.bufferedData buffer)) peerAddress
            localAddress).map fun metadata => (metadata, later.intoStream) := by
  rw [headRead_zero] at read
  rw [tryReadProxyHeader, ← read]
  congr 1

include input framed

theorem tryReadProxyHeader_of_long (long : readBufferLen < header.length) :
    reader.tryReadProxyHeader stream localAddress peerAddress = .error .panicked := by
  cases version with
  | v1 =>
    have short := V1Framed.short framed
    exact absurd (lt_of_lt_of_le long short) (by decide)
  | v2 =>
    rw [tryReadProxyHeader_of_read _ _ (readHeaderBytes_of_long input framed long peerAddress)]
    rfl

theorem tryReadProxyHeader_of_allowed (fits : header.length ≤ readBufferLen)
    (allowed : version ∉ reader.config.disallowedVersions)
    (parsed : ∀ rest, Ppp.parse (header ++ rest) = result) :
    reader.tryReadProxyHeader stream localAddress peerAddress =
      (reader.extractMetadata result peerAddress localAddress).map
        fun metadata => (metadata, stream.advance header.length) := by
  have buffered : filled stream header.length =
      header ++ replicate (readBufferLen - header.length) 0 := by
    rw [filled, input, take_left]
  rw [tryReadProxyHeader_of_read _ _ (readHeaderBytes_of_framed input framed fits peerAddress)]
  simp only [Except.bind, applyPolicy_of_allowed allowed, bufferedData_detected, buffered, parsed]
  rfl

theorem tryReadProxyHeader_of_disallowed (fits : header.length ≤ readBufferLen)
    (disallowed : version ∈ reader.config.disallowedVersions) :
    (∃ error, reader.tryReadProxyHeader stream localAddress peerAddress = .error error) ∨
    ∃ rewound, reader.tryReadProxyHeader stream localAddress peerAddress =
      .ok (.socket peerAddress localAddress none, rewound) ∧
        rewound.contents = stream.contents ∧ rewound.failure? = stream.failure? := by
  rw [tryReadProxyHeader_of_read _ _ (readHeaderBytes_of_framed input framed fits peerAddress)]
  rcases applyPolicy_of_disallowed disallowed peerAddress with ⟨_, message, rejected⟩ | ⟨_, passed⟩
  · left
    simp only [Except.bind, rejected]
    exact ⟨_, rfl⟩
  · right
    simp only [Except.bind, passed]
    exact ⟨_, rfl, RewindableHeadAsyncStream.rewound_spec (enough_of_input input (le_refl _))⟩

end

end ProxyProtocolReader

/-! ## Valid headers -/

namespace HeaderResult

def isOk : HeaderResult → Bool
  | .v1 result => result.isOk
  | .v2 result => result.isOk

def endpoints? : HeaderResult → Option IpEndpoints
  | .v1 (.ok (.tcp endpoints)) => some endpoints
  | .v2 (.ok ⟨_, _, .ip endpoints, _⟩) => some endpoints
  | _ => none

def isSupported : HeaderResult → Bool
  | .v2 (.ok ⟨_, _, .unix _ _, _⟩) => false
  | _ => true

theorem extractMetadata_of_isSupported [Ppp] (accepted : result.isOk)
    (supported : result.isSupported) (reader : ProxyProtocolReader)
    (peerAddress localAddress : SocketAddr) :
    ∃ metadata, reader.extractMetadata result peerAddress localAddress = .ok metadata ∧
      metadata.peerAddress = (result.endpoints?.map IpEndpoints.source).getD peerAddress := by
  match result with
  | .v1 (.ok (.tcp endpoints)) | .v1 (.ok .unknown) => exact ⟨_, rfl, rfl⟩
  | .v2 (.ok ⟨_, _, .ip _, _⟩) | .v2 (.ok ⟨_, _, .unspecified, _⟩) => exact ⟨_, rfl, rfl⟩

theorem extractMetadata_of_not_isSupported [Ppp] (unsupported : result.isSupported = false)
    (reader : ProxyProtocolReader) (peerAddress localAddress : SocketAddr) :
    ∃ error, reader.extractMetadata result peerAddress localAddress = .error error := by
  match result with
  | .v2 (.ok ⟨_, _, .unix _ _, _⟩) => exact ⟨_, rfl⟩

end HeaderResult

/-- Bytes that end where they say, and that are understood whatever follows them. -/
structure ValidHeader [Ppp] where
  version : ProxyProtocolVersion
  bytes : Bytes
  result : HeaderResult
  framed : Framed version bytes
  parsed : ∀ rest, Ppp.parse (bytes ++ rest) = result
  accepted : result.isOk = true

namespace ValidHeader

variable [Ppp] (header : ValidHeader) (config : DownstreamProxyProtocolConfig)

/-- The header fits into the buffer of the reader, which takes its version and its addresses. -/
structure Readable : Prop where
  fits : header.bytes.length ≤ readBufferLen
  allowed : header.version ∉ config.disallowedVersions
  supported : header.result.isSupported = true

variable {header config} {stream : AsyncStream} (input : stream.ready = header.bytes ++ payload)
  (localAddress peerAddress : SocketAddr)

include input

theorem tryReadProxyHeader_of_readable (readable : header.Readable config) :
    ∃ metadata, (ProxyProtocolReader.mk config).tryReadProxyHeader stream localAddress
        peerAddress = .ok (metadata, stream.advance header.bytes.length) ∧
      metadata.peerAddress =
        (header.result.endpoints?.map IpEndpoints.source).getD peerAddress := by
  rcases HeaderResult.extractMetadata_of_isSupported header.accepted readable.supported
    (ProxyProtocolReader.mk config) peerAddress localAddress with ⟨metadata, extracted, source⟩
  refine ⟨metadata, ?_, source⟩
  rw [ProxyProtocolReader.tryReadProxyHeader_of_allowed input header.framed localAddress
    peerAddress readable.fits readable.allowed header.parsed, extracted]
  rfl

/-- A header that is not taken ends the connection, or stays in the stream. -/
theorem tryReadProxyHeader_of_not_readable (unreadable : ¬ header.Readable config) :
    (∃ error, (ProxyProtocolReader.mk config).tryReadProxyHeader stream localAddress
      peerAddress = .error error) ∨
    header.version ∈ config.disallowedVersions ∧
      ∃ rewound, (ProxyProtocolReader.mk config).tryReadProxyHeader stream localAddress
        peerAddress = .ok (.socket peerAddress localAddress none, rewound) ∧
          rewound.contents = stream.contents ∧ rewound.failure? = stream.failure? := by
  rcases lt_or_ge readBufferLen header.bytes.length with long | fits
  · exact .inl ⟨_, ProxyProtocolReader.tryReadProxyHeader_of_long input header.framed localAddress
      peerAddress long⟩
  by_cases disallowed : header.version ∈ config.disallowedVersions
  · rcases ProxyProtocolReader.tryReadProxyHeader_of_disallowed input header.framed localAddress
      peerAddress fits disallowed with failed | passed
    · exact .inl failed
    · exact .inr ⟨disallowed, passed⟩
  · have unsupported : header.result.isSupported = false := by
      rw [← Bool.not_eq_true]
      exact fun supported => unreadable ⟨fits, disallowed, supported⟩
    rcases HeaderResult.extractMetadata_of_not_isSupported unsupported
      (ProxyProtocolReader.mk config) peerAddress localAddress with ⟨error, failed⟩
    left
    rw [ProxyProtocolReader.tryReadProxyHeader_of_allowed input header.framed localAddress
      peerAddress fits disallowed header.parsed, failed]
    exact ⟨error, rfl⟩

end ValidHeader

/-! ## Streams of which nothing is known

The reader finds out from the first bytes of a stream which kind of header it begins with, if any.
-/

namespace ProxyProtocolReader

/-! ## Headers of any length -/

/-- Reading does not panic, and takes a header of the second version as a whole. -/
def ReadsExactly (origin : AsyncStream) (peerAddress : SocketAddr) : Prop :=
  readHeaderBytes (.new origin) (replicate readBufferLen 0) peerAddress ≠
    .error .panicked ∧
  ∀ header payload, origin.ready = header ++ payload → V2Framed header →
    ∃ extraBuffer buffer stream,
      readHeaderBytes (.new origin) (replicate readBufferLen 0) peerAddress =
        .ok (.v2 extraBuffer, buffer, stream) ∧
      stream.intoStream = origin.advance header.length ∧
      ((DetectedHeader.v2 extraBuffer).bufferedData buffer).take header.length = header

/-- The stream announces a header that is longer than the buffer. -/
def AnnouncesLong (origin : AsyncStream) : Prop :=
  v2MinimumLen ≤ origin.ready.length ∧ origin.ready.take v2PrefixLen = v2Prefix ∧
    readBufferLen < v2MinimumLen + fromBeBytes ((origin.ready.drop v2LengthIndex).take 2)

theorem bind_ne_error {result : Except ε α} {next : α → Except ε β}
    (first : result ≠ .error error) (later : ∀ value, next value ≠ .error error) :
    result.bind next ≠ .error error := by
  cases result with
  | error other => exact fun same => first (congrArg Except.error (Except.error.inj same))
  | ok value => exact later value

theorem readOr_ne_panicked (message : Text) (count : Nat) (stream : RewindableHeadAsyncStream) :
    readOr message count stream ≠ .error .panicked := by
  rw [readOr]
  rcases stream.readExact count with ⟨error | bytes, later⟩ <;> nofun

theorem readLine_ne_panicked (remaining index : Nat) (buffer : Bytes)
    (stream : RewindableHeadAsyncStream) :
    readLine remaining index buffer stream ≠ .error .panicked := by
  induction remaining generalizing index buffer stream with
  | zero => nofun
  | succ remaining induction =>
    apply bind_ne_error (readOr_ne_panicked _ _ _)
    intro (byte, later)
    dsimp only
    split
    · nofun
    · apply induction

theorem readHeaderBytes_ne_panicked (origin : AsyncStream) (peerAddress : SocketAddr)
    (fits : ¬ AnnouncesLong origin) :
    readHeaderBytes (headRead origin 0) (filled origin 0) peerAddress ≠ .error .panicked := by
  by_cases line : origin.ready.take v1PrefixLen = v1Prefix
  · have enough : v1PrefixLen ≤ origin.ready.length := by
      have length := congrArg length line
      rw [length_take] at length
      change min v1PrefixLen _ = v1PrefixLen at length
      omega
    rw [readHeaderBytes_of_line enough line]
    apply bind_ne_error (readLine_ne_panicked _ _ _ _)
    intro (endFound, buffer, stream)
    cases endFound <;> nofun
  · rcases lt_or_ge origin.ready.length v2MinimumLen with short | enough
    · rcases readHeaderBytes_of_short short line peerAddress with ⟨message, failed⟩
      rw [failed]
      nofun
    · rw [readHeaderBytes_of_other enough line]
      split
      case isTrue signature =>
        rw [if_neg fun long => fits ⟨enough, signature, long⟩]
        exact bind_ne_error (readOr_ne_panicked _ _ _) nofun
      case isFalse => nofun

/-- Headers of the second version are read exactly, unless they are longer than the buffer. Then
the reader panics. -/
theorem readsExactly_iff (origin : AsyncStream) (peerAddress : SocketAddr) :
    ReadsExactly origin peerAddress ↔ ¬ AnnouncesLong origin := by
  rw [ReadsExactly, ← headRead_zero]
  change readHeaderBytes (headRead origin 0) (filled origin 0) peerAddress ≠ _ ∧ _ ↔ _
  constructor
  · rintro ⟨survives, _⟩ ⟨enough, signature, long⟩
    have other : origin.ready.take v1PrefixLen ≠ v1Prefix := by
      rw [show v1PrefixLen = min v1PrefixLen v2PrefixLen from rfl, ← take_take, signature]
      decide
    apply survives
    rw [readHeaderBytes_of_other enough other, if_pos signature]
    exact if_pos long
  · intro fits
    refine ⟨readHeaderBytes_ne_panicked origin peerAddress fits, ?_⟩
    intro header payload input framed
    have short : header.length ≤ readBufferLen := by
      by_contra long
      rw [not_le] at long
      exact readHeaderBytes_ne_panicked origin peerAddress fits
        (readHeaderBytes_of_long input framed long peerAddress)
    exact ⟨_, _, _, readHeaderBytes_of_v2 input framed short peerAddress, rfl,
      (take_filled input (le_refl _) (le_refl _)).trans take_length⟩

def sender : SocketAddr := ⟨.v4 [10, 0, 0, 9], 40000⟩

/-- A header that announces 500 bytes. -/
def announcing : AsyncStream := .ofChunks [v2Prefix ++ [0x21, 0x11, 1, 0xf4]]

theorem long_header_panics :
    ¬ ReadsExactly announcing sender ∧
      readHeaderBytes (.new announcing) (replicate readBufferLen 0) sender =
        .error .panicked := by
  have panics : readHeaderBytes (headRead announcing 0) (filled announcing 0) sender =
      .error .panicked := by
    rw [readHeaderBytes_of_other (by decide) (by decide), if_pos (by decide)]
    exact if_pos (by decide)
  exact ⟨fun reads => reads.1 panics, panics⟩

/-! ## Streams without a header -/

/-- A stream without a header is passed on as it is, if it is long enough to have one. -/
theorem passed_on_iff [Ppp] {reader : ProxyProtocolReader} {stream : AsyncStream}
    (allows : reader.config.allowRequestsWithoutProxyProtocol = true)
    (line : stream.ready.take v1PrefixLen ≠ v1Prefix)
    (signature : stream.ready.take v2PrefixLen ≠ v2Prefix) (localAddress peerAddress : SocketAddr) :
    (∃ handedOn, reader.tryReadProxyHeader stream localAddress peerAddress =
        .ok (.socket peerAddress localAddress none, handedOn) ∧
      handedOn.contents = stream.contents) ↔ v2MinimumLen ≤ stream.ready.length := by
  rcases lt_or_ge stream.ready.length v2MinimumLen with short | enough
  · rcases readHeaderBytes_of_short short line peerAddress with ⟨message, failed⟩
    refine iff_of_false ?_ (Nat.not_le_of_lt short)
    rintro ⟨handedOn, accepted, _⟩
    rw [tryReadProxyHeader_of_read localAddress peerAddress failed] at accepted
    cases accepted
  · have read := readHeaderBytes_of_other enough line peerAddress
    rw [if_neg signature] at read
    have passed : reader.applyPolicy .none peerAddress = .transparentPassthrough := if_pos allows
    refine iff_of_true ⟨_, ?_, (RewindableHeadAsyncStream.rewound_spec enough).1⟩ enough
    rw [tryReadProxyHeader_of_read localAddress peerAddress read, Except.bind]
    simp only [passed]
    rfl

/-- The line `GET / HTTP/1.1` is long enough. -/
def requestLine : Bytes := [71, 69, 84, 32, 47, 32, 72, 84, 84, 80, 47, 49, 46, 49, 13, 10]

def receiver : SocketAddr := ⟨.v4 [10, 0, 0, 2], 15006⟩

def lenient : ProxyProtocolReader := ⟨⟨true, [], none⟩⟩

theorem passed_on_request_line :
    letI := Ppp.wireFormat
    ∃ handedOn, lenient.tryReadProxyHeader (.ofChunks [requestLine]) receiver sender =
        .ok (.socket sender receiver none, handedOn) ∧ handedOn.contents = requestLine := by
  let _ := Ppp.wireFormat
  exact (@passed_on_iff _ lenient (.ofChunks [requestLine]) rfl (by decide) (by decide) _ _).mpr
    (by decide)

/-- Three bytes are not passed on, although they cannot begin a header. -/
theorem short_stream_refused :
    letI := Ppp.wireFormat
    lenient.tryReadProxyHeader (.ofChunks [requestLine.take 3]) receiver sender =
      .error (.message "Failed to read initial bytes from peer 10.0.0.9:40000".toList) := by
  decide +kernel

end ProxyProtocolReader

end Orion.Transport
