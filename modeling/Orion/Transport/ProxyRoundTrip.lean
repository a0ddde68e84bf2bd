import Orion.Transport.ProxyHeaders

/-! # Headers that are written and read again

What one proxy writes in front of a connection, the next one reads, as long as the header
fits into its buffer and it keeps what the header says. -/

namespace Orion.Transport

open Foundation Http Listeners Orion.Configuration ProxyProtocolConfigurator List Option Nat

/-! ## What is written -/

namespace ProxyProtocolConfigurator

section

variable (configurator : ProxyProtocolConfigurator) (metadata : DownstreamConnectionMetadata)

def writtenTlvs : List (UInt8 × Bytes) :=
  (configurator.addedTlvs ++ configurator.passedOn metadata).map fun entry =>
    (entry.tlvType.toByte, entry.value)

def writtenHeader : V2Header :=
  ⟨.proxyCommand, .stream, .ip ⟨metadata.peerAddress, metadata.localAddress⟩,
    configurator.writtenTlvs metadata⟩

def payloadLength : Nat :=
  metadata.peerAddress.ip.width / 4 + 4 +
    ((configurator.writtenTlvs metadata).map fun tlv => 3 + tlv.2.length).sum

end

theorem length_flatMap_encodeTlv (tlvs : List (UInt8 × Bytes)) :
    (tlvs.flatMap encodeTlv).length = (tlvs.map fun tlv => 3 + tlv.2.length).sum := by
  rw [length_flatMap]
  congr 1
  apply map_congr_left
  intro tlv _
  rw [encodeTlv, length_cons, length_append, length_toBeBytes]
  omega

theorem length_payload {configurator : ProxyProtocolConfigurator}
    {metadata : DownstreamConnectionMetadata}
    (valid : IpEndpoints.Valid ⟨metadata.peerAddress, metadata.localAddress⟩) :
    (configurator.writtenHeader metadata).payload.length = configurator.payloadLength metadata := by
  have addresses := V2Addresses.length_encode_ip valid
  have width : metadata.peerAddress.ip.width / 8 + metadata.peerAddress.ip.width / 8 =
      metadata.peerAddress.ip.width / 4 := by
    cases metadata.peerAddress.ip <;> simp [IpAddr.width]
  rw [V2Header.payload, length_append, writtenHeader, addresses, length_flatMap_encodeTlv,
    payloadLength, width]

theorem length_le_of_mem {tlvs : List (UInt8 × Bytes)} {tlv : UInt8 × Bytes}
    (member : tlv ∈ tlvs) : tlv.2.length ≤ (tlvs.map fun tlv => 3 + tlv.2.length).sum := by
  induction tlvs with
  | nil => exact absurd member nofun
  | cons first others induction =>
    rw [map_cons, sum_cons]
    rcases mem_cons.mp member with rfl | later
    · omega
    · exact le_trans (induction later) (le_add_left _ _)

theorem v2Addresses_of_valid (valid : IpEndpoints.Valid ⟨source, destination⟩) :
    v2Addresses source destination = .ip ⟨source, destination⟩ := by
  rcases source with ⟨source, sourcePort⟩
  rcases destination with ⟨destination, destinationPort⟩
  have same : source.width = destination.width := valid.2.2
  cases source <;> cases destination <;> first | rfl | exact absurd same (by simp [IpAddr.width])

theorem buildV1Header_eq {metadata : DownstreamConnectionMetadata}
    (valid : IpEndpoints.Valid ⟨metadata.peerAddress, metadata.localAddress⟩) :
    buildV1Header metadata = .ok (encodeV1 ⟨metadata.peerAddress, metadata.localAddress⟩) := by
  rw [buildV1Header, encodeV1, v1Line_eq]
  generalize metadata.peerAddress = source at valid ⊢
  generalize metadata.localAddress = destination at valid ⊢
  rcases source with ⟨source, sourcePort⟩
  rcases destination with ⟨destination, destinationPort⟩
  have same : source.width = destination.width := valid.2.2
  cases source <;> cases destination
  · simp [asciiBytes, v1Terminator, v1Keyword]
  · exact absurd same (by simp [IpAddr.width])
  · exact absurd same (by simp [IpAddr.width])
  · simp [asciiBytes, v1Terminator, v1Keyword]

section

variable [Ppp]

theorem foldlM_writeTlv {entries : List TlvEntry} {label : Text → Text}
    (small : ∀ entry ∈ entries, entry.value.length ≤ 65535) (builder : V2Header) :
    entries.foldlM (fun builder entry =>
        (writeTlv builder entry.tlvType.toByte entry.value).mapError label) builder =
      .ok { builder with
        tlvs := builder.tlvs ++ entries.map fun entry =>
          (entry.tlvType.toByte, entry.value) } := by
  induction entries generalizing builder with
  | nil =>
    rw [map_nil, append_nil]
    rfl
  | cons entry entries induction =>
    rcases forall_mem_cons.mp small with ⟨first, others⟩
    have written : writeTlv builder entry.tlvType.toByte entry.value = .ok { builder with
          tlvs := builder.tlvs ++ [(entry.tlvType.toByte, entry.value)] } :=
      if_neg (not_lt.mpr first)
    rw [foldlM_cons, written]
    refine (induction others _).trans ?_
    rw [map_cons, append_assoc]
    rfl

theorem buildV2Header_eq {configurator : ProxyProtocolConfigurator}
    {metadata : DownstreamConnectionMetadata}
    (valid : IpEndpoints.Valid ⟨metadata.peerAddress, metadata.localAddress⟩)
    (fits : configurator.payloadLength metadata ≤ 65535) :
    configurator.buildV2Header metadata = .ok (configurator.writtenHeader metadata).encode := by
  have small : ∀ entry ∈ configurator.addedTlvs ++ configurator.passedOn metadata,
      entry.value.length ≤ 65535 := by
    intro entry member
    have bound := length_le_of_mem (@List.mem_map_of_mem _ _ _ _
      (fun entry : TlvEntry => (entry.tlvType.toByte, entry.value)) member)
    rw [payloadLength, writtenTlvs] at fits
    simp only at bound
    omega
  rcases forall_mem_append.mp small with ⟨added, passed⟩
  have built : build (configurator.writtenHeader metadata) =
      .ok (configurator.writtenHeader metadata).encode := by
    rw [build, length_payload valid]
    exact if_neg (not_lt.mpr fits)
  rw [buildV2Header, v2Addresses_of_valid valid]
  simp only [foldlM_writeTlv added, foldlM_writeTlv passed, bind, Except.bind]
  rw [nil_append, ← map_append]
  change (build (configurator.writtenHeader metadata)).mapError _ = _
  rw [built]
  rfl

end

end ProxyProtocolConfigurator

/-! ## Written headers end where they say -/

theorem notMem_asciiBytes_line (endpoints : IpEndpoints) :
    (13 : UInt8) ∉ asciiBytes (v1Line endpoints) := by
  intro member
  rcases mem_map.mp member with ⟨character, inside, same⟩
  rcases v1Line_ascii endpoints character inside with ⟨small, other⟩
  apply other
  rw [← ofNat_toNat_ascii small, same]
  rfl

theorem v1Framed_encode (valid : endpoints.Valid) : V1Framed (encodeV1 endpoints) := by
  have line : 5 ≤ (asciiBytes (v1Line endpoints)).length := by
    rw [asciiBytes, length_map, v1Line_eq, length_append]
    exact le_add_right 5 _
  have length : (encodeV1 endpoints).length = (asciiBytes (v1Line endpoints)).length + 2 := by
    rw [encodeV1, length_append]
    rfl
  refine ⟨?_, ?_, length_encodeV1 valid, ?_, ?_⟩
  · have start := take_encodeV1 endpoints []
    rwa [append_nil] at start
  · rw [length]
    exact lt_of_lt_of_le (lt_succ_self 5) (by omega)
  · rw [length, Nat.add_sub_cancel, encodeV1, List.drop_left]
    rfl
  · intro index after before
    have inside : index - 1 < (asciiBytes (v1Line endpoints)).length := by
      omega
    intro same
    have first := congrArg head? same
    rw [encodeV1, drop_append_of_le_length (le_of_lt inside), drop_eq_getElem_cons inside] at first
    apply notMem_asciiBytes_line endpoints
    have byte : (asciiBytes (v1Line endpoints))[index - 1] = 13 := some.inj first
    rw [← byte]
    exact getElem_mem inside

theorem v2Framed_encode {header : V2Header} (small : header.payload.length < 65536) :
    V2Framed header.encode := by
  have whole := header.encode_append []
  rw [append_nil, append_nil] at whole
  refine ⟨?_, ?_⟩
  · rw [whole]
    rfl
  · have length : (header.encode.drop v2LengthIndex).take 2 =
        toBeBytes 2 header.payload.length := by
      exact @take_drop_middle [_, _, _, _, _, _, _, _, _, _, _, _, _, _] _ _ _ _ rfl
        (length_toBeBytes _ _)
    rw [length, fromBeBytes_toBeBytes small, V2Header.length_encode]
    rfl

/-! ## Values by type -/

def lastValue (tlvs : List (UInt8 × Bytes)) (tlvType : TlvType) : Option Bytes :=
  ((tlvs.filter fun tlv => TlvType.ofByte tlv.1 = tlvType).getLast?).map Prod.snd

theorem lastValue_append (tlvs : List (UInt8 × Bytes)) (tlv : UInt8 × Bytes) (tlvType : TlvType) :
    lastValue (tlvs ++ [tlv]) tlvType =
      if TlvType.ofByte tlv.1 = tlvType then some tlv.2 else lastValue tlvs tlvType := by
  rw [lastValue, filter_append]
  split
  case isTrue same => simp [same]
  case isFalse other => simp [other, lastValue]

theorem lastValue_eq_none_iff :
    lastValue tlvs tlvType = none ↔ ∀ tlv ∈ tlvs, TlvType.ofByte tlv.1 ≠ tlvType := by
  rw [lastValue, map_eq_none_iff, getLast?_eq_none_iff, filter_eq_nil_iff]
  simp

namespace ProxyProtocolReader

def keeps (reader : ProxyProtocolReader) (tlvType : TlvType) : Bool :=
  match reader.config.passThroughTlvs with
  | none => false
  | some passThroughConfig => passThroughConfig.shouldPassThrough tlvType

theorem lookup_passedTlvs (reader : ProxyProtocolReader) (tlvs : List (UInt8 × Bytes))
    (tlvType : TlvType) : (reader.passedTlvs tlvs).lookup tlvType =
      if reader.keeps tlvType then lastValue tlvs tlvType else none := by
  rw [passedTlvs, keeps]
  cases reader.config.passThroughTlvs with
  | none => rfl
  | some passThroughConfig =>
    simp only
    induction tlvs using reverseRecOn with
    | nil =>
      exact (ite_self _).symm
    | append_singleton tlvs tlv induction =>
      rw [foldl_append, foldl_cons, foldl_nil, lastValue_append]
      by_cases same : TlvType.ofByte tlv.1 = tlvType
      · subst same
        rw [if_pos rfl]
        split
        · rw [AList.lookup_insert]
        · rw [induction, if_neg ‹_›]
      · rw [if_neg same, ← induction]
        split
        · exact AList.lookup_insert_ne (Ne.symm same)
        · rfl

theorem lookup_passedTlvs_iff (reader : ProxyProtocolReader) (tlvs : List (UInt8 × Bytes)) :
    (∀ tlvType, (reader.passedTlvs tlvs).lookup tlvType = lastValue tlvs tlvType) ↔
      ∀ tlv ∈ tlvs, reader.keeps (.ofByte tlv.1) := by
  simp only [lookup_passedTlvs]
  constructor
  · intro same tlv member
    have value := same (.ofByte tlv.1)
    by_contra drops
    rw [if_neg drops] at value
    exact lastValue_eq_none_iff.mp value.symm tlv member rfl
  · intro keeps tlvType
    split
    · rfl
    · rename_i drops
      refine (lastValue_eq_none_iff.mpr ?_).symm
      rintro tlv member rfl
      exact drops (keeps tlv member)

/-! ## The round trip -/

/-- The addresses and the values are found, and exactly the payload is left. -/
def Finds [Ppp] (reader : ProxyProtocolReader) (stream : AsyncStream)
    (localAddress peerAddress : SocketAddr) (endpoints : IpEndpoints)
    (tlvs : List (UInt8 × Bytes)) (payload : Bytes) : Prop :=
  ∃ protocol tlvData rest,
    reader.tryReadProxyHeader stream localAddress peerAddress =
      .ok (.proxyProtocol endpoints.source endpoints.destination protocol tlvData peerAddress
        localAddress, rest) ∧
    (∀ tlvType, tlvData.lookup tlvType = lastValue tlvs tlvType) ∧ rest.contents = payload

/-- The version is allowed. It has to be the second one when there are values, which the
reader has to keep, and the header has to fit into its buffer. -/
def CanFind (reader : ProxyProtocolReader) (configurator : ProxyProtocolConfigurator)
    (metadata : DownstreamConnectionMetadata) : Prop :=
  configurator.version ∉ reader.config.disallowedVersions ∧
    match configurator.version with
    | .v1 => configurator.writtenTlvs metadata = []
    | .v2 => v2MinimumLen + configurator.payloadLength metadata ≤ readBufferLen ∧
        ∀ tlv ∈ configurator.writtenTlvs metadata, reader.keeps (.ofByte tlv.1) = true

section

variable [Ppp] {reader : ProxyProtocolReader} {version : ProxyProtocolVersion}
  {stream : AsyncStream} {header payload : Bytes} {endpoints : IpEndpoints}
  {tlvs : List (UInt8 × Bytes)} {localAddress peerAddress : SocketAddr}
  (input : stream.ready = header ++ payload) (complete : stream.contents = header ++ payload)
  (framed : Framed version header)

include input framed

theorem not_finds_of_long (long : readBufferLen < header.length) :
    ¬ Finds reader stream localAddress peerAddress endpoints tlvs payload := by
  rintro ⟨protocol, tlvData, rest, found, _⟩
  rw [tryReadProxyHeader_of_long input framed localAddress peerAddress long] at found
  exact absurd found nofun

theorem not_finds_of_disallowed (fits : header.length ≤ readBufferLen)
    (disallowed : version ∈ reader.config.disallowedVersions) :
    ¬ Finds reader stream localAddress peerAddress endpoints tlvs payload := by
  rintro ⟨protocol, tlvData, rest, found, _⟩
  rcases tryReadProxyHeader_of_disallowed input framed localAddress peerAddress fits disallowed
    with ⟨error, failed⟩ | ⟨rewound, passed, _⟩
  · rw [failed] at found
    exact absurd found nofun
  · rw [passed] at found
    exact absurd found nofun

include complete

theorem finds_iff_of_allowed (fits : header.length ≤ readBufferLen)
    (allowed : version ∉ reader.config.disallowedVersions)
    (parsed : ∀ rest, Ppp.parse (header ++ rest) = result)
    (extracted : reader.extractMetadata result peerAddress localAddress =
      .ok (.proxyProtocol endpoints.source endpoints.destination protocol tlvData peerAddress
        localAddress)) :
    Finds reader stream localAddress peerAddress endpoints tlvs payload ↔
      ∀ tlvType, tlvData.lookup tlvType = lastValue tlvs tlvType := by
  have read := tryReadProxyHeader_of_allowed input framed localAddress peerAddress fits allowed
    parsed
  rw [extracted] at read
  have left : (stream.advance header.length).contents = payload := by
    rw [ReadStream.contents_advance (enough_of_input input (le_refl _)), complete, drop_left]
  constructor
  · rintro ⟨otherProtocol, otherData, rest, found, values, _⟩
    rw [read] at found
    injection found with found
    injection found with metadata _
    injection metadata with _ _ _ data
    rw [data]
    exact values
  · intro values
    exact ⟨protocol, tlvData, stream.advance header.length, read, values, left⟩

theorem finds_iff_of_framed (parsed : ∀ rest, Ppp.parse (header ++ rest) = result)
    (extracted : reader.extractMetadata result peerAddress localAddress =
      .ok (.proxyProtocol endpoints.source endpoints.destination protocol tlvData peerAddress
        localAddress)) :
    Finds reader stream localAddress peerAddress endpoints tlvs payload ↔
      version ∉ reader.config.disallowedVersions ∧ header.length ≤ readBufferLen ∧
        ∀ tlvType, tlvData.lookup tlvType = lastValue tlvs tlvType := by
  rcases lt_or_ge readBufferLen header.length with long | fits
  · exact iff_of_false (not_finds_of_long input framed long)
      fun conditions => not_lt.mpr conditions.2.1 long
  · by_cases allowed : version ∈ reader.config.disallowedVersions
    · exact iff_of_false (not_finds_of_disallowed input framed fits allowed)
        fun conditions => conditions.1 allowed
    · rw [finds_iff_of_allowed input complete framed fits allowed parsed extracted]
      exact ⟨fun values => ⟨allowed, fits, values⟩, fun conditions => conditions.2.2⟩

end

theorem lookup_empty_iff (tlvs : List (UInt8 × Bytes)) :
    (∀ tlvType, (∅ : TlvData).lookup tlvType = lastValue tlvs tlvType) ↔ tlvs = [] := by
  constructor
  · intro same
    rw [eq_nil_iff_forall_not_mem]
    intro tlv member
    exact lastValue_eq_none_iff.mp (same (.ofByte tlv.1)).symm tlv member rfl
  · rintro rfl tlvType
    rfl

/-- What was written is found exactly when the reader can find it, whatever follows it and in
whatever chunks it arrives. -/
theorem finds_iff [Ppp] [ImplementsWireFormat] (reader : ProxyProtocolReader)
    (configurator : ProxyProtocolConfigurator) (metadata : DownstreamConnectionMetadata)
    (valid : IpEndpoints.Valid ⟨metadata.peerAddress, metadata.localAddress⟩)
    (fits : configurator.payloadLength metadata ≤ 65535) :
    ∃ header, configurator.buildProxyHeader metadata = .ok header ∧
      ∀ (payload : Bytes) (chunks : List Bytes) (localAddress peerAddress : SocketAddr),
        chunks.flatten = header ++ payload →
          (Finds reader (.ofChunks chunks) localAddress peerAddress
              ⟨metadata.peerAddress, metadata.localAddress⟩ (configurator.writtenTlvs metadata)
              payload ↔ CanFind reader configurator metadata) := by
  rw [CanFind, buildProxyHeader]
  have arrived : ∀ {header payload : Bytes} {chunks : List Bytes},
      chunks.flatten = header ++ payload → (ReadStream.ofChunks chunks).ready = header ++ payload ∧
          (ReadStream.ofChunks chunks).contents = header ++ payload := by
    intro header payload chunks split
    rw [(ReadStream.ofChunks_spec chunks).1, ReadStream.contents_ofChunks]
    exact ⟨split, split⟩
  cases configurator.version with
  | v1 =>
    refine ⟨_, buildV1Header_eq valid, ?_⟩
    intro payload chunks localAddress peerAddress split
    rcases arrived split with ⟨input, complete⟩
    have short := length_encodeV1 valid
    have framed : Framed .v1 _ := v1Framed_encode valid
    rw [finds_iff_of_framed input complete framed (ImplementsWireFormat.parse_v1 _ valid) rfl,
      lookup_empty_iff]
    exact and_congr_right fun _ =>
      and_iff_right (le_trans short (by decide))
  | v2 =>
    have length := @length_payload configurator metadata valid
    have small : (configurator.writtenHeader metadata).payload.length < 65536 := by omega
    refine ⟨_, buildV2Header_eq valid fits, ?_⟩
    intro payload chunks localAddress peerAddress split
    rcases arrived split with ⟨input, complete⟩
    have framed : Framed .v2 _ := v2Framed_encode small
    rw [finds_iff_of_framed input complete framed
      (ImplementsWireFormat.parse_v2 _ ⟨valid, small⟩) rfl, V2Header.length_encode, length]
    exact and_congr_right fun _ => and_congr_right fun _ => lookup_passedTlvs_iff _ _

/-! ### Headers of one client -/

def attentive : ProxyProtocolReader :=
  ⟨⟨false, [], some ⟨.includeAll, []⟩⟩⟩

def client : DownstreamConnectionMetadata :=
  .socket ⟨.v4 [192, 0, 2, 1], 51034⟩ ⟨.v4 [192, 0, 2, 2], 443⟩ none

def adding (length : Nat) : ProxyProtocolConfigurator :=
  ⟨.v2, none, [⟨.custom 0xE0, replicate length 1⟩]⟩

theorem payloadLength_adding (length : Nat) :
    (adding length).payloadLength client = 15 + length := by
  simp only [payloadLength, writtenTlvs, adding, map_append, map_cons, map_nil, length_replicate]
  change 32 / 4 + 4 + (3 + length + 0) = 15 + length
  omega

theorem finds_short_value :
    letI := Ppp.wireFormat
    ∃ header, (adding 4).buildProxyHeader client = .ok header ∧
      ∀ (payload : Bytes) (chunks : List Bytes) (localAddress peerAddress : SocketAddr),
        chunks.flatten = header ++ payload →
          Finds attentive (.ofChunks chunks) localAddress peerAddress
            ⟨client.peerAddress, client.localAddress⟩ [(0xE0, [1, 1, 1, 1])] payload := by
  let _ := Ppp.wireFormat
  have can : CanFind attentive (adding 4) client := ⟨by decide, by decide, by decide⟩
  rcases @finds_iff _ wireFormat_implements attentive (adding 4) client (by decide) (by decide)
    with ⟨header, built, found⟩
  exact ⟨header, built, fun payload chunks localAddress peerAddress split =>
    (found payload chunks localAddress peerAddress split).mpr can⟩

/-- With one value of 482 bytes a header has 513 bytes, and the reader panics. -/
theorem panics_on_long_value :
    letI := Ppp.wireFormat
    IpEndpoints.Valid ⟨client.peerAddress, client.localAddress⟩ ∧
      (adding 482).payloadLength client = 497 ∧
      ∃ header, (adding 482).buildProxyHeader client = .ok header ∧
        attentive.tryReadProxyHeader (.ofChunks [header]) client.localAddress
          client.peerAddress = .error .panicked := by
  let _ := Ppp.wireFormat
  have valid : IpEndpoints.Valid ⟨client.peerAddress, client.localAddress⟩ := by decide
  have payload := payloadLength_adding 482
  have length := @length_payload (adding 482) client valid
  have framed : Framed .v2 ((adding 482).writtenHeader client).encode :=
    v2Framed_encode (by omega)
  refine ⟨valid, payload, _, buildV2Header_eq valid (by omega), ?_⟩
  refine @tryReadProxyHeader_of_long [] _ _ _ _ _ ?_ framed _ _ ?_
  · rw [(ReadStream.ofChunks_spec _).1]
    simp
  · rw [V2Header.length_encode, length, payload]
    decide

end ProxyProtocolReader

end Orion.Transport
