import Orion.Listeners.ConnectionProcessing
import Orion.Transport.ProxyRoundTrip
import Orion.Transport.TlvConservation

/-! # Listener filters after each other

The TLS inspector looks at a connection before the PROXY protocol header was taken from
it, so that it looks at the header. -/

namespace Orion.Transport

open Foundation Http Listeners List Nat ReadStream

/-! ## What is left of a stream -/

namespace TlvListenerFilter

variable {stream : AsyncStream} (unfailing : stream.failure? = none)
  (localAddress peerAddress : SocketAddr)

include unfailing

theorem contents_afterFailure : stream.afterFailure.contents = [] := by
  have all := ready_eq_contents unfailing
  rw [contents_eq stream] at all
  exact self_eq_append_right.mp all

theorem processStream_empty (empty : stream.contents = []) :
    ∃ handed metadata,
      default.processStream stream localAddress peerAddress = .ok (handed, metadata) ∧
        handed.contents = [] := by
  have none : stream.ready = [] := (ready_eq_contents unfailing).trans empty
  rw [default, processStream_of_short ⟨[], [], none, zero_le _⟩ _ _ rfl, unfailing]
  exact ⟨_, _, rfl, contents_afterFailure unfailing⟩

theorem processStream_cases :
    (∃ error, default.processStream stream localAddress peerAddress = .error error) ∨
    ∃ handed metadata,
      default.processStream stream localAddress peerAddress = .ok (handed, metadata) ∧
        metadata.peerAddress = peerAddress ∧
        (stream.contents ≠ [] → handed.contents.length < stream.contents.length) := by
  rcases exists_entries defaultMaxTlvLength stream.ready with ⟨entries, last⟩
  rw [default]
  cases next : entries.next with
  | service => exact absurd next last
  | ending =>
    right
    rcases take_of_ending entries next with ⟨enough, _⟩
    have whole := congrArg length (take_append_advance enough)
    rw [length_append, length_take_of_le enough] at whole
    have taken : 0 < endOf (ServiceAddress.encodeAll entries.addresses).length := by
      rw [endOf]
      split <;> omega
    refine ⟨_, _, processStream_of_ending entries _ _ next, ?_, fun _ => by omega⟩
    cases entries.addresses <;> rfl
  | short =>
    right
    rw [processStream_of_short entries _ _ next, unfailing]
    refine ⟨_, _, rfl, rfl, ?_⟩
    intro some
    rw [contents_afterFailure unfailing]
    exact length_pos_iff.mpr some
  | malformed => exact .inl ⟨_, processStream_of_malformed entries _ _ next⟩

theorem processStream_foreign (input : stream.contents = tlvType :: a :: b :: c :: d :: later)
    (service : tlvType ≠ tlvTypeServiceAddress) (ending : tlvType ≠ tlvTypeEnding) :
    ∃ error, default.processStream stream localAddress peerAddress = .error error := by
  have ready := (ready_eq_contents unfailing).trans input
  have malformed : Entries.next ⟨[], _, ready, zero_le defaultMaxTlvLength⟩ = .malformed := by
    rw [Entries.next, nextTlv, if_neg service, if_neg ending]
  exact ⟨_, processStream_of_malformed _ _ _ malformed⟩

end TlvListenerFilter

theorem ValidHeader.foreign [Ppp] (header : ValidHeader) :
    ∃ tlvType a b c d later, header.bytes = tlvType :: a :: b :: c :: d :: later ∧
      tlvType ≠ tlvTypeServiceAddress ∧ tlvType ≠ tlvTypeEnding := by
  rcases header with ⟨version, bytes, result, framed, _, _⟩
  cases version with
  | v1 =>
    have starts : bytes.take 5 = [80, 82, 79, 88, 89] := V1Framed.starts framed
    refine ⟨80, 82, 79, 88, 89, bytes.drop 5, ?_, by decide, by decide⟩
    change bytes = [80, 82, 79, 88, 89] ++ bytes.drop 5
    rw [← starts, take_append_drop]
  | v2 =>
    have starts : bytes.take 12 = v2Prefix := V2Framed.starts framed
    refine ⟨13, 10, 13, 10, 0, v2Prefix.drop 5 ++ bytes.drop 12, ?_, by decide, by decide⟩
    change bytes = v2Prefix ++ bytes.drop 12
    rw [← starts, take_append_drop]

end Orion.Transport

namespace Orion.Listeners

open Foundation Http Transport Orion.Configuration List Nat

namespace ListenerFilters

def strip [Ppp] (filters : ListenerFilters) (accepted : Accepted) (stream : AsyncStream) :
    Except ConnectionError (DownstreamConnectionMetadata × AsyncStream) := do
  let (metadata, stream) ← filters.readProxyHeader accepted stream
  filters.readTlvs accepted metadata stream

theorem process_eq [Acceptor] [Ppp] (filters : ListenerFilters) (accepted : Accepted)
    (stream : AsyncStream) :
    filters.process accepted stream =
      (filters.strip accepted (filters.inspect stream).2.2).map fun (metadata, handed) =>
        (⟨metadata, (filters.inspect stream).1, (filters.inspect stream).2.1⟩, handed) := by
  rw [process, strip]
  rcases filters.inspect stream with ⟨serverName, transportProtocol, stream⟩
  simp only [bind, Except.bind]
  cases filters.readProxyHeader accepted stream with
  | error error => rfl
  | ok read =>
    cases filters.readTlvs accepted read.1 read.2 <;> rfl

theorem inspect_keeps [Acceptor] (filters : ListenerFilters) (stream : AsyncStream) :
    (filters.inspect stream).2.2.contents = stream.contents ∧
      (stream.failure? = none → (filters.inspect stream).2.2.failure? = none) := by
  rw [inspect]
  split
  · exact inspectClientHello_keeps stream
  · exact ⟨rfl, id⟩

/-- Values are looked for in everything that is left, and nothing is put back. -/
theorem readTlvs_iff (filters : ListenerFilters) (accepted : Accepted)
    (metadata : DownstreamConnectionMetadata) (unfailing : stream.failure? = none) :
    (∃ found handed, filters.readTlvs accepted metadata stream = .ok (found, handed) ∧
      handed.contents = stream.contents) ↔
    (filters.withTlvListenerFilter → stream.contents = []) := by
  rw [readTlvs]
  cases filters.withTlvListenerFilter with
  | false => exact iff_of_true ⟨metadata, stream, rfl, rfl⟩ nofun
  | true =>
    constructor
    · rintro ⟨found, handed, processed, same⟩ _
      by_contra some
      rcases TlvListenerFilter.processStream_cases unfailing accepted.localAddress
        accepted.peerAddress with ⟨error, failed⟩ | ⟨rest, other, result, _, shorter⟩
      · rw [failed] at processed
        exact absurd processed nofun
      · rw [result] at processed
        injection processed with processed
        injection processed with _ rest
        subst rest
        exact absurd (congrArg List.length same) (Nat.ne_of_lt (shorter some))
    · intro empty
      rcases TlvListenerFilter.processStream_empty unfailing accepted.localAddress
        accepted.peerAddress (empty rfl) with ⟨handed, found, processed, none⟩
      refine ⟨found, handed, ?_, none.trans (empty rfl).symm⟩
      rw [processed]
      rfl

section

variable [Ppp] {filters : ListenerFilters} {config : DownstreamProxyProtocolConfig}
  (configured : filters.proxyProtocolConfig = some config) {header : ValidHeader}
  {stream : AsyncStream} (unfailing : stream.failure? = none)
  (input : stream.contents = header.bytes ++ payload) (accepted : Accepted)

include configured unfailing input

theorem strip_of_readable (readable : header.Readable config) :
    ∃ metadata, filters.strip accepted stream =
        filters.readTlvs accepted metadata (stream.advance header.bytes.length) ∧
      metadata.peerAddress =
        (header.result.endpoints?.map IpEndpoints.source).getD accepted.peerAddress ∧
      (stream.advance header.bytes.length).contents = payload ∧
      (stream.advance header.bytes.length).failure? = none := by
  have ready := (ReadStream.ready_eq_contents unfailing).trans input
  have enough : header.bytes.length ≤ stream.ready.length := by
    rw [ready, length_append]
    omega
  rcases ValidHeader.tryReadProxyHeader_of_readable ready accepted.localAddress
    accepted.peerAddress readable with ⟨metadata, read, source⟩
  refine ⟨metadata, ?_, source, ?_, (ReadStream.advance_spec enough).2.1.trans unfailing⟩
  · rw [strip, readProxyHeader, configured]
    simp only [read]
    rfl
  · rw [ReadStream.contents_advance enough, input, drop_left]

theorem strip_of_not_readable (unreadable : ¬ header.Readable config) :
    (∃ error, filters.strip accepted stream = .error error) ∨
      filters.withTlvListenerFilter = false ∧ header.version ∈ config.disallowedVersions ∧
      ∃ handed, filters.strip accepted stream =
          .ok (.socket accepted.peerAddress accepted.localAddress none, handed) ∧
        handed.contents = header.bytes ++ payload := by
  have ready := (ReadStream.ready_eq_contents unfailing).trans input
  rw [strip, readProxyHeader, configured]
  rcases ValidHeader.tryReadProxyHeader_of_not_readable ready accepted.localAddress
    accepted.peerAddress unreadable with
    ⟨error, failed⟩ | ⟨disallowed, rewound, passed, same, failure⟩
  · simp only [failed]
    exact .inl ⟨error, rfl⟩
  · simp only [passed]
    change (∃ error, filters.readTlvs accepted _ rewound = .error error) ∨
      _ ∧ _ ∧ ∃ handed, filters.readTlvs accepted _ rewound = _ ∧ _
    rw [readTlvs]
    cases filters.withTlvListenerFilter with
    | false => exact .inr ⟨rfl, disallowed, rewound, rfl, same.trans input⟩
    | true =>
      left
      rcases header.foreign with ⟨tlvType, a, b, c, d, later, bytes, service, ending⟩
      rw [input, bytes] at same
      rcases TlvListenerFilter.processStream_foreign (failure.trans unfailing)
        accepted.localAddress accepted.peerAddress same service ending with ⟨error, failed⟩
      rw [if_pos rfl, failed]
      exact ⟨error, rfl⟩

/-- The payload is left exactly when the header is read, and nothing takes the payload. -/
theorem strip_iff : (∃ metadata handed, filters.strip accepted stream = .ok (metadata, handed) ∧
      handed.contents = payload) ↔
    header.Readable config ∧ (filters.withTlvListenerFilter → payload = []) := by
  by_cases readable : header.Readable config
  · rcases strip_of_readable configured unfailing input accepted readable with
      ⟨metadata, stripped, _, left, still⟩
    have tlvs := filters.readTlvs_iff accepted metadata still
    rw [left] at tlvs
    rw [stripped, tlvs, and_iff_right readable]
  · refine iff_of_false ?_ fun conditions => readable conditions.1
    rintro ⟨metadata, handed, stripped, same⟩
    rcases strip_of_not_readable configured unfailing input accepted readable with
      ⟨error, failed⟩ | ⟨_, _, rest, kept, whole⟩
    · rw [failed] at stripped
      exact absurd stripped nofun
    · rw [kept] at stripped
      injection stripped with stripped
      injection stripped with _ rest
      subst rest
      rw [whole, append_left_eq_self] at same
      rcases header.foreign with ⟨_, _, _, _, _, _, bytes, _⟩
      rw [bytes] at same
      exact absurd same nofun

end

/-- A filter chain is selected by what the inspector finds in the payload, and gets the
payload. -/
def Composes [Acceptor] [Ppp] (filters : ListenerFilters) (accepted : Accepted)
    (stream payload : AsyncStream) : Prop :=
  ∃ metadata handed, filters.process accepted stream =
      .ok (⟨metadata, (inspectClientHello payload).1.serverName,
        (inspectClientHello payload).1.transportProtocol⟩, handed) ∧
    handed.contents = payload.contents

/-- The inspector finds the same with the header and without it. -/
def InspectsAlike [Acceptor] (stream payload : AsyncStream) : Prop :=
  (inspectClientHello stream).1.serverName = (inspectClientHello payload).1.serverName ∧
    (inspectClientHello stream).1.transportProtocol =
      (inspectClientHello payload).1.transportProtocol

theorem composes_iff [Acceptor] [Ppp] (filters : ListenerFilters)
    (config : DownstreamProxyProtocolConfig) (accepted : Accepted) (header : ValidHeader)
    (payload : Bytes) (chunks : List Bytes) (inspects : filters.withTlsInspector = true)
    (configured : filters.proxyProtocolConfig = some config)
    (split : chunks.flatten = header.bytes ++ payload) :
    Composes filters accepted (.ofChunks chunks)
        (ReadStream.advance header.bytes.length (.ofChunks chunks)) ↔
      header.Readable config ∧ (filters.withTlvListenerFilter = true → payload = []) ∧
        InspectsAlike (.ofChunks chunks)
          (ReadStream.advance header.bytes.length (.ofChunks chunks)) := by
  have unfailing := ReadStream.failure?_ofChunks chunks
  have input := (ReadStream.contents_ofChunks chunks).trans split
  rcases filters.inspect_keeps (.ofChunks chunks) with ⟨kept, still⟩
  have left : (ReadStream.advance header.bytes.length (.ofChunks chunks)).contents = payload := by
    rw [ReadStream.contents_advance, input, drop_left]
    rw [ReadStream.ready_eq_contents unfailing, input, length_append]
    omega
  have found : filters.inspect (.ofChunks chunks) =
      ((inspectClientHello (.ofChunks chunks)).1.serverName,
        (inspectClientHello (.ofChunks chunks)).1.transportProtocol,
        (inspectClientHello (.ofChunks chunks)).2) := by
    rw [inspect, if_pos inspects]
  have stripped := strip_iff configured (still unfailing) (kept.trans input) accepted
  rw [← and_assoc, ← stripped, Composes, process_eq, left, found]
  simp only [map_eq_ok_iff]
  constructor
  · rintro ⟨metadata, handed, ⟨⟨other, rest⟩, taken, same⟩, whole⟩
    injection same with connection rest
    injection connection with _ serverName transportProtocol
    subst rest
    exact ⟨⟨other, rest, taken, whole⟩, serverName, transportProtocol⟩
  · rintro ⟨⟨metadata, handed, taken, same⟩, serverName, transportProtocol⟩
    refine ⟨metadata, handed, ⟨_, taken, ?_⟩, same⟩
    rw [serverName, transportProtocol]

/-! ### A client behind a load balancer -/

/-- A library that takes a handshake record for a client hello, and refuses the rest. -/
@[reducible] def handshakeAcceptor : Acceptor where
  room _ := 4096
  accept bytes :=
    if bytes.head? = some 22 then .clientHello (some "example.com".toList) else .refused

def balancerHeader : @ValidHeader Ppp.wireFormat :=
  letI := Ppp.wireFormat
  have valid : IpEndpoints.Valid ⟨⟨.v4 [192, 0, 2, 1], 51034⟩, ⟨.v4 [192, 0, 2, 2], 443⟩⟩ := by
    decide
  ⟨.v1, encodeV1 ⟨⟨.v4 [192, 0, 2, 1], 51034⟩, ⟨.v4 [192, 0, 2, 2], 443⟩⟩, _,
    v1Framed_encode valid, wireFormat_implements.parse_v1 _ valid, rfl⟩

def bothFilters : ListenerFilters := ⟨true, some ⟨false, [], none⟩, false⟩

def balancerAddress : Accepted := ⟨⟨.v4 [192, 0, 2, 2], 443⟩, ⟨.v4 [203, 0, 113, 9], 60000⟩, none⟩

theorem composes_without_tls :
    letI := Ppp.wireFormat
    letI := handshakeAcceptor
    Composes bothFilters balancerAddress (.ofChunks [balancerHeader.bytes ++ [71]])
      (ReadStream.advance balancerHeader.bytes.length
        (.ofChunks [balancerHeader.bytes ++ [71]])) := by
  let _ := Ppp.wireFormat
  let _ := handshakeAcceptor
  refine (composes_iff bothFilters ⟨false, [], none⟩ balancerAddress balancerHeader [71]
    [balancerHeader.bytes ++ [71]] rfl rfl (by simp)).mpr ⟨⟨?_, ?_, ?_⟩, ?_, ?_⟩
  · decide +kernel
  · decide
  · rfl
  · exact nofun
  · exact ⟨by decide +kernel, by decide +kernel⟩

/-- The inspector takes the header of the load balancer for the beginning of the connection,
and finds no client hello there. -/
theorem header_hides_client_hello :
    letI := Ppp.wireFormat
    letI := handshakeAcceptor
    (inspectClientHello (.ofChunks [[22]])).1 = .success "example.com".toList ∧
    ((bothFilters.process balancerAddress (.ofChunks [balancerHeader.bytes ++ [22]])).map
      fun result => (result.1.serverName, result.1.transportProtocol, result.2.contents)) =
        .ok (none, .rawBuffer, [22]) := by
  decide +kernel

end ListenerFilters

end Orion.Listeners
