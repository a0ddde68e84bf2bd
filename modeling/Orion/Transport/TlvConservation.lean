import Orion.Transport.TlvLoop

/-! # Which bytes the TLV listener filter passes on

The filter never puts a byte back, and it does not read the length of the last entry after an
address. Therefore it passes on what it should only when it has read nothing.
-/

namespace Orion.Transport

open Foundation Http Listeners ReadStream ServiceAddress List

namespace TlvListenerFilter

/-- The stream that is handed on has everything but the list, or everything when there is
no list. -/
def Conserves (stream : AsyncStream) :
    Except ConnectionError (AsyncStream × DownstreamConnectionMetadata) → Prop
  | .error _ => True
  | .ok (handedOn, .tlv _ _ _) => ∃ addresses,
      stream.contents = encodeAll addresses ++ (endingTlv ++ handedOn.contents)
  | .ok (handedOn, _) => handedOn.contents = stream.contents

def Silent (stream : AsyncStream) : Prop :=
  stream.ready = [] ∧ (stream.failure? = none ∨ stream.failure? = some .wouldBlock)

/-- After some addresses follows something that is no entry, or a read fails. -/
def Refused (maxTlvLength : Nat) (stream : AsyncStream) : Prop :=
  ∃ entries : Entries maxTlvLength stream.ready, entries.next = .malformed ∨
    entries.next = .short ∧ ∃ error, stream.failure? = some error ∧ error ≠ .wouldBlock

section

variable {maxTlvLength : Nat} {stream : AsyncStream}
  (entries : Entries maxTlvLength stream.ready) (localAddress peerAddress : SocketAddr)

theorem conserves_iff_of_short (short : entries.next = .short) :
    Conserves stream ((new maxTlvLength).processStream stream localAddress peerAddress) ↔
      stream.ready = [] ∨ ∃ error, stream.failure? = some error ∧ error ≠ .wouldBlock := by
  have same : stream.afterFailure.contents = stream.contents ↔ stream.ready = [] := by
    rw [contents_eq stream, self_eq_append_left]
  rw [processStream_of_short entries _ _ short]
  cases stream.failure? with
  | none => simpa [Conserves] using same
  | some error =>
    cases error with
    | wouldBlock => simpa [Conserves] using same
    | unexpectedEof | other => exact iff_of_true trivial (.inr ⟨_, rfl, nofun⟩)

theorem encodeAll_ending_ne (addresses : List ServiceAddress) (taken : Bytes) :
    encodeAll addresses ++ endingTlv ≠ taken ++ [tlvTypeEnding] := by
  intro same
  have last := congrArg getLast? same
  simp [endingTlv, tlvTypeEnding] at last

/-- Bytes of the last entry stay in the stream, or the whole entry is taken from it. -/
theorem not_conserves_of_ending (ending : entries.next = .ending) :
    ¬ Conserves stream ((new maxTlvLength).processStream stream localAddress peerAddress) := by
  rcases take_of_ending entries ending with ⟨enough, taken⟩
  have whole := take_append_advance enough
  rw [taken] at whole
  rw [processStream_of_ending entries _ _ ending]
  cases addresses : entries.addresses with
  | nil =>
    rw [addresses] at whole
    intro conserved
    have length := congrArg length (Eq.trans whole conserved.symm)
    rw [length_append] at length
    change 5 + _ = _ at length
    omega
  | cons address others =>
    have some : (encodeAll (address :: others)).length ≠ 0 := by
      rw [encodeAll_cons, length_append, length_encode]
      omega
    rintro ⟨claimed, conserved⟩
    rw [addresses, takenEnding, if_neg some] at whole
    rw [← whole, ← append_assoc, append_left_inj] at conserved
    exact encodeAll_ending_ne claimed _ conserved.symm

end

/-- Bytes are conserved exactly when there was nothing to read, or the connection is given
up. -/
theorem conserves_iff (maxTlvLength : Nat) (stream : AsyncStream)
    (localAddress peerAddress : SocketAddr) :
    Conserves stream ((new maxTlvLength).processStream stream localAddress peerAddress) ↔
      Silent stream ∨ Refused maxTlvLength stream := by
  constructor
  · intro conserved
    rcases exists_entries maxTlvLength stream.ready with ⟨entries, last⟩
    cases next : entries.next with
    | service => exact absurd next last
    | malformed => exact .inr ⟨entries, .inl next⟩
    | ending =>
      exact absurd conserved (not_conserves_of_ending entries localAddress peerAddress next)
    | short =>
      rcases (conserves_iff_of_short entries localAddress peerAddress next).mp conserved with
        empty | failed
      · cases failure : stream.failure? with
        | none => exact .inl ⟨empty, .inl failure⟩
        | some error =>
          by_cases blocked : error = .wouldBlock
          · exact .inl ⟨empty, .inr (blocked ▸ failure)⟩
          · exact .inr ⟨entries, .inr ⟨next, error, failure, blocked⟩⟩
      · exact .inr ⟨entries, .inr ⟨next, failed⟩⟩
  · rintro (⟨empty, _⟩ | ⟨entries, malformed | ⟨short, failed⟩⟩)
    · let entries : Entries maxTlvLength stream.ready := ⟨[], [], empty, Nat.zero_le _⟩
      exact (conserves_iff_of_short entries localAddress peerAddress rfl).mpr (.inl empty)
    · rw [processStream_of_malformed entries _ _ malformed]
      trivial
    · exact (conserves_iff_of_short entries localAddress peerAddress short).mpr (.inr failed)

def sentWithAddress : Bytes :=
  [1, 0, 0, 0, 6, 10, 0, 0, 1, 0, 80, 0xfe, 0, 0, 0, 0, 71, 69, 84]

def clientAddress : SocketAddr := ⟨.v4 [10, 0, 0, 9], 40000⟩
def listenerAddress : SocketAddr := ⟨.v4 [10, 0, 0, 2], 15006⟩

/-- After an address, four bytes of the last entry are handed on in front of the request.
Three bytes of a connection that is then closed are lost. -/
theorem ending_left_and_bytes_lost :
    ¬ Conserves (.ofChunks [sentWithAddress])
        (default.processStream (.ofChunks [sentWithAddress]) listenerAddress clientAddress) ∧
      default.processStream (.ofChunks [sentWithAddress]) listenerAddress clientAddress =
        .ok (.ofChunks [[0, 0, 0, 0, 71, 69, 84]],
          .tlv ⟨.v4 [10, 0, 0, 1], 80⟩ clientAddress listenerAddress) ∧
      default.processStream (.ofChunks [[71, 69, 84]]) listenerAddress clientAddress =
        .ok ([], .socket clientAddress listenerAddress none) := by
  have handedOn : default.processStream (.ofChunks [sentWithAddress]) listenerAddress
      clientAddress = .ok (.ofChunks [[0, 0, 0, 0, 71, 69, 84]],
        .tlv ⟨.v4 [10, 0, 0, 1], 80⟩ clientAddress listenerAddress) := by
    decide +kernel
  refine ⟨?_, handedOn, by decide +kernel⟩
  rw [handedOn]
  rintro ⟨addresses, conserved⟩
  have split : sentWithAddress =
      (sentWithAddress.take 11 ++ [tlvTypeEnding]) ++ [0, 0, 0, 0, 71, 69, 84] := rfl
  change sentWithAddress = _ ++ (endingTlv ++ [0, 0, 0, 0, 71, 69, 84]) at conserved
  rw [split, ← append_assoc, append_left_inj] at conserved
  exact encodeAll_ending_ne addresses _ conserved.symm

end TlvListenerFilter

/-! ## Which lists the TLV listener filter accepts

A list is meant to be some addresses and an entry that ends it. The filter does not look at more
than the type of the last entry, so that it also accepts lists that are not complete.
-/

namespace TlvListenerFilter

open Option

variable {maxTlvLength : Nat} {stream : AsyncStream} {localAddress peerAddress : SocketAddr}

def IsList (maxTlvLength : Nat) (bytes : Bytes) (addresses : List ServiceAddress) : Prop :=
  addresses ≠ [] ∧ encodeAll addresses ++ endingTlv <+: bytes ∧
    (encodeAll addresses).length + 5 ≤ maxTlvLength

def Accepts (maxTlvLength : Nat) (stream : AsyncStream) (localAddress peerAddress : SocketAddr)
    (destination : SocketAddr) : Prop :=
  ∃ handedOn, (new maxTlvLength).processStream stream localAddress peerAddress =
    .ok (handedOn, .tlv destination peerAddress localAddress)

/-- The lists are accepted and nothing else, and the first address is the destination. -/
def FollowsGrammar (maxTlvLength : Nat) (stream : AsyncStream)
    (localAddress peerAddress : SocketAddr) : Prop :=
  ((∃ destination, Accepts maxTlvLength stream localAddress peerAddress destination) ↔
    ∃ addresses, IsList maxTlvLength stream.ready addresses) ∧
  ∀ destination, Accepts maxTlvLength stream localAddress peerAddress destination →
    ∃ (address : ServiceAddress) (later : Bytes), stream.ready = address.encode ++ later ∧
      destination = address.socketAddr

theorem accepts_iff :
    Accepts maxTlvLength stream localAddress peerAddress destination ↔
      ∃ (entries : Entries maxTlvLength stream.ready) (address : ServiceAddress)
        (others : List ServiceAddress), entries.addresses = address :: others ∧
          entries.rest.head? = some tlvTypeEnding ∧ destination = address.socketAddr := by
  constructor
  · rintro ⟨handedOn, accepted⟩
    rcases exists_entries maxTlvLength stream.ready with ⟨entries, last⟩
    cases next : entries.next with
    | service => exact absurd next last
    | ending =>
      rw [processStream_of_ending entries _ _ next] at accepted
      rcases exists_ending next with ⟨later, rest⟩
      cases addresses : entries.addresses with
      | nil =>
        rw [addresses] at accepted
        cases accepted
      | cons address others =>
        rw [addresses] at accepted
        cases accepted
        refine ⟨entries, address, others, addresses, ?_, rfl⟩
        rw [rest, takenEnding]
        split <;> rfl
    | short =>
      rw [processStream_of_short entries _ _ next] at accepted
      split at accepted <;> cases accepted
    | malformed =>
      rw [processStream_of_malformed entries _ _ next] at accepted
      cases accepted
  · rintro ⟨entries, address, others, addresses, ending, rfl⟩
    rcases head?_eq_some_iff.mp ending with ⟨later, rest⟩
    have behind : (encodeAll entries.addresses).length ≠ 0 := by
      rw [addresses, encodeAll_cons, length_append, length_encode]
      omega
    have next : entries.next = .ending := by
      rw [Entries.next, rest, nextTlv_of_behind behind (by decide), if_pos rfl]
    have accepted := processStream_of_ending entries localAddress peerAddress next
    rw [addresses] at accepted
    exact ⟨_, accepted⟩

theorem encode_inj {address other : ServiceAddress}
    (same : address.encode ++ left = other.encode ++ right) :
    address.encode = other.encode ∧ left = right := by
  have length : UInt8.ofNat address.content.length = UInt8.ofNat other.content.length :=
    some.inj (congrArg (fun bytes : Bytes => bytes[4]?) same)
  apply append_inj same
  rw [length_encode, length_encode]
  rcases address.valid with first | first <;> rcases other.valid with second | second <;>
    rw [first, second] at length ⊢ <;> exact absurd length (by decide)

theorem encodeAll_inj {addresses others : List ServiceAddress}
    (same : encodeAll addresses ++ tlvTypeEnding :: left =
      encodeAll others ++ tlvTypeEnding :: right) :
    encodeAll addresses = encodeAll others ∧ left = right := by
  induction addresses generalizing others with
  | nil =>
    cases others with
    | nil => exact ⟨rfl, tail_eq_of_cons_eq same⟩
    | cons other others => cases same
  | cons address addresses induction =>
    cases others with
    | nil => cases same
    | cons other others =>
      rw [encodeAll_cons, encodeAll_cons, append_assoc, append_assoc] at same
      rcases encode_inj same with ⟨first, later⟩
      rcases induction later with ⟨rest, left⟩
      exact ⟨by rw [encodeAll_cons, encodeAll_cons, first, rest], left⟩

/-- Exactly the lists are accepted when the type that ends some addresses is always followed by a
length of zero, within the limit. -/
theorem followsGrammar_iff :
    FollowsGrammar maxTlvLength stream localAddress peerAddress ↔
      ∀ entries : Entries maxTlvLength stream.ready, entries.addresses ≠ [] →
        entries.rest.head? = some tlvTypeEnding →
          endingTlv <+: entries.rest ∧ (encodeAll entries.addresses).length + 5 ≤ maxTlvLength := by
  constructor
  · rintro ⟨exactly, _⟩ entries nonempty ending
    rcases exists_cons_of_ne_nil nonempty with ⟨address, others, addresses⟩
    rcases exactly.mp ⟨_, accepts_iff.mpr ⟨entries, address, others, addresses, ending, rfl⟩⟩ with
      ⟨listed, _, ⟨later, whole⟩, fits⟩
    rcases head?_eq_some_iff.mp ending with ⟨rest, found⟩
    have split := entries.split
    rw [found] at split
    rw [append_assoc] at whole
    rcases encodeAll_inj (whole.trans split) with ⟨same, left⟩
    rw [found, ← left, ← same]
    exact ⟨⟨later, rfl⟩, fits⟩
  · intro complete
    refine ⟨⟨?_, ?_⟩, ?_⟩
    · rintro ⟨destination, accepted⟩
      rcases accepts_iff.mp accepted with ⟨entries, address, others, addresses, ending, _⟩
      have nonempty : entries.addresses ≠ [] := by
        rw [addresses]
        nofun
      rcases complete entries nonempty ending with ⟨⟨later, rest⟩, fits⟩
      refine ⟨entries.addresses, nonempty, ⟨later, ?_⟩, fits⟩
      rw [append_assoc, rest, ← entries.split]
    · rintro ⟨addresses, nonempty, ⟨later, whole⟩, fits⟩
      rcases exists_cons_of_ne_nil nonempty with ⟨address, others, rfl⟩
      rw [append_assoc] at whole
      exact ⟨_, accepts_iff.mpr ⟨⟨_, _, whole.symm, by omega⟩, address, others, rfl, rfl, rfl⟩⟩
    · intro destination accepted
      rcases accepts_iff.mp accepted with ⟨entries, address, others, addresses, _, rfl⟩
      have split := entries.split
      rw [addresses, encodeAll_cons, append_assoc] at split
      exact ⟨address, _, split, rfl⟩

/-- An address is accepted with the type of the last entry only, and without its length. -/
theorem incomplete_list_accepted :
    ¬ FollowsGrammar 256 (.ofChunks [[1, 0, 0, 0, 6, 10, 0, 0, 1, 0, 80, 0xfe]])
        ⟨.v4 [10, 0, 0, 2], 15006⟩ ⟨.v4 [10, 0, 0, 9], 40000⟩ ∧
      Accepts 256 (.ofChunks [[1, 0, 0, 0, 6, 10, 0, 0, 1, 0, 80, 0xfe]])
        ⟨.v4 [10, 0, 0, 2], 15006⟩ ⟨.v4 [10, 0, 0, 9], 40000⟩ ⟨.v4 [10, 0, 0, 1], 80⟩ := by
  have accepted : Accepts 256 (.ofChunks [[1, 0, 0, 0, 6, 10, 0, 0, 1, 0, 80, 0xfe]])
      ⟨.v4 [10, 0, 0, 2], 15006⟩ ⟨.v4 [10, 0, 0, 9], 40000⟩ ⟨.v4 [10, 0, 0, 1], 80⟩ :=
    ⟨[], by decide +kernel⟩
  refine ⟨?_, accepted⟩
  rintro ⟨exactly, _⟩
  rcases exactly.mp ⟨_, accepted⟩ with ⟨addresses, nonempty, whole, _⟩
  rcases exists_cons_of_ne_nil nonempty with ⟨address, others, rfl⟩
  have length := whole.length_le
  rw [encodeAll_cons, length_append, length_append, length_encode] at length
  change _ + 5 ≤ 12 at length
  rcases address.valid with short | long
  · rw [short, tlvTypeServiceAddressIpv4Len] at length
    omega
  · rw [long, tlvTypeServiceAddressIpv6Len] at length
    omega

end TlvListenerFilter

/-! ## Bounds of the TLV listener filter

The lengths that a peer sends decide how much is read and where. The filter checks them before it
uses them.
-/

namespace TlvListenerFilter

open Option Nat

/-- The loop after a number of passes. -/
inductive Looping (maxTlvLength : Nat) (stream : AsyncStream) :
    Nat → TlvListenerFilter → AsyncStream → Prop where
  | start : Looping maxTlvLength stream 0 (new maxTlvLength) stream
  | again {passes : Nat} {filter full following : TlvListenerFilter} {later rest : AsyncStream}
    (before : Looping maxTlvLength stream passes filter later)
    (complete : filter.readRequiredData later = (.done, full, rest))
    (parsed : full.parse = some (.again following)) :
    Looping maxTlvLength stream (passes + 1) following rest

/-- Every pass before this one has taken a byte. The type is found in this one, no sum overflows
as long as the buffer can be allocated, and the buffer is not larger than the limit and the head
of one entry. -/
structure Safe (maxTlvLength passes : Nat) (filter : TlvListenerFilter)
    (result : ReadOrParseState × TlvListenerFilter × AsyncStream) : Prop where
  progress : passes ≤ filter.buffer.length
  indexed : result.1 = .done → result.2.1.parse ≠ none
  sums : filter.buffer.length < 2 ^ 63 →
    filter.index + tlvTypeLen + tlvLengthLen + tlvTypeServiceAddressIpv6Len < 2 ^ 64 ∧
      filter.expectedLength + tlvTypeLen < 2 ^ 64
  holds : result.2.1.buffer.length ≤ maxTlvLength + 5

/-- An entry is looked at for the destination: it has a type, and its end does not overflow. -/
structure SafeAt (filter : TlvListenerFilter) (currentIndex : Nat) : Prop where
  indexed : filter.buffer[currentIndex]? ≠ none
  sums : filter.buffer.length < 2 ^ 63 → ∀ contentLength,
    filter.readU32Be (currentIndex + tlvTypeLen) = some contentLength →
      currentIndex + tlvTypeLen + tlvLengthLen + contentLength < 2 ^ 64

theorem safeAt {filter : TlvListenerFilter} {currentIndex : Nat}
    (within : currentIndex + tlvTypeLen + tlvLengthLen ≤ filter.buffer.length) :
    filter.SafeAt currentIndex := by
  unfold tlvTypeLen tlvLengthLen at within
  constructor
  · intro missing
    have beyond := getElem?_eq_none_iff.mp missing
    omega
  · intro fits contentLength known
    rcases map_eq_some_iff.mp known with ⟨bytes, sliced, rfl⟩
    unfold slice at sliced
    split_ifs at sliced
    have small := fromBeBytes_lt bytes
    have length : bytes.length ≤ 4 := by
      rw [← some.inj sliced]
      exact length_take_le 4 _
    have limit := Nat.pow_le_pow_right (show 0 < 256 by decide) length
    unfold tlvTypeLen tlvLengthLen
    omega

def Bounded (maxTlvLength : Nat) (filter : TlvListenerFilter) : Prop :=
  match filter.state with
  | .typeAndLength =>
    filter.expectedLength ≤ filter.index + 5 ∧ filter.index ≤ maxTlvLength
  | .content =>
    filter.expectedLength = filter.index + filter.contentLength ∧
      filter.expectedLength ≤ maxTlvLength ∧ filter.contentLength ≤ 18

/-- What holds at the beginning of a pass. -/
structure Sound (maxTlvLength passes : Nat) (filter : TlvListenerFilter) : Prop where
  limit : filter.maxTlvLength = maxTlvLength
  progress : passes ≤ filter.buffer.length
  expects : filter.buffer.length < filter.expectedLength
  position : filter.index ≤ filter.buffer.length
  bounded : filter.Bounded maxTlvLength

variable {maxTlvLength passes : Nat} {filter following : TlvListenerFilter}

theorem readRequiredData_length (expects : filter.buffer.length < filter.expectedLength)
    (later : AsyncStream) :
    ∃ buffer, (filter.readRequiredData later).2.1 = { filter with buffer := buffer } ∧
      buffer.length ≤ filter.expectedLength ∧
      ((filter.readRequiredData later).1 = .done → buffer.length = filter.expectedLength) := by
  rw [readRequiredData]
  rcases lt_or_ge later.ready.length (filter.expectedLength - filter.buffer.length) with
    short | enough
  · rw [gather_of_lt (by decide) short, shortage]
    refine ⟨filter.buffer ++ later.ready, ?_, ?_, ?_⟩
    · cases later.failure? with
      | none => rfl
      | some error => cases error <;> rfl
    · rw [length_append]
      omega
    · cases later.failure? with
      | none => rintro ⟨⟩
      | some error => cases error <;> rintro ⟨⟩
  · rw [gather_of_le (by decide) enough]
    have length := length_take_of_le enough
    refine ⟨_, rfl, ?_, fun _ => ?_⟩ <;> rw [length_append, length] <;> omega

section

variable {buffer : Bytes} (sound : Sound maxTlvLength passes filter)
  (length : buffer.length = filter.expectedLength)

include sound length

theorem parse_ne_none : ({ filter with buffer := buffer } : TlvListenerFilter).parse ≠ none := by
  have expects := sound.expects
  have position := sound.position
  cases filter.state with
  | typeAndLength =>
    change Option.map _ buffer[filter.index]? ≠ none
    rw [getElem?_eq_getElem (by omega)]
    nofun
  | content => nofun

theorem processServiceAddressTlv_sound (typed : filter.state = .typeAndLength)
    (processed : ({ filter with buffer := buffer } : TlvListenerFilter).processServiceAddressTlv =
      (.done, following)) : Sound maxTlvLength (passes + 1) following := by
  rcases sound with ⟨limit, progress, expects, position, bounded⟩
  rw [Bounded, typed] at bounded
  rcases bounded with ⟨near, within⟩
  rw [processServiceAddressTlv] at processed
  dsimp only at processed
  unfold tlvTypeLen tlvLengthLen at processed
  split at processed
  · cases processed
    refine ⟨limit, show passes + 1 ≤ buffer.length by omega,
      show buffer.length < filter.index + 5 by omega,
      show filter.index ≤ buffer.length by omega, ?_⟩
    rw [Bounded, typed]
    exact ⟨le_refl _, within⟩
  · split at processed
    · cases processed
    · next contentLength _ =>
      split_ifs at processed with invalid exceeds
      · cases processed
      · cases processed
      · cases processed
        have valid := validateServiceAddressLength_iff.mp (Bool.of_not_eq_false invalid)
        unfold tlvTypeServiceAddressIpv4Len tlvTypeServiceAddressIpv6Len at valid
        exact ⟨limit, show passes + 1 ≤ buffer.length by omega,
          show buffer.length < filter.index + 5 + _ by omega,
          show filter.index + 5 ≤ buffer.length by omega, rfl,
          show filter.index + 5 + _ ≤ maxTlvLength by omega, show contentLength ≤ 18 by omega⟩

theorem parse_sound (parsed : ({ filter with buffer := buffer } : TlvListenerFilter).parse =
      some (.again following)) : Sound maxTlvLength (passes + 1) following := by
  cases typed : filter.state with
  | typeAndLength =>
    simp only [typed] at parsed
    rcases map_eq_some_iff.mp parsed with ⟨tlvType, _, same⟩
    split_ifs at same
    apply processServiceAddressTlv_sound sound length typed
    rw [typed]
    rcases processed : processServiceAddressTlv _ with ⟨state, read⟩
    rw [processed] at same
    cases state <;> cases same
    rfl
  | content =>
    rcases sound with ⟨limit, progress, expects, position, bounded⟩
    rw [Bounded, typed] at bounded
    simp only [typed] at parsed
    cases parsed
    exact ⟨limit, show passes + 1 ≤ buffer.length by omega,
      show buffer.length < filter.expectedLength + 1 by omega,
      show filter.index + filter.contentLength ≤ buffer.length by omega,
      show filter.expectedLength + 1 ≤ filter.index + filter.contentLength + 5 by omega,
      show filter.index + filter.contentLength ≤ maxTlvLength by omega⟩

end

theorem sound_of_looping (looping : Looping maxTlvLength stream passes filter later) :
    Sound maxTlvLength passes filter := by
  induction looping with
  | start => exact ⟨rfl, le_refl _, succ_pos 4, le_refl _, le_refl _, zero_le _⟩
  | again before complete parsed sound =>
    rcases readRequiredData_length sound.expects _ with ⟨buffer, same, _, full⟩
    rw [complete] at same full
    subst same
    exact parse_sound sound (full rfl) parsed

/-- The filter returns for every stream, and is safe in every pass, also in those over the
entries that it has read. -/
theorem parser_safe (maxTlvLength : Nat) (stream : AsyncStream) :
    ((new maxTlvLength).readAndParseTlv stream).isSome = true ∧
      (∀ passes filter later, Looping maxTlvLength stream passes filter later →
        Safe maxTlvLength passes filter (filter.readRequiredData later)) ∧
      ∀ filter currentIndex, currentIndex + tlvTypeLen + tlvLengthLen ≤ filter.buffer.length →
        SafeAt filter currentIndex := by
  refine ⟨?_, ?_, fun _ _ => safeAt⟩
  · rcases exists_entries maxTlvLength stream.ready with ⟨entries, last⟩
    have returned := readAndParseTlv_returns stream entries
    rw [Returns, entries.drop_eq, ← Entries.next] at returned
    split at returned
    · exact absurd ‹_› last
    · rcases returned with ⟨_, _, returned⟩
      exact isSome_of_eq_some returned
    · rcases returned with ⟨_, returned⟩
      exact isSome_of_eq_some returned
    · rcases returned with ⟨_, _, returned⟩
      exact isSome_of_eq_some returned
  · intro passes filter later looping
    have sound := sound_of_looping looping
    rcases readRequiredData_length sound.expects later with ⟨buffer, same, short, full⟩
    have bounded := sound.bounded
    rw [Bounded] at bounded
    refine ⟨sound.progress, ?_, ?_, ?_⟩
    · intro complete
      rw [same]
      exact parse_ne_none sound (full complete)
    · have position := sound.position
      unfold tlvTypeLen tlvLengthLen tlvTypeServiceAddressIpv6Len
      split at bounded <;> omega
    · rw [same]
      change buffer.length ≤ _
      split at bounded <;> omega

end TlvListenerFilter

end Orion.Transport
