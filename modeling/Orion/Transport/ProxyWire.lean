import Orion.Foundation.MachineInteger
import Orion.Listeners.FilterState

/-! # The wire format of the PROXY protocol

A header says between which two ends a connection was opened. It is a line of text in the
first version, and has a length and may have further values in the second one.
-/

namespace Orion.Transport

open Foundation Http Listeners IpAddr List Nat UInt8

/-! ## Headers -/

structure IpEndpoints where
  source : SocketAddr
  destination : SocketAddr
  deriving DecidableEq

def IpEndpoints.Valid (endpoints : IpEndpoints) : Prop :=
  endpoints.source.ip.WellFormed ∧ endpoints.destination.ip.WellFormed ∧
    endpoints.source.ip.width = endpoints.destination.ip.width

instance (endpoints : IpEndpoints) : Decidable endpoints.Valid :=
  inferInstanceAs (Decidable (_ ∧ _ ∧ _))

inductive V1Addresses where
  | unknown
  | tcp (endpoints : IpEndpoints)
  deriving DecidableEq

inductive Command where
  | localCommand
  | proxyCommand
  deriving DecidableEq

inductive V2Addresses where
  | unspecified
  | ip (endpoints : IpEndpoints)
  | unix (source destination : Bytes)
  deriving DecidableEq

structure V2Header where
  command : Command
  protocol : Protocol
  addresses : V2Addresses
  tlvs : List (UInt8 × Bytes)
  deriving DecidableEq

/-- What is found at the beginning of a text, or why it is no header of its version. -/
inductive HeaderResult where
  | v1 (result : Except Text V1Addresses)
  | v2 (result : Except Text V2Header)

/-! ## The first version -/

def asciiBytes (text : Text) : Bytes := text.map fun character => ofNat character.toNat

def v1Prefix : Bytes := asciiBytes "PROXY".toList

def v1Terminator : Bytes := asciiBytes "\r\n".toList

def v1Keyword : IpAddr → Text
  | .v4 _ => "TCP4".toList
  | .v6 _ => "TCP6".toList

def v1Fields (endpoints : IpEndpoints) : List Text :=
  ["PROXY".toList, v1Keyword endpoints.source.ip, endpoints.source.ip.display,
    endpoints.destination.ip.display, toDigits 10 endpoints.source.port,
    toDigits 10 endpoints.destination.port]

def v1Line (endpoints : IpEndpoints) : Text := [' '].intercalate (v1Fields endpoints)

def encodeV1 (endpoints : IpEndpoints) : Bytes := asciiBytes (v1Line endpoints) ++ v1Terminator

def readPort (text : Text) : Option (Fin 65536) := do
  let (number, rest) ← readNumber 10 5 false text
  if small : number < 65536 ∧ rest = [] then some ⟨number, small.1⟩ else none

def decodeFields (keyword source destination sourcePort destinationPort : Text) :
    Option V1Addresses := do
  let source ← fromStr source
  let destination ← fromStr destination
  let sourcePort ← readPort sourcePort
  let destinationPort ← readPort destinationPort
  guard (keyword = v1Keyword source ∧ keyword = v1Keyword destination)
  return .tcp ⟨⟨source, sourcePort⟩, ⟨destination, destinationPort⟩⟩

def decodeV1 (bytes : Bytes) : Option V1Addresses :=
  let line := bytes.takeWhile fun byte => byte ≠ 13
  match (line.map fun byte => Char.ofNat byte.toNat).splitOn ' ' with
  | [_, keyword, source, destination, sourcePort, destinationPort] =>
    decodeFields keyword source destination sourcePort destinationPort
  | _ :: keyword :: _ => if keyword = "UNKNOWN".toList then some .unknown else none
  | _ => none

/-! ## The second version -/

def v2Prefix : Bytes :=
  [0x0D, 0x0A, 0x0D, 0x0A, 0x00, 0x0D, 0x0A, 0x51, 0x55, 0x49, 0x54, 0x0A]

def encodeTlv (tlv : UInt8 × Bytes) : Bytes := tlv.1 :: (toBeBytes 2 tlv.2.length ++ tlv.2)

def encodeIp : IpAddr → Bytes
  | .v4 octets => octets.map ofNat
  | .v6 groups => groups.flatMap (toBeBytes 2)

namespace V2Addresses

def encode : V2Addresses → Bytes
  | .unspecified => []
  | .ip endpoints =>
    encodeIp endpoints.source.ip ++ encodeIp endpoints.destination.ip ++
      toBeBytes 2 endpoints.source.port ++ toBeBytes 2 endpoints.destination.port
  | .unix source destination => source ++ destination

def family : V2Addresses → Nat
  | .unspecified => 0
  | .ip endpoints => if endpoints.source.ip.width = 32 then 1 else 2
  | .unix _ _ => 3

def Valid : V2Addresses → Prop
  | .unspecified => True
  | .ip endpoints => endpoints.Valid
  | .unix source destination => source.length = 108 ∧ destination.length = 108

def port (bytes : Bytes) : Fin 65536 := Fin.ofNat 65536 (fromBeBytes bytes)

def readV4 (bytes : Bytes) : IpAddr := .v4 (bytes.map toNat)

def readV6 (bytes : Bytes) : IpAddr := .v6 (fromBePairs bytes)

def decodeEndpoints (length : Nat) (readIp : Bytes → IpAddr) (payload : Bytes) :
    Option (V2Addresses × Nat) :=
  if payload.length < length + length + 4 then
    none
  else
    some (.ip
      ⟨⟨readIp (payload.take length), port ((payload.drop (length + length)).take 2)⟩,
        ⟨readIp ((payload.drop length).take length),
          port ((payload.drop (length + length + 2)).take 2)⟩⟩, length + length + 4)

def decode (family : Nat) (payload : Bytes) : Option (V2Addresses × Nat) :=
  match family with
  | 0 => some (.unspecified, 0)
  | 1 => decodeEndpoints 4 readV4 payload
  | 2 => decodeEndpoints 16 readV6 payload
  | 3 =>
    if payload.length < 216 then none
    else some (.unix (payload.take 108) ((payload.drop 108).take 108), 216)
  | _ => none

end V2Addresses

namespace V2Header

def versionCommand (header : V2Header) : UInt8 :=
  match header.command with
  | .localCommand => 0x20
  | .proxyCommand => 0x21

def protocolNumber (header : V2Header) : Nat :=
  match header.protocol with
  | .unspecified => 0
  | .stream => 1
  | .datagram => 2

def payload (header : V2Header) : Bytes :=
  header.addresses.encode ++ header.tlvs.flatMap encodeTlv

def encode (header : V2Header) : Bytes :=
  v2Prefix ++ [header.versionCommand,
    ofNat (header.addresses.family * 16 + header.protocolNumber)] ++
    toBeBytes 2 header.payload.length ++ header.payload

def Valid (header : V2Header) : Prop :=
  header.addresses.Valid ∧ header.payload.length < 65536

/-- Values up to the first one that is not complete. -/
def decodeTlvs : Bytes → List (UInt8 × Bytes)
  | kind :: high :: low :: rest =>
    let length := fromBeBytes [high, low]
    if rest.length < length then []
    else (kind, rest.take length) :: decodeTlvs (rest.drop length)
  | _ => []
termination_by bytes => bytes.length

def decode (bytes : Bytes) : Option V2Header := do
  let versionCommand ← bytes[12]?
  let familyProtocol ← bytes[13]?
  let command ←
    if versionCommand = 0x20 then some Command.localCommand
    else if versionCommand = 0x21 then some .proxyCommand
    else none
  let protocol ←
    match familyProtocol.toNat % 16 with
    | 0 => some Protocol.unspecified
    | 1 => some .stream
    | 2 => some .datagram
    | _ => none
  let length := fromBeBytes ((bytes.drop 14).take 2)
  let payload := (bytes.drop 16).take length
  guard (payload.length = length)
  let (addresses, addressLength) ← V2Addresses.decode (familyProtocol.toNat / 16) payload
  return ⟨command, protocol, addresses, decodeTlvs (payload.drop addressLength)⟩

end V2Header

/-! ## The crate -/

class Ppp where
  parse : Bytes → HeaderResult
  /-- What it says about values that are too long. -/
  tooLong : Text
  /-- How it shows the addresses of files. -/
  debugUnix : Bytes → Bytes → Text

/-- The crate finds what the format says, whatever follows it. -/
class ImplementsWireFormat [Ppp] : Prop where
  parse_v1 : ∀ endpoints : IpEndpoints, endpoints.Valid → ∀ rest,
    Ppp.parse (encodeV1 endpoints ++ rest) = .v1 (.ok (.tcp endpoints))
  parse_v2 : ∀ header : V2Header, header.Valid → ∀ rest,
    Ppp.parse (header.encode ++ rest) = .v2 (.ok header)

def invalidHeader : Text := "invalid header".toList

@[reducible] def Ppp.wireFormat : Ppp where
  parse bytes :=
    if bytes.take 12 = v2Prefix then
      .v2 (match V2Header.decode bytes with
        | some header => .ok header
        | none => .error invalidHeader)
    else
      .v1 (match decodeV1 bytes with
        | some addresses => .ok addresses
        | none => .error invalidHeader)
  tooLong := "write zero".toList
  debugUnix _ _ := "Unix".toList

/-! ## What is written is read back -/

theorem decodeTlvs_encode {tlvs : List (UInt8 × Bytes)}
    (small : (tlvs.flatMap encodeTlv).length < 65536) :
    V2Header.decodeTlvs (tlvs.flatMap encodeTlv) = tlvs := by
  induction tlvs with
  | nil => rw [flatMap_nil, V2Header.decodeTlvs]; nofun
  | cons tlv tlvs induction =>
    rcases tlv with ⟨kind, value⟩
    rw [flatMap_cons, length_append] at small
    have length : (encodeTlv (kind, value)).length = 3 + value.length := by
      simp [encodeTlv]
      omega
    have number := @fromBeBytes_toBeBytes 2 value.length (by omega)
    rw [toBeBytes_two] at number
    rw [flatMap_cons, encodeTlv, toBeBytes_two]
    simp only [cons_append, nil_append, V2Header.decodeTlvs, number, take_left, drop_left]
    rw [if_neg (by rw [length_append]; omega), induction (by omega)]

theorem length_encodeIp {ip : IpAddr} (wellFormed : ip.WellFormed) :
    (encodeIp ip).length = ip.width / 8 := by
  cases ip with
  | v4 octets => rw [encodeIp, length_map, wellFormed.1, width]
  | v6 groups =>
    rw [encodeIp, length_flatMap]
    simp [wellFormed.1, width]

theorem toNat_ofNat_octets {octets : List Nat} (inRange : ∀ octet ∈ octets, octet < 256) :
    (octets.map ofNat).map toNat = octets := by
  rw [map_map]
  refine (map_congr_left ?_).trans (map_id octets)
  intro octet member
  exact mod_eq_of_lt (inRange octet member)

theorem port_toBeBytes (number : Fin 65536) : V2Addresses.port (toBeBytes 2 number) = number := by
  apply Fin.ext
  rw [V2Addresses.port, fromBeBytes_toBeBytes number.isLt]
  exact mod_eq_of_lt number.isLt

theorem take_drop_middle {before middle after : Bytes} {start length : Nat}
    (first : before.length = start) (second : middle.length = length) :
    ((before ++ (middle ++ after)).drop start).take length = middle := by
  rw [← first, drop_left, ← second, take_left]

namespace V2Addresses

theorem length_encode_ip {endpoints : IpEndpoints} (valid : endpoints.Valid) :
    (V2Addresses.ip endpoints).encode.length =
      endpoints.source.ip.width / 8 + endpoints.source.ip.width / 8 + 4 := by
  rcases valid with ⟨first, second, same⟩
  simp only [encode, length_append, length_encodeIp first, length_encodeIp second, ← same,
    length_toBeBytes]

theorem decodeEndpoints_encode {endpoints : IpEndpoints} {readIp : Bytes → IpAddr}
    {length : Nat} (known : endpoints.source.ip.width / 8 = length) (valid : endpoints.Valid)
    (source : readIp (encodeIp endpoints.source.ip) = endpoints.source.ip)
    (destination : readIp (encodeIp endpoints.destination.ip) = endpoints.destination.ip)
    (tlvs : Bytes) :
    decodeEndpoints length readIp ((V2Addresses.ip endpoints).encode ++ tlvs) =
      some (.ip endpoints, (V2Addresses.ip endpoints).encode.length) := by
  have total := length_encode_ip valid
  rcases valid with ⟨wellFormed, wellFormed', same⟩
  have first := length_encodeIp wellFormed
  have second := length_encodeIp wellFormed'
  rw [← same] at second
  rw [known] at total first second
  have third := length_toBeBytes 2 endpoints.source.port
  have last := length_toBeBytes 2 endpoints.destination.port
  rw [decodeEndpoints, if_neg (by rw [length_append, total]; omega), total]
  have one : ((V2Addresses.ip endpoints).encode ++ tlvs).take length =
      encodeIp endpoints.source.ip := by
    simp only [encode, append_assoc, ← first, take_left]
  have two : (((V2Addresses.ip endpoints).encode ++ tlvs).drop length).take length =
      encodeIp endpoints.destination.ip := by
    simp only [encode, append_assoc]
    exact take_drop_middle first second
  have three : (((V2Addresses.ip endpoints).encode ++ tlvs).drop (length + length)).take 2 =
      toBeBytes 2 endpoints.source.port := by
    rw [encode, append_assoc, append_assoc]
    exact take_drop_middle (by rw [length_append, first, second]) third
  have four : (((V2Addresses.ip endpoints).encode ++ tlvs).drop (length + length + 2)).take 2 =
      toBeBytes 2 endpoints.destination.port := by
    rw [encode, append_assoc]
    exact take_drop_middle (by simp only [length_append, first, second, third]) last
  rw [one, two, three, four, source, destination, port_toBeBytes, port_toBeBytes]

theorem decode_encode {addresses : V2Addresses} (valid : addresses.Valid) (tlvs : Bytes) :
    V2Addresses.decode addresses.family (addresses.encode ++ tlvs) =
      some (addresses, addresses.encode.length) := by
  cases addresses with
  | unspecified => rfl
  | unix source destination =>
    rcases valid with ⟨first, second⟩
    have length : (source ++ destination).length = 216 := by
      rw [length_append, first, second]
    rw [family, decode, encode, if_neg (by rw [length_append]; omega), length,
      append_assoc, take_drop_middle first second, ← first, take_left]
  | ip endpoints =>
    have found := fun readIp length known source destination =>
      @decodeEndpoints_encode endpoints readIp length known valid source destination tlvs
    rcases endpoints with ⟨⟨source, sourcePort⟩, ⟨destination, destinationPort⟩⟩
    rcases valid with ⟨first, second, same⟩
    cases source with
    | v4 sourceOctets =>
      cases destination with
      | v6 destinationGroups => exact absurd same (by simp [width])
      | v4 destinationOctets =>
        exact found readV4 4 (by simp [width]) (congrArg v4 (toNat_ofNat_octets first.2))
          (congrArg v4 (toNat_ofNat_octets second.2))
    | v6 sourceGroups =>
      cases destination with
      | v4 destinationOctets => exact absurd same (by simp [width])
      | v6 destinationGroups =>
        exact found readV6 16 (by simp [width]) (congrArg v6 (fromBePairs_toBeBytes first.2))
          (congrArg v6 (fromBePairs_toBeBytes second.2))

theorem family_lt (addresses : V2Addresses) : addresses.family < 4 := by
  cases addresses with
  | unspecified => decide
  | unix source destination => exact lt_succ_self 3
  | ip endpoints =>
    rw [family]
    split <;> decide

end V2Addresses

namespace V2Header

/-- The bytes of a header, one after the other where their number is fixed. -/
theorem encode_append (header : V2Header) (rest : Bytes) :
    header.encode ++ rest = v2Prefix ++ (header.versionCommand ::
      ofNat (header.addresses.family * 16 + header.protocolNumber) ::
      (toBeBytes 2 header.payload.length ++ (header.payload ++ rest))) := by
  rw [encode]
  simp

theorem length_encode (header : V2Header) : header.encode.length = 16 + header.payload.length := by
  simp only [encode, length_append, length_toBeBytes]
  rfl

theorem protocolNumber_lt (header : V2Header) : header.protocolNumber < 3 := by
  rw [protocolNumber]
  cases header.protocol <;> decide

theorem decode_encode {header : V2Header} (valid : header.Valid) (rest : Bytes) :
    decode (header.encode ++ rest) = some header := by
  rcases valid with ⟨addresses, small⟩
  have family := header.addresses.family_lt
  have protocol := header.protocolNumber_lt
  have byte : (ofNat (header.addresses.family * 16 + header.protocolNumber)).toNat =
      header.addresses.family * 16 + header.protocolNumber :=
    Nat.mod_eq_of_lt (by omega)
  have number := @fromBeBytes_toBeBytes 2 header.payload.length small
  have tlvs : (header.tlvs.flatMap encodeTlv).length < 65536 := by
    rw [payload, length_append] at small
    omega
  have length : ((header.encode ++ rest).drop 14).take 2 = toBeBytes 2 header.payload.length := by
    rw [encode_append]
    exact @take_drop_middle [_, _, _, _, _, _, _, _, _, _, _, _, _, _] _ _ _ _ rfl
      (length_toBeBytes _ _)
  have content : ((header.encode ++ rest).drop 16).take header.payload.length = header.payload := by
    exact take_left
  have first : (header.encode ++ rest)[12]? = some header.versionCommand := by
    rfl
  have second : (header.encode ++ rest)[13]? =
      some (ofNat (header.addresses.family * 16 + header.protocolNumber)) := by
    rfl
  have found := V2Addresses.decode_encode addresses (header.tlvs.flatMap encodeTlv)
  rw [← payload] at found
  have values : decodeTlvs (header.payload.drop header.addresses.encode.length) = header.tlvs := by
    rw [payload, drop_left, decodeTlvs_encode tlvs]
  rw [decode, first, second]
  simp only [bind, Option.bind_some, length, number, content, byte,
    show (header.addresses.family * 16 + header.protocolNumber) / 16 = header.addresses.family by
      omega,
    show (header.addresses.family * 16 + header.protocolNumber) % 16 = header.protocolNumber by
      omega, found, values]
  rcases header with ⟨command, kind, addresses, tlvs⟩
  cases command <;> cases kind <;> rfl

end V2Header

/-! ## Lines -/

theorem ofNat_toNat_ascii {character : Char} (ascii : character.toNat < 128) :
    Char.ofNat (ofNat character.toNat).toNat = character := by
  rw [toNat_ofNat', mod_eq_of_lt (by omega), Char.ofNat_toNat]

def IsField (character : Char) : Prop :=
  character.toNat < 128 ∧ character ≠ ' ' ∧ character ≠ '\r'

theorem isField_digitChar (small : digit < 16) : IsField (digitChar digit) := by
  have all : ∀ digit < 16, (digitChar digit).toNat < 128 ∧ digitChar digit ≠ ' ' ∧
      digitChar digit ≠ '\r' := by decide
  exact all digit small

theorem isField_display {ip : IpAddr} : ∀ character ∈ ip.display, IsField character := by
  intro character member
  rcases ip.isPlain_display character member with rfl | rfl | ⟨digit, small, rfl⟩
  · exact ⟨by decide, by decide, by decide⟩
  · exact ⟨by decide, by decide, by decide⟩
  · exact isField_digitChar small

theorem isField_toDigits : ∀ character ∈ toDigits 10 number, IsField character := by
  intro character member
  rcases exists_of_mem_toDigits (by decide) member with ⟨digit, small, rfl⟩
  exact isField_digitChar (by omega)

variable (endpoints : IpEndpoints)

theorem isField_v1Fields :
    ∀ field ∈ v1Fields endpoints, ∀ character ∈ field, IsField character := by
  have known : (("PROXY".toList ++ "TCP4".toList ++ "TCP6".toList).all fun character =>
      character.toNat < 128 ∧ character ≠ ' ' ∧ character ≠ '\r') := by decide
  have fixed := fun character member =>
    of_decide_eq_true (all_eq_true.mp known character member)
  intro field member character inside
  simp only [v1Fields, mem_cons, not_mem_nil, or_false] at member
  rcases member with rfl | rfl | rfl | rfl | rfl | rfl
  · exact fixed character (mem_append_left _ (mem_append_left _ inside))
  · cases ip : endpoints.source.ip with
    | v4 octets =>
      rw [ip] at inside
      exact fixed character (mem_append_left _ (mem_append_right _ inside))
    | v6 groups =>
      rw [ip] at inside
      exact fixed character (mem_append_right _ inside)
  · exact isField_display character inside
  · exact isField_display character inside
  · exact isField_toDigits character inside
  · exact isField_toDigits character inside

theorem mem_intercalate (member : character ∈ [separator].intercalate fields) :
    character = separator ∨ ∃ field ∈ fields, character ∈ field := by
  induction fields with
  | nil => exact absurd member nofun
  | cons field fields induction =>
    cases fields with
    | nil =>
      rw [intercalate_singleton] at member
      exact .inr ⟨field, mem_singleton_self _, member⟩
    | cons next fields =>
      rcases mem_append.mp member with first | later
      · exact .inr ⟨field, mem_cons_self, first⟩
      · rcases mem_cons.mp later with same | rest
        · exact .inl same
        · rcases induction rest with same | ⟨other, known, inside⟩
          · exact .inl same
          · exact .inr ⟨other, mem_cons_of_mem _ known, inside⟩

/-- The characters of a line take one byte each, and no line ends before its terminator. -/
theorem v1Line_ascii :
    ∀ character ∈ v1Line endpoints, character.toNat < 128 ∧ character ≠ '\r' := by
  intro character member
  rcases mem_intercalate member with rfl | ⟨field, known, inside⟩
  · exact ⟨by decide, by decide⟩
  · have plain := isField_v1Fields endpoints field known character inside
    exact ⟨plain.1, plain.2.2⟩

theorem takeWhile_line (ascii : ∀ character ∈ line, character.toNat < 128 ∧ character ≠ '\r') :
    (asciiBytes line ++ (13 :: rest)).takeWhile (fun byte => byte ≠ 13) = asciiBytes line := by
  rw [takeWhile_append_of_pos, takeWhile_cons_of_neg (by decide), append_nil]
  intro byte member
  rcases mem_map.mp member with ⟨character, inside, rfl⟩
  rcases ascii character inside with ⟨small, other⟩
  rw [decide_eq_true_eq]
  intro same
  apply other
  rw [← ofNat_toNat_ascii small, same]
  rfl

theorem ofNat_asciiBytes (ascii : ∀ character ∈ line, character.toNat < 128) :
    (asciiBytes line).map (fun byte => Char.ofNat byte.toNat) = line := by
  rw [asciiBytes, map_map]
  refine (map_congr_left ?_).trans (map_id line)
  intro character member
  exact ofNat_toNat_ascii (ascii character member)

theorem readPort_toDigits (port : Fin 65536) : readPort (toDigits 10 port) = some port := by
  have number := @readNumber_toDigits 10 5 port false [] (.inl rfl) (by decide)
    (lt_trans port.isLt (by decide)) nofun
  rw [append_nil] at number
  rw [readPort, number]
  exact dif_pos ⟨port.isLt, rfl⟩

theorem v1Keyword_of_width {first second : IpAddr} (same : first.width = second.width) :
    v1Keyword first = v1Keyword second := by
  cases first <;> cases second <;> first | rfl | exact absurd same (by simp [width])

theorem decodeV1_encode {endpoints : IpEndpoints} (valid : endpoints.Valid) (rest : Bytes) :
    decodeV1 (encodeV1 endpoints ++ rest) = some (.tcp endpoints) := by
  rcases valid with ⟨source, destination, same⟩
  have ascii := v1Line_ascii endpoints
  have line : (encodeV1 endpoints ++ rest).takeWhile (fun byte => byte ≠ 13) =
      asciiBytes (v1Line endpoints) := by
    rw [encodeV1, append_assoc]
    exact takeWhile_line ascii
  have fields : (v1Line endpoints).splitOn ' ' = v1Fields endpoints := by
    apply splitOn_intercalate
    · intro field member inside
      exact (isField_v1Fields endpoints field member ' ' inside).2.1 rfl
    · exact nofun
  rw [decodeV1]
  simp only [line, ofNat_asciiBytes (fun character member => (ascii character member).1), fields,
    v1Fields]
  rw [decodeFields, fromStr_display source, fromStr_display destination]
  simp [readPort_toDigits, v1Keyword_of_width same]

theorem v1Line_eq :
    v1Line endpoints = "PROXY".toList ++ (' ' :: (v1Keyword endpoints.source.ip ++
      ' ' :: (endpoints.source.ip.display ++ ' ' :: (endpoints.destination.ip.display ++
        ' ' :: (toDigits 10 endpoints.source.port ++
          ' ' :: toDigits 10 endpoints.destination.port))))) := by
  simp only [v1Line, v1Fields, intercalate_cons_cons, intercalate_singleton, append_assoc]
  rfl

theorem length_encodeV1 {endpoints : IpEndpoints} (valid : endpoints.Valid) :
    (encodeV1 endpoints).length ≤ 107 := by
  have port : ∀ port : Fin 65536, (toDigits 10 port).length ≤ 5 := fun port =>
    (length_toDigits_le_iff (by decide) (by decide)).mpr (lt_trans port.isLt (by decide))
  have first := length_display valid.1
  have second := length_display valid.2.1
  have third := port endpoints.source.port
  have last := port endpoints.destination.port
  have keyword : (v1Keyword endpoints.source.ip).length = 4 := by
    cases endpoints.source.ip <;> rfl
  rw [encodeV1, length_append, asciiBytes, length_map, v1Line_eq]
  simp only [length_append, length_cons, keyword, show "PROXY".toList.length = 5 from rfl,
    show v1Terminator.length = 2 from rfl]
  omega

theorem take_encodeV1 (rest : Bytes) : (encodeV1 endpoints ++ rest).take 5 = v1Prefix := by
  rfl

theorem wireFormat_implements : @ImplementsWireFormat Ppp.wireFormat := by
  let _ := Ppp.wireFormat
  refine ⟨?_, ?_⟩
  · intro endpoints valid rest
    have other : (encodeV1 endpoints ++ rest).take 12 ≠ v2Prefix := by
      intro same
      have start := congrArg (take 5) same
      rw [take_take, show min 5 12 = 5 from rfl, take_encodeV1] at start
      exact absurd start (by decide)
    change (if _ then _ else _) = _
    rw [if_neg other, decodeV1_encode valid]
  · intro header valid rest
    change (if _ then _ else _) = _
    rw [if_pos, V2Header.decode_encode valid]
    rfl

end Orion.Transport
