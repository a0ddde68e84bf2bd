import Orion.Transport.TlvListenerFilter

/-! # Lists that the TLV listener filter reads

The filter reads the addresses one after the other and stops at the type of the last entry. What
it makes of a stream is said by what is found after the addresses.
-/

namespace Orion.Transport

open Foundation Http Listeners ReadStream
open List hiding after head length

/-! ## The entries of a list -/

structure ServiceAddress where
  content : Bytes
  valid : content.length = tlvTypeServiceAddressIpv4Len ∨
    content.length = tlvTypeServiceAddressIpv6Len

namespace ServiceAddress

def head (address : ServiceAddress) : Bytes :=
  [tlvTypeServiceAddress, 0, 0, 0, UInt8.ofNat address.content.length]

def encode (address : ServiceAddress) : Bytes := address.head ++ address.content

def encodeAll (addresses : List ServiceAddress) : Bytes := addresses.flatMap encode

/-- The address that the content stands for. -/
def socketAddr (address : ServiceAddress) : SocketAddr :=
  if address.content.length = tlvTypeServiceAddressIpv4Len then
    ⟨.v4 ((address.content.take 4).map UInt8.toNat),
      TlvListenerFilter.port (fromBeBytes ((address.content.drop 4).take 2))⟩
  else
    ⟨.v6 (fromBePairs (address.content.take 16)),
      TlvListenerFilter.port (fromBeBytes ((address.content.drop 16).take 2))⟩

theorem length_encode (address : ServiceAddress) :
    address.encode.length = 5 + address.content.length := by
  rw [encode, length_append]
  rfl

theorem fromBeBytes_length (address : ServiceAddress) :
    fromBeBytes [0, 0, 0, UInt8.ofNat address.content.length] = address.content.length := by
  rcases address.valid with short | long
  · rw [short]
    rfl
  · rw [long]
    rfl

theorem encodeAll_cons (address : ServiceAddress) (addresses : List ServiceAddress) :
    encodeAll (address :: addresses) = address.encode ++ encodeAll addresses := rfl

theorem encodeAll_append_singleton (addresses : List ServiceAddress) (address : ServiceAddress) :
    encodeAll (addresses ++ [address]) = encodeAll addresses ++ address.encode := by
  simp [encodeAll]

theorem length_le_encodeAll (addresses : List ServiceAddress) :
    addresses.length ≤ (encodeAll addresses).length := by
  induction addresses with
  | nil => exact le_refl _
  | cons address addresses induction =>
    rw [encodeAll_cons, length_append, length_encode, length_cons]
    omega

end ServiceAddress

open ServiceAddress Nat

def endingTlv : Bytes := [tlvTypeEnding, 0, 0, 0, 0]

/-- What the next bytes are, after a number of bytes that the filter has taken. -/
inductive NextTlv where
  | service
  | ending
  | short
  | malformed
  deriving DecidableEq

/-- What an address of the given length is, of which some bytes are available. -/
def serviceTlv (maxTlvLength taken contentLength available : Nat) : NextTlv :=
  if TlvListenerFilter.validateServiceAddressLength contentLength = false then .malformed
  else if maxTlvLength < taken + 5 + contentLength then .malformed
  else if available < contentLength then .short
  else .service

/-- The first entry is only looked at once its length is known. The length of the last entry
is only looked at when there is no address before it. -/
def nextTlv (maxTlvLength taken : Nat) : Bytes → NextTlv
  | tlvType :: a :: b :: c :: d :: later =>
    if tlvType = tlvTypeServiceAddress then
      serviceTlv maxTlvLength taken (fromBeBytes [a, b, c, d]) later.length
    else if tlvType = tlvTypeEnding then
      if taken = 0 ∧ fromBeBytes [a, b, c, d] ≠ 0 then .malformed else .ending
    else
      .malformed
  | tlvType :: _ =>
    if taken = 0 ∨ tlvType = tlvTypeServiceAddress then .short
    else if tlvType = tlvTypeEnding then .ending
    else .malformed
  | [] => .short

theorem nextTlv_of_short (short : later.length < 4) :
    nextTlv maxTlvLength taken (tlvType :: later) =
      if taken = 0 ∨ tlvType = tlvTypeServiceAddress then .short
      else if tlvType = tlvTypeEnding then .ending
      else .malformed := by
  match later with
  | [] | [_] | [_, _] | [_, _, _] => rfl

theorem short_or_four (bytes : Bytes) :
    bytes.length < 4 ∨ ∃ a b c d later, bytes = a :: b :: c :: d :: later := by
  match bytes with
  | [] | [_] | [_, _] | [_, _, _] => exact .inl (by simp)
  | a :: b :: c :: d :: later => exact .inr ⟨a, b, c, d, later, rfl⟩

theorem bytes_eq_of_fromBeBytes (small : length < 256) (same : fromBeBytes [a, b, c, d] = length) :
    [a, b, c, d] = [0, 0, 0, UInt8.ofNat length] := by
  rw [fromBeBytes_four] at same
  have first : a = 0 := UInt8.toNat_inj.mp (show a.toNat = 0 by omega)
  have second : b = 0 := UInt8.toNat_inj.mp (show b.toNat = 0 by omega)
  have third : c = 0 := UInt8.toNat_inj.mp (show c.toNat = 0 by omega)
  have last : d = UInt8.ofNat length := by
    apply UInt8.toNat_inj.mp
    rw [UInt8.toNat_ofNat', mod_eq_of_lt small]
    omega
  rw [first, second, third, last]

theorem validateServiceAddressLength_iff :
    TlvListenerFilter.validateServiceAddressLength length ↔
      length = tlvTypeServiceAddressIpv4Len ∨ length = tlvTypeServiceAddressIpv6Len := by
  simp [TlvListenerFilter.validateServiceAddressLength]

theorem serviceTlv_eq_service
    (found : serviceTlv maxTlvLength taken contentLength available = .service) :
    TlvListenerFilter.validateServiceAddressLength contentLength ∧
      taken + 5 + contentLength ≤ maxTlvLength ∧ contentLength ≤ available := by
  unfold serviceTlv at found
  split at found
  · exact absurd found nofun
  split at found
  · exact absurd found nofun
  split at found
  · exact absurd found nofun
  rename_i valid fits enough
  exact ⟨Bool.of_not_eq_false valid, by omega, by omega⟩

/-- The next bytes are an address when they have the form of one that fits. -/
theorem exists_service (found : nextTlv maxTlvLength taken rest = .service) :
    ∃ (address : ServiceAddress) (later : Bytes), rest = address.encode ++ later ∧
      taken + address.encode.length ≤ maxTlvLength := by
  cases rest with
  | nil => exact absurd found nofun
  | cons tlvType later =>
    rcases short_or_four later with short | ⟨a, b, c, d, content, rfl⟩
    · rw [nextTlv_of_short short] at found
      split at found
      · exact absurd found nofun
      · split at found <;> exact absurd found nofun
    · rw [nextTlv] at found
      split at found
      case isFalse =>
        split at found
        · split at found <;> exact absurd found nofun
        · exact absurd found nofun
      case isTrue service =>
        generalize known : fromBeBytes [a, b, c, d] = contentLength at found
        rcases serviceTlv_eq_service found with ⟨valid, fits, enough⟩
        have lengths := validateServiceAddressLength_iff.mp valid
        have small : contentLength < 256 := by
          rcases lengths with rfl | rfl <;> decide
        have bytes := bytes_eq_of_fromBeBytes small known
        rcases bytes with ⟨rfl, rfl, rfl, rfl⟩
        have length := length_take_of_le enough
        rw [← length] at lengths
        refine ⟨⟨content.take contentLength, lengths⟩, content.drop contentLength, ?_, ?_⟩
        · rw [encode, head, length, service, append_assoc, take_append_drop]
          rfl
        · rw [length_encode, length]
          omega

/-- What the filter takes of the last entry: after an address, only its type. -/
def takenEnding (index : Nat) : Bytes := if index = 0 then endingTlv else [tlvTypeEnding]

theorem nextTlv_of_behind (behind : taken ≠ 0) (other : tlvType ≠ tlvTypeServiceAddress) :
    nextTlv maxTlvLength taken (tlvType :: later) =
      if tlvType = tlvTypeEnding then .ending else .malformed := by
  rcases short_or_four later with short | ⟨a, b, c, d, rest, rfl⟩
  · rw [nextTlv_of_short short, if_neg (by simp [other, behind])]
  · rw [nextTlv, if_neg other]
    simp [behind]

theorem serviceTlv_ne_ending (maxTlvLength taken contentLength available : Nat) :
    serviceTlv maxTlvLength taken contentLength available ≠ .ending := by
  rw [serviceTlv]
  split_ifs <;> nofun

theorem exists_ending (found : nextTlv maxTlvLength taken rest = .ending) :
    ∃ later, rest = takenEnding taken ++ later := by
  cases rest with
  | nil => exact absurd found nofun
  | cons tlvType later =>
    by_cases service : tlvType = tlvTypeServiceAddress
    · subst service
      rcases short_or_four later with short | ⟨a, b, c, d, content, rfl⟩
      · rw [nextTlv_of_short short, if_pos (.inr rfl)] at found
        cases found
      · exact absurd found (serviceTlv_ne_ending _ _ _ _)
    · by_cases first : taken = 0
      · rcases short_or_four later with short | ⟨a, b, c, d, content, rfl⟩
        · rw [nextTlv_of_short short, if_pos (.inl first)] at found
          cases found
        · rw [nextTlv, if_neg service] at found
          split_ifs at found with ending more
          have zeros := bytes_eq_of_fromBeBytes (by decide) (not_not.mp (not_and.mp more first))
          refine ⟨content, ?_⟩
          rw [takenEnding, if_pos first, ending]
          exact congrArg (tlvTypeEnding :: · ++ content) zeros
      · rw [nextTlv_of_behind first service] at found
        split_ifs at found with ending
        exact ⟨later, by rw [takenEnding, if_neg first, ending]; rfl⟩

/-! ## One pass through the loop -/

namespace TlvListenerFilter

variable {filter following : TlvListenerFilter} {origin : AsyncStream} {passes : Nat}

def shortOutcome (stream : AsyncStream) : ReadOrParseState :=
  match stream.failure? with
  | none | some .wouldBlock => .skipFilter
  | some _ => .error

/-- What was read is the beginning of the stream, and no more than was expected. -/
structure Follows (origin : AsyncStream) (filter : TlvListenerFilter) : Prop where
  buffered : filter.buffer <+: origin.ready
  within : filter.buffer.length ≤ filter.expectedLength

def filledFrom (filter : TlvListenerFilter) (bytes : Bytes) : TlvListenerFilter :=
  { filter with buffer := bytes.take filter.expectedLength }

theorem readRequiredData_eq (follows : Follows origin filter) :
    filter.readRequiredData (origin.advance filter.buffer.length) =
      if filter.expectedLength ≤ origin.ready.length then
        (.done, filter.filledFrom origin.ready, origin.advance filter.expectedLength)
      else
        (shortOutcome origin, { filter with buffer := origin.ready }, origin.afterFailure) := by
  rcases follows with ⟨⟨rest, same⟩, within⟩
  have total : origin.ready.length = filter.buffer.length + rest.length := by
    rw [← same, length_append]
  have enough : filter.buffer.length ≤ origin.ready.length := by omega
  rcases advance_spec enough with ⟨remaining, failure, after⟩
  rw [← same, drop_left] at remaining
  rw [readRequiredData]
  by_cases all : filter.expectedLength ≤ origin.ready.length
  · rw [if_pos all, gather_of_le (by decide) (by rw [remaining]; omega), remaining,
      advance_advance enough, Nat.add_sub_cancel' within, filledFrom, ← same, take_append,
      take_of_length_le within]
  · rw [if_neg all, gather_of_lt (by decide) (by rw [remaining]; omega), remaining, after,
      shortage, failure, shortOutcome, ← same]
    cases origin.failure? with
    | none => rfl
    | some error => cases error <;> rfl

def afterRead (passes : Nat) (filter : TlvListenerFilter) (stream : AsyncStream) :
    Option (ReadOrParseState × TlvListenerFilter × AsyncStream) :=
  match filter.parse with
  | none => none
  | some (.again filter) => filter.readAndParseWithin passes stream
  | some (.returned state filter) => some (state, filter, stream)

/-- A pass of the loop, of which only the bytes matter that the filter expects. -/
def resume (origin : AsyncStream) (passes : Nat) (filter : TlvListenerFilter) :
    Option (ReadOrParseState × TlvListenerFilter × AsyncStream) :=
  if filter.expectedLength ≤ origin.ready.length then
    afterRead passes (filter.filledFrom origin.ready) (origin.advance filter.expectedLength)
  else
    some (shortOutcome origin, { filter with buffer := origin.ready }, origin.afterFailure)

theorem readAndParseWithin_eq (follows : Follows origin filter) :
    filter.readAndParseWithin (passes + 1) (origin.advance filter.buffer.length) =
      resume origin passes filter := by
  rw [readAndParseWithin, readRequiredData_eq follows, resume]
  by_cases all : filter.expectedLength ≤ origin.ready.length
  · rw [if_pos all, if_pos all]
    rfl
  · rw [if_neg all, if_neg all, shortOutcome]
    cases origin.failure? with
    | none => rfl
    | some error => cases error <;> rfl

theorem resume_again (enough : filter.expectedLength ≤ origin.ready.length)
    (parsed : (filter.filledFrom origin.ready).parse = some (.again following))
    (kept : following.buffer = origin.ready.take filter.expectedLength)
    (grows : filter.expectedLength ≤ following.expectedLength) :
    resume origin (passes + 1) filter = resume origin passes following := by
  have length : following.buffer.length = filter.expectedLength := by
    rw [kept, length_take_of_le enough]
  have follows : Follows origin following :=
    ⟨kept ▸ take_prefix _ _, by rw [length]; exact grows⟩
  rw [resume, if_pos enough, afterRead, parsed, ← readAndParseWithin_eq follows, length]

theorem resume_returned (enough : filter.expectedLength ≤ origin.ready.length)
    (parsed : (filter.filledFrom origin.ready).parse = some (.returned result following)) :
    resume origin passes filter = some
    (result, following, origin.advance filter.expectedLength) := by
  rw [resume, if_pos enough, afterRead, parsed]

/-! ## From one entry to the next -/

/-- The filter when it expects some bytes of the entry at `index`. -/
def atEntry (maxTlvLength contentLength index expectedLength : Nat) : TlvListenerFilter where
  state := .typeAndLength
  expectedLength := expectedLength
  index := index
  contentLength := contentLength
  maxTlvLength := maxTlvLength
  buffer := []

/-- Of the first entry, the length is expected with the type. -/
def starting (maxTlvLength contentLength index : Nat) : TlvListenerFilter :=
  atEntry maxTlvLength contentLength index (index + if index = 0 then 5 else 1)

def inContent (maxTlvLength contentLength index : Nat) : TlvListenerFilter where
  state := .content
  expectedLength := index + 5 + contentLength
  index := index + 5
  contentLength := contentLength
  maxTlvLength := maxTlvLength
  buffer := []

variable {maxTlvLength known index expected : Nat} {tlvType a b c d : UInt8} {later : Bytes}

theorem lt_of_drop (found : origin.ready.drop index = tlvType :: later) :
    index + later.length + 1 = origin.ready.length := by
  have length := congrArg List.length found
  rw [length_drop, length_cons] at length
  omega

theorem parse_atEntry (found : origin.ready.drop index = tlvType :: later)
    (beyond : index < expected) :
    let filter := (atEntry maxTlvLength known index expected).filledFrom origin.ready
    filter.parse =
      some (if tlvType = tlvTypeServiceAddress then .of filter.processServiceAddressTlv
        else if tlvType = tlvTypeEnding then
          .returned filter.processEndingTlv.1 filter.processEndingTlv.2
        else .returned .error filter) := by
  have first : (origin.ready.take expected)[index]? = some tlvType := by
    rw [getElem?_take_of_lt beyond, ← head?_drop, found]
    rfl
  intro filter
  change Option.map _ (origin.ready.take expected)[index]? = _
  rw [first]
  rfl

theorem slice_eq {offset count : Nat}
    (buffered : filter.buffer = before ++ (middle ++ after)) (starts : before.length = offset)
    (within : count ≤ middle.length) : filter.slice offset count = some (middle.take count) := by
  rw [slice, buffered, if_neg, ← starts, drop_left, take_append_of_le_length within]
  rw [length_append, length_append]
  omega

theorem readU32Be_eq (buffered : filter.buffer = taken ++ tlvType :: a :: b :: c :: d :: after) :
    filter.readU32Be (taken.length + 1) = some (fromBeBytes [a, b, c, d]) := by
  have regrouped : filter.buffer = (taken ++ [tlvType]) ++ ([a, b, c, d] ++ after) := by
    rw [buffered]
    simp
  have found : filter.slice (taken.length + 1) 4 = some [a, b, c, d] :=
    slice_eq regrouped length_append (le_refl _)
  rw [readU32Be, found]
  rfl

theorem readU32Be_atEntry (found : origin.ready.drop index = tlvType :: a :: b :: c :: d :: later) :
    let filter := (atEntry maxTlvLength known index (index + 5)).filledFrom origin.ready
    filter.readU32Be (filter.index + 1) = some (fromBeBytes [a, b, c, d]) := by
  have length : (origin.ready.take index).length = index :=
    length_take_of_le (by have := lt_of_drop found; omega)
  have buffered : ((atEntry maxTlvLength known index (index + 5)).filledFrom origin.ready).buffer =
      origin.ready.take index ++ tlvType :: a :: b :: c :: d :: [] := by
    change origin.ready.take (index + 5) = _
    rw [take_add, found]
    rfl
  have read := readU32Be_eq buffered
  rwa [length] at read

theorem resume_type (found : origin.ready.drop index = tlvTypeServiceAddress :: later) :
    resume origin (passes + 1) (atEntry maxTlvLength known index (index + 1)) =
      resume origin passes (atEntry maxTlvLength known index (index + 5)) := by
  have enough := lt_of_drop found
  refine @resume_again _ { atEntry maxTlvLength known index (index + 5) with
    buffer := origin.ready.take (index + 1) } _ _ ?_ ?_ rfl ?_
  · change index + 1 ≤ _
    omega
  · rw [parse_atEntry found (lt_succ_self _), if_pos rfl, processServiceAddressTlv, if_pos]
    · rfl
    · change index + 1 < index + 1 + 4
      omega
  · change index + 1 ≤ index + 5
    omega

theorem resume_starting (found : origin.ready.drop index = tlvTypeServiceAddress :: later) :
    ∃ remaining, passes ≤ remaining ∧
      resume origin (passes + 1) (starting maxTlvLength known index) =
        resume origin remaining (atEntry maxTlvLength known index (index + 5)) := by
  rw [starting]
  split
  · exact ⟨passes + 1, le_succ _, rfl⟩
  · exact ⟨passes, le_refl _, resume_type found⟩

theorem complete_atEntry (bytes : Bytes) :
    let filter := (atEntry maxTlvLength known index (index + 5)).filledFrom bytes
    ¬ filter.expectedLength < filter.index + tlvTypeLen + tlvLengthLen :=
  lt_irrefl _

theorem processServiceAddressTlv_atEntry
    (found : origin.ready.drop index = tlvType :: a :: b :: c :: d :: later) :
    let filter := (atEntry maxTlvLength known index (index + 5)).filledFrom origin.ready
    filter.processServiceAddressTlv =
      if validateServiceAddressLength (fromBeBytes [a, b, c, d]) = false then (.error, filter)
      else if maxTlvLength < index + 5 + fromBeBytes [a, b, c, d] then
        (.error, { filter with expectedLength := index + 5 + fromBeBytes [a, b, c, d] })
      else
        (.done, { inContent maxTlvLength (fromBeBytes [a, b, c, d]) index with
          buffer := filter.buffer }) := by
  intro filter
  rw [processServiceAddressTlv, if_neg (complete_atEntry _), readU32Be_atEntry found]
  rfl

theorem processEndingTlv_atEntry
    (found : origin.ready.drop index = tlvType :: a :: b :: c :: d :: later) :
    let filter := (atEntry maxTlvLength known index (index + 5)).filledFrom origin.ready
    filter.processEndingTlv = (if fromBeBytes [a, b, c, d] ≠ 0 then .error else .done, filter) := by
  intro filter
  rw [processEndingTlv, if_neg (complete_atEntry _), readU32Be_atEntry found]
  by_cases zero : fromBeBytes [a, b, c, d] = 0
  · simp [zero]
  · simp [zero]

theorem resume_short (short : origin.ready.length < filter.expectedLength) :
    resume origin passes filter =
      some (shortOutcome origin, { filter with buffer := origin.ready }, origin.afterFailure) :=
  if_neg (Nat.not_le_of_lt short)

section

variable (found : origin.ready.drop index = tlvTypeServiceAddress :: a :: b :: c :: d :: later)

include found

theorem enough_of_found : index + 5 ≤ origin.ready.length := by
  have length := lt_of_drop found
  simp only [length_cons] at length
  omega

theorem resume_refused (refused : validateServiceAddressLength (fromBeBytes [a, b, c, d]) = false ∨
      maxTlvLength < index + 5 + fromBeBytes [a, b, c, d]) :
    ∃ filter, resume origin passes (atEntry maxTlvLength known index (index + 5)) =
      some (.error, filter, origin.advance (index + 5)) := by
  have parsed := @parse_atEntry _ maxTlvLength known _ (index + 5) _ _ found (by omega)
  dsimp only at parsed
  rw [if_pos rfl, processServiceAddressTlv_atEntry found] at parsed
  by_cases valid : validateServiceAddressLength (fromBeBytes [a, b, c, d]) = false
  · rw [if_pos valid] at parsed
    exact ⟨_, resume_returned (enough_of_found found) parsed⟩
  · rw [if_neg valid, if_pos (refused.resolve_left valid)] at parsed
    exact ⟨_, resume_returned (enough_of_found found) parsed⟩

theorem resume_length (valid : validateServiceAddressLength (fromBeBytes [a, b, c, d]) ≠ false)
    (fits : index + 5 + fromBeBytes [a, b, c, d] ≤ maxTlvLength) :
    resume origin (passes + 1) (atEntry maxTlvLength known index (index + 5)) =
      resume origin passes (inContent maxTlvLength (fromBeBytes [a, b, c, d]) index) := by
  have parsed := @parse_atEntry _ maxTlvLength known _ (index + 5) _ _ found (by omega)
  dsimp only at parsed
  rw [if_pos rfl, processServiceAddressTlv_atEntry found, if_neg valid,
    if_neg (Nat.not_lt_of_le fits)] at parsed
  exact @resume_again _ { inContent maxTlvLength (fromBeBytes [a, b, c, d]) index with
    buffer := origin.ready.take (index + 5) } _ _ (enough_of_found found) parsed rfl
    (le_add_right _ _)

end

theorem resume_content (enough : index + 5 + known ≤ origin.ready.length) :
    resume origin (passes + 1) (inContent maxTlvLength known index) =
      resume origin passes (starting maxTlvLength known (index + 5 + known)) := by
  rw [starting, if_neg (by omega)]
  exact @resume_again _ { atEntry maxTlvLength known _ (index + 5 + known + 1) with
    buffer := origin.ready.take (index + 5 + known) } _ _ enough rfl rfl (le_succ _)

/-- Past an address that fits, the filter is at the next entry. -/
theorem resume_address {address : ServiceAddress}
    (found : origin.ready.drop index = address.encode ++ later)
    (fits : index + address.encode.length ≤ maxTlvLength) :
    ∃ remaining, passes ≤ remaining ∧
      resume origin (passes + 3) (starting maxTlvLength known index) =
        resume origin remaining
          (starting maxTlvLength address.content.length (index + address.encode.length)) := by
  rw [length_encode, ← Nat.add_assoc] at fits ⊢
  have valid := validateServiceAddressLength_iff.mpr address.valid
  have length := address.fromBeBytes_length
  have enough : index + 5 + address.content.length ≤ origin.ready.length := by
    have total := congrArg List.length found
    rw [length_drop, length_append, length_encode] at total
    omega
  rcases @resume_starting _ (passes + 2) maxTlvLength known _ _ found with
    ⟨remaining, many, reached⟩
  rcases Nat.exists_eq_add_of_le' many with ⟨spare, rfl⟩
  refine ⟨spare + passes, le_add_left _ _, ?_⟩
  rw [reached, show spare + (passes + 2) = spare + passes + 1 + 1 by omega,
    resume_length found (by rw [length, valid]; decide) (by rwa [length]), length,
    resume_content enough]

theorem resume_addresses {addresses : List ServiceAddress}
    (found : origin.ready.drop index = encodeAll addresses ++ later)
    (fits : index + (encodeAll addresses).length ≤ maxTlvLength) :
    ∃ remaining known', passes ≤ remaining ∧
      resume origin (passes + 3 * addresses.length) (starting maxTlvLength known index) =
        resume origin remaining
          (starting maxTlvLength known' (index + (encodeAll addresses).length)) := by
  induction addresses generalizing passes index known with
  | nil => exact ⟨passes, known, le_refl _, rfl⟩
  | cons address addresses induction =>
    rw [encodeAll_cons, append_assoc] at found
    rw [encodeAll_cons, length_append, ← Nat.add_assoc] at fits ⊢
    rcases @resume_address _ (passes + 3 * addresses.length) maxTlvLength known _ _ _ found
      (by omega) with ⟨remaining, enough, first⟩
    rcases Nat.exists_eq_add_of_le' enough with ⟨spare, rfl⟩
    have next : origin.ready.drop (index + address.encode.length) =
        encodeAll addresses ++ later := by
      rw [← drop_drop, found, drop_left]
    rcases @induction (spare + passes) address.content.length _ next fits with
      ⟨remaining, last, within, reached⟩
    refine ⟨remaining, last, by omega, ?_⟩
    rw [length_cons, Nat.mul_add, ← Nat.add_assoc, first, ← Nat.add_assoc, reached]

/-! ## The last entry -/

/-- What the filter has read when it stops: after an address, only the type of an entry. -/
def endOf (index : Nat) : Nat := index + if index = 0 then 5 else 1

def Returns (maxTlvLength : Nat) (origin : AsyncStream) (index : Nat)
    (result : Option (ReadOrParseState × TlvListenerFilter × AsyncStream)) : Prop :=
  match nextTlv maxTlvLength index (origin.ready.drop index) with
  | .service => True
  | .ending => ∃ filter, filter.buffer = origin.ready.take (endOf index) ∧
      result = some (.done, filter, origin.advance (endOf index))
  | .short => ∃ filter, result = some (shortOutcome origin, filter, origin.afterFailure)
  | .malformed => ∃ filter stream, result = some (.error, filter, stream)

theorem returns_of_service (found : origin.ready.drop index = tlvTypeServiceAddress :: later) :
    Returns maxTlvLength origin index
      (resume origin (passes + 2) (starting maxTlvLength known index)) := by
  have total := lt_of_drop found
  rcases @resume_starting _ (passes + 1) maxTlvLength known _ _ found with
    ⟨remaining, many, reached⟩
  rcases Nat.exists_eq_add_of_le' many with ⟨spare, rfl⟩
  rw [Returns, found, reached]
  rcases short_or_four later with short | ⟨a, b, c, d, content, rfl⟩
  · rw [nextTlv_of_short short, if_pos (.inr rfl)]
    apply Exists.intro
    apply resume_short
    change _ < index + 5
    omega
  · change match serviceTlv maxTlvLength index (fromBeBytes [a, b, c, d]) content.length with
      | .service => True | .ending => _ | .short => _ | .malformed => _
    rw [serviceTlv]
    by_cases valid : validateServiceAddressLength (fromBeBytes [a, b, c, d]) = false
    · rw [if_pos valid]
      rcases resume_refused found (.inl valid) with ⟨filter, refused⟩
      exact ⟨filter, _, refused⟩
    rw [if_neg valid]
    by_cases exceeds : maxTlvLength < index + 5 + fromBeBytes [a, b, c, d]
    · rw [if_pos exceeds]
      rcases resume_refused found (.inr exceeds) with ⟨filter, refused⟩
      exact ⟨filter, _, refused⟩
    rw [if_neg exceeds]
    by_cases short : content.length < fromBeBytes [a, b, c, d]
    · rw [if_pos short, ← Nat.add_assoc, resume_length found valid (Nat.le_of_not_lt exceeds)]
      apply Exists.intro
      apply resume_short
      change _ < index + 5 + fromBeBytes [a, b, c, d]
      simp only [length_cons] at total
      omega
    · rw [if_neg short]
      trivial

theorem returns_of_other (other : tlvType ≠ tlvTypeServiceAddress)
    (found : origin.ready.drop index = tlvType :: later) :
    Returns maxTlvLength origin index
      (resume origin passes (starting maxTlvLength known index)) := by
  have total := lt_of_drop found
  rw [Returns, found, starting, endOf]
  by_cases first : index = 0
  · rw [if_pos first]
    rcases short_or_four later with short | ⟨a, b, c, d, content, rfl⟩
    · rw [nextTlv_of_short short, if_pos (.inl first)]
      apply Exists.intro
      apply resume_short
      change _ < index + 5
      omega
    · have enough : index + 5 ≤ origin.ready.length := by
        simp only [length_cons] at total
        omega
      have parsed := @parse_atEntry _ maxTlvLength known _ (index + 5) _ _ found (by omega)
      dsimp only at parsed
      rw [if_neg other, processEndingTlv_atEntry found] at parsed
      rw [nextTlv, if_neg other]
      by_cases ending : tlvType = tlvTypeEnding
      · rw [if_pos ending] at parsed ⊢
        by_cases zero : fromBeBytes [a, b, c, d] = 0
        · rw [if_neg (not_not_intro zero)] at parsed
          rw [if_neg fun ⟨_, more⟩ => more zero]
          exact ⟨_, rfl, resume_returned enough parsed⟩
        · rw [if_pos zero] at parsed
          rw [if_pos ⟨first, zero⟩]
          exact ⟨_, _, resume_returned enough parsed⟩
      · rw [if_neg ending] at parsed ⊢
        exact ⟨_, _, resume_returned enough parsed⟩
  · have enough : index + 1 ≤ origin.ready.length := by omega
    have parsed := @parse_atEntry _ maxTlvLength known _ (index + 1) _ _ found (by omega)
    dsimp only at parsed
    rw [if_neg other] at parsed
    rw [if_neg first, nextTlv_of_behind first other]
    by_cases ending : tlvType = tlvTypeEnding
    · rw [if_pos ending, processEndingTlv, if_pos] at parsed
      · rw [if_pos ending]
        exact ⟨_, rfl, resume_returned enough parsed⟩
      · change index + 1 < index + 1 + 4
        omega
    · rw [if_neg ending] at parsed ⊢
      exact ⟨_, _, resume_returned enough parsed⟩

theorem returns : Returns maxTlvLength origin index
    (resume origin (passes + 2) (starting maxTlvLength known index)) := by
  cases found : origin.ready.drop index with
  | nil =>
    rw [Returns, found]
    apply Exists.intro
    apply resume_short
    change _ < endOf index
    have none := drop_eq_nil_iff.mp found
    rw [endOf]
    split <;> omega
  | cons tlvType later =>
    by_cases service : tlvType = tlvTypeServiceAddress
    · subst service
      exact returns_of_service found
    · exact returns_of_other service found

/-! ## Whole lists -/

structure Entries (maxTlvLength : Nat) (input : Bytes) where
  addresses : List ServiceAddress
  rest : Bytes
  split : input = encodeAll addresses ++ rest
  fits : (encodeAll addresses).length ≤ maxTlvLength

def Entries.next {maxTlvLength : Nat} {input : Bytes} (entries : Entries maxTlvLength input) :
    NextTlv :=
  nextTlv maxTlvLength (encodeAll entries.addresses).length entries.rest

theorem Entries.drop_eq {input : Bytes} (entries : Entries maxTlvLength input) :
    input.drop (encodeAll entries.addresses).length = entries.rest :=
  (congrArg (drop _) entries.split).trans drop_left

theorem exists_entries (maxTlvLength : Nat) (input : Bytes) :
    ∃ entries : Entries maxTlvLength input, entries.next ≠ .service := by
  suffices go : ∀ (length : Nat) (entries : Entries maxTlvLength input),
      entries.rest.length ≤ length → ∃ last : Entries maxTlvLength input, last.next ≠ .service from
    go input.length ⟨[], input, rfl, zero_le _⟩ (le_refl _)
  intro length
  induction length with
  | zero =>
    intro entries empty
    refine ⟨entries, ?_⟩
    rw [Entries.next, length_eq_zero_iff.mp (le_zero.mp empty)]
    exact nofun
  | succ length induction =>
    intro entries bound
    by_cases service : entries.next = .service
    · rcases exists_service service with ⟨address, later, same, fits⟩
      refine induction ⟨entries.addresses ++ [address], later, ?_, ?_⟩ ?_
      · apply entries.split.trans
        rw [same, encodeAll_append_singleton, append_assoc]
      · rwa [encodeAll_append_singleton, length_append]
      · rw [same, length_append, length_encode] at bound
        change later.length ≤ length
        omega
    · exact ⟨entries, service⟩

theorem readAndParseTlv_returns (stream : AsyncStream)
    (entries : Entries maxTlvLength stream.ready) :
    Returns maxTlvLength stream (encodeAll entries.addresses).length
      ((new maxTlvLength).readAndParseTlv stream) := by
  have few := length_le_encodeAll entries.addresses
  have fits := entries.fits
  rcases Nat.exists_eq_add_of_le' (show entries.addresses.length ≤ maxTlvLength by omega) with
    ⟨spare, bound⟩
  have start : (new maxTlvLength).readAndParseTlv stream = resume stream
      (3 * spare + 2 + 3 * entries.addresses.length) (starting maxTlvLength 0 0) := by
    rw [readAndParseTlv, show 3 * ((new maxTlvLength).maxTlvLength + 1) =
      3 * spare + 2 + 3 * entries.addresses.length + 1 by change 3 * (maxTlvLength + 1) = _; omega]
    have first := @readAndParseWithin_eq (new maxTlvLength) stream
      (3 * spare + 2 + 3 * entries.addresses.length) ⟨ nil_prefix, zero_le _⟩
    rwa [show (new maxTlvLength).buffer.length = 0 from rfl, advance_zero] at first
  rcases @resume_addresses stream (3 * spare + 2) maxTlvLength 0 0 _ _ entries.split
    (by rwa [Nat.zero_add]) with ⟨remaining, known, within, reached⟩
  rcases Nat.exists_eq_add_of_le' within with ⟨more, rfl⟩
  rw [start, reached, Nat.zero_add, ← Nat.add_assoc]
  exact returns

/-! ## The address that is extracted -/

theorem slice_content {address : ServiceAddress} {offset count : Nat}
    (buffered : filter.buffer = address.encode ++ later)
    (within : offset + count ≤ address.content.length) :
    filter.slice (5 + offset) count = some ((address.content.drop offset).take count) := by
  have regrouped : filter.buffer =
      (address.head ++ address.content.take offset) ++ (address.content.drop offset ++ later) := by
    rw [buffered, encode, append_assoc, append_assoc,
      ← append_assoc (take _ _), take_append_drop]
  apply slice_eq regrouped
  · rw [length_append, length_take_of_le (by omega)]
    rfl
  · rw [length_drop]
    omega

theorem extractOriginalDestination_of_address {address : ServiceAddress}
    (buffered : filter.buffer = address.encode ++ later) :
    filter.extractOriginalDestination = some address.socketAddr := by
  have length : 5 + address.content.length ≤ filter.buffer.length := by
    rw [buffered, length_append, length_encode]
    omega
  have head : filter.buffer[0]? = some tlvTypeServiceAddress := by
    rw [buffered]
    rfl
  have known : filter.readU32Be 1 = some address.content.length := by
    rw [← address.fromBeBytes_length]
    exact @readU32Be_eq filter _ _ _ _ _ [] _ buffered
  have parsed : (if address.content.length = tlvTypeServiceAddressIpv4Len then
        filter.parseIpv4Address 5
      else if address.content.length = tlvTypeServiceAddressIpv6Len then
        filter.parseIpv6Address 5
      else none) = some address.socketAddr := by
    rw [ServiceAddress.socketAddr]
    rcases address.valid with short | long
    · have first := @slice_content filter later address 0 4 buffered (by rw [short]; decide)
      have second := @slice_content filter later address 4 2 buffered (by rw [short]; decide)
      rw [if_pos short, if_pos short, parseIpv4Address, first, readU16Be, second]
      rfl
    · have first := @slice_content filter later address 0 16 buffered (by rw [long]; decide)
      have second := @slice_content filter later address 16 2 buffered (by rw [long]; decide)
      have other : address.content.length ≠ tlvTypeServiceAddressIpv4Len := by
        rw [long]
        decide
      rw [if_neg other, if_neg other, if_pos long, parseIpv6Address, first, readU16Be, second]
      rfl
  rw [extractOriginalDestination, extractFrom, show 0 + tlvTypeLen + tlvLengthLen = 5 from rfl,
    show 0 + tlvTypeLen = 1 from rfl, if_pos (show 5 ≤ filter.buffer.length by omega), head, known]
  simp only [show tlvTypeServiceAddress ≠ tlvTypeEnding by decide, if_false,
    not_lt.mpr length, if_true, parsed]

theorem extractOriginalDestination_of_ending (buffered : filter.buffer = endingTlv) :
    filter.extractOriginalDestination = none := by
  have known : filter.readU32Be 1 = some 0 := @readU32Be_eq filter _ 0 0 0 0 [] [] buffered
  rw [extractOriginalDestination, extractFrom, buffered, if_pos (by decide),
    show 0 + tlvTypeLen = 1 from rfl, known]
  rfl

/-! ## What becomes of a stream -/

section

variable {stream : AsyncStream} (entries : Entries maxTlvLength stream.ready)
  (localAddress peerAddress : SocketAddr)

def metadataOf (localAddress peerAddress : SocketAddr) :
    List ServiceAddress → DownstreamConnectionMetadata
  | [] => .socket peerAddress localAddress none
  | address :: _ => .tlv address.socketAddr peerAddress localAddress

theorem take_of_ending (ending : entries.next = .ending) :
    endOf (encodeAll entries.addresses).length ≤ stream.ready.length ∧
      stream.ready.take (endOf (encodeAll entries.addresses).length) =
        encodeAll entries.addresses ++ takenEnding (encodeAll entries.addresses).length := by
  rcases exists_ending ending with ⟨later, rest⟩
  have length : endOf (encodeAll entries.addresses).length =
      (encodeAll entries.addresses ++ takenEnding (encodeAll entries.addresses).length).length := by
    rw [endOf, takenEnding, length_append]
    split <;> rfl
  have whole := entries.split
  rw [rest, ← append_assoc] at whole
  rw [length]
  constructor
  · rw [congrArg List.length whole, @List.length_append _ _ later]
    exact le_add_right _ _
  · exact (congrArg (take _) whole).trans take_left

theorem processStream_of_ending (ending : entries.next = .ending) :
    (new maxTlvLength).processStream stream localAddress peerAddress =
      .ok (stream.advance (endOf (encodeAll entries.addresses).length),
        metadataOf localAddress peerAddress entries.addresses) := by
  have returned := readAndParseTlv_returns stream entries
  rw [Returns, entries.drop_eq, ← Entries.next, ending] at returned
  rcases returned with ⟨filter, buffered, returned⟩
  rw [(take_of_ending entries ending).2] at buffered
  rw [processStream, returned]
  cases addresses : entries.addresses with
  | nil =>
    rw [addresses] at buffered
    simp only [extractOriginalDestination_of_ending buffered]
    rfl
  | cons address others =>
    rw [addresses, encodeAll_cons, append_assoc] at buffered
    simp only [extractOriginalDestination_of_address buffered]
    rfl

theorem processStream_of_malformed (malformed : entries.next = .malformed) :
    (new maxTlvLength).processStream stream localAddress peerAddress =
      .error (.message "Failed to parse TLV data".toList) := by
  have returned := readAndParseTlv_returns stream entries
  rw [Returns, entries.drop_eq, ← Entries.next, malformed] at returned
  rcases returned with ⟨filter, later, returned⟩
  rw [processStream, returned]

theorem processStream_of_short (short : entries.next = .short) :
    (new maxTlvLength).processStream stream localAddress peerAddress =
      match stream.failure? with
      | none | some .wouldBlock =>
        .ok (stream.afterFailure, .socket peerAddress localAddress none)
      | some _ => .error (.message "Failed to parse TLV data".toList) := by
  have returned := readAndParseTlv_returns stream entries
  rw [Returns, entries.drop_eq, ← Entries.next, short] at returned
  rcases returned with ⟨filter, returned⟩
  rw [processStream, returned, shortOutcome]
  cases stream.failure? with
  | none => rfl
  | some error => cases error <;> rfl

end

end TlvListenerFilter

end Orion.Transport
