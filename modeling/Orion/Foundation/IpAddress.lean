import Orion.Foundation.MachineInteger
import Orion.Foundation.Text

/-! # IP addresses

The textual forms of IP addresses that the standard library reads: four decimal
numbers, or up to eight groups of hexadecimal digits of which a run may be left out
and the last two may be written as four decimal numbers.
-/

namespace Orion.Foundation

open List Option Nat

inductive IpAddr where
  | v4 (octets : List Nat)
  | v6 (groups : List Nat)
  deriving DecidableEq

namespace IpAddr

def toDigit (radix : Nat) (character : Char) : Option Nat :=
  let value :=
    if '0' ≤ character ∧ character ≤ '9' then character.toNat - '0'.toNat
    else if 'a' ≤ character ∧ character ≤ 'z' then character.toNat - 'a'.toNat + 10
    else if 'A' ≤ character ∧ character ≤ 'Z' then character.toNat - 'A'.toNat + 10
    else radix
  if value < radix then some value else none

def readNumber (radix maxDigits : Nat) (allowZeroPrefix : Bool) (text : Text) :
    Option (Nat × Text) :=
  let digits := text.takeWhile fun character => (toDigit radix character).isSome
  if digits = [] ∨ maxDigits < digits.length then
    none
  else if allowZeroPrefix = false ∧ digits.head? = some '0' ∧ 1 < digits.length then
    none
  else
    some ((digits.filterMap (toDigit radix)).foldl (fun number digit => number * radix + digit) 0,
      text.drop digits.length)

def readChar (character : Char) : Text → Option Text
  | [] => none
  | first :: rest => if first = character then some rest else none

def readSeparator (separator : Char) (index : Nat) (text : Text) : Option Text :=
  if index = 0 then some text else readChar separator text

def readOctets : (index remaining : Nat) → Text → Option (List Nat × Text)
  | _, 0, text => some ([], text)
  | index, remaining + 1, text => do
      let text ← readSeparator '.' index text
      let (octet, text) ← readNumber 10 3 false text
      guard (octet < 256)
      let (octets, text) ← readOctets (index + 1) remaining text
      return (octet :: octets, text)

def readIpv4 (text : Text) : Option (List Nat × Text) := readOctets 0 4 text

/-- Groups up to a limit; the flag says that they end in four decimal numbers. -/
def readGroups : (index remaining : Nat) → Text → List Nat × Bool × Text
  | _, 0, text => ([], false, text)
  | index, remaining + 1, text =>
    let embedded :=
      if remaining = 0 then none else (readSeparator ':' index text).bind readIpv4
    match embedded with
    | some ([a, b, c, d], rest) => ([a * 256 + b, c * 256 + d], true, rest)
    | _ =>
      match (readSeparator ':' index text).bind (readNumber 16 4 true) with
      | none => ([], false, text)
      | some (group, rest) =>
        let (groups, decimal, rest) := readGroups (index + 1) remaining rest
        (group :: groups, decimal, rest)

def readIpv6 (text : Text) : Option (List Nat × Text) :=
  let (front, decimal, rest) := readGroups 0 8 text
  if front.length = 8 then
    some (front, rest)
  else if decimal then
    none
  else do
    let rest ← (readChar ':' rest).bind (readChar ':')
    let (back, _, rest) := readGroups 0 (8 - (front.length + 1)) rest
    return (front ++ List.replicate (8 - front.length - back.length) 0 ++ back, rest)

/-- `IpAddr::from_str`. -/
def fromStr (text : Text) : Option IpAddr :=
  let read := match readIpv4 text with
    | some (octets, rest) => some (IpAddr.v4 octets, rest)
    | none => (readIpv6 text).map fun (groups, rest) => (IpAddr.v6 groups, rest)
  match read with
  | some (address, []) => some address
  | _ => none

example : fromStr "192.168.2.10".toList = some (.v4 [192, 168, 2, 10]) := by decide +kernel

example : fromStr "fe80::1".toList = some (.v6 [0xfe80, 0, 0, 0, 0, 0, 0, 1]) := by
  decide +kernel

example : fromStr "::ffff:10.0.0.1".toList =
    some (.v6 [0, 0, 0, 0, 0, 0xffff, 0x0a00, 1]) := by decide +kernel

example : fromStr "[::1]".toList = none ∧ fromStr "10.0.0.01".toList = none := by
  decide +kernel

def width : IpAddr → Nat
  | .v4 _ => 32
  | .v6 _ => 128

def value : IpAddr → Nat
  | .v4 octets => octets.foldl (fun number octet => number * 2 ^ 8 + octet) 0
  | .v6 groups => groups.foldl (fun number group => number * 2 ^ 16 + group) 0

end IpAddr

/-! ## Networks -/

/-- The addresses that begin with the same bits as one of them. -/
structure IpNet where
  addr : IpAddr
  prefixLen : Nat
  fits : prefixLen ≤ addr.width
  deriving DecidableEq

/-- Addresses of the other version are never in the network. -/
def IpNet.contains (net : IpNet) (ip : IpAddr) : Bool :=
  net.addr.width = ip.width ∧
    net.addr.value / 2 ^ (ip.width - net.prefixLen) = ip.value / 2 ^ (ip.width - net.prefixLen)

/-- All that networks distinguish addresses by. -/
def IpAddr.bits (ip : IpAddr) : Nat × Nat := (ip.width, ip.value)

namespace IpNet

theorem contains_congr (same : left.bits = right.bits) (net : IpNet) :
    net.contains left = net.contains right := by
  injection same with width value
  rw [contains, contains, width, value]

def host (ip : IpAddr) : IpNet := ⟨ip, ip.width, Nat.le_refl _⟩

theorem host_contains_iff : (host left).contains right ↔ left.bits = right.bits := by
  rw [contains, decide_eq_true_iff, IpAddr.bits, IpAddr.bits, Prod.mk.injEq]
  refine and_congr_right fun width => ?_
  change left.value / 2 ^ (right.width - left.width) =
    right.value / 2 ^ (right.width - left.width) ↔ left.value = right.value
  change left.width = right.width at width
  rw [width, Nat.sub_self, Nat.pow_zero, Nat.div_one, Nat.div_one]

end IpNet

/-! ## IP addresses as text

The form in which the standard library writes addresses, which it reads back.
-/

namespace IpAddr

def WellFormed : IpAddr → Prop
  | .v4 octets => octets.length = 4 ∧ ∀ octet ∈ octets, octet < 256
  | .v6 groups => groups.length = 8 ∧ ∀ group ∈ groups, group < 65536

instance : DecidablePred WellFormed
  | .v4 octets => inferInstanceAs (Decidable (octets.length = 4 ∧ ∀ octet ∈ octets, octet < 256))
  | .v6 groups =>
    inferInstanceAs (Decidable (groups.length = 8 ∧ ∀ group ∈ groups, group < 65536))

/-! ## Numbers -/

theorem toDigit_digitChar (known : radix = 10 ∨ radix = 16) (small : digit < radix) :
    toDigit radix digit.digitChar = some digit := by
  have decimal : ∀ digit < 10, toDigit 10 (digitChar digit) = some digit := by decide
  have hexadecimal : ∀ digit < 16, toDigit 16 (digitChar digit) = some digit := by decide
  rcases known with rfl | rfl
  · exact decimal digit small
  · exact hexadecimal digit small

theorem exists_of_mem_toDigits (base : 1 < radix) (member : character ∈ radix.toDigits number) :
    ∃ digit < radix, character = digit.digitChar := by
  induction number using Nat.strongRecOn with
  | ind number induction =>
    rw [toDigits_eq_if base] at member
    split at member
    case isTrue small => exact ⟨number, small, mem_singleton.mp member⟩
    case isFalse large =>
      rcases mem_append.mp member with earlier | last
      · exact induction _ (div_lt_self (by omega) base) earlier
      · exact ⟨number % radix, mod_lt _ (by omega), mem_singleton.mp last⟩

theorem foldl_toDigits (known : radix = 10 ∨ radix = 16) :
    ((radix.toDigits number).filterMap (toDigit radix)).foldl
      (fun number digit => number * radix + digit) 0 = number := by
  have base : 1 < radix := by omega
  induction number using Nat.strongRecOn with
  | ind number induction =>
    rw [toDigits_eq_if base]
    split
    case isTrue small => simp [toDigit_digitChar known small]
    case isFalse large =>
      have last := toDigit_digitChar known (mod_lt number (by omega : 0 < radix))
      rw [filterMap_append, foldl_append, induction _ (div_lt_self (by omega) base)]
      simp only [filterMap_cons, last]
      exact div_add_mod' number radix

theorem head?_toDigits (known : radix = 10 ∨ radix = 16)
    (zero : (radix.toDigits number).head? = some '0') : (radix.toDigits number).length = 1 := by
  have base : 1 < radix := by omega
  have leading : ∀ number, 0 < number → (radix.toDigits number).head? ≠ some '0' := by
    intro number
    induction number using Nat.strongRecOn with
    | ind number induction =>
      intro positive same
      rw [toDigits_eq_if base] at same
      split at same
      case isTrue small =>
        have digit := toDigit_digitChar known small
        rw [head?_cons, some.injEq] at same
        rw [same] at digit
        have value : toDigit radix '0' = some 0 := by
          rcases known with rfl | rfl <;> decide
        rw [value, some.injEq] at digit
        omega
      case isFalse large =>
        rw [head?_append_of_ne_nil _ toDigits_ne_nil] at same
        exact induction _ (div_lt_self positive base) (div_pos (by omega) (by omega)) same
  rcases Nat.eq_zero_or_pos number with none | positive
  · rw [none, toDigits_of_lt_base (by omega)]
    rfl
  · exact absurd zero (leading number positive)

def NoDigit (radix : Nat) (text : Text) : Prop :=
  ∀ character ∈ text.head?, toDigit radix character = none

theorem readNumber_toDigits {allowZeroPrefix : Bool} {rest : Text}
    (known : radix = 10 ∨ radix = 16) (positive : 0 < maxDigits)
    (small : number < radix ^ maxDigits) (ends : NoDigit radix rest) :
    readNumber radix maxDigits allowZeroPrefix (radix.toDigits number ++ rest) =
      some (number, rest) := by
  have base : 1 < radix := by omega
  have digits : (radix.toDigits number ++ rest).takeWhile
      (fun character => (toDigit radix character).isSome) = radix.toDigits number := by
    rw [takeWhile_append_of_pos]
    · cases rest with
      | nil => simp
      | cons first rest =>
        have none := ends first rfl
        simp [none]
    · intro character member
      rcases exists_of_mem_toDigits base member with ⟨digit, within, rfl⟩
      rw [toDigit_digitChar known within]
      rfl
  have length := (length_toDigits_le_iff base positive).mpr small
  rw [readNumber, digits]
  simp only [foldl_toDigits known, drop_left]
  rw [if_neg, if_neg]
  · rintro ⟨_, zero, long⟩
    have one := head?_toDigits known zero
    omega
  · rintro (empty | long)
    · exact absurd empty toDigits_ne_nil
    · omega

def writeNumbers (radix : Nat) (separator : Char) : Nat → List Nat → Text
  | _, [] => []
  | index, number :: numbers =>
    (if index = 0 then [] else [separator]) ++
      (radix.toDigits number ++ writeNumbers radix separator (index + 1) numbers)

theorem readSeparator_write (separator : Char) (index : Nat) (text : Text) :
    readSeparator separator index ((if index = 0 then [] else [separator]) ++ text) =
      some text := by
  rw [readSeparator]
  split
  · rfl
  · simp [readChar]

theorem noDigit_writeNumbers (notDigit : toDigit radix separator = none)
    (ends : NoDigit radix rest) :
    NoDigit radix (writeNumbers radix separator (index + 1) numbers ++ rest) := by
  cases numbers with
  | nil => exact ends
  | cons number numbers =>
    intro character first
    rcases mem_some.mp first with rfl
    exact notDigit

/-! ## Version 4 -/

def displayOctets (octets : List Nat) : Text := writeNumbers 10 '.' 0 octets

theorem readOctets_write {octets : List Nat} {rest : Text}
    (inRange : ∀ octet ∈ octets, octet < 256) (ends : NoDigit 10 rest) :
    readOctets index octets.length (writeNumbers 10 '.' index octets ++ rest) =
      some (octets, rest) := by
  induction octets generalizing index with
  | nil => rfl
  | cons octet octets induction =>
    rcases forall_mem_cons.mp inRange with ⟨small, others⟩
    have number := @readNumber_toDigits 10 3 octet false
      (writeNumbers 10 '.' (index + 1) octets ++ rest) (.inl rfl) (by decide) (by omega)
      (noDigit_writeNumbers (by decide) ends)
    rw [writeNumbers, append_assoc, append_assoc, length_cons, readOctets, readSeparator_write]
    simp [number, small, induction others]

/-! ## Version 6 -/

/-- Where the longest run of zeros begins, and its length. -/
def longestZeros : (index start length : Nat) → (best : Nat × Nat) → List Nat → Nat × Nat
  | _, _, _, best, [] => best
  | index, start, length, best, group :: groups =>
    if group = 0 then
      let start := if length = 0 then index else start
      longestZeros (index + 1) start (length + 1)
        (if best.2 < length + 1 then (start, length + 1) else best) groups
    else
      longestZeros (index + 1) 0 0 best groups

def displayGroups (groups : List Nat) : Text := writeNumbers 16 ':' 0 groups

def displayV6 (groups : List Nat) : Text :=
  match groups with
  | [0, 0, 0, 0, 0, 0xffff, high, low] =>
    "::ffff:".toList ++ displayOctets [high / 256, high % 256, low / 256, low % 256]
  | groups =>
    let (start, length) := longestZeros 0 0 0 (0, 0) groups
    if 1 < length then
      displayGroups (groups.take start) ++ "::".toList ++
        displayGroups (groups.drop (start + length))
    else
      displayGroups groups

def display : IpAddr → Text
  | .v4 octets => displayOctets octets
  | .v6 groups => displayV6 groups

example : display (.v6 [0x2001, 0xdb8, 0, 0, 1, 0, 0, 1]) = "2001:db8::1:0:0:1".toList := by
  decide +kernel

def IsZeros (groups : List Nat) (span : Nat × Nat) : Prop :=
  ∀ position, span.1 ≤ position → position < span.1 + span.2 → groups[position]? = some 0

theorem longestZeros_isZeros {all groups : List Nat} {index start length : Nat} {best : Nat × Nat}
    (suffix : all.drop index = groups) (current : 0 < length → start + length = index)
    (zeros : IsZeros all (start, length)) (found : IsZeros all best) :
    IsZeros all (longestZeros index start length best groups) := by
  induction groups generalizing index start length best with
  | nil => exact found
  | cons group groups induction =>
    have here : all[index]? = some group := by
      rw [← head?_drop, suffix]
      rfl
    have later : all.drop (index + 1) = groups := by
      rw [← drop_drop, suffix]
      rfl
    rw [longestZeros]
    split
    case isFalse =>
      apply induction later (fun positive => absurd positive (Nat.lt_irrefl 0)) _ found
      intro position _ small
      exact absurd small (not_lt_zero _)
    case isTrue zero =>
      have begins : (if length = 0 then index else start) + (length + 1) = index + 1 := by
        split
        · omega
        · have := current (by omega)
          omega
      have longer : IsZeros all (if length = 0 then index else start, length + 1) := by
        intro position after before
        rcases Nat.lt_or_ge position index with earlier | last
        · split at after
          · omega
          · have := current (by omega)
            exact zeros position after (by simp only; omega)
        · have same : position = index := by
            omega
          rw [same, here, zero]
      apply induction later (fun _ => begins) longer
      split
      · exact longer
      · exact found

theorem take_append_zeros {span : Nat × Nat} (some : 0 < span.2) (zeros : IsZeros groups span) :
    groups = groups.take span.1 ++ replicate span.2 0 ++ groups.drop (span.1 + span.2) ∧
      span.1 + span.2 ≤ groups.length := by
  have inside : span.1 + span.2 ≤ groups.length := by
    have last := zeros (span.1 + span.2 - 1) (by omega) (by omega)
    have bound := (List.getElem?_eq_some_iff.mp last).1
    omega
  refine ⟨?_, inside⟩
  have run : (groups.drop span.1).take span.2 = replicate span.2 0 := by
    apply eq_replicate_iff.mpr
    refine ⟨by rw [length_take, length_drop]; omega, ?_⟩
    intro group member
    rcases mem_iff_getElem?.mp member with ⟨offset, found⟩
    rw [getElem?_take] at found
    split at found
    · rw [getElem?_drop, zeros _ (by omega) (by omega)] at found
      exact (Option.some.inj found).symm
    · exact absurd found nofun
  rw [← run, append_assoc, ← drop_drop, take_append_drop, take_append_drop]

theorem longestZeros_split {groups : List Nat} {span : Nat × Nat}
    (same : longestZeros 0 0 0 (0, 0) groups = span) (some : 0 < span.2) :
    groups = groups.take span.1 ++ replicate span.2 0 ++ groups.drop (span.1 + span.2) ∧
      span.1 + span.2 ≤ groups.length := by
  have empty : IsZeros groups (0, 0) := fun _ _ small => absurd small (not_lt_zero _)
  have zeros := @longestZeros_isZeros groups groups 0 0 0 (0, 0) rfl (fun _ => rfl) empty empty
  rw [same] at zeros
  exact take_append_zeros some zeros

theorem readNumber_rest
    (read : readNumber radix maxDigits allowZeroPrefix text = some (number, rest)) :
    rest = text.dropWhile fun character => (toDigit radix character).isSome := by
  rw [readNumber] at read
  split at read
  · exact absurd read nofun
  split at read
  · exact absurd read nofun
  · have split := @List.takeWhile_append_dropWhile _
      (fun character => (toDigit radix character).isSome) text
    rw [← (Prod.mk.inj (some.inj read)).2]
    exact (congrArg (drop _) split).symm.trans drop_left

/-- The text is no address of version 4: no dot follows its first digits. -/
def NoDot (text : Text) : Prop :=
  (text.dropWhile fun character => (toDigit 10 character).isSome).head? ≠ some '.'

theorem readIpv4_eq_none (stops : NoDot text) : readIpv4 text = none := by
  have separator : ∀ rest, rest.head? ≠ some '.' → readSeparator '.' 1 rest = none := by
    intro rest other
    cases rest with
    | nil => rfl
    | cons first rest =>
      rw [readSeparator, if_neg (by decide), readChar, if_neg]
      intro same
      exact other (congrArg some same)
  rw [readIpv4, readOctets]
  simp only [readSeparator, if_true, bind, bind_some]
  cases number : readNumber 10 3 false text with
  | none => rfl
  | some result =>
    rcases result with ⟨octet, rest⟩
    rw [NoDot, ← readNumber_rest number] at stops
    have next : readOctets 1 3 rest = none := by
      rw [readOctets, separator rest stops]
      rfl
    simp [next]

def EndsGroups (text : Text) : Prop := ∀ character ∈ text.head?, character = ':'

theorem EndsGroups.noDigit (ends : EndsGroups text) : NoDigit 16 text := by
  intro character first
  rw [ends character first]
  decide

theorem endsGroups_cons (text : Text) : EndsGroups (':' :: text) := by
  intro character first
  exact (mem_some.mp first).symm

theorem noDot_colon (text : Text) : NoDot (':' :: text) := by
  rw [NoDot, dropWhile_cons_of_neg (by decide)]
  simp

theorem noDot_group {rest : Text} (ends : EndsGroups rest) : NoDot (toDigits 16 group ++ rest) := by
  rw [NoDot, dropWhile_append]
  split
  · cases rest with
    | nil => exact nofun
    | cons first rest =>
      rw [ends first rfl]
      exact noDot_colon rest
  · rename_i some
    intro dot
    cases found : (toDigits 16 group).dropWhile fun character => (toDigit 10 character).isSome with
    | nil => simp [found] at some
    | cons first others =>
      have member : first ∈ toDigits 16 group :=
        (dropWhile_sublist _).subset (found ▸ mem_cons_self)
      rcases exists_of_mem_toDigits (by decide) member with ⟨digit, small, rfl⟩
      rw [found, List.cons_append, List.head?_cons, Option.some.injEq] at dot
      have other : ∀ digit < 16, digitChar digit ≠ '.' := by decide
      exact other digit small dot

theorem endsGroups_writeNumbers (ends : EndsGroups rest) :
    EndsGroups (writeNumbers 16 ':' (index + 1) groups ++ rest) := by
  cases groups with
  | nil => exact ends
  | cons group groups => exact endsGroups_cons _

/-- Written groups are read back, up to what follows them. -/
theorem readGroups_write {groups : List Nat} {rest : Text}
    (inRange : ∀ group ∈ groups, group < 65536) (ends : EndsGroups rest) :
    readGroups index (limit + groups.length) (writeNumbers 16 ':' index groups ++ rest) =
      (groups ++ (readGroups (index + groups.length) limit rest).1,
        (readGroups (index + groups.length) limit rest).2) := by
  induction groups generalizing index with
  | nil => rfl
  | cons group groups induction =>
    rcases forall_mem_cons.mp inRange with ⟨small, others⟩
    have next : EndsGroups (writeNumbers 16 ':' (index + 1) groups ++ rest) :=
      endsGroups_writeNumbers ends
    have number := @readNumber_toDigits 16 4 group true
      (writeNumbers 16 ':' (index + 1) groups ++ rest) (.inr rfl) (by decide) (by omega)
      next.noDigit
    have none := readIpv4_eq_none (@noDot_group group _ next)
    rw [writeNumbers, append_assoc, append_assoc, length_cons, ← Nat.add_assoc,
      readGroups, readSeparator_write]
    simp only [bind_some, none, ite_self, number, induction others]
    rw [show index + 1 + groups.length = index + (groups.length + 1) by omega]
    rfl

theorem readGroups_stop (index limit : Nat) (text : Text) :
    readGroups index limit (':' :: ':' :: text) = ([], false, ':' :: ':' :: text) := by
  cases limit with
  | zero => rfl
  | succ limit =>
    have number : ∀ text, readNumber 16 4 true (':' :: text) = none := fun text => rfl
    rcases Nat.eq_zero_or_pos index with rfl | later
    · rw [readGroups]
      simp [readSeparator, readIpv4_eq_none (noDot_colon (':' :: text)), number]
    · rw [readGroups]
      simp [readSeparator, Nat.ne_of_gt later, readChar, readIpv4_eq_none (noDot_colon text),
        number]

theorem readGroups_nil (index limit : Nat) : readGroups index limit [] = ([], false, []) := by
  cases limit with
  | zero => rfl
  | succ limit =>
    rcases Nat.eq_zero_or_pos index with rfl | later
    · cases limit <;> rfl
    · rw [readGroups]
      simp [readSeparator, Nat.ne_of_gt later, readChar]

theorem fromStr_displayOctets (length : octets.length = 4)
    (inRange : ∀ octet ∈ octets, octet < 256) :
    fromStr (displayOctets octets) = some (.v4 octets) := by
  have read := @readOctets_write 0 octets [] inRange nofun
  rw [length, append_nil] at read
  rw [fromStr, readIpv4, displayOctets, read]

theorem fromStr_eq (noDot : NoDot text) (read : readIpv6 text = some (groups, [])) :
    fromStr text = some (.v6 groups) := by
  rw [fromStr, readIpv4_eq_none noDot, read]
  rfl

theorem noDot_displayGroups {rest : Text} (ends : EndsGroups rest) :
    NoDot (displayGroups groups ++ rest) := by
  cases groups with
  | nil =>
    cases rest with
    | nil => exact nofun
    | cons first rest =>
      rw [ends first rfl]
      exact noDot_colon rest
  | cons group groups =>
    rw [displayGroups, writeNumbers, if_pos rfl, nil_append, append_assoc]
    exact noDot_group (endsGroups_writeNumbers ends)

theorem readIpv6_full (length : groups.length = 8) (inRange : ∀ group ∈ groups, group < 65536) :
    readIpv6 (displayGroups groups) = some (groups, []) := by
  have read := @readGroups_write 0 0 groups [] inRange nofun
  rw [readGroups_nil, length, append_nil, append_nil] at read
  rw [readIpv6, displayGroups, read]
  simp [length]

theorem readIpv6_eq (fewer : front.length ≠ 8)
    (first : readGroups 0 8 text = (front, false, ':' :: ':' :: rest))
    (second : readGroups 0 (8 - (front.length + 1)) rest = (back, decimal, remaining)) :
    readIpv6 text =
      some (front ++ replicate (8 - front.length - back.length) 0 ++ back, remaining) := by
  have colons : (readChar ':' (':' :: ':' :: rest)).bind (readChar ':') = some rest := rfl
  rw [readIpv6, first]
  simp only [fewer, colons, bind, bind_some, second]
  rfl

theorem readIpv6_shortened (length : front.length + 1 < 8)
    (remaining : back.length ≤ 8 - (front.length + 1))
    (inFront : ∀ group ∈ front, group < 65536) (inBack : ∀ group ∈ back, group < 65536) :
    readIpv6 (displayGroups front ++ (':' :: ':' :: displayGroups back)) =
      some (front ++ replicate (8 - front.length - back.length) 0 ++ back, []) := by
  have first := @readGroups_write 0 (8 - front.length) front (':' :: ':' :: displayGroups back)
    inFront (endsGroups_cons _)
  rw [readGroups_stop, append_nil, show 8 - front.length + front.length = 8 by omega] at first
  have second := @readGroups_write 0 (8 - (front.length + 1) - back.length) back [] inBack nofun
  rw [readGroups_nil, append_nil, append_nil,
    show 8 - (front.length + 1) - back.length + back.length = 8 - (front.length + 1) by omega]
    at second
  exact readIpv6_eq (by omega) first second

/-- The last two groups of a mapped address are written as four decimal numbers. -/
theorem readIpv6_mapped (inHigh : high < 65536) (inLow : low < 65536) :
    readIpv6 ("::ffff:".toList ++ displayOctets [high / 256, high % 256, low / 256, low % 256]) =
      some ([0, 0, 0, 0, 0, 0xffff, high, low], []) := by
  generalize numbers : [high / 256, high % 256, low / 256, low % 256] = octets
  have inRange : ∀ octet ∈ octets, octet < 256 := by
    rw [← numbers]
    simp
    omega
  have embedded : readIpv4 (displayOctets octets) = some (octets, []) := by
    have read := @readOctets_write 0 octets [] inRange nofun
    rw [show octets.length = 4 by rw [← numbers]; rfl, append_nil] at read
    exact read
  have last : readGroups 1 6 (':' :: displayOctets octets) = ([high, low], true, []) := by
    rw [readGroups]
    simp only [show readSeparator ':' 1 (':' :: displayOctets octets) =
      some (displayOctets octets) from rfl, bind_some, embedded]
    rw [← numbers]
    simp only [show (5 : Nat) ≠ 0 by decide, if_false, div_add_mod']
  have back := @readGroups_write 0 6 [0xffff] (':' :: displayOctets octets) (by simp)
    (endsGroups_cons _)
  rw [show 0 + [0xffff].length = 1 from rfl, last] at back
  exact readIpv6_eq (by decide) (readGroups_stop 0 8 _) back

theorem fromStr_display (wellFormed : ip.WellFormed) : fromStr ip.display = some ip := by
  cases ip with
  | v4 octets => exact fromStr_displayOctets wellFormed.1 wellFormed.2
  | v6 groups =>
    rcases wellFormed with ⟨length, inRange⟩
    rw [display, displayV6.eq_def]
    split
    case h_1 high low =>
      exact fromStr_eq (noDot_colon _) (readIpv6_mapped (inRange high (by simp))
        (inRange low (by simp)))
    case h_2 =>
      generalize same : longestZeros 0 0 0 (0, 0) groups = span
      simp only
      split
      case isFalse =>
        have read := @noDot_displayGroups groups [] nofun
        rw [append_nil] at read
        exact fromStr_eq read (readIpv6_full length inRange)
      case isTrue several =>
        rcases longestZeros_split same (by omega) with ⟨split, inside⟩
        have front : (groups.take span.1).length = span.1 := by
          rw [length_take]
          omega
        have read := @readIpv6_shortened (groups.take span.1) (groups.drop (span.1 + span.2))
          (by omega) (by rw [length_drop]; omega)
          (fun group member => inRange group (mem_of_mem_take member))
          (fun group member => inRange group (mem_of_mem_drop member))
        rw [front, length_drop, length,
          show 8 - span.1 - (8 - (span.1 + span.2)) = span.2 by omega, ← split] at read
        rw [append_assoc]
        exact fromStr_eq (noDot_displayGroups (endsGroups_cons _)) read

/-! ## The characters of an address -/

def IsPlain (character : Char) : Prop :=
  character = ':' ∨ character = '.' ∨ ∃ digit < 16, character = digitChar digit

theorem isPlain_writeNumbers (known : radix = 10 ∨ radix = 16) (plain : IsPlain separator) :
    ∀ character ∈ writeNumbers radix separator index numbers, IsPlain character := by
  induction numbers generalizing index with
  | nil => exact nofun
  | cons number numbers induction =>
    intro character member
    rcases mem_append.mp member with first | later
    · split at first
      · exact absurd first nofun
      · rw [mem_singleton.mp first]
        exact plain
    · rcases mem_append.mp later with digit | other
      · rcases exists_of_mem_toDigits (by omega) digit with ⟨value, small, rfl⟩
        exact .inr (.inr ⟨value, by omega, rfl⟩)
      · exact induction character other

theorem isPlain_colon : IsPlain ':' := .inl rfl

theorem isPlain_displayOctets : ∀ character ∈ displayOctets octets, IsPlain character :=
  isPlain_writeNumbers (.inl rfl) (.inr (.inl rfl))

theorem isPlain_displayGroups : ∀ character ∈ displayGroups groups, IsPlain character :=
  isPlain_writeNumbers (.inr rfl) isPlain_colon

theorem isPlain_display (ip : IpAddr) : ∀ character ∈ ip.display, IsPlain character := by
  cases ip with
  | v4 octets => exact isPlain_displayOctets
  | v6 groups =>
    intro character member
    rw [display, displayV6.eq_def] at member
    split at member
    · rcases mem_append.mp member with start | octets
      · have plain : ("::ffff:".toList.all fun character =>
            character = ':' ∨ character = digitChar 15) := by decide
        rcases of_decide_eq_true (all_eq_true.mp plain character start) with colon | digit
        · exact .inl colon
        · exact .inr (.inr ⟨15, by decide, digit⟩)
      · exact isPlain_displayOctets character octets
    · simp only at member
      split at member
      · rcases mem_append.mp member with earlier | back
        · rcases mem_append.mp earlier with front | colons
          · exact isPlain_displayGroups character front
          · have plain : ("::".toList.all fun character => character = ':') := by decide
            exact .inl (of_decide_eq_true (all_eq_true.mp plain character colons))
        · exact isPlain_displayGroups character back
      · exact isPlain_displayGroups character member

theorem length_writeNumbers {radix digits index : Nat} {separator : Char} {numbers : List Nat}
    (base : 1 < radix) (positive : 0 < digits)
    (inRange : ∀ number ∈ numbers, number < radix ^ digits) :
    (writeNumbers radix separator index numbers).length ≤
      (digits + 1) * numbers.length - if index = 0 then 1 else 0 := by
  induction numbers generalizing index with
  | nil => exact zero_le _
  | cons number numbers induction =>
    rcases forall_mem_cons.mp inRange with ⟨small, others⟩
    have length := (length_toDigits_le_iff base positive).mpr small
    have rest := @induction (index + 1) others
    rw [writeNumbers, length_append, length_append, length_cons, Nat.mul_add]
    split <;> simp only [length_nil, length_singleton] <;> omega

theorem length_displayOctets (length : octets.length = 4)
    (inRange : ∀ octet ∈ octets, octet < 256) : (displayOctets octets).length ≤ 15 := by
  have bound := @length_writeNumbers 10 3 0 '.' octets (by decide) (by decide)
    (fun octet member => Nat.lt_trans (inRange octet member) (by decide))
  rw [length] at bound
  exact bound

theorem length_displayGroups (inRange : ∀ group ∈ groups, group < 65536) :
    (displayGroups groups).length ≤ 5 * groups.length - 1 :=
  @length_writeNumbers 16 4 0 ':' groups (by decide) (by decide) inRange

theorem length_display {ip : IpAddr} (wellFormed : ip.WellFormed) : ip.display.length ≤ 39 := by
  cases ip with
  | v4 octets => exact Nat.le_trans (length_displayOctets wellFormed.1 wellFormed.2) (by decide)
  | v6 groups =>
    rcases wellFormed with ⟨length, inRange⟩
    rw [display, displayV6.eq_def]
    split
    case h_1 high low =>
      have inHigh := inRange high (by simp)
      have inLow := inRange low (by simp)
      have bound := @length_displayOctets [high / 256, high % 256, low / 256, low % 256] rfl
        (by simp; omega)
      rw [length_append]
      exact Nat.le_trans (Nat.add_le_add_left bound _) (by decide)
    case h_2 =>
      generalize same : longestZeros 0 0 0 (0, 0) groups = span
      simp only
      split
      case isFalse =>
        have bound := length_displayGroups inRange
        rw [length] at bound
        exact bound
      case isTrue several =>
        have inside := (longestZeros_split same (by omega)).2
        have front := @length_displayGroups (groups.take span.1)
          (fun group member => inRange group (mem_of_mem_take member))
        have back := @length_displayGroups (groups.drop (span.1 + span.2))
          (fun group member => inRange group (mem_of_mem_drop member))
        rw [length_take] at front
        rw [length_drop] at back
        rw [length_append, length_append, show "::".toList.length = 2 from rfl]
        omega

end IpAddr

end Orion.Foundation
