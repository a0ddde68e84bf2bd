import Orion.Foundation.MachineInteger
import Orion.Foundation.Occurrence
import Orion.Foundation.ReadStream

/-! # Reading what a TCP check matches

A check reads until its payloads match. How the bytes arrive does not change the verdict,
unless they arrive in so many pieces that the size of the next read overflows.
-/

namespace Orion.Health

open Foundation ReadStream
open List hiding count

/-! ## Matching the payloads of a TCP check

The payloads that a check waits for are looked for one after the other in what was received.
-/

namespace PayloadMatcher

open Nat

abbrev Payload := List UInt8

/-- The loop over the payloads, from an index of the buffer on. -/
def matchesFrom (buffer : List UInt8) : Nat → List Payload → Bool
  | _, [] => true
  | index, payload :: payloads =>
    if payload.isEmpty then
      matchesFrom buffer index payloads
    else if buffer.length < index then
      -- `get(index..)` finds nothing.
      false
    else
      match findWindow payload (buffer.drop index) with
      | none => false
      | some payloadIndex => matchesFrom buffer (index + payloadIndex) payloads

def payloadsMatch (payloads : List Payload) (buffer : List UInt8) : Bool :=
  matchesFrom buffer 0 payloads

def isNonempty (payload : Payload) : Bool := !payload.isEmpty

/-- The payloads occur in order and do not overlap. -/
def OccurInOrder (payloads : List Payload) (buffer : List UInt8) : Prop :=
  ∃ placed : List (Payload × Nat), placed.map Prod.fst = payloads ∧
    (∀ entry ∈ placed, OccursAt entry.1 buffer entry.2) ∧
    placed.IsChain fun first second => first.2 + first.1.length ≤ second.2

def NoneOverlap (payloads : List Payload) : Prop :=
  (payloads.filter isNonempty).IsChain fun first second => ¬ Overlaps first second

theorem occurInOrder_iff :
    OccurInOrder payloads buffer ↔ Placeable length buffer 0 payloads := by
  rw [placeable_iff]
  constructor
  · rintro ⟨placed, same, occurs, ordered⟩
    exact ⟨placed, same, ⟨occurs, ordered⟩, fun _ _ => zero_le _⟩
  · rintro ⟨placed, same, placement, _⟩
    exact ⟨placed, same, placement.occurs, placement.ordered⟩

/-- The search from the left finds the payloads whenever they occur one after the other, but
lets one begin where the one before begins. -/
theorem matchesFrom_iff (within : index ≤ buffer.length) :
    matchesFrom buffer index payloads ↔
      Placeable (fun _ => 0) buffer index (payloads.filter isNonempty) := by
  induction payloads generalizing index with
  | nil => exact iff_of_true rfl trivial
  | cons payload payloads induction =>
    cases empty : payload.isEmpty with
    | true =>
      rw [matchesFrom, if_pos empty, filter_cons_of_neg (by simp [isNonempty, empty])]
      exact induction within
    | false =>
      rw [matchesFrom, if_neg (by simp [empty]), if_neg (by omega),
        filter_cons_of_pos (by simp [isNonempty, empty])]
      cases found : findWindow payload (buffer.drop index) with
      | none =>
        refine iff_of_false nofun ?_
        rintro ⟨position, after, occurs, _⟩
        apply findWindow_eq_none_iff.mp found (position - index)
        rw [OccursAt.drop_iff within, Nat.add_sub_cancel' after]
        exact occurs
      | some payloadIndex =>
        rcases findWindow_eq_some_iff.mp found with ⟨occurs, first⟩
        rw [OccursAt.drop_iff within] at occurs
        rw [induction occurs.inside]
        constructor
        · intro placeable
          exact ⟨index + payloadIndex, by omega, occurs, placeable⟩
        · rintro ⟨position, after, later, placeable⟩
          apply placeable.mono
          have earliest := first (position - index) (by
            rw [OccursAt.drop_iff within, Nat.add_sub_cancel' after]
            exact later)
          omega

section

theorem payloadsMatch_iff :
    payloadsMatch payloads buffer ↔ Placeable (fun _ => 0) buffer 0 (payloads.filter isNonempty) :=
  matchesFrom_iff (zero_le _)

theorem payloadsMatch_append (found : payloadsMatch payloads buffer) (more : List UInt8) :
    payloadsMatch payloads (buffer ++ more) :=
  payloadsMatch_iff.mpr ((payloadsMatch_iff.mp found).append more)

theorem payloadsMatch_of_occurInOrder
    (occur : OccurInOrder payloads buffer) : payloadsMatch payloads buffer := by
  rw [payloadsMatch_iff]
  rw [occurInOrder_iff, ← placeable_filter_iff (zero_le _)] at occur
  exact occur.closer

end

/-- The payloads are matched rightly in every buffer exactly when none can overlap the next. -/
theorem payloadsMatch_right_iff (payloads : List Payload) :
    (∀ buffer, payloadsMatch payloads buffer = true ↔ OccurInOrder payloads buffer) ↔
      NoneOverlap payloads := by
  constructor
  · intro right
    by_contra crowded
    have nonempty : ∀ payload ∈ payloads.filter isNonempty, payload ≠ [] := by
      rintro _ member rfl
      exact absurd (mem_filter.mp member).2 nofun
    rcases exists_crowded nonempty crowded with ⟨buffer, placeable, short⟩
    have occur := (right buffer).mp (payloadsMatch_iff.mpr placeable)
    rw [occurInOrder_iff, ← placeable_filter_iff (zero_le _)] at occur
    have room := occur.fits (zero_le _)
    rw [Nat.zero_add] at room
    exact absurd room (not_le_of_gt short)
  · intro apart buffer
    refine ⟨fun found => ?_, payloadsMatch_of_occurInOrder⟩
    rw [occurInOrder_iff, ← placeable_filter_iff (zero_le _)]
    exact (payloadsMatch_iff.mp found).separate apart

/-- One byte counts for two payloads. -/
theorem overlapping_payloads_match :
    payloadsMatch [[97], [97]] [97, 98] = true ∧ ¬ OccurInOrder [[97], [97]] [97, 98] := by
  refine ⟨by decide, ?_⟩
  intro occur
  rcases occurInOrder_iff.mp occur with ⟨first, _, _, second, after, occurs, _⟩
  have fits : second + 1 ≤ 2 := occurs.fits
  have last : second = 1 := le_antisymm (le_of_succ_le_succ fits) (le_trans (le_add_left _ _) after)
  have begins : [97] <+: drop 1 [(97 : UInt8), 98] := last ▸ occurs.begins
  exact absurd begins (by decide)

end PayloadMatcher

namespace Usize

def limit : Nat := 2 ^ 64

def add (profile : BuildProfile) (left right : Nat) : Except Panic Nat :=
  if left + right < limit then .ok (left + right)
  else if profile.overflowChecks then .error .overflow
  else .ok ((left + right) % limit)

def saturatingMul (left right : Nat) : Nat := min (left * right) (limit - 1)

end Usize

namespace PayloadMatcher

inductive Outcome where
  | ok
  | err
  | panic
  deriving DecidableEq

/-- How a read ended, with the size that the buffer had meanwhile. -/
inductive Received where
  | err (size : Nat)
  | panic (size : Nat)
  | more (size : Nat) (buffer : List UInt8) (later : ReadStream UInt8)

def recvAtMost (profile : BuildProfile) (maximum bytesToRead : Nat) (buffer : List UInt8)
    (stream : ReadStream UInt8) : Received :=
  if maximum ≤ buffer.length ∨ bytesToRead = 0 then
    .err buffer.length
  else
    match Usize.add profile buffer.length bytesToRead with
    | .error _ => .panic buffer.length
    | .ok sum =>
      if min maximum sum < buffer.length then
        -- `buffer[prev_size..]` is out of bounds.
        .panic buffer.length
      else
        match stream.read (min maximum sum - buffer.length) with
        | (.error _, _) => .err (min maximum sum)
        | (.ok [], _) => .err (min maximum sum)
        | (.ok (first :: rest), later) =>
          .more (min maximum sum) (buffer ++ first :: rest) later

theorem positive_of_read {stream : ReadStream UInt8}
    (found : stream.read count = (.ok (first :: rest), later)) : 0 < count := by
  apply Nat.pos_of_ne_zero
  rintro rfl
  match stream with
  | .chunk elements nonempty :: _ =>
    rw [ReadStream.read, dif_pos (length_pos_iff.mpr nonempty)] at found
    cases found

theorem recvAtMost_weight {maximum next}
    (received : recvAtMost profile maximum bytesToRead buffer stream = .more size next later) :
    later.weight < stream.weight := by
  unfold recvAtMost at received
  split_ifs at received
  split at received
  · cases received
  · split_ifs at received
    split at received
    · cases received
    · cases received
    · rename_i found
      cases received
      have unended : stream ≠ [] := by
        rintro rfl
        cases found
      have lighter := weight_read (positive_of_read found) unended
      rw [found] at lighter
      exact lighter

/-- The loop of `try_match`, with the largest size that the buffer has in it. -/
def matchLoop (profile : BuildProfile) (maximum : Nat) (payloads : List Payload)
    (moreBytes : Nat) (buffer : List UInt8) (stream : ReadStream UInt8) : Outcome × Nat :=
  if payloadsMatch payloads buffer then
    (.ok, buffer.length)
  else
    match _received : recvAtMost profile maximum moreBytes buffer stream with
    | .err size => (.err, size)
    | .panic size => (.panic, size)
    | .more size next later =>
      let (outcome, largest) :=
        matchLoop profile maximum payloads (Usize.saturatingMul moreBytes 2) next later
      (outcome, max size largest)
termination_by stream.weight
decreasing_by exact recvAtMost_weight (by assumption)

def payloadSize (payloads : List Payload) : Nat := (payloads.map length).sum

def tryMatch (profile : BuildProfile) (maximum : Nat) (payloads : List Payload)
    (stream : ReadStream UInt8) : Outcome × Nat :=
  if payloadSize payloads = 0 then
    (.ok, 0)
  else
    match gather (payloadSize payloads) (payloadSize payloads) stream with
    | (buffer, .complete, later) => matchLoop profile maximum payloads 1024 buffer later
    | _ => (.err, payloadSize payloads)

/-! ## How the reads go -/

def afterReads (maximum : Nat) : Nat → Nat → List UInt8 → ReadStream UInt8 → List UInt8
  | 0, _, buffer, _ => buffer
  | reads + 1, moreBytes, buffer, stream =>
    let received := stream.read (min maximum (buffer.length + moreBytes) - buffer.length)
    afterReads maximum reads (Usize.saturatingMul moreBytes 2)
      (buffer ++ received.1.toOption.getD []) received.2

/-- After a number of reads, each of which found something to read, the payloads do not
match, the buffer is not full, and the size of the next read overflows. -/
structure Starved (maximum : Nat) (payloads : List Payload) (moreBytes : Nat)
    (buffer : List UInt8) (stream : ReadStream UInt8) (reads : Nat) : Prop where
  left : ∀ earlier < reads, (afterReads maximum earlier moreBytes buffer stream).length <
    (buffer ++ stream.contents).length
  unmatched : payloadsMatch payloads (afterReads maximum reads moreBytes buffer stream) = false
  room : (afterReads maximum reads moreBytes buffer stream).length < maximum
  overflows : Usize.limit ≤ (afterReads maximum reads moreBytes buffer stream).length +
    (Usize.saturatingMul · 2)^[reads] moreBytes

variable {maximum moreBytes : Nat} {payloads : List Payload} {buffer : List UInt8}
  {stream : ReadStream UInt8} {profile : BuildProfile}

theorem afterReads_append (reads : Nat) :
    ∃ more, afterReads maximum reads moreBytes buffer stream = buffer ++ more := by
  induction reads generalizing moreBytes buffer stream with
  | zero => exact ⟨[], (append_nil _).symm⟩
  | succ reads induction =>
    rcases induction with ⟨more, same⟩
    exact ⟨_, same.trans (append_assoc _ _ _)⟩

theorem not_starved_of_match (found : payloadsMatch payloads buffer) (reads : Nat) :
    ¬ Starved maximum payloads moreBytes buffer stream reads := by
  intro starved
  have unmatched := starved.unmatched
  rcases afterReads_append reads with ⟨more, same⟩
  rw [same, payloadsMatch_append found more] at unmatched
  cases unmatched

theorem not_starved_of_full (full : maximum ≤ buffer.length) (reads : Nat) :
    ¬ Starved maximum payloads moreBytes buffer stream reads := by
  intro starved
  have room := starved.room
  rcases afterReads_append reads with ⟨more, same⟩
  rw [same, length_append] at room
  omega

theorem not_starved_of_end (fits : buffer.length + moreBytes < Usize.limit) (reads : Nat) :
    ¬ Starved maximum payloads moreBytes buffer [] reads := by
  intro starved
  cases reads with
  | zero => exact absurd starved.overflows (Nat.not_le_of_gt fits)
  | succ reads =>
    have left := starved.left 0 (Nat.succ_pos _)
    simp [afterReads, contents] at left

theorem exists_starved_iff (fits : buffer.length + moreBytes < Usize.limit)
    (enough : count ≤ stream.ready.length) (positive : 0 < count)
    (found : stream.read (min maximum (buffer.length + moreBytes) - buffer.length) =
      (.ok (stream.ready.take count), stream.advance count)) :
    (∃ reads, Starved maximum payloads moreBytes buffer stream reads) ↔
      ∃ reads, Starved maximum payloads (Usize.saturatingMul moreBytes 2)
        (buffer ++ stream.ready.take count) (stream.advance count) reads := by
  have whole : buffer ++ stream.ready.take count ++ (stream.advance count).contents =
      buffer ++ stream.contents := by
    rw [append_assoc, take_append_advance enough]
  have next : ∀ reads, afterReads maximum (reads + 1) moreBytes buffer stream =
      afterReads maximum reads (Usize.saturatingMul moreBytes 2)
        (buffer ++ stream.ready.take count) (stream.advance count) := by
    intro reads
    rw [afterReads, found]
    rfl
  constructor
  · rintro ⟨_ | reads, starved⟩
    · exact absurd starved.overflows (Nat.not_le_of_gt fits)
    · refine ⟨reads, ?_, next reads ▸ starved.unmatched, next reads ▸ starved.room,
        next reads ▸ starved.overflows⟩
      intro earlier before
      rw [whole, ← next]
      exact starved.left (earlier + 1) (by omega)
  · rintro ⟨reads, starved⟩
    refine ⟨reads + 1, ?_, next reads ▸ starved.unmatched, next reads ▸ starved.room,
      next reads ▸ starved.overflows⟩
    rintro (_ | earlier) before
    · rw [← whole, length_append, length_append, length_take_of_le enough,
        afterReads]
      omega
    · rw [next, ← whole]
      exact starved.left earlier (by omega)

theorem recvAtMost_of_overflow (profile : BuildProfile) (hungry : 0 < moreBytes)
    (small : moreBytes < Usize.limit) (room : buffer.length < maximum)
    (overflows : Usize.limit ≤ buffer.length + moreBytes) :
    recvAtMost profile maximum moreBytes buffer stream = .panic buffer.length := by
  have wrapped : (buffer.length + moreBytes) % Usize.limit < buffer.length := by
    have shift := Nat.mod_eq_sub_mod overflows
    have bound := Nat.mod_le (buffer.length + moreBytes - Usize.limit) Usize.limit
    omega
  rw [recvAtMost, if_neg (by omega), Usize.add, if_neg (by omega)]
  split_ifs
  · rfl
  · dsimp only
    rw [if_pos (by omega)]

theorem recvAtMost_of_fits (profile : BuildProfile) (hungry : 0 < moreBytes)
    (room : buffer.length < maximum) (fits : buffer.length + moreBytes < Usize.limit) :
    recvAtMost profile maximum moreBytes buffer stream =
      match stream.read (min maximum (buffer.length + moreBytes) - buffer.length) with
      | (.error _, _) | (.ok [], _) => .err (min maximum (buffer.length + moreBytes))
      | (.ok (first :: rest), later) =>
        .more (min maximum (buffer.length + moreBytes)) (buffer ++ first :: rest) later := by
  rw [recvAtMost, if_neg (by omega), Usize.add, if_pos fits]
  dsimp only
  rw [if_neg (by omega)]

/-! ## The verdict -/

def verdict (maximum : Nat) (payloads : List Payload) (bytes : List UInt8) : Outcome :=
  if payloadSize payloads ≤ bytes.length ∧ payloadsMatch payloads
      (bytes.take (max (payloadSize payloads) (min maximum bytes.length))) then
    .ok
  else
    .err

section

variable {rest : List UInt8} (started : payloadSize payloads ≤ buffer.length)
  (bounded : buffer.length ≤ max maximum (payloadSize payloads))

include started bounded

theorem verdict_of_match (found : payloadsMatch payloads buffer) :
    verdict maximum payloads (buffer ++ rest) = .ok := by
  apply if_pos
  rw [length_append, take_append, take_of_length_le (by omega)]
  exact ⟨by omega, payloadsMatch_append found _⟩

theorem verdict_of_stop (unmatched : payloadsMatch payloads buffer = false)
    (stops : maximum ≤ buffer.length ∨ rest = []) :
    verdict maximum payloads (buffer ++ rest) = .err := by
  have all : (buffer ++ rest).take
      (max (payloadSize payloads) (min maximum (buffer ++ rest).length)) = buffer := by
    rw [length_append]
    rcases stops with full | rfl
    · rw [show max (payloadSize payloads) (min maximum (buffer.length + rest.length)) =
        buffer.length by omega, take_left]
    · rw [append_nil, take_of_length_le (by rw [length_nil]; omega)]
  rw [verdict, all, unmatched, if_neg fun both => Bool.false_ne_true both.2]

end

theorem matchLoop_eq (profile : BuildProfile) (maximum : Nat) (payloads : List Payload)
    (moreBytes : Nat) (buffer : List UInt8) (stream : ReadStream UInt8) :
    matchLoop profile maximum payloads moreBytes buffer stream =
      if payloadsMatch payloads buffer then (.ok, buffer.length)
      else
        match recvAtMost profile maximum moreBytes buffer stream with
        | .err size => (.err, size)
        | .panic size => (.panic, size)
        | .more size next later =>
          let rest :=
            matchLoop profile maximum payloads (Usize.saturatingMul moreBytes 2) next later
          (rest.1, max size rest.2) := by
  rw [matchLoop]
  congr 1
  split <;> rename_i received <;> rw [received]

/-- There is a panic exactly if the check starves, and the verdict is given otherwise. -/
structure Decides (maximum : Nat) (payloads : List Payload) (bytes : List UInt8)
    (starves : Prop) (result : Outcome × Nat) : Prop where
  panics : result.1 = .panic ↔ starves
  decided : result.1 ≠ .panic → result.1 = verdict maximum payloads bytes
  bounded : result.2 ≤ max maximum (payloadSize payloads)

theorem matchLoop_decides {moreBytes : Nat} {buffer : List UInt8} {stream : ReadStream UInt8}
    (unfailing : stream.failure? = none) (hungry : 0 < moreBytes)
    (small : moreBytes < Usize.limit) (started : payloadSize payloads ≤ buffer.length)
    (bounded : buffer.length ≤ max maximum (payloadSize payloads)) :
    Decides maximum payloads (buffer ++ stream.contents)
      (∃ reads, Starved maximum payloads moreBytes buffer stream reads)
      (matchLoop profile maximum payloads moreBytes buffer stream) := by
  rw [matchLoop_eq]
  cases found : payloadsMatch payloads buffer with
  | true =>
    exact ⟨iff_of_false nofun fun ⟨reads, starved⟩ => not_starved_of_match found reads starved,
      fun _ => (verdict_of_match started bounded found).symm, bounded⟩
  | false =>
    rw [if_neg Bool.false_ne_true]
    rcases Nat.lt_or_ge buffer.length maximum with room | full
    · rcases Nat.lt_or_ge (buffer.length + moreBytes) Usize.limit with fits | overflows
      · have received := @recvAtMost_of_fits _ _ _ stream profile hungry room fits
        rcases read_cases
          (show 0 < min maximum (buffer.length + moreBytes) - buffer.length by omega) stream
          with ⟨rfl, read⟩ | ⟨error, later, rfl, _⟩ | ⟨count, positive, within, enough, read⟩
        · rw [received, read]
          exact ⟨iff_of_false nofun fun ⟨reads, starved⟩ => not_starved_of_end fits reads starved,
            fun _ => (verdict_of_stop started bounded found (.inr rfl)).symm,
            by dsimp only; omega⟩
        · cases unfailing
        · have length := length_take_of_le enough
          rw [exists_starved_iff fits enough positive read,
            ← take_append_advance enough, ← append_assoc]
          cases taken : stream.ready.take count with
          | nil =>
            rw [taken, length_nil] at length
            omega
          | cons first rest =>
            rw [taken] at length
            have arrived : recvAtMost profile maximum moreBytes buffer stream = .more
                (min maximum (buffer.length + moreBytes)) (buffer ++ first :: rest)
                (stream.advance count) := by
              rw [received, read, taken]
            rw [arrived]
            have next : Decides _ _ _ _ (matchLoop profile maximum payloads
                (Usize.saturatingMul moreBytes 2) (buffer ++ first :: rest)
                (stream.advance count)) :=
              matchLoop_decides ((advance_spec enough).2.1.trans unfailing)
                (by unfold Usize.saturatingMul Usize.limit; omega)
                (by unfold Usize.saturatingMul Usize.limit; omega)
                (by rw [length_append]; omega) (by rw [length_append]; omega)
            exact ⟨next.panics, next.decided, max_le (by omega) next.bounded⟩
      · rw [recvAtMost_of_overflow profile hungry small room overflows]
        exact ⟨iff_of_true rfl ⟨0, nofun, found, room, overflows⟩, fun other => absurd rfl other,
          bounded⟩
    · rw [recvAtMost, if_pos (.inl full)]
      exact ⟨iff_of_false nofun fun ⟨reads, starved⟩ => not_starved_of_full full reads starved,
        fun _ => (verdict_of_stop started bounded found (.inl full)).symm, bounded⟩
termination_by stream.weight
decreasing_by exact recvAtMost_weight arrived

/-! ## Two ways of arriving -/

/-- The bytes arrive in so many pieces that the size of a read overflows. -/
def Starves (maximum : Nat) (payloads : List Payload) (chunks : List (List UInt8)) : Prop :=
  payloadSize payloads ≤ chunks.flatten.length ∧
    ∃ reads, Starved maximum payloads 1024 (chunks.flatten.take (payloadSize payloads))
      ((ofChunks chunks).advance (payloadSize payloads)) reads

theorem payloadsMatch_of_size_zero (empty : payloadSize payloads = 0) (buffer : List UInt8) :
    payloadsMatch payloads buffer := by
  have none : payloads.filter isNonempty = [] := by
    rw [filter_eq_nil_iff]
    intro payload member
    have zero := List.sum_eq_zero_iff_forall_eq_nat.mp empty _ (List.mem_map_of_mem member)
    simp [isNonempty, length_eq_zero_iff.mp zero]
  rw [payloadsMatch_iff, none]
  trivial

theorem tryMatch_decides (profile : BuildProfile) (maximum : Nat) (payloads : List Payload)
    (chunks : List (List UInt8)) :
    Decides maximum payloads chunks.flatten (Starves maximum payloads chunks)
      (tryMatch profile maximum payloads (.ofChunks chunks)) := by
  have unfailing := failure?_ofChunks chunks
  have ready : (ofChunks chunks).ready = chunks.flatten :=
    (ofChunks_spec chunks).1
  rw [tryMatch]
  rcases Nat.eq_zero_or_pos (payloadSize payloads) with empty | positive
  · have found := payloadsMatch_of_size_zero empty
    rw [if_pos empty]
    refine ⟨iff_of_false (by rintro ⟨⟩) ?_, fun _ => (if_pos ⟨by omega, found _⟩).symm,
      Nat.zero_le _⟩
    rintro ⟨_, reads, starved⟩
    exact not_starved_of_match (found _) reads starved
  · rw [if_neg (by omega)]
    rcases Nat.lt_or_ge chunks.flatten.length (payloadSize payloads) with short | enough
    · rw [gather_of_lt positive (ready ▸ short), shortage, unfailing]
      exact ⟨iff_of_false (by rintro ⟨⟩) fun starves => absurd starves.1 (Nat.not_le_of_gt short),
        fun _ => (if_neg fun both => absurd both.1 (Nat.not_le_of_gt short)).symm,
        le_max_right _ _⟩
    · have available := ready ▸ enough
      have length := length_take_of_le enough
      have decides : Decides _ _ _ _ (matchLoop profile maximum payloads 1024 _ _) :=
        matchLoop_decides ((advance_spec available).2.1.trans unfailing)
          (by decide) (by decide) length.ge (length.le.trans (le_max_right _ _))
      rw [← ready, take_append_advance available, contents_ofChunks] at decides
      rw [gather_of_le positive available]
      rw [ready] at decides ⊢
      exact ⟨decides.panics.trans (and_iff_right enough).symm, decides.decided, decides.bounded⟩

/-- How the bytes arrive changes nothing, unless they starve the check. -/
theorem tryMatch_independent_iff (profile : BuildProfile) (maximum : Nat) (payloads : List Payload)
    (left right : List (List UInt8)) (same : left.flatten = right.flatten) :
    let first := tryMatch profile maximum payloads (.ofChunks left)
    let second := tryMatch profile maximum payloads (.ofChunks right)
    (first.1 = second.1 ∧ first.1 ≠ .panic ∧ first.2 ≤ max maximum (payloadSize payloads) ∧
        second.2 ≤ max maximum (payloadSize payloads)) ↔
      ¬ Starves maximum payloads left ∧ ¬ Starves maximum payloads right := by
  have one := tryMatch_decides profile maximum payloads left
  have other := tryMatch_decides profile maximum payloads right
  rw [← one.panics, ← other.panics]
  constructor
  · rintro ⟨equal, finishes, _⟩
    exact ⟨finishes, equal ▸ finishes⟩
  · rintro ⟨finishes, finishesToo⟩
    exact ⟨(one.decided finishes).trans (same ▸ (other.decided finishesToo).symm), finishes,
      one.bounded, other.bounded⟩

theorem tryMatch_independent_of_two :
    let first := tryMatch ⟨true⟩ 8 [[97], [98]] (.ofChunks [[97, 98]])
    let second := tryMatch ⟨true⟩ 8 [[97], [98]] (.ofChunks [[97], [98]])
    first.1 = second.1 ∧ first.1 ≠ .panic := by
  have settled : ∀ chunks : List (List UInt8), chunks.flatten = [97, 98] →
      ¬ Starves 8 [[97], [98]] chunks := by
    rintro chunks same ⟨_, reads, starved⟩
    rw [same] at starved
    exact not_starved_of_match (by decide) reads starved
  have both := (tryMatch_independent_iff ⟨true⟩ 8 [[97], [98]] [[97, 98]] [[97], [98]] rfl).mpr
    ⟨settled _ rfl, settled _ rfl⟩
  exact ⟨both.1, both.2.1⟩

/-- Bytes that arrive one by one make the check panic, where all at once do not. -/
theorem verdict_depends_on_chunks :
    let bytes := replicate 60 98
    (tryMatch ⟨true⟩ 1024 [[97]] (.ofChunks [bytes])).1 = .err ∧
      (tryMatch ⟨true⟩ 1024 [[97]] (.ofChunks (bytes.map fun byte => [byte]))).1 = .panic := by
  have atOnce := tryMatch_decides ⟨true⟩ 1024 [[97]] [replicate 60 98]
  refine ⟨(atOnce.decided fun panicked => ?_).trans (by decide), ?_⟩
  · rcases atOnce.panics.mp panicked with ⟨_, _ | _ | reads, starved⟩
    · exact absurd starved.overflows (by decide)
    · exact absurd starved.overflows (by decide)
    · exact absurd (starved.left 1 (by omega)) (by decide)
  · refine (tryMatch_decides ⟨true⟩ 1024 [[97]] _).panics.mpr ⟨by decide, 54, ?_⟩
    exact ⟨by decide, by decide, by decide, by decide +kernel⟩

end PayloadMatcher

end Orion.Health
