import Orion.Foundation.ReadStream
import Orion.Http.Message

/-! # Streams of connections

The head of a stream can be kept while it is read, and be read again.
-/

namespace Orion.Transport

open Foundation Http ReadStream List Nat

abbrev AsyncStream := ReadStream UInt8

inductive ConnectionError where
  | panicked
  | message (text : Text)
  deriving DecidableEq

inductive RewindableHeadAsyncStream where
  | headBufferingReadOnlyMode (inner : AsyncStream) (buffer : Bytes)
  | fullReplayMode (inner : AsyncStream) (replayBuffer : Bytes) (readPos : Nat)

namespace RewindableHeadAsyncStream

def new (inner : AsyncStream) : RewindableHeadAsyncStream := .headBufferingReadOnlyMode inner []

def intoStream : RewindableHeadAsyncStream → AsyncStream
  | .headBufferingReadOnlyMode inner _ | .fullReplayMode inner _ _ => inner

def intoRewoundStream : RewindableHeadAsyncStream → RewindableHeadAsyncStream
  | .headBufferingReadOnlyMode inner buffer => .fullReplayMode inner buffer 0
  | .fullReplayMode inner replayBuffer readPos => .fullReplayMode inner replayBuffer readPos

def read (limit : Nat) : RewindableHeadAsyncStream →
    Except ErrorKind Bytes × RewindableHeadAsyncStream
  | .headBufferingReadOnlyMode inner buffer =>
    match inner.read limit with
    | (.ok bytes, inner) => (.ok bytes, .headBufferingReadOnlyMode inner (buffer ++ bytes))
    | (.error error, inner) => (.error error, .headBufferingReadOnlyMode inner buffer)
  | .fullReplayMode inner replayBuffer readPos =>
    if readPos < replayBuffer.length then
      let remaining := replayBuffer.drop readPos
      let toCopy := min remaining.length limit
      (.ok (remaining.take toCopy), .fullReplayMode inner replayBuffer (readPos + toCopy))
    else
      let (result, inner) := inner.read limit
      (result, .fullReplayMode inner replayBuffer readPos)

def readExact (stream : RewindableHeadAsyncStream) (count : Nat) :
    Except ErrorKind Bytes × RewindableHeadAsyncStream :=
  match gatherWith read count count stream with
  | (bytes, .complete, stream) => (.ok bytes, stream)
  | (_, .closed, stream) => (.error .unexpectedEof, stream)
  | (_, .failed error, stream) => (.error error, stream)

def toStream : RewindableHeadAsyncStream → AsyncStream
  | .headBufferingReadOnlyMode inner _ => inner
  | .fullReplayMode inner replayBuffer readPos => inner.prepend (replayBuffer.drop readPos)

theorem read_toStream (stream : RewindableHeadAsyncStream) (limit : Nat) :
    (stream.toStream.read limit).1 = (stream.read limit).1 ∧
      (stream.toStream.read limit).2 = (stream.read limit).2.toStream := by
  cases stream with
  | headBufferingReadOnlyMode inner buffer =>
    rw [toStream, read]
    rcases inner.read limit with ⟨error | bytes, later⟩
    · exact ⟨rfl, rfl⟩
    · exact ⟨rfl, rfl⟩
  | fullReplayMode inner replayBuffer readPos =>
    rw [toStream, read]
    rcases Nat.lt_or_ge readPos replayBuffer.length with left | done
    · rw [if_pos left, read_prepend (drop_ne_nil left), drop_drop]
      exact ⟨rfl, rfl⟩
    · rw [if_neg (Nat.not_lt.mpr done), drop_eq_nil_of_le done, prepend_nil]
      refine ⟨rfl, ?_⟩
      rw [toStream, drop_eq_nil_of_le done, prepend_nil]

variable {inner : AsyncStream} {count : Nat}

theorem readExact_head : (headBufferingReadOnlyMode inner buffer).readExact count =
      match inner.gather count count with
      | (bytes, .complete, later) =>
        (.ok bytes, .headBufferingReadOnlyMode later (buffer ++ bytes))
      | (bytes, .closed, later) =>
        (.error .unexpectedEof, .headBufferingReadOnlyMode later (buffer ++ bytes))
      | (bytes, .failed error, later) =>
        (.error error, .headBufferingReadOnlyMode later (buffer ++ bytes)) := by
  have keeps : ∀ limit inner buffer, (headBufferingReadOnlyMode inner buffer).read limit =
        ((inner.read limit).1, .headBufferingReadOnlyMode (inner.read limit).2
          (buffer ++ ((inner.read limit).1.toOption).getD [])) := by
    intro limit inner buffer
    rw [read]
    rcases inner.read limit with ⟨error | bytes, later⟩
    · simp [Except.toOption]
    · simp [Except.toOption]
  rw [readExact, gatherWith_buffered keeps, gather]
  rcases gatherWith ReadStream.read count count inner with ⟨bytes, reading, later⟩
  cases reading <;> rfl

theorem readExact_of_le (enough : count ≤ inner.ready.length) :
    (headBufferingReadOnlyMode inner buffer).readExact count = (.ok (inner.ready.take count),
        .headBufferingReadOnlyMode (inner.advance count) (buffer ++ inner.ready.take count)) := by
  rw [readExact_head]
  rcases Nat.eq_zero_or_pos count with none | positive
  · subst none
    rw [gather, gatherWith, if_pos rfl]
    simp
  · rw [gather_of_le positive enough]

theorem readExact_of_lt (short : inner.ready.length < count) :
    ∃ error later, (headBufferingReadOnlyMode inner buffer).readExact count =
      (.error error, later) := by
  rw [readExact_head, gather_of_lt (by omega) short, shortage]
  cases inner.failure? <;> exact ⟨_, _, rfl⟩

/-- Whatever was read of a stream, rewinding it makes everything readable again. -/
theorem rewound_spec (enough : count ≤ inner.ready.length) :
    (headBufferingReadOnlyMode (inner.advance count)
        (inner.ready.take count)).intoRewoundStream.toStream.contents = inner.contents ∧
      (headBufferingReadOnlyMode (inner.advance count)
        (inner.ready.take count)).intoRewoundStream.toStream.failure? = inner.failure? := by
  rw [intoRewoundStream, toStream, drop_zero, contents_prepend,
    failure?_prepend, take_append_advance enough]
  exact ⟨rfl, (advance_spec enough).2.1⟩

end RewindableHeadAsyncStream

/-! ## Streams that are rewound again and again

A stream that was rewound can be wrapped once more. Then one wrapper keeps what another one
replays.
-/

inductive WrappedStream where
  | plain (stream : AsyncStream)
  | headBufferingReadOnlyMode (inner : WrappedStream) (buffer : Bytes)
  | fullReplayMode (inner : WrappedStream) (replayBuffer : Bytes) (readPos : Nat)

namespace WrappedStream

/-- A poll that is pending is one that would block. -/
def pollRead (limit : Nat) : WrappedStream → Except ErrorKind Bytes × WrappedStream
  | .plain stream => ((stream.read limit).1, .plain (stream.read limit).2)
  | .headBufferingReadOnlyMode inner buffer =>
    match inner.pollRead limit with
    | (.ok bytes, inner) => (.ok bytes, .headBufferingReadOnlyMode inner (buffer ++ bytes))
    | (other, inner) => (other, .headBufferingReadOnlyMode inner buffer)
  | .fullReplayMode inner replayBuffer readPos =>
    if readPos < replayBuffer.length then
      let remaining := replayBuffer.drop readPos
      let toCopy := min remaining.length limit
      (.ok (remaining.take toCopy), .fullReplayMode inner replayBuffer (readPos + toCopy))
    else
      let (result, inner) := inner.pollRead limit
      (result, .fullReplayMode inner replayBuffer readPos)

def intoRewoundStream : WrappedStream → WrappedStream
  | .headBufferingReadOnlyMode inner buffer => .fullReplayMode inner buffer 0
  | replaying => replaying

/-- The bytes that a number of polls deliver, and what they leave. -/
def pollAll : (limits : List Nat) → WrappedStream → Bytes × WrappedStream
  | [], stream => ([], stream)
  | limit :: limits, stream =>
    let (result, later) := stream.pollRead limit
    let (bytes, later) := pollAll limits later
    (result.toOption.getD [] ++ bytes, later)

/-- Wrap a stream, poll it and rewind it. -/
def rewindAfter (stream : WrappedStream) (limits : List Nat) : WrappedStream :=
  ((headBufferingReadOnlyMode stream []).pollAll limits).2.intoRewoundStream

/-! ## What is left to read -/

def contents : WrappedStream → Bytes
  | .plain stream => stream.contents
  | .headBufferingReadOnlyMode inner _ => inner.contents
  | .fullReplayMode inner replayBuffer readPos => replayBuffer.drop readPos ++ inner.contents

def weight : WrappedStream → Nat
  | .plain stream => stream.weight
  | .headBufferingReadOnlyMode inner _ => inner.weight
  | .fullReplayMode inner replayBuffer readPos => replayBuffer.length - readPos + inner.weight

variable (stream : WrappedStream) (limit : Nat)

theorem read_append_contents (stream : AsyncStream) :
    (stream.read limit).1.toOption.getD [] ++ (stream.read limit).2.contents = stream.contents := by
  match stream with
  | [] | .failure error :: later => rfl
  | .chunk elements nonempty :: later =>
    rw [ReadStream.read, ReadStream.contents]
    split
    · rw [ReadStream.contents, ← append_assoc]
      exact congrArg (· ++ _) (take_append_drop limit elements)
    · rfl

theorem pollRead_append_contents :
    (stream.pollRead limit).1.toOption.getD [] ++ (stream.pollRead limit).2.contents =
      stream.contents := by
  induction stream with
  | plain stream => exact read_append_contents limit stream
  | headBufferingReadOnlyMode inner buffer induction =>
    rw [contents, ← induction, pollRead]
    rcases inner.pollRead limit with ⟨error | bytes, later⟩ <;> rfl
  | fullReplayMode inner replayBuffer readPos induction =>
    rw [pollRead, contents]
    split
    · rw [contents, ← append_assoc, ← drop_drop]
      exact congrArg (· ++ _) (take_append_drop _ _)
    · next done =>
      rw [contents, List.drop_eq_nil_of_le (Nat.le_of_not_lt done)]
      exact induction

/-- While there is something to read, a poll with room for it does not find the end. -/
theorem pollRead_progress (positive : 0 < limit) :
    stream.contents = [] ∨
      (stream.pollRead limit).1 ≠ .ok [] ∧ (stream.pollRead limit).2.weight < stream.weight := by
  induction stream with
  | plain stream =>
    rcases ReadStream.read_cases positive stream with
      ⟨rfl, _⟩ | ⟨error, later, rfl, _⟩ | ⟨count, some, _, available, found⟩
    · exact .inl rfl
    · exact .inr ⟨nofun, ReadStream.weight_read positive nofun⟩
    · have unended : stream.ready ≠ [] := ne_nil_of_length_pos (by omega)
      refine .inr ⟨?_, ReadStream.weight_read positive fun ended => unended (by rw [ended]; rfl)⟩
      simp [pollRead, found, unended, Nat.pos_iff_ne_zero.mp some]
  | headBufferingReadOnlyMode inner buffer induction =>
    rw [contents, pollRead, weight]
    revert induction
    rcases inner.pollRead limit with ⟨error | bytes, later⟩ <;> exact id
  | fullReplayMode inner replayBuffer readPos induction =>
    rw [pollRead, contents]
    split
    · next left =>
      refine .inr ⟨?_, ?_⟩
      · simp only [ne_eq, Except.ok.injEq, take_eq_nil_iff, drop_eq_nil_iff, length_drop]
        omega
      · simp only [weight, length_drop]
        omega
    · next done =>
      rw [List.drop_eq_nil_of_le (Nat.le_of_not_lt done)]
      exact induction.imp_right (And.imp_right fun less => Nat.add_lt_add_left less _)

theorem pollAll_append_contents (limits : List Nat) :
    (stream.pollAll limits).1 ++ (stream.pollAll limits).2.contents = stream.contents := by
  induction limits generalizing stream with
  | nil => rfl
  | cons limit limits induction =>
    rw [pollAll, append_assoc, induction, pollRead_append_contents]

theorem contents_pollAll_of_length (long : stream.weight < limits.length)
    (positive : ∀ limit ∈ limits, 0 < limit) : (stream.pollAll limits).2.contents = [] := by
  induction limits generalizing stream with
  | nil => exact absurd long (not_lt_zero _)
  | cons limit limits induction =>
    rcases stream.pollRead_progress limit (positive limit mem_cons_self) with empty | ⟨_, less⟩
    · have all := stream.pollAll_append_contents (limit :: limits)
      rw [empty] at all
      exact (append_eq_nil_iff.mp all).2
    · rw [length_cons] at long
      exact induction _ (by omega) fun limit member => positive limit (.tail _ member)

/-! ## Nothing is lost -/

/-- The buffer of a wrapper has everything that was read through it. -/
theorem exists_buffer_of_pollAll (limits : List Nat) (inner : WrappedStream) (buffer : Bytes) :
    ∃ later kept, ((headBufferingReadOnlyMode inner buffer).pollAll limits).2 =
        .headBufferingReadOnlyMode later kept ∧
      kept ++ later.contents = buffer ++ inner.contents := by
  induction limits generalizing inner buffer with
  | nil => exact ⟨inner, buffer, rfl, rfl⟩
  | cons limit limits induction =>
    rw [← inner.pollRead_append_contents limit, pollAll, pollRead]
    rcases inner.pollRead limit with ⟨error | bytes, later⟩
    · exact induction later buffer
    · rw [← append_assoc]
      exact induction later (buffer ++ bytes)

theorem contents_rewindAfter (limits : List Nat) :
    (stream.rewindAfter limits).contents = stream.contents := by
  rcases exists_buffer_of_pollAll limits stream [] with ⟨later, kept, found, same⟩
  rw [rewindAfter, found]
  exact same

theorem contents_rewindAfter_all (rounds : List (List Nat)) :
    (rounds.foldl rewindAfter stream).contents = stream.contents := by
  induction rounds generalizing stream with
  | nil => rfl
  | cons limits rounds induction => rw [foldl_cons, induction, contents_rewindAfter]

/-- However often a stream was wrapped, polled and rewound, what is read in the end is the stream
from its first byte on. The end is found only after its last one, and polls that have room for
something reach it. -/
theorem reads_everything_after_rewinding (stream : AsyncStream) (rounds : List (List Nat))
    (limits : List Nat) :
    let rewound := rounds.foldl rewindAfter (.plain stream)
    ((rewound.pollAll limits).1 <+: stream.contents ∧
      ∀ limit, 0 < limit → ((rewound.pollAll limits).2.pollRead limit).1 = .ok [] →
        (rewound.pollAll limits).1 = stream.contents) ∧
    ∃ enough, ∀ others : List Nat, enough ≤ others.length → (∀ limit ∈ others, 0 < limit) →
      (rewound.pollAll others).1 = stream.contents := by
  intro rewound
  have all : ∀ limits, (rewound.pollAll limits).1 ++ (rewound.pollAll limits).2.contents =
      stream.contents := by
    intro limits
    rw [pollAll_append_contents]
    exact contents_rewindAfter_all _ rounds
  have complete : ∀ limits, (rewound.pollAll limits).2.contents = [] →
      (rewound.pollAll limits).1 = stream.contents := by
    intro limits empty
    rw [← all limits, empty, append_nil]
  refine ⟨⟨⟨_, all limits⟩, ?_⟩, rewound.weight + 1, ?_⟩
  · intro limit positive ended
    rcases pollRead_progress _ limit positive with empty | ⟨unended, _⟩
    · exact complete limits empty
    · exact absurd ended unended
  · intro others long positive
    exact complete others (contents_pollAll_of_length rewound long positive)

end WrappedStream

/-! ## Inspecting the beginning of a TLS connection

The first bytes of a connection are read until the TLS library has seen a client hello, or
refuses them. Then they can be read again.
-/

inductive Accepting where
  | more
  | clientHello (serverName : Option Text)
  | refused
  deriving DecidableEq

/-- `rustls::server::Acceptor`. How much it wants to read, and what it makes of it, only
depends on what it has read. -/
class Acceptor where
  room : Bytes → Nat
  accept : Bytes → Accepting

inductive InspectorResult where
  | success (serverName : Text)
  | successNoSni
  | tlsError (error : ErrorKind)
  deriving DecidableEq

theorem RewindableHeadAsyncStream.weight_read (positive : 0 < limit)
    {stream : RewindableHeadAsyncStream} (found : stream.read limit = (result, later))
    (some : result ≠ .ok []) : later.toStream.weight < stream.toStream.weight := by
  rcases stream.read_toStream limit with ⟨same, left⟩
  rw [found] at same left
  rw [← left]
  apply ReadStream.weight_read positive
  intro ended
  rw [ended] at same
  exact some same.symm

section

variable [Acceptor]

/-- `tokio_rustls::LazyConfigAcceptor`. A read that would block is made again later. -/
def lazyConfigAcceptor (seen : Bytes) (stream : RewindableHeadAsyncStream) :
    InspectorResult × RewindableHeadAsyncStream :=
  if positive : 0 < Acceptor.room seen then
    match found : stream.read (Acceptor.room seen) with
    | (.ok [], later) => (.tlsError .unexpectedEof, later)
    | (.ok (first :: rest), later) =>
      match Acceptor.accept (seen ++ first :: rest) with
      | .more =>
        have := RewindableHeadAsyncStream.weight_read positive found nofun
        lazyConfigAcceptor (seen ++ first :: rest) later
      | .clientHello (some serverName) => (.success serverName, later)
      | .clientHello none => (.successNoSni, later)
      | .refused => (.tlsError .other, later)
    | (.error .wouldBlock, later) =>
      have := RewindableHeadAsyncStream.weight_read positive found nofun
      lazyConfigAcceptor seen later
    | (.error error, later) => (.tlsError error, later)
  else
    (.tlsError .other, stream)
termination_by stream.toStream.weight

def inspectClientHello (stream : AsyncStream) : InspectorResult × AsyncStream :=
  let (result, inspector) := lazyConfigAcceptor [] (.new stream)
  (result, inspector.intoRewoundStream.toStream)

end

/-! ## Nothing is lost -/

def KeepsHead (origin : AsyncStream) (stream : RewindableHeadAsyncStream) : Prop :=
  ∃ inner buffer, stream = .headBufferingReadOnlyMode inner buffer ∧
    buffer ++ inner.contents = origin.contents ∧
    (origin.failure? = none → inner.failure? = none)

namespace KeepsHead

theorem new (origin : AsyncStream) : KeepsHead origin (.new origin) :=
  ⟨origin, [], rfl, rfl, id⟩

theorem read (keeps : KeepsHead origin stream) (positive : 0 < limit)
    (found : stream.read limit = (result, later)) : KeepsHead origin later := by
  have left : later = (stream.read limit).2 := by rw [found]
  rcases keeps with ⟨inner, buffer, rfl, same, unfailing⟩
  rw [left, RewindableHeadAsyncStream.read]
  rcases ReadStream.read_cases positive inner with
    ⟨rfl, ended⟩ | ⟨error, rest, rfl, failed⟩ | ⟨count, _, _, available, read⟩
  · rw [ended]
    exact ⟨[], buffer ++ [], rfl, by rw [append_nil, same], fun _ => rfl⟩
  · rw [failed]
    exact ⟨rest, buffer, rfl, same, fun none => absurd (unfailing none) nofun⟩
  · rw [read]
    rcases ReadStream.advance_spec available with ⟨_, failure, _⟩
    refine ⟨_, _, rfl, ?_, fun none => failure.trans (unfailing none)⟩
    rw [append_assoc, ReadStream.take_append_advance available, same]

theorem lazyConfigAcceptor [Acceptor] (keeps : KeepsHead origin stream) (seen : Bytes) :
    KeepsHead origin (lazyConfigAcceptor seen stream).2 := by
  fun_induction Transport.lazyConfigAcceptor seen stream with
  | case1 _ _ positive _ found => exact keeps.read positive found
  | case2 _ _ positive _ _ _ found _ _ induction => exact induction (keeps.read positive found)
  | case3 _ _ positive _ _ _ found => exact keeps.read positive found
  | case4 _ _ positive _ _ _ found => exact keeps.read positive found
  | case5 _ _ positive _ _ _ found => exact keeps.read positive found
  | case6 _ _ positive _ found _ induction => exact induction (keeps.read positive found)
  | case7 _ _ positive _ _ _ found => exact keeps.read positive found
  | case8 => exact keeps

theorem rewound (keeps : KeepsHead origin stream) :
    stream.intoRewoundStream.toStream.contents = origin.contents ∧
      (origin.failure? = none → stream.intoRewoundStream.toStream.failure? = none) := by
  rcases keeps with ⟨inner, buffer, rfl, same, unfailing⟩
  change (inner.prepend (buffer.drop 0)).contents = _ ∧
    (_ → (inner.prepend (buffer.drop 0)).failure? = none)
  rw [drop_zero, ReadStream.contents_prepend, ReadStream.failure?_prepend]
  exact ⟨same, unfailing⟩

end KeepsHead

theorem inspectClientHello_keeps [Acceptor] (stream : AsyncStream) :
    (inspectClientHello stream).2.contents = stream.contents ∧
      (stream.failure? = none → (inspectClientHello stream).2.failure? = none) :=
  ((KeepsHead.new stream).lazyConfigAcceptor []).rewound

end Orion.Transport
