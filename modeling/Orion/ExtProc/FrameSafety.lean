import Orion.ExtProc.Flow

/-! # What every event keeps of the frames of a body

A new body is open and accounts for its frames, or it was ended with everything in
it, or it carries an error. Each event keeps this as long as it does not end the new
body while frames are left that it cannot pass on.
-/

namespace Orion.ExtProc

open Http Orion.Configuration Orion.ExtProc.Flow
open List hiding after

/-! ## What becomes of the frames of a body

Every frame of an original body should reach the new body once and in order, as it
was or as the processor changed it. While frames are under way, each has either
been passed on, or is kept somewhere, or has not been read yet.
-/

section

open Nat HeldFrames

/-! ## The purpose -/

inductive Answer where
  | body (response : BodyResponse)
  | trailers (response : TrailersResponse)
  deriving DecidableEq

inductive Fate where
  /-- It was never sent to the processor. -/
  | untouched
  /-- It was sent, and passed on without waiting for an answer. -/
  | flushed
  | answered (answer : Answer)
  deriving DecidableEq

section

variable [HttpCrate] [RegexEngine]

def Fate.result (fate : Fate) (frame : Frame) : Frame :=
  match fate, frame with
  | .answered (.body response), .data bytes =>
    match response.response.bind fun data =>
        BodyMutation.replacement data.bodyMutation with
    | some replacement => .data replacement
    | none => .data bytes
  | .answered (.trailers response), .trailers trailers =>
    .trailers (Processing.mutatedTrailers trailers response.headerMutation)
  | _, frame => frame

def Fate.exchange (fate : Fate) (frame : Frame) : Option (Frame × Option Answer) :=
  match fate with
  | .untouched => none
  | .flushed => some (frame, none)
  | .answered answer => some (frame, some answer)

abbrev Passed := List (Frame × Fate)

namespace Passed

def frames (passed : Passed) : List FrameResult :=
  passed.map fun entry => .ok entry.1

def results (passed : Passed) : List FrameResult :=
  passed.map fun entry => .ok (entry.2.result entry.1)

def exchanges (passed : Passed) : List (Frame × Option Answer) :=
  passed.filterMap fun entry => entry.2.exchange entry.1

end Passed

/-- Answers belong to the frames sent in the order of both. -/
def matched : List Frame → List Answer → List (Frame × Option Answer)
  | [], _ => []
  | frame :: sent, [] => (frame, none) :: matched sent []
  | frame :: sent, answer :: answers => (frame, some answer) :: matched sent answers

/-- Every frame of the original body was passed on once and in order, as it was or
as changed by the answer to it. -/
def Faithful (original injected : List FrameResult) (sent : List Frame)
    (answers : List Answer) : Prop :=
  ∃ passed : Passed, original = passed.frames ∧ injected = passed.results ∧
    ∃ sent' answers', sent' <+: sent ∧ answers' <+: answers ∧
      passed.exchanges = matched sent' answers'

theorem Faithful.extend (faithful : Faithful original injected sent answers) :
    Faithful original injected (sent ++ moreSent) (answers ++ moreAnswers) := by
  rcases faithful with ⟨passed, frames, results, sent', answers', sentPrefix,
    answersPrefix, exchanges⟩
  exact ⟨passed, frames, results, sent', answers', sentPrefix.trans (prefix_append _ _),
    answersPrefix.trans (prefix_append _ _), exchanges⟩

theorem Faithful.length_eq (faithful : Faithful original injected sent answers) :
    injected.length = original.length := by
  rcases faithful with ⟨passed, frames, results, _⟩
  rw [frames, results, Passed.results, Passed.frames, length_map, length_map]

end

section

variable [HttpCrate] [RegexEngine]

/-- Where every frame of the original body is: passed on, kept, or unread. The
frames in flight are the sent ones without an answer. -/
def Accounted (original : List FrameResult) (flow : Flow) (injected : List FrameResult)
    (sent : List Frame) (answers : List Answer) : Prop :=
  ∃ (passed : Passed) (answered : List Frame),
    original = passed.frames ++ flow.outstanding.map .ok ++ flow.stream ∧
    injected = passed.results ∧
    sent = answered ++ flow.inflight ∧
    answered.length = answers.length ∧
    passed.exchanges = matched answered answers

omit [HttpCrate] [RegexEngine] in
theorem matched_append (lengths : first.length = answers.length) (second : List Frame)
    (more : List Answer) :
    matched (first ++ second) (answers ++ more) = matched first answers ++ matched second more := by
  induction first generalizing answers with
  | nil =>
    rw [length_eq_zero_iff.mp lengths.symm]
    rfl
  | cons frame first induction =>
    cases answers with
    | nil => cases lengths
    | cons answer answers =>
      have rest := induction (succ.inj lengths)
      simp only [cons_append, matched, rest]

omit [HttpCrate] [RegexEngine] in
theorem matched_nil (sent : List Frame) :
    matched sent [] = sent.map fun frame => (frame, none) := by
  induction sent with
  | nil => rfl
  | cons frame sent induction => simp only [matched, induction, map_cons]

omit [HttpCrate] [RegexEngine] in
theorem Passed.exchanges_append (first second : Passed) :
    exchanges (first ++ second) = first.exchanges ++ second.exchanges :=
  filterMap_append

omit [HttpCrate] [RegexEngine] in
theorem Passed.frames_append (first second : Passed) :
    frames (first ++ second) = first.frames ++ second.frames :=
  map_append

theorem Passed.results_append (first second : Passed) :
    results (first ++ second) = first.results ++ second.results :=
  map_append

def Passed.untouched (frames : List Frame) : Passed :=
  frames.map fun frame => (frame, .untouched)

def Passed.flushed (frames : List Frame) : Passed :=
  frames.map fun frame => (frame, .flushed)

variable (frames : List Frame)

omit [HttpCrate] [RegexEngine] in
@[simp] theorem Passed.frames_untouched : (Passed.untouched frames).frames = frames.map .ok := by
  simp [Passed.untouched, Passed.frames, Function.comp_def]

@[simp] theorem Passed.results_untouched : (untouched frames).results = frames.map .ok := by
  simp [untouched, results, Function.comp_def, Fate.result]

omit [HttpCrate] [RegexEngine] in
@[simp] theorem Passed.exchanges_untouched : (untouched frames).exchanges = [] := by
  simp [untouched, exchanges, Fate.exchange]

omit [HttpCrate] [RegexEngine] in
@[simp] theorem Passed.frames_flushed : (Passed.flushed frames).frames = frames.map .ok := by
  simp [Passed.flushed, Passed.frames, Function.comp_def]

@[simp] theorem Passed.results_flushed : (flushed frames).results = frames.map .ok := by
  simp [flushed, results, Function.comp_def, Fate.result]

omit [HttpCrate] [RegexEngine] in
@[simp] theorem Passed.exchanges_flushed :
    (flushed frames).exchanges = frames.map fun frame => (frame, none) := by
  simp [flushed, exchanges, Fate.exchange]

/-! ## How frames move -/

namespace Accounted

theorem initial (stream : List FrameResult) (flow : Flow) (unread : flow.stream = stream)
    (nothing : flow.outstanding = []) (noneSent : flow.inflight = []) :
    Accounted stream flow [] [] [] := by
  refine ⟨[], [], ?_, rfl, ?_, rfl, rfl⟩
  · simp [Passed.frames, nothing, unread]
  · simp [noneSent]

section

variable (accounted : Accounted original flow injected sent answers)

include accounted

/-- Frames go on that are not answered: some are passed on, and some are sent. -/
theorem goOn {next : Flow} (moved sentNow : List Frame)
    (left : flow.outstanding.map .ok ++ flow.stream =
      moved.map .ok ++ next.outstanding.map .ok ++ next.stream)
    (inflight : next.inflight = flow.inflight ++ sentNow) :
    Accounted original next (injected ++ moved.map .ok) (sent ++ sentNow) answers := by
  rcases accounted with ⟨passed, answered, frames, results, sentEqual, lengths, exchanges⟩
  refine ⟨passed ++ .untouched moved, answered, ?_, ?_, ?_, lengths, ?_⟩
  · rw [frames, append_assoc, left, Passed.frames_append, Passed.frames_untouched]
    simp
  · rw [results, Passed.results_append, Passed.results_untouched]
  · rw [sentEqual, inflight, append_assoc]
  · rw [Passed.exchanges_append, exchanges, Passed.exchanges_untouched, append_nil]

theorem hold (empty : flow.held = {})
    (notParked : flow.parked = none) (next : flow.stream = .ok frame :: rest) :
    Accounted original { flow with held := .holding frame, stream := rest } injected
      sent answers := by
  have nothingHeld : frames {} = [] := rfl
  have held := @goOn _ _ _ _ _ _ _ accounted
    { flow with held := .holding frame, stream := rest } [] []
    (by simp [outstanding, empty, nothingHeld, notParked, next]) (by simp)
  simpa using held

/-- The data held back goes on. If it is not sent, nothing sent may be before it. -/
theorem release (sends : Bool)
    (inOrder : sends = false → flow.held.dataBuffer.isSome → flow.inflight = []) :
    Accounted original (flow.release sends) (injected ++ flow.releasedFrames sends)
      (sent ++ flow.releasedToProcessor sends) answers := by
  let moved := if sends then [] else flow.held.dataBuffer.toList.map Frame.data
  have same : flow.releasedFrames sends = moved.map .ok := by
    cases sends <;> simp [releasedFrames, moved]
  rw [same, release_eq]
  apply accounted.goOn _ _ _ rfl
  cases held : flow.held.dataBuffer with
  | none => cases sends <;>
      simp [moved, outstanding, frames, releasedToProcessor, held]
  | some bytes =>
    rw [held] at inOrder
    cases sends <;> simp_all [moved, outstanding, frames, releasedToProcessor]

/-- Trailers held back go on, to the processor or to wait for the end. -/
theorem releaseTrailers
    (noData : flow.held.dataBuffer = none) (notParked : flow.parked = none) (sends : Bool) :
    Accounted original (flow.releaseTrailers sends) injected
      (sent ++ flow.releasedTrailersToProcessor sends) answers := by
  rw [← append_nil injected, releaseTrailers_eq]
  apply accounted.goOn [] _ _ rfl
  cases sends <;> cases held : flow.held.trailersBuffer <;>
    simp [outstanding, frames, releasedTrailersToProcessor, held, noData,
      notParked]

theorem answer (oldest : flow.inflight = frame :: rest) (answer : Answer) :
    Accounted original { flow with inflight := rest }
      (injected ++ [.ok ((Fate.answered answer).result frame)]) sent (answers ++ [answer]) := by
  rcases accounted with ⟨passed, answered, frames, results, sentEqual, lengths, exchanges⟩
  refine ⟨passed ++ [(frame, .answered answer)], answered ++ [frame], ?_, ?_, ?_, ?_, ?_⟩
  · rw [frames, Passed.frames_append]
    simp [outstanding, oldest, Passed.frames]
  · rw [results, Passed.results_append]
    rfl
  · rw [sentEqual, oldest]
    simp
  · simp [lengths]
  · rw [Passed.exchanges_append, exchanges, matched_append lengths]
    rfl

theorem finish (nothingHeld : flow.held = {}) (parkedLast : flow.parked = none ∨ flow.stream = [])
    {unread : List Frame} (noError : flow.stream = unread.map .ok) :
    Faithful original (injected ++ flow.inflight.map .ok ++ flow.stream ++
      flow.parked.toList.map fun trailers => .ok (.trailers trailers)) sent answers := by
  rcases accounted with ⟨passed, answered, frames, results, sentEqual, lengths, exchanges⟩
  have left : (flow.outstanding.map .ok : List FrameResult) ++ flow.stream =
      flow.inflight.map .ok ++ flow.stream ++
        flow.parked.toList.map fun trailers => .ok (.trailers trailers) := by
    rcases parkedLast with notParked | allRead
    · simp [outstanding, nothingHeld, HeldFrames.frames, notParked]
    · simp [outstanding, nothingHeld, HeldFrames.frames, allRead]
  have unsent : flow.stream ++ flow.parked.toList.map (fun trailers => .ok (.trailers trailers)) =
        (unread ++ flow.parked.toList.map Frame.trailers).map .ok := by
    simp [noError]
  refine ⟨passed ++ .flushed flow.inflight ++
    .untouched (unread ++ flow.parked.toList.map .trailers), ?_, ?_, sent, answers,
    prefix_refl _, prefix_refl _, ?_⟩
  · rw [frames, append_assoc, left, Passed.frames_append, Passed.frames_append,
      Passed.frames_flushed, Passed.frames_untouched, ← unsent]
    simp
  · rw [results, Passed.results_append, Passed.results_append, Passed.results_flushed,
      Passed.results_untouched, ← unsent]
    simp
  · have split := matched_append lengths flow.inflight []
    rw [append_nil] at split
    rw [Passed.exchanges_append, Passed.exchanges_append, exchanges, sentEqual, split, matched_nil]
    simp

end

end Accounted

end

end

/-! ## The order of a body -/

/-- Only data comes before a frame. -/
theorem bodyStream_pairwise (body : Body) : (bodyStream body).Pairwise fun first second =>
      (∃ frame, second = .ok frame) → ∃ bytes, first = .ok (.data bytes) := by
  rw [bodyStream, Body.frames, map_append, append_assoc]
  rw [pairwise_append]
  refine ⟨?_, ?_, ?_⟩
  · rw [map_map, pairwise_map]
    exact pairwise_of_forall fun bytes _ _ => ⟨bytes, rfl⟩
  · cases body.trailers <;> cases body.error <;> simp
  · intro first member second _ _
    simp only [map_map, mem_map] at member
    rcases member with ⟨bytes, _, same⟩
    exact ⟨bytes, same.symm⟩

theorem data_before_frame (split : bodyStream body = front ++ .ok frame :: rest)
    (member : before ∈ front) : ∃ bytes, before = .ok (.data bytes) := by
  have ordered := bodyStream_pairwise body
  rw [split, pairwise_append] at ordered
  exact ordered.2.2 before member _ (mem_cons_self ..) ⟨frame, rfl⟩

theorem error_or_frames (stream : List FrameResult) :
    (∃ error, .error error ∈ stream) ∨ ∃ frames : List Frame, stream = frames.map .ok := by
  induction stream with
  | nil => exact .inr ⟨[], rfl⟩
  | cons next stream induction =>
    cases next with
    | error error => exact .inl ⟨error, mem_cons_self ..⟩
    | ok frame =>
      rcases induction with ⟨error, member⟩ | ⟨frames, same⟩
      · exact .inl ⟨error, mem_cons_of_mem _ member⟩
      · exact .inr ⟨frame :: frames, by rw [same]; rfl⟩

/-! ## Order among the frames under way -/

/-- Trailers come last, and everything held back has gone on when the end is read. -/
structure Flow.WellKept (flow : Flow) : Prop where
  trailersInFlight : ∀ trailers, .trailers trailers ∈ flow.inflight →
    flow.sentTrailers = some trailers ∧ flow.endOfStream = true
  ended : flow.endOfStream = true → flow.complete = true ∧ flow.held = {} ∧ flow.stream = []
  parkedAtEnd : flow.parked.isSome = true → flow.endOfStream = true

section

variable [HttpCrate] [RegexEngine]

/-- An open body accounts for its frames, unless an error of the original body was
forgotten. -/
structure OpenOk (original : List FrameResult) (flow : Flow) (injected : List FrameResult)
    (sent : List Frame) (answers : List Answer) : Prop where
  wellKept : flow.WellKept
  accounted : flow.Swallowed ∨ Accounted original flow injected sent answers

/-- How a new body stands while the loop runs, or when it has been left. -/
def Standing (original : List FrameResult) (running : Bool) (flow : Flow)
    (injected : List FrameResult) (sent : List Frame) (answers : List Answer) : Prop :=
  (∃ error, .error error ∈ injected) ∨
    ((running = false ∨ flow.isOpen = false) ∧ Faithful original injected sent answers) ∨
    (running = true ∧ flow.isOpen = true ∧ OpenOk original flow injected sent answers)

variable {body : Body} {flow : Flow}

namespace OpenOk

section

variable (ok : OpenOk original flow injected sent answers)

include ok

theorem accountedOf
    (notSwallowed : ¬ flow.Swallowed) : Accounted original flow injected sent answers :=
  ok.accounted.resolve_left notSwallowed

/-- If everything left is passed on, the new body is whole or carries an error. -/
theorem finish (recoverable : flow.Recoverable) :
    let all := injected ++ (flow.flushedFrames ++ flow.lastFrames)
    (∃ error, .error error ∈ all) ∨ Faithful original all sent answers := by
  have accounted := ok.accountedOf recoverable.2
  have parkedLast : flow.parked = none ∨ flow.stream = [] := by
    cases parked : flow.parked with
    | none => exact .inl rfl
    | some trailers =>
      exact .inr (ok.wellKept.ended (ok.wellKept.parkedAtEnd (by rw [parked]; rfl))).2.2
  rcases error_or_frames flow.stream with ⟨error, member⟩ | ⟨unread, same⟩
  · exact .inl ⟨error, by simp [flushedFrames, member]⟩
  · have faithful := accounted.finish recoverable.1 parkedLast same
    refine .inr ?_
    rw [flushedFrames, lastFrames]
    simpa using faithful

theorem restream (streaming : Bool) :
    OpenOk original { flow with streaming := streaming } injected sent answers where
  wellKept := ⟨ok.wellKept.trailersInFlight, ok.wellKept.ended, ok.wellKept.parkedAtEnd⟩
  accounted := ok.accounted

/-! ## Reading the original body -/

theorem notEnded (reading : flow.complete = false) : flow.endOfStream = false := by
  cases ended : flow.endOfStream with
  | false => rfl
  | true =>
    have complete := (ok.wellKept.ended ended).1
    rw [reading] at complete
    cases complete

theorem notParked (reading : flow.complete = false) : flow.parked = none := by
  cases parked : flow.parked with
  | none => rfl
  | some trailers =>
    have ended := ok.wellKept.parkedAtEnd (by rw [parked]; rfl)
    rw [ok.notEnded reading] at ended
    cases ended

theorem accountedReading
    (reading : flow.complete = false) : Accounted original flow injected sent answers := by
  apply ok.accountedOf
  intro swallowed
  rw [Flow.Swallowed, reading] at swallowed
  cases swallowed.1

end

theorem noTrailersHeld (accounted : Accounted (bodyStream body) flow injected sent answers)
    (next : flow.stream = .ok frame :: rest) : flow.held.trailersBuffer = none := by
  rcases accounted with ⟨passed, _, frames, _⟩
  rw [next] at frames
  cases held : flow.held.trailersBuffer with
  | none => rfl
  | some trailers =>
    have member : (.ok (.trailers trailers) : FrameResult) ∈
        passed.frames ++ flow.outstanding.map .ok := by
      simp [outstanding, HeldFrames.frames, held]
    rcases data_before_frame frames member with ⟨bytes, ⟨⟩⟩

theorem read (ok : OpenOk (bodyStream body) flow injected sent answers)
    (next : flow.stream = .ok frame :: rest) (reading : flow.complete = false)
    (inOrder : sends = false → flow.held.dataBuffer.isSome → flow.inflight = []) :
    OpenOk (bodyStream body) (flow.read sends frame rest)
      (injected ++ flow.releasedFrames sends) (sent ++ flow.releasedToProcessor sends)
      answers := by
  have accounted := ok.accountedReading reading
  have noTrailers := noTrailersHeld accounted next
  have released := accounted.release sends inOrder
  have held : (flow.release sends).held = {} := by
    simp [release_eq, noTrailers]
  have notParked : (flow.release sends).parked = none := by
    rw [release_eq]
    exact ok.notParked reading
  have stream : (flow.release sends).stream = .ok frame :: rest := by
    rw [release_eq]
    exact next
  have kept := released.hold held notParked stream
  have parks : (flow.held.park frame).1 = .holding frame := by
    rw [HeldFrames.park_eq noTrailers]
  refine ⟨⟨?_, ?_, ?_⟩, .inr ?_⟩
  · intro trailers member
    have before := ok.wellKept.trailersInFlight trailers (trailers_mem_release member)
    rw [Flow.read, Flow.release_eq]
    exact before
  · intro ended
    rw [Flow.read, Flow.release_eq] at ended
    exact absurd ended (by simp [ok.notEnded reading])
  · intro parked
    rw [Flow.read, Flow.release_eq] at parked
    exact absurd parked (by simp [ok.notParked reading])
  · rw [Flow.read, parks]
    exact kept

theorem readError (ok : OpenOk original flow injected sent answers)
    (reading : flow.complete = false) (rest : List FrameResult) :
    OpenOk original { flow with stream := rest, complete := true } injected sent answers := by
  have notEnded := ok.notEnded reading
  refine ⟨⟨ok.wellKept.trailersInFlight, ?_, ok.wellKept.parkedAtEnd⟩, .inl ⟨rfl, notEnded⟩⟩
  intro ended
  exact absurd ended (by simp [notEnded])

theorem readEnd (ok : OpenOk original flow injected sent answers) (allRead : flow.stream = [])
    (reading : flow.complete = false) (sendsTrailers : Bool)
    (inOrder : sendsBody = false → flow.held.dataBuffer.isSome → flow.inflight = []) :
    OpenOk original { flow.readEnd sendsBody sendsTrailers with endOfStream := true }
      (injected ++ flow.releasedFrames sendsBody) (sent ++ (flow.releasedToProcessor sendsBody ++
        flow.releasedTrailersToProcessor sendsTrailers)) answers := by
  have complete : Accounted original { flow with complete := true } injected sent answers :=
    ok.accountedReading reading
  have released := complete.release sendsBody inOrder
  have noData : ({ flow with complete := true }.release sendsBody).held.dataBuffer = none := by
    simp [release_eq]
  have notParked : ({ flow with complete := true }.release sendsBody).parked = none := by
    rw [release_eq]
    exact ok.notParked reading
  have all := released.releaseTrailers noData notParked sendsTrailers
  refine ⟨⟨?_, ?_, fun _ => rfl⟩, .inr ?_⟩
  · intro trailers member
    refine ⟨?_, rfl⟩
    rcases trailers_mem_releaseTrailers member with released | sentLast
    · have before := trailers_mem_release released
      have ended := (ok.wellKept.trailersInFlight trailers before).2
      rw [ok.notEnded reading] at ended
      cases ended
    · exact sentLast
  · intro _
    simp [Flow.readEnd, Flow.releaseTrailers_eq, Flow.release_eq, allRead]
  · rw [Flow.readEnd, ← append_assoc]
    have sentTrailers : ({ flow with complete := true }.release
        sendsBody).releasedTrailersToProcessor sendsTrailers =
          flow.releasedTrailersToProcessor sendsTrailers := by
      rw [releasedTrailersToProcessor, trailersBuffer_release]
      rfl
    rw [sentTrailers] at all
    exact all

/-! ## Ending the new body -/

variable {after : Flow}

section

variable (ok : OpenOk original flow injected sent answers)

include ok

/-- The loop is left, or the new body closed, when everything was passed on. -/
theorem finished (recoverable : flow.Recoverable) (ending : running = false ∨ after.isOpen = false)
    (all : frames = flow.flushedFrames ++ flow.lastFrames) :
    Standing original running after (injected ++ frames) sent answers := by
  rw [all]
  rcases ok.finish recoverable with failed | faithful
  · exact .inl failed
  · exact .inr (.inl ⟨ending, faithful⟩)

theorem settled (settled : flow.Settled) (ending : running = false ∨ after.isOpen = false) :
    Standing original running after (injected ++ []) sent answers := by
  rcases settled with ⟨nothing, allRead, notSwallowed⟩
  simp only [outstanding, HeldFrames.frames, append_eq_nil_iff,
    map_eq_nil_iff, Option.toList_eq_nil_iff] at nothing
  rcases nothing with ⟨⟨inflight, data, trailers⟩, parked⟩
  have held : flow.held = {} := by
    rw [← data, ← trailers]
  apply ok.finished ⟨held, notSwallowed⟩ ending
  simp [flushedFrames, lastFrames, inflight, allRead, parked]

theorem flushed (flushable : flow.Flushable) (ending : running = false ∨ after.isOpen = false) :
    Standing original running after (injected ++ flow.flushedFrames) sent answers := by
  apply ok.finished ⟨flushable.1, flushable.2.2⟩ ending
  simp [lastFrames, flushable.2.1]

theorem failed (recoverable : allow = true → flow.Recoverable) (error : BodyError) :
    Standing original running (flow.failed allow)
      (injected ++ flow.failedFrames allow error) sent answers := by
  cases allow with
  | true => exact ok.finished (recoverable rfl) (.inr rfl) rfl
  | false => exact .inl ⟨error, by simp [failedFrames]⟩

end

theorem atEnd (ok : OpenOk original { flow with endOfStream := true } injected sent answers)
    (opened : flow.isOpen) :
    Standing original true flow.atEnd (injected ++ flow.atEndFrames) sent answers := by
  rw [Flow.atEnd, Flow.atEndFrames]
  by_cases noneInFlight : flow.inflight = []
  · rw [if_pos noneInFlight, if_pos noneInFlight]
    rcases ok.wellKept.ended rfl with ⟨_, held, allRead⟩
    have recoverable : Flow.Recoverable { flow with endOfStream := true } :=
      ⟨held, fun swallowed => by cases swallowed.2⟩
    apply ok.finished recoverable (.inr rfl)
    have stream : flow.stream = [] := allRead
    simp [flushedFrames, noneInFlight, stream, lastFrames]
  · rw [if_neg noneInFlight, if_neg noneInFlight, append_nil]
    exact .inr (.inr ⟨rfl, opened, ok⟩)

/-! ## Whole events -/

theorem outbound (ok : OpenOk (bodyStream body) flow injected sent answers)
    (opened : flow.isOpen) (reading : flow.complete = false)
    (inOrder : modes.shouldProcessBody = false → flow.held.dataBuffer.isSome →
      flow.inflight = []) :
    Standing (bodyStream body) true (flow.outbound modes)
      (injected ++ flow.outboundFrames modes) (sent ++ flow.outboundToProcessor modes)
      answers := by
  rw [Flow.outbound, Flow.outboundFrames, Flow.outboundToProcessor]
  cases stream : flow.stream with
  | nil =>
    have read := ok.readEnd stream reading modes.shouldProcessTrailers inOrder
    have isOpen : (flow.readEnd modes.shouldProcessBody modes.shouldProcessTrailers).isOpen := by
      rw [Flow.readEnd, Flow.isOpen_releaseTrailers, Flow.isOpen_release]
      exact opened
    rw [← append_assoc]
    exact read.atEnd isOpen
  | cons next rest =>
    cases next with
    | ok frame =>
      have read := ok.read stream reading inOrder
      have isOpen : (flow.read modes.shouldProcessBody frame rest).isOpen := by
        rw [Flow.read, Flow.release_eq]
        exact opened
      exact .inr (.inr ⟨rfl, isOpen, read⟩)
    | error error =>
      rw [append_nil, append_nil]
      exact .inr (.inr ⟨rfl, opened, ok.readError reading rest⟩)

section

variable (ok : OpenOk original flow injected sent answers)

include ok

theorem headersAnswered (opened : flow.isOpen)
    (continues : ∀ data, response.response = some data → data.status = .continue)
    (recoverable : response.response.isSome → skips modes →
      flow.inflight = [] ∧ flow.Recoverable) :
    Standing original true (flow.headersAnswered modes response)
      (injected ++ flow.headersAnsweredFrames modes response) sent answers := by
  rw [Flow.headersAnswered, Flow.headersAnsweredFrames]
  cases given : response.response with
  | none =>
    rw [append_nil]
    exact .inr (.inr ⟨rfl, opened, ok.restream true⟩)
  | some data =>
    dsimp only
    rw [continues data given]
    dsimp only
    cases skips : skips modes with
    | false =>
      rw [if_neg (by decide), if_neg (by decide), append_nil]
      exact .inr (.inr ⟨rfl, opened, ok.restream true⟩)
    | true =>
      rcases recoverable (by rw [given]; rfl) skips with ⟨noneInFlight, recoverable⟩
      apply ok.finished recoverable (.inr rfl)
      simp [flushedFrames, noneInFlight]

/-- The oldest frame in flight is answered, and what it became is passed on. -/
theorem answer (oldest : flow.inflight = frame :: rest) (answer : Answer) :
    OpenOk original { flow with inflight := rest }
      (injected ++ [.ok ((Fate.answered answer).result frame)]) sent (answers ++ [answer]) := by
  refine ⟨⟨?_, ok.wellKept.ended, ok.wellKept.parkedAtEnd⟩, ?_⟩
  · intro trailers member
    apply ok.wellKept.trailersInFlight trailers
    rw [oldest]
    exact mem_cons_of_mem frame member
  · rcases ok.accounted with swallowed | accounted
    · exact .inl swallowed
    · exact .inr (accounted.answer oldest answer)

theorem lastAnswered (noneInFlight : flow.inflight = []) (ended : flow.endOfStream)
    (closed : after.isOpen = false) :
    Standing original running after (injected ++ flow.lastFrames) sent answers := by
  rcases ok.wellKept.ended ended with ⟨_, held, allRead⟩
  have notSwallowed : ¬ flow.Swallowed := by
    intro swallowed
    rw [Flow.Swallowed, ended] at swallowed
    cases swallowed.2
  apply ok.finished ⟨held, notSwallowed⟩ (.inr closed)
  simp [flushedFrames, noneInFlight, allRead]

theorem bodyAnswered (opened : flow.isOpen) (given : response.response = some data)
    (continues : data.status = .continue) (oldest : flow.inflight = .data bytes :: rest) :
    Standing original true (flow.bodyAnswered response)
      (injected ++ flow.bodyAnsweredFrames response) sent (answers ++ [.body response]) := by
  have answered := ok.answer oldest (.body response)
  have passed : flow.answeredFrames data =
      [.ok ((Fate.answered (.body response)).result (.data bytes))] := by
    simp only [answeredFrames, Fate.result, given, Option.bind_some, oldest]
    cases BodyMutation.replacement data.bodyMutation <;> rfl
  have goesOn : ¬ data.status = .continueAndReplace := by
    rw [continues]
    decide
  rw [Flow.bodyAnswered, Flow.bodyAnsweredFrames, given]
  dsimp only
  rw [passed, oldest, tail_cons, ← append_assoc]
  simp only [goesOn, false_or]
  by_cases last : flow.endOfStream ∧ rest = []
  · rw [if_pos last, if_pos last]
    exact answered.lastAnswered last.2 last.1 rfl
  · rw [if_neg last, if_neg last, append_nil]
    exact .inr (.inr ⟨rfl, opened, answered⟩)

theorem trailersAnswered
    (response : TrailersResponse) (last : flow.inflight = [.trailers trailers]) :
    Standing original true flow.trailersAnswered
      (injected ++ flow.trailersAnsweredFrames response) sent
      (answers ++ [.trailers response]) := by
  have answered := ok.answer last (.trailers response)
  rcases ok.wellKept.trailersInFlight trailers
    (by rw [last]; exact mem_cons_self ..) with ⟨sentTrailers, ended⟩
  rw [Flow.trailersAnswered, Flow.trailersAnsweredFrames, sentTrailers]
  rw [append_cons]
  exact answered.lastAnswered rfl ended rfl

end

end OpenOk

/-! ## Bodies that have ended -/

/-- A step keeps the standing of a body if it does so for an open one: after its end
nothing more is passed on. -/
theorem Standing.step (standing : Standing original true flow injected sent answers)
    (staysClosed : flow.isOpen = false → after.isOpen = false)
    (opened : flow.isOpen → OpenOk original flow injected sent answers →
      Standing original running after (injected ++ frames) (sent ++ moreSent)
        (answers ++ moreAnswers)) :
    Standing original running after (injected ++ flow.inject frames) (sent ++ moreSent)
      (answers ++ moreAnswers) := by
  rcases standing with ⟨error, member⟩ | ⟨closed, faithful⟩ | ⟨_, isOpen, ok⟩
  · exact .inl ⟨error, mem_append_left _ member⟩
  · have closed : flow.isOpen = false := by
      rcases closed with stopped | closed
      · cases stopped
      · exact closed
    refine .inr (.inl ⟨.inr (staysClosed closed), ?_⟩)
    have nothing : flow.inject frames = [] := by
      simp [inject, closed]
    rw [nothing, append_nil]
    exact faithful.extend
  · have nothing : flow.inject frames = frames := by
      simp [inject, isOpen]
    rw [nothing]
    exact opened isOpen ok

end

end Orion.ExtProc
