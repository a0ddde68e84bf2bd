import Orion.ExtProc.Processing

/-! # The flow of frames in one direction

Frames are read from the original body, held back, sent, kept in flight, parked and
at last passed on. Here is what each event does to them, without the rest of the
record.
-/

namespace Orion.ExtProc

open Http Orion.Configuration List Effect

/-- What the record of a direction says about frames. -/
structure Flow where
  stream : List FrameResult
  isOpen : Bool
  /-- The original body is being read. -/
  streaming : Bool
  sentTrailers : Option HeaderMap
  endOfStream : Bool
  held : HeldFrames
  inflight : List Frame
  parked : Option HeaderMap
  complete : Bool

def Processing.flow (processing : Processing) : Flow where
  stream := processing.frameBridge.bodyStream
  isOpen := processing.frameBridge.injector
  streaming := processing.streamingBodyEnabled
  sentTrailers := processing.trailers
  endOfStream := processing.endOfStream
  held := processing.framesBuffer
  inflight := processing.inflightFrames
  parked := processing.parkedTrailers
  complete := processing.bodyToExtProcComplete

def Flow.ofBody (body : Body) (streaming : Bool) : Flow where
  stream := bodyStream body
  isOpen := true
  streaming := streaming
  sentTrailers := none
  endOfStream := false
  held := {}
  inflight := []
  parked := none
  complete := false

namespace Flow

/-- The frames that were read and not passed on yet, in their order. -/
def outstanding (flow : Flow) : List Frame :=
  flow.inflight ++ flow.held.frames ++ flow.parked.toList.map .trailers

/-- An error of the original body was read and forgotten. -/
def Swallowed (flow : Flow) : Prop := flow.complete = true ∧ flow.endOfStream = false

def Settled (flow : Flow) : Prop :=
  flow.outstanding = [] ∧ flow.stream = [] ∧ ¬ flow.Swallowed

/-- Everything that is left can be passed on without closing the bridge. -/
def Flushable (flow : Flow) : Prop :=
  flow.held = {} ∧ flow.parked = none ∧ ¬ flow.Swallowed

/-- Everything that is left is passed on when the bridge is closed. -/
def Recoverable (flow : Flow) : Prop := flow.held = {} ∧ ¬ flow.Swallowed

/-! ## Single movements -/

/-- The frames that arrive in the new body; none once it has ended. -/
def inject (flow : Flow) (frames : List FrameResult) : List FrameResult :=
  if flow.isOpen then frames else []

@[simp] theorem inject_nil (flow : Flow) : flow.inject [] = [] := by
  rw [inject, ite_self]

theorem inject_congr {first second : Flow} (same : first.isOpen = second.isOpen)
    (frames : List FrameResult) : first.inject frames = second.inject frames := by
  rw [inject, inject, same]

section

variable (flow : Flow)

theorem inject_append (first second : List FrameResult) :
    flow.inject (first ++ second) = flow.inject first ++ flow.inject second := by
  rw [inject, inject, inject]
  split <;> rfl

def sending (frame : Frame) : Flow :=
  { flow with
    inflight := flow.inflight ++ [frame]
    sentTrailers := match frame with
      | .data _ => flow.sentTrailers
      | .trailers trailers => some trailers }

def close : Flow :=
  { flow with parked := none, isOpen := false, streaming := false }

def lastFrames : List FrameResult :=
  flow.parked.toList.map fun trailers => .ok (.trailers trailers)

def completed : Flow :=
  { flow with stream := if flow.isOpen then [] else flow.stream }

def flush : Flow := { flow.completed with inflight := [] }

def release (sends : Bool) : Flow :=
  match flow.held.dataBuffer with
  | some bytes =>
    let left := { flow with held := { flow.held with dataBuffer := none } }
    if sends then left.sending (.data bytes) else left
  | none => flow

def releasedFrames (sends : Bool) : List FrameResult :=
  if sends then [] else flow.held.dataBuffer.toList.map fun bytes => .ok (.data bytes)

def releasedToProcessor (sends : Bool) : List Frame :=
  if sends then flow.held.dataBuffer.toList.map .data else []

/-- Trailers that are not sent wait until the new body ends. -/
def releaseTrailers (sends : Bool) : Flow :=
  match flow.held.trailersBuffer with
  | some trailers =>
    let left := { flow with held := { flow.held with trailersBuffer := none } }
    if sends then left.sending (.trailers trailers)
    else { left with parked := some trailers }
  | none => flow

def releasedTrailersToProcessor (sends : Bool) : List Frame :=
  if sends then flow.held.trailersBuffer.toList.map .trailers else []

def read (sends : Bool) (frame : Frame) (rest : List FrameResult) : Flow :=
  { flow.release sends with held := (flow.held.park frame).1, stream := rest }

def readEnd (sendsBody sendsTrailers : Bool) : Flow :=
  ({ flow with complete := true }.release sendsBody).releaseTrailers sendsTrailers

theorem release_eq (sends : Bool) :
    flow.release sends = { flow with
      held := { flow.held with dataBuffer := none }
      inflight := flow.inflight ++ flow.releasedToProcessor sends } := by
  rw [release, releasedToProcessor]
  cases held : flow.held.dataBuffer with
  | none =>
    have same : { flow.held with dataBuffer := none } = flow.held := by rw [← held]
    cases sends <;> simp [same]
  | some bytes => cases sends <;> simp [sending]

theorem releaseTrailers_eq (sends : Bool) :
    flow.releaseTrailers sends = { flow with
      held := { flow.held with trailersBuffer := none }
      inflight := flow.inflight ++ flow.releasedTrailersToProcessor sends
      sentTrailers :=
        if sends then flow.held.trailersBuffer.or flow.sentTrailers else flow.sentTrailers
      parked := if sends then flow.parked else flow.held.trailersBuffer.or flow.parked } := by
  rw [releaseTrailers, releasedTrailersToProcessor]
  cases held : flow.held.trailersBuffer with
  | none =>
    have same : { flow.held with trailersBuffer := none } = flow.held := by rw [← held]
    cases sends <;> simp [same]
  | some trailers => cases sends <;> simp [sending]

@[simp] theorem isOpen_release (sends : Bool) : (flow.release sends).isOpen = flow.isOpen := by
  rw [release_eq]

@[simp] theorem trailersBuffer_release (sends : Bool) :
    (flow.release sends).held.trailersBuffer = flow.held.trailersBuffer := by
  rw [release_eq]

end

theorem trailers_mem_release {flow : Flow}
    (member : .trailers trailers ∈ (flow.release sends).inflight) :
    .trailers trailers ∈ flow.inflight := by
  rw [release_eq] at member
  cases sends <;> simpa [releasedToProcessor] using member

theorem trailers_mem_releaseTrailers {flow : Flow}
    (member : .trailers trailers ∈ (flow.releaseTrailers sends).inflight) :
    .trailers trailers ∈ flow.inflight ∨
      (flow.releaseTrailers sends).sentTrailers = some trailers := by
  rw [releaseTrailers_eq] at member ⊢
  cases sends with
  | false => exact .inl (by simpa [releasedTrailersToProcessor] using member)
  | true =>
    cases held : flow.held.trailersBuffer with
    | none => exact .inl (by simpa [releasedTrailersToProcessor, held] using member)
    | some waiting =>
      have cases : .trailers trailers ∈ flow.inflight ∨ trailers = waiting := by
        simpa [releasedTrailersToProcessor, held] using member
      rcases cases with before | same
      · exact .inl before
      · exact .inr (by simp [same])

section

variable (flow : Flow)

@[simp] theorem isOpen_releaseTrailers (sends : Bool) :
    (flow.releaseTrailers sends).isOpen = flow.isOpen := by
  rw [releaseTrailers_eq]

def atEnd : Flow :=
  let left := { flow with endOfStream := true }
  if flow.inflight = [] then left.close else left

def atEndFrames : List FrameResult :=
  if flow.inflight = [] then flow.lastFrames else []

/-! ## Whole events -/

def outbound (modes : OverridableModes) : Flow :=
  match flow.stream with
  | .ok frame :: rest => flow.read modes.shouldProcessBody frame rest
  | .error _ :: rest => { flow with stream := rest, complete := true }
  | [] => (flow.readEnd modes.shouldProcessBody modes.shouldProcessTrailers).atEnd

def outboundFrames (modes : OverridableModes) : List FrameResult :=
  match flow.stream with
  | .ok _ :: _ => flow.releasedFrames modes.shouldProcessBody
  | .error _ :: _ => []
  | [] => flow.releasedFrames modes.shouldProcessBody ++
      (flow.readEnd modes.shouldProcessBody modes.shouldProcessTrailers).atEndFrames

def outboundToProcessor (modes : OverridableModes) : List Frame :=
  match flow.stream with
  | .ok _ :: _ => flow.releasedToProcessor modes.shouldProcessBody
  | .error _ :: _ => []
  | [] => flow.releasedToProcessor modes.shouldProcessBody ++
      flow.releasedTrailersToProcessor modes.shouldProcessTrailers

def flushedFrames : List FrameResult :=
  flow.inflight.map .ok ++ flow.stream

theorem flush_flush : flow.flush.flush = flow.flush := by
  cases isOpen : flow.isOpen <;> simp [flush, completed, isOpen]

theorem inject_flushedFrames_flush : flow.flush.inject flow.flush.flushedFrames = [] := by
  cases isOpen : flow.isOpen <;> simp [inject, flushedFrames, flush, completed, isOpen]

def failed (allow : Bool) : Flow :=
  if allow then flow.flush.close else flow.close

def failedFrames (allow : Bool) (error : BodyError) : List FrameResult :=
  (if allow then flow.flushedFrames else [.error error]) ++ flow.lastFrames

end

def skips (modes : OverridableModes) : Bool :=
  !modes.shouldProcessBody && !modes.shouldProcessTrailers

def headersAnswered (flow : Flow) (modes : OverridableModes) (response : HeadersResponse) : Flow :=
  match response.response with
  | none => { flow with streaming := true }
  | some data =>
    match data.status with
    | .continueAndReplace => if response.panics then flow else flow.close
    | .continue =>
      if skips modes then flow.completed.close else { flow with streaming := true }

def bodyAnswered (flow : Flow) (response : BodyResponse) : Flow :=
  match response.response with
  | none => flow
  | some data =>
    let popped := { flow with inflight := flow.inflight.tail }
    if data.status = .continueAndReplace ∨
        (flow.endOfStream = true ∧ flow.inflight.tail = []) then
      popped.close
    else
      popped

def answeredFrames (flow : Flow) (data : CommonResponse) : List FrameResult :=
  match BodyMutation.replacement data.bodyMutation with
  | some bytes => [.ok (.data bytes)]
  | none => flow.inflight.head?.toList.map .ok

def bodyAnsweredFrames (flow : Flow) (response : BodyResponse) : List FrameResult :=
  match response.response with
  | none => []
  | some data =>
    flow.answeredFrames data ++
    if data.status = .continueAndReplace ∨
        (flow.endOfStream = true ∧ flow.inflight.tail = []) then
      flow.lastFrames
    else
      []

def trailersAnswered (flow : Flow) : Flow :=
  match flow.sentTrailers with
  | some _ => { flow with sentTrailers := none, endOfStream := true }.close
  | none => flow.close

/-! ## Bodies that have ended -/

section

variable {flow : Flow} (closed : flow.isOpen = false)

include closed

theorem outbound_closed (modes : OverridableModes) : (flow.outbound modes).isOpen = false := by
  rw [outbound]
  split
  · rw [read, release_eq]
    exact closed
  · exact closed
  · rw [atEnd]
    split
    · rfl
    · rw [readEnd, isOpen_releaseTrailers, isOpen_release]
      exact closed

theorem headersAnswered_closed (modes : OverridableModes) (response : HeadersResponse) :
    (flow.headersAnswered modes response).isOpen = false := by
  rw [headersAnswered]
  split
  · exact closed
  · split
    · split
      · exact closed
      · rfl
    · split
      · rfl
      · exact closed

theorem bodyAnswered_closed (response : BodyResponse) :
    (flow.bodyAnswered response).isOpen = false := by
  rw [bodyAnswered]
  split
  · exact closed
  · dsimp only
    split
    · rfl
    · exact closed

end

theorem isOpen_failed (flow : Flow) (allow : Bool) : (flow.failed allow).isOpen = false := by
  rw [failed]
  split <;> rfl

theorem isOpen_trailersAnswered (flow : Flow) : flow.trailersAnswered.isOpen = false := by
  rw [trailersAnswered]
  split <;> rfl

section

variable [HttpCrate]

def replacementBody (data : CommonResponse) : List FrameResult :=
  (BodyMutation.replacement data.bodyMutation).toList.map fun bytes => .ok (.data bytes)

def replacementTrailers (data : CommonResponse) : List FrameResult :=
  (data.trailers.bind headerMapOfEnvoy).toList.map fun trailers => .ok (.trailers trailers)

def headersAnsweredFrames (flow : Flow) (modes : OverridableModes)
    (response : HeadersResponse) : List FrameResult :=
  match response.response with
  | none => []
  | some data =>
    match data.status with
    | .continueAndReplace =>
      if response.panics then replacementBody data
      else replacementBody data ++ replacementTrailers data ++ flow.lastFrames
    | .continue => if skips modes then flow.stream ++ flow.lastFrames else []

variable [RegexEngine]

def trailersAnsweredFrames (flow : Flow) (response : TrailersResponse) : List FrameResult :=
  match flow.sentTrailers with
  | some trailers =>
    .ok (.trailers (Processing.mutatedTrailers trailers response.headerMutation)) ::
      flow.lastFrames
  | none => flow.lastFrames

end

end Flow

/-! ## The handlers -/

def Effect.injected : Effect → Option FrameResult
  | .inject frame => some frame
  | _ => none

def Effect.sentFrame : Effect → Option Frame
  | .send request _ => request.frame
  | _ => none

def Action.frame : Action → Option Frame
  | .send request => request.frame
  | .return _ => none

/-- A piece of work leaves this flow, and passes on these frames if the new body is
open; it sends nothing. -/
structure Handles (processing : Processing) (result : Processing × List Effect)
    (flow : Flow) (frames : List FrameResult) : Prop where
  flow : result.1.flow = flow
  version : result.1.httpVersion = processing.httpVersion
  injected : result.2.filterMap injected = processing.flow.inject frames
  sent : result.2.filterMap sentFrame = []

variable (bridge : FrameBridge)

theorem injected_injectFrame (frame : FrameResult) :
    (bridge.injectFrame frame).filterMap injected =
      if bridge.injector then [frame] else [] := by
  rw [FrameBridge.injectFrame]
  split <;> rfl

theorem sent_injectFrame (frame : FrameResult) :
    (bridge.injectFrame frame).filterMap sentFrame = [] := by
  rw [FrameBridge.injectFrame]
  split <;> rfl

theorem injected_injectFrames (frames : List Frame) :
    (frames.flatMap fun frame => bridge.injectFrame (.ok frame)).filterMap injected =
      if bridge.injector then frames.map .ok else [] := by
  induction frames with
  | nil => simp
  | cons frame frames induction =>
    rw [flatMap_cons, filterMap_append, injected_injectFrame, induction]
    split <;> rfl

theorem sent_injectFrames (frames : List Frame) :
    (frames.flatMap fun frame => bridge.injectFrame (.ok frame)).filterMap
      sentFrame = [] := by
  induction frames with
  | nil => rfl
  | cons frame frames induction =>
    rw [flatMap_cons, filterMap_append, sent_injectFrame, induction]
    rfl

/-- Work after which other work is done, while the new body stays open. -/
theorem Handles.append {processing : Processing} {first second : Processing × List Effect}
    {flow : Flow} (one : Handles processing first flow frames)
    (two : Handles first.1 second nextFlow nextFrames)
    (same : flow.isOpen = processing.flow.isOpen) :
    Handles processing (second.1, first.2 ++ second.2) nextFlow (frames ++ nextFrames) where
  flow := two.flow
  version := two.version.trans one.version
  injected := by
    rw [filterMap_append, one.injected, two.injected, one.flow, Flow.inject_append,
      Flow.inject_congr same]
  sent := by rw [filterMap_append, one.sent, two.sent]; rfl

namespace Processing

variable (processing : Processing)

theorem injectFrame_handles (frame : FrameResult) :
    Handles processing (processing, processing.frameBridge.injectFrame frame)
      processing.flow [frame] where
  flow := rfl
  version := rfl
  injected := injected_injectFrame _ _
  sent := sent_injectFrame _ _

theorem frameBridgeClose_handles :
    Handles processing processing.frameBridgeClose processing.flow.close
      processing.flow.lastFrames where
  flow := rfl
  version := rfl
  injected := by
    change filterMap injected (match processing.parkedTrailers with
      | some trailers => processing.frameBridge.injectFrame (.ok (.trailers trailers))
      | none => []) = processing.flow.inject (processing.parkedTrailers.toList.map _)
    cases processing.parkedTrailers with
    | none => simp
    | some trailers => exact injected_injectFrame _ _
  sent := by
    rw [frameBridgeClose]
    cases processing.parkedTrailers with
    | none => rfl
    | some trailers => exact sent_injectFrame _ _

theorem complete_handles :
    Handles processing
      ({ processing with frameBridge := processing.frameBridge.complete.1 },
        processing.frameBridge.complete.2)
      processing.flow.completed processing.flow.stream := by
  have injected : (processing.frameBridge.bodyStream.map inject).filterMap
      injected = processing.flow.stream := by
    simp [Function.comp_def, injected, flow]
  have sent : (processing.frameBridge.bodyStream.map inject).filterMap
      sentFrame = [] := by
    simp [sentFrame]
  have isOpen : processing.flow.isOpen = processing.frameBridge.injector := rfl
  rw [FrameBridge.complete]
  split
  · next opened =>
      refine ⟨?_, rfl, ?_, sent⟩
      · simp [Flow.completed, flow, opened]
      · simpa [Flow.inject, isOpen, opened] using injected
  · next closed =>
      refine ⟨?_, rfl, ?_, rfl⟩
      · simp [Flow.completed, flow, closed]
      · simp [Flow.inject, isOpen, closed]

theorem injectInflight_handles :
    Handles processing processing.injectInflightFramesAndComplete processing.flow.flush
      processing.flow.flushedFrames := by
  have rest := processing.complete_handles
  refine ⟨?_, rfl, ?_, ?_⟩
  · have completed := rest.flow
    rw [Flow.flush, ← completed]
    rfl
  · rw [injectInflightFramesAndComplete, Flow.flushedFrames, Flow.inject_append,
      filterMap_append, rest.injected, injected_injectFrames]
    rfl
  · rw [injectInflightFramesAndComplete, filterMap_append, rest.sent, sent_injectFrames]
    rfl

/-- The body of a task that is taken is read at once, without its headers being
answered. -/
def startsStreaming (observability : Bool) (config : ExternalProcessingWorkerConfig)
    (modes : OverridableModes) (task : ProcessingTask) : Bool :=
  task.headers.isNone || observability ||
    (config.sendBodyWithoutWaitingForHeaderResponse &&
      (modes.shouldProcessBody || modes.shouldProcessTrailers))

theorem process_starts {processing : Processing} (fresh : processing.flow = ({} : Processing).flow)
    (direction : Direction) (observability : Bool) (config : ExternalProcessingWorkerConfig)
    (modes : OverridableModes) (task : ProcessingTask) :
    let started := processing.process direction observability config modes task
    started.1.flow =
        .ofBody task.body (startsStreaming observability config modes task) ∧
      started.1.httpVersion = some task.httpVersion ∧ started.2.frame = none := by
  have idle : processing.streamingBodyEnabled = false := congrArg Flow.streaming fresh
  simp only [flow, Flow.mk.injEq] at fresh
  rcases fresh with ⟨_, _, _, sentTrailers, endOfStream, held, inflight, parked, complete⟩
  rw [process, startsStreaming]
  cases task.headers with
  | none =>
    refine ⟨?_, rfl, rfl⟩
    simp [flow, Flow.ofBody, FrameBridge.ofBody, sentTrailers, endOfStream, held, inflight,
      parked, complete]
  | some fields =>
    refine ⟨?_, rfl, rfl⟩
    simp [flow, Flow.ofBody, FrameBridge.ofBody, sentTrailers, endOfStream, held, inflight,
      parked, complete, idle]

theorem unchanged_handles (streams : Bool) :
    Handles processing ({ processing with streamingBodyEnabled := streams }, [])
      { processing.flow with streaming := streams } [] :=
  ⟨rfl, rfl, by simp, rfl⟩

/-- The frame answered leaves the frames in flight, and what it became is passed on. -/
theorem answer_handles (data : CommonResponse) :
    Handles processing
      ({ processing with inflightFrames := processing.inflightFrames.tail },
        match processing.answeredFrame data with
        | some frame => processing.frameBridge.injectFrame (.ok frame)
        | none => [])
      { processing.flow with inflight := processing.flow.inflight.tail }
      (processing.flow.answeredFrames data) := by
  have inflight : processing.flow.inflight = processing.inflightFrames := rfl
  rw [answeredFrame, Flow.answeredFrames, inflight]
  refine ⟨rfl, rfl, ?_, ?_⟩
  · cases BodyMutation.replacement data.bodyMutation with
    | some bytes => exact injected_injectFrame _ _
    | none =>
      cases processing.inflightFrames.head? with
      | none => simp
      | some frame => exact injected_injectFrame _ _
  · cases BodyMutation.replacement data.bodyMutation with
    | some bytes => exact sent_injectFrame _ _
    | none =>
      cases processing.inflightFrames.head? with
      | none => rfl
      | some frame => exact sent_injectFrame _ _

theorem handleBodyResponse_handles (direction : Direction) (action : Option RouteCacheAction)
    (allow : Bool) (response : BodyResponse) :
    let handled := processing.handleBodyResponse direction action allow response
    Handles processing (handled.processing, handled.effects)
      (processing.flow.bodyAnswered response) (processing.flow.bodyAnsweredFrames response) := by
  rw [handleBodyResponse, Flow.bodyAnswered, Flow.bodyAnsweredFrames]
  cases response.response with
  | none => exact processing.unchanged_handles _
  | some data =>
    have answered := processing.answer_handles data
    have ending : data.status = .continueAndReplace ∨
        (processing.flow.endOfStream ∧ processing.flow.inflight.tail = []) ↔
        data.status = .continueAndReplace ∨ (processing.endOfStream ∧
          processing.inflightFrames.tail = []) := Iff.rfl
    simp only [ending]
    split
    · exact answered.append (frameBridgeClose_handles _) rfl
    · rw [append_nil]
      exact answered

section

variable [HttpCrate]

omit [HttpCrate] in
theorem replaceBody_handles (processing : Processing) (data : CommonResponse) :
    Handles processing (processing, processing.replaceBody data) processing.flow
      (Flow.replacementBody data) := by
  rw [replaceBody, Flow.replacementBody]
  cases BodyMutation.replacement data.bodyMutation with
  | none => exact processing.unchanged_handles _
  | some bytes => exact processing.injectFrame_handles _

theorem replaceTrailers_handles (processing : Processing) (data : CommonResponse) :
    Handles processing (processing, processing.replaceTrailers data) processing.flow
      (Flow.replacementTrailers data) := by
  rw [replaceTrailers, Flow.replacementTrailers]
  cases data.trailers.bind headerMapOfEnvoy with
  | none => exact processing.unchanged_handles _
  | some fields => exact processing.injectFrame_handles _

theorem handleHeadersResponse_handles (processing : Processing) (direction : Direction)
    (modes : OverridableModes) (action : RouteCacheAction) (response : HeadersResponse) :
    let handled := processing.handleHeadersResponse direction modes action response
    Handles processing (handled.processing, handled.effects)
      (processing.flow.headersAnswered modes response)
      (processing.flow.headersAnsweredFrames modes response) := by
  rw [handleHeadersResponse, Flow.headersAnswered, Flow.headersAnsweredFrames]
  cases response.response with
  | none => exact processing.unchanged_handles true
  | some data =>
    dsimp only
    cases data.status with
    | continueAndReplace =>
      cases response.panics with
      | true => exact processing.replaceBody_handles data
      | false =>
        exact ((processing.replaceBody_handles data).append
          (processing.replaceTrailers_handles data) rfl).append
          processing.frameBridgeClose_handles rfl
    | «continue» =>
      rw [Flow.skips]
      by_cases skips : (!modes.shouldProcessBody && !modes.shouldProcessTrailers)
      · rw [if_pos skips, if_pos skips, if_pos skips]
        have closed := frameBridgeClose_handles
          { processing with frameBridge := processing.frameBridge.complete.1 }
        rw [processing.complete_handles.flow] at closed
        exact processing.complete_handles.append closed rfl
      · rw [if_neg skips, if_neg skips, if_neg skips]
        exact processing.unchanged_handles true

variable [RegexEngine]

theorem handleTrailersResponse_handles (processing : Processing) (direction : Direction)
    (allow : Bool) (response : TrailersResponse) :
    let handled := processing.handleTrailersResponse direction allow response
    Handles processing (handled.processing, handled.effects)
      processing.flow.trailersAnswered
      (processing.flow.trailersAnsweredFrames response) := by
  cases sent : processing.trailers with
  | none =>
    have sentFlow : processing.flow.sentTrailers = none := sent
    rw [handleTrailersResponse, Flow.trailersAnswered, Flow.trailersAnsweredFrames, sent, sentFlow]
    exact processing.frameBridgeClose_handles
  | some trailers =>
    have sentFlow : processing.flow.sentTrailers = some trailers := sent
    have injected : Handles processing ({ processing with trailers := none, endOfStream := true },
          processing.frameBridge.injectFrame
            (.ok (.trailers (mutatedTrailers trailers response.headerMutation))))
        { processing.flow with sentTrailers := none, endOfStream := true }
        [.ok (.trailers (mutatedTrailers trailers response.headerMutation))] :=
      ⟨rfl, rfl, injected_injectFrame _ _, sent_injectFrame _ _⟩
    rw [handleTrailersResponse, Flow.trailersAnswered, Flow.trailersAnsweredFrames, sent, sentFlow]
    exact injected.append (frameBridgeClose_handles _) rfl

end

end Processing

end Orion.ExtProc
