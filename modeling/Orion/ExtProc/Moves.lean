import Orion.ExtProc.FrameSafety
import Orion.ExtProc.Worker

/-! # What the worker does to the frames of one direction

Each piece of the worker's loop is described, for either direction, by what it
leaves of the flow of frames, what it injects and what it sends. The descriptions
compose, so that a whole step is described by its parts.
-/

namespace Orion.ExtProc

open Foundation Http Orion.Configuration Orion.ExtProc.Flow List Option

section

variable (direction : Direction)

def emittedTo (emissions : List Emission) : List Effect :=
  emissions.filterMap fun emission =>
    if emission.1 = direction then some emission.2 else none

def injectedTo (emissions : List Emission) : List FrameResult :=
  (emittedTo direction emissions).filterMap Effect.injected

def sentTo (emissions : List Emission) : List Frame :=
  (emittedTo direction emissions).filterMap Effect.sentFrame

theorem emittedTo_append (first second : List Emission) :
    emittedTo direction (first ++ second) =
      emittedTo direction first ++ emittedTo direction second :=
  filterMap_append

theorem injectedTo_append (first second : List Emission) :
    injectedTo direction (first ++ second) =
      injectedTo direction first ++ injectedTo direction second := by
  rw [injectedTo, emittedTo_append, filterMap_append]
  rfl

theorem sentTo_append (first second : List Emission) :
    sentTo direction (first ++ second) = sentTo direction first ++ sentTo direction second := by
  rw [sentTo, emittedTo_append, filterMap_append]
  rfl

theorem emittedTo_tagged_self (effects : List Effect) :
    emittedTo direction (effects.map (direction, ·)) = effects := by
  simp [emittedTo]

end

variable {direction : Direction}

theorem emittedTo_tagged_of_ne (different : other ≠ direction) (effects : List Effect) :
    emittedTo direction (effects.map (other, ·)) = [] := by
  simp [emittedTo, different]

namespace Worker

@[simp] theorem get_set_self (worker : Worker) (direction : Direction)
    (processing : Processing) : (worker.set direction processing).get direction = processing := by
  cases direction <;> rfl

@[simp] theorem get_set_of_ne (different : other ≠ direction) (worker : Worker)
    (processing : Processing) : (worker.set direction processing).get other = worker.get other := by
  cases direction <;> cases other <;> first | rfl | exact (different rfl).elim

end Worker

/-! ## Descriptions -/

/-- In one direction, the work leaves this flow, injects these frames and sends
those. -/
structure Moves (direction : Direction) (worker : Worker) (progress : Progress)
    (flow : Flow) (injected : List FrameResult) (sent : List Frame) : Prop where
  flow : (progress.1.get direction).flow = flow
  given : progress.1.given direction = worker.given direction
  injected : injectedTo direction progress.2 = injected
  sent : sentTo direction progress.2 = sent

abbrev Rests (direction : Direction) (worker : Worker) (progress : Progress) : Prop :=
  Moves direction worker progress (worker.get direction).flow [] []

variable {worker : Worker} {progress : Progress} {flow : Flow} {injected : List FrameResult}
  {sent : List Frame}

theorem Moves.andThen (first : Moves direction worker progress flow injected sent)
    (next : Worker → Progress)
    (second : Moves direction progress.1 (next progress.1) nextFlow nextInjected nextSent) :
    Moves direction worker (progress.andThen next) nextFlow (injected ++ nextInjected)
      (sent ++ nextSent) where
  flow := second.flow
  given := second.given.trans first.given
  injected := by
    rw [Progress.andThen, injectedTo_append, first.injected, second.injected]
  sent := by
    rw [Progress.andThen, sentTo_append, first.sent, second.sent]

/-- Work after which nothing is done to the direction. -/
theorem Moves.andRests {next : Worker → Progress}
    (first : Moves direction worker progress flow injected sent)
    (second : Rests direction progress.1 (next progress.1)) :
    Moves direction worker (progress.andThen next) flow injected sent := by
  have both := first.andThen next second
  rw [first.flow, append_nil, append_nil] at both
  exact both

/-- Work before which nothing is done to the direction. -/
theorem Rests.andThen {next : Worker → Progress} (first : Rests direction worker progress)
    (second : Moves direction progress.1 (next progress.1) flow injected sent) :
    Moves direction worker (progress.andThen next) flow injected sent := by
  simpa using Moves.andThen first next second

theorem Moves.startingAt (moves : Moves direction before progress flow injected sent)
    (same : before.given direction = worker.given direction) :
    Moves direction worker progress flow injected sent :=
  { moves with given := moves.given.trans same }

theorem Rests.startingAt (rests : Rests direction before progress)
    (same : before.get direction = worker.get direction) : Rests direction worker progress := by
  rw [Rests, ← same]
  apply Moves.startingAt rests
  rw [Worker.given, Worker.given, same]

theorem rests_of_get {next : Worker} (same : next.get direction = worker.get direction) :
    Rests direction worker (next, []) where
  flow := by rw [same]
  given := by rw [Worker.given, Worker.given, same]
  injected := rfl
  sent := rfl

namespace Worker

/-- What the worker keeps while it works for a direction. -/
def shared (worker : Worker) :
    ExternalProcessingWorkerConfig × OverridableGlobalModes × Bool × Bool × Duration :=
  (worker.config, worker.overridableModes, worker.running, worker.timeoutExtended,
    worker.timeoutDuration)

theorem shared_set (worker : Worker) (direction : Direction) (processing : Processing) :
    (worker.set direction processing).shared = worker.shared := by
  cases direction <;> rfl

end Worker

/-- Work for one direction: the other one rests, and what they share stays. -/
structure Works (direction : Direction) (worker : Worker) (progress : Progress)
    (flow : Flow) (injected : List FrameResult) (sent : List Frame) : Prop
    extends Moves direction worker progress flow injected sent where
  others : ∀ other, direction ≠ other → Rests other worker progress
  shared : progress.1.shared = worker.shared

theorem Works.modes (works : Works direction worker progress flow injected sent)
    (channel : Direction) : progress.1.modes channel = worker.modes channel :=
  congrArg (fun shared => shared.2.1.get channel) works.shared

theorem Works.running (works : Works direction worker progress flow injected sent) :
    progress.1.running = worker.running :=
  congrArg (·.2.2.1) works.shared

theorem Works.andThen (first : Works direction worker progress flow injected sent)
    (next : Worker → Progress)
    (second : Works direction progress.1 (next progress.1) nextFlow nextInjected nextSent) :
    Works direction worker (progress.andThen next) nextFlow (injected ++ nextInjected)
      (sent ++ nextSent) where
  toMoves := first.toMoves.andThen next second.toMoves
  others other different := (first.others other different).andRests (second.others other different)
  shared := second.shared.trans first.shared

theorem Works.andRests {next : Worker → Progress}
    (first : Works direction worker progress flow injected sent)
    (second : Works direction progress.1 (next progress.1) (progress.1.get direction).flow [] []) :
    Works direction worker (progress.andThen next) flow injected sent where
  toMoves := first.toMoves.andRests second.toMoves
  others other different := (first.others other different).andRests (second.others other different)
  shared := second.shared.trans first.shared

theorem Works.startingAt (works : Works direction before progress flow injected sent)
    (given : before.given direction = worker.given direction)
    (others : ∀ other, direction ≠ other → before.get other = worker.get other)
    (shared : before.shared = worker.shared) :
    Works direction worker progress flow injected sent where
  toMoves := works.toMoves.startingAt given
  others other different := (works.others other different).startingAt (others other different)
  shared := works.shared.trans shared

theorem works_of_get {next : Worker} (same : ∀ direction, next.get direction = worker.get direction)
    (shared : next.shared = worker.shared) :
    Works direction worker (next, []) (worker.get direction).flow [] [] where
  toMoves := rests_of_get (same direction)
  others other _ := rests_of_get (same other)
  shared := shared

namespace Worker

variable (worker : Worker) (direction : Direction)

theorem given_set (processing : Processing)
    (version : processing.httpVersion = (worker.get direction).httpVersion) :
    (worker.set direction processing).given direction = worker.given direction := by
  rw [given, given, get_set_self, version]

theorem works_of_set {worker direction} {progress : Progress} {processing : Processing}
    (works : Works direction (worker.set direction processing) progress flow injected sent)
    (version : processing.httpVersion = (worker.get direction).httpVersion) :
    Works direction worker progress flow injected sent :=
  works.startingAt (worker.given_set direction processing version)
    (fun _ different => get_set_of_ne (Ne.symm different) worker processing)
    (worker.shared_set direction processing)

theorem get_timer (active : Bool) (direction : Direction) :
    { worker with timeoutActive := active }.get direction = worker.get direction := by
  cases direction <;> rfl

theorem works_of_timer {worker direction}
    (works : Works direction { worker with timeoutActive := active } progress flow injected sent) :
    Works direction worker progress flow injected sent :=
  works.startingAt (by cases direction <;> rfl) (fun other _ => worker.get_timer active other) rfl

theorem put_rests {direction} (different : other ≠ direction) (worker : Worker)
    (result : Processing × List Effect) :
    Rests direction worker (worker.put other result) where
  flow := by rw [put, get_set_of_ne (Ne.symm different)]
  given := by rw [put, given, given, get_set_of_ne (Ne.symm different)]
  injected := by rw [put, injectedTo, emittedTo_tagged_of_ne different]; rfl
  sent := by rw [put, sentTo, emittedTo_tagged_of_ne different]; rfl

theorem put_works (result : Processing × List Effect)
    (version : result.1.httpVersion = (worker.get direction).httpVersion) :
    Works direction worker (worker.put direction result) result.1.flow
      (result.2.filterMap Effect.injected) (result.2.filterMap Effect.sentFrame) where
  flow := by rw [put, get_set_self]
  given := worker.given_set direction result.1 version
  injected := by rw [put, injectedTo, emittedTo_tagged_self]
  sent := by rw [put, sentTo, emittedTo_tagged_self]
  others _ different := put_rests different worker result
  shared := worker.shared_set direction result.1

theorem set_works (processing : Processing)
    (version : processing.httpVersion = (worker.get direction).httpVersion) :
    Works direction worker (worker.set direction processing, []) processing.flow [] [] :=
  worker.put_works direction (processing, []) version

theorem stop_rests :
    Rests direction worker (worker.stop, []) :=
  rests_of_get (by cases direction <;> rfl)

theorem reply_works (status : ProcessingStatus) :
    Works direction worker (worker.reply direction status) (worker.get direction).flow [] [] := by
  rw [reply]
  split
  · exact worker.put_works direction
      ({ worker.get direction with replyChannel := false }, [.reply status]) rfl
  · exact works_of_get (fun _ => rfl) rfl

theorem reply_rests (other : Direction)
    (status : ProcessingStatus) : Rests direction worker (worker.reply other status) := by
  by_cases same : other = direction
  · cases same
    exact (worker.reply_works direction status).toMoves
  · exact (worker.reply_works other status).others direction same

theorem replyBoth_rests (message : Text) :
    Rests direction worker (worker.replyBoth message) := by
  rw [replyBoth]
  apply (worker.reply_rests direction .response _).andRests
  exact reply_rests _ direction .request _

theorem shared_replyBoth (message : Text) :
    (worker.replyBoth message).1.shared = worker.shared :=
  (reply_works _ .request _).shared.trans (reply_works _ .response _).shared

/-! ## Sending -/

theorem forward_works
    (request : ProcessingRequest) (accepted : Bool) :
    Works direction worker (worker.forwardToExternalProcessor direction request accepted)
      (worker.get direction).flow [] request.frame.toList := by
  have handed : ∀ (bidiStream timeoutActive accepted : Bool), Works direction worker
      ({ worker with bidiStream, timeoutActive }, [(direction, .send request accepted)])
      (worker.get direction).flow [] request.frame.toList := by
    intro _ _ accepted
    refine ⟨⟨by cases direction <;> rfl, by cases direction <;> rfl, ?_, ?_⟩, ?_, rfl⟩
    · simp [injectedTo, emittedTo, Effect.injected]
    · cases request <;> simp [sentTo, emittedTo, Effect.sentFrame, ProcessingRequest.frame]
    · intro other different
      refine ⟨by cases other <;> rfl, by cases other <;> rfl, ?_, ?_⟩
      · simp [injectedTo, emittedTo, different]
      · simp [sentTo, emittedTo, different]
  rw [forwardToExternalProcessor]
  split
  · exact handed _ _ true
  · apply (handed worker.bidiStream false false).andRests
    exact ⟨replyBoth_rests _ direction _, fun other _ => replyBoth_rests _ other _,
      shared_replyBoth _ _⟩

theorem andThen_set_works {worker direction} {progress : Progress}
    (first : Works direction worker progress flow injected sent)
    (update : Processing → Processing) (flowUpdate : Flow → Flow)
    (version : ∀ processing, (update processing).httpVersion = processing.httpVersion)
    (updated : ∀ processing, (update processing).flow = flowUpdate processing.flow) :
    Works direction worker
      (progress.andThen fun worker => (worker.set direction (update (worker.get direction)), []))
      (flowUpdate flow) injected sent := by
  have second := progress.1.set_works direction (update (progress.1.get direction)) (version _)
  rw [updated, first.flow] at second
  simpa using first.andThen
    (fun worker => (worker.set direction (update (worker.get direction)), [])) second

theorem sendFrame_works (frame : Frame)
    (endOfStream accepted : Bool) :
    Works direction worker (worker.sendFrame direction frame endOfStream accepted)
      ((worker.get direction).flow.sending frame) [] [frame] := by
  let recorded := ((worker.get direction).handleOutgoingBodyChunk frame endOfStream).1
  have forwarded := forward_works (worker.set direction recorded) direction
    ((worker.get direction).handleOutgoingBodyChunk frame endOfStream).2 accepted
  have kept := andThen_set_works forwarded (fun processing => { processing with
      inflightFrames := processing.inflightFrames ++ [frame] })
    (fun flow => { flow with inflight := flow.inflight ++ [frame] })
    (fun _ => rfl) (fun _ => rfl)
  have version : recorded.httpVersion = (worker.get direction).httpVersion := by
    cases frame <;> rfl
  have works := works_of_set kept version
  rw [get_set_self] at works
  cases frame <;> exact works

/-! ## Frames of the original bodies -/

theorem put_handled_works
    (handles : Handles (worker.get direction) result flow frames) :
    Works direction worker (worker.put direction result) flow
      ((worker.get direction).flow.inject frames) [] := by
  have moves := worker.put_works direction result handles.version
  rw [handles.flow, handles.injected, handles.sent] at moves
  exact moves

theorem modes_set (other : Direction) (processing : Processing) :
    (worker.set direction processing).modes other = worker.modes other := by
  cases direction <;> rfl

theorem park_snd (buffer : HeldFrames) (frame : Frame) :
    (buffer.park frame).2 = buffer.dataBuffer := by
  cases frame with
  | data bytes =>
    rw [HeldFrames.park]
    split <;> rfl
  | trailers trailers => rfl

theorem passOn_works (bytes : Bytes) (sends endOfStream accepted : Bool) :
    Works direction worker
      (if sends then worker.sendFrame direction (.data bytes) endOfStream accepted
        else worker.put direction (worker.get direction,
          (worker.get direction).frameBridge.injectFrame (.ok (.data bytes))))
      (if sends then (worker.get direction).flow.sending (.data bytes)
        else (worker.get direction).flow)
      ((worker.get direction).flow.inject (if sends then [] else [.ok (.data bytes)]))
      (if sends then [.data bytes] else []) := by
  cases sends with
  | true =>
    have nothing : (worker.get direction).flow.inject [] = [] := by
      rw [inject, ite_self]
    simpa using worker.sendFrame_works direction (.data bytes) endOfStream accepted
  | false =>
    exact worker.put_handled_works direction
      ((worker.get direction).injectFrame_handles (.ok (.data bytes)))

theorem set_passOn_works (processing : Processing)
    (version : processing.httpVersion = (worker.get direction).httpVersion) (bytes : Bytes)
    (sends endOfStream accepted : Bool) :
    Works direction worker
      (if sends then
          (worker.set direction processing).sendFrame direction (.data bytes) endOfStream accepted
        else (worker.set direction processing).put direction (processing,
          processing.frameBridge.injectFrame (.ok (.data bytes))))
      (if sends then processing.flow.sending (.data bytes) else processing.flow)
      (processing.flow.inject (if sends then [] else [.ok (.data bytes)]))
      (if sends then [.data bytes] else []) := by
  have works := works_of_set ((worker.set direction processing).passOn_works direction bytes
    sends endOfStream accepted) version
  rw [get_set_self] at works
  exact works

theorem outboundFrame_works (frame : Frame) (rest : List FrameResult) (accepted : Bool) :
    Works direction worker (worker.outboundFrame direction frame rest accepted)
      ((worker.get direction).flow.read (worker.modes direction).shouldProcessBody frame rest)
      ((worker.get direction).flow.inject
        ((worker.get direction).flow.releasedFrames (worker.modes direction).shouldProcessBody))
      ((worker.get direction).flow.releasedToProcessor
        (worker.modes direction).shouldProcessBody) := by
  let processing := worker.get direction
  let parked : Processing := { processing with
    frameBridge := { processing.frameBridge with bodyStream := rest }
    framesBuffer := (processing.framesBuffer.park frame).1 }
  cases held : processing.framesBuffer.dataBuffer with
  | none =>
    have same : worker.outboundFrame direction frame rest accepted =
        (worker.set direction parked, []) := by
      simp only [outboundFrame, park_snd]
      rw [held]
    have heldFlow : (worker.get direction).flow.held.dataBuffer = none := held
    have works := worker.set_works direction parked rfl
    rw [same]
    simp only [Flow.read, Flow.release, releasedFrames, releasedToProcessor, heldFlow]
    simp only [inject, toList_none, map_nil, ite_self]
    exact works
  | some bytes =>
    have same : worker.outboundFrame direction frame rest accepted =
        if (worker.modes direction).shouldProcessBody then
          (worker.set direction parked).sendFrame direction (.data bytes) false accepted
        else (worker.set direction parked).put direction (parked,
          parked.frameBridge.injectFrame (.ok (.data bytes))) := by
      simp only [outboundFrame, park_snd]
      rw [held]
      rw [modes_set, get_set_self, OverridableModes.shouldProcessBody]
      cases (worker.modes direction).bodyMode <;> rfl
    have heldFlow : (worker.get direction).flow.held.dataBuffer = some bytes := held
    have moves := worker.set_passOn_works direction parked rfl bytes
      (worker.modes direction).shouldProcessBody false accepted
    rw [same]
    simp only [Flow.read, Flow.release, Flow.releasedFrames, Flow.releasedToProcessor, heldFlow]
    cases sends : (worker.modes direction).shouldProcessBody <;> rw [sends] at moves <;>
      exact moves

theorem flushData_works (accepted : Bool) :
    Works direction worker (worker.flushData direction accepted)
      ((worker.get direction).flow.release (worker.modes direction).shouldProcessBody)
      ((worker.get direction).flow.inject
        ((worker.get direction).flow.releasedFrames (worker.modes direction).shouldProcessBody))
      ((worker.get direction).flow.releasedToProcessor
        (worker.modes direction).shouldProcessBody) := by
  rw [flushData]
  cases held : (worker.get direction).framesBuffer.dataBuffer with
  | none =>
    have heldFlow : (worker.get direction).flow.held.dataBuffer = none := held
    simp only [release, releasedFrames, releasedToProcessor, heldFlow]
    simpa using works_of_get (fun _ => rfl) rfl
  | some bytes =>
    have heldFlow : (worker.get direction).flow.held.dataBuffer = some bytes := held
    have moves := worker.set_passOn_works direction { worker.get direction with
        framesBuffer := { (worker.get direction).framesBuffer with dataBuffer := none } }
      rfl bytes (worker.modes direction).shouldProcessBody
      (worker.get direction).framesBuffer.trailersBuffer.isNone accepted
    simp only [release, releasedFrames, releasedToProcessor, heldFlow, get_set_self, modes_set]
    cases sends : (worker.modes direction).shouldProcessBody <;> rw [sends] at moves <;>
      exact moves

theorem flushTrailers_works (accepted : Bool) :
    Works direction worker (worker.flushTrailers direction accepted)
      ((worker.get direction).flow.releaseTrailers
        (worker.modes direction).shouldProcessTrailers) []
      ((worker.get direction).flow.releasedTrailersToProcessor
        (worker.modes direction).shouldProcessTrailers) := by
  rw [flushTrailers]
  cases held : (worker.get direction).framesBuffer.trailersBuffer with
  | none =>
    have heldFlow : (worker.get direction).flow.held.trailersBuffer = none := held
    simp only [releaseTrailers, releasedTrailersToProcessor, heldFlow]
    simpa using works_of_get (fun _ => rfl) rfl
  | some trailers =>
    have heldFlow : (worker.get direction).flow.held.trailersBuffer = some trailers := held
    simp only [releaseTrailers, releasedTrailersToProcessor, heldFlow]
    cases (worker.modes direction).shouldProcessTrailers with
    | true =>
      let started := worker.set direction { worker.get direction with
        framesBuffer := { (worker.get direction).framesBuffer with trailersBuffer := none } }
      have works := works_of_set (started.sendFrame_works direction (.trailers trailers) true
        accepted) rfl
      rw [get_set_self] at works
      exact works
    | false => exact worker.set_works direction _ rfl

theorem closeBridge_works :
    Works direction worker (worker.closeBridge direction)
      (worker.get direction).flow.close
      ((worker.get direction).flow.inject (worker.get direction).flow.lastFrames) [] := by
  have handles := (worker.get direction).frameBridgeClose_handles
  have same := worker.get_timer false
  have works := put_handled_works { worker with timeoutActive := false } direction
    ((same direction).symm ▸ handles)
  exact works_of_timer works

theorem reachEndOfStream_works :
    Works direction worker (worker.reachEndOfStream direction)
      (worker.get direction).flow.atEnd
      ((worker.get direction).flow.inject (worker.get direction).flow.atEndFrames) [] := by
  have record := worker.get_set_self direction
    { worker.get direction with endOfStream := true }
  have close := (closeBridge_works
    (worker.set direction { worker.get direction with endOfStream := true }) direction)
  have inflight : (worker.get direction).flow.inflight =
      (worker.get direction).inflightFrames := rfl
  rw [reachEndOfStream, atEnd, atEndFrames, inflight]
  rw [record] at close ⊢
  split
  · exact works_of_set close rfl
  · rw [inject_nil]
    exact worker.set_works direction _ rfl

theorem outboundEnd_works (accepted : Bool) :
    Works direction worker (worker.outboundEnd direction accepted)
      ((worker.get direction).flow.readEnd (worker.modes direction).shouldProcessBody
        (worker.modes direction).shouldProcessTrailers).atEnd
      ((worker.get direction).flow.inject ((worker.get direction).flow.releasedFrames
            (worker.modes direction).shouldProcessBody ++
          ((worker.get direction).flow.readEnd (worker.modes direction).shouldProcessBody
            (worker.modes direction).shouldProcessTrailers).atEndFrames))
      ((worker.get direction).flow.releasedToProcessor (worker.modes direction).shouldProcessBody ++
        (worker.get direction).flow.releasedTrailersToProcessor
          (worker.modes direction).shouldProcessTrailers) := by
  let started := worker.set direction { worker.get direction with
    bodyToExtProcComplete := true }
  have startedFlow : (started.get direction).flow =
      { (worker.get direction).flow with complete := true } := by
    rw [get_set_self]
    rfl
  have first := started.flushData_works direction accepted
  have second := (started.flushData direction accepted).1.flushTrailers_works direction accepted
  have third := ((started.flushData direction accepted).1.flushTrailers direction
    accepted).1.reachEndOfStream_works direction
  have modes : (started.flushData direction accepted).1.modes direction =
      worker.modes direction := by
    rw [first.modes, modes_set]
  have startedModes : started.modes direction = worker.modes direction :=
    worker.modes_set direction direction _
  rw [modes, first.flow] at second
  rw [second.flow] at third
  rw [startedModes, startedFlow] at first second third
  have all := works_of_set (first.andThen
    (fun worker => Progress.andThen (worker.flushTrailers direction accepted) fun worker =>
      worker.reachEndOfStream direction)
    (second.andThen (fun worker => worker.reachEndOfStream direction) third)) rfl
  let before := { (worker.get direction).flow with complete := true }
  have isOpen : ((before.release (worker.modes direction).shouldProcessBody).releaseTrailers
      (worker.modes direction).shouldProcessTrailers).isOpen =
        (worker.get direction).flow.isOpen := by
    rw [isOpen_releaseTrailers, isOpen_release]
  have trailers : (before.release
      (worker.modes direction).shouldProcessBody).releasedTrailersToProcessor
        (worker.modes direction).shouldProcessTrailers =
      (worker.get direction).flow.releasedTrailersToProcessor
        (worker.modes direction).shouldProcessTrailers := by
    rw [releasedTrailersToProcessor, trailersBuffer_release]
    rfl
  rw [inject_append, ← trailers]
  rw [inject_congr isOpen, nil_append, append_nil] at all
  exact all

theorem outbound_works (accepted : Bool) :
    Works direction worker (worker.outbound direction accepted)
      ((worker.get direction).flow.outbound (worker.modes direction))
      ((worker.get direction).flow.inject
        ((worker.get direction).flow.outboundFrames (worker.modes direction)))
      ((worker.get direction).flow.outboundToProcessor (worker.modes direction)) := by
  rw [outbound, Flow.outbound, Flow.outboundFrames, Flow.outboundToProcessor]
  cases stream : (worker.get direction).frameBridge.bodyStream with
  | nil =>
    have streamFlow : (worker.get direction).flow.stream = [] := stream
    rw [streamFlow]
    exact worker.outboundEnd_works direction accepted
  | cons next rest =>
    have streamFlow : (worker.get direction).flow.stream = next :: rest := stream
    rw [streamFlow]
    cases next with
    | ok frame => exact worker.outboundFrame_works direction frame rest accepted
    | error error =>
      rw [inject_nil]
      exact worker.set_works direction _ rfl

end Worker

end Orion.ExtProc
