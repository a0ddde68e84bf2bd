import Orion.ExtProc.Reactions

/-! # Observing without waiting for answers

In observability mode the worker passes every frame on and sends copies of the
frames that are processed. No answer of the processor is read, and no timeout runs.
-/

namespace Orion.ExtProc

open Foundation Http List Option Progress Orion.ExtProc.Flow

namespace Worker

def shouldProcess (worker : Worker) (direction : Direction) : Frame → Bool
  | .data _ => (worker.modes direction).shouldProcessBody
  | .trailers _ => (worker.modes direction).shouldProcessTrailers

def observeFrame (worker : Worker) (direction : Direction) (frame : Frame)
    (endOfStream accepted : Bool) : Progress :=
  andThen (worker.put direction (worker.get direction,
    (worker.get direction).frameBridge.injectFrame (.ok frame))) fun worker =>
      if worker.shouldProcess direction frame then
        let (processing, request) :=
          (worker.get direction).handleOutgoingBodyChunk frame endOfStream
        (worker.set direction processing).forwardToExternalProcessor direction request
          accepted
      else
        (worker, [])

/-- The frames held back at the end; the last one is sent as such. -/
def observeFrames (worker : Worker) (direction : Direction) (accepted : Bool) :
    List Frame → Progress
  | [] => (worker, [])
  | frame :: rest =>
    andThen (worker.observeFrame direction frame rest.isEmpty accepted)
      fun worker => worker.observeFrames direction accepted rest

def observeNext (worker : Worker) (direction : Direction) (frame : Frame)
    (rest : List FrameResult) (accepted : Bool) : Progress :=
  let processing := worker.get direction
  let (buffer, previous) := processing.framesBuffer.park frame
  let worker := worker.set direction { processing with
    frameBridge := { processing.frameBridge with bodyStream := rest }
    framesBuffer := buffer }
  match previous with
  | none => (worker, [])
  | some bytes => worker.observeFrame direction (.data bytes) false accepted

/-- Only now the filter gets its reply. -/
def observeEnd (worker : Worker) (direction : Direction) (accepted : Bool) : Progress :=
  let processing := worker.get direction
  let worker := worker.set direction { processing with
    bodyToExtProcComplete := true
    framesBuffer := {} }
  andThen
    (worker.observeFrames direction accepted processing.framesBuffer.frames) fun worker =>
  andThen (worker.reply direction (direction.ready {})) fun worker =>
    (worker.set direction { worker.get direction with endOfStream := true }, [])

def observe (worker : Worker) (direction : Direction) (accepted : Bool) : Progress :=
  let processing := worker.get direction
  match processing.frameBridge.bodyStream with
  | .ok frame :: rest => worker.observeNext direction frame rest accepted
  | .error _ :: rest =>
    (worker.set direction { processing with
      frameBridge := { processing.frameBridge with bodyStream := rest }
      bodyToExtProcComplete := true }, [])
  | [] => worker.observeEnd direction accepted

def leaveIfIdle (worker : Worker) : Progress :=
  if worker.streamingEnabled && !worker.outboundEnabled .request &&
      !worker.outboundEnabled .response then
    (worker.stop, [])
  else
    (worker, [])

def observabilityStep (worker : Worker) (event : Event) : Option Progress :=
  if !worker.running then
    none
  else
    match event with
    | .task direction task accepted =>
      if !worker.streamingEnabled && worker.expects direction then
        some (andThen (worker.takeTask direction true task accepted) leaveIfIdle)
      else
        none
    | .tasksClosed => if worker.streamingEnabled then none else some (worker.stop, [])
    | .outbound direction accepted =>
      if worker.outboundEnabled direction then
        some (andThen (worker.observe direction accepted) leaveIfIdle)
      else
        none
    | .inbound _ | .timeout => none

def observabilityLoop : Machine Worker Event Emission where
  step := observabilityStep

/-! ## What is passed on -/

structure Passes (direction : Direction) (worker : Worker) (progress : Progress)
    (frames : List FrameResult) : Prop where
  isOpen : (progress.1.get direction).flow.isOpen = (worker.get direction).flow.isOpen
  injected : injectedTo direction progress.2 = (worker.get direction).flow.inject frames

variable {direction : Direction} {worker : Worker} {frames : List FrameResult}

theorem Passes.of_moves
    (moves : Moves direction worker progress flow ((worker.get direction).flow.inject frames) sent)
    (same : flow.isOpen = (worker.get direction).flow.isOpen) :
    Passes direction worker progress frames where
  isOpen := by rw [moves.flow, same]
  injected := moves.injected

theorem Passes.of_rests
    (rests : Rests direction worker progress) : Passes direction worker progress [] where
  isOpen := by rw [rests.flow]
  injected := by rw [rests.injected, inject_nil]

theorem Passes.andThen {next} (first : Passes direction worker progress frames)
    (second : Passes direction progress.1 (next progress.1) nextFrames) :
    Passes direction worker (progress.andThen next) (frames ++ nextFrames) where
  isOpen := second.isOpen.trans first.isOpen
  injected := by
    rw [Progress.andThen, injectedTo_append, first.injected, second.injected,
      inject_append, inject_congr first.isOpen]

theorem Passes.andNothing {next} (first : Passes direction worker progress frames)
    (second : Passes direction progress.1 (next progress.1) []) :
    Passes direction worker (progress.andThen next) frames := by
  have both := first.andThen second
  rw [append_nil] at both
  exact both

theorem Passes.startingAt (passes : Passes direction before progress frames)
    (same : (before.get direction).flow.isOpen = (worker.get direction).flow.isOpen) :
    Passes direction worker progress frames where
  isOpen := passes.isOpen.trans same
  injected := by rw [passes.injected, inject_congr same]

section

variable (worker : Worker)

theorem forward_passes (direction : Direction) (request : ProcessingRequest) (accepted : Bool) :
    Passes direction worker
      (worker.forwardToExternalProcessor direction request accepted) [] := by
  have moves := worker.forward_works direction request accepted
  exact ⟨by rw [moves.flow], by rw [moves.injected, inject_nil]⟩

theorem observeFrame_passes (direction : Direction) (frame : Frame) (endOfStream accepted : Bool) :
    Passes direction worker (worker.observeFrame direction frame endOfStream accepted)
      [.ok frame] := by
  have injected := Passes.of_moves (worker.put_handled_works direction
    ((worker.get direction).injectFrame_handles (.ok frame))).toMoves rfl
  apply injected.andThen
  split
  · cases frame with
    | data bytes =>
      apply (forward_passes _ direction _ accepted).startingAt
      rw [get_set_self]
    | trailers trailers =>
      apply (forward_passes _ direction _ accepted).startingAt
      rw [get_set_self]
      rfl
  · exact .of_rests (rests_of_get rfl)

theorem observeFrames_passes (direction : Direction) (accepted : Bool) (frames : List Frame) :
    Passes direction worker (worker.observeFrames direction accepted frames)
      (frames.map .ok) := by
  induction frames generalizing worker with
  | nil => exact .of_rests (rests_of_get rfl)
  | cons frame frames induction =>
    exact (worker.observeFrame_passes direction frame _ accepted).andThen (induction _)

theorem reply_passes (direction other : Direction) (status : ProcessingStatus) :
    Passes direction worker (worker.reply other status) [] :=
  .of_rests (worker.reply_rests direction other status)

def observedOn (direction : Direction) : Event → List FrameResult
  | .outbound other _ =>
    if other = direction then
      match (worker.get direction).flow.stream with
      | .ok _ :: _ => (worker.get direction).flow.releasedFrames false
      | .error _ :: _ => []
      | [] => (worker.get direction).flow.held.frames.map .ok
    else
      []
  | _ => []

theorem observeNext_passes (direction : Direction) (frame : Frame)
    (rest : List FrameResult) (accepted : Bool) :
    Passes direction worker (worker.observeNext direction frame rest accepted)
      ((worker.get direction).flow.releasedFrames false) := by
  let processing := worker.get direction
  let started := worker.set direction { processing with
    frameBridge := { processing.frameBridge with bodyStream := rest }
    framesBuffer := (processing.framesBuffer.park frame).1 }
  have same : (started.get direction).flow.isOpen = (worker.get direction).flow.isOpen := by
    rw [get_set_self]
    rfl
  rw [observeNext]
  simp only [park_snd]
  cases held : (worker.get direction).framesBuffer.dataBuffer with
  | none =>
    have nothing : (worker.get direction).flow.releasedFrames false = [] := by
      have heldFlow : (worker.get direction).flow.held.dataBuffer = none := held
      simp [releasedFrames, heldFlow]
    rw [nothing]
    exact ⟨same, by rw [inject_nil]; rfl⟩
  | some bytes =>
    have released : (worker.get direction).flow.releasedFrames false = [.ok (.data bytes)] := by
      have heldFlow : (worker.get direction).flow.held.dataBuffer = some bytes := held
      simp [releasedFrames, heldFlow]
    rw [released]
    exact (started.observeFrame_passes direction (.data bytes) false accepted).startingAt same

theorem observeEnd_passes (direction : Direction) (accepted : Bool) :
    Passes direction worker (worker.observeEnd direction accepted)
      ((worker.get direction).flow.held.frames.map .ok) := by
  let started := worker.set direction { worker.get direction with
    bodyToExtProcComplete := true
    framesBuffer := {} }
  have same : (started.get direction).flow.isOpen = (worker.get direction).flow.isOpen := by
    rw [get_set_self]
    rfl
  have observed := (started.observeFrames_passes direction accepted
    (worker.get direction).flow.held.frames).startingAt same
  rw [observeEnd]
  apply observed.andNothing
  apply (reply_passes _ direction direction _).andNothing
  refine ⟨?_, by rw [inject_nil]; rfl⟩
  rw [get_set_self]
  rfl

theorem observe_passes (direction : Direction) (accepted : Bool) :
    Passes direction worker (worker.observe direction accepted)
      (worker.observedOn direction (.outbound direction accepted)) := by
  rw [observe, observedOn, if_pos rfl]
  cases stream : (worker.get direction).frameBridge.bodyStream with
  | nil =>
    have streamFlow : (worker.get direction).flow.stream = [] := stream
    rw [streamFlow]
    exact worker.observeEnd_passes direction accepted
  | cons next rest =>
    have streamFlow : (worker.get direction).flow.stream = next :: rest := stream
    rw [streamFlow]
    cases next with
    | ok frame => exact worker.observeNext_passes direction frame rest accepted
    | error error =>
      have moves := worker.set_works direction
        { worker.get direction with
          frameBridge := { (worker.get direction).frameBridge with bodyStream := rest }
          bodyToExtProcComplete := true } rfl
      exact ⟨by rw [moves.flow]; rfl, by rw [moves.injected, inject_nil]⟩

end

section

variable {direction other : Direction} (different : other ≠ direction) (worker : Worker)

include different

theorem observeFrame_rests (frame : Frame) (endOfStream accepted : Bool) :
    Rests direction worker (worker.observeFrame other frame endOfStream accepted) := by
  apply (put_rests different worker _).andRests
  split
  · exact ((forward_works _ other _ accepted).others direction different).startingAt
      (get_set_of_ne (Ne.symm different) _ _)
  · exact rests_of_get rfl

theorem observeFrames_rests (accepted : Bool) (frames : List Frame) :
    Rests direction worker (worker.observeFrames other accepted frames) := by
  induction frames generalizing worker with
  | nil => exact rests_of_get rfl
  | cons frame frames induction =>
    apply (observeFrame_rests different worker frame _ accepted).andRests
    exact induction _

theorem observe_rests (accepted : Bool) :
    Rests direction worker (worker.observe other accepted) := by
  have started := get_set_of_ne (Ne.symm different) worker
  rw [observe]
  split
  · rw [observeNext]
    dsimp only
    split
    · exact rests_of_get (started _)
    · exact (observeFrame_rests different _ _ false accepted).startingAt (started _)
  · exact rests_of_get (started _)
  · rw [observeEnd]
    apply Moves.andRests
    · exact (observeFrames_rests different _ accepted _).startingAt (started _)
    · apply (reply_rests _ direction other _).andRests
      exact rests_of_get (get_set_of_ne (Ne.symm different) _ _)

end

theorem leaveIfIdle_rests (worker : Worker) (direction : Direction) :
    Rests direction worker worker.leaveIfIdle := by
  rw [leaveIfIdle]
  split
  · exact stop_rests worker direction
  · exact rests_of_get rfl

theorem injectedTo_observabilityStep (taken : worker.observabilityStep event = some progress)
    (channel : Direction) :
    injectedTo channel progress.2 =
      (worker.get channel).flow.inject (worker.observedOn channel event) := by
  have started := (ite_none_left_eq_some.mp taken).2
  cases event with
  | task direction task accepted =>
    rcases ite_none_right_eq_some.mp started with ⟨_, ⟨⟩⟩
    change _ = (worker.get channel).flow.inject []
    rw [andThen, injectedTo_append, (leaveIfIdle_rests _ channel).injected,
      inject_nil, append_nil]
    by_cases same : direction = channel
    · cases same
      exact (runAction_works _ channel _ accepted).injected
    · exact (worker.takeTask_rests channel same true task accepted).injected
  | tasksClosed =>
    rcases ite_none_left_eq_some.mp started with ⟨_, ⟨⟩⟩
    change _ = (worker.get channel).flow.inject []
    rw [inject_nil]
    rfl
  | outbound direction accepted =>
    rcases ite_none_right_eq_some.mp started with ⟨_, ⟨⟩⟩
    rw [andThen, injectedTo_append, (leaveIfIdle_rests _ channel).injected,
      append_nil]
    by_cases same : direction = channel
    · cases same
      exact (worker.observe_passes channel accepted).injected
    · rw [(observe_rests same worker accepted).injected, observedOn, if_neg same, inject_nil]
  | inbound | timeout => cases started

end Worker

end Orion.ExtProc
