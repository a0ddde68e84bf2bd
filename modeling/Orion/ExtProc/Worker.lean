import Orion.ExtProc.Processing
import Orion.Foundation.Execution

/-! # The worker of an external processor

The loop takes one event at a time: a task from the filter, a message from the
processor, a frame of one of the bodies, or a timeout. A filter gives its worker at
most one request and, once that is answered, at most one response.
-/

namespace Orion.ExtProc

open Foundation Http Orion.Configuration

structure Worker where
  config : ExternalProcessingWorkerConfig
  overridableModes : OverridableGlobalModes
  requestProcessing : Processing := {}
  responseProcessing : Processing := {}
  /-- The stream to the processor has been opened. -/
  bidiStream : Bool := false
  timeoutActive : Bool := false
  timeoutExtended : Bool := false
  timeoutDuration : Duration
  /-- The loop has not been left; when it is, both new bodies end. -/
  running : Bool := true

inductive Event where
  | task (direction : Direction) (task : ProcessingTask) (accepted : Bool)
  | tasksClosed
  | inbound (message : Option (Except Text ProcessingResponse))
  /-- The next frame of an original body, its end, or its error. -/
  | outbound (direction : Direction) (accepted : Bool)
  | timeout

abbrev Emission := Direction × Effect

/-- The worker after some work, and what it has done meanwhile. -/
abbrev Progress := Worker × List Emission

def Progress.andThen (progress : Progress) (next : Worker → Progress) : Progress :=
  ((next progress.1).1, progress.2 ++ (next progress.1).2)

namespace Worker

def ofConfig (config : ExternalProcessingWorkerConfig)
    (overridableModes : OverridableGlobalModes) : Worker where
  config := config
  overridableModes := overridableModes
  timeoutDuration := config.messageTimeout

section

variable (worker : Worker)

def get : Direction → Processing
  | .request => worker.requestProcessing
  | .response => worker.responseProcessing

def set (direction : Direction) (processing : Processing) : Worker :=
  match direction with
  | .request => { worker with requestProcessing := processing }
  | .response => { worker with responseProcessing := processing }

def modes (direction : Direction) : OverridableModes :=
  worker.overridableModes.get direction

def stop : Worker := { worker with running := false }

def put (direction : Direction) (result : Processing × List Effect) : Progress :=
  (worker.set direction result.1, result.2.map (direction, ·))

def reply (direction : Direction) (status : ProcessingStatus) : Progress :=
  if (worker.get direction).replyChannel then
    (worker.set direction { worker.get direction with replyChannel := false },
      [(direction, .reply status)])
  else
    (worker, [])

/-! ## Sending -/

/-- Tell both directions about a failure, the response first. -/
def replyBoth (message : Text) : Progress :=
  let status := fun direction =>
    (worker.get direction).statusError message worker.config.failureModeAllow
  Progress.andThen (worker.reply .response (status .response)) fun worker =>
    worker.reply .request (status .request)

/-- The first message opens the stream. -/
def forwardToExternalProcessor (direction : Direction)
    (request : ProcessingRequest) (accepted : Bool) : Progress :=
  if !worker.bidiStream || accepted then
    ({ worker with
        bidiStream := true
        timeoutActive := !worker.config.observabilityMode },
      [(direction, .send request true)])
  else
    Progress.andThen ({ worker with timeoutActive := false },
      [(direction, .send request false)]) fun worker =>
        worker.replyBoth "Lost connection to external processor".toList

def runAction (direction : Direction) (action : Action) (accepted : Bool) : Progress :=
  match action with
  | .send request => worker.forwardToExternalProcessor direction request accepted
  | .return status => worker.reply direction status

def sendFrame (direction : Direction) (frame : Frame) (endOfStream accepted : Bool) : Progress :=
  let (processing, request) :=
    (worker.get direction).handleOutgoingBodyChunk frame endOfStream
  Progress.andThen
    ((worker.set direction processing).forwardToExternalProcessor direction request accepted)
    fun worker =>
      let processing := worker.get direction
      (worker.set direction { processing with
        inflightFrames := processing.inflightFrames ++ [frame] }, [])

/-! ## Frames of the original bodies -/

/-- A frame was read: the one held back before it is now known not to be the last. -/
def outboundFrame (direction : Direction) (frame : Frame)
    (rest : List FrameResult) (accepted : Bool) : Progress :=
  let processing := worker.get direction
  let (buffer, previous) := processing.framesBuffer.park frame
  let worker := worker.set direction { processing with
    frameBridge := { processing.frameBridge with bodyStream := rest }
    framesBuffer := buffer }
  match previous with
  | none => (worker, [])
  | some bytes =>
    match (worker.modes direction).bodyMode with
    | .none => worker.put direction (worker.get direction,
        processing.frameBridge.injectFrame (.ok (.data bytes)))
    | _ => worker.sendFrame direction (.data bytes) false accepted

/-- The data held back is the last of the body. -/
def flushData (direction : Direction) (accepted : Bool) : Progress :=
  let processing := worker.get direction
  match processing.framesBuffer.dataBuffer with
  | none => (worker, [])
  | some bytes =>
    let worker := worker.set direction { processing with
      framesBuffer := { processing.framesBuffer with dataBuffer := none } }
    if (worker.modes direction).shouldProcessBody then
      worker.sendFrame direction (.data bytes)
        processing.framesBuffer.trailersBuffer.isNone accepted
    else
      worker.put direction (worker.get direction,
        processing.frameBridge.injectFrame (.ok (.data bytes)))

def flushTrailers (direction : Direction) (accepted : Bool) : Progress :=
  let processing := worker.get direction
  match processing.framesBuffer.trailersBuffer with
  | none => (worker, [])
  | some trailers =>
    let buffer := { processing.framesBuffer with trailersBuffer := none }
    if (worker.modes direction).shouldProcessTrailers then
      (worker.set direction { processing with framesBuffer := buffer }).sendFrame
        direction (.trailers trailers) true accepted
    else
      (worker.set direction { processing with
        framesBuffer := buffer
        parkedTrailers := some trailers }, [])

def closeBridge (direction : Direction) : Progress :=
  { worker with timeoutActive := false }.put direction
    (worker.get direction).frameBridgeClose

/-- The new body ends with the original one unless frames are in flight. -/
def reachEndOfStream (direction : Direction) : Progress :=
  let worker := worker.set direction { worker.get direction with endOfStream := true }
  if (worker.get direction).inflightFrames = [] then
    worker.closeBridge direction
  else
    (worker, [])

def outboundEnd (direction : Direction) (accepted : Bool) : Progress :=
  let worker := worker.set direction { worker.get direction with
    bodyToExtProcComplete := true }
  Progress.andThen (worker.flushData direction accepted) fun worker =>
  Progress.andThen (worker.flushTrailers direction accepted) fun worker =>
    worker.reachEndOfStream direction

/-- An error of the original body only ends the reading. -/
def outbound (direction : Direction) (accepted : Bool) : Progress :=
  let processing := worker.get direction
  match processing.frameBridge.bodyStream with
  | .ok frame :: rest => worker.outboundFrame direction frame rest accepted
  | .error _ :: rest =>
    (worker.set direction { processing with
      frameBridge := { processing.frameBridge with bodyStream := rest }
      bodyToExtProcComplete := true }, [])
  | [] => worker.outboundEnd direction accepted

/-! ## Failures -/

/-- Pass on everything in flight and the rest of the original body. -/
def flush (direction : Direction) : Progress :=
  worker.put direction (worker.get direction).injectInflightFramesAndComplete

def injectError (direction : Direction) (error : ExtProcError) : Progress :=
  worker.put direction (worker.get direction,
    (worker.get direction).frameBridge.injectFrame (.error error.toBodyError))

/-- End a new body, whole if failures are allowed and with an error if not. -/
def settle (allow : Bool) (error : ExtProcError) (direction : Direction) : Progress :=
  Progress.andThen
    (if allow then worker.flush direction else worker.injectError direction error)
    fun worker => worker.closeBridge direction

def answerFailure (allow : Bool) (error : ExtProcError) (message : Text)
    (direction : Direction) : Progress :=
  worker.reply direction (match error with
    | .timeout _ => (worker.get direction).statusTimeout allow
    | _ => (worker.get direction).statusError message allow)

def recoverOrFailure (error : ExtProcError) (message : Text) : Progress :=
  let allow := worker.config.failureModeAllow
  Progress.andThen (worker.settle allow error .request) fun worker =>
  Progress.andThen (worker.settle allow error .response) fun worker =>
  Progress.andThen (worker.answerFailure allow error message .request) fun worker =>
    worker.answerFailure allow error message .response

/-! ## Messages of the processor -/

/-- The direction whose filter call is waiting, or the response. -/
def current : Direction :=
  if worker.requestProcessing.replyChannel then .request else .response

end

/-- The time granted, in nanoseconds; negative values wrap around, and too large a
sum panics. -/
def extension (duration : ProtoDuration) : Option Duration :=
  let total := (duration.seconds % 2 ^ 64).toNat * 1000000000 +
    (duration.nanos % 2 ^ 64).toNat
  if total / 1000000000 < 2 ^ 64 then some total else none

/-- More time is granted once; the loop is left on a second demand. -/
def handleTimeoutExtension (worker : Worker) (duration : ProtoDuration) : Progress :=
  if worker.timeoutExtended then
    Progress.andThen (worker.replyBoth
      "External processor attempted multiple timeout extensions".toList) fun worker =>
        (worker.stop, [])
  else
    match extension duration with
    | none => (worker.stop, [])
    | some asked =>
      let granted := if asked < 1000000 then worker.config.messageTimeout else asked
      let granted := match worker.config.maxMessageTimeout with
        | some limit => if limit < granted then limit else granted
        | none => granted
      ({ worker with timeoutDuration := granted, timeoutExtended := true }, [])

/-- Put back what a handler of an answer left behind, and pass its status on. -/
def finish (worker : Worker) (direction : Direction) (handled : Handled) : Progress :=
  Progress.andThen
    ({ worker with
        timeoutActive := worker.timeoutActive && !handled.stopsTimeout }.put direction
      (handled.processing, handled.effects))
    fun worker => worker.reply direction handled.status

variable [HttpCrate] [RegexEngine]

section

variable (worker : Worker)

/-- The first reaction to an immediate response; `none` when a rule panics. -/
def answerImmediately (attempt : ImmediateResponse) : Option Progress :=
  let direction := worker.current
  if worker.config.disableImmediateResponse then
    if worker.config.failureModeAllow then
      some (Progress.andThen (worker.reply direction .haltedOnError) fun worker =>
        worker.flush direction)
    else
      some (Progress.andThen (worker.reply direction
        ((worker.get direction).statusInternalError
          ("ext_proc returned an immediate response despite being disabled by " ++
            "configuration").toList)) fun worker =>
        worker.injectError direction (.timeout "immediate response disabled".toList))
  else
    (buildDirectResponse worker.config attempt).map fun response =>
      worker.reply direction (.endWithDirectResponse response)

def immediateResponse (attempt : ImmediateResponse) : Progress :=
  match worker.answerImmediately attempt with
  | none => (worker.stop, [])
  | some progress =>
    -- The waiting direction is looked up again, after it has got its reply.
    Progress.andThen progress fun worker =>
    Progress.andThen (worker.flush worker.current) fun worker => (worker.stop, [])

def overrideModes (direction : Direction) (modeOverride : Option ModeOverride) : Worker :=
  match modeOverride with
  | some asked =>
    if worker.config.allowModeOverride then
      { worker with
        overridableModes := worker.overridableModes.override direction
          worker.config.allowedOverrideModes asked }
    else
      worker
  | none => worker

def headersResponse (direction : Direction)
    (modeOverride : Option ModeOverride) (response : HeadersResponse) : Progress :=
  let worker := worker.overrideModes direction modeOverride
  let handled := (worker.get direction).handleHeadersResponse direction
    (worker.modes direction) worker.config.routeCacheAction response
  if response.panics then
    -- The handler does not return, so that the filter gets no reply.
    Progress.andThen (worker.put direction (handled.processing, handled.effects)) fun worker =>
      (worker.stop, [])
  else
    worker.finish direction handled

/-- Without an answer in it, a response to a response body ends the loop. -/
def bodyResponse (direction : Direction) (response : BodyResponse) : Progress :=
  let handled := (worker.get direction).handleBodyResponse direction
    (match direction with
      | .request => some worker.config.routeCacheAction
      | .response => none)
    worker.config.failureModeAllow response
  Progress.andThen (worker.finish direction handled) fun worker =>
    if direction = .response ∧ response.response = none then
      (worker.stop, [])
    else
      (worker, [])

def trailersResponse (direction : Direction) (response : TrailersResponse) : Progress :=
  worker.finish direction ((worker.get direction).handleTrailersResponse direction
    worker.config.failureModeAllow response)

def abort (error : ExtProcError) (message : Text) : Progress :=
  Progress.andThen (worker.recoverOrFailure error message) fun worker => (worker.stop, [])

def received (message : ProcessingResponse) : Progress :=
  match message.overrideMessageTimeout with
  | some duration => worker.handleTimeoutExtension duration
  | none =>
    match message.response with
    | some (.immediateResponse attempt) => worker.immediateResponse attempt
    | some (.headers direction response) =>
      worker.headersResponse direction message.modeOverride response
    | some (.body direction response) => worker.bodyResponse direction response
    | some (.trailers direction response) => worker.trailersResponse direction response
    | none => worker.abort (.unsupportedResponseType message.shown)
        ("unsupported response message received: ".toList ++ message.shown)

def inbound : Option (Except Text ProcessingResponse) → Progress
  | none => worker.abort .unexpectedEof "stream closed by the external processor".toList
  | some (.error text) => worker.abort (.grpcError text)
      ("gRPC error received from external processor: ".toList ++ text)
  | some (.ok message) => worker.received message

/-! ## The loop -/

def streamingEnabled : Bool :=
  worker.requestProcessing.streamingBodyEnabled ||
    worker.responseProcessing.streamingBodyEnabled

def outboundEnabled (direction : Direction) : Bool :=
  (worker.get direction).streamingBodyEnabled &&
    !(worker.get direction).bodyToExtProcComplete

def given (direction : Direction) : Bool :=
  (worker.get direction).httpVersion.isSome

/-- The filter gives each direction at most once, the request first, and waits for
the reply to it before it gives the response. -/
def expects : Direction → Bool
  | .request => !worker.given .request && !worker.given .response
  | .response => !worker.given .response && !worker.requestProcessing.replyChannel

def takeTask (direction : Direction) (observability : Bool)
    (task : ProcessingTask) (accepted : Bool) : Progress :=
  let (processing, action) := (worker.get direction).process direction observability
    worker.config (worker.modes direction) task
  (worker.set direction processing).runAction direction action accepted

def step (event : Event) : Option Progress :=
  if !worker.running then
    none
  else
    match event with
    | .task direction task accepted =>
      if !worker.streamingEnabled && worker.expects direction then
        some (worker.takeTask direction false task accepted)
      else
        none
    | .tasksClosed => if worker.streamingEnabled then none else some (worker.stop, [])
    | .inbound message => if worker.bidiStream then some (worker.inbound message) else none
    | .outbound direction accepted =>
      if worker.outboundEnabled direction then
        some (worker.outbound direction accepted)
      else
        none
    | .timeout =>
      if worker.timeoutActive then
        some (worker.abort (.timeout "message timeout".toList)
          "processing_loop: message timeout".toList)
      else
        none

end

def processingLoop : Machine Worker Event Emission where
  step := step

end Worker

end Orion.ExtProc
