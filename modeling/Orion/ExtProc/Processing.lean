import Orion.ExtProc.Filter

/-! # Processing one direction of an exchange

The worker keeps one such record for the request and one for the response. What a
handler does to the outside is listed in the order in which it does it.
-/

namespace Orion.ExtProc

open Foundation Http Orion.Configuration Listeners ProcessingMode

/-! ## The conversation with an external processor

Headers, body chunks and trailers go out, and the processor answers them. It may
also end the conversation with a response of its own, ask for more time, or
change how the rest of the message is processed.
-/

inductive Direction where
  | request
  | response
  deriving DecidableEq

def OverridableGlobalModes.get (modes : OverridableGlobalModes) :
    Direction → OverridableModes
  | .request => modes.request
  | .response => modes.response

/-! ## What is sent -/

inductive ProcessingRequest where
  | headers (headers : HeaderMap) (endOfStream : Bool)
  | body (bytes : Bytes) (endOfStream : Bool)
  | trailers (trailers : HeaderMap)
  deriving DecidableEq

def ProcessingRequest.frame : ProcessingRequest → Option Frame
  | .headers _ _ => none
  | .body bytes _ => some (.data bytes)
  | .trailers fields => some (.trailers fields)

/-! ## What is received -/

inductive ResponseStatus where
  | continue
  | continueAndReplace
  deriving DecidableEq

inductive BodyMutation where
  | body (bytes : Bytes)
  | clearBody (clear : Bool)
  | streamedResponse (chunk : Bytes)
  deriving DecidableEq

def BodyMutation.replacement : Option BodyMutation → Option Bytes
  | some (.body bytes) => some bytes
  | some (.clearBody true) => some []
  | some (.clearBody false) | none => none
  | some (.streamedResponse chunk) => some chunk

structure CommonResponse where
  status : ResponseStatus := .continue
  headerMutation : Option HeaderMutation := none
  bodyMutation : Option BodyMutation := none
  trailers : Option (List EnvoyHeaderValue) := none
  clearRouteCache : Bool := false
  deriving DecidableEq

structure HeadersResponse where
  response : Option CommonResponse
  deriving DecidableEq

/-- There are more new trailers than a header map is allocated for. -/
def HeadersResponse.panics (response : HeadersResponse) : Bool :=
  response.response.any fun data => data.status = .continueAndReplace &&
    data.trailers.any fun trailers => !HeaderMap.hasCapacity trailers.length

structure BodyResponse where
  response : Option CommonResponse
  deriving DecidableEq

structure TrailersResponse where
  headerMutation : Option HeaderMutation
  deriving DecidableEq

structure ImmediateResponse where
  status : Option Int
  headers : Option HeaderMutation
  body : Bytes
  grpcStatus : Option Nat
  deriving DecidableEq

inductive ProcessingResponseType where
  | immediateResponse (response : ImmediateResponse)
  | headers (direction : Direction) (response : HeadersResponse)
  | body (direction : Direction) (response : BodyResponse)
  | trailers (direction : Direction) (response : TrailersResponse)
  deriving DecidableEq

/-- The modes asked for; one that is not known is left out. -/
structure ModeOverride where
  responseHeaderMode : Option HeaderProcessingMode
  requestBodyMode : Option BodyProcessingMode
  responseBodyMode : Option BodyProcessingMode
  requestTrailerMode : Option TrailerProcessingMode
  responseTrailerMode : Option TrailerProcessingMode
  deriving DecidableEq

structure ProtoDuration where
  seconds : Int
  nanos : Int
  deriving DecidableEq

structure ProcessingResponse where
  overrideMessageTimeout : Option ProtoDuration := none
  modeOverride : Option ModeOverride := none
  response : Option ProcessingResponseType
  /-- How the message is shown in an error. -/
  shown : Text := []
  deriving DecidableEq

inductive ExtProcError where
  | timeout (what : Text)
  | unsupportedResponseType (shown : Text)
  | unexpectedEof
  | grpcError (message : Text)
  deriving DecidableEq

def ExtProcError.toBodyError : ExtProcError → BodyError
  | .timeout what => "Timeout Error: ".toList ++ what
  | .unsupportedResponseType shown => "Unsupported Response Type: ".toList ++ shown
  | .unexpectedEof => "Connection closed by remote GRPC".toList
  | .grpcError message => "GRPC error: ".toList ++ message

/-! ## Mode overrides -/

/-- The mode asked for, if it counts and the list of allowed modes is empty or has
it. -/
def overridden {Mode : Type} [DecidableEq Mode] (counts : Mode → Bool)
    (field : ProcessingMode → Mode) (allowed : List ProcessingMode) (asked : Option Mode)
    (current : Mode) : Mode :=
  match asked with
  | some mode =>
    if counts mode && (allowed.isEmpty || allowed.any fun other => field other = mode) then
      mode
    else
      current
  | none => current

def overriddenHeaderMode (field : ProcessingMode → HeaderProcessingMode) :=
  overridden (· ≠ .default) field

def overriddenBodyMode (field : ProcessingMode → BodyProcessingMode) :=
  overridden (fun _ => true) field

def overriddenTrailerMode (field : ProcessingMode → TrailerProcessingMode) :=
  overridden (· ≠ .default) field

/-- The headers of a request have been sent already when its modes can change. -/
def OverridableModes.overrideRequest (modes : OverridableModes)
    (allowed : List ProcessingMode) (asked : ModeOverride) : OverridableModes :=
  { modes with
    bodyMode := overriddenBodyMode requestBodyMode allowed
      asked.requestBodyMode modes.bodyMode
    trailerMode := overriddenTrailerMode requestTrailerMode allowed
      asked.requestTrailerMode modes.trailerMode }

def OverridableModes.overrideResponse (modes : OverridableModes)
    (allowed : List ProcessingMode) (asked : ModeOverride) : OverridableModes where
  headerMode := overriddenHeaderMode responseHeaderMode allowed
    asked.responseHeaderMode modes.headerMode
  bodyMode := overriddenBodyMode responseBodyMode allowed
    asked.responseBodyMode modes.bodyMode
  trailerMode := overriddenTrailerMode responseTrailerMode allowed
    asked.responseTrailerMode modes.trailerMode

/-- The answer to request headers may change the modes of both directions. -/
def OverridableGlobalModes.override (modes : OverridableGlobalModes)
    (direction : Direction) (allowed : List ProcessingMode) (asked : ModeOverride) :
    OverridableGlobalModes where
  request := match direction with
    | .request => modes.request.overrideRequest allowed asked
    | .response => modes.request
  response := modes.response.overrideResponse allowed asked

/-! ## Headers and responses from the processor -/

section

variable [HttpCrate]

def toUtf8 (text : Text) : Bytes := (String.ofList text).toUTF8.data.toList

def headerOfEnvoy (header : EnvoyHeaderValue) : Option (HeaderName × HeaderValue) := do
  let name ← HttpCrate.headerNameFromBytes header.key
  let value ← HttpCrate.headerValueFromBytes
    (if header.value = [] then header.rawValue else toUtf8 header.value)
  return (name, value)

/-- Entries that are not valid headers are passed over. Too many of any kind are a panic. -/
def headerMapOfEnvoy (headers : List EnvoyHeaderValue) : Option HeaderMap :=
  if HeaderMap.hasCapacity headers.length then some (headers.filterMap headerOfEnvoy) else none

variable [RegexEngine]

def buildDirectResponse (config : ExternalProcessingWorkerConfig)
    (attempt : ImmediateResponse) : Option (Response Body) := do
  let status := (attempt.status.bind fun code =>
    statusCodeFromU16 (code % 2 ^ 16).toNat).getD 200
  let response : Response Body := ⟨status, .http11, [], .full attempt.body⟩
  let response ← match attempt.headers with
    | some mutation =>
      (applyResponseHeaderMutations response mutation config.mutationRules).map Prod.fst
    | none => some response
  match attempt.grpcStatus with
  | none => return response
  | some grpcStatus =>
    match HttpCrate.headerValueFromStr (toString grpcStatus).toList with
    | none => return response
    | some value =>
      return { response with
        headers := response.headers.insert (.ofText "grpc-status".toList) value }

end

abbrev FrameResult := Except BodyError Frame

def bodyStream (body : Body) : List FrameResult :=
  body.frames.map .ok ++ body.error.toList.map .error

inductive Effect where
  /-- A frame is put into the channel of the new body. -/
  | inject (frame : FrameResult)
  | reply (status : ProcessingStatus)
  /-- A message is handed to the stream, which may have been closed meanwhile. -/
  | send (request : ProcessingRequest) (accepted : Bool)
  deriving DecidableEq

inductive Action where
  | send (request : ProcessingRequest)
  | return (status : ProcessingStatus)
  deriving DecidableEq

/-! ## The bridge between the two bodies -/

structure FrameBridge where
  bodyStream : List FrameResult := []
  /-- The new body is still open. -/
  injector : Bool := false
  isEmptyBody : Bool := true
  deriving DecidableEq

namespace FrameBridge

def ofBody (body : Body) : FrameBridge where
  bodyStream := Orion.ExtProc.bodyStream body
  injector := true
  isEmptyBody := isEndStream body

def injectFrame (bridge : FrameBridge) (frame : FrameResult) : List Effect :=
  if bridge.injector then [.inject frame] else []

/-- Pass on what is left of the original body, errors included. -/
def complete (bridge : FrameBridge) : FrameBridge × List Effect :=
  if bridge.injector then
    ({ bridge with bodyStream := [] }, bridge.bodyStream.map .inject)
  else
    (bridge, [])

def close (bridge : FrameBridge) : FrameBridge := { bridge with injector := false }

end FrameBridge

/-! ## The buffer for one frame

The last frame of a body is sent differently, so that a frame is held back until
the next one is there.
-/

structure FrameBuffer where
  dataBuffer : Option Frame := none
  trailersBuffer : Option Frame := none
  deriving DecidableEq

namespace FrameBuffer

/-- Keep a frame and give back the one in the slot for data. -/
def park (buffer : FrameBuffer) (frame : Frame) : FrameBuffer × Option Frame :=
  if frame.isData then
    ({ buffer with
        dataBuffer := if buffer.trailersBuffer.isSome then none else some frame },
      buffer.dataBuffer)
  else
    (⟨none, some frame⟩, buffer.dataBuffer)

/-- The frames are given back in their order. -/
def take (buffer : FrameBuffer) : FrameBuffer × Option Frame :=
  match buffer.dataBuffer with
  | some frame => ({ buffer with dataBuffer := none }, some frame)
  | none => ({ buffer with trailersBuffer := none }, buffer.trailersBuffer)

def frames (buffer : FrameBuffer) : List Frame :=
  buffer.dataBuffer.toList ++ buffer.trailersBuffer.toList

variable {buffer : FrameBuffer}

theorem frames_take (taken : buffer.take = (rest, some frame)) :
    buffer.frames = frame :: rest.frames := by
  rcases buffer with ⟨_ | data, _ | trailers⟩ <;> cases taken <;> rfl

def takeAll (buffer : FrameBuffer) : List Frame :=
  match _taken : buffer.take with
  | (_, none) => []
  | (rest, some frame) => frame :: takeAll rest
termination_by buffer.frames.length
decreasing_by simp [frames_take _taken]

theorem takeAll_eq (buffer : FrameBuffer) : buffer.takeAll = buffer.frames := by
  fun_induction takeAll buffer with
  | case1 buffer rest taken =>
    rcases buffer with ⟨_ | data, _ | trailers⟩ <;> cases taken
    rfl
  | case2 buffer rest frame taken induction => rw [induction, frames_take taken]

def parkAll (buffer : FrameBuffer) : List Frame → FrameBuffer × List Frame
  | [] => (buffer, [])
  | frame :: frames =>
    let (parked, released) := buffer.park frame
    let (last, later) := parkAll parked frames
    (last, released.toList ++ later)

/-- Each slot holds frames of its own kind only. -/
structure Sorted (buffer : FrameBuffer) : Prop where
  data : ∀ frame, buffer.dataBuffer = some frame → frame.isData = true
  trailers : ∀ frame, buffer.trailersBuffer = some frame → frame.isData = false

theorem Sorted.park (sorted : buffer.Sorted) (frame : Frame) : (buffer.park frame).1.Sorted := by
  rw [FrameBuffer.park]
  split
  · rename_i isData
    refine ⟨fun kept same => ?_, sorted.trailers⟩
    rcases Option.ite_none_left_eq_some.mp same with ⟨_, ⟨⟩⟩
    exact isData
  · rename_i notData
    refine ⟨fun kept same => (by cases same), fun kept same => ?_⟩
    cases same
    exact Bool.eq_false_iff.mpr notData

/-- What is given back was in the slot for data. -/
theorem park_snd (buffer : FrameBuffer) (frame : Frame) :
    (buffer.park frame).2 = buffer.dataBuffer := by
  rw [FrameBuffer.park]
  split <;> rfl

theorem Sorted.parkAll_data (sorted : buffer.Sorted) (frames : List Frame) :
    ∀ frame ∈ (buffer.parkAll frames).2, frame.isData = true := by
  induction frames generalizing buffer with
  | nil => simp [parkAll]
  | cons next frames induction =>
    intro frame member
    rcases List.mem_append.mp member with released | later
    · exact sorted.data frame ((park_snd buffer next).symm.trans (Option.mem_toList.mp released))
    · exact induction (sorted.park next) frame later

def holding (frame : Frame) : FrameBuffer :=
  if frame.isData then ⟨some frame, none⟩ else ⟨none, some frame⟩

theorem frames_holding (frame : Frame) : (holding frame).frames = [frame] := by
  cases frame <;> rfl

theorem parkAll_cons (noTrailers : buffer.trailersBuffer = none) (frame : Frame)
    (frames : List Frame) : buffer.parkAll (frame :: frames) = (((holding frame).parkAll frames).1,
      buffer.frames ++ ((holding frame).parkAll frames).2) := by
  have parks : buffer.park frame = (holding frame, buffer.dataBuffer) := by
    rcases buffer with ⟨data, trailers⟩
    cases noTrailers
    cases frame <;> rfl
  simp [parkAll, parks, FrameBuffer.frames, noTrailers]

/-- Nothing is lost between what was parked before and what comes. -/
theorem parkAll_append_frames {body : Body} (noTrailers : buffer.trailersBuffer = none) :
    (buffer.parkAll body.frames).2 ++ (buffer.parkAll body.frames).1.frames =
      buffer.frames ++ body.frames := by
  rw [Body.frames]
  induction body.data generalizing buffer with
  | nil =>
    cases body.trailers with
    | none => simp [parkAll]
    | some trailers => simp [parkAll_cons noTrailers, parkAll, frames_holding]
  | cons bytes data induction =>
    have later := @induction (.holding (.data bytes)) rfl
    rw [List.map_cons, List.cons_append, parkAll_cons noTrailers, List.append_assoc, later]
    rw [frames_holding, List.singleton_append]

/-- Data frames and perhaps trailers come out as they were put in. -/
theorem frames_preserved (body : Body) :
    let parked := parkAll {} body.frames
    parked.2 ++ parked.1.takeAll = body.frames ∧
      (∀ frame ∈ parked.2, frame.isData = true) ∧
      ∀ count, (parkAll {} (body.frames.take count)).1.frames.length ≤ 2 := by
  have empty : FrameBuffer.Sorted {} := by constructor <;> rintro _ ⟨⟩
  refine ⟨?_, empty.parkAll_data _, fun count => ?_⟩
  · rw [takeAll_eq]
    exact parkAll_append_frames rfl
  · generalize (parkAll {} _).1 = buffer
    rcases buffer with ⟨_ | data, _ | trailers⟩ <;> simp [FrameBuffer.frames]

end FrameBuffer

/-- What the buffer of a worker holds: it is sorted, so that the one slot has the bytes of
a data frame, and the other has trailers. -/
structure HeldFrames where
  dataBuffer : Option Bytes := none
  trailersBuffer : Option HeaderMap := none
  deriving DecidableEq

namespace HeldFrames

variable {held : HeldFrames}

def park (held : HeldFrames) (frame : Frame) : HeldFrames × Option Bytes :=
  match frame with
  | .data bytes =>
    if held.trailersBuffer.isSome then
      ({ held with dataBuffer := none }, held.dataBuffer)
    else
      ({ held with dataBuffer := some bytes }, held.dataBuffer)
  | .trailers trailers => (⟨none, some trailers⟩, held.dataBuffer)

def frames (held : HeldFrames) : List Frame :=
  held.dataBuffer.toList.map .data ++ held.trailersBuffer.toList.map .trailers

def buffer (held : HeldFrames) : FrameBuffer :=
  ⟨held.dataBuffer.map .data, held.trailersBuffer.map .trailers⟩

/-- A sorted buffer parks frames as it is described here. -/
theorem park_buffer (held : HeldFrames) (frame : Frame) :
    held.buffer.park frame = ((held.park frame).1.buffer, (held.park frame).2.map .data) := by
  rcases held with ⟨data, _ | trailers⟩ <;> cases frame <;> rfl

def holding : Frame → HeldFrames
  | .data bytes => ⟨some bytes, none⟩
  | .trailers trailers => ⟨none, some trailers⟩

@[simp] theorem frames_holding (frame : Frame) :
    (holding frame).frames = [frame] := by
  cases frame <;> rfl

theorem park_eq (noTrailers : held.trailersBuffer = none)
    (frame : Frame) : held.park frame = (.holding frame, held.dataBuffer) := by
  rcases held with ⟨data, trailers⟩
  cases noTrailers
  cases frame <;> rfl

end HeldFrames

/-! ## The record of one direction -/

structure Processing where
  frameBridge : FrameBridge := {}
  /-- The trailers that were sent, for the processor to change. -/
  trailers : Option HeaderMap := none
  /-- The filter waits for a reply. -/
  replyChannel : Bool := false
  httpVersion : Option Version := none
  streamingBodyEnabled : Bool := false
  endOfStream : Bool := false
  framesBuffer : HeldFrames := {}
  inflightFrames : List Frame := []
  parkedTrailers : Option HeaderMap := none
  /-- The loop has read the body to its end, or to an error. -/
  bodyToExtProcComplete : Bool := false
  deriving DecidableEq

structure Handled where
  processing : Processing
  effects : List Effect
  stopsTimeout : Bool
  status : ProcessingStatus

def Direction.ready (direction : Direction) (ready : ReadyStatus) : ProcessingStatus :=
  match direction with
  | .request => .requestReady ready
  | .response => .responseReady ready

def shouldClearRouteCache (action : RouteCacheAction) (response : CommonResponse) : Bool :=
  match action with
  | .clear => true
  | .retain => false
  | .default => response.clearRouteCache

namespace Processing

section

variable (processing : Processing)

/-- A failure ends the processing, silently or with a response of the proxy. -/
def failure (synthetic : SyntheticHttpResponse) (failureModeAllow : Bool) : ProcessingStatus :=
  if failureModeAllow then
    .haltedOnError
  else
    .endWithDirectResponse (synthetic.intoResponse (processing.httpVersion.getD .http11))

def statusTimeout (failureModeAllow : Bool) : ProcessingStatus :=
  processing.failure .gatewayTimeout failureModeAllow

def statusError (message : Text) (failureModeAllow : Bool) : ProcessingStatus :=
  processing.failure (.internalErrorWithMsg message) failureModeAllow

def statusInternalError (message : Text) : ProcessingStatus :=
  processing.failure (.internalErrorWithMsg message) false

/-- Parked trailers go out before the new body ends. -/
def frameBridgeClose : Processing × List Effect :=
  ({ processing with
      streamingBodyEnabled := false
      parkedTrailers := none
      frameBridge := processing.frameBridge.close },
    match processing.parkedTrailers with
    | some trailers => processing.frameBridge.injectFrame (.ok (.trailers trailers))
    | none => [])

def injectInflightFramesAndComplete : Processing × List Effect :=
  ({ processing with
      inflightFrames := []
      frameBridge := processing.frameBridge.complete.1 },
    processing.inflightFrames.flatMap (fun frame =>
      processing.frameBridge.injectFrame (.ok frame)) ++
      processing.frameBridge.complete.2)

end

/-! ## Answers of the processor -/

section

variable [HttpCrate]

/-- The body by which the processor replaces the original. -/
def replaceBody (processing : Processing) (response : CommonResponse) : List Effect :=
  match BodyMutation.replacement response.bodyMutation with
  | some bytes => processing.frameBridge.injectFrame (.ok (.data bytes))
  | none => []

def replaceTrailers (processing : Processing) (response : CommonResponse) : List Effect :=
  match response.trailers.bind headerMapOfEnvoy with
  | some trailers => processing.frameBridge.injectFrame (.ok (.trailers trailers))
  | none => []

def handleHeadersResponse (processing : Processing) (direction : Direction)
    (modes : OverridableModes) (routeCacheAction : RouteCacheAction)
    (response : HeadersResponse) : Handled :=
  match response.response with
  | none => ⟨{ processing with streamingBodyEnabled := true }, [], true, direction.ready {}⟩
  | some data =>
    let status := direction.ready
      ⟨data.headerMutation, shouldClearRouteCache routeCacheAction data⟩
    match data.status with
    | .continueAndReplace =>
      if response.panics then
        ⟨processing, processing.replaceBody data, false, status⟩
      else
        let (closed, parked) := processing.frameBridgeClose
        ⟨closed, processing.replaceBody data ++ processing.replaceTrailers data ++ parked,
          true, status⟩
    | .continue =>
      if !modes.shouldProcessBody && !modes.shouldProcessTrailers then
        let (bridge, rest) := processing.frameBridge.complete
        let (closed, parked) := { processing with frameBridge := bridge }.frameBridgeClose
        ⟨closed, rest ++ parked, true, status⟩
      else
        ⟨{ processing with streamingBodyEnabled := true }, [], true, status⟩

def answeredFrame (processing : Processing) (response : CommonResponse) : Option Frame :=
  match BodyMutation.replacement response.bodyMutation with
  | some bytes => some (.data bytes)
  | none => processing.inflightFrames.head?

def handleBodyResponse (processing : Processing) (direction : Direction)
    (routeCacheAction : Option RouteCacheAction) (failureModeAllow : Bool)
    (response : BodyResponse) : Handled :=
  match response.response with
  | none =>
    ⟨processing, [], false, processing.statusError
      "handle_body_response: No response data in body response".toList failureModeAllow⟩
  | some data =>
    let injected := match processing.answeredFrame data with
      | some frame => processing.frameBridge.injectFrame (.ok frame)
      | none => []
    let popped := { processing with inflightFrames := processing.inflightFrames.tail }
    let status := match routeCacheAction, data.headerMutation with
      | some action, some mutation =>
        direction.ready ⟨some mutation, shouldClearRouteCache action data⟩
      | _, _ => direction.ready {}
    if data.status = .continueAndReplace ∨
        (popped.endOfStream = true ∧ popped.inflightFrames = []) then
      let (closed, parked) := popped.frameBridgeClose
      ⟨closed, injected ++ parked, true, status⟩
    else
      ⟨popped, injected, false, status⟩

variable [RegexEngine]

/-- Trailers are changed under the default rules, which cannot panic; a refused
change leaves what was done before it. -/
def mutatedTrailers (trailers : HeaderMap) : Option HeaderMutation → HeaderMap
  | none => trailers
  | some mutation =>
    match applyTrailerMutations trailers mutation {} with
    | some (mutated, _) => mutated
    | none => trailers

def handleTrailersResponse (processing : Processing) (direction : Direction)
    (failureModeAllow : Bool) (response : TrailersResponse) : Handled :=
  match processing.trailers with
  | some trailers =>
    let injected := processing.frameBridge.injectFrame
      (.ok (.trailers (mutatedTrailers trailers response.headerMutation)))
    let (closed, parked) :=
      { processing with trailers := none, endOfStream := true }.frameBridgeClose
    ⟨closed, injected ++ parked, true, direction.ready {}⟩
  | none =>
    let (closed, parked) := processing.frameBridgeClose
    ⟨closed, parked, true, processing.statusError
      "handle_trailers_response: No trailers to process".toList failureModeAllow⟩

end

/-! ## Messages to the processor -/

/-- Take a task: send its headers, or go on to its body if there are none to send. -/
def process (processing : Processing) (direction : Direction) (observability : Bool)
    (config : ExternalProcessingWorkerConfig) (modes : OverridableModes)
    (task : ProcessingTask) : Processing × Action :=
  let started := { processing with
    replyChannel := true
    httpVersion := some task.httpVersion
    frameBridge := .ofBody task.body }
  let processesFrames := modes.shouldProcessBody || modes.shouldProcessTrailers
  match task.headers with
  | none => ({ started with streamingBodyEnabled := true }, .return (direction.ready {}))
  | some headers =>
    ({ started with
        streamingBodyEnabled := started.streamingBodyEnabled || observability ||
          (config.sendBodyWithoutWaitingForHeaderResponse && processesFrames) },
      .send (.headers headers (started.frameBridge.isEmptyBody || !processesFrames)))

def handleOutgoingBodyChunk (processing : Processing) (chunk : Frame) (endOfStream : Bool) :
    Processing × ProcessingRequest :=
  match chunk with
  | .data bytes => (processing, .body bytes endOfStream)
  | .trailers trailers => ({ processing with trailers := some trailers }, .trailers trailers)

end Processing

end Orion.ExtProc
