import Orion.Foundation.BoundedChannel
import Orion.ExtProc.Observability

/-! # Deadlock between a filter and its worker

The new bodies are read from channels of 32 slots, and only after the filter got its
reply. A worker that has more frames to pass on before it replies waits for room that
nobody makes.
-/

namespace Orion.ExtProc

open Foundation Http Orion.Configuration Worker Option Nat List

/-! ## The filter, the worker and the channels -/

def Emission.effect : Emission → ChannelEffect Direction
  | (direction, .inject _) => .push direction
  | (direction, .reply _) => .answer direction
  | (_, .send _ _) => .other

def Event.serves : Event → Option Direction
  | .task direction _ _ => some direction
  | _ => none

section

variable [HttpCrate] [RegexEngine]

/-- A filter calls for the request first and for each direction once, and runs one of
the two loops. -/
def filterAndWorker (observability : Bool) : Served Worker Event Emission Direction where
  machine := if observability then observabilityLoop else processingLoop
  effect := Emission.effect
  serves := Event.serves
  ended worker := !worker.running
  mayCall called
    | .request => called = []
    | .response => .response ∉ called
  capacity := 32

end

/-! ## The room that an event needs -/

namespace Flow

def parkedCount (flow : Flow) : Nat := if flow.parked.isSome then 1 else 0

def heldDataCount (flow : Flow) : Nat := if flow.held.dataBuffer.isSome then 1 else 0

/-- Parked trailers go out at the end of the original body if nothing is in flight. -/
def endCount (flow : Flow) (modes : OverridableModes) : Nat :=
  if flow.inflight = [] ∧
      (modes.shouldProcessBody = true → flow.held.dataBuffer = none) ∧
      (modes.shouldProcessTrailers = true → flow.held.trailersBuffer = none) then
    if flow.held.trailersBuffer.isSome || flow.parked.isSome then 1 else 0
  else
    0

def outboundCount (flow : Flow) (modes : OverridableModes) : Nat :=
  match flow.stream with
  | .ok _ :: _ => if modes.shouldProcessBody then 0 else flow.heldDataCount
  | .error _ :: _ => 0
  | [] => (if modes.shouldProcessBody then 0 else flow.heldDataCount) + flow.endCount modes

variable (flow : Flow)

theorem length_releasedFrames (sends : Bool) :
    (flow.releasedFrames sends).length = if sends then 0 else flow.heldDataCount := by
  rw [releasedFrames, heldDataCount]
  cases sends <;> cases flow.held.dataBuffer <;> rfl

theorem length_lastFrames : flow.lastFrames.length = flow.parkedCount := by
  rw [lastFrames, parkedCount]
  cases flow.parked <;> rfl

theorem length_atEndFrames (modes : OverridableModes) :
    (flow.readEnd modes.shouldProcessBody modes.shouldProcessTrailers).atEndFrames.length =
      flow.endCount modes := by
  let left := flow.readEnd modes.shouldProcessBody modes.shouldProcessTrailers
  have noneInFlight : left.inflight = [] ↔ flow.inflight = [] ∧
      (modes.shouldProcessBody → flow.held.dataBuffer = none) ∧
      (modes.shouldProcessTrailers → flow.held.trailersBuffer = none) := by
    simp [left, readEnd, releaseTrailers_eq, release_eq, releasedToProcessor,
      releasedTrailersToProcessor]
  have parked : left.parked = if modes.shouldProcessTrailers then flow.parked
      else flow.held.trailersBuffer.or flow.parked := by
    simp [left, readEnd, releaseTrailers_eq, release_eq]
  rw [atEndFrames, endCount]
  by_cases closes : left.inflight = []
  · rw [if_pos closes, if_pos (noneInFlight.mp closes), length_lastFrames, parkedCount, parked]
    cases sends : modes.shouldProcessTrailers with
    | false => cases flow.held.trailersBuffer <;> simp
    | true => simp [(noneInFlight.mp closes).2.2 sends]
  · rw [if_neg closes, if_neg (mt noneInFlight.mpr closes)]
    rfl

theorem length_outboundFrames (modes : OverridableModes) :
    (flow.outboundFrames modes).length = flow.outboundCount modes := by
  rw [outboundFrames, outboundCount]
  cases flow.stream with
  | nil =>
    rw [length_append, length_releasedFrames, length_atEndFrames]
  | cons next rest =>
    cases next with
    | ok frame => exact flow.length_releasedFrames _
    | error error => rfl

def failedCount (flow : Flow) (allow : Bool) : Nat :=
  (if allow then flow.inflight.length + flow.stream.length else 1) + flow.parkedCount

theorem length_failedFrames (allow : Bool) (error : BodyError) :
    (flow.failedFrames allow error).length = flow.failedCount allow := by
  rw [failedFrames, failedCount, length_append, length_lastFrames, flushedFrames]
  cases allow <;> simp

def headersAnsweredCount (flow : Flow) (modes : OverridableModes)
    (response : HeadersResponse) : Nat :=
  match response.response with
  | none => 0
  | some data =>
    match data.status with
    | .continueAndReplace =>
      (if (BodyMutation.replacement data.bodyMutation).isSome then 1 else 0) +
        if response.panics then 0
        else (if data.trailers.isSome then 1 else 0) + flow.parkedCount
    | .continue => if skips modes then flow.stream.length + flow.parkedCount else 0

theorem length_headersAnsweredFrames [HttpCrate] (modes : OverridableModes)
    (response : HeadersResponse) : (flow.headersAnsweredFrames modes response).length =
      flow.headersAnsweredCount modes response := by
  rw [headersAnsweredFrames, headersAnsweredCount]
  cases given : response.response with
  | none => rfl
  | some data =>
    dsimp only
    cases status : data.status with
    | continueAndReplace =>
      have body : (replacementBody data).length =
          if (BodyMutation.replacement data.bodyMutation).isSome then 1 else 0 := by
        rw [replacementBody]
        cases BodyMutation.replacement data.bodyMutation <;> rfl
      cases panics : response.panics with
      | true => exact body
      | false =>
        have trailers : (replacementTrailers data).length =
            if data.trailers.isSome then 1 else 0 := by
          rw [HeadersResponse.panics, given] at panics
          rw [replacementTrailers]
          cases replaced : data.trailers with
          | none => rfl
          | some trailers =>
            have fits : HeaderMap.hasCapacity trailers.length = true := by
              simpa [status, replaced] using panics
            simp [headerMapOfEnvoy, fits]
        simp only [Bool.false_eq_true, if_false, length_append, length_lastFrames, body, trailers,
          add_assoc]
    | «continue» =>
      cases skips modes with
      | false => rfl
      | true =>
        rw [if_pos rfl, if_pos rfl, length_append, length_lastFrames]

def bodyAnsweredCount (flow : Flow) (response : BodyResponse) : Nat :=
  match response.response with
  | none => 0
  | some data =>
    (if (BodyMutation.replacement data.bodyMutation).isSome || flow.inflight ≠ [] then 1
      else 0) +
    if data.status = .continueAndReplace ∨
        (flow.endOfStream = true ∧ flow.inflight.tail = []) then
      flow.parkedCount
    else
      0

theorem length_bodyAnsweredFrames (response : BodyResponse) :
    (flow.bodyAnsweredFrames response).length = flow.bodyAnsweredCount response := by
  rw [bodyAnsweredFrames, bodyAnsweredCount]
  cases response.response with
  | none => rfl
  | some data =>
    rw [length_append, answeredFrames, apply_ite length, length_lastFrames]
    congr 1
    cases BodyMutation.replacement data.bodyMutation with
    | some bytes => rfl
    | none => cases flow.inflight <;> simp

def trailersAnsweredCount (flow : Flow) : Nat :=
  (if flow.sentTrailers.isSome then 1 else 0) + flow.parkedCount

theorem length_trailersAnsweredFrames [HttpCrate] [RegexEngine] (response : TrailersResponse) :
    (flow.trailersAnsweredFrames response).length = flow.trailersAnsweredCount := by
  rw [trailersAnsweredFrames, trailersAnsweredCount]
  cases flow.sentTrailers with
  | none =>
    rw [length_lastFrames]
    simp
  | some trailers =>
    rw [length_cons, length_lastFrames]
    simp [add_comm]

end Flow

namespace Worker

variable [HttpCrate] [RegexEngine]

section

variable (worker : Worker)

def framesDue (direction : Direction) (event : Event) : Nat :=
  let flow := (worker.get direction).flow
  match event with
  | .task _ _ _ | .tasksClosed => 0
  | .outbound other _ =>
    if other = direction then flow.outboundCount (worker.modes direction) else 0
  | .timeout | .inbound none | .inbound (some (.error _)) =>
    flow.failedCount worker.config.failureModeAllow
  | .inbound (some (.ok message)) =>
    match message.overrideMessageTimeout, message.response with
    | some _, _ => 0
    | none, some (.immediateResponse attempt) =>
      (if worker.failsImmediately direction then 1 else 0) +
        if worker.flushesImmediately attempt direction then
          flow.inflight.length + flow.stream.length
        else
          0
    | none, some (.headers other response) =>
      if other = direction then
        flow.headersAnsweredCount
          ((worker.overrideModes direction message.modeOverride).modes direction) response
      else
        0
    | none, some (.body other response) =>
      if other = direction then flow.bodyAnsweredCount response else 0
    | none, some (.trailers other _) =>
      if other = direction then flow.trailersAnsweredCount else 0
    | none, none => flow.failedCount worker.config.failureModeAllow

theorem length_passedOn (direction : Direction) (event : Event) :
    (worker.passedOn direction event).length = worker.framesDue direction event := by
  cases event with
  | task | tasksClosed => rfl
  | timeout => exact Flow.length_failedFrames _ _ _
  | outbound other accepted =>
    rw [passedOn, framesDue, apply_ite length, Flow.length_outboundFrames]
    rfl
  | inbound message =>
    rcases message with _ | _ | ⟨override, modeOverride, response, shown⟩
    · exact Flow.length_failedFrames _ _ _
    · exact Flow.length_failedFrames _ _ _
    · cases override with
      | some duration => rfl
      | none =>
        cases response with
        | none => exact Flow.length_failedFrames _ _ _
        | some response =>
          cases response with
          | immediateResponse attempt =>
            change (worker.immediateFrames attempt direction).length = _
            rw [immediateFrames, length_append, apply_ite length,
              apply_ite length, Flow.flushedFrames, length_append,
              length_map]
            rfl
          | headers other response =>
            rw [passedOn, framesDue, apply_ite length, Flow.length_headersAnsweredFrames]
            rfl
          | body other response =>
            rw [passedOn, framesDue, apply_ite length, Flow.length_bodyAnsweredFrames]
            rfl
          | trailers other response =>
            rw [passedOn, framesDue, apply_ite length, Flow.length_trailersAnsweredFrames]
            rfl

def repliesFirst (event : Event) (waiting : Direction) : Bool :=
  match event.handled with
  | some (.immediateResponse _) =>
    waiting = worker.current && (worker.get waiting).replyChannel
  | _ => false

/-- How many frames an event puts into a channel before it answers a call. -/
def roomNeeded (event : Event) (waiting channel : Direction) : Nat :=
  if worker.repliesFirst event waiting then 0
  else if (worker.get channel).flow.isOpen then worker.framesDue channel event
  else 0

def observedDue (direction : Direction) : Event → Nat
  | .outbound other _ =>
    let flow := (worker.get direction).flow
    if other = direction then
      match flow.stream with
      | .ok _ :: _ => flow.heldDataCount
      | .error _ :: _ => 0
      | [] => flow.heldDataCount + if flow.held.trailersBuffer.isSome then 1 else 0
    else
      0
  | _ => 0

omit [HttpCrate] [RegexEngine] in
theorem length_observedOn (direction : Direction) (event : Event) :
    (worker.observedOn direction event).length = worker.observedDue direction event := by
  cases event with
  | outbound other accepted =>
    rw [observedOn, observedDue]
    by_cases same : other = direction
    · rw [if_pos same, if_pos same]
      rcases (worker.get direction).flow.stream with _ | ⟨_ | _, rest⟩
      · change (map _ _).length = _
        rw [length_map, HeldFrames.frames]
        simp only [Flow.heldDataCount]
        cases (worker.get direction).flow.held.dataBuffer <;>
          cases (worker.get direction).flow.held.trailersBuffer <;> rfl
      · rfl
      · exact Flow.length_releasedFrames _ false
    · rw [if_neg same, if_neg same]
      rfl
  | _ => rfl

/-- Here the reply never comes before a frame. -/
def observedRoomNeeded (event : Event) (_waiting channel : Direction) : Nat :=
  if (worker.get channel).flow.isOpen then worker.observedDue channel event else 0

end

end Worker

/-! ## Both loops keep to it -/

section

variable [HttpCrate] [RegexEngine]

theorem pushesBefore_le_injected (observability : Bool) (waiting channel : Direction)
    (outputs : List Emission) :
    (filterAndWorker observability).pushesBefore waiting channel outputs ≤
      (injectedTo channel outputs).length := by
  refine le_trans (Served.pushesBefore_le waiting channel outputs) (le_of_eq ?_)
  induction outputs with
  | nil => rfl
  | cons output outputs induction =>
    rw [← singleton_append, filter_append, injectedTo_append,
      length_append, length_append, induction]
    rcases output with ⟨direction, effect⟩
    by_cases same : direction = channel
    · cases effect <;>
        simp [filterAndWorker, Emission.effect, injectedTo, emittedTo, same] <;> rfl
    · cases effect <;>
        simp [filterAndWorker, Emission.effect, injectedTo, emittedTo, same]

variable {worker : Worker}

omit [HttpCrate] [RegexEngine] in
theorem reply_emits (waits : (worker.get direction).replyChannel) (status : ProcessingStatus) :
    (worker.reply direction status).2 = [(direction, .reply status)] := by
  rw [reply, if_pos waits]

theorem pushesBefore_answered (observability : Bool) (waiting channel : Direction)
    (status : ProcessingStatus) (rest : List Emission) :
    (filterAndWorker observability).pushesBefore waiting channel
      ((waiting, .reply status) :: rest) = 0 := by
  simp [Served.pushesBefore, filterAndWorker, Emission.effect]

variable {progress : Progress}

theorem answerImmediately_replies (waits : (worker.get worker.current).replyChannel)
    (answered : worker.answerImmediately attempt = some progress) :
    ∃ status rest, progress.2 = (worker.current, .reply status) :: rest := by
  rw [answerImmediately] at answered
  split at answered
  · split at answered
    · cases answered
      exact ⟨_, _, by rw [Progress.andThen, reply_emits waits]; rfl⟩
    · cases answered
      exact ⟨_, _, by rw [Progress.andThen, reply_emits waits]; rfl⟩
  · rcases map_eq_some_iff.mp answered with ⟨response, _, rfl⟩
    exact ⟨_, [], reply_emits waits _⟩

theorem immediateResponse_replies (waits : (worker.get worker.current).replyChannel)
    (attempt : ImmediateResponse) (channel : Direction) :
    (filterAndWorker false).pushesBefore worker.current channel
      (worker.immediateResponse attempt).2 = 0 := by
  rw [immediateResponse]
  cases answered : worker.answerImmediately attempt with
  | none => rfl
  | some progress =>
    rcases answerImmediately_replies waits answered with ⟨status, rest, outputs⟩
    simp only [Progress.andThen, outputs]
    exact pushesBefore_answered _ _ _ _ _

theorem injectedTo_step (taken : worker.step event = some progress) (channel : Direction) :
    injectedTo channel progress.2 =
      (worker.get channel).flow.inject (worker.passedOn channel event) := by
  by_cases starts : ∃ task accepted, event = .task channel task accepted
  · rcases starts with ⟨task, accepted, rfl⟩
    rw [(step_takes taken).2.2]
    change _ = (worker.get channel).flow.inject []
    rw [Flow.inject_nil]
    exact (runAction_works _ channel _ accepted).injected
  · apply (step_moves taken channel ?_).injected
    intro task accepted same
    exact starts ⟨task, accepted, same⟩

theorem repliesFirst_bounded (taken : worker.step event = some progress)
    (first : worker.repliesFirst event waiting) (channel : Direction) :
    (filterAndWorker false).pushesBefore waiting channel progress.2 = 0 := by
  have takes := (step_takes taken).2
  rw [repliesFirst] at first
  cases handled : event.handled with
  | none => simp [handled] at first
  | some response =>
    cases response with
    | immediateResponse attempt =>
      simp only [handled, Bool.and_eq_true, decide_eq_true_eq] at first
      rcases first with ⟨rfl, waits⟩
      have replied : progress = worker.immediateResponse attempt := by
        cases event with
        | inbound message =>
          rcases message with _ | _ | ⟨override, modeOverride, response, shown⟩
          · cases handled
          · cases handled
          · cases override with
            | some duration => cases handled
            | none =>
              cases handled
              exact takes
        | _ => cases handled
      rw [replied]
      exact immediateResponse_replies waits attempt channel
    | headers | body | trailers => simp [handled] at first

theorem processingLoop_bounded {next} (taken : worker.step event = some (next, emitted))
    (waiting channel : Direction) : (filterAndWorker false).pushesBefore waiting channel emitted ≤
      worker.roomNeeded event waiting channel := by
  rw [roomNeeded]
  cases first : worker.repliesFirst event waiting with
  | true =>
    rw [repliesFirst_bounded taken first channel]
    exact zero_le _
  | false =>
    have bound := pushesBefore_le_injected false waiting channel emitted
    have injected := injectedTo_step taken channel
    refine le_trans bound (le_of_eq ?_)
    rw [injected, Flow.inject, apply_ite length, length_passedOn]
    rfl

theorem observabilityLoop_bounded {next}
    (taken : worker.observabilityStep event = some (next, emitted))
    (waiting channel : Direction) : (filterAndWorker true).pushesBefore waiting channel emitted ≤
      worker.observedRoomNeeded event waiting channel := by
  have bound := pushesBefore_le_injected true waiting channel emitted
  have injected := injectedTo_observabilityStep taken channel
  refine le_trans bound (le_of_eq ?_)
  rw [injected, Flow.inject, apply_ite length, length_observedOn]
  rfl

end

/-! ## No deadlock where there is room -/

section

variable [HttpCrate] [RegexEngine]

def neededRoom (observability : Bool) : Worker → Event → Direction → Direction → Nat :=
  if observability then observedRoomNeeded else roomNeeded

/-- A worker never waits for room in a channel while its filter waits for a reply, in
a run in which there was room for the frames that came before each reply. -/
theorem run_notDeadlocked {config : ExternalProcessingWorkerConfig} {modes : OverridableGlobalModes}
    {actions : List (Served.Action Event Direction)} {outputs : List Emission}
    {system : Served.System Worker Emission Direction}
    (run : (filterAndWorker config.observabilityMode).system.Run
      ((filterAndWorker config.observabilityMode).Roomy (neededRoom config.observabilityMode))
      { state := .ofConfig config modes } actions outputs system) :
    ¬ (filterAndWorker config.observabilityMode).Deadlocked system := by
  refine Served.run_not_deadlocked ?_ run
  intro worker event next emitted taken waiting channel
  cases mode : config.observabilityMode with
  | false =>
    rw [mode] at taken
    exact processingLoop_bounded taken waiting channel
  | true =>
    rw [mode] at taken
    exact observabilityLoop_bounded taken waiting channel

end

def headersOnlyProcessor : ExternalProcessor := .ofConfig (.lenient {}) none

def headersOnlyWorker : Worker :=
  .ofConfig headersOnlyProcessor.workerConfig headersOnlyProcessor.overridableModes

/-- A filter passes a request to the worker, and the processor lets its headers pass. -/
def passedHeaders (data : List Bytes) : List (Served.Action Event Direction) :=
  [.call .request, .take (.task .request ⟨some [], ⟨data, none, none⟩, .http11⟩ true),
    .perform, .take (.inbound (some (.ok
      { response := some (.headers .request ⟨some {}⟩) })))]

attribute [local instance] HttpCrate.ascii RegexEngine.literal

/-- The worker passes on the whole body before it replies, and the last frame finds the
channel full. -/
theorem headersOnly_deadlocks :
    ∃ outputs system,
      (filterAndWorker false).system.Run Machine.anyStep { state := headersOnlyWorker }
        (passedHeaders (replicate 33 [1]) ++ replicate 32 .perform)
        outputs system ∧ (filterAndWorker false).Deadlocked system := by
  refine ⟨_, _, Machine.Run.any_of_execute rfl, ?_⟩
  exact ⟨_, _, .request, rfl, rfl, le_refl 32, rfl⟩

/-- A body that just fills the channel is passed on and answered. -/
theorem headersOnly_fills_channel :
    ∃ outputs system,
      (filterAndWorker false).system.Run
        ((filterAndWorker false).Roomy (neededRoom false)) { state := headersOnlyWorker }
        (passedHeaders (replicate 32 [1]) ++ replicate 33 .perform) outputs system ∧
      ¬ (filterAndWorker false).Deadlocked system ∧ system.waiting = none := by
  have roomy : (filterAndWorker false).system.AllAllowed
      ((filterAndWorker false).Roomy (neededRoom false)) { state := headersOnlyWorker }
      (passedHeaders (replicate 32 [1]) ++ replicate 33 .perform) := by
    refine ⟨?_, ?_, trivial, ?_, Machine.allAllowed_of_forall ?_⟩
    · intro channel
      exact zero_le 32
    · intro waiting same channel
      cases same
      cases channel <;> decide
    · intro waiting same channel
      cases same
      cases channel <;> decide
    · intro action member state
      rw [eq_of_mem_replicate member]
      trivial
  have run := Machine.Run.of_execute
    (show (filterAndWorker headersOnlyProcessor.workerConfig.observabilityMode).system.execute
      { state := headersOnlyWorker } (passedHeaders (replicate 32 [1]) ++ replicate 33 .perform) =
        some (_, _)
      from rfl) roomy
  exact ⟨_, _, run, run_notDeadlocked run, rfl⟩

end Orion.ExtProc
