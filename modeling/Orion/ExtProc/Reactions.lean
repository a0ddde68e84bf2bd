import Orion.ExtProc.Moves

/-! # What every event does to the frames of one direction

The pieces of the worker are put together into one description of a whole step.
-/

namespace Orion.ExtProc

open Foundation Http Orion.Configuration List Option ExtProcError Orion.ExtProc.Flow

/-- The part of a message that is handled: one that asks for time is nothing else. -/
def Event.handled : Event → Option ProcessingResponseType
  | .inbound (some (.ok message)) =>
    match message.overrideMessageTimeout with
    | some _ => none
    | none => message.response
  | _ => none

namespace Worker

variable (worker : Worker) (direction : Direction)

/-! ## Failures -/

theorem flush_works :
    Works direction worker (worker.flush direction) (worker.get direction).flow.flush
      ((worker.get direction).flow.inject (worker.get direction).flow.flushedFrames) [] :=
  worker.put_handled_works direction (worker.get direction).injectInflight_handles

theorem injectError_works (error : ExtProcError) :
    Works direction worker (worker.injectError direction error) (worker.get direction).flow
      ((worker.get direction).flow.inject [.error error.toBodyError]) [] :=
  worker.put_handled_works direction ((worker.get direction).injectFrame_handles _)

theorem settle_works (allow : Bool) (error : ExtProcError) :
    Works direction worker (worker.settle allow error direction)
      ((worker.get direction).flow.failed allow) ((worker.get direction).flow.inject
        ((worker.get direction).flow.failedFrames allow error.toBodyError)) [] := by
  rw [settle, failed, failedFrames, inject_append]
  cases allow with
  | true =>
    have first := worker.flush_works direction
    have second := (worker.flush direction).1.closeBridge_works direction
    rw [first.flow] at second
    exact first.andThen (fun worker => worker.closeBridge direction) second
  | false =>
    have first := worker.injectError_works direction error
    have second := (worker.injectError direction error).1.closeBridge_works direction
    rw [first.flow] at second
    exact first.andThen (fun worker => worker.closeBridge direction) second

theorem answerFailure_rests (other : Direction) (allow : Bool)
    (error : ExtProcError) (message : Text) :
    Rests direction worker (worker.answerFailure allow error message other) :=
  worker.reply_rests direction other _

theorem abort_moves (error : ExtProcError)
    (message : Text) :
    Moves direction worker (worker.abort error message)
      ((worker.get direction).flow.failed worker.config.failureModeAllow)
      ((worker.get direction).flow.inject ((worker.get direction).flow.failedFrames
        worker.config.failureModeAllow error.toBodyError)) [] := by
  rw [abort, recoverOrFailure]
  refine Moves.andRests ?_ (stop_rests _ direction)
  have answers : ∀ settled : Worker, Rests direction settled
      (Progress.andThen (settled.answerFailure worker.config.failureModeAllow error message
        .request) fun worker' => worker'.answerFailure worker.config.failureModeAllow error
          message .response) := by
    intro settled
    apply (answerFailure_rests settled direction .request _ error message).andRests
    exact answerFailure_rests _ direction .response _ error message
  cases direction with
  | request =>
    apply (worker.settle_works .request _ error).toMoves.andRests
    apply ((settle_works _ .response _ error).others .request (by decide)).andRests
    exact answers _
  | response =>
    have first := (worker.settle_works .request worker.config.failureModeAllow error).others
      .response (by decide)
    have second := (worker.settle worker.config.failureModeAllow error
      .request).1.settle_works .response worker.config.failureModeAllow error
    rw [first.flow] at second
    apply first.andThen
    apply second.toMoves.andRests
    exact answers _

/-! ## Messages of the processor -/

theorem handleTimeoutExtension_rests
    (duration : ProtoDuration) :
    Rests direction worker (worker.handleTimeoutExtension duration) := by
  rw [handleTimeoutExtension]
  split
  · apply (worker.replyBoth_rests direction _).andRests
    exact stop_rests _ direction
  · split
    · exact stop_rests worker direction
    · exact rests_of_get (by cases direction <;> rfl)

theorem finish_works
    (handles : Handles (worker.get direction) (handled.processing, handled.effects) flow frames) :
    Works direction worker (worker.finish direction handled) flow
      ((worker.get direction).flow.inject frames) [] := by
  let active := worker.timeoutActive && !handled.stopsTimeout
  have works := put_handled_works { worker with timeoutActive := active } direction
    ((worker.get_timer active direction).symm ▸ handles)
  rw [get_timer] at works
  apply (works_of_timer works).andRests
  exact reply_works _ direction _

theorem stopIf_rests (condition : Prop)
    [Decidable condition] :
    Rests direction worker (if condition then (worker.stop, []) else (worker, [])) := by
  split
  · exact stop_rests worker direction
  · exact rests_of_get rfl

theorem bodyResponse_works (response : BodyResponse) :
    ∃ finished, Works direction worker finished
        ((worker.get direction).flow.bodyAnswered response) ((worker.get direction).flow.inject
          ((worker.get direction).flow.bodyAnsweredFrames response)) [] ∧
      worker.bodyResponse direction response = finished.andThen fun worker =>
        if direction = .response ∧ response.response = none then
          (worker.stop, [])
        else
          (worker, []) :=
  ⟨_, worker.finish_works direction
    ((worker.get direction).handleBodyResponse_handles direction _ _ response), rfl⟩

theorem get_overrideModes (other : Direction)
    (modeOverride : Option ModeOverride) :
    (worker.overrideModes other modeOverride).get direction = worker.get direction := by
  cases modeOverride with
  | none => rfl
  | some asked =>
    rw [overrideModes]
    split
    · cases direction <;> rfl
    · rfl

section

variable [HttpCrate]

theorem headersResponse_works
    (modeOverride : Option ModeOverride) (response : HeadersResponse) :
    ∃ finished, Works direction (worker.overrideModes direction modeOverride) finished
        ((worker.get direction).flow.headersAnswered
          ((worker.overrideModes direction modeOverride).modes direction) response)
        ((worker.get direction).flow.inject ((worker.get direction).flow.headersAnsweredFrames
          ((worker.overrideModes direction modeOverride).modes direction) response)) [] ∧
      worker.headersResponse direction modeOverride response = finished.andThen fun worker =>
        if response.panics then (worker.stop, []) else (worker, []) := by
  have handles := Processing.handleHeadersResponse_handles
    ((worker.overrideModes direction modeOverride).get direction) direction
    ((worker.overrideModes direction modeOverride).modes direction)
    (worker.overrideModes direction modeOverride).config.routeCacheAction response
  have finished := finish_works _ direction handles
  have stopped := put_handled_works _ direction handles
  rw [headersResponse]
  rw [get_overrideModes] at finished stopped ⊢
  cases response.panics with
  | true => exact ⟨_, stopped, rfl⟩
  | false => exact ⟨_, finished, by simp [Progress.andThen]⟩

variable [RegexEngine]

theorem trailersResponse_works
    (response : TrailersResponse) :
    Works direction worker (worker.trailersResponse direction response)
      (worker.get direction).flow.trailersAnswered ((worker.get direction).flow.inject
        ((worker.get direction).flow.trailersAnsweredFrames response)) [] :=
  worker.finish_works direction
    ((worker.get direction).handleTrailersResponse_handles direction _ response)

/-! ### Immediate responses -/

/-- The loop is left without a flush because a rule panics. -/
def panics (attempt : ImmediateResponse) : Bool :=
  !worker.config.disableImmediateResponse &&
    (buildDirectResponse worker.config attempt).isNone

def flushesImmediately (attempt : ImmediateResponse) (direction : Direction) : Bool :=
  !worker.panics attempt &&
    (direction = .response ||
      (worker.config.disableImmediateResponse && worker.config.failureModeAllow &&
        direction = worker.current))

def failsImmediately : Bool :=
  worker.config.disableImmediateResponse && !worker.config.failureModeAllow &&
    direction = worker.current

def immediateFrames (attempt : ImmediateResponse) (direction : Direction) : List FrameResult :=
  (if worker.failsImmediately direction then
    [.error (timeout "immediate response disabled".toList).toBodyError]
  else
    []) ++
  if worker.flushesImmediately attempt direction then
    (worker.get direction).flow.flushedFrames
  else
    []

omit [HttpCrate] [RegexEngine] in
theorem current_reply (status : ProcessingStatus) :
    (worker.reply worker.current status).1.current = .response := by
  have current : worker.current =
      if worker.requestProcessing.replyChannel then .request else .response := rfl
  rw [current]
  split
  · next waiting => simp [reply, get, set, Worker.current, waiting]
  · next idle =>
      rw [reply]
      split
      · simp [set, Worker.current, idle]
      · simp [Worker.current, idle]

omit [HttpCrate] [RegexEngine] in
theorem current_put (result : Processing × List Effect)
    (same : result.1.replyChannel = (worker.get direction).replyChannel) :
    (worker.put direction result).1.current = worker.current := by
  cases direction with
  | request => simp [put, set, current, same, get]
  | response => rfl

omit [HttpCrate] [RegexEngine] in
/-- At last the waiting direction is flushed, which is the response by then. -/
theorem flushCurrent_moves {worker direction} {progress : Progress} {flow : Flow}
    (moves : Moves direction worker progress flow injected [])
    (current : progress.1.current = .response) :
    Moves direction worker
      (progress.andThen fun worker => Progress.andThen (worker.flush worker.current)
        fun worker => (worker.stop, []))
      (if direction = .response then flow.flush else flow)
      (injected ++ if direction = .response then flow.inject flow.flushedFrames else []) [] := by
  cases direction with
  | request =>
    rw [if_neg (by decide), if_neg (by decide), append_nil]
    apply moves.andRests
    apply Moves.andRests
    · rw [current]
      exact put_rests (by decide) _ _
    · exact stop_rests _ _
  | response =>
    have flushed := progress.1.flush_works .response
    rw [moves.flow] at flushed
    apply moves.andThen
    apply Moves.andRests
    · rw [current]
      exact flushed.toMoves
    · exact stop_rests _ _

omit [HttpCrate] [RegexEngine] in
/-- The waiting direction gets its reply, and then some work is done for it. -/
theorem replyThenPut_moves
    (status : ProcessingStatus) (work : Processing → Processing × List Effect)
    (flowAfter : Flow → Flow) (frames : Flow → List FrameResult)
    (handles : ∀ processing, Handles processing (work processing)
      (flowAfter processing.flow) (frames processing.flow))
    (channel : ∀ processing, (work processing).1.replyChannel = processing.replyChannel) :
    let progress := Progress.andThen (worker.reply worker.current status) fun replied =>
      replied.put worker.current (work (replied.get worker.current))
    let flow := (worker.get direction).flow
    progress.1.current = .response ∧
      Moves direction worker progress
        (if direction = worker.current then flowAfter flow else flow)
        (if direction = worker.current then flow.inject (frames flow) else []) [] := by
  have replied := worker.reply_rests direction worker.current status
  refine ⟨?_, ?_⟩
  · exact (current_put _ _ _ (channel _)).trans (worker.current_reply status)
  · by_cases waiting : direction = worker.current
    · rw [if_pos waiting, if_pos waiting, ← waiting]
      rw [← waiting] at replied
      have moves := (worker.reply direction status).1.put_handled_works direction (handles _)
      rw [replied.flow] at moves
      exact replied.andThen moves.toMoves
    · rw [if_neg waiting, if_neg waiting]
      apply replied.andRests
      exact put_rests (Ne.symm waiting) _ _

theorem immediateResponse_moves
    (attempt : ImmediateResponse) :
    Moves direction worker (worker.immediateResponse attempt)
      (if worker.flushesImmediately attempt direction then (worker.get direction).flow.flush
      else
        (worker.get direction).flow)
      ((worker.get direction).flow.inject (worker.immediateFrames attempt direction)) [] := by
  rw [immediateResponse, answerImmediately, immediateFrames, failsImmediately,
    flushesImmediately, panics]
  let error := timeout "immediate response disabled".toList
  cases worker.config.disableImmediateResponse with
  | true =>
    cases allow : worker.config.failureModeAllow with
    | true =>
      rcases worker.replyThenPut_moves direction .haltedOnError
        _ Flow.flush Flow.flushedFrames Processing.injectInflight_handles (fun _ => rfl)
        with ⟨current, first⟩
      have moves := flushCurrent_moves first current
      cases direction <;> cases waiting : worker.current <;>
        simpa [flush, waiting, flush_flush, inject_flushedFrames_flush] using moves
    | false =>
      rcases worker.replyThenPut_moves direction ((worker.get worker.current).statusInternalError
          ("ext_proc returned an immediate response despite being disabled by " ++
            "configuration").toList)
        (fun processing => (processing,
          processing.frameBridge.injectFrame (.error error.toBodyError)))
        id (fun _ => [.error error.toBodyError])
        (fun processing => processing.injectFrame_handles _) (fun _ => rfl)
        with ⟨current, first⟩
      have moves := flushCurrent_moves first current
      cases direction <;> cases waiting : worker.current <;>
        simpa [injectError, error, waiting, ← inject_append] using moves
  | false =>
    cases buildDirectResponse worker.config attempt with
    | none => simpa using worker.stop_rests direction
    | some response =>
      have moves := flushCurrent_moves
        (worker.reply_rests direction worker.current (.endWithDirectResponse response))
        (worker.current_reply _)
      cases direction <;> simpa using moves

end

/-! ## Tasks -/

theorem runAction_works (action : Action)
    (accepted : Bool) :
    Works direction worker (worker.runAction direction action accepted)
      (worker.get direction).flow [] action.frame.toList := by
  cases action with
  | send request => exact worker.forward_works direction request accepted
  | «return» status => exact worker.reply_works direction status

theorem takeTask_starts (observability : Bool)
    (task : ProcessingTask) (accepted : Bool)
    (fresh : (worker.get direction).flow = ({} : Processing).flow) :
    let progress := worker.takeTask direction observability task accepted
    (progress.1.get direction).flow = .ofBody task.body (Processing.startsStreaming
        observability worker.config (worker.modes direction) task) ∧
      progress.1.given direction ∧
      injectedTo direction progress.2 = [] ∧ sentTo direction progress.2 = [] := by
  let started := (worker.get direction).process direction observability worker.config
    (worker.modes direction) task
  rcases Processing.process_starts fresh direction observability
    worker.config (worker.modes direction) task with ⟨flow, version, noFrame⟩
  have works := (worker.set direction started.1).runAction_works direction started.2 accepted
  have record := worker.get_set_self direction started.1
  have given : (worker.set direction started.1).given direction := by
    rw [Worker.given, record, version]
    rfl
  rw [record, flow, noFrame] at works
  exact ⟨works.flow, works.given.trans given, works.injected, works.sent⟩

theorem takeTask_rests (different : other ≠ direction) (observability : Bool)
    (task : ProcessingTask) (accepted : Bool) :
    Rests direction worker (worker.takeTask other observability task accepted) :=
  ((runAction_works _ other _ accepted).others direction different).startingAt
    (get_set_of_ne (Ne.symm different) worker _)

theorem running_takeTask (observability : Bool)
    (task : ProcessingTask) (accepted : Bool) :
    (worker.takeTask direction observability task accepted).1.running = worker.running :=
  (runAction_works _ direction _ accepted).running.trans (by cases direction <;> rfl)

/-! ## Leaving the loop -/

theorem running_overrideModes
    (modeOverride : Option ModeOverride) :
    (worker.overrideModes direction modeOverride).running = worker.running := by
  cases modeOverride with
  | none => rfl
  | some asked =>
    rw [overrideModes]
    split <;> rfl

theorem running_handleTimeoutExtension (duration : ProtoDuration)
    (running : worker.running) : (worker.handleTimeoutExtension duration).1.running =
      !(worker.timeoutExtended || (extension duration).isNone) := by
  rw [handleTimeoutExtension]
  cases worker.timeoutExtended with
  | true => rfl
  | false =>
    cases extension duration with
    | none => rfl
    | some asked => exact running

theorem running_bodyResponse
    (response : BodyResponse) (running : worker.running) :
    (worker.bodyResponse direction response).1.running =
      !decide (direction = .response ∧ response.response = none) := by
  rcases worker.bodyResponse_works direction response with ⟨finished, works, same⟩
  rw [same]
  simp only [Progress.andThen]
  split
  · next leaves => simp [leaves, stop]
  · next stays => simp [stays, works.running, running]

/-! ## A whole step -/

section

variable [HttpCrate] [RegexEngine]

def failureOf : Event → BodyError
  | .timeout => (timeout "message timeout".toList).toBodyError
  | .inbound none => unexpectedEof.toBodyError
  | .inbound (some (.error text)) => (grpcError text).toBodyError
  | .inbound (some (.ok message)) =>
    (unsupportedResponseType message.shown).toBodyError
  | _ => []

/-- The frames of a direction after an event. -/
def flowAfter (event : Event) : Flow :=
  let flow := (worker.get direction).flow
  match event with
  | .task _ _ _ | .tasksClosed => flow
  | .outbound other _ =>
    if other = direction then flow.outbound (worker.modes direction) else flow
  | .timeout | .inbound none | .inbound (some (.error _)) =>
    flow.failed worker.config.failureModeAllow
  | .inbound (some (.ok message)) =>
    match message.overrideMessageTimeout, message.response with
    | some _, _ => flow
    | none, some (.immediateResponse attempt) =>
      if worker.flushesImmediately attempt direction then flow.flush else flow
    | none, some (.headers other response) =>
      if other = direction then
        flow.headersAnswered
          ((worker.overrideModes direction message.modeOverride).modes direction) response
      else
        flow
    | none, some (.body other response) =>
      if other = direction then flow.bodyAnswered response else flow
    | none, some (.trailers other _) =>
      if other = direction then flow.trailersAnswered else flow
    | none, none => flow.failed worker.config.failureModeAllow

/-- The frames that an event passes on, if the new body is open. -/
def passedOn (event : Event) : List FrameResult :=
  let flow := (worker.get direction).flow
  match event with
  | .task _ _ _ | .tasksClosed => []
  | .outbound other _ =>
    if other = direction then flow.outboundFrames (worker.modes direction) else []
  | .timeout | .inbound none | .inbound (some (.error _)) =>
    flow.failedFrames worker.config.failureModeAllow (failureOf event)
  | .inbound (some (.ok message)) =>
    match message.overrideMessageTimeout, message.response with
    | some _, _ => []
    | none, some (.immediateResponse attempt) => worker.immediateFrames attempt direction
    | none, some (.headers other response) =>
      if other = direction then
        flow.headersAnsweredFrames
          ((worker.overrideModes direction message.modeOverride).modes direction) response
      else
        []
    | none, some (.body other response) =>
      if other = direction then flow.bodyAnsweredFrames response else []
    | none, some (.trailers other response) =>
      if other = direction then flow.trailersAnsweredFrames response else []
    | none, none => flow.failedFrames worker.config.failureModeAllow (failureOf event)

def sentOn : Event → List Frame
  | .outbound other _ =>
    if other = direction then
      (worker.get direction).flow.outboundToProcessor (worker.modes direction)
    else
      []
  | _ => []

def ends : Event → Bool
  | .task _ _ _ | .outbound _ _ => false
  | .tasksClosed | .timeout | .inbound none | .inbound (some (.error _)) => true
  | .inbound (some (.ok message)) =>
    match message.overrideMessageTimeout, message.response with
    | some duration, _ => worker.timeoutExtended || (extension duration).isNone
    | none, some (.headers _ response) => response.panics
    | none, some (.trailers _ _) => false
    | none, some (.body direction response) =>
      direction = .response ∧ response.response = none
    | none, some (.immediateResponse _) | none, none => true

variable {progress : Progress}

omit [HttpCrate] [RegexEngine] in
theorem moves_of_self_or_rests (self : other = direction → Moves direction worker progress flow
      ((worker.get direction).flow.inject frames) [])
    (rests : other ≠ direction → Rests direction worker progress) :
    Moves direction worker progress
      (if other = direction then flow else (worker.get direction).flow)
      ((worker.get direction).flow.inject (if other = direction then frames else [])) [] := by
  by_cases same : other = direction
  · rw [if_pos same, if_pos same]
    exact self same
  · rw [if_neg same, if_neg same, inject_nil]
    exact rests same

/-- What a message of the processor does to the frames of a direction. -/
theorem received_moves (message : ProcessingResponse) :
    Moves direction worker (worker.received message)
      (worker.flowAfter direction (.inbound (some (.ok message))))
      ((worker.get direction).flow.inject
        (worker.passedOn direction (.inbound (some (.ok message))))) [] := by
  rw [received, flowAfter, passedOn]
  cases message.overrideMessageTimeout with
  | some duration =>
    rw [inject_nil]
    exact worker.handleTimeoutExtension_rests direction duration
  | none =>
    cases message.response with
    | none => exact worker.abort_moves direction _ _
    | some response =>
      cases response with
      | immediateResponse attempt =>
        exact worker.immediateResponse_moves direction attempt
      | headers other response =>
        rcases worker.headersResponse_works other message.modeOverride response with
          ⟨finished, works, same⟩
        dsimp only
        rw [same]
        apply moves_of_self_or_rests
        · intro same
          cases same
          apply Moves.startingAt (works.toMoves.andRests (stopIf_rests _ direction _))
          rw [given, given, get_overrideModes]
        · intro different
          apply Moves.andRests ((works.others direction different).startingAt _)
          · exact stopIf_rests _ direction _
          · exact worker.get_overrideModes direction other _
      | body other response =>
        rcases worker.bodyResponse_works other response with ⟨finished, works, same⟩
        dsimp only
        rw [same]
        apply moves_of_self_or_rests
        · intro same
          cases same
          exact works.toMoves.andRests (stopIf_rests _ direction _)
        · intro different
          exact (works.others direction different).andRests (stopIf_rests _ direction _)
      | trailers other response =>
        have works := worker.trailersResponse_works other response
        apply moves_of_self_or_rests
        · intro same
          cases same
          exact works.toMoves
        · exact works.others direction

theorem running_immediateResponse (attempt : ImmediateResponse) :
    (worker.immediateResponse attempt).1.running = false := by
  rw [immediateResponse]
  split <;> rfl

theorem running_received (message : ProcessingResponse)
    (running : worker.running) : (worker.received message).1.running =
      !worker.ends (.inbound (some (.ok message))) := by
  rw [received, ends]
  cases message.overrideMessageTimeout with
  | some duration => exact worker.running_handleTimeoutExtension duration running
  | none =>
    cases message.response with
    | none => rfl
    | some response =>
      cases response with
      | immediateResponse attempt => exact worker.running_immediateResponse attempt
      | headers direction response =>
        rcases worker.headersResponse_works direction message.modeOverride response with
          ⟨finished, works, same⟩
        dsimp only
        rw [same]
        cases response.panics with
        | true => rfl
        | false => exact works.running.trans ((worker.running_overrideModes _ _).trans running)
      | body direction response =>
        exact worker.running_bodyResponse direction response running
      | trailers direction response =>
        exact (worker.trailersResponse_works direction response).running.trans running

def Takes (progress : Progress) : Event → Prop
  | .task direction task accepted =>
    worker.expects direction = true ∧
      progress = worker.takeTask direction false task accepted
  | .tasksClosed => progress = (worker.stop, [])
  | .inbound message => progress = worker.inbound message
  | .outbound direction accepted =>
    worker.outboundEnabled direction = true ∧ progress = worker.outbound direction accepted
  | .timeout => progress = worker.abort (.timeout "message timeout".toList)
      "processing_loop: message timeout".toList

variable {worker}

theorem step_takes (taken : worker.step event = some progress) :
    worker.running ∧ worker.Takes progress event := by
  unfold step at taken
  cases running : worker.running with
  | false => simp [running] at taken
  | true =>
    refine ⟨rfl, ?_⟩
    simp only [running, Bool.not_true, Bool.false_eq_true, if_false] at taken
    cases event with
    | task direction task accepted =>
      rcases ite_none_right_eq_some.mp taken with ⟨enabled, same⟩
      rw [Bool.and_eq_true] at enabled
      exact ⟨enabled.2, (some.inj same).symm⟩
    | tasksClosed =>
      rcases ite_none_left_eq_some.mp taken with ⟨_, same⟩
      exact (some.inj same).symm
    | inbound message =>
      rcases ite_none_right_eq_some.mp taken with ⟨_, same⟩
      exact (some.inj same).symm
    | outbound direction accepted =>
      rcases ite_none_right_eq_some.mp taken with ⟨enabled, same⟩
      exact ⟨enabled, (some.inj same).symm⟩
    | timeout =>
      rcases ite_none_right_eq_some.mp taken with ⟨_, same⟩
      exact (some.inj same).symm

/-- What a step does to the frames of a direction, unless it starts their flow. -/
theorem step_moves (taken : worker.step event = some progress) (direction : Direction)
    (goesOn : ∀ task accepted, event ≠ .task direction task accepted) :
    Moves direction worker progress (worker.flowAfter direction event)
      ((worker.get direction).flow.inject (worker.passedOn direction event))
      (worker.sentOn direction event) := by
  have takes := (step_takes taken).2
  cases event with
  | task other task accepted =>
    have different : other ≠ direction := by
      intro same
      cases same
      exact goesOn task accepted rfl
    rw [takes.2]
    change Moves direction worker _ _ ((worker.get direction).flow.inject []) []
    rw [inject_nil]
    exact worker.takeTask_rests direction different false task accepted
  | tasksClosed =>
    rw [takes]
    change Moves direction worker _ _ ((worker.get direction).flow.inject []) []
    rw [inject_nil]
    exact worker.stop_rests direction
  | inbound message =>
    rw [takes]
    cases message with
    | none => exact worker.abort_moves direction _ _
    | some message =>
      cases message with
      | error text => exact worker.abort_moves direction _ _
      | ok message => exact worker.received_moves direction message
  | outbound other accepted =>
    rw [takes.2, flowAfter, passedOn, sentOn]
    by_cases same : other = direction
    · cases same
      rw [if_pos rfl, if_pos rfl, if_pos rfl]
      exact (worker.outbound_works direction accepted).toMoves
    · rw [if_neg same, if_neg same, if_neg same, inject_nil]
      exact (worker.outbound_works other accepted).others direction same
  | timeout =>
    rw [takes]
    exact worker.abort_moves direction _ _

/-- The loop is left by exactly the events that end it. -/
theorem step_running (taken : worker.step event = some progress) :
    progress.1.running = !worker.ends event := by
  rcases step_takes taken with ⟨running, takes⟩
  cases event with
  | task direction task accepted =>
    rw [takes.2, running_takeTask, running]
    rfl
  | tasksClosed =>
    rw [takes]
    rfl
  | inbound message =>
    rw [takes]
    cases message with
    | none => rfl
    | some message =>
      cases message with
      | error text => rfl
      | ok message => exact worker.running_received message running
  | outbound direction accepted =>
    rw [takes.2, (worker.outbound_works direction accepted).running, running]
    rfl
  | timeout =>
    rw [takes]
    rfl

end

end Worker

end Orion.ExtProc
