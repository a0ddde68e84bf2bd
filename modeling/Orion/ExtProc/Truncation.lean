import Orion.ExtProc.Reactions

/-! # Silent truncation

A new body that ends without an error should carry every frame of the original one,
changed only by the answers of the processor. The loop can end a new body early, so
this holds for the runs in which no event ends a body while frames of it are left
that the event does not pass on.
-/

namespace Orion.ExtProc

open Foundation Http Orion.Configuration List Option Orion.ExtProc.Flow

/-! ## Histories -/

namespace Event

def given (direction : Direction) : Event → Option Body
  | .task other started _ => if other = direction then some started.body else none
  | _ => none

def answerTo (direction : Direction) (event : Event) : Option Answer :=
  match event.handled with
  | some (.body other response) =>
    if other = direction ∧ response.response ≠ none then some (.body response) else none
  | some (.trailers other response) =>
    if other = direction then some (.trailers response) else none
  | _ => none

/-- `CONTINUE_AND_REPLACE` was received for a direction. -/
def replaces (direction : Direction) (event : Event) : Bool :=
  match event.handled with
  | some (.headers other response) =>
    other = direction && response.response.any (·.status = .continueAndReplace)
  | some (.body other response) =>
    other = direction && response.response.any (·.status = .continueAndReplace)
  | _ => false

abbrev ofResponse (modeOverride : Option ModeOverride) (shown : Text)
    (response : ProcessingResponseType) : Event :=
  .inbound (some (.ok ⟨none, modeOverride, some response, shown⟩))

end Event

section

variable (direction : Direction) (events : List Event)

def givenBody : Option Body :=
  events.findSome? (Event.given direction)

def answersTo : List Answer :=
  events.filterMap (Event.answerTo direction)

theorem answersTo_append (event : Event) :
    answersTo direction (events ++ [event]) =
      answersTo direction events ++ (event.answerTo direction).toList := by
  rw [answersTo, filterMap_append]
  congr 1

theorem givenBody_append (event : Event) :
    givenBody direction (events ++ [event]) =
      (givenBody direction events).or (event.given direction) := by
  rw [givenBody, findSome?_append]
  congr 1
  simp

end

section

variable [HttpCrate] [RegexEngine]

/-- A new body that has ended without an error, and was not replaced, carries the
original one: every frame once and in order, as it was or as changed by the answer
to it. -/
def NotTruncated (direction : Direction) (events : List Event) (outputs : List Emission)
    (worker : Worker) : Prop :=
  ∀ body, givenBody direction events = some body →
    worker.running = false ∨ (worker.get direction).frameBridge.injector = false →
    (∀ error, .error error ∉ injectedTo direction outputs) →
    (∀ event ∈ events, event.replaces direction = false) →
    Faithful (bodyStream body) (injectedTo direction outputs) (sentTo direction outputs)
      (answersTo direction events)

/-! ## Events that lose no frame -/

namespace Worker

/-- What has to hold before an event for it to lose no frame of an open body. -/
def KeepsFrames (worker : Worker) (direction : Direction) (event : Event) : Prop :=
  let flow := (worker.get direction).flow
  match event with
  | .task _ _ _ => True
  | .tasksClosed => flow.Settled
  | .outbound other _ => other = direction →
      (worker.modes direction).shouldProcessBody = false →
        flow.held.dataBuffer.isSome = true → flow.inflight = []
  | .timeout | .inbound none | .inbound (some (.error _)) =>
    worker.config.failureModeAllow = true → flow.Recoverable
  | .inbound (some (.ok message)) =>
    match message.overrideMessageTimeout, message.response with
    | some duration, _ =>
      worker.timeoutExtended = true ∨ extension duration = none → flow.Settled
    | none, some (.immediateResponse attempt) =>
      worker.failsImmediately direction = false →
        if worker.flushesImmediately attempt direction then flow.Flushable
        else flow.Settled
    | none, some (.headers other response) =>
      (other = direction → response.response.isSome = true →
        skips ((worker.overrideModes direction message.modeOverride).modes
          direction) = true → flow.inflight = [] ∧ flow.Recoverable) ∧
      (other ≠ direction → response.panics = true → flow.Settled)
    | none, some (.body other response) =>
      (response.response.isSome = true → other = direction →
        ∃ bytes rest, flow.inflight = .data bytes :: rest) ∧
      (response.response = none → other = .response → flow.Settled)
    | none, some (.trailers other _) =>
      other = direction → ∃ trailers, flow.inflight = [.trailers trailers]
    | none, none => worker.config.failureModeAllow = true → flow.Recoverable

def Solicited (worker : Worker) (event : Event) : Prop :=
  match event.handled with
  | some (.headers direction _) | some (.body direction _) | some (.trailers direction _) =>
    worker.given direction = true
  | _ => True

def Lossless (worker : Worker) (event : Event) : Prop :=
  worker.Solicited event ∧
    ∀ direction, (worker.get direction).frameBridge.injector = true →
      worker.KeepsFrames direction event

end Worker

variable {body : Body}

/-! ## One step -/

theorem OpenOk.stays (ok : OpenOk original flow injected sent answers) (opened : flow.isOpen) :
    Standing original true flow (injected ++ []) (sent ++ []) (answers ++ []) := by
  rw [append_nil, append_nil, append_nil]
  exact .inr (.inr ⟨rfl, opened, ok⟩)

namespace Worker

/-- How a direction stands after an event that sends nothing to the processor. -/
def StandsAfter (worker : Worker) (direction : Direction) (event : Event) (body : Body)
    (injected : List FrameResult) (sent : List Frame) (answers : List Answer) : Prop :=
  Standing (bodyStream body) (!worker.ends event) (worker.flowAfter direction event)
    (injected ++ worker.passedOn direction event) sent
    (answers ++ (event.answerTo direction).toList)

section

variable {worker : Worker}

omit [HttpCrate] [RegexEngine] in
theorem continues_of_notReplaced {status : ResponseStatus}
    (notReplaced : status ≠ .continueAndReplace) : status = .continue := by
  cases status with
  | «continue» => rfl
  | continueAndReplace => exact (notReplaced rfl).elim

variable (opened : (worker.get direction).flow.isOpen = true)
  (ok : OpenOk (bodyStream body) (worker.get direction).flow injected sent answers)

include opened ok

theorem extension_stands (keeps : worker.KeepsFrames direction
      (.inbound (some (.ok ⟨some duration, modeOverride, response, shown⟩)))) :
    worker.StandsAfter direction
      (.inbound (some (.ok ⟨some duration, modeOverride, response, shown⟩))) body injected
      sent answers := by
  change Standing (bodyStream body) (!(worker.timeoutExtended || (extension duration).isNone))
    (worker.get direction).flow (injected ++ []) sent (answers ++ [])
  rw [append_nil answers]
  cases leaves : worker.timeoutExtended || (extension duration).isNone with
  | false => simpa using ok.stays opened
  | true =>
    rw [Bool.or_eq_true, isNone_iff_eq_none] at leaves
    exact ok.settled (keeps leaves) (.inl rfl)

omit opened in
theorem immediateResponse_stands (keeps : worker.KeepsFrames direction
      (.ofResponse modeOverride shown (.immediateResponse attempt))) :
    worker.StandsAfter direction (.ofResponse modeOverride shown (.immediateResponse attempt))
      body injected sent answers := by
  change Standing (bodyStream body) false _
    (injected ++ worker.immediateFrames attempt direction) sent (answers ++ [])
  rw [append_nil answers, immediateFrames]
  cases fails : worker.failsImmediately direction with
  | true =>
    refine .inl ⟨(ExtProcError.timeout "immediate response disabled".toList).toBodyError, ?_⟩
    apply mem_append_right
    exact mem_append_left _ (mem_cons_self ..)
  | false =>
    have kept := keeps fails
    cases flushes : worker.flushesImmediately attempt direction with
    | true =>
      rw [if_pos flushes] at kept
      exact ok.flushed kept (.inl rfl)
    | false =>
      rw [if_neg (by simp [flushes])] at kept
      exact ok.settled kept (.inl rfl)

theorem headers_stand (keeps : worker.KeepsFrames direction
      (.ofResponse modeOverride shown (.headers other response)))
    (notReplaced : (Event.ofResponse modeOverride shown (.headers other response)).replaces
      direction = false) :
    worker.StandsAfter direction (.ofResponse modeOverride shown (.headers other response))
      body injected sent answers := by
  by_cases same : other = direction
  · have continues : ∀ data, response.response = some data → data.status = .continue := by
      intro data given
      apply continues_of_notReplaced
      intro replaced
      simp [Event.replaces, Event.handled, same, given, replaced] at notReplaced
    have answered := ok.headersAnswered opened continues (keeps.1 same)
    have returns : response.panics = false := by
      rw [HeadersResponse.panics, Option.any_eq_false_iff_get]
      intro given
      simp [continues _ (some_get given).symm]
    simpa [StandsAfter, flowAfter, passedOn, ends, Event.answerTo, Event.handled, same, returns]
      using answered
  · cases panics : response.panics with
    | true =>
      simpa [StandsAfter, passedOn, ends, Event.answerTo, Event.handled, same, panics]
        using ok.settled (keeps.2 same panics) (.inl rfl)
    | false =>
      simpa [StandsAfter, flowAfter, passedOn, ends, Event.answerTo, Event.handled, same, panics]
        using ok.stays opened

theorem body_stands
    (keeps : worker.KeepsFrames direction (.ofResponse modeOverride shown (.body other response)))
    (notReplaced : (Event.ofResponse modeOverride shown (.body other response)).replaces
      direction = false) :
    worker.StandsAfter direction (.ofResponse modeOverride shown (.body other response))
      body injected sent answers := by
  cases given : response.response with
  | none =>
    -- Only an empty answer for the response ends the loop.
    cases other with
    | response =>
      simpa [StandsAfter, passedOn, ends, Event.answerTo, Event.handled,
        given, bodyAnsweredFrames] using
        ok.settled (keeps.2 given rfl) (.inl rfl)
    | request =>
      simpa [StandsAfter, flowAfter, passedOn, ends, Event.answerTo, Event.handled,
        given, bodyAnswered, bodyAnsweredFrames] using ok.stays opened
  | some data =>
    by_cases same : other = direction
    · have continues : data.status = .continue := by
        apply continues_of_notReplaced
        intro replaced
        simp [Event.replaces, Event.handled, same, given, replaced] at notReplaced
      rcases keeps.1 (by rw [given]; rfl) same with ⟨bytes, rest, oldest⟩
      have answered := ok.bodyAnswered opened given continues oldest
      simpa [StandsAfter, flowAfter, passedOn, ends, Event.answerTo, Event.handled, same,
        given] using answered
    · simpa [StandsAfter, flowAfter, passedOn, ends, Event.answerTo, Event.handled, same,
        given] using ok.stays opened

theorem trailers_stand (keeps : worker.KeepsFrames direction
      (.ofResponse modeOverride shown (.trailers other response))) :
    worker.StandsAfter direction (.ofResponse modeOverride shown (.trailers other response))
      body injected sent answers := by
  by_cases same : other = direction
  · rcases keeps same with ⟨trailers, last⟩
    have answered := ok.trailersAnswered response last
    cases same
    simpa [StandsAfter, flowAfter, passedOn, ends, Event.answerTo, Event.handled] using answered
  · simpa [StandsAfter, flowAfter, passedOn, ends, Event.answerTo, Event.handled, same]
      using ok.stays opened

theorem received_standing (keeps : worker.KeepsFrames direction (.inbound (some (.ok message))))
    (notReplaced : (Event.inbound (some (.ok message))).replaces direction = false) :
    worker.StandsAfter direction (.inbound (some (.ok message))) body injected sent
      answers := by
  rcases message with ⟨override, modeOverride, response, shown⟩
  cases override with
  | some duration => exact extension_stands opened ok keeps
  | none =>
    cases response with
    | none =>
      change Standing (bodyStream body) false
        ((worker.get direction).flow.failed worker.config.failureModeAllow)
        (injected ++ (worker.get direction).flow.failedFrames
          worker.config.failureModeAllow _) sent (answers ++ [])
      rw [append_nil answers]
      exact ok.failed keeps _
    | some response =>
      cases response with
      | immediateResponse attempt => exact immediateResponse_stands ok keeps
      | headers other response => exact headers_stand opened ok keeps notReplaced
      | body other response => exact body_stands opened ok keeps notReplaced
      | trailers other response => exact trailers_stand opened ok keeps

end

theorem flowAfter_closed (worker : Worker) (direction : Direction) (event : Event)
    (closed : (worker.get direction).flow.isOpen = false) :
    (worker.flowAfter direction event).isOpen = false := by
  cases event with
  | task | tasksClosed => exact closed
  | timeout => exact isOpen_failed _ _
  | outbound other accepted =>
    rw [flowAfter]
    split
    · exact outbound_closed closed _
    · exact closed
  | inbound message =>
    cases message with
    | none => exact isOpen_failed _ _
    | some message =>
      cases message with
      | error text => exact isOpen_failed _ _
      | ok message =>
        rw [flowAfter]
        split
        · exact closed
        · split <;> exact closed
        · split
          · exact headersAnswered_closed closed _ _
          · exact closed
        · split
          · exact bodyAnswered_closed closed _
          · exact closed
        · split
          · exact isOpen_trailersAnswered _
          · exact closed
        · exact isOpen_failed _ _

theorem step_standing {worker : Worker} (taken : worker.step event = some progress)
    (goesOn : ∀ task accepted, event ≠ .task direction task accepted)
    (lossless : worker.Lossless event) (notReplaced : event.replaces direction = false)
    (standing : Standing (bodyStream body) true (worker.get direction).flow injected sent answers) :
    Standing (bodyStream body) progress.1.running (progress.1.get direction).flow
      (injected ++ injectedTo direction progress.2) (sent ++ sentTo direction progress.2)
      (answers ++ (event.answerTo direction).toList) := by
  have moves := step_moves taken direction goesOn
  rw [moves.flow, moves.injected, moves.sent, step_running taken]
  apply standing.step (flowAfter_closed worker direction event)
  intro opened ok
  have keeps := lossless.2 direction opened
  rcases step_takes taken with ⟨_, takes⟩
  cases event with
  | task other task accepted => exact ok.stays opened
  | tasksClosed =>
    change Standing (bodyStream body) false (worker.get direction).flow (injected ++ [])
      (sent ++ []) (answers ++ [])
    rw [append_nil sent, append_nil answers]
    exact ok.settled keeps (.inl rfl)
  | inbound message =>
    change Standing (bodyStream body) _ _ _ (sent ++ []) _
    rw [append_nil sent]
    cases message with
    | none =>
      change Standing (bodyStream body) _ _ _ sent (answers ++ [])
      rw [append_nil answers]
      exact ok.failed keeps _
    | some message =>
      cases message with
      | error text =>
        change Standing (bodyStream body) _ _ _ sent (answers ++ [])
        rw [append_nil answers]
        exact ok.failed keeps _
      | ok message => exact received_standing opened ok keeps notReplaced
  | outbound other accepted =>
    by_cases same : other = direction
    · have reading : (worker.get direction).flow.complete = false := by
        have enabled := takes.1
        rw [outboundEnabled, Bool.and_eq_true, Bool.not_eq_true', same] at enabled
        exact enabled.2
      have read := ok.outbound opened reading (keeps same)
      simpa [flowAfter, passedOn, sentOn, ends, Event.answerTo, Event.handled, same] using read
    · simpa [flowAfter, passedOn, sentOn, ends, Event.answerTo, Event.handled, same]
        using ok.stays opened
  | timeout =>
    change Standing (bodyStream body) _ _ _ (sent ++ []) (answers ++ [])
    rw [append_nil sent, append_nil answers]
    exact ok.failed keeps _

/-- A direction that was not given yet is left alone while the loop goes on. -/
theorem step_leaves {worker : Worker} (taken : worker.step event = some progress)
    (solicited : worker.Solicited event) (notGiven : worker.given direction = false)
    (fresh : (worker.get direction).flow = ({} : Processing).flow)
    (goesOn : worker.ends event = false) :
    worker.flowAfter direction event = (worker.get direction).flow ∧
      worker.sentOn direction event = [] ∧ event.answerTo direction = none := by
  rcases step_takes taken with ⟨_, takes⟩
  cases event with
  | task other task accepted => exact ⟨rfl, rfl, rfl⟩
  | tasksClosed | timeout => cases goesOn
  | outbound other accepted =>
    have different : other ≠ direction := by
      intro same
      have enabled := takes.1
      rw [same, outboundEnabled, Bool.and_eq_true] at enabled
      have idle : (worker.get direction).streamingBodyEnabled = false :=
        congrArg streaming fresh
      rw [idle] at enabled
      cases enabled.1
    simp [flowAfter, sentOn, different, Event.answerTo, Event.handled]
  | inbound message =>
    have different : ∀ other, worker.given other → other ≠ direction := by
      intro other given same
      rw [same, notGiven] at given
      cases given
    rcases message with _ | _ | ⟨override, modeOverride, response, shown⟩
    · cases goesOn
    · cases goesOn
    · cases override with
      | some duration => exact ⟨rfl, rfl, rfl⟩
      | none =>
        cases response with
        | none => cases goesOn
        | some response =>
          cases response with
          | immediateResponse attempt => cases goesOn
          | headers other response | body other response | trailers other response =>
            simp [flowAfter, sentOn, Event.answerTo, Event.handled, different other solicited]

end Worker

/-! ## Whole runs -/

structure Kept (direction : Direction) (events : List Event) (outputs : List Emission)
    (worker : Worker) : Prop where
  given : worker.given direction = (givenBody direction events).isSome
  fresh : givenBody direction events = none → worker.running = true →
    (worker.get direction).flow = ({} : Processing).flow ∧
      injectedTo direction outputs = [] ∧ sentTo direction outputs = [] ∧
      answersTo direction events = []
  standing : ∀ body, givenBody direction events = some body →
    (∀ event ∈ events, event.replaces direction = false) →
    Standing (bodyStream body) worker.running (worker.get direction).flow
      (injectedTo direction outputs) (sentTo direction outputs) (answersTo direction events)

theorem Kept.initial (direction : Direction) (config : ExternalProcessingWorkerConfig)
    (modes : OverridableGlobalModes) : Kept direction [] [] (.ofConfig config modes) where
  given := by cases direction <;> rfl
  fresh _ _ := ⟨by cases direction <;> rfl, rfl, rfl, rfl⟩
  standing _ given := by cases given

theorem OpenOk.ofBody (body : Body) (streaming : Bool) :
    OpenOk (bodyStream body) (.ofBody body streaming) [] [] [] where
  wellKept := by
    refine ⟨?_, ?_, ?_⟩
    · intro trailers member
      cases member
    · intro ended
      cases ended
    · intro parked
      cases parked
  accounted := .inr (.initial _ _ rfl rfl rfl)

namespace Kept

variable {worker : Worker}

section

variable (kept : Kept direction events outputs worker)

include kept

theorem noBody (notGiven : worker.given direction = false) : givenBody direction events = none := by
  rw [kept.given, isSome_eq_false_iff, isNone_iff_eq_none] at notGiven
  exact notGiven

theorem start (taken : worker.step (.task direction task accepted) = some progress) :
    Kept direction (events ++ [.task direction task accepted]) (outputs ++ progress.2)
      progress.1 := by
  rcases Worker.step_takes taken with ⟨running, expected, rfl⟩
  have notGiven : worker.given direction = false := by
    cases direction <;> simp_all [Worker.expects]
  have noBody := kept.noBody notGiven
  rcases kept.fresh noBody running with ⟨fresh, injected, sent, answers⟩
  rcases worker.takeTask_starts direction false task accepted fresh
    with ⟨flow, given, noneInjected, noneSent⟩
  have body : givenBody direction (events ++ [.task direction task accepted]) = some task.body := by
    simp [givenBody_append, noBody, Event.given]
  refine ⟨?_, ?_, ?_⟩
  · rw [given, body]
    rfl
  · intro none
    rw [body] at none
    cases none
  · intro original givenOriginal _
    rw [body] at givenOriginal
    cases givenOriginal
    rw [flow, injectedTo_append, sentTo_append, answersTo_append, injected, sent, answers,
      noneInjected, noneSent, Worker.running_takeTask, running]
    exact .inr (.inr ⟨rfl, rfl, .ofBody task.body _⟩)

theorem goOn (lossless : worker.Lossless event) (taken : worker.step event = some progress)
    (goesOn : ∀ task accepted, event ≠ .task direction task accepted) :
    Kept direction (events ++ [event]) (outputs ++ progress.2) progress.1 := by
  have running := (Worker.step_takes taken).1
  have moves := Worker.step_moves taken direction goesOn
  have nothingGiven : event.given direction = none := by
    cases event with
    | task other task accepted =>
      have different : other ≠ direction := by
        intro same
        exact goesOn task accepted (same ▸ rfl)
      simp [Event.given, different]
    | _ => rfl
  have body : givenBody direction (events ++ [event]) = givenBody direction events := by
    rw [givenBody_append, nothingGiven, or_none]
  refine ⟨?_, ?_, ?_⟩
  · rw [moves.given, kept.given, body]
  · intro noBody stillRunning
    rw [body] at noBody
    rcases kept.fresh noBody running with ⟨fresh, injected, sent, answers⟩
    have notGiven : worker.given direction = false := by
      rw [kept.given, noBody]
      rfl
    have stays : worker.ends event = false := by
      rw [Worker.step_running taken, Bool.not_eq_true'] at stillRunning
      exact stillRunning
    rcases Worker.step_leaves taken lossless.1 notGiven fresh stays with ⟨flow, noneSent, noAnswer⟩
    rw [moves.flow, injectedTo_append, sentTo_append, answersTo_append, moves.injected,
      moves.sent, injected, sent, answers, flow, noneSent, noAnswer, fresh]
    exact ⟨rfl, rfl, rfl, rfl⟩
  · intro original given notReplaced
    rw [body] at given
    rw [injectedTo_append, sentTo_append, answersTo_append]
    have standing := kept.standing original given fun earlier member =>
      notReplaced earlier (mem_append_left _ member)
    rw [running] at standing
    exact Worker.step_standing taken goesOn lossless (notReplaced event (by simp)) standing

theorem step (lossless : worker.Lossless event) (taken : worker.step event = some progress) :
    Kept direction (events ++ [event]) (outputs ++ progress.2) progress.1 := by
  by_cases starts : ∃ task accepted, event = .task direction task accepted
  · rcases starts with ⟨task, accepted, rfl⟩
    exact kept.start taken
  · apply kept.goOn lossless taken
    intro task accepted same
    exact starts ⟨task, accepted, same⟩

theorem notTruncated : NotTruncated direction events outputs worker := by
  intro body given ended noError notReplaced
  rcases kept.standing body given notReplaced with
    ⟨error, member⟩ | ⟨_, faithful⟩ | ⟨running, isOpen, _⟩
  · exact absurd member (noError error)
  · exact faithful
  · rcases ended with stopped | closed
    · rw [running] at stopped
      cases stopped
    · have isClosed : (worker.get direction).flow.isOpen = false := closed
      rw [isOpen] at isClosed
      cases isClosed

end

end Kept

/-- In a run in which no event loses a frame, no body is truncated silently. -/
theorem run_notTruncated {config : ExternalProcessingWorkerConfig} {modes : OverridableGlobalModes}
    {events : List Event} {outputs : List Emission} {worker : Worker}
    (run : Worker.processingLoop.Run Worker.Lossless (.ofConfig config modes) events outputs
      worker) (direction : Direction) : NotTruncated direction events outputs worker := by
  have kept : Kept direction events outputs worker :=
    run.invariant (Kept direction) (.initial direction config modes)
      fun kept lossless taken => kept.step lossless taken
  exact kept.notTruncated

end

/-! ## A frame lost and a body kept -/

def streamingProcessor : ExternalProcessor :=
  .ofConfig (.lenient { requestBodyMode := .streamed }) none

def streamingWorker : Worker :=
  .ofConfig streamingProcessor.workerConfig streamingProcessor.overridableModes

/-- A request with data in its body, whose headers the processor lets pass. -/
def acceptedHeaders (data : List Bytes) : List Event :=
  [.task .request ⟨some [], ⟨data, none, none⟩, .http11⟩ true,
    .inbound (some (.ok { response := some (.headers .request ⟨some {}⟩) }))]

/-- The first frame was read and is held back when the processor closes the stream:
only the second is passed on. -/
def closedEarly : List Event :=
  acceptedHeaders [[1], [2]] ++ [.outbound .request true, .inbound none]

def closedEarlyOutputs : List Emission :=
  [(.request, .send (.headers [] false) true), (.request, .reply (.requestReady {})),
    (.request, .inject (.ok (.data [2])))]

attribute [local instance] HttpCrate.ascii RegexEngine.literal

theorem close_loses_held_frame :
    ∃ worker,
      Worker.processingLoop.Run Machine.anyStep streamingWorker closedEarly
        closedEarlyOutputs worker ∧
        ¬ NotTruncated .request closedEarly closedEarlyOutputs worker := by
  refine ⟨_, Machine.Run.any_of_execute rfl, ?_⟩
  intro notTruncated
  have noError : ∀ error, .error error ∉ injectedTo .request closedEarlyOutputs := by
    intro error member
    cases member with
    | tail _ member => cases member
  have faithful := notTruncated ⟨[[1], [2]], none, none⟩ rfl (.inl rfl) noError (by decide)
  have lengths := faithful.length_eq
  cases lengths

def answeredInTime : List Event :=
  acceptedHeaders [[1]] ++ [.outbound .request true, .outbound .request true,
    .inbound (some (.ok { response := some (.body .request ⟨some {}⟩) }))]

def answeredInTimeOutputs : List Emission :=
  [(.request, .send (.headers [] false) true), (.request, .reply (.requestReady {})),
    (.request, .send (.body [1] true) true), (.request, .inject (.ok (.data [1])))]

theorem run_notTruncated_answered :
    ∃ worker,
      Worker.processingLoop.Run Worker.Lossless streamingWorker answeredInTime
        answeredInTimeOutputs worker ∧
      Faithful (bodyStream ⟨[[1]], none, none⟩) [.ok (.data [1])] [.data [1]]
        [.body ⟨some {}⟩] := by
  have lossless : Worker.processingLoop.AllAllowed Worker.Lossless streamingWorker
      answeredInTime := by
    refine ⟨⟨trivial, fun _ _ => trivial⟩, ⟨rfl, ?_⟩, ⟨trivial, ?_⟩, ⟨trivial, ?_⟩,
      ⟨rfl, ?_⟩, trivial⟩
    · intro direction _
      refine ⟨fun same _ skips => ?_, fun _ panics => (by cases panics)⟩
      cases same
      cases skips
    · intro direction _ same unprocessed
      cases same
      cases unprocessed
    · intro direction _ same unprocessed
      cases same
      cases unprocessed
    · intro direction _
      refine ⟨?_, ?_⟩
      · intro _ same
        cases same
        exact ⟨[1], [], rfl⟩
      · intro unanswered
        cases unanswered
  have run := Machine.Run.of_execute
    (show Worker.processingLoop.execute streamingWorker answeredInTime =
      some (_, answeredInTimeOutputs) from rfl) lossless
  have noError : ∀ error, .error error ∉ injectedTo .request answeredInTimeOutputs := by
    intro error member
    cases member with
    | tail _ member => cases member
  exact ⟨_, run, run_notTruncated run .request ⟨[[1]], none, none⟩ rfl (.inr rfl) noError
    (by decide)⟩

end Orion.ExtProc
