import Orion.Clusters.Balancers.Balancer
import Orion.Configuration.RetryPolicy
import Orion.Foundation.Execution

/-! # Health checkers

A checker is a task that checks one endpoint again and again, and waits in between. Its
steps are those between which other tasks may run. A wait or a check is ended by the stop
signal if the checker waits when it is raised.
-/

namespace Orion.Health

open Foundation Http Orion.Configuration Clusters

/-! ## Counting health checks

The status of an endpoint changes when enough checks in a row have the same result.
-/

/-- Successes are counted upwards and failures downwards; the threshold for failures is
negative. -/
structure HealthStatusCounter where
  status : Option HealthStatus
  checks : Int
  healthyThreshold : Int
  unhealthyThreshold : Int
  deriving DecidableEq

namespace HealthStatusCounter

def new (healthyThreshold unhealthyThreshold : Fin 65536) : HealthStatusCounter :=
  ⟨none, 0, healthyThreshold, -unhealthyThreshold⟩

section

variable (self : HealthStatusCounter)

def update (newStatus : HealthStatus) : Option HealthStatus × HealthStatusCounter :=
  let self := if some newStatus ≠ self.status then { self with status := some newStatus } else self
  (self.status, self)

/-- A successful check; the status is returned if it changes. -/
def addSuccess : Option HealthStatus × HealthStatusCounter :=
  let self := if self.checks < 0 then { self with checks := 0 } else self
  -- There is no need to count beyond the threshold.
  let self := if self.checks < self.healthyThreshold then
    { self with checks := self.checks + 1 } else self
  match self.status with
  | none => self.update .healthy
  | some .healthy => (none, self)
  | some .unhealthy =>
    if self.checks ≥ self.healthyThreshold then self.update .healthy else (none, self)

def addFailureImpl (ignoreThreshold : Bool) : Option HealthStatus × HealthStatusCounter :=
  let self := if self.checks > 0 then { self with checks := 0 } else self
  let self := if self.checks > self.unhealthyThreshold then
    { self with checks := self.checks - 1 } else self
  match self.status with
  | none => self.update .unhealthy
  | some .unhealthy => (none, self)
  | some .healthy =>
    if ignoreThreshold ∨ self.checks ≤ self.unhealthyThreshold then self.update .unhealthy
    else (none, self)

def addFailure : Option HealthStatus × HealthStatusCounter :=
  self.addFailureImpl false

def addFailureIgnoreThreshold : Option HealthStatus × HealthStatusCounter :=
  self.addFailureImpl true

end

end HealthStatusCounter

/-! ## Configuration -/

structure ClusterHealthCheck where
  timeout : Duration
  interval : Duration
  unhealthyThreshold : Fin 65536
  healthyThreshold : Fin 65536
  initialJitter : Option Duration := none
  intervalJitter : Option Duration := none
  /-- The bits of a 32-bit float. -/
  intervalJitterPercent : BitVec 32 := 0
  unhealthyInterval : Option Duration := none
  unhealthyEdgeInterval : Option Duration := none
  healthyEdgeInterval : Option Duration := none
  deriving DecidableEq

structure EndpointId where
  cluster : Text
  endpoint : Authority
  deriving DecidableEq

structure EndpointHealthUpdate where
  endpoint : EndpointId
  health : HealthStatus
  changed : Bool
  deriving DecidableEq

/-- The arithmetic of the standard library on time spans and floats. -/
class DurationArithmetic where
  mulF32 : Duration → BitVec 32 → Except Panic Duration

/-! ## Results of checks -/

inductive Verdict where
  | success
  | failure
  /-- A failure whatever the threshold. -/
  | immediateFailure
  deriving DecidableEq

inductive CheckOutcome where
  | timeout
  | error
  | response (verdict : Verdict)
  deriving DecidableEq

def Verdict.processResponse (verdict : Verdict) (counter : HealthStatusCounter) :
    Option HealthStatus × HealthStatusCounter :=
  match verdict with
  | .success => counter.addSuccess
  | .failure => counter.addFailure
  | .immediateFailure => counter.addFailureIgnoreThreshold

def CheckOutcome.count (outcome : CheckOutcome) (counter : HealthStatusCounter) :
    Option HealthStatus × HealthStatusCounter :=
  match outcome with
  | .timeout | .error => counter.addFailure
  | .response verdict => verdict.processResponse counter

/-! ## Waiting -/

inductive CurrentHealthStatus where
  | unchanged (status : Option HealthStatus)
  | edge (status : HealthStatus)
  deriving DecidableEq

def CurrentHealthStatus.ofChange (change : Option HealthStatus)
    (counter : HealthStatusCounter) : CurrentHealthStatus :=
  match change with
  | some newStatus => .edge newStatus
  | none => .unchanged counter.status

/-- A sum that cannot be counted panics. -/
def addDurations (left right : Duration) : Except Panic Duration :=
  if left + right ≤ Duration.max then .ok (left + right) else .error .overflow

def ClusterHealthCheck.baseInterval (config : ClusterHealthCheck) :
    CurrentHealthStatus → Duration
  | .edge .healthy => config.healthyEdgeInterval.getD config.interval
  | .edge .unhealthy => config.unhealthyEdgeInterval.getD config.interval
  | .unchanged (some .unhealthy) => config.unhealthyInterval.getD config.interval
  | .unchanged _ => config.interval

def ClusterHealthCheck.waitInterval [DurationArithmetic] (config : ClusterHealthCheck)
    (status : CurrentHealthStatus) : Except Panic Duration := do
  let interval ← match config.intervalJitter with
    | some jitter => addDurations (config.baseInterval status) jitter
    | none => .ok (config.baseInterval status)
  addDurations interval (← DurationArithmetic.mulF32 interval config.intervalJitterPercent)

inductive TimeoutResult where
  | ok
  /-- The time has elapsed first. -/
  | err
  deriving DecidableEq

def TimeoutResult.isErr : TimeoutResult → Bool
  | .ok => false
  | .err => true

def waitWasCancelled (result : TimeoutResult) : Bool := result.isErr

/-! ## The loop -/

inductive CheckerPhase where
  /-- The task has not begun yet. -/
  | spawned
  | jitter
  /-- Before the next check. -/
  | ready
  /-- The check is in flight. -/
  | checking
  | sending (update : EndpointHealthUpdate) (change : Option HealthStatus)
  /-- The update is sent; before the wait. -/
  | sent (change : Option HealthStatus)
  | waiting
  | returned
  | panicked
  deriving DecidableEq

structure CheckerState where
  phase : CheckerPhase
  counter : HealthStatusCounter
  /-- The stop signal was raised during this wait or check. -/
  notified : Bool
  deriving DecidableEq

inductive CheckerEvent where
  | begin
  /-- Another task raises the stop signal. -/
  | stop
  /-- The time of a wait has elapsed. -/
  | elapsed
  /-- The signal has reached the checker. -/
  | woken
  | check
  | answered (outcome : CheckOutcome)
  | sent
  | wait
  deriving DecidableEq

inductive CheckerOutput where
  | update (update : EndpointHealthUpdate)
  | waits (interval : Duration)
  deriving DecidableEq

namespace CheckerPhase

def listens : CheckerPhase → Bool
  | .jitter | .checking | .waiting => true
  | _ => false

def ended : CheckerPhase → Bool
  | .returned | .panicked => true
  | _ => false

end CheckerPhase

namespace CheckerState

def spawn (config : ClusterHealthCheck) : CheckerState :=
  ⟨.spawned, .new config.healthyThreshold config.unhealthyThreshold, false⟩

/-- Only a checker that waits for the signal notices it. -/
def notifyWaiters (self : CheckerState) : CheckerState :=
  { self with notified := self.notified || self.phase.listens }

/-- Go on to another phase, in which the signal has not been raised yet. -/
def enter (self : CheckerState) (phase : CheckerPhase) : CheckerState :=
  { self with phase := phase, notified := false }

def afterWait (self : CheckerState) (cancelled : Bool) : CheckerState :=
  self.enter (if cancelled then .returned else .ready)

def begun (config : ClusterHealthCheck) (self : CheckerState) : CheckerState :=
  match config.initialJitter with
  | some _ => self.enter .jitter
  | none => self.afterWait false

def answered (endpoint : EndpointId) (self : CheckerState) (outcome : CheckOutcome) :
    CheckerState :=
  let (change, counter) := outcome.count self.counter
  { self with
    phase := .sending ⟨endpoint, counter.status.getD .healthy, change.isSome⟩ change
    counter := counter
    notified := false }

variable [DurationArithmetic]

def step (endpoint : EndpointId) (config : ClusterHealthCheck) (self : CheckerState) :
    CheckerEvent → Option (CheckerState × List CheckerOutput)
  | .begin =>
    match self.phase with
    | .spawned => some (self.begun config, [])
    | _ => none
  | .stop => some (self.notifyWaiters, [])
  | .elapsed =>
    match self.phase, self.notified with
    | .jitter, false | .waiting, false => some (self.afterWait (waitWasCancelled .err), [])
    | _, _ => none
  | .woken =>
    match self.phase, self.notified with
    | .jitter, true | .waiting, true => some (self.afterWait (waitWasCancelled .ok), [])
    | .checking, true => some (self.enter .returned, [])
    | _, _ => none
  | .check =>
    match self.phase with
    | .ready => some (self.enter .checking, [])
    | _ => none
  -- The answer may come in together with the signal, and either may be taken.
  | .answered outcome =>
    match self.phase with
    | .checking => some (self.answered endpoint outcome, [])
    | _ => none
  | .sent =>
    match self.phase with
    | .sending update change => some (self.enter (.sent change), [.update update])
    | _ => none
  | .wait =>
    match self.phase with
    | .sent change =>
      match config.waitInterval (.ofChange change self.counter) with
      | .ok interval => some (self.enter .waiting, [.waits interval])
      | .error _ => some (self.enter .panicked, [])
    | _ => none

def machine (endpoint : EndpointId) (config : ClusterHealthCheck) :
    Machine CheckerState CheckerEvent CheckerOutput where
  step := step endpoint config

end CheckerState

/-! ## Runs of a health checker

A checker takes the end of a wait for a stop, and a stop during a wait for its end: without
a signal it returns after its first wait, and with one it goes on. A signal is lost when it
is raised while the checker does not wait.
-/

open DurationArithmetic List Machine

/-! ## Steps -/

namespace CheckerState

section

variable [DurationArithmetic]

inductive Moves (endpoint : EndpointId) (config : ClusterHealthCheck) (state : CheckerState) :
    CheckerEvent → CheckerState → List CheckerOutput → Prop
  | begin (spawned : state.phase = .spawned) :
      Moves endpoint config state .begin (state.begun config) []
  | stop : Moves endpoint config state .stop state.notifyWaiters []
  | elapsed (waits : state.phase = .jitter ∨ state.phase = .waiting)
      (unnotified : state.notified = false) :
      Moves endpoint config state .elapsed (state.enter .returned) []
  | woken (waits : state.phase = .jitter ∨ state.phase = .waiting)
      (notified : state.notified = true) :
      Moves endpoint config state .woken (state.enter .ready) []
  | cancelled (checking : state.phase = .checking) (notified : state.notified = true) :
      Moves endpoint config state .woken (state.enter .returned) []
  | check (ready : state.phase = .ready) :
      Moves endpoint config state .check (state.enter .checking) []
  | answered (checking : state.phase = .checking) (outcome : CheckOutcome) :
      Moves endpoint config state (.answered outcome) (state.answered endpoint outcome) []
  | sent {update change} (sending : state.phase = .sending update change) :
      Moves endpoint config state .sent (state.enter (.sent change)) [.update update]
  | wait {change interval} (done : state.phase = .sent change)
      (computed : config.waitInterval (.ofChange change state.counter) = .ok interval) :
      Moves endpoint config state .wait (state.enter .waiting) [.waits interval]
  | panic {change panic} (done : state.phase = .sent change)
      (overflow : config.waitInterval (.ofChange change state.counter) = .error panic) :
      Moves endpoint config state .wait (state.enter .panicked) []

variable {endpoint : EndpointId} {config : ClusterHealthCheck} {state next : CheckerState}
  {event : CheckerEvent} {events : List CheckerEvent} {outputs : List CheckerOutput}

theorem moves_of_step (taken : step endpoint config state event = some (next, emitted)) :
    Moves endpoint config state event next emitted := by
  cases event with
  | stop =>
    cases taken
    exact .stop
  | begin =>
    simp only [step] at taken
    split at taken
    · rename_i spawned
      cases taken
      exact .begin spawned
    · cases taken
  | elapsed =>
    simp only [step] at taken
    split at taken
    · rename_i phase unnotified
      cases taken
      exact .elapsed (.inl phase) unnotified
    · rename_i phase unnotified
      cases taken
      exact .elapsed (.inr phase) unnotified
    · cases taken
  | woken =>
    simp only [step] at taken
    split at taken
    · rename_i phase notified
      cases taken
      exact .woken (.inl phase) notified
    · rename_i phase notified
      cases taken
      exact .woken (.inr phase) notified
    · rename_i phase notified
      cases taken
      exact .cancelled phase notified
    · cases taken
  | check =>
    simp only [step] at taken
    split at taken
    · rename_i ready
      cases taken
      exact .check ready
    · cases taken
  | answered outcome =>
    simp only [step] at taken
    split at taken
    · rename_i checking
      cases taken
      exact .answered checking outcome
    · cases taken
  | sent =>
    simp only [step] at taken
    split at taken
    · rename_i sending
      cases taken
      exact .sent sending
    · cases taken
  | wait =>
    simp only [step] at taken
    split at taken
    · rename_i done
      split at taken
      · rename_i computed
        cases taken
        exact .wait done computed
      · rename_i overflow
        cases taken
        exact .panic done overflow
    · cases taken

omit [DurationArithmetic] in
theorem begun_running (config : ClusterHealthCheck) (state : CheckerState) :
    (state.begun config).phase.ended = false ∧ (state.begun config).notified = false := by
  unfold begun
  split <;> exact ⟨rfl, rfl⟩

/-! ## Whether the loop goes on -/

/-- No wait elapses, and the time to wait can be computed. -/
structure KeepsRunning (config : ClusterHealthCheck) (state : CheckerState)
    (event : CheckerEvent) : Prop where
  pending : event ≠ .elapsed
  fits : ∀ change, event = .wait → state.phase = .sent change →
    ∃ interval, config.waitInterval (.ofChange change state.counter) = .ok interval

theorem KeepsRunning.of_ne (notElapsed : event ≠ .elapsed) (notWait : event ≠ .wait) :
    KeepsRunning config state event :=
  ⟨notElapsed, fun _ same _ => absurd same notWait⟩

/-- Without a signal, a step keeps the checker running exactly if no wait elapses. -/
theorem Moves.keepsRunning_iff (moves : Moves endpoint config state event next emitted)
    (quiet : event ≠ .stop) (unnotified : state.notified = false) :
    next.notified = false ∧ (next.phase.ended = false ↔ KeepsRunning config state event) := by
  cases moves with
  | stop => exact absurd rfl quiet
  | begin =>
    rcases begun_running config state with ⟨running, kept⟩
    exact ⟨kept, iff_of_true running (.of_ne nofun nofun)⟩
  | elapsed => exact ⟨rfl, iff_of_false nofun fun keeps => keeps.pending rfl⟩
  | woken _ notified | cancelled _ notified => cases unnotified.symm.trans notified
  | check | answered | sent => exact ⟨rfl, iff_of_true rfl (.of_ne nofun nofun)⟩
  | @wait change interval done computed =>
    refine ⟨rfl, iff_of_true rfl ⟨nofun, fun other _ same => ?_⟩⟩
    cases done.symm.trans same
    exact ⟨interval, computed⟩
  | @panic change panic done overflow =>
    refine ⟨rfl, iff_of_false nofun fun keeps => ?_⟩
    rcases keeps.fits change rfl done with ⟨interval, computed⟩
    cases overflow.symm.trans computed

theorem Moves.running (moves : Moves endpoint config state event next emitted)
    (quiet : event ≠ .stop) : state.phase.ended = false := by
  cases moves with
  | stop => exact absurd rfl quiet
  | begin phase | check phase | answered phase | sent phase | wait phase | panic phase
  | cancelled phase =>
    rw [phase]
    rfl
  | elapsed waits | woken waits =>
    rcases waits with phase | phase <;> rw [phase] <;> rfl

omit [DurationArithmetic] in
theorem quiet_of_append (quiet : .stop ∉ events ++ [event]) : .stop ∉ events ∧ event ≠ .stop := by
  refine ⟨fun member => quiet (mem_append_left _ member), ?_⟩
  rintro rfl
  exact quiet (mem_append_right _ (mem_singleton_self _))

theorem unnotified_of_run
    (run : (machine endpoint config).Run Allowed (spawn config) events outputs state)
    (quiet : .stop ∉ events) : state.notified = false := by
  induction run with
  | start => rfl
  | extend _ _ taken induction =>
    rcases quiet_of_append quiet with ⟨before, now⟩
    exact ((moves_of_step taken).keepsRunning_iff now (induction before)).1

/-- Without a signal, a checker runs on exactly as long as no wait elapses. -/
theorem running_iff_keepsRunning
    (run : (machine endpoint config).Run anyStep (spawn config) events outputs state)
    (quiet : .stop ∉ events) :
    state.phase.ended = false ↔
      (machine endpoint config).Run (KeepsRunning config) (spawn config) events outputs
        state := by
  constructor
  · induction run with
    | start => exact fun _ => .start
    | extend run _ taken induction =>
      rcases quiet_of_append quiet with ⟨before, now⟩
      have moves := moves_of_step taken
      have keeps := (moves.keepsRunning_iff now (unnotified_of_run run before)).2
      intro running
      exact (induction before (moves.running now)).extend (keeps.mp running) taken
  · intro kept
    induction kept with
    | start => rfl
    | extend earlier keeps taken =>
      rcases quiet_of_append quiet with ⟨before, now⟩
      exact ((moves_of_step taken).keepsRunning_iff now
        (unnotified_of_run earlier before)).2.mpr keeps

/-! ## Whether a signal stops the checker -/

/-- The signal is raised while a check is in flight, and the answer does not come in
together with it. -/
structure StopsInTime (state : CheckerState) (event : CheckerEvent) : Prop where
  inFlight : event = .stop → state.phase = .checking ∨ state.phase.ended = true
  noAnswer : ∀ outcome, event = .answered outcome → state.notified = false

/-- After the signal no check is started, no wait elapses, and the checker has ended or is
about to. -/
structure StopReliable (events : List CheckerEvent) (state : CheckerState) : Prop where
  quiet : ∀ before after, events = before ++ .stop :: after →
    .check ∉ after ∧ .elapsed ∉ after
  ends : .stop ∈ events → state.phase.ended = true ∨
    (state.phase = .checking ∧ state.notified = true)

/-- A checker that has ended or is about to does not check or wait any more. -/
theorem Moves.stays_stopped (moves : Moves endpoint config state event next emitted)
    (inTime : StopsInTime state event)
    (stopped : state.phase.ended ∨ (state.phase = .checking ∧ state.notified)) :
    event ≠ .check ∧ event ≠ .elapsed ∧
      (next.phase.ended ∨ (next.phase = .checking ∧ next.notified)) := by
  rcases stopped with ended | ⟨checking, notified⟩
  · by_cases signal : event = .stop
    · subst signal
      cases moves
      exact ⟨nofun, nofun, .inl ended⟩
    · cases ended.symm.trans (moves.running signal)
  · cases moves with
    | stop => exact ⟨nofun, nofun, .inr ⟨checking, by simp [notifyWaiters, notified]⟩⟩
    | cancelled => exact ⟨nofun, nofun, .inl rfl⟩
    | answered _ outcome => cases (inTime.noAnswer outcome rfl).symm.trans notified
    | begin phase | check phase | sent phase | wait phase | panic phase =>
      cases checking.symm.trans phase
    | elapsed waits | woken waits =>
      rcases waits with phase | phase <;> cases checking.symm.trans phase

theorem Moves.stopped (moves : Moves endpoint config state .stop next emitted)
    (inTime : StopsInTime state .stop) :
    next.phase.ended ∨ (next.phase = .checking ∧ next.notified) := by
  cases moves
  rcases inTime.inFlight rfl with checking | ended
  · exact .inr ⟨checking, by simp [notifyWaiters, CheckerPhase.listens, checking]⟩
  · exact .inl ended

/-- A signal that is raised while a check is in flight stops the checker. -/
theorem stopReliable_of_inTime
    (run : (machine endpoint config).Run StopsInTime (spawn config) events outputs state) :
    StopReliable events state := by
  induction run with
  | start => exact ⟨by simp, nofun⟩
  | @extend events _ state event next _ _ inTime taken reliable =>
    have moves := moves_of_step taken
    refine ⟨?_, ?_⟩
    · intro before after same
      rcases eq_nil_or_concat after with rfl | ⟨earlier, last, rfl⟩
      · exact ⟨nofun, nofun⟩
      · rw [concat_eq_append, ← cons_append, ← append_assoc] at same
        rcases append_inj' same rfl with ⟨rfl, ⟨⟩⟩
        rcases moves.stays_stopped inTime (reliable.ends (by simp)) with ⟨notCheck, notElapsed, _⟩
        rcases reliable.quiet before earlier rfl with ⟨noCheck, noWait⟩
        simp [noCheck, noWait, Ne.symm notCheck, Ne.symm notElapsed]
    · intro member
      rcases mem_append.mp member with known | now
      · exact (moves.stays_stopped inTime (reliable.ends known)).2.2
      · cases mem_singleton.mp now
        exact moves.stopped inTime

end

end CheckerState

/-! ## Runs of one checker -/

@[reducible]
def DurationArithmetic.withoutJitter : DurationArithmetic where
  mulF32 _ _ := .ok 0

def plainCheck : ClusterHealthCheck where
  timeout := 1000000000
  interval := 5000000000
  unhealthyThreshold := 2
  healthyThreshold := 2

def oneCheck : List CheckerEvent :=
  [.begin, .check, .answered (.response .success), .sent, .wait]

attribute [local instance] withoutJitter

/-- The checker waits after its first check, as long as the wait does not elapse. -/
theorem running_while_waiting :
    ∃ outputs state, (CheckerState.machine ⟨[], []⟩ plainCheck).Run anyStep
        (.spawn plainCheck) oneCheck outputs state ∧ state.phase.ended = false := by
  have run : (CheckerState.machine ⟨[], []⟩ plainCheck).Run anyStep (.spawn plainCheck)
      oneCheck _ _ := .any_of_execute rfl
  refine ⟨_, _, run, (CheckerState.running_iff_keepsRunning run (by decide)).mpr ?_⟩
  refine .of_execute rfl ⟨.of_ne nofun nofun, .of_ne nofun nofun, .of_ne nofun nofun,
    .of_ne nofun nofun, ⟨nofun, fun change _ same => ?_⟩, trivial⟩
  cases same
  exact ⟨_, rfl⟩

/-- Without a signal the checker returns after its first wait: after the first check, or
before it if there is an initial wait. -/
theorem checker_returns_without_signal :
    let jittered : ClusterHealthCheck := { plainCheck with initialJitter := some 1000000000 }
    (∃ outputs state, (CheckerState.machine ⟨[], []⟩ plainCheck).Run anyStep
        (.spawn plainCheck) (oneCheck ++ [.elapsed]) outputs state ∧
      state.phase = .returned) ∧
    ∃ outputs state, (CheckerState.machine ⟨[], []⟩ jittered).Run anyStep
        (.spawn jittered) [.begin, .elapsed] outputs state ∧ state.phase = .returned := by
  exact ⟨⟨_, _, .any_of_execute rfl, rfl⟩,
    ⟨_, _, .any_of_execute rfl, rfl⟩⟩

theorem stop_ends_check :
    ∃ outputs state, (CheckerState.machine ⟨[], []⟩ plainCheck).Run anyStep
        (.spawn plainCheck) [.begin, .check, .stop, .woken] outputs state ∧
      CheckerState.StopReliable [.begin, .check, .stop, .woken] state := by
  refine ⟨_, _, .any_of_execute rfl,
    @CheckerState.stopReliable_of_inTime _ ⟨[], []⟩ plainCheck _ _ _ (.of_execute rfl ?_)⟩
  exact ⟨⟨nofun, nofun⟩, ⟨nofun, nofun⟩, ⟨fun _ => .inl rfl, nofun⟩, ⟨nofun, nofun⟩, trivial⟩

def IgnoresStop [DurationArithmetic] (events : List CheckerEvent) : Prop :=
  ∃ outputs state, (CheckerState.machine ⟨[], []⟩ plainCheck).Run anyStep
      (.spawn plainCheck) events outputs state ∧
    ¬ CheckerState.StopReliable events state

/-- A signal during a wait starts another check, and one while the update is sent does not
end the wait that follows. -/
theorem stop_starts_check_or_is_lost :
    IgnoresStop (oneCheck ++ [.stop, .woken, .check]) ∧
      IgnoresStop [.begin, .check, .answered (.response .success), .stop, .sent, .wait,
        .elapsed] := by
  constructor
  · refine ⟨_, _, .any_of_execute rfl, fun reliable => ?_⟩
    exact (reliable.quiet oneCheck [.woken, .check] rfl).1 (by decide)
  · refine ⟨_, _, .any_of_execute rfl, fun reliable => ?_⟩
    exact (reliable.quiet [.begin, .check, .answered (.response .success)]
      [.sent, .wait, .elapsed] rfl).2 (by decide)

end Orion.Health
