import Orion.Health.Checker

/-! # The time between two checks

The documentation of the configuration says how long a checker waits after a check, by what
the check does to the status of the endpoint.
-/

namespace Orion.Health

open Foundation Orion.Configuration Clusters DurationArithmetic

/-! ## The status that a history of checks calls for

A reference automaton that looks back at the whole history of checks, and the bounded
counter that stands for it.
-/

/-! ## The reference automaton

Histories begin with the latest check. -/

def Verdict.isSuccess (verdict : Verdict) : Bool := verdict = .success

def Verdict.isFailure (verdict : Verdict) : Bool := verdict ≠ .success

def trailingSuccesses (history : List Verdict) : Nat :=
  (history.takeWhile Verdict.isSuccess).length

def trailingFailures (history : List Verdict) : Nat :=
  (history.takeWhile Verdict.isFailure).length

/-- The first check decides; afterwards the status changes when enough checks in a row
say so, or when a failure ignores the threshold. -/
def referenceStatus (healthyThreshold unhealthyThreshold : Nat) :
    List Verdict → Option HealthStatus
  | [] => none
  | verdict :: earlier =>
    match referenceStatus healthyThreshold unhealthyThreshold earlier with
    | none => some (if verdict.isSuccess then .healthy else .unhealthy)
    | some .healthy =>
      if verdict = .immediateFailure ∨
          max 1 unhealthyThreshold ≤ trailingFailures (verdict :: earlier) then
        some .unhealthy
      else
        some .healthy
    | some .unhealthy =>
      if max 1 healthyThreshold ≤ trailingSuccesses (verdict :: earlier) then
        some .healthy
      else
        some .unhealthy

theorem referenceStatus_cons_isSome (healthyThreshold unhealthyThreshold : Nat)
    (verdict : Verdict) (earlier : List Verdict) :
    (referenceStatus healthyThreshold unhealthyThreshold (verdict :: earlier)).isSome := by
  rw [referenceStatus]
  split
  · rfl
  · split_ifs <;> rfl
  · split_ifs <;> rfl

namespace HealthStatusCounter

def after (healthyThreshold unhealthyThreshold : Fin 65536) :
    List Verdict → HealthStatusCounter
  | [] => new healthyThreshold unhealthyThreshold
  | verdict :: earlier =>
    (verdict.processResponse (after healthyThreshold unhealthyThreshold earlier)).2

/-! ## The simulation -/

/-- The counter holds the length of the last run, as far as its threshold. -/
structure Tracks (healthyThreshold unhealthyThreshold : Nat) (history : List Verdict)
    (counter : HealthStatusCounter) : Prop where
  status : counter.status = referenceStatus healthyThreshold unhealthyThreshold history
  checks : counter.checks =
    (min (trailingSuccesses history) healthyThreshold : Int) -
      min (trailingFailures history) unhealthyThreshold
  healthyThreshold : counter.healthyThreshold = healthyThreshold
  unhealthyThreshold : counter.unhealthyThreshold = -unhealthyThreshold

theorem tracks_new (healthyThreshold unhealthyThreshold : Fin 65536) :
    Tracks healthyThreshold unhealthyThreshold [] (new healthyThreshold unhealthyThreshold) := by
  refine ⟨rfl, ?_, rfl, rfl⟩
  simp [new, trailingSuccesses, trailingFailures]

theorem trailing_eq_zero (history : List Verdict) :
    trailingSuccesses history = 0 ∨ trailingFailures history = 0 := by
  cases history with
  | nil => exact .inl rfl
  | cons verdict earlier =>
    cases verdict with
    | success => exact .inr rfl
    | failure | immediateFailure => exact .inl rfl

/-- What a call returns when the status goes over from one to another. -/
def statusChange (before after : Option HealthStatus) : Option HealthStatus :=
  if after = before then none else after

theorem statusChange_isSome {after : Option HealthStatus} (known : after.isSome) :
    (statusChange before after).isSome ↔ after ≠ before := by
  rw [statusChange]
  split_ifs with same
  · exact iff_of_false nofun fun different => different same
  · exact iff_of_true known same

theorem eq_of_statusChange {after : Option HealthStatus} {status : HealthStatus}
    (change : statusChange before after = some status) : after = some status := by
  rw [statusChange] at change
  split_ifs at change
  exact change

/-- The counter after a success was counted, before the status is looked at. -/
def countSuccess (self : HealthStatusCounter) : HealthStatusCounter :=
  let self := if self.checks < 0 then { self with checks := 0 } else self
  if self.checks < self.healthyThreshold then { self with checks := self.checks + 1 } else self

/-- The counter after a failure was counted, before the status is looked at. -/
def countFailure (self : HealthStatusCounter) : HealthStatusCounter :=
  let self := if self.checks > 0 then { self with checks := 0 } else self
  if self.checks > self.unhealthyThreshold then { self with checks := self.checks - 1 } else self

section

variable {healthyThreshold unhealthyThreshold : Nat} {history : List Verdict}
  {counter : HealthStatusCounter}

section

variable (tracks : Tracks healthyThreshold unhealthyThreshold history counter)

include tracks

theorem Tracks.countSuccess_eq :
    counter.countSuccess =
      { counter with checks := min (trailingSuccesses history + 1 : Nat) healthyThreshold } := by
  have checks := tracks.checks
  have threshold := tracks.healthyThreshold
  have runs := trailing_eq_zero history
  rcases counter with ⟨status, checks, healthy, unhealthy⟩
  simp only [countSuccess] at *
  split_ifs <;> simp_all only [mk.injEq, true_and, and_true] <;> omega

theorem Tracks.countFailure_eq :
    counter.countFailure =
      { counter with
        checks := -min (trailingFailures history + 1 : Nat) unhealthyThreshold } := by
  have checks := tracks.checks
  have threshold := tracks.unhealthyThreshold
  have runs := trailing_eq_zero history
  rcases counter with ⟨status, checks, healthy, unhealthy⟩
  simp only [countFailure] at *
  split_ifs <;> simp_all only [mk.injEq, true_and, and_true] <;> omega

theorem Tracks.addSuccess_eq :
    counter.addSuccess =
      (statusChange (referenceStatus healthyThreshold unhealthyThreshold history)
          (referenceStatus healthyThreshold unhealthyThreshold (.success :: history)),
        { counter with
          status := referenceStatus healthyThreshold unhealthyThreshold (.success :: history)
          checks := min (trailingSuccesses history + 1 : Nat) healthyThreshold }) := by
  have unfolded : counter.addSuccess =
      match counter.countSuccess.status with
      | none => counter.countSuccess.update .healthy
      | some .healthy => (none, counter.countSuccess)
      | some .unhealthy =>
        if counter.countSuccess.checks ≥ counter.countSuccess.healthyThreshold then
          counter.countSuccess.update .healthy
        else
          (none, counter.countSuccess) := rfl
  have longer : trailingSuccesses (.success :: history) = trailingSuccesses history + 1 := rfl
  have ended : trailingFailures (.success :: history) = 0 := rfl
  have threshold := tracks.healthyThreshold
  rw [unfolded, tracks.countSuccess_eq, referenceStatus, longer, ended, ← tracks.status]
  rcases counter with ⟨status, checks, healthy, unhealthy⟩
  match status with
  | none => rfl
  | some .healthy =>
    have short : ¬ max 1 unhealthyThreshold ≤ 0 := by omega
    simp [statusChange, short]
  | some .unhealthy =>
    subst threshold
    by_cases enough : max 1 healthyThreshold ≤ trailingSuccesses history + 1
    · have reached : min ((trailingSuccesses history + 1 : Nat) : Int) healthyThreshold ≥
          healthyThreshold := by omega
      simp only [if_pos enough, if_pos reached]
      rfl
    · have missed : ¬ min ((trailingSuccesses history + 1 : Nat) : Int) healthyThreshold ≥
          healthyThreshold := by omega
      simp only [if_neg enough, if_neg missed]
      rfl

end

def failed (ignoreThreshold : Bool) : Verdict :=
  if ignoreThreshold then .immediateFailure else .failure

theorem addFailureImpl_eq_count (counter : HealthStatusCounter) (ignoreThreshold : Bool) :
    counter.addFailureImpl ignoreThreshold =
      match counter.countFailure.status with
      | none => counter.countFailure.update .unhealthy
      | some .unhealthy => (none, counter.countFailure)
      | some .healthy =>
        if ignoreThreshold ∨ counter.countFailure.checks ≤ counter.countFailure.unhealthyThreshold
        then counter.countFailure.update .unhealthy
        else (none, counter.countFailure) := rfl

theorem Tracks.addFailureImpl_eq
    (tracks : Tracks healthyThreshold unhealthyThreshold history counter) (ignoreThreshold : Bool) :
    counter.addFailureImpl ignoreThreshold =
      (statusChange (referenceStatus healthyThreshold unhealthyThreshold history)
          (referenceStatus healthyThreshold unhealthyThreshold (failed ignoreThreshold :: history)),
        { counter with
          status := referenceStatus healthyThreshold unhealthyThreshold
            (failed ignoreThreshold :: history)
          checks := -min (trailingFailures history + 1 : Nat) unhealthyThreshold }) := by
  have longer : trailingFailures (failed ignoreThreshold :: history) =
      trailingFailures history + 1 := by
    cases ignoreThreshold <;> rfl
  have ended : trailingSuccesses (failed ignoreThreshold :: history) = 0 := by
    cases ignoreThreshold <;> rfl
  have ignored : failed ignoreThreshold = .immediateFailure ↔ ignoreThreshold := by
    cases ignoreThreshold <;> decide
  have failure : (failed ignoreThreshold).isSuccess = false := by
    cases ignoreThreshold <;> rfl
  have threshold := tracks.unhealthyThreshold
  rw [addFailureImpl_eq_count, tracks.countFailure_eq, referenceStatus, longer, ended,
    ← tracks.status, failure]
  rcases counter with ⟨status, checks, healthy, unhealthy⟩
  rcases status with _ | _ | _
  · rfl
  · subst threshold
    have reached : -((min (trailingFailures history + 1) unhealthyThreshold : Nat) : Int) ≤
        -unhealthyThreshold ↔ max 1 unhealthyThreshold ≤ trailingFailures history + 1 := by
      omega
    simp only [reached, ignored]
    split_ifs
    · rfl
    · rfl
  · have short : ¬ max 1 healthyThreshold ≤ 0 := by omega
    simp [statusChange, short]

end

theorem Tracks.processResponse {healthyThreshold unhealthyThreshold : Nat}
    (tracks : Tracks healthyThreshold unhealthyThreshold history counter) (verdict : Verdict) :
    Tracks healthyThreshold unhealthyThreshold (verdict :: history)
        (verdict.processResponse counter).2 ∧ (verdict.processResponse counter).1 =
        statusChange (referenceStatus healthyThreshold unhealthyThreshold history)
          (referenceStatus healthyThreshold unhealthyThreshold (verdict :: history)) := by
  have onFailure (ignoreThreshold : Bool) :
      Tracks healthyThreshold unhealthyThreshold (failed ignoreThreshold :: history)
          (counter.addFailureImpl ignoreThreshold).2 ∧
        (counter.addFailureImpl ignoreThreshold).1 =
          statusChange (referenceStatus healthyThreshold unhealthyThreshold history)
            (referenceStatus healthyThreshold unhealthyThreshold
              (failed ignoreThreshold :: history)) := by
    rw [tracks.addFailureImpl_eq]
    refine ⟨⟨rfl, ?_, tracks.healthyThreshold, tracks.unhealthyThreshold⟩, rfl⟩
    cases ignoreThreshold <;> simp [trailingSuccesses, trailingFailures, failed, Verdict.isSuccess,
      Verdict.isFailure]
  cases verdict with
  | success =>
    change Tracks _ _ _ counter.addSuccess.2 ∧ counter.addSuccess.1 = _
    rw [tracks.addSuccess_eq]
    refine ⟨⟨rfl, ?_, tracks.healthyThreshold, tracks.unhealthyThreshold⟩, rfl⟩
    simp [trailingSuccesses, trailingFailures, Verdict.isSuccess, Verdict.isFailure]
  | failure => exact onFailure false
  | immediateFailure => exact onFailure true

theorem tracks_after (healthyThreshold unhealthyThreshold : Fin 65536) (history : List Verdict) :
    Tracks healthyThreshold unhealthyThreshold history
      (after healthyThreshold unhealthyThreshold history) := by
  induction history with
  | nil => exact tracks_new healthyThreshold unhealthyThreshold
  | cons verdict earlier induction => exact (induction.processResponse verdict).1

/-- After every history the counter has the status of the reference automaton, and the next
check returns the status that it changes to, if it does. -/
theorem follows_reference (healthyThreshold unhealthyThreshold : Fin 65536)
    (history : List Verdict) (verdict : Verdict) :
    let reference := referenceStatus healthyThreshold unhealthyThreshold
    let counter := after healthyThreshold unhealthyThreshold history
    let call := verdict.processResponse counter
    counter.status = reference history ∧ call.2.status = reference (verdict :: history) ∧
      (call.1.isSome = true ↔ call.2.status ≠ counter.status) ∧
      ∀ status, call.1 = some status → call.2.status = some status := by
  intro reference counter call
  have tracks := tracks_after healthyThreshold unhealthyThreshold history
  rcases tracks.processResponse verdict with ⟨next, returned⟩
  refine ⟨tracks.status, next.status, ?_, ?_⟩
  · rw [show call.2.status = _ from next.status, show counter.status = _ from tracks.status,
      show call.1 = _ from returned]
    exact statusChange_isSome (referenceStatus_cons_isSome _ _ verdict history)
  · intro status change
    rw [show call.1 = _ from returned] at change
    exact next.status.trans (eq_of_statusChange change)

end HealthStatusCounter

open HealthStatusCounter hiding after
open List hiding after
open Machine

/-! ## Intervals -/

namespace ClusterHealthCheck

def documentedInterval (config : ClusterHealthCheck) (before after : Option HealthStatus) :
    Duration :=
  match after with
  | some .healthy =>
    if before = some .healthy then config.interval
    else config.healthyEdgeInterval.getD config.interval
  | some .unhealthy =>
    if before = some .unhealthy then config.unhealthyInterval.getD config.interval
    else config.unhealthyEdgeInterval.getD (config.unhealthyInterval.getD config.interval)
  | none => config.interval

def usedInterval (config : ClusterHealthCheck) (before after : Option HealthStatus) : Duration :=
  config.baseInterval
    (match statusChange before after with
      | some newStatus => .edge newStatus
      | none => .unchanged after)

def turnsUnhealthy (before after : Option HealthStatus) : Bool :=
  after = some .unhealthy ∧ before ≠ some .unhealthy

section

variable (config : ClusterHealthCheck)

/-- The interval after an endpoint became unhealthy does not depend on whether the one for
unhealthy endpoints stands in for it. -/
def edgeSettled : Bool :=
  config.unhealthyEdgeInterval.isSome ∨
    config.unhealthyInterval.getD config.interval = config.interval

theorem usedInterval_of_not_turnsUnhealthy (stays : turnsUnhealthy before after = false) :
    config.usedInterval before after = config.documentedInterval before after := by
  match before, after with
  | none, none | some .healthy, none | some .unhealthy, none => rfl
  | none, some .healthy | some .healthy, some .healthy | some .unhealthy, some .healthy => rfl
  | some .unhealthy, some .unhealthy => rfl
  | none, some .unhealthy | some .healthy, some .unhealthy => exact absurd stays nofun

theorem usedInterval_of_turnsUnhealthy (turns : turnsUnhealthy before after) :
    config.usedInterval before after = config.unhealthyEdgeInterval.getD config.interval ∧
      config.documentedInterval before after =
        config.unhealthyEdgeInterval.getD (config.unhealthyInterval.getD config.interval) := by
  match before, after with
  | none, some .unhealthy | some .healthy, some .unhealthy => exact ⟨rfl, rfl⟩

theorem usedInterval_eq_iff (before after : Option HealthStatus) :
    config.usedInterval before after = config.documentedInterval before after ↔
      config.edgeSettled ∨ turnsUnhealthy before after = false := by
  cases turns : turnsUnhealthy before after with
  | false => exact iff_of_true (config.usedInterval_of_not_turnsUnhealthy turns) (.inr rfl)
  | true =>
    rcases config.usedInterval_of_turnsUnhealthy turns with ⟨used, documented⟩
    rw [used, documented, edgeSettled, decide_eq_true_iff]
    cases edge : config.unhealthyEdgeInterval with
    | some interval => simp
    | none => simp [eq_comm]

end

/-- Nothing is added to an interval, and intervals are time spans that can be counted. -/
structure Plain (config : ClusterHealthCheck) : Prop where
  intervalJitter : config.intervalJitter = none
  intervalJitterPercent : config.intervalJitterPercent = 0
  countable : ∀ status, config.baseInterval status ≤ Duration.max

theorem Plain.waitInterval_eq [DurationArithmetic] {config : ClusterHealthCheck}
    (plain : config.Plain) (mulF32_zero : ∀ interval, mulF32 interval 0 = .ok 0)
    (status : CurrentHealthStatus) :
    config.waitInterval status = .ok (config.baseInterval status) := by
  simp only [waitInterval, plain.intervalJitter, plain.intervalJitterPercent]
  change (mulF32 _ 0 >>= fun jitter => addDurations _ jitter) = _
  rw [mulF32_zero]
  exact if_pos (plain.countable status)

end ClusterHealthCheck

/-! ## Histories of checks -/

def CheckOutcome.verdict : CheckOutcome → Verdict
  | .timeout | .error => .failure
  | .response verdict => verdict

theorem CheckOutcome.count_eq (outcome : CheckOutcome) (counter : HealthStatusCounter) :
    outcome.count counter = outcome.verdict.processResponse counter := by
  cases outcome <;> rfl

/-- The checks that were answered, and those of them after which the checker waited. Both
begin with the latest one. -/
structure CheckHistory where
  checked : List Verdict
  waited : List Verdict

open CheckHistory

def CheckHistory.push (history : CheckHistory) : CheckerEvent → CheckHistory
  | .answered outcome => { history with checked := outcome.verdict :: history.checked }
  | .wait => { history with waited := history.checked }
  | _ => history

def CheckHistory.of (events : List CheckerEvent) : CheckHistory :=
  events.foldl push ⟨[], []⟩

def CheckerOutput.interval : CheckerOutput → Option Duration
  | .waits interval => some interval
  | .update _ => none

def waits (outputs : List CheckerOutput) : List Duration :=
  (outputs.filterMap CheckerOutput.interval).reverse

namespace ClusterHealthCheck

def referenceStatus (config : ClusterHealthCheck) (history : List Verdict) : Option HealthStatus :=
  Health.referenceStatus config.healthyThreshold config.unhealthyThreshold history

/-- The waits after the checks of a history, by the statuses before and after each. -/
def waitsBy (config : ClusterHealthCheck)
    (interval : Option HealthStatus → Option HealthStatus → Duration) :
    List Verdict → List Duration
  | [] => []
  | verdict :: earlier =>
    interval (config.referenceStatus earlier) (config.referenceStatus (verdict :: earlier)) ::
      config.waitsBy interval earlier

def becameUnhealthy (config : ClusterHealthCheck) : List Verdict → Bool
  | [] => false
  | verdict :: earlier =>
    turnsUnhealthy (config.referenceStatus earlier)
        (config.referenceStatus (verdict :: earlier)) ||
      config.becameUnhealthy earlier

theorem waitsBy_eq_iff (config : ClusterHealthCheck) (history : List Verdict) :
    config.waitsBy config.usedInterval history = config.waitsBy config.documentedInterval history ↔
      config.edgeSettled ∨ config.becameUnhealthy history = false := by
  induction history with
  | nil => exact iff_of_true rfl (.inr rfl)
  | cons verdict earlier induction =>
    rw [waitsBy, waitsBy, cons.injEq, usedInterval_eq_iff, induction, becameUnhealthy,
      Bool.or_eq_false_iff]
    tauto

end ClusterHealthCheck

/-! ## Runs -/

namespace CheckerState

/-- A checker that has not waited yet knows what its last check changed. -/
def PhaseSpaced (config : ClusterHealthCheck) (history : CheckHistory) : CheckerPhase → Prop
  | .sending _ change | .sent change =>
    (∃ verdict, history.checked = verdict :: history.waited) ∧
      change = statusChange (config.referenceStatus history.waited)
        (config.referenceStatus history.checked)
  | _ => history.checked = history.waited

structure Spaced (config : ClusterHealthCheck) (events : List CheckerEvent)
    (outputs : List CheckerOutput) (state : CheckerState) : Prop where
  counter : HealthStatusCounter.Tracks config.healthyThreshold config.unhealthyThreshold
    (of events).checked state.counter
  phase : PhaseSpaced config (of events) state.phase
  waits : waits outputs = config.waitsBy config.usedInterval (of events).waited

theorem spaced_spawn (config : ClusterHealthCheck) : Spaced config [] [] (.spawn config) :=
  ⟨tracks_new _ _, rfl, rfl⟩

theorem checkHistory_append (events : List CheckerEvent) (event : CheckerEvent) :
    of (events ++ [event]) = (of events).push event :=
  foldl_append

theorem waits_append (outputs emitted : List CheckerOutput) :
    Health.waits (outputs ++ emitted) = Health.waits emitted ++ Health.waits outputs := by
  rw [Health.waits, filterMap_append, reverse_append]
  rfl

section

variable [DurationArithmetic] {config : ClusterHealthCheck} {state next : CheckerState}

omit [DurationArithmetic] in
theorem Spaced.idle (spaced : Spaced config events outputs state)
    (kept : (of events).push event = of events) (counter : next.counter = state.counter)
    (phase : PhaseSpaced config (of events) next.phase) :
    Spaced config (events ++ [event]) (outputs ++ []) next := by
  refine ⟨?_, ?_, ?_⟩
  · rw [checkHistory_append, kept, counter]
    exact spaced.counter
  · rw [checkHistory_append, kept]
    exact phase
  · rw [append_nil, checkHistory_append, kept]
    exact spaced.waits

omit [DurationArithmetic] in
theorem Spaced.answered (spaced : Spaced config events outputs state)
    (checking : state.phase = .checking) (outcome : CheckOutcome) :
    Spaced config (events ++ [.answered outcome]) (outputs ++ [])
      (state.answered endpoint outcome) := by
  have idle : (of events).checked = (of events).waited := by
    have phase := spaced.phase
    rw [checking] at phase
    exact phase
  rcases spaced.counter.processResponse outcome.verdict with ⟨counter, change⟩
  rw [← outcome.count_eq] at counter change
  refine ⟨?_, ⟨⟨outcome.verdict, ?_⟩, ?_⟩, ?_⟩
  · rw [checkHistory_append]
    exact counter
  · rw [checkHistory_append]
    exact congrArg _ idle
  · rw [checkHistory_append]
    change _ = statusChange (config.referenceStatus (of events).waited) _
    rw [← idle]
    exact change
  · rw [append_nil, checkHistory_append]
    exact spaced.waits

theorem Moves.spaced (moves : Moves endpoint config state event next emitted) (plain : config.Plain)
    (mulF32_zero : ∀ interval, mulF32 interval 0 = .ok 0)
    (spaced : Spaced config events outputs state) :
    Spaced config (events ++ [event]) (outputs ++ emitted) next := by
  have phase := spaced.phase
  cases moves with
  | begin spawned =>
    rw [spawned] at phase
    refine spaced.idle rfl ?_ ?_
    · rw [begun]
      split <;> rfl
    · rw [begun]
      split
      · exact phase
      · exact phase
  | stop => exact spaced.idle rfl rfl phase
  | elapsed waiting | woken waiting =>
    refine spaced.idle rfl rfl ?_
    rcases waiting with same | same <;> rw [same] at phase <;> exact phase
  | cancelled checking =>
    rw [checking] at phase
    exact spaced.idle rfl rfl phase
  | check ready =>
    rw [ready] at phase
    exact spaced.idle rfl rfl phase
  | answered checking outcome => exact spaced.answered checking outcome
  | sent sending =>
    rw [sending] at phase
    have quiet : Spaced config (events ++ [.sent]) (outputs ++ []) (state.enter (.sent _)) :=
      spaced.idle rfl rfl phase
    refine ⟨quiet.counter, quiet.phase, ?_⟩
    rw [waits_append, ← quiet.waits, append_nil]
    rfl
  | wait done computed =>
    rw [done] at phase
    rcases phase with ⟨⟨verdict, last⟩, rfl⟩
    rw [plain.waitInterval_eq mulF32_zero] at computed
    cases computed
    refine ⟨?_, ?_, ?_⟩
    · rw [checkHistory_append]
      exact spaced.counter
    · rw [checkHistory_append]
      rfl
    · rw [waits_append, checkHistory_append, spaced.waits]
      change [config.baseInterval _] ++ _ = config.waitsBy _ (of events).checked
      rw [CurrentHealthStatus.ofChange.eq_def, spaced.counter.status, last]
      rfl
  | panic done overflow =>
    rw [plain.waitInterval_eq mulF32_zero] at overflow
    exact absurd overflow nofun

end

/-- In a run without jitter the waits are the documented ones exactly when the interval for
the edge is settled, or no check after which the checker waited made the endpoint unhealthy. -/
theorem documented_waits_iff [DurationArithmetic]
    (mulF32_zero : ∀ interval, mulF32 interval 0 = .ok 0)
    (endpoint : EndpointId) (config : ClusterHealthCheck) (plain : config.Plain)
    (events : List CheckerEvent) (outputs : List CheckerOutput) (state : CheckerState)
    (run : (machine endpoint config).Run anyStep (.spawn config) events outputs state) :
    waits outputs = config.waitsBy config.documentedInterval (of events).waited ↔
      config.edgeSettled = true ∨
        config.becameUnhealthy (of events).waited = false := by
  have spaced : Spaced config events outputs state :=
    run.invariant (Spaced config) (spaced_spawn config)
      fun spaced _ taken => (moves_of_step taken).spaced plain mulF32_zero spaced
  rw [spaced.waits]
  exact config.waitsBy_eq_iff _

end CheckerState

def impatientCheck : ClusterHealthCheck :=
  { plainCheck with unhealthyInterval := some 1000000000 }

attribute [local instance] withoutJitter

theorem documented_waits_healthy :
    ∃ outputs state, (CheckerState.machine ⟨[], []⟩ impatientCheck).Run anyStep
        (.spawn impatientCheck) oneCheck outputs state ∧
      waits outputs = impatientCheck.waitsBy impatientCheck.documentedInterval
        (of oneCheck).waited := by
  have run : (CheckerState.machine ⟨[], []⟩ impatientCheck).Run anyStep (.spawn impatientCheck)
      oneCheck _ _ := .any_of_execute rfl
  have plain : impatientCheck.Plain := by
    refine ⟨rfl, rfl, ?_⟩
    rintro ((_ | _ | _) | (_ | _)) <;> decide
  exact ⟨_, _, run, (CheckerState.documented_waits_iff (fun _ => rfl) _ _ plain _ _ _ run).mpr
    (.inr rfl)⟩

/-- After the first check fails, the checker waits as if the endpoint were healthy. -/
theorem edge_wait_not_documented :
    let events : List CheckerEvent := [.begin, .check, .answered .timeout, .sent, .wait]
    ((CheckerState.machine ⟨[], []⟩ impatientCheck).execute (.spawn impatientCheck) events).map
        (fun result => waits result.2) = some [5000000000] ∧
      impatientCheck.waitsBy impatientCheck.documentedInterval (of events).waited =
        [1000000000] := by
  decide

end Orion.Health
