import Orion.Health.Checker

/-! # Health updates on their way to the handler

The checkers send their updates through one channel to the configuration handler, which
also starts and stops them. While the handler waits for a checker to end, it takes no
updates, and a checker that finds the channel full cannot end.
-/

namespace Orion.Health

open Foundation Nat CheckerState
open CheckerOutput hiding update
open Machine List

/-! ## The system -/

def updateChannelCapacity : Nat := 1000

structure CheckerTask where
  endpoint : EndpointId
  config : ClusterHealthCheck
  state : CheckerState
  deriving DecidableEq

def CheckerTask.spawn (checker : EndpointId × ClusterHealthCheck) : CheckerTask :=
  ⟨checker.1, checker.2, .spawn checker.2⟩

inductive Afterwards where
  | start (cluster : Text) (checkers : List (EndpointId × ClusterHealthCheck))
  | resume
  | finish
  deriving DecidableEq

inductive HandlerPhase where
  /-- The handler waits for configuration and health updates. -/
  | selecting
  /-- It processes a batch of configuration updates, or the initial clusters. -/
  | busy
  /-- It waits for a checker to end; others are to be stopped after it. -/
  | stopping (awaited : Nat) (rest : List Nat) (afterwards : Afterwards)
  | ended
  deriving DecidableEq

structure HealthSystem where
  /-- All checkers ever started, by number. -/
  tasks : List CheckerTask
  /-- The numbers of the checkers of each cluster. -/
  checkers : List (Text × List Nat)
  updates : List EndpointHealthUpdate
  handler : HandlerPhase
  deriving DecidableEq

inductive SystemEvent where
  | checker (number : Nat) (event : CheckerEvent)
  /-- The handler takes a health update. -/
  | receive
  /-- The handler takes a batch of configuration updates. -/
  | work
  | finish
  | restartCluster (cluster : Text) (checkers : List (EndpointId × ClusterHealthCheck))
  | stopCluster (cluster : Text)
  | stopAll (order : List Nat)
  /-- The checker that the handler waits for has ended. -/
  | joined
  deriving DecidableEq

def CheckerOutput.update? : CheckerOutput → Option EndpointHealthUpdate
  | .update sent => some sent
  | .waits _ => none

namespace HealthSystem

def start : HealthSystem := ⟨[], [], [], .busy⟩

def checkersOf (self : HealthSystem) (cluster : Text) : List Nat :=
  ((self.checkers.find? fun entry => entry.1 = cluster).map Prod.snd).getD []

def complete (self : HealthSystem) : Afterwards → HealthSystem
  | .start cluster checkers =>
    { self with
      tasks := self.tasks ++ checkers.map .spawn
      checkers := self.checkers ++
        [(cluster, (range checkers.length).map (self.tasks.length + ·))]
      handler := .busy }
  | .resume => { self with handler := .busy }
  | .finish => { self with handler := .ended }

def notify (task : CheckerTask) : CheckerTask :=
  { task with state := task.state.notifyWaiters }

def stopNext (self : HealthSystem) (numbers : List Nat) (afterwards : Afterwards) : HealthSystem :=
  match numbers with
  | [] => self.complete afterwards
  | number :: rest =>
    { self with
      tasks := self.tasks.modify number notify
      handler := .stopping number rest afterwards }

def stopCluster (self : HealthSystem) (cluster : Text) (afterwards : Afterwards) : HealthSystem :=
  stopNext
    { self with checkers := self.checkers.filter fun entry => entry.1 ≠ cluster }
    (self.checkersOf cluster) afterwards

/-- There is room in the channel, or nobody to receive. -/
def canSend (self : HealthSystem) : Bool :=
  self.updates.length < updateChannelCapacity ∨ self.handler = .ended

/-- The updates in the channel after some are sent; without a receiver they are dropped. -/
def received (self : HealthSystem) (sent : List EndpointHealthUpdate) : List EndpointHealthUpdate :=
  if self.handler = .ended then self.updates else self.updates ++ sent

variable [DurationArithmetic]

/-- A step of a checker. One that sends needs room; only the handler raises the signal. -/
def stepChecker (self : HealthSystem) (number : Nat) (event : CheckerEvent) :
    Option HealthSystem := do
  let task ← self.tasks[number]?
  guard (event ≠ .stop ∧ (event = .sent → self.canSend = true))
  let (state, outputs) ← task.state.step task.endpoint task.config event
  return { self with
    tasks := self.tasks.set number { task with state := state }
    updates := self.received (outputs.filterMap update?) }

def step (self : HealthSystem) : SystemEvent → Option (HealthSystem × List EndpointHealthUpdate)
  | .checker number event => (self.stepChecker number event).map fun next => (next, [])
  | .receive =>
    match self.handler, self.updates with
    | .selecting, update :: updates => some ({ self with updates := updates }, [update])
    | _, _ => none
  | .work =>
    match self.handler with
    | .selecting => some ({ self with handler := .busy }, [])
    | _ => none
  | .finish =>
    match self.handler with
    | .busy => some ({ self with handler := .selecting }, [])
    | _ => none
  | .restartCluster cluster checkers =>
    match self.handler with
    | .busy => some (self.stopCluster cluster (.start cluster checkers), [])
    | _ => none
  | .stopCluster cluster =>
    match self.handler with
    | .busy => some (self.stopCluster cluster .resume, [])
    | _ => none
  | .stopAll order =>
    if self.handler = .selecting ∧ order.isPerm (self.checkers.flatMap Prod.snd) then
      some (stopNext { self with checkers := [] } order .finish, [])
    else
      none
  | .joined =>
    match self.handler with
    | .stopping awaited rest afterwards =>
      if (self.tasks[awaited]?).all fun task => task.state.phase.ended then
        some (self.stopNext rest afterwards, [])
      else
        none
    | _ => none

def machine : Machine HealthSystem SystemEvent EndpointHealthUpdate where
  step := step

omit [DurationArithmetic]

/-- The handler waits for a checker that cannot send its update to anyone but it. -/
def Deadlocked (self : HealthSystem) : Prop :=
  ∃ awaited rest afterwards task update change,
    self.handler = .stopping awaited rest afterwards ∧ self.tasks[awaited]? = some task ∧
      task.state.phase = .sending update change ∧ updateChannelCapacity ≤ self.updates.length

/-! ## Room in the channel -/

end HealthSystem

def CheckerState.underWay (state : CheckerState) : Nat :=
  match state.phase with
  | .spawned | .jitter | .ready | .checking | .sending _ _ => 1
  -- A signal during the wait starts another check.
  | .waiting => if state.notified then 1 else 0
  | _ => 0

namespace HealthSystem

def load (self : HealthSystem) : Nat :=
  self.updates.length + (self.tasks.map fun task => task.state.underWay).sum

/-- Before checkers are stopped, there is room for all updates on their way, and one more
for each of them. -/
def HasRoom (self : HealthSystem) : SystemEvent → Prop
  | .restartCluster cluster _ | .stopCluster cluster =>
    self.load + (self.checkersOf cluster).length ≤ updateChannelCapacity
  | .stopAll order => self.load + order.length ≤ updateChannelCapacity
  | _ => True

/-- While the handler stops checkers, there is room for all that they may send. -/
def Roomy (self : HealthSystem) : Prop :=
  ∀ awaited rest afterwards, self.handler = .stopping awaited rest afterwards →
    self.load + rest.length ≤ updateChannelCapacity

end HealthSystem

theorem CheckerState.underWay_le_one (state : CheckerState) : state.underWay ≤ 1 := by
  unfold underWay
  split
  · exact le_refl 1
  · exact le_refl 1
  · exact le_refl 1
  · exact le_refl 1
  · exact le_refl 1
  · split <;> omega
  · exact zero_le 1

/-- A step turns an update on its way into one in the channel, if anything. -/
theorem CheckerState.Moves.underWay_le [DurationArithmetic] {state next : CheckerState}
    {emitted : List CheckerOutput} (moves : Moves endpoint config state event next emitted)
    (quiet : event ≠ .stop) :
    (emitted.filterMap update?).length + next.underWay ≤ state.underWay := by
  cases moves with
  | stop => exact absurd rfl quiet
  | begin spawned =>
    have bound := (state.begun config).underWay_le_one
    have before : state.underWay = 1 := by simp only [underWay, spawned]
    simpa [before] using bound
  | elapsed | cancelled | panic => simp [underWay, enter]
  | woken waits notified =>
    rcases waits with phase | phase <;>
      simp [underWay, enter, phase, notified]
  | check phase | answered phase | sent phase | wait phase =>
    simp [CheckerState.underWay, CheckerState.enter, CheckerState.answered, phase,
      update?]

namespace HealthSystem

theorem sum_modify {tasks : List CheckerTask} (number : Nat) :
    ((tasks.modify number notify).map fun task => task.state.underWay).sum ≤
      (tasks.map fun task => task.state.underWay).sum + 1 := by
  induction tasks generalizing number with
  | nil => simp
  | cons task tasks induction =>
    cases number with
    | zero =>
      have raised := task.state.notifyWaiters.underWay_le_one
      simp only [modify_zero_cons, map_cons, sum_cons, notify]
      omega
    | succ number =>
      have later := induction number
      simp only [modify_succ_cons, map_cons, sum_cons]
      omega

theorem sum_set {tasks : List CheckerTask} (found : tasks[number]? = some task)
    (state : CheckerState) :
    ((tasks.set number { task with state := state }).map fun task => task.state.underWay).sum +
        task.state.underWay = (tasks.map fun task => task.state.underWay).sum + state.underWay := by
  induction tasks generalizing number with
  | nil => cases found
  | cons first tasks induction =>
    cases number with
    | zero =>
      cases found
      simp only [set_cons_zero, map_cons, sum_cons]
      omega
    | succ number =>
      have later := @induction number found
      simp only [set_cons_succ, map_cons, sum_cons]
      omega

theorem roomy_of_not_stopping {self : HealthSystem}
    (other : ∀ awaited rest afterwards, self.handler ≠ .stopping awaited rest afterwards) :
    self.Roomy :=
  fun awaited rest afterwards stopping => absurd stopping (other awaited rest afterwards)

theorem stopNext_roomy {self : HealthSystem}
    (room : self.load + numbers.length ≤ updateChannelCapacity) (afterwards : Afterwards) :
    (self.stopNext numbers afterwards).Roomy := by
  cases numbers with
  | nil =>
    cases afterwards <;> exact nofun
  | cons number rest =>
    intro awaited later _ stopping
    cases stopping
    have raised := @sum_modify self.tasks number
    simp only [load, stopNext, length_cons] at room ⊢
    omega

variable [DurationArithmetic] {self next : HealthSystem}

theorem stepChecker_moves (taken : self.stepChecker number event = some next) :
    ∃ task state outputs, self.tasks[number]? = some task ∧ event ≠ .stop ∧
      CheckerState.Moves task.endpoint task.config task.state event state outputs ∧
      next = { self with
        tasks := self.tasks.set number { task with state := state }
        updates := self.received (outputs.filterMap update?) } := by
  simp only [stepChecker, Option.bind_eq_bind, Option.bind_eq_some_iff] at taken
  rcases taken with ⟨task, found, _, allowed, ⟨state, outputs⟩, stepped, ⟨⟩⟩
  refine ⟨task, state, outputs, found, ?_, moves_of_step stepped, rfl⟩
  by_contra stopped
  rw [guard, if_neg fun both => both.1 stopped] at allowed
  cases allowed

theorem receive_eq_some (taken : self.step .receive = some (next, emitted)) :
    ∃ update updates, self.handler = .selecting ∧ next = { self with updates := updates } ∧
      emitted = [update] := by
  simp only [step] at taken
  split at taken
  · rename_i update updates selecting _
    cases taken
    exact ⟨update, updates, selecting, rfl, rfl⟩
  · cases taken

theorem work_eq_some (taken : self.step .work = some (next, emitted)) :
    self.handler = .selecting ∧ next = { self with handler := .busy } := by
  simp only [step] at taken
  split at taken
  · rename_i selecting
    cases taken
    exact ⟨selecting, rfl⟩
  · cases taken

theorem finish_eq_some (taken : self.step .finish = some (next, emitted)) :
    self.handler = .busy ∧ next = { self with handler := .selecting } := by
  simp only [step] at taken
  split at taken
  · rename_i busy
    cases taken
    exact ⟨busy, rfl⟩
  · cases taken

theorem joined_eq_some (taken : self.step .joined = some (next, emitted)) :
    ∃ awaited rest afterwards, self.handler = .stopping awaited rest afterwards ∧
      next = self.stopNext rest afterwards := by
  simp only [step] at taken
  split at taken
  · rename_i stopping
    split_ifs at taken
    cases taken
    exact ⟨_, _, _, stopping, rfl⟩
  · cases taken

theorem stepChecker_load (taken : self.stepChecker number event = some next) :
    next.handler = self.handler ∧ next.load ≤ self.load := by
  rcases stepChecker_moves taken with ⟨task, state, outputs, found, quiet, moves, rfl⟩
  have moved := moves.underWay_le quiet
  have total := sum_set found state
  refine ⟨rfl, ?_⟩
  simp only [load, received]
  split
  · omega
  · rw [length_append]
    omega

theorem step_roomy (roomy : self.Roomy) (room : self.HasRoom event)
    (taken : self.step event = some (next, emitted)) : next.Roomy := by
  cases event with
  | checker number event =>
    rcases Option.map_eq_some_iff.mp taken with ⟨_, stepped, ⟨⟩⟩
    rcases stepChecker_load stepped with ⟨handler, load⟩
    intro awaited rest afterwards stopping
    have before := roomy awaited rest afterwards (handler.symm.trans stopping)
    omega
  | receive =>
    rcases receive_eq_some taken with ⟨_, _, selecting, rfl, _⟩
    intro _ _ _ stopping
    cases selecting.symm.trans stopping
  | work =>
    rcases work_eq_some taken with ⟨_, rfl⟩
    exact roomy_of_not_stopping nofun
  | finish =>
    rcases finish_eq_some taken with ⟨_, rfl⟩
    exact roomy_of_not_stopping nofun
  | restartCluster cluster checkers | stopCluster cluster =>
    simp only [step] at taken
    split at taken
    · cases taken
      apply stopNext_roomy
      exact room
    · cases taken
  | stopAll order =>
    simp only [step] at taken
    split_ifs at taken
    cases taken
    apply stopNext_roomy
    exact room
  | joined =>
    rcases joined_eq_some taken with ⟨_, _, _, stopping, rfl⟩
    exact stopNext_roomy (roomy _ _ _ stopping) _

omit [DurationArithmetic] in
theorem Roomy.not_deadlocked (roomy : self.Roomy) : ¬ self.Deadlocked := by
  rintro ⟨awaited, rest, afterwards, task, update, change, stopping, found, sending, full⟩
  have room := roomy awaited rest afterwards stopping
  have onWay : task.state.underWay = 1 := by simp only [underWay, sending]
  have among := single_le_sum (l := self.tasks.map fun task => task.state.underWay)
    (by simp) _ (mem_map_of_mem (mem_of_getElem? found))
  simp only [load] at room
  omega

/-- If there is room whenever checkers are stopped, the handler never waits for a checker
that waits for it. -/
theorem never_deadlocked {events : List SystemEvent} {outputs : List EndpointHealthUpdate}
    {state : HealthSystem} (run : machine.Run HasRoom start events outputs state) :
    ¬ state.Deadlocked := by
  apply Roomy.not_deadlocked
  apply run.stateInvariant Roomy (roomy_of_not_stopping fun _ _ _ stopping => by cases stopping)
  intro _ _ _ _ roomy room taken
  exact step_roomy roomy room taken

omit [DurationArithmetic] in
/-- A checker of the cluster that is restarted may still send its next update. -/
theorem restart_with_room :
    letI := DurationArithmetic.withoutJitter
    ∃ outputs state, machine.Run HasRoom start
        (.restartCluster [] [(⟨[], []⟩, plainCheck)] :: oneCheck.map (.checker 0) ++
          [.finish, .work, .restartCluster [] []]) outputs state ∧
      state.handler = .stopping 0 [] (.start [] []) ∧ ¬ state.Deadlocked := by
  let arithmetic := DurationArithmetic.withoutJitter
  have run : machine.Run HasRoom start
      (.restartCluster [] [(⟨[], []⟩, plainCheck)] :: oneCheck.map (.checker 0) ++
        [.finish, .work, .restartCluster [] []]) _ _ := .of_execute rfl
    ⟨le_of_ble_eq_true rfl, trivial, trivial, trivial, trivial, trivial, trivial, trivial,
      le_of_ble_eq_true rfl, trivial⟩
  exact ⟨_, _, run, rfl, never_deadlocked run⟩

/-! ## A full channel -/

def Reachable (self : HealthSystem) : Prop :=
  ∃ events outputs, machine.Run anyStep start events outputs self

theorem Reachable.step (reachable : self.Reachable) (event : SystemEvent)
    (taken : self.step event = some (next, emitted)) : next.Reachable := by
  rcases reachable with ⟨events, outputs, run⟩
  exact ⟨_, _, run.extend trivial taken⟩

section

variable {before after : List CheckerTask} {task : CheckerTask} {checkers : List (Text × List Nat)}
  {updates : List EndpointHealthUpdate}

theorem Reachable.stepChecker
    (reachable : (mk (before ++ task :: after) checkers updates .busy).Reachable)
    (event : CheckerEvent) (quiet : event ≠ .stop)
    (room : event = .sent → updates.length < updateChannelCapacity)
    (stepped : task.state.step task.endpoint task.config event = some (state, outputs)) :
    (mk (before ++ { task with state := state } :: after) checkers
      (updates ++ outputs.filterMap update?) .busy).Reachable := by
  have allowed : (guard (event ≠ .stop ∧ (event = .sent →
      (mk (before ++ task :: after) checkers updates .busy).canSend)) :
      Option Unit) = some () := by
    apply if_pos
    refine ⟨quiet, fun sends => ?_⟩
    simp [canSend, room sends]
  apply @Reachable.step _ _ _ [] reachable (.checker before.length event)
  simp [HealthSystem.step, HealthSystem.stepChecker, allowed, stepped, received]

def freshChecker : CheckerTask := .spawn (⟨[], []⟩, plainCheck)

theorem Reachable.check
    (reachable : (mk (before ++ freshChecker :: after) checkers updates .busy).Reachable) :
    ∃ task : CheckerTask, ∃ update change, task.state.phase = .sending update change ∧
      (mk (before ++ task :: after) checkers updates .busy).Reachable := by
  have begun := reachable.stepChecker .begin nofun nofun rfl
  have checking := begun.stepChecker .check nofun nofun rfl
  have answered := checking.stepChecker (.answered (.response .success)) nofun nofun rfl
  simp only [filterMap_nil, append_nil] at answered
  exact ⟨_, _, _, rfl, answered⟩

/-- Checkers that run while the handler is busy fill the channel. -/
theorem Reachable.fill (count : Nat)
    (reachable : (mk (before ++ (replicate count freshChecker ++ after)) checkers updates
      .busy).Reachable) (room : updates.length + count ≤ updateChannelCapacity) :
    ∃ reported received, reported.length = before.length + count ∧
      received.length = updates.length + count ∧
      (mk (reported ++ after) checkers received .busy).Reachable := by
  induction count generalizing before updates with
  | zero => exact ⟨before, updates, rfl, rfl, reachable⟩
  | succ count induction =>
    rcases reachable.check with ⟨task, update, change, sending, ready⟩
    have sent := ready.stepChecker .sent nofun (fun _ => by omega)
      (by rw [CheckerState.step, sending])
    rw [← singleton_append, ← append_assoc] at sent
    rcases induction sent (by simp [update?]; omega) with
      ⟨reported, received, tasks, updates, reached⟩
    refine ⟨reported, received, ?_, ?_, reached⟩
    · simp only [length_append, length_singleton] at tasks
      omega
    · simp [update?] at updates
      omega

theorem reachable_twoClusters (count : Nat) :
    ∃ numbers, (mk (replicate count freshChecker ++ [freshChecker])
      [([], numbers), (['b'], [count])] [] .busy).Reachable := by
  have initial : start.Reachable := ⟨_, _, .start⟩
  have first := initial.step (.restartCluster [] (replicate count (⟨[], []⟩, plainCheck))) rfl
  have both := first.step (.restartCluster ['b'] [(⟨[], []⟩, plainCheck)]) rfl
  refine ⟨(range count).map (0 + ·), ?_⟩
  simpa [start, stopCluster, stopNext, complete, checkersOf, freshChecker] using both

end

omit [DurationArithmetic] in
/-- More checkers than the channel has room for have an update to send; one of them is
stopped while it waits for room. -/
theorem handler_waits_for_blocked_checker :
    letI := DurationArithmetic.withoutJitter
    ∃ events outputs state, machine.Run anyStep start events outputs state ∧ state.Deadlocked := by
  let arithmetic := DurationArithmetic.withoutJitter
  rcases reachable_twoClusters updateChannelCapacity with ⟨numbers, started⟩
  rcases @Reachable.fill _ [] [freshChecker] _ [] updateChannelCapacity started (by simp) with
    ⟨reported, received, reports, full, filled⟩
  rcases filled.check with ⟨task, update, change, sending, blocked⟩
  have selecting := blocked.step .finish rfl
  have taken := selecting.step .work rfl
  rcases taken.step (.stopCluster ['b']) rfl with ⟨events, outputs, run⟩
  refine ⟨events, outputs, _, run, updateChannelCapacity, [], .resume, notify task, update,
    change, rfl, ?_, sending, ?_⟩
  · have position : reported.length = updateChannelCapacity := by simpa using reports
    simp [stopCluster, stopNext, checkersOf, ← position]
  · change updateChannelCapacity ≤ received.length
    simp [full]

end HealthSystem

end Orion.Health
