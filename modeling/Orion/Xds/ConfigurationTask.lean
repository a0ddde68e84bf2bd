import Orion.Health.Manager
import Orion.Xds.Handler

/-! # The configuration task

The task adds the clusters of the bootstrap, starts their health checks, connects to the
discovery service, and then takes configuration and health updates in turn. Its steps are
those between which other tasks may run.
-/

namespace Orion.Xds

open Foundation Http Tls Clusters Option
open Health

structure CheckedBuilder where
  builder : PartialClusterType
  healthCheck : Option HealthCheck

structure Bootstrap where
  clusters : List CheckedBuilder
  adsClusterNames : List Text

structure CheckedUpdate where
  update : ResourceUpdate
  healthCheck : Option HealthCheck

inductive Stage (Limiter : Type) where
  /-- The initial resources are not configured yet. -/
  | configuring
  /-- The checkers of the initial clusters are started, one cluster after the other. -/
  | starting (clusters : List CheckedCluster)
  | connecting
  /-- The task waits before it connects again. -/
  | sleeping
  /-- The task is connected, with what is left to do of a batch of updates. -/
  | serving (actions : List (Action Limiter)) (updates : List CheckedUpdate)
  /-- It waits for another task to take a message. -/
  | awaiting (actions : List (Action Limiter)) (updates : List CheckedUpdate)
  | ended
  /-- The process is about to exit. -/
  | exiting

inductive TaskEvent where
  /-- The listeners are sent to the runtimes, and the clusters added. -/
  | configure (delivered : Bool)
  | startNext
  | connect
  /-- The next cluster of the discovery service gives a client, or none. -/
  | resolve (connected : Bool)
  | retry
  /-- A health update is taken. -/
  | receive
  /-- A batch of updates is taken. -/
  | work (updates : List CheckedUpdate)
  | process
  | act
  /-- There is no room for the message to be sent. -/
  | await
  | resume
  | finish
  /-- The checker that the task waits for has ended. -/
  | joined
  | checker (number : Nat) (event : CheckerEvent)

structure ConfigurationTask (Limiter : Type) where
  stage : Stage Limiter
  handler : ConfigurationHandler
  /-- The health checks of the clusters, by their names. -/
  healthChecks : Text → Option HealthCheck
  health : HealthSystem

/-- The clusters of the proxy with their health checks, and those that were added. -/
structure Configured where
  clusters : ClustersMap
  healthChecks : Text → Option HealthCheck
  added : List CheckedCluster

section

variable [HttpCrate] [ChannelCrates] [BalancerCrates] [HashMapOrder] (profile : BuildProfile)

/-- The first cluster that cannot be built ends it. -/
def configureInitialResources (clusters : ClustersMap) (healthChecks : Text → Option HealthCheck) :
    List CheckedBuilder → Except Failure Configured
  | [] => .ok ⟨clusters, healthChecks, []⟩
  | first :: rest =>
    match clusters.addCluster profile first.builder with
    | (.error failure, _) => .error failure
    | (.ok cluster, clusters) => do
        let configured ← configureInitialResources clusters
          (Function.update healthChecks cluster.name first.healthCheck) rest
        return { configured with
          added := ⟨cluster, first.healthCheck⟩ :: configured.added }

end

def Action.sends {Limiter : Type} : Action Limiter → Bool
  | .subscription _ | .listenerChange _ | .routeChange _ | .accessLogs _ _ => true
  | .restartCluster _ | .stopCluster _ => false

namespace CheckedUpdate

def changeHealthChecks (self : CheckedUpdate) (healthChecks : Text → Option HealthCheck)
    (result : Except UpdateFailure Unit) : Text → Option HealthCheck :=
  match self.update, result with
  | .update _ (.cluster _ config) _, .ok () =>
    Function.update healthChecks config.name self.healthCheck
  | _, _ => healthChecks

end CheckedUpdate

namespace ConfigurationTask

variable {Limiter : Type}

def start (secretManager : SecretManager) : ConfigurationTask Limiter :=
  ⟨.configuring, ⟨secretManager, .empty⟩, fun _ => none, .start⟩

/-- The task ends, and with it the receiver of the health updates. -/
def crash (self : ConfigurationTask Limiter) : ConfigurationTask Limiter :=
  { self with stage := .ended, health := { self.health with handler := .ended } }

section

variable [DurationArithmetic]

def perform (self : ConfigurationTask Limiter) (event : SystemEvent) (stage : Stage Limiter) :
    Option (ConfigurationTask Limiter) :=
  (self.health.step event).map fun (health, _) =>
    { self with stage := stage, health := health }

theorem perform_eq_some {self : ConfigurationTask Limiter} {stage : Stage Limiter}
    (taken : (self.perform event stage).map (fun next => (next, [])) = some (next, emitted)) :
    ∃ health outputs, self.health.step event = some (health, outputs) ∧
      next = { self with stage := stage, health := health } := by
  simp only [perform, map_map, map_eq_some_iff] at taken
  rcases taken with ⟨⟨health, outputs⟩, stepped, ⟨⟩⟩
  exact ⟨health, outputs, stepped, rfl⟩

variable [TlsPlatform] [HttpCrate] [ChannelCrates] [BalancerCrates] [HashMapOrder]
  (newLimiter : Configuration.LocalRateLimit → Limiter) (profile : BuildProfile)
  (bootstrap : Bootstrap)

section

variable (self : ConfigurationTask Limiter)

omit [TlsPlatform] [HttpCrate] [HashMapOrder] [ChannelCrates] in
/-- Whether the health changed is not looked at. -/
def processHealthEvent (update : EndpointHealthUpdate) : ConfigurationTask Limiter :=
  match self.handler.clusters.updateEndpointHealth profile update.endpoint.cluster
    update.endpoint.endpoint update.health with
  | .error _ => self.crash
  | .ok clusters => { self with handler := { self.handler with clusters := clusters } }

omit [TlsPlatform] [DurationArithmetic] in
/-- Without a discovery service, the task ends when the clusters are added. -/
def configure (delivered : Bool) : ConfigurationTask Limiter :=
  if delivered then
    match configureInitialResources profile self.handler.clusters self.healthChecks
      bootstrap.clusters with
    | .error _ => { self with stage := .exiting }
    | .ok configured =>
      { self with
        stage := match bootstrap.adsClusterNames with
          | [] => .ended
          | _ => .starting configured.added
        handler := { self.handler with clusters := configured.clusters }
        healthChecks := configured.healthChecks }
  else
    { self with stage := .exiting }

omit [DurationArithmetic] in
def process (update : CheckedUpdate) (rest : List CheckedUpdate) : ConfigurationTask Limiter :=
  let processed := self.handler.processUpdate newLimiter profile update.update
  match processed.result with
  | .error (.panicked _) => self.crash
  | result =>
    { self with
      stage := .serving processed.actions rest
      handler := processed.handler
      healthChecks := update.changeHealthChecks self.healthChecks result }

omit [TlsPlatform] [ChannelCrates] [BalancerCrates] [HashMapOrder] in
def act (action : Action Limiter) (rest : Stage Limiter) : Option (ConfigurationTask Limiter) :=
  match action with
  | .restartCluster cluster =>
    self.perform (HealthCheckManager.restartCluster self.handler.clusters
      ⟨cluster, self.healthChecks cluster.name⟩) rest
  | .stopCluster name => self.perform (.stopCluster name) rest
  | .subscription _ | .listenerChange _ | .routeChange _ | .accessLogs _ _ =>
    some { self with stage := rest }

def step (event : TaskEvent) : Option (ConfigurationTask Limiter × List (Action Limiter)) :=
  match event, self.stage with
  | .configure delivered, .configuring => some (self.configure profile bootstrap delivered, [])
  | .startNext, .starting (cluster :: rest) =>
    (self.perform (HealthCheckManager.restartCluster self.handler.clusters cluster)
      (.starting rest)).map fun next => (next, [])
  | .connect, .starting [] =>
    if self.health.handler = .busy then some ({ self with stage := .connecting }, []) else none
  | .resolve true, .connecting =>
    (self.perform .finish (.serving [] [])).map fun next => (next, [])
  | .resolve false, .connecting => some ({ self with stage := .sleeping }, [])
  | .retry, .sleeping => some ({ self with stage := .connecting }, [])
  | .receive, .serving [] [] =>
    (self.health.step .receive).map fun (health, updates) =>
      (updates.foldl (fun task update => task.processHealthEvent profile update)
        { self with health := health }, [])
  | .work updates, .serving [] [] =>
    (self.perform .work (.serving [] updates)).map fun next => (next, [])
  | .process, .serving [] (update :: rest) =>
    if self.health.handler = .busy then
      some (self.process newLimiter profile update rest, [])
    else
      none
  | .act, .serving (action :: actions) updates =>
    if self.health.handler = .busy then
      (self.act action (.serving actions updates)).map fun next => (next, [action])
    else
      none
  | .await, .serving (action :: actions) updates =>
    if self.health.handler = .busy ∧ action.sends then
      some ({ self with stage := .awaiting (action :: actions) updates }, [])
    else
      none
  | .resume, .awaiting actions updates =>
    some ({ self with stage := .serving actions updates }, [])
  | .finish, .serving [] [] =>
    (self.perform .finish (.serving [] [])).map fun next => (next, [])
  | .joined, stage => (self.perform .joined stage).map fun next => (next, [])
  | .checker number event, stage =>
    (self.perform (.checker number event) stage).map fun next => (next, [])
  | _, _ => none

end

def machine : Machine (ConfigurationTask Limiter) TaskEvent (Action Limiter) where
  step := step newLimiter profile bootstrap

/-! ## Steps -/

inductive Moves (self : ConfigurationTask Limiter) : TaskEvent → ConfigurationTask Limiter → Prop
  | configure {delivered} (stage : self.stage = .configuring) :
      Moves self (.configure delivered) (self.configure profile bootstrap delivered)
  | startNext {cluster rest health outputs} (stage : self.stage = .starting (cluster :: rest))
      (taken : self.health.step (HealthCheckManager.restartCluster self.handler.clusters
        cluster) = some (health, outputs)) :
      Moves self .startNext { self with stage := .starting rest, health := health }
  | connect (stage : self.stage = .starting []) (busy : self.health.handler = .busy) :
      Moves self .connect { self with stage := .connecting }
  | connected {health outputs} (stage : self.stage = .connecting)
      (taken : self.health.step .finish = some (health, outputs)) :
      Moves self (.resolve true) { self with stage := .serving [] [], health := health }
  | failed (stage : self.stage = .connecting) :
      Moves self (.resolve false) { self with stage := .sleeping }
  | retry (stage : self.stage = .sleeping) :
      Moves self .retry { self with stage := .connecting }
  | receive {health updates} (stage : self.stage = .serving [] [])
      (taken : self.health.step .receive = some (health, updates)) :
      Moves self .receive (updates.foldl (fun task update =>
        task.processHealthEvent profile update) { self with health := health })
  | work {updates health outputs} (stage : self.stage = .serving [] [])
      (taken : self.health.step .work = some (health, outputs)) :
      Moves self (.work updates) { self with stage := .serving [] updates, health := health }
  | process {update rest} (stage : self.stage = .serving [] (update :: rest))
      (busy : self.health.handler = .busy) :
      Moves self .process (self.process newLimiter profile update rest)
  | act {action actions updates next} (stage : self.stage = .serving (action :: actions) updates)
      (busy : self.health.handler = .busy)
      (taken : self.act action (.serving actions updates) = some next) :
      Moves self .act next
  | await {actions updates} (stage : self.stage = .serving actions updates) :
      Moves self .await { self with stage := .awaiting actions updates }
  | resume {actions updates} (stage : self.stage = .awaiting actions updates) :
      Moves self .resume { self with stage := .serving actions updates }
  | finish {health outputs} (stage : self.stage = .serving [] [])
      (taken : self.health.step .finish = some (health, outputs)) :
      Moves self .finish { self with stage := .serving [] [], health := health }
  | joined {health outputs} (taken : self.health.step .joined = some (health, outputs)) :
      Moves self .joined { self with health := health }
  | checker {number event health} (taken : self.health.stepChecker number event = some health) :
      Moves self (.checker number event) { self with health := health }

variable {newLimiter profile bootstrap} {self next : ConfigurationTask Limiter}

theorem moves_of_step
    (taken : self.step newLimiter profile bootstrap event = some (next, emitted)) :
    self.Moves newLimiter profile bootstrap event next := by
  unfold step at taken
  split at taken
  case h_1 stage =>
      cases taken
      exact .configure stage
  case h_2 stage =>
      rcases perform_eq_some taken with ⟨_, _, stepped, rfl⟩
      exact .startNext stage stepped
  case h_3 stage =>
      split_ifs at taken with busy
      cases taken
      exact .connect stage busy
  case h_4 stage =>
      rcases perform_eq_some taken with ⟨_, _, stepped, rfl⟩
      exact .connected stage stepped
  case h_5 stage =>
      cases taken
      exact .failed stage
  case h_6 stage =>
      cases taken
      exact .retry stage
  case h_7 stage =>
      rcases map_eq_some_iff.mp taken with ⟨⟨_, _⟩, stepped, ⟨⟩⟩
      exact .receive stage stepped
  case h_8 stage =>
      rcases perform_eq_some taken with ⟨_, _, stepped, rfl⟩
      exact .work stage stepped
  case h_9 stage =>
      split_ifs at taken with busy
      cases taken
      exact .process stage busy
  case h_10 stage =>
      split_ifs at taken with busy
      rcases map_eq_some_iff.mp taken with ⟨_, acted, ⟨⟩⟩
      exact .act stage busy acted
  case h_11 stage =>
      split_ifs at taken
      cases taken
      exact .await stage
  case h_12 stage =>
      cases taken
      exact .resume stage
  case h_13 stage =>
      rcases perform_eq_some taken with ⟨_, _, stepped, rfl⟩
      exact .finish stage stepped
  case h_14 =>
      rcases perform_eq_some taken with ⟨_, _, stepped, rfl⟩
      exact .joined stepped
  case h_15 =>
      rcases perform_eq_some taken with ⟨_, _, stepped, rfl⟩
      rcases map_eq_some_iff.mp stepped with ⟨_, moved, ⟨⟩⟩
      exact .checker moved
  case h_16 => cases taken

end

end ConfigurationTask

end Orion.Xds
