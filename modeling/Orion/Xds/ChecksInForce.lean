import Orion.Tls.FailClosed
import Orion.Xds.ConfigurationTask

/-! # Health checks in force

Health checks are started by the task that connects to the discovery service, and their
updates taken when it is connected and waits for the next update.
-/

namespace Orion.Xds

open Foundation Http Tls Clusters
open Health
open Machine List Option

namespace ConfigurationTask

variable {Limiter : Type}

/-- The initial resources are configured and their health checks started, as far as they
are. -/
def IsConfigured (self : ConfigurationTask Limiter) : Bool :=
  match self.stage with
  | .configuring | .starting _ | .exiting => false
  | _ => true

/-- The task can go on only when time has passed, or another task has done something. -/
inductive Waits (self : ConfigurationTask Limiter) : Prop
  | sleeping (stage : self.stage = .sleeping)
  | awaiting {actions updates} (stage : self.stage = .awaiting actions updates)
  | selecting (handler : self.health.handler = .selecting)
  | stopping {awaited rest afterwards task}
      (handler : self.health.handler = .stopping awaited rest afterwards)
      (found : self.health.tasks[awaited]? = some task)
      (running : task.state.phase.ended = false)

def Covers (self : ConfigurationTask Limiter) (name : Text) (cluster : ClusterType) : Prop :=
  ∀ check, (CheckedCluster.mk cluster (self.healthChecks name)).intoHealthCheck = some check →
    ∀ endpoint ∈ cluster.allEndpoints, self.health.Checking ⟨name, endpoint.authority⟩

section

variable [DurationArithmetic] [TlsPlatform] [HttpCrate] [ChannelCrates] [BalancerCrates]
  [HashMapOrder] (newLimiter : Configuration.LocalRateLimit → Limiter) (profile : BuildProfile)
  (bootstrap : Bootstrap)

/-- With updates in the channel, the next one is taken and processed. -/
def ReadyToReceive (self : ConfigurationTask Limiter) : Prop :=
  ∀ update updates,
    step newLimiter profile bootstrap
        { self with health := { self.health with updates := update :: updates } } .receive =
      some (processHealthEvent profile
        { self with health := { self.health with updates := updates } } update, [])

/-- The health checks of the initial clusters are in force until updates change them, and
health updates can be taken whenever the task waits. -/
structure InForce (events : List TaskEvent) (task : ConfigurationTask Limiter) : Prop where
  checked : task.IsConfigured → (∀ updates, .work updates ∉ events) →
    ∀ name cluster, task.handler.clusters.get? name = some cluster → task.Covers name cluster
  ready : task.Waits → task.ReadyToReceive newLimiter profile bootstrap

/-- What keeps the health checks in force: there is a discovery service, unless there are no
health checks; all endpoints can be checked; the first connection succeeds; checkers do not
end; and the task does not have to wait for other tasks. -/
def Undisturbed (self : ConfigurationTask Limiter) : TaskEvent → Prop
  | .configure _ =>
    bootstrap.adsClusterNames ≠ [] ∨ ∀ cluster ∈ bootstrap.clusters, cluster.healthCheck = none
  | .startNext => ∀ next rest, self.stage = .starting (next :: rest) →
      self.health.checkersOf next.cluster.name = [] ∧
      ∀ check cluster, next.intoHealthCheck = some check →
        self.handler.clusters.get? next.cluster.name = some cluster →
        ∀ endpoint ∈ cluster.allEndpoints, check.protocol.Reaches next.cluster.name endpoint
  | .resolve connected => connected = true
  | .act => ∀ action actions updates, self.stage = .serving (action :: actions) updates →
      match action with
      | .restartCluster cluster => self.health.checkersOf cluster.name = []
      | .stopCluster name => self.health.checkersOf name = []
      | _ => True
  | .await => False
  | .checker number event => ∀ task, self.health.tasks[number]? = some task →
      CheckerState.KeepsRunning task.config task.state event
  | _ => True

end

/-! ## Waiting -/

inductive Orderly (self : ConfigurationTask Limiter) : Prop
  | busy (handler : self.health.handler = .busy) (awake : self.stage ≠ .sleeping)
      (free : ∀ actions updates, self.stage ≠ .awaiting actions updates)
  | selecting (handler : self.health.handler = .selecting) (stage : self.stage = .serving [] [])
  | ended (handler : self.health.handler = .ended) (stage : self.stage = .ended)

variable {self : ConfigurationTask Limiter}

theorem Orderly.selecting_of_waits (orderly : self.Orderly)
    (waits : self.Waits) : self.health.handler = .selecting ∧ self.stage = .serving [] [] := by
  cases orderly with
  | selecting handler stage => exact ⟨handler, stage⟩
  | busy handler awake free =>
    cases waits with
    | sleeping stage => exact absurd stage awake
    | awaiting stage => exact absurd stage (free _ _)
    | selecting other | stopping other => cases handler.symm.trans other
  | ended handler stage =>
    cases waits with
    | sleeping other | awaiting other => cases stage.symm.trans other
    | selecting other | stopping other => cases handler.symm.trans other

theorem Orderly.busy_of_stage (orderly : self.Orderly) (active : self.stage ≠ .serving [] [])
    (running : self.stage ≠ .ended) : self.health.handler = .busy := by
  cases orderly with
  | busy handler => exact handler
  | selecting _ stage => exact absurd stage active
  | ended _ stage => exact absurd stage running

theorem Orderly.not_elsewhere (orderly : self.Orderly) :
    (∀ awaited rest afterwards, self.health.handler ≠ .stopping awaited rest afterwards) ∧
      self.stage ≠ .sleeping ∧ ∀ actions updates, self.stage ≠ .awaiting actions updates := by
  cases orderly with
  | busy handler awake free =>
    rw [handler]
    exact ⟨nofun, awake, free⟩
  | selecting handler stage | ended handler stage =>
    rw [handler, stage]
    exact ⟨nofun, nofun, nofun⟩

theorem Orderly.of_health (orderly : self.Orderly) {health : HealthSystem}
    (same : health.handler = self.health.handler) : Orderly { self with health := health } := by
  cases orderly with
  | busy handler awake free => exact .busy (same.trans handler) awake free
  | selecting handler stage => exact .selecting (same.trans handler) stage
  | ended handler stage => exact .ended (same.trans handler) stage

section

variable [DurationArithmetic] [TlsPlatform] [HttpCrate] [ChannelCrates] [BalancerCrates]
  [HashMapOrder] {newLimiter : Configuration.LocalRateLimit → Limiter} {profile : BuildProfile}
  {bootstrap : Bootstrap} {self next : ConfigurationTask Limiter}

theorem readyToReceive_of_selecting (handler : self.health.handler = .selecting)
    (stage : self.stage = .serving [] []) : self.ReadyToReceive newLimiter profile bootstrap := by
  intro update updates
  simp [step, stage, HealthSystem.step, handler]

omit [DurationArithmetic] [TlsPlatform] [HttpCrate] [ChannelCrates] [HashMapOrder] in
theorem processHealthEvent_cases (profile : BuildProfile) (self : ConfigurationTask Limiter)
    (update : EndpointHealthUpdate) :
    self.processHealthEvent profile update = self.crash ∨
    ∃ clusters, self.handler.clusters.updateEndpointHealth profile update.endpoint.cluster
        update.endpoint.endpoint update.health = .ok clusters ∧
      self.processHealthEvent profile update =
        { self with handler := { self.handler with clusters := clusters } } := by
  unfold processHealthEvent
  cases self.handler.clusters.updateEndpointHealth profile update.endpoint.cluster
    update.endpoint.endpoint update.health with
  | error => exact .inl rfl
  | ok clusters => exact .inr ⟨clusters, rfl, rfl⟩

omit [DurationArithmetic] [TlsPlatform] in
theorem configure_cases (profile : BuildProfile) (bootstrap : Bootstrap)
    (self : ConfigurationTask Limiter) (delivered : Bool) :
    self.configure profile bootstrap delivered = { self with stage := .exiting } ∨
    ∃ configured, configureInitialResources profile self.handler.clusters self.healthChecks
        bootstrap.clusters = .ok configured ∧
      self.configure profile bootstrap delivered =
        ⟨match bootstrap.adsClusterNames with
          | [] => .ended
          | _ => .starting configured.added,
        { self.handler with clusters := configured.clusters }, configured.healthChecks,
        self.health⟩ := by
  cases delivered with
  | false => exact .inl rfl
  | true =>
    unfold configure
    cases configureInitialResources profile self.handler.clusters self.healthChecks
      bootstrap.clusters with
    | error => exact .inl rfl
    | ok configured => exact .inr ⟨configured, rfl, rfl⟩

omit [DurationArithmetic] in
theorem process_orderly (busy : self.health.handler = .busy) (update : CheckedUpdate)
    (rest : List CheckedUpdate) : (self.process newLimiter profile update rest).Orderly := by
  simp only [process]
  split
  · exact .ended rfl rfl
  · exact .busy busy nofun nofun

omit [TlsPlatform] [ChannelCrates] [BalancerCrates] [HashMapOrder] in
theorem act_orderly (busy : self.health.handler = .busy) (unchecked : match action with
      | .restartCluster cluster => self.health.checkersOf cluster.name = []
      | .stopCluster name => self.health.checkersOf name = []
      | _ => True) (taken : self.act action (.serving actions updates) = some next) :
    next.Orderly := by
  cases action with
  | restartCluster cluster =>
    rcases @HealthSystem.step_restart _ _ _ self.handler.clusters
      ⟨cluster, self.healthChecks cluster.name⟩ busy unchecked with ⟨_, stepped, stays, _⟩
    simp only [act, perform, stepped] at taken
    cases taken
    exact .busy stays (by rintro ⟨⟩) (by rintro _ _ ⟨⟩)
  | stopCluster name =>
    rcases HealthSystem.step_stopCluster busy unchecked with ⟨_, stepped, stays, _⟩
    simp only [act, perform, stepped, map_some] at taken
    cases taken
    exact .busy stays (by rintro ⟨⟩) (by rintro _ _ ⟨⟩)
  | subscription | listenerChange | routeChange | accessLogs =>
    cases taken
    exact .busy busy (by rintro ⟨⟩) (by rintro _ _ ⟨⟩)

/-- Without disturbance, the task waits for nothing but updates. -/
theorem Moves.orderly (moves : self.Moves newLimiter profile bootstrap event next)
    (undisturbed : self.Undisturbed bootstrap event) (orderly : self.Orderly) : next.Orderly := by
  cases moves with
  | @configure delivered stage =>
    have busy := orderly.busy_of_stage (by rw [stage]; nofun) (by rw [stage]; nofun)
    rcases configure_cases profile bootstrap self delivered with same | ⟨_, _, same⟩
    · rw [same]
      exact .busy busy nofun nofun
    · rw [same]
      refine .busy busy ?_ ?_ <;> cases bootstrap.adsClusterNames <;> exact nofun
  | @startNext cluster rest health outputs stage taken =>
    have busy := orderly.busy_of_stage (by rw [stage]; nofun) (by rw [stage]; nofun)
    rcases HealthSystem.step_restart busy (undisturbed cluster rest stage).1 with
      ⟨_, stepped, stays, _⟩
    cases stepped.symm.trans taken
    exact .busy stays nofun nofun
  | connect stage busy => exact .busy busy nofun nofun
  | connected stage taken | finish stage taken =>
    rcases HealthSystem.finish_eq_some taken with ⟨_, rfl⟩
    exact .selecting rfl rfl
  | failed => cases undisturbed
  | retry stage => exact absurd stage orderly.not_elsewhere.2.1
  | receive stage taken =>
    rcases HealthSystem.receive_eq_some taken with ⟨update, updates, selecting, rfl, rfl⟩
    rcases processHealthEvent_cases profile
      { self with health := { self.health with updates := updates } } update with
      same | ⟨clusters, _, same⟩
    · rw [foldl_cons, foldl_nil, same]
      exact .ended rfl rfl
    · rw [foldl_cons, foldl_nil, same]
      exact .selecting selecting stage
  | work stage taken =>
    rcases HealthSystem.work_eq_some taken with ⟨_, rfl⟩
    exact .busy rfl nofun nofun
  | process stage busy => exact process_orderly busy _ _
  | act stage busy taken => exact act_orderly busy (undisturbed _ _ _ stage) taken
  | await => exact undisturbed.elim
  | resume stage => exact absurd stage (orderly.not_elsewhere.2.2 _ _)
  | joined taken =>
    rcases HealthSystem.joined_eq_some taken with ⟨_, _, _, stopping, _⟩
    exact absurd stopping (orderly.not_elsewhere.1 _ _ _)
  | checker taken => exact orderly.of_health (HealthSystem.stepChecker_load taken).1

end

/-! ## Starting the checkers -/

def Pending (clusters : List CheckedCluster) (name : Text) (cluster : CheckedCluster) : Prop :=
  ∃ before after, clusters = before ++ cluster :: after ∧ cluster.cluster.name = name ∧
    ∀ later ∈ after, later.cluster.name ≠ name

theorem Pending.cons (pending : Pending clusters name cluster) (first : CheckedCluster) :
    Pending (first :: clusters) name cluster := by
  rcases pending with ⟨before, after, rfl, named, last⟩
  exact ⟨first :: before, after, rfl, named, last⟩

section

variable [HttpCrate] [ChannelCrates] [BalancerCrates] [HashMapOrder] {profile : BuildProfile}
  {clusters : ClustersMap} {healthChecks : Text → Option HealthCheck} {configured : Configured}

theorem configureInitialResources_cons
    (accepted : configureInitialResources profile clusters healthChecks (first :: rest) =
      .ok configured) :
    ∃ added later, configureInitialResources profile (clusters.insert added.name added)
        (Function.update healthChecks added.name first.healthCheck) rest = .ok later ∧
      configured = { later with added := ⟨added, first.healthCheck⟩ :: later.added } := by
  simp only [configureInitialResources, ClustersMap.addCluster] at accepted
  cases built : first.builder.build profile with
  | error failure =>
    simp only [built] at accepted
    cases accepted
  | ok added =>
    simp only [built] at accepted
    rcases bind_eq_ok_iff.mp accepted with ⟨later, configured, ⟨⟩⟩
    exact ⟨added, later, configured, rfl⟩

/-- The clusters of the proxy are the last of their names, or those that were there. -/
theorem configureInitialResources_get?
    (accepted : configureInitialResources profile clusters healthChecks builders = .ok configured)
    (found : configured.clusters.get? name = some cluster) :
    Pending configured.added name ⟨cluster, configured.healthChecks name⟩ ∨
      ((∀ added ∈ configured.added, added.cluster.name ≠ name) ∧ clusters.get? name = some cluster ∧
        configured.healthChecks name = healthChecks name) := by
  induction builders generalizing clusters healthChecks configured with
  | nil =>
    cases accepted
    refine .inr ⟨?_, found, rfl⟩
    intro added member
    cases member
  | cons first rest induction =>
    rcases configureInitialResources_cons accepted with ⟨added, later, configured, rfl⟩
    rcases induction configured found with pending | ⟨unnamed, before, kept⟩
    · exact .inl (pending.cons _)
    · by_cases named : added.name = name
      · subst named
        rw [OrderedMap.get?_insert_self] at before
        cases before
        rw [Function.update_self] at kept
        refine .inl ⟨[], later.added, ?_, rfl, unnamed⟩
        rw [kept]
        rfl
      · rw [OrderedMap.get?_insert_of_ne _ _ named] at before
        rw [Function.update_of_ne (Ne.symm named)] at kept
        refine .inr ⟨?_, before, kept⟩
        intro other member
        rcases mem_cons.mp member with rfl | member
        · exact named
        · exact unnamed other member

theorem configureInitialResources_added
    (accepted : configureInitialResources profile clusters healthChecks builders = .ok configured)
    (member : added ∈ configured.added) :
    ∃ builder ∈ builders, added.healthCheck = builder.healthCheck := by
  induction builders generalizing clusters healthChecks configured with
  | nil =>
    cases accepted
    cases member
  | cons first rest induction =>
    rcases configureInitialResources_cons accepted with ⟨cluster, later, configured, rfl⟩
    rcases mem_cons.mp member with rfl | member
    · exact ⟨first, mem_cons_self, rfl⟩
    · rcases induction configured member with ⟨builder, known, same⟩
      exact ⟨builder, mem_cons_of_mem first known, same⟩

end

def AllCovered (self : ConfigurationTask Limiter) : Prop :=
  ∀ name cluster, self.handler.clusters.get? name = some cluster → self.Covers name cluster

def Progress (self : ConfigurationTask Limiter) : Prop :=
  match self.stage with
  | .configuring => ∀ name, self.handler.clusters.get? name = none
  | .starting remaining => ∀ name cluster, self.handler.clusters.get? name = some cluster →
      Pending remaining name ⟨cluster, self.healthChecks name⟩ ∨
        (∀ later ∈ remaining, later.cluster.name ≠ name) ∧ self.Covers name cluster
  | .serving actions updates => actions = [] ∧ updates = [] ∧ self.AllCovered
  | .exiting => True
  | _ => self.AllCovered

section

variable {self next : ConfigurationTask Limiter}

theorem Progress.allCovered (progress : self.Progress) (configured : self.IsConfigured) :
    self.AllCovered := by
  cases stage : self.stage with
  | configuring | starting | exiting => simp [IsConfigured, stage] at configured
  | serving =>
    simp only [Progress, stage] at progress
    exact progress.2.2
  | connecting | sleeping | awaiting | ended =>
    simpa only [Progress, stage] using progress

theorem Covers.mono (covers : self.Covers name cluster)
    (same : next.healthChecks = self.healthChecks)
    (kept : ∀ endpoint, self.health.Checking endpoint → next.health.Checking endpoint) :
    next.Covers name cluster := by
  intro check checked endpoint member
  rw [same] at checked
  exact kept _ (covers check checked endpoint member)

theorem AllCovered.mono (covered : self.AllCovered)
    (clusters : next.handler.clusters = self.handler.clusters)
    (same : next.healthChecks = self.healthChecks)
    (kept : ∀ endpoint, self.health.Checking endpoint → next.health.Checking endpoint) :
    next.AllCovered := by
  intro name cluster found
  rw [clusters] at found
  exact (covered name cluster found).mono same kept

theorem Progress.mono (progress : self.Progress) {health : HealthSystem}
    (kept : ∀ endpoint, self.health.Checking endpoint → health.Checking endpoint) :
    Progress { self with health := health } := by
  cases stage : self.stage with
  | configuring => simpa only [Progress, stage] using progress
  | exiting => trivial
  | starting remaining =>
    simp only [Progress, stage] at progress ⊢
    intro name cluster found
    rcases progress name cluster found with pending | ⟨unnamed, covers⟩
    · exact .inl pending
    · exact .inr ⟨unnamed, covers.mono rfl kept⟩
  | serving =>
    simp only [Progress, stage] at progress ⊢
    exact ⟨progress.1, progress.2.1, progress.2.2.mono rfl rfl kept⟩
  | connecting | sleeping | awaiting | ended =>
    simp only [Progress, stage] at progress ⊢
    exact AllCovered.mono progress rfl rfl kept

/-- The last cluster of a name is started, or an earlier one of that name, or another. -/
theorem Pending.tail (pending : Pending (first :: rest) name cluster) :
    (first = cluster ∧ cluster.cluster.name = name ∧
      ∀ later ∈ rest, later.cluster.name ≠ name) ∨ Pending rest name cluster := by
  rcases pending with ⟨before, after, same, named, last⟩
  cases before with
  | nil =>
    cases same
    exact .inl ⟨rfl, named, last⟩
  | cons _ before =>
    cases same
    exact .inr ⟨before, after, rfl, named, last⟩

variable [DurationArithmetic] [TlsPlatform] [HttpCrate] [ChannelCrates] [BalancerCrates]
  [HashMapOrder] {newLimiter : Configuration.LocalRateLimit → Limiter} {profile : BuildProfile}
  {bootstrap : Bootstrap}

omit [DurationArithmetic] [TlsPlatform] in
theorem configure_progress (fresh : ∀ name, self.handler.clusters.get? name = none)
    (undisturbed : bootstrap.adsClusterNames ≠ [] ∨
      ∀ cluster ∈ bootstrap.clusters, cluster.healthCheck = none) :
    (self.configure profile bootstrap delivered).Progress := by
  rcases configure_cases profile bootstrap self delivered with same | ⟨configured, accepted, same⟩
  · rw [same]
    trivial
  · have pending : ∀ name cluster, configured.clusters.get? name = some cluster →
        Pending configured.added name ⟨cluster, configured.healthChecks name⟩ := by
      intro name cluster found
      rcases configureInitialResources_get? accepted found with pending | ⟨_, before, _⟩
      · exact pending
      · cases (fresh name).symm.trans before
    rw [same]
    cases names : bootstrap.adsClusterNames with
    | cons => exact fun name cluster found => .inl (pending name cluster found)
    | nil =>
      intro name cluster found check checked
      rcases pending name cluster found with ⟨before, after, order, _⟩
      have member : ⟨cluster, configured.healthChecks name⟩ ∈ configured.added := by
        simp [order]
      rcases configureInitialResources_added accepted member with ⟨builder, known, unchecked⟩
      rcases undisturbed with service | none
      · exact absurd names service
      · have uncheckable : configured.healthChecks name = Option.none :=
          unchecked.trans (none builder known)
        change CheckedCluster.intoHealthCheck ⟨cluster, configured.healthChecks name⟩ = _ at checked
        rw [uncheckable] at checked
        cases cluster <;> cases checked

omit [TlsPlatform] [ChannelCrates] [BalancerCrates] [HashMapOrder] in
theorem startNext_progress {health : HealthSystem} (progress : self.Progress)
    (stage : self.stage = .starting (first :: rest)) (busy : self.health.handler = .busy)
    (undisturbed : self.Undisturbed bootstrap .startNext)
    (taken : self.health.step (HealthCheckManager.restartCluster self.handler.clusters first) =
      some (health, outputs)) :
    ({ self with stage := .starting rest, health := health } :
      ConfigurationTask Limiter).Progress := by
  rcases undisturbed first rest stage with ⟨unchecked, reaches⟩
  rcases HealthSystem.step_restart busy unchecked with ⟨_, stepped, _, kept, started⟩
  cases stepped.symm.trans taken
  simp only [Progress, stage] at progress
  intro name cluster found
  rcases progress name cluster found with pending | ⟨unnamed, covers⟩
  · rcases pending.tail with ⟨same, named, last⟩ | later
    · refine .inr ⟨last, fun check checked endpoint member => ?_⟩
      have own : first.cluster.name = name := by
        rw [same]
        exact named
      have known : first.intoHealthCheck = some check := by
        rw [same]
        exact checked
      rw [own] at started reaches
      exact started check cluster known found endpoint member
        (reaches check cluster known found endpoint member)
    · exact .inl later
  · refine .inr ⟨fun later member => unnamed later (mem_cons_of_mem first member), ?_⟩
    exact covers.mono rfl kept

omit [DurationArithmetic] [TlsPlatform] [HttpCrate] [ChannelCrates] [HashMapOrder] in
theorem processHealthEvent_allCovered (covered : self.AllCovered) (update : EndpointHealthUpdate) :
    (self.processHealthEvent profile update).AllCovered := by
  rcases processHealthEvent_cases profile self update with same | ⟨clusters, updated, same⟩
  · rw [same]
    exact covered.mono rfl rfl fun _ checking => checking
  · rw [same]
    intro name cluster found
    unfold ClustersMap.updateEndpointHealth at updated
    cases known : self.handler.clusters.get? update.endpoint.cluster with
    | none =>
      simp only [known] at updated
      cases updated
      exact covered name cluster found
    | some before =>
      simp only [known] at updated
      rcases map_eq_ok_iff.mp updated with ⟨after, changed, rfl⟩
      by_cases named : update.endpoint.cluster = name
      · subst named
        rw [OrderedMap.get?_insert_self] at found
        cases found
        intro check checked endpoint member
        rcases updateHealth_checked changed (self.healthChecks update.endpoint.cluster) with
          ⟨endpoints, healthCheck⟩
        exact covered _ before known check (healthCheck.symm.trans checked) endpoint
          (endpoints ▸ member)
      · rw [OrderedMap.get?_insert_of_ne _ _ named] at found
        exact covered name cluster found

/-- Without disturbance, all initial clusters that have a health check are covered in the
end. -/
theorem Moves.progress (moves : self.Moves newLimiter profile bootstrap event next)
    (undisturbed : self.Undisturbed bootstrap event) (orderly : self.Orderly)
    (noUpdates : ∀ updates, event ≠ .work updates) (progress : self.Progress) : next.Progress := by
  cases moves with
  | configure stage =>
    simp only [Progress, stage] at progress
    exact configure_progress progress undisturbed
  | startNext stage taken =>
    have busy := orderly.busy_of_stage (by rw [stage]; nofun) (by rw [stage]; nofun)
    exact startNext_progress progress stage busy undisturbed taken
  | connect stage =>
    simp only [Progress, stage] at progress
    intro name cluster found
    rcases progress name cluster found with ⟨before, after, impossible, _⟩ | ⟨_, covers⟩
    · simp at impossible
    · exact covers
  | connected stage taken | finish stage taken =>
    rcases HealthSystem.finish_eq_some taken with ⟨_, rfl⟩
    have covered := progress.allCovered (by simp [IsConfigured, stage])
    exact ⟨rfl, rfl, covered.mono rfl rfl fun _ checking => checking⟩
  | failed => cases undisturbed
  | retry stage => exact absurd stage orderly.not_elsewhere.2.1
  | receive stage taken =>
    rcases HealthSystem.receive_eq_some taken with ⟨update, updates, _, rfl, rfl⟩
    have before : AllCovered ({ self with health := { self.health with updates := updates } } :
        ConfigurationTask Limiter) :=
      (progress.allCovered (by simp [IsConfigured, stage])).mono rfl rfl fun _ checking => checking
    have covered := @processHealthEvent_allCovered _ _ _ profile before update
    rw [foldl_cons, foldl_nil]
    rcases processHealthEvent_cases profile
      { self with health := { self.health with updates := updates } } update with
      same | ⟨clusters, _, same⟩
    · rw [same] at covered ⊢
      exact covered
    · rw [same] at covered ⊢
      simp only [Progress, stage]
      exact ⟨trivial, trivial, covered⟩
  | work => exact absurd rfl (noUpdates _)
  | process stage =>
    simp only [Progress, stage] at progress
    cases progress.2.1
  | act stage =>
    simp only [Progress, stage] at progress
    cases progress.1
  | await => exact undisturbed.elim
  | resume stage => exact absurd stage (orderly.not_elsewhere.2.2 _ _)
  | joined taken =>
    rcases HealthSystem.joined_eq_some taken with ⟨_, _, _, stopping, _⟩
    exact absurd stopping (orderly.not_elsewhere.1 _ _ _)
  | checker taken =>
    exact progress.mono fun _ checking => checking.stepChecker taken undisturbed

/-- Without disturbance, the health checks of the initial clusters are in force, and health
updates are taken whenever the task waits. -/
theorem inForce_of_undisturbed {secretManager : SecretManager} {events : List TaskEvent}
    {outputs : List (Action Limiter)}
    (run : (machine newLimiter profile bootstrap).Run (Undisturbed bootstrap)
      (start secretManager) events outputs self) :
    self.InForce newLimiter profile bootstrap events := by
  have invariant : self.Orderly ∧ ((∀ updates, .work updates ∉ events) → self.Progress) := by
    induction run with
    | start => exact ⟨.busy rfl nofun nofun, fun _ _ => rfl⟩
    | extend _ undisturbed taken induction =>
      have moves := moves_of_step taken
      refine ⟨moves.orderly undisturbed induction.1, fun noUpdates => ?_⟩
      apply moves.progress undisturbed induction.1
      · rintro updates rfl
        exact noUpdates updates (by simp)
      · apply induction.2
        intro updates member
        exact noUpdates updates (mem_append_left _ member)
  refine ⟨fun configured noUpdates => ?_, fun waits => ?_⟩
  · exact (invariant.2 noUpdates).allCovered configured
  · rcases invariant.1.selecting_of_waits waits with ⟨handler, stage⟩
    exact readyToReceive_of_selecting handler stage

end

/-! ## A cluster with a health check -/

def checkedEndpoints : ClusterLoadAssignmentConfig :=
  ⟨[⟨0, [⟨.socket "10.0.0.1".toList 80, .healthy, ⟨1, Nat.one_pos, U32.one_lt_limit⟩⟩]⟩], []⟩

def checkedConfig : ClusterConfig where
  name := "a".toList
  discoverySettings := .static checkedEndpoints

def checkedBuilder [ChannelCrates] : CheckedBuilder where
  builder := .static ⟨checkedConfig.name,
    PartialClusterType.loadAssignmentBuilder checkedConfig .none checkedEndpoints, .none,
    checkedConfig⟩
  healthCheck := some ⟨plainCheck, .tcp⟩

attribute [local instance] DurationArithmetic.withoutJitter TlsPlatform.withoutFiles
  AsciiChannel.httpCrate ChannelCrates.ascii BalancerCrates.simple HashMapOrder.insertion

theorem started_check_in_force :
    ∃ outputs state, (machine (fun _ => ()) ⟨true⟩ ⟨[checkedBuilder], ["ads".toList]⟩).Run
        (Undisturbed ⟨[checkedBuilder], ["ads".toList]⟩) (start .empty)
        [.configure true, .startNext, .connect, .resolve true] outputs state ∧
      state.InForce (fun _ => ()) ⟨true⟩ ⟨[checkedBuilder], ["ads".toList]⟩
        [.configure true, .startNext, .connect, .resolve true] := by
  have undisturbed : (machine (fun _ => ()) ⟨true⟩ ⟨[checkedBuilder], ["ads".toList]⟩).AllAllowed
      (Undisturbed ⟨[checkedBuilder], ["ads".toList]⟩) (start .empty)
      [.configure true, .startNext, .connect, .resolve true] := by
    refine ⟨.inl nofun, ?_, trivial, rfl, trivial⟩
    intro next rest stage
    cases stage
    refine ⟨rfl, fun check cluster checked found endpoint member => ?_⟩
    cases checked
    cases found
    cases mem_singleton.mp member
    rfl
  have run : (machine (fun _ => ()) ⟨true⟩ ⟨[checkedBuilder], ["ads".toList]⟩).Run
      (Undisturbed ⟨[checkedBuilder], ["ads".toList]⟩) (start .empty)
      [.configure true, .startNext, .connect, .resolve true] _ _ := .of_execute rfl undisturbed
  exact ⟨_, _, run, inForce_of_undisturbed run⟩

/-- Without a discovery service no checker is started, and while the task cannot connect it
takes no health updates. -/
theorem checks_not_in_force :
    (∃ outputs state, (machine (fun _ => ()) ⟨true⟩ ⟨[checkedBuilder], []⟩).Run anyStep
        (start .empty) [.configure true] outputs state ∧
      ¬ state.InForce (fun _ => ()) ⟨true⟩ ⟨[checkedBuilder], []⟩ [.configure true]) ∧
    ∃ outputs state, (machine (fun _ => ()) ⟨true⟩ ⟨[], ["ads".toList]⟩).Run anyStep
        (start .empty) [.configure true, .connect, .resolve false] outputs state ∧
      ¬ state.InForce (fun _ => ()) ⟨true⟩ ⟨[], ["ads".toList]⟩
        [.configure true, .connect, .resolve false] := by
  constructor
  · refine ⟨_, _, .any_of_execute rfl, fun inForce => ?_⟩
    rcases inForce.checked rfl (by simp) "a".toList _ rfl _ rfl _ mem_cons_self with ⟨_, ⟨⟩, _⟩
  · refine ⟨_, _, .any_of_execute rfl, fun inForce => ?_⟩
    cases inForce.ready (.sleeping rfl) ⟨⟨[], []⟩, .healthy, false⟩ []

end ConfigurationTask

end Orion.Xds
