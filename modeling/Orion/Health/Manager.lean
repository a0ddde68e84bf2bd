import Orion.Clusters.Cluster
import Orion.Health.UpdateChannel

/-! # Starting health checkers

When a cluster is restarted, each of its endpoints gets a checker if there is a channel of
the right kind to it.
-/

namespace Orion.Clusters

open Foundation List Option

/-! ## The channels of a cluster -/

def ClusterLoadAssignment.tryAllGrpcChannels (self : ClusterLoadAssignment) :
    List (Except Text (Authority × GrpcService)) :=
  self.allEndpoints.map fun endpoint =>
    endpoint.grpcService.map fun channel => (endpoint.authority, channel)

namespace ClusterType

/-- The endpoints that the manager of the checkers sees. Those of a cluster that follows the
original destination are made by the threads that use them. -/
def allEndpoints (self : ClusterType) : List LbEndpoint :=
  (self.loadAssignment.map ClusterLoadAssignment.allEndpoints).getD []

def allHttpChannels (self : ClusterType) : List (Authority × HttpChannel) :=
  (self.loadAssignment.map ClusterLoadAssignment.allHttpChannels).getD []

def allTcpChannels (self : ClusterType) : List (Authority × TcpChannelConnector) :=
  (self.loadAssignment.map ClusterLoadAssignment.allTcpChannels).getD []

def allGrpcChannels (self : ClusterType) : List (Except Text (Authority × GrpcService)) :=
  (self.loadAssignment.map ClusterLoadAssignment.tryAllGrpcChannels).getD []

variable {self : ClusterType} {endpoint : LbEndpoint}

section

variable (member : endpoint ∈ self.allEndpoints)

include member

theorem mem_allEndpoints :
    ∃ loadAssignment, self.loadAssignment = some loadAssignment ∧
      endpoint ∈ loadAssignment.allEndpoints := by
  unfold allEndpoints at member
  cases found : self.loadAssignment with
  | none =>
    rw [found] at member
    cases member
  | some loadAssignment =>
    rw [found] at member
    exact ⟨loadAssignment, rfl, member⟩

theorem mem_allHttpChannels (reached : endpoint.httpChannel = some channel) :
    (endpoint.authority, channel) ∈ self.allHttpChannels := by
  rcases mem_allEndpoints member with ⟨loadAssignment, found, member⟩
  simp only [allHttpChannels, found, map_some, getD_some]
  exact mem_filterMap.mpr ⟨endpoint, member, by rw [reached]; rfl⟩

theorem mem_allTcpChannels (reached : endpoint.tcpChannel = some channel) :
    (endpoint.authority, channel) ∈ self.allTcpChannels := by
  rcases mem_allEndpoints member with ⟨loadAssignment, found, member⟩
  simp only [allTcpChannels, found, map_some, getD_some]
  exact mem_filterMap.mpr ⟨endpoint, member, by rw [reached]; rfl⟩

theorem mem_allGrpcChannels (reached : endpoint.grpcService = .ok channel) :
    .ok (endpoint.authority, channel) ∈ self.allGrpcChannels := by
  rcases mem_allEndpoints member with ⟨loadAssignment, found, member⟩
  simp only [allGrpcChannels, found, map_some, getD_some]
  exact mem_map.mpr ⟨endpoint, member, by rw [reached]; rfl⟩

end

end ClusterType

end Orion.Clusters

namespace Orion.Health

open Foundation Http Clusters List Option

/-! ## Configuration -/

structure HttpHealthCheck where
  host : Option Authority := none
  deriving DecidableEq

/-- Without a host, the name of the cluster stands for it. -/
def HttpHealthCheck.hostFor [HttpCrate] (self : HttpHealthCheck) (clusterName : Text) :
    Option Authority :=
  match self.host with
  | some host => some host
  | none => HttpCrate.authorityFromStr clusterName

inductive HealthCheckProtocol where
  | http (config : HttpHealthCheck)
  | tcp
  | grpc
  deriving DecidableEq

structure HealthCheck where
  cluster : ClusterHealthCheck
  protocol : HealthCheckProtocol
  deriving DecidableEq

structure CheckedCluster where
  cluster : ClusterType
  healthCheck : Option HealthCheck

def CheckedCluster.intoHealthCheck (self : CheckedCluster) : Option HealthCheck :=
  match self.cluster with
  | .static _ | .dynamic _ => self.healthCheck
  | .onDemand _ => none

/-- Health updates change neither the endpoints of a cluster nor its health check. -/
theorem updateHealth_checked [BalancerCrates] {cluster next : ClusterType}
    (updated : cluster.updateHealth profile endpoint health = .ok next)
    (healthCheck : Option HealthCheck) :
    next.allEndpoints = cluster.allEndpoints ∧
      (CheckedCluster.mk next healthCheck).intoHealthCheck =
        (CheckedCluster.mk cluster healthCheck).intoHealthCheck := by
  cases cluster with
  | static cluster =>
    rcases bind_eq_ok_iff.mp updated with ⟨_, changed, same⟩
    rcases bind_eq_ok_iff.mp changed with ⟨_, _, ⟨⟩⟩
    cases same
    exact ⟨rfl, rfl⟩
  | dynamic cluster =>
    simp only [ClusterType.updateHealth] at updated
    split at updated
    · cases updated
      exact ⟨rfl, rfl⟩
    · rename_i found
      rcases bind_eq_ok_iff.mp updated with ⟨_, changed, same⟩
      rcases bind_eq_ok_iff.mp changed with ⟨_, _, ⟨⟩⟩
      cases same
      simp only [ClusterType.allEndpoints, ClusterType.loadAssignment, found]
      exact ⟨rfl, rfl⟩
  | onDemand cluster =>
    cases updated
    exact ⟨rfl, rfl⟩

/-! ## The checkers of a cluster -/

namespace EndpointHealthChecker

variable (endpoint : EndpointId) (clusterConfig : ClusterHealthCheck)

/-- There is no checker without a host to ask for. -/
def tryNewHttp [HttpCrate] (protocolConfig : HttpHealthCheck) (_channel : HttpChannel) :
    Option (EndpointId × ClusterHealthCheck) :=
  (protocolConfig.hostFor endpoint.cluster).map fun _ => (endpoint, clusterConfig)

def newTcp (_channel : TcpChannelConnector) : EndpointId × ClusterHealthCheck :=
  (endpoint, clusterConfig)

def newGrpc (_channel : Clusters.GrpcService) : EndpointId × ClusterHealthCheck :=
  (endpoint, clusterConfig)

end EndpointHealthChecker

namespace HealthCheckManager

variable [HttpCrate]

/-- Endpoints without a channel get no checker. -/
def newCheckers (clusters : ClustersMap) (clusterName : Text) (check : HealthCheck) :
    List (EndpointId × ClusterHealthCheck) :=
  match clusters.get? clusterName with
  | none => []
  | some cluster =>
    match check.protocol with
    | .http config => cluster.allHttpChannels.filterMap fun (authority, channel) =>
      EndpointHealthChecker.tryNewHttp ⟨clusterName, authority⟩ check.cluster config channel
    | .tcp => cluster.allTcpChannels.map fun (authority, channel) =>
      EndpointHealthChecker.newTcp ⟨clusterName, authority⟩ check.cluster channel
    | .grpc => cluster.allGrpcChannels.filterMap fun result =>
      result.toOption.map fun (authority, channel) =>
        EndpointHealthChecker.newGrpc ⟨clusterName, authority⟩ check.cluster channel

/-- A cluster without a health check is only stopped. -/
def restartCluster (clusters : ClustersMap) (cluster : CheckedCluster) : SystemEvent :=
  match cluster.intoHealthCheck with
  | none => .stopCluster cluster.cluster.name
  | some check =>
    .restartCluster cluster.cluster.name (newCheckers clusters cluster.cluster.name check)

end HealthCheckManager

/-- The endpoint has a channel for the protocol, and HTTP has a host to ask for. -/
def HealthCheckProtocol.Reaches [HttpCrate] (protocol : HealthCheckProtocol)
    (clusterName : Text) (endpoint : LbEndpoint) : Prop :=
  match protocol with
  | .http config => endpoint.httpChannel.isSome ∧ (config.hostFor clusterName).isSome
  | .tcp => endpoint.tcpChannel.isSome
  | .grpc => endpoint.grpcService.isOk

namespace HealthCheckManager

variable [HttpCrate]

theorem mem_newCheckers {clusters : ClustersMap} {check : HealthCheck} {cluster : ClusterType}
    {endpoint : LbEndpoint} (found : clusters.get? clusterName = some cluster)
    (member : endpoint ∈ cluster.allEndpoints)
    (reaches : check.protocol.Reaches clusterName endpoint) :
    (⟨clusterName, endpoint.authority⟩, check.cluster) ∈
      newCheckers clusters clusterName check := by
  simp only [newCheckers, found]
  cases protocol : check.protocol with
  | http config =>
    rw [protocol] at reaches
    rcases isSome_iff_exists.mp reaches.1 with ⟨channel, reached⟩
    rcases isSome_iff_exists.mp reaches.2 with ⟨host, known⟩
    refine mem_filterMap.mpr ⟨_, ClusterType.mem_allHttpChannels member reached, ?_⟩
    simp [EndpointHealthChecker.tryNewHttp, known]
  | tcp =>
    rw [protocol] at reaches
    rcases isSome_iff_exists.mp reaches with ⟨channel, reached⟩
    exact mem_map.mpr ⟨_, ClusterType.mem_allTcpChannels member reached, rfl⟩
  | grpc =>
    rw [protocol] at reaches
    cases reached : endpoint.grpcService with
    | error text =>
      simp only [HealthCheckProtocol.Reaches, reached] at reaches
      cases reaches
    | ok channel =>
      exact mem_filterMap.mpr ⟨_, ClusterType.mem_allGrpcChannels member reached, rfl⟩

end HealthCheckManager

/-! ## Endpoints under check -/

namespace HealthSystem

/-- A checker of the endpoint has neither ended nor been told to. -/
def Checking (self : HealthSystem) (endpoint : EndpointId) : Prop :=
  ∃ number ∈ self.checkersOf endpoint.cluster, ∃ task, self.tasks[number]? = some task ∧
    task.endpoint = endpoint ∧ task.state.phase.ended = false ∧ task.state.notified = false

variable {self next : HealthSystem} {endpoint : EndpointId}

theorem checkersOf_filter_of_ne (different : name ≠ cluster) :
    checkersOf { self with checkers := self.checkers.filter fun entry => entry.1 ≠ cluster }
      name = self.checkersOf name := by
  unfold checkersOf
  rw [find?_filter]
  congr 3
  funext entry
  by_cases named : entry.1 = name
  · simp [named, different]
  · simp [named]

theorem find?_filter_self (entries : List (Text × List Nat)) :
    (entries.filter fun entry => entry.1 ≠ cluster).find? (fun entry => entry.1 = cluster) =
      none := by
  rw [find?_eq_none]
  intro entry member
  have different := (mem_filter.mp member).2
  simpa using different

/-- A step of a checker whose waits do not elapse keeps all endpoints under check. -/
theorem Checking.stepChecker [DurationArithmetic] (checking : self.Checking endpoint)
    (taken : self.stepChecker number event = some next)
    (keeps : ∀ task, self.tasks[number]? = some task →
      CheckerState.KeepsRunning task.config task.state event) : next.Checking endpoint := by
  rcases stepChecker_moves taken with ⟨moved, state, outputs, found, quiet, moves, rfl⟩
  rcases checking with ⟨own, member, task, known, same, running, unnotified⟩
  by_cases this : number = own
  · subst this
    cases found.symm.trans known
    rcases moves.keepsRunning_iff quiet unnotified with ⟨stays, runs⟩
    refine ⟨number, member, { moved with state := state }, ?_, same,
      runs.mpr (keeps moved known), stays⟩
    exact List.getElem?_set_self (List.getElem?_eq_some_iff.mp known).1
  · refine ⟨own, member, task, ?_, same, running, unnotified⟩
    rw [getElem?_set_ne this]
    exact known

/-- Stopping a cluster that has no checkers changes nothing for the others. -/
theorem Checking.filter (checking : self.Checking endpoint)
    (unchecked : self.checkersOf cluster = []) :
    Checking { self with checkers := self.checkers.filter fun entry => entry.1 ≠ cluster }
      endpoint := by
  rcases checking with ⟨number, member, found⟩
  refine ⟨number, ?_, found⟩
  by_cases same : endpoint.cluster = cluster
  · rw [same, unchecked] at member
    cases member
  · rw [checkersOf_filter_of_ne same]
    exact member

theorem Checking.complete_start (checking : self.Checking endpoint)
    (checkers : List (EndpointId × ClusterHealthCheck)) :
    (self.complete (.start cluster checkers)).Checking endpoint := by
  rcases checking with ⟨number, member, task, found, rest⟩
  have inside := (List.getElem?_eq_some_iff.mp found).1
  refine ⟨number, ?_, task, (getElem?_append_left inside).trans found, rest⟩
  simp only [checkersOf, complete, find?_append] at member ⊢
  cases entry : self.checkers.find? fun entry => entry.1 = endpoint.cluster with
  | none =>
    rw [entry] at member
    cases member
  | some entry =>
    rw [entry] at member
    exact member

theorem checking_of_started {checkers : List (EndpointId × ClusterHealthCheck)}
    (unchecked : self.checkers.find? (fun entry => entry.1 = cluster) = none)
    (member : checker ∈ checkers) (named : checker.1.cluster = cluster) :
    (self.complete (.start cluster checkers)).Checking checker.1 := by
  rcases mem_iff_getElem?.mp member with ⟨position, found⟩
  refine ⟨self.tasks.length + position, ?_, .spawn checker, ?_, rfl, rfl, rfl⟩
  · rcases List.getElem?_eq_some_iff.mp found with ⟨inside, _⟩
    simp [checkersOf, complete, find?_append, named, unchecked, inside]
  · change (self.tasks ++ checkers.map CheckerTask.spawn)[self.tasks.length + position]? = _
    rw [getElem?_append_right (Nat.le_add_right _ _), Nat.add_sub_cancel_left,
      getElem?_map, found]
    rfl

section

variable [DurationArithmetic] (busy : self.handler = .busy)
  (unchecked : self.checkersOf cluster = [])
include busy unchecked

theorem step_stopCluster :
    ∃ next, self.step (.stopCluster cluster) = some (next, []) ∧ next.handler = .busy ∧
      ∀ endpoint, self.Checking endpoint → next.Checking endpoint := by
  simp only [step, busy, stopCluster, unchecked, stopNext]
  refine ⟨_, rfl, rfl, fun endpoint checking => ?_⟩
  exact checking.filter unchecked

theorem step_restartCluster (checkers : List (EndpointId × ClusterHealthCheck)) :
    ∃ next, self.step (.restartCluster cluster checkers) = some (next, []) ∧
      next.handler = .busy ∧ (∀ endpoint, self.Checking endpoint → next.Checking endpoint) ∧
      ∀ checker ∈ checkers, checker.1.cluster = cluster → next.Checking checker.1 := by
  simp only [step, busy, stopCluster, unchecked, stopNext]
  refine ⟨_, rfl, rfl, fun endpoint checking => ?_, fun checker member named => ?_⟩
  · exact (checking.filter unchecked).complete_start checkers
  · exact checking_of_started (find?_filter_self self.checkers) member named

end

/-- A cluster without checkers gets one for every endpoint that can be checked. -/
theorem step_restart [DurationArithmetic] [HttpCrate] {clusters : ClustersMap}
    {restarted : CheckedCluster} (busy : self.handler = .busy)
    (unchecked : self.checkersOf restarted.cluster.name = []) :
    ∃ next, self.step (HealthCheckManager.restartCluster clusters restarted) =
        some (next, []) ∧
      next.handler = .busy ∧ (∀ endpoint, self.Checking endpoint → next.Checking endpoint) ∧
      ∀ check cluster, restarted.intoHealthCheck = some check →
        clusters.get? restarted.cluster.name = some cluster →
        ∀ endpoint ∈ cluster.allEndpoints,
          check.protocol.Reaches restarted.cluster.name endpoint →
          next.Checking ⟨restarted.cluster.name, endpoint.authority⟩ := by
  unfold HealthCheckManager.restartCluster
  cases restarted.intoHealthCheck with
  | none =>
    rcases step_stopCluster busy unchecked with ⟨next, taken, stays, kept⟩
    refine ⟨next, taken, stays, kept, ?_⟩
    intro _ _ impossible
    cases impossible
  | some check =>
    rcases step_restartCluster busy unchecked (HealthCheckManager.newCheckers clusters
      restarted.cluster.name check) with ⟨next, taken, stays, kept, started⟩
    refine ⟨next, taken, stays, kept, ?_⟩
    intro _ cluster same found endpoint member reaches
    cases same
    exact started _ (HealthCheckManager.mem_newCheckers found member reaches) rfl

end HealthSystem

end Orion.Health
