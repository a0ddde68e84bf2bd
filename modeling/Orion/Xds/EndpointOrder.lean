import Orion.Clusters.Discovery
import Orion.Xds.Handler

/-! # The order of clusters and endpoints

The cluster and its load assignment are two resources, which may arrive in any order and
repeatedly. A load assignment without a cluster is rejected, and a cluster that arrives again
comes without endpoints, so that the last load assignment is in use only if it came after
the last cluster.
-/

/-! ## Endpoints of a load assignment -/

namespace Orion.Clusters

open Foundation Http List LocalityEndpoints

section

variable [HttpCrate]

structure LbEndpoint.StandsFor (config : LbEndpointConfig) (endpoint : LbEndpoint) : Prop where
  address : endpoint.address.LeadsTo config.address
  weight : endpoint.weight = config.loadBalancingWeight
  health : endpoint.healthStatus = config.healthStatus

structure LocalityLbEndpoints.StandsFor (config : LocalityLbEndpointsConfig)
    (locality : LocalityLbEndpoints) : Prop where
  priority : locality.priority = config.priority
  endpoints : List.Forall₂ LbEndpoint.StandsFor config.lbEndpoints locality.endpoints

/-- The endpoints are those that the configuration lists. -/
def ClusterLoadAssignment.StandsFor (config : ClusterLoadAssignmentConfig)
    (loadAssignment : ClusterLoadAssignment) : Prop :=
  List.Forall₂ LocalityLbEndpoints.StandsFor config.endpoints loadAssignment.endpoints

variable [ChannelCrates]

namespace LocalityLbEndpointsBuilder

variable {builder : LocalityLbEndpointsBuilder} {locality : LocalityLbEndpoints}

theorem build_eq_ok (built : builder.build = .ok locality) :
    List.Forall₂ (fun endpoint built => (builder.endpointBuilder endpoint).build = .ok built)
        builder.endpoints.endpoints locality.endpoints ∧
      LocalityEndpoints.build builder.endpoints.priority locality.endpoints =
        .ok locality.toLocalityEndpoints := by
  rcases bind_eq_ok_iff.mp built with ⟨endpoints, mapped, counting⟩
  split at counting
  · cases counting
  · rename_i counted localityBuilt
    cases counting
    have same := (build_counted localityBuilt).2.2
    rw [same]
    exact ⟨mapM_eq_ok_iff.mp mapped, localityBuilt⟩

theorem build_standsFor (same : builder.endpoints = .ofConfig config)
    (built : builder.build = .ok locality) : locality.StandsFor config := by
  rcases build_eq_ok built with ⟨matched, counted⟩
  rw [same] at matched counted
  refine ⟨(build_counted counted).2.1, ?_⟩
  apply List.Forall₂.imp _ (forall₂_map_left_iff.mp matched)
  intro endpoint built pair
  have leads := (LbEndpointBuilder.build_eq_ok pair).1
  rcases bind_eq_ok_iff.mp pair with ⟨address, _, ⟨⟩⟩
  exact ⟨leads, rfl, rfl⟩

/-- A configuration can be built if a locality that was built stands for it. -/
theorem build_isOk_of_standsFor {other : LocalityLbEndpointsBuilder}
    (built : builder.build = .ok locality) (stands : locality.StandsFor config)
    (same : other.endpoints = .ofConfig config) :
    ∃ next, other.build = .ok next ∧
      locality.toLocalityEndpoints.Alike next.toLocalityEndpoints := by
  have buildable : ∀ endpoint ∈ other.endpoints.endpoints,
      ∃ built, (other.endpointBuilder endpoint).build = .ok built := by
    rw [same]
    intro endpoint member
    rcases mem_map.mp member with ⟨listed, known, rfl⟩
    rcases partner_of_left stands.endpoints known with ⟨_, _, pair⟩
    exact (LbEndpointBuilder.build_isOk_iff _).mpr pair.address.parses
  rcases mapM_isOk buildable with ⟨endpoints, mapped⟩
  have health : locality.endpoints.map Endpoint.health = endpoints.map Endpoint.health := by
    rw [mapM_healthStatus mapped, same]
    have listed := stands.endpoints
    generalize locality.endpoints = standing at listed
    change _ = map _ (map _ config.lbEndpoints)
    generalize config.lbEndpoints = configs at listed
    induction listed with
    | nil => rfl
    | cons pair _ induction =>
      rw [map_cons, induction]
      exact congrArg (· :: _) pair.health
  have counted := (build_eq_ok built).2
  rw [(LocalityEndpoints.build_counted counted).2.1.symm.trans stands.priority] at counted
  rcases LocalityEndpoints.build_alike health counted with ⟨next, nextBuilt, alike⟩
  refine ⟨⟨next, other.clusterName, other.transportSocket, other.httpProtocolOptions,
    other.connectionTimeout⟩, bind_eq_ok_iff.mpr ⟨endpoints, mapped, ?_⟩, alike⟩
  rw [same]
  simp only [PartialLocalityLbEndpoints.ofConfig, nextBuilt]
  rfl

end LocalityLbEndpointsBuilder

namespace ClusterLoadAssignmentBuilder

variable {builder : ClusterLoadAssignmentBuilder} {config : ClusterLoadAssignmentConfig}

theorem buildLocalities_standsFor (same : builder.cla = .ofConfig config)
    (built : builder.buildLocalities = .ok localities) :
    List.Forall₂ LocalityLbEndpoints.StandsFor config.endpoints localities := by
  have matched := mapM_eq_ok_iff.mp built
  rw [same] at matched
  apply List.Forall₂.imp _ (forall₂_map_left_iff.mp matched)
  intro locality built pair
  exact LocalityLbEndpointsBuilder.build_standsFor rfl pair

theorem buildLocalities_isOk_of_standsFor {other : ClusterLoadAssignmentBuilder}
    (built : builder.buildLocalities = .ok localities)
    (stands : List.Forall₂ LocalityLbEndpoints.StandsFor config.endpoints localities)
    (same : other.cla = .ofConfig config) :
    ∃ next, other.buildLocalities = .ok next ∧
      List.Forall₂ LocalityEndpoints.Alike
        (localities.map LocalityLbEndpoints.toLocalityEndpoints)
        (next.map LocalityLbEndpoints.toLocalityEndpoints) := by
  have each : ∀ locality ∈ localities, ∃ endpoints,
      (builder.localityBuilder endpoints).build = .ok locality := by
    intro locality member
    rcases partner_of_right (mapM_eq_ok_iff.mp built) member with ⟨endpoints, _, pair⟩
    exact ⟨endpoints, pair⟩
  unfold buildLocalities
  rw [same]
  change ∃ next, mapM _ (map _ config.endpoints) = _ ∧ _
  clear built
  generalize config.endpoints = configs at stands
  induction stands with
  | nil => exact ⟨[], rfl, .nil⟩
  | @cons config locality _ _ pair _ induction =>
    rcases induction fun later member => each later (by simp [member]) with ⟨rest, mapped, alike⟩
    rcases each locality (by simp) with ⟨endpoints, localityBuilt⟩
    rcases LocalityLbEndpointsBuilder.build_isOk_of_standsFor localityBuilt pair
      (show (other.localityBuilder (.ofConfig config)).endpoints = _ from rfl) with
      ⟨next, nextBuilt, first⟩
    refine ⟨next :: rest, ?_, .cons first alike⟩
    exact mapM_eq_ok_iff.mpr (.cons nextBuilt (mapM_eq_ok_iff.mp mapped))

variable [BalancerCrates] [HashMapOrder]

theorem build_eq_ok (built : builder.build profile = .ok loadAssignment) :
    builder.buildLocalities = .ok loadAssignment.endpoints ∧
      buildBalancer profile builder.lbPolicy loadAssignment.endpoints =
        .ok loadAssignment.balancer := by
  unfold build at built
  split at built
  · cases built
  · rename_i localities localitiesBuilt
    rcases bind_eq_ok_iff.mp built with ⟨balancer, balancerBuilt, ⟨⟩⟩
    exact ⟨localitiesBuilt, balancerBuilt⟩

theorem build_standsFor (same : builder.cla = .ofConfig config)
    (built : builder.build profile = .ok loadAssignment) : loadAssignment.StandsFor config :=
  buildLocalities_standsFor same (build_eq_ok built).1

/-- A load assignment that stands for a configuration shows that it can be built. -/
theorem build_isOk_of_standsFor {other : ClusterLoadAssignmentBuilder}
    (built : builder.build profile = .ok loadAssignment) (stands : loadAssignment.StandsFor config)
    (same : other.cla = .ofConfig config) (samePolicy : builder.lbPolicy = other.lbPolicy) :
    ∃ next, other.build profile = .ok next := by
  rcases build_eq_ok built with ⟨localitiesBuilt, balancerBuilt⟩
  rcases buildLocalities_isOk_of_standsFor localitiesBuilt stands same with
    ⟨localities, nextBuilt, alike⟩
  rw [samePolicy] at balancerBuilt
  rcases buildBalancer_isOk_of_alike alike balancerBuilt with ⟨balancer, nextBalancer⟩
  unfold build
  rw [nextBuilt]
  exact ⟨_, bind_eq_ok_iff.mpr ⟨balancer, nextBalancer, rfl⟩⟩

end ClusterLoadAssignmentBuilder

end

end Orion.Clusters

/-! ## Updates of one cluster -/

namespace Orion.Xds

open Foundation Http Tls Clusters
open Machine

inductive EdsUpdate where
  | cluster (config : ClusterConfig) (assignment : Option ClusterLoadAssignmentConfig)
  | endpoints (cla : ClusterLoadAssignmentConfig)

namespace EdsUpdate

def clusterConfig (name : Text) (config : ClusterConfig)
    (assignment : Option ClusterLoadAssignmentConfig) : ClusterConfig :=
  { config with name := name, discoverySettings := .eds assignment }

def payload (name : Text) : EdsUpdate → ResourcePayload
  | .cluster config assignment => .cluster name (clusterConfig name config assignment)
  | .endpoints cla => .endpoints name cla

def assignment? : EdsUpdate → Option ClusterLoadAssignmentConfig
  | .cluster _ _ => none
  | .endpoints cla => some cla

def lastAssignment (updates : List EdsUpdate) : Option ClusterLoadAssignmentConfig :=
  (updates.filterMap assignment?).getLast?

variable [TlsPlatform] (secrets : SecretManager) (name : Text)

def builder? : EdsUpdate → Option DynamicClusterBuilder
  | .cluster config assignment =>
    (UpstreamTransportSocketConfigurator.ofConfig config.transportSocket secrets).map
      (PartialClusterType.dynamicBuilder (clusterConfig name config assignment))
  | .endpoints _ => none

/-- The last cluster that was not rejected. -/
def lastCluster (updates : List EdsUpdate) : Option DynamicClusterBuilder :=
  (updates.filterMap (builder? secrets name)).getLast?

variable [HttpCrate] [ChannelCrates] [BalancerCrates] [HashMapOrder] (profile : BuildProfile)

/-- The last load assignment came after the last cluster, and can be built for it. What
came later are clusters that are rejected. -/
def Settled (updates : List EdsUpdate) : Prop :=
  ∃ before cla after builder,
    updates = before ++ .endpoints cla :: after ∧
    (∀ update ∈ after, update.assignment? = none ∧ update.builder? secrets name = none) ∧
    lastCluster secrets name before = some builder ∧
    ∃ loadAssignment,
      (builder.build.assignmentBuilder (.ofConfig cla)).build profile = .ok loadAssignment

def follow (current : Option DynamicCluster) (update : EdsUpdate) : Option DynamicCluster :=
  match update with
  | .cluster _ _ =>
    match update.builder? secrets name with
    | some builder => some builder.build
    | none => current
  | .endpoints cla => current.map fun cluster =>
    match (cluster.assignmentBuilder (.ofConfig cla)).build profile with
    | .ok loadAssignment => cluster.changeLoadAssignment (some loadAssignment)
    | .error _ => cluster

def followAll (updates : List EdsUpdate) : Option DynamicCluster :=
  updates.foldl (follow secrets name profile) none

end EdsUpdate

open EdsUpdate List Option

namespace ConfigurationHandler

section

variable {Limiter : Type} [TlsPlatform] [HttpCrate] [ChannelCrates] [BalancerCrates] [HashMapOrder]
  (newLimiter : Configuration.LocalRateLimit → Limiter) (profile : BuildProfile)

/-- The handler on the updates of one cluster. A panic ends it. -/
def edsMachine (name : Text) : Machine ConfigurationHandler EdsUpdate (Action Limiter) where
  step handler update :=
    let processed := handler.processUpdateEvent newLimiter profile (update.payload name)
    match processed.result with
    | .error (.panicked _) => none
    | _ => some (processed.handler, processed.actions)

def HasEndpoints (handler : ConfigurationHandler) (name : Text)
    (cla : ClusterLoadAssignmentConfig) : Prop :=
  ∃ cluster loadAssignment, handler.clusters.get? name = some cluster ∧
    cluster.loadAssignment = some loadAssignment ∧ loadAssignment.StandsFor cla

variable {newLimiter profile} {name : Text} {next : ConfigurationHandler}

theorem step_eq_some
    (taken : (edsMachine newLimiter profile name).step handler update = some (next, outputs)) :
    next = (handler.processUpdateEvent newLimiter profile (update.payload name)).handler := by
  simp only [edsMachine] at taken
  split at taken
  · cases taken
  · cases taken
    rfl

theorem step_follows (found : handler.clusters.get? name = current.map .dynamic)
    (taken : (edsMachine newLimiter profile name).step handler update = some (next, outputs)) :
    next.secretManager = handler.secretManager ∧
      next.clusters.get? name =
        (update.follow handler.secretManager name profile current).map .dynamic := by
  rw [step_eq_some taken]
  cases update with
  | cluster config assignment =>
    simp only [payload, processUpdateEvent, updateCluster, follow,
      builder?, PartialClusterType.ofConfig, clusterConfig]
    cases UpstreamTransportSocketConfigurator.ofConfig config.transportSocket
      handler.secretManager with
    | none => exact ⟨rfl, found⟩
    | some socket => exact ⟨rfl, OrderedMap.get?_insert_self _ _ _⟩
  | endpoints cla =>
    simp only [payload, processUpdateEvent, updateEndpoints, follow,
      ClustersMap.changeClusterLoadAssignment, found]
    cases current with
    | none => exact ⟨rfl, found⟩
    | some cluster =>
      simp only [map_some, ClusterType.changeLoadAssignment]
      cases (cluster.assignmentBuilder (.ofConfig cla)).build profile with
      | error => exact ⟨rfl, found⟩
      | ok loadAssignment => exact ⟨rfl, OrderedMap.get?_insert_self _ _ _⟩

theorem run_follows (fresh : handler.clusters.get? name = none)
    (run : (edsMachine newLimiter profile name).Run anyStep handler updates outputs final) :
    final.clusters.get? name =
      (followAll handler.secretManager name profile updates).map .dynamic := by
  suffices follows : final.secretManager = handler.secretManager ∧ final.clusters.get? name =
      (followAll handler.secretManager name profile updates).map .dynamic from follows.2
  apply run.invariant fun updates _ final => final.secretManager = handler.secretManager ∧
    final.clusters.get? name = (followAll handler.secretManager name profile updates).map .dynamic
  · exact ⟨rfl, fresh⟩
  · rintro updates _ state update next _ ⟨secrets, found⟩ _ taken
    rcases step_follows found taken with ⟨kept, changed⟩
    refine ⟨kept.trans secrets, ?_⟩
    rw [changed, secrets, followAll, followAll, foldl_append]
    rfl

end

end ConfigurationHandler

/-! ## The endpoints in use -/

namespace EdsUpdate

section

variable [TlsPlatform] [HttpCrate] [ChannelCrates] [BalancerCrates] [HashMapOrder]
  (secrets : SecretManager) (name : Text) (profile : BuildProfile)

section

variable (updates : List EdsUpdate) (update : EdsUpdate)

omit [HttpCrate] [ChannelCrates] [BalancerCrates] [HashMapOrder] in
theorem lastCluster_append :
    lastCluster secrets name (updates ++ [update]) =
      (update.builder? secrets name).or (lastCluster secrets name updates) := by
  unfold lastCluster
  cases builds : update.builder? secrets name <;> simp [builds]

omit [TlsPlatform] [HttpCrate] [ChannelCrates] [BalancerCrates] [HashMapOrder] in
theorem lastAssignment_append :
    lastAssignment (updates ++ [update]) = update.assignment?.or (lastAssignment updates) := by
  unfold lastAssignment
  cases assigns : update.assignment? <;> simp [assigns]

theorem followAll_append :
    followAll secrets name profile (updates ++ [update]) =
      update.follow secrets name profile (followAll secrets name profile updates) := by
  rw [followAll, foldl_append]
  rfl

/-- The updates are settled by the last one, or were before and it is rejected. -/
theorem settled_append :
    Settled secrets name profile (updates ++ [update]) ↔
      (∃ cla builder, update = .endpoints cla ∧
        lastCluster secrets name updates = some builder ∧ ∃ loadAssignment,
          (builder.build.assignmentBuilder (.ofConfig cla)).build profile = .ok loadAssignment) ∨
      (update.assignment? = none ∧ update.builder? secrets name = none ∧
        Settled secrets name profile updates) := by
  constructor
  · rintro ⟨before, cla, after, builder, same, rejected, last, built⟩
    rcases eq_nil_or_concat after with rfl | ⟨earlier, other, rfl⟩
    · rcases append_inj' same rfl with ⟨rfl, ⟨⟩⟩
      exact .inl ⟨cla, builder, rfl, last, built⟩
    · rw [concat_eq_append] at same rejected
      rw [← cons_append, ← append_assoc] at same
      rcases append_inj' same rfl with ⟨rfl, ⟨⟩⟩
      rcases rejected update (by simp) with ⟨assignment, refused⟩
      exact .inr ⟨assignment, refused, before, cla, earlier, builder, rfl,
        fun other member => rejected other (by simp [member]), last, built⟩
  · rintro (⟨cla, builder, rfl, last, built⟩ |
      ⟨assignment, refused, before, cla, after, builder, rfl, rejected, last, built⟩)
    · exact ⟨updates, cla, [], builder, rfl, by simp, last, built⟩
    · refine ⟨before, cla, after ++ [update], builder, by simp, ?_, last, built⟩
      intro other member
      rcases mem_append.mp member with known | known
      · exact rejected other known
      · rw [mem_singleton.mp known]
        exact ⟨assignment, refused⟩

end

/-- The cluster is the last one, with endpoints that were built for it. -/
theorem followAll_eq (updates : List EdsUpdate) :
    ∃ loadAssignment,
      followAll secrets name profile updates = (lastCluster secrets name updates).map
        (fun builder => builder.build.changeLoadAssignment loadAssignment) ∧
      ∀ builder built, lastCluster secrets name updates = some builder →
        loadAssignment = some built →
        ∃ cla, (builder.build.assignmentBuilder cla).build profile = .ok built := by
  induction updates using reverseRecOn with
  | nil => exact ⟨none, rfl, fun _ _ impossible => by cases impossible⟩
  | append_singleton updates update induction =>
    rcases induction with ⟨loadAssignment, same, built⟩
    rw [followAll_append, lastCluster_append, same]
    cases update with
    | cluster config assignment =>
      simp only [follow]
      cases builder? secrets name (.cluster config assignment) with
      | none => exact ⟨loadAssignment, rfl, built⟩
      | some builder => exact ⟨none, rfl, fun _ _ _ impossible => by cases impossible⟩
    | endpoints cla =>
      cases last : lastCluster secrets name updates with
      | none => exact ⟨none, rfl, fun _ _ impossible => by cases impossible⟩
      | some builder =>
        have assigns : (builder.build.changeLoadAssignment loadAssignment).assignmentBuilder
          (.ofConfig cla) = builder.build.assignmentBuilder (.ofConfig cla) := rfl
        simp only [follow, map_some, assigns]
        cases assigned : (builder.build.assignmentBuilder (.ofConfig cla)).build profile with
        | error =>
          refine ⟨loadAssignment, rfl, fun other => ?_⟩
          rw [← last]
          exact built other
        | ok next =>
          refine ⟨some next, rfl, fun other built' chosen found => ?_⟩
          cases chosen
          cases found
          exact ⟨_, assigned⟩

theorem inUse_iff_settled (received : lastAssignment updates = some cla) :
    (∃ cluster loadAssignment, followAll secrets name profile updates = some cluster ∧
        cluster.loadAssignment = some loadAssignment ∧ loadAssignment.StandsFor cla) ↔
      Settled secrets name profile updates := by
  induction updates using reverseRecOn with
  | nil => cases received
  | append_singleton updates update induction =>
    rw [followAll_append, settled_append]
    rw [lastAssignment_append] at received
    cases update with
    | cluster config assignment =>
      simp only [follow]
      cases refused : builder? secrets name (.cluster config assignment) with
      | none => simpa [assignment?] using induction received
      | some builder => simp [DynamicClusterBuilder.build]
    | endpoints last =>
      cases received
      rcases followAll_eq secrets name profile updates with ⟨previous, same, built⟩
      rw [same]
      cases latest : lastCluster secrets name updates with
      | none => simp [follow, assignment?]
      | some builder =>
        have assigns : (builder.build.changeLoadAssignment previous).assignmentBuilder
          (.ofConfig cla) = builder.build.assignmentBuilder (.ofConfig cla) := rfl
        simp only [follow, map_some, assigns]
        cases assigned : (builder.build.assignmentBuilder (.ofConfig cla)).build profile with
        | error =>
          refine iff_of_false ?_ ?_
          · rintro ⟨_, loadAssignment, ⟨⟩, found, stands⟩
            rcases built builder loadAssignment latest found with ⟨_, earlier⟩
            rcases ClusterLoadAssignmentBuilder.build_isOk_of_standsFor earlier stands
              (show (builder.build.assignmentBuilder (.ofConfig cla)).cla = _ from rfl)
              rfl with ⟨_, possible⟩
            cases assigned.symm.trans possible
          · rintro (⟨_, _, ⟨⟩, ⟨⟩, _, possible⟩ | ⟨impossible, _⟩)
            · cases assigned.symm.trans possible
            · cases impossible
        | ok next =>
          exact iff_of_true
            ⟨_, next, rfl, rfl, ClusterLoadAssignmentBuilder.build_standsFor rfl assigned⟩
            (.inl ⟨cla, builder, rfl, rfl, next, assigned⟩)

end

end EdsUpdate

/-- After any updates of a cluster, it has the endpoints of the last load assignment exactly
if that came after the last cluster and could be built. -/
theorem hasLastEndpoints_iff {Limiter : Type} [TlsPlatform] [HttpCrate] [ChannelCrates]
    [BalancerCrates] [HashMapOrder] {newLimiter : Configuration.LocalRateLimit → Limiter}
    {profile : BuildProfile} {name : Text} {handler final : ConfigurationHandler}
    {updates : List EdsUpdate} {outputs : List (Action Limiter)} {cla : ClusterLoadAssignmentConfig}
    (fresh : handler.clusters.get? name = none)
    (run : (ConfigurationHandler.edsMachine newLimiter profile name).Run anyStep handler updates
      outputs final) (received : lastAssignment updates = some cla) :
    final.HasEndpoints name cla ↔ EdsUpdate.Settled handler.secretManager name profile updates := by
  rw [← inUse_iff_settled _ _ _ received, ConfigurationHandler.HasEndpoints,
    ConfigurationHandler.run_follows fresh run]
  constructor
  · rintro ⟨_, loadAssignment, found, current, stands⟩
    rcases map_eq_some_iff.mp found with ⟨cluster, same, rfl⟩
    exact ⟨cluster, loadAssignment, same, current, stands⟩
  · rintro ⟨cluster, loadAssignment, same, current, stands⟩
    exact ⟨.dynamic cluster, loadAssignment, by rw [same]; rfl, current, stands⟩

/-! ## A cluster that is sent again -/

def edsCluster : EdsUpdate :=
  .cluster { name := "a".toList, discoverySettings := .eds none } none

def oneEndpoint : ClusterLoadAssignmentConfig :=
  ⟨[⟨0, [⟨.socket "10.0.0.1".toList 80, .healthy, ⟨1, Nat.one_pos, U32.one_lt_limit⟩⟩]⟩], []⟩

attribute [local instance] TlsPlatform.withoutFiles AsciiChannel.httpCrate ChannelCrates.ascii
  BalancerCrates.simple HashMapOrder.insertion

theorem endpoints_after_cluster :
    ∃ outputs final, (ConfigurationHandler.edsMachine (fun _ => ()) ⟨true⟩ "a".toList).Run
        anyStep ⟨.empty, .empty⟩ [edsCluster, .endpoints oneEndpoint] outputs final ∧
      final.HasEndpoints "a".toList oneEndpoint := by
  have run : (ConfigurationHandler.edsMachine (fun _ => ()) ⟨true⟩ "a".toList).Run anyStep
      ⟨.empty, .empty⟩ [edsCluster, .endpoints oneEndpoint] _ _ :=
    Machine.Run.any_of_execute rfl
  refine ⟨_, _, run, (hasLastEndpoints_iff rfl run rfl).mpr ?_⟩
  exact ⟨[edsCluster], oneEndpoint, [], _, rfl, by simp, rfl, _, rfl⟩

/-- A cluster that is sent again loses its endpoints. -/
theorem repeated_cluster_loses_endpoints :
    ∃ outputs final, (ConfigurationHandler.edsMachine (fun _ => ()) ⟨true⟩ "a".toList).Run
        anyStep ⟨.empty, .empty⟩ [edsCluster, .endpoints oneEndpoint, edsCluster] outputs final ∧
      ¬ final.HasEndpoints "a".toList oneEndpoint := by
  refine ⟨_, _, Machine.Run.any_of_execute rfl, ?_⟩
  rintro ⟨cluster, loadAssignment, found, current, _⟩
  cases found
  cases current

end Orion.Xds
