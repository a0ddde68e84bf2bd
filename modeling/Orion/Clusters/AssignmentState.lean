import Orion.Clusters.Balancers.Availability
import Orion.Clusters.Balancers.PanicFreedom
import Orion.Clusters.LoadAssignment

/-! # A load assignment in use

The balancers of a load assignment differ in how they choose among the healthy
endpoints of a priority only. What holds of all of them is stated once.
-/

namespace Orion.Clusters

open Foundation Http DefaultBalancer LocalityLbEndpoints ClusterLoadAssignmentBuilder List

/-! ## The standard balancers -/

namespace StandardBalancer

variable [BalancerCrates]

abbrev Property : Type 1 :=
  (B : Type) → [Balancer B LbEndpoint] → [LawfulBalancer B LbEndpoint] →
    DefaultBalancer B LbEndpoint → Prop

def Has (P : Property) : StandardBalancer → Prop
  | .roundRobin balancer => P _ balancer
  | .random balancer => P _ balancer
  | .leastRequests balancer => P _ balancer
  | .ringHash balancer => P _ balancer
  | .maglev balancer => P _ balancer

variable {self : StandardBalancer}

theorem Has.imp (has : self.Has P)
    (implies : ∀ (B : Type) [Balancer B LbEndpoint] [LawfulBalancer B LbEndpoint]
      {self : DefaultBalancer B LbEndpoint}, P B self → Q B self)
    : self.Has Q := by
  cases self <;> exact implies _ has

theorem Has.and (left : self.Has P)
    (right : self.Has Q) : self.Has fun B _ _ balancer => P B balancer ∧ Q B balancer := by
  cases self <;> exact ⟨left, right⟩

theorem buildFromPolicy_has [HashMapOrder]
    (each : ∀ (B : Type) [Balancer B LbEndpoint] [LawfulBalancer B LbEndpoint]
      {self : DefaultBalancer B LbEndpoint},
      fromSlice profile
        (endpoints.map toLocalityEndpoints) = .ok self → P B self)
    (built : buildFromPolicy profile policy endpoints = .ok balancer) : balancer.Has P := by
  cases policy <;> rcases map_eq_ok_iff.mp built with ⟨self, sliced, rfl⟩ <;>
    exact each _ sliced

theorem buildFromPolicy_isOk [HashMapOrder] (policy : StandardLbPolicy)
    (each : ∀ (B : Type) [Balancer B LbEndpoint],
      ∃ self : DefaultBalancer B LbEndpoint, fromSlice profile
        (endpoints.map toLocalityEndpoints) = .ok self) :
    ∃ balancer, buildFromPolicy profile policy endpoints = .ok balancer := by
  cases policy <;> exact map_isOk (each _)

theorem updateHealth_has (each : ∀ (B : Type) [Balancer B LbEndpoint] [LawfulBalancer B LbEndpoint]
      {self : DefaultBalancer B LbEndpoint}
      {result : Option ValueUpdated × DefaultBalancer B LbEndpoint},
      P B self → self.updateHealth profile endpoint health = .ok result → Q B result.2)
    (has : self.Has P) (returned : self.updateHealth profile endpoint health = .ok result) :
    result.2.Has Q := by
  cases self <;> rcases map_eq_ok_iff.mp returned with ⟨next, updated, rfl⟩ <;>
    exact each _ has updated

theorem updateHealth_isOk (each : ∀ (B : Type) [Balancer B LbEndpoint] [LawfulBalancer B LbEndpoint]
      {self : DefaultBalancer B LbEndpoint},
      P B self → ∃ result, self.updateHealth profile endpoint health = .ok result)
    (has : self.Has P) : ∃ result, self.updateHealth profile endpoint health = .ok result := by
  cases self <;> exact map_isOk (each _ has)

theorem nextItem_has (each : ∀ (B : Type) [Balancer B LbEndpoint] [LawfulBalancer B LbEndpoint]
      {self : DefaultBalancer B LbEndpoint}, P B self → P B (self.nextItem choice).2)
    (has : self.Has P) : (self.nextItem choice).2.Has P := by
  cases self <;> exact each _ has

theorem nextItem_of_has {Q : LbEndpoint → Prop}
    (each : ∀ (B : Type) [Balancer B LbEndpoint] [LawfulBalancer B LbEndpoint]
      {self : DefaultBalancer B LbEndpoint}, P B self →
      (self.nextItem choice).1 = some endpoint → Q endpoint) (has : self.Has P)
    (chosen : (self.nextItem choice).1 = some endpoint) : Q endpoint := by
  cases self <;> exact each _ has chosen

end StandardBalancer

/-! ## Balancers with an override -/

namespace BalancerType

/-- The balancer that chooses when no host is named. -/
def chooser : BalancerType → StandardBalancer
  | .standard balancer => balancer
  | .overrideHost balancer => balancer.fallback

variable [BalancerCrates]

theorem updateHealth_chooser {self : BalancerType}
    (returned : self.updateHealth profile endpoint health = .ok result) :
    self.chooser.updateHealth profile endpoint health = .ok (result.1, result.2.chooser) := by
  cases self with
  | standard balancer =>
    rcases map_eq_ok_iff.mp returned with ⟨next, updated, rfl⟩
    exact updated
  | overrideHost balancer =>
    rcases map_eq_ok_iff.mp returned with ⟨next, updated, rfl⟩
    rcases bind_eq_ok_iff.mp updated with ⟨inner, innerUpdated, ⟨⟩⟩
    exact innerUpdated

theorem updateHealth_isOk {self : BalancerType}
    (chooser : ∃ result, self.chooser.updateHealth profile endpoint health = .ok result) :
    ∃ result, self.updateHealth profile endpoint health = .ok result := by
  cases self with
  | standard balancer => exact map_isOk chooser
  | overrideHost balancer =>
    rcases chooser with ⟨result, updated⟩
    exact map_isOk ⟨_, bind_eq_ok_iff.mpr ⟨result, updated, rfl⟩⟩

theorem nextItem_chooser (self : BalancerType) (choice : Choice LbEndpoint) :
    (self.nextItem choice).1 = (self.chooser.nextItem choice).1 ∧
      (self.nextItem choice).2.chooser = (self.chooser.nextItem choice).2 := by
  cases self <;> exact ⟨rfl, rfl⟩

end BalancerType

/-! ## Construction -/

def ClusterLoadAssignmentBuilder.plain (endpoints : List PartialLocalityLbEndpoints)
    (lbPolicy : LbPolicy) : ClusterLoadAssignmentBuilder where
  clusterName := "cluster".toList
  cla := ⟨endpoints⟩
  bindDeviceOptions := {}
  lbPolicy := lbPolicy
  transportSocket := .none

def PartialLbEndpoint.plain (hostname : Text) (port : Nat) (healthStatus : HealthStatus) :
    PartialLbEndpoint :=
  ⟨.socket hostname port, {}, ⟨1, by decide, by decide⟩, healthStatus⟩

section

variable [HttpCrate] [ChannelCrates]

structure LocalityLbEndpointsBuilder.Builds (builder : LocalityLbEndpointsBuilder)
    (locality : LocalityLbEndpoints) : Prop where
  endpoints : List.Forall₂
    (fun endpoint built => (builder.endpointBuilder endpoint).build = .ok built)
    builder.endpoints.endpoints locality.endpoints
  counted : locality.Counted
  priority : locality.priority = builder.endpoints.priority

theorem LocalityLbEndpointsBuilder.build_builds {builder : LocalityLbEndpointsBuilder}
    (built : builder.build = .ok locality) : builder.Builds locality := by
  rcases bind_eq_ok_iff.mp built with ⟨endpoints, each, counting⟩
  split at counting
  · cases counting
  · rename_i counted localityBuilt
    cases counting
    rcases LocalityEndpoints.build_counted localityBuilt with ⟨counts, priority, same⟩
    refine ⟨?_, counts, priority⟩
    rw [same]
    exact mapM_eq_ok_iff.mp each

namespace ClusterLoadAssignmentBuilder

theorem buildLocalities_builds {builder : ClusterLoadAssignmentBuilder}
    (built : builder.buildLocalities = .ok localities) :
    List.Forall₂ (fun endpoints => (builder.localityBuilder endpoints).Builds)
      builder.cla.endpoints localities :=
  (mapM_eq_ok_iff.mp built).imp fun _ _ => LocalityLbEndpointsBuilder.build_builds

variable [BalancerCrates] [HashMapOrder]

structure Builds (profile : BuildProfile) (builder : ClusterLoadAssignmentBuilder)
    (assignment : ClusterLoadAssignment) : Prop where
  localities : builder.buildLocalities = .ok assignment.endpoints
  chooser : ∃ policy, StandardBalancer.buildFromPolicy profile policy assignment.endpoints =
    .ok assignment.balancer.chooser
  overrides : ∀ {balancer}, assignment.balancer = .overrideHost balancer →
    balancer.endpoints = OverrideHostLoadBalancer.overrideMap none assignment.endpoints

omit [HttpCrate] [ChannelCrates] in
theorem buildBalancer_eq_ok (built : buildBalancer profile policy endpoints = .ok balancer) :
    (∃ policy, StandardBalancer.buildFromPolicy profile policy endpoints = .ok balancer.chooser) ∧
      ∀ {override}, balancer = .overrideHost override →
        override.endpoints = OverrideHostLoadBalancer.overrideMap none endpoints := by
  cases policy with
  | standard policy =>
    simp only [buildBalancer] at built
    split at built
    · cases built
    · rename_i standard chosen
      cases built
      exact ⟨⟨policy, chosen⟩, fun same => by cases same⟩
  | overrideHost config =>
    simp only [buildBalancer] at built
    split at built
    · cases built
    · split at built
      · cases built
      · rename_i fallback chosen
        cases built
        refine ⟨⟨config.fallbackPolicy, chosen⟩, fun same => ?_⟩
        cases same
        rfl

theorem build_builds {builder : ClusterLoadAssignmentBuilder}
    (built : builder.build profile = .ok assignment) : builder.Builds profile assignment := by
  unfold build at built
  split at built
  · cases built
  · rename_i localities localitiesBuilt
    rcases bind_eq_ok_iff.mp built with ⟨balancer, balancerBuilt, ⟨⟩⟩
    rcases buildBalancer_eq_ok balancerBuilt with ⟨chooser, overrides⟩
    exact ⟨localitiesBuilt, chooser, overrides⟩

end ClusterLoadAssignmentBuilder

end

/-! ## Runs -/

inductive AssignmentEvent where
  | updateEndpointHealth (authority : Authority) (health : HealthStatus)
  | nextItem (choice : Choice LbEndpoint)
  | selectOverride (header : HeaderValue) (choice : Choice LbEndpoint)

namespace ClusterLoadAssignment

variable [BalancerCrates] [HttpCrate]

/-- The endpoints selected for a request that may name hosts. A balancer without an
override does not look at the header. -/
def selectEndpoints (self : ClusterLoadAssignment) (header : HeaderValue)
    (choice : Choice LbEndpoint) : List LbEndpoint × ClusterLoadAssignment :=
  match self.balancer with
  | .overrideHost balancer =>
    let (_, endpoints, next) := balancer.selectEndpoints header choice
    (endpoints, { self with balancer := .overrideHost next })
  | .standard balancer =>
    let (endpoint, next) := balancer.nextItem choice
    (endpoint.toList, { self with balancer := .standard next })

/-- A load assignment that is used; a panic ends the run. -/
def machine (profile : BuildProfile) :
    Machine ClusterLoadAssignment AssignmentEvent LbEndpoint where
  step self
    | .updateEndpointHealth authority health =>
      match self.updateEndpointHealth profile authority health with
      | .ok next => some (next, [])
      | .error _ => none
    | .nextItem choice =>
      let (endpoint, balancer) := self.balancer.nextItem choice
      some ({ self with balancer := balancer }, endpoint.toList)
    | .selectOverride header choice =>
      let (endpoints, next) := self.selectEndpoints header choice
      some (next, endpoints)

/-- What a step does: it updates the endpoints of an authority one after the other,
lets the balancer choose, or takes healthy endpoints that the header names. -/
inductive Steps (profile : BuildProfile) (self : ClusterLoadAssignment) :
    AssignmentEvent → ClusterLoadAssignment → List LbEndpoint → Prop
  | updated {authority health balancer} :
      (self.allEndpoints.filter fun endpoint =>
        endpoint.authority.eqIgnoreAsciiCase authority).foldlM (fun balancer endpoint =>
          (balancer.updateHealth profile endpoint health).map Prod.snd) self.balancer =
        .ok balancer →
      Steps profile self (.updateEndpointHealth authority health)
        { self with balancer := balancer } []
  | chosen {event} (choice) :
      (event = .nextItem choice ∨ ∃ header, event = .selectOverride header choice) →
      Steps profile self event { self with balancer := (self.balancer.nextItem choice).2 }
        (self.balancer.nextItem choice).1.toList
  | named {header choice balancer endpoints} :
      self.balancer = .overrideHost balancer →
      (∀ endpoint ∈ endpoints, ∃ key entry, balancer.endpoints key = some entry ∧
        entry.healthy = true ∧ entry.endpoint = endpoint) →
      Steps profile self (.selectOverride header choice) self endpoints

omit [BalancerCrates] in
theorem mem_overrideEndpoints {balancer : OverrideHostLoadBalancer}
    (member : endpoint ∈ balancer.overrideEndpoints value) :
    ∃ key entry, balancer.endpoints key = some entry ∧ entry.healthy ∧
      entry.endpoint = endpoint := by
  rcases List.mem_filterMap.mp member with ⟨raw, _, found⟩
  simp only at found
  split_ifs at found with blank
  rcases Option.bind_eq_some_iff.mp found with ⟨authority, _, found⟩
  rcases Option.bind_eq_some_iff.mp found with ⟨entry, known, found⟩
  split_ifs at found with healthy
  exact ⟨authority, entry, known, healthy, Option.some.inj found⟩

variable {self next : ClusterLoadAssignment}

theorem machine_steps (taken : (machine profile).step self event = some (next, emitted)) :
    Steps profile self event next emitted := by
  cases event with
  | updateEndpointHealth authority health =>
    simp only [machine] at taken
    split at taken
    · rename_i returned
      cases taken
      rcases bind_eq_ok_iff.mp returned with ⟨balancer, folded, ⟨⟩⟩
      exact .updated folded
    · cases taken
  | nextItem choice =>
    cases taken
    exact .chosen choice (.inl rfl)
  | selectOverride header choice =>
    rcases self with ⟨clusterName, transportSocket, protocolOptions, balancer, endpoints⟩
    cases balancer with
    | standard balancer =>
      cases taken
      exact .chosen choice (.inr ⟨header, rfl⟩)
    | overrideHost balancer =>
      simp only [machine, selectEndpoints, OverrideHostLoadBalancer.selectEndpoints] at taken
      split at taken
      · cases taken
        exact .chosen choice (.inr ⟨header, rfl⟩)
      · rename_i named _
        cases taken
        refine .named rfl ?_
        intro endpoint member
        split at member
        · cases member
        · exact mem_overrideEndpoints member

omit [HttpCrate] in
theorem Steps.endpoints
    (steps : Steps profile self event next emitted) : next.endpoints = self.endpoints := by
  cases steps <;> rfl

omit [HttpCrate] in
/-- What updates and choices of the balancers preserve is preserved by every step. -/
theorem Steps.chooser_has
    (updates : ∀ (B : Type) [Balancer B LbEndpoint] [LawfulBalancer B LbEndpoint]
      {balancer : DefaultBalancer B LbEndpoint} {endpoint : LbEndpoint}
      {health : HealthStatus} {result : Option ValueUpdated × DefaultBalancer B LbEndpoint},
      P B balancer → balancer.updateHealth profile endpoint health = .ok result → P B result.2)
    (choices : ∀ (B : Type) [Balancer B LbEndpoint] [LawfulBalancer B LbEndpoint]
      {balancer : DefaultBalancer B LbEndpoint} (choice : Choice LbEndpoint),
      P B balancer → P B (balancer.nextItem choice).2) (has : self.balancer.chooser.Has P)
    (steps : Steps profile self event next emitted) : next.balancer.chooser.Has P := by
  cases steps with
  | updated folded =>
    refine foldlM_invariant (fun _ balancer => balancer.chooser.Has P) []
      (fun _ has returned => ?_) has folded
    rcases map_eq_ok_iff.mp returned with ⟨result, updated, rfl⟩
    exact StandardBalancer.updateHealth_has (fun B _ _ => updates B) has
      (BalancerType.updateHealth_chooser updated)
  | chosen choice _ =>
    rw [(BalancerType.nextItem_chooser self.balancer choice).2]
    exact StandardBalancer.nextItem_has (fun B _ _ => choices B choice) has
  | named _ _ => exact has

/-! ## Validity -/

def slices (self : ClusterLoadAssignment) : List (LocalityEndpoints LbEndpoint) :=
  self.endpoints.map toLocalityEndpoints

def Valid (profile : BuildProfile) (self : ClusterLoadAssignment) : Prop :=
  self.balancer.chooser.Has fun _ _ _ balancer =>
    DefaultBalancer.Valid profile self.slices balancer

omit [HttpCrate] in
theorem Valid.steps (valid : self.Valid profile)
    (steps : Steps profile self event next emitted) : next.Valid profile := by
  have same : next.slices = self.slices := by rw [slices, slices, steps.endpoints]
  rw [Valid, same]
  refine steps.chooser_has ?_ ?_ valid
  · intro B _ _ balancer endpoint health result holds updated
    have taken : (DefaultBalancer.machine profile).step balancer
        (.updateHealth endpoint health) = some (result.2, []) := by
      simp only [DefaultBalancer.machine, updated]
    exact holds.step taken
  · intro B _ _ balancer choice holds
    have taken : (DefaultBalancer.machine profile).step balancer (.nextItem choice) =
        some ((balancer.nextItem choice).2, [(balancer.nextItem choice).1]) := rfl
    exact holds.step taken

theorem Valid.run (valid : initial.Valid profile)
    (run : (machine profile).Run Allowed initial events outputs state) :
    state.Valid profile ∧ state.endpoints = initial.endpoints :=
  run.stateInvariant (fun state => state.Valid profile ∧ state.endpoints = initial.endpoints)
    ⟨valid, rfl⟩ fun holds _ taken =>
      ⟨holds.1.steps (machine_steps taken), (machine_steps taken).endpoints.trans holds.2⟩

end ClusterLoadAssignment

namespace ClusterLoadAssignmentBuilder

variable [HttpCrate] [ChannelCrates] [BalancerCrates] [HashMapOrder]

omit [BalancerCrates] [HashMapOrder] in
theorem counted_of_built {builder : ClusterLoadAssignmentBuilder}
    (built : builder.buildLocalities = .ok localities) :
    ∀ locality ∈ localities.map toLocalityEndpoints,
      locality.Counted := by
  intro locality member
  rcases List.mem_map.mp member with ⟨original, listed, rfl⟩
  rcases partner_of_right (buildLocalities_builds built) listed with ⟨_, _, builds⟩
  exact builds.counted

theorem build_valid {builder : ClusterLoadAssignmentBuilder}
    (built : builder.build profile = .ok assignment) : assignment.Valid profile := by
  have builds := build_builds built
  rcases builds.chooser with ⟨policy, chosen⟩
  exact StandardBalancer.buildFromPolicy_has (fun B _ _ =>
    fromSlice_valid (counted_of_built builds.localities)) chosen

end ClusterLoadAssignmentBuilder

/-! ## The availability of load assignments

The percentage of healthy endpoints is computed for every priority, when the balancer
is built and after every change. A priority that only has localities without endpoints
makes it divide by zero, and a percentage that is rounded down to nothing hides the
endpoints that are healthy.
-/

namespace PartialClusterLoadAssignment

def endpointCount (cla : PartialClusterLoadAssignment) (priority : Nat) : Nat :=
  ((cla.endpoints.filter fun locality => locality.priority = priority).map
    fun locality => locality.endpoints.length).sum

/-- Every priority has some endpoints, and not more than a percentage can be computed
of. -/
def Sized (cla : PartialClusterLoadAssignment) : Prop :=
  ∀ locality ∈ cla.endpoints, 0 < cla.endpointCount locality.priority ∧
    cla.endpointCount locality.priority ≤ percentageLimit

instance (cla : PartialClusterLoadAssignment) : Decidable cla.Sized :=
  inferInstanceAs (Decidable (∀ locality ∈ cla.endpoints, _ ∧ _))

end PartialClusterLoadAssignment

namespace ClusterLoadAssignmentBuilder

variable [HttpCrate] [ChannelCrates] {builder : ClusterLoadAssignmentBuilder}
  {localities : List LocalityLbEndpoints}

theorem endpointsAt_length (built : builder.buildLocalities = .ok localities) (priority : Nat) :
    (endpointsAt (localities.map toLocalityEndpoints) priority).length =
      builder.cla.endpointCount priority := by
  have matched := buildLocalities_builds built
  clear built
  unfold PartialClusterLoadAssignment.endpointCount
  generalize builder.cla.endpoints = partials at matched ⊢
  induction matched with
  | nil => rfl
  | @cons endpoints locality _ localities builds _ induction =>
    have length : endpoints.endpoints.length = locality.endpoints.length :=
      builds.endpoints.length_eq
    have samePriority : locality.priority = endpoints.priority := builds.priority
    rw [map_cons, ← singleton_append, endpointsAt_append, length_append,
      induction, endpointsAt_singleton, filter_cons, samePriority]
    by_cases same : endpoints.priority = priority
    · simp [same, length]
    · simp [same]

/-- What holds of the number of endpoints of each priority holds after building. -/
theorem forall_endpointsAt_length {P : Nat → Prop}
    (built : builder.buildLocalities = .ok localities)
    (each : ∀ locality ∈ builder.cla.endpoints, P (builder.cla.endpointCount locality.priority)) :
    ∀ locality ∈ localities.map toLocalityEndpoints,
      P (endpointsAt (localities.map toLocalityEndpoints)
        locality.priority).length := by
  intro locality member
  rcases mem_map.mp member with ⟨original, listed, rfl⟩
  rcases partner_of_right (buildLocalities_builds built) listed with ⟨endpoints, known, builds⟩
  have samePriority : original.priority = endpoints.priority := builds.priority
  rw [endpointsAt_length built, samePriority]
  exact each endpoints known

theorem sized_of_built (built : builder.buildLocalities = .ok localities)
    (sized : builder.cla.Sized) : Sized (localities.map toLocalityEndpoints) :=
  forall_endpointsAt_length (P := fun count => 0 < count ∧ count ≤ percentageLimit) built sized

variable [BalancerCrates] [HashMapOrder]

theorem build_not_panicked (profile : BuildProfile)
    (built : builder.buildLocalities = .ok localities) (sized : builder.cla.Sized)
    (panic : Panic) : builder.build profile ≠ .error (.panicked panic) := by
  have standard := fun policy => StandardBalancer.buildFromPolicy_isOk policy fun _ _ =>
    DefaultBalancer.fromSlice_isOk profile (counted_of_built built) (sized_of_built built sized)
  intro panicked
  simp only [build, built] at panicked
  cases chosen : builder.lbPolicy with
  | standard policy =>
    rcases standard policy with ⟨balancer, policyBuilt⟩
    simp only [chosen, buildBalancer, policyBuilt] at panicked
    cases panicked
  | overrideHost config =>
    rcases standard config.fallbackPolicy with ⟨balancer, policyBuilt⟩
    cases source : config.overrideHostSource with
    | metadata key =>
      simp only [chosen, buildBalancer, source] at panicked
      cases panicked
    | header name =>
      simp only [chosen, buildBalancer, source, policyBuilt] at panicked
      cases panicked

end ClusterLoadAssignmentBuilder

namespace ClusterLoadAssignment

variable [BalancerCrates]

theorem Valid.updateEndpointHealth_isOk {self : ClusterLoadAssignment} (valid : self.Valid profile)
    (sized : Sized self.slices) (authority : Authority) (health : HealthStatus) :
    ∃ next, self.updateEndpointHealth profile authority health = .ok next := by
  have folds : ∃ balancer, (self.allEndpoints.filter fun endpoint =>
      endpoint.authority.eqIgnoreAsciiCase authority).foldlM (fun balancer endpoint =>
        (BalancerType.updateHealth profile balancer endpoint health).map Prod.snd)
          self.balancer = .ok balancer := by
    refine foldlM_isOk (fun _ balancer => balancer.chooser.Has fun _ _ _ balancer =>
      DefaultBalancer.Tracks self.slices balancer.priorities) [] ?_ ?_ ?_
    · intro _ balancer endpoint next _ tracks returned
      rcases map_eq_ok_iff.mp returned with ⟨result, updated, rfl⟩
      refine StandardBalancer.updateHealth_has ?_ tracks (BalancerType.updateHealth_chooser updated)
      intro B _ _ self result tracks updated
      exact tracks.updateHealth (DefaultBalancer.updateHealth_result updated)
    · intro _ balancer endpoint _ _ _ tracks
      refine map_isOk (BalancerType.updateHealth_isOk
        (StandardBalancer.updateHealth_isOk ?_ tracks))
      intro B _ _ self tracks
      exact tracks.updateHealth_isOk sized profile endpoint health
    · apply valid.imp
      intro B _ _ self holds
      exact holds.tracks
  rcases folds with ⟨balancer, folded⟩
  exact ⟨_, bind_eq_ok_iff.mpr ⟨balancer, folded, rfl⟩⟩

theorem Valid.step_isSome [HttpCrate] {self : ClusterLoadAssignment} (valid : self.Valid profile)
    (sized : Sized self.slices) (event : AssignmentEvent) :
    ((machine profile).step self event).isSome := by
  cases event with
  | updateEndpointHealth authority health =>
    rcases valid.updateEndpointHealth_isOk sized authority health with ⟨next, updated⟩
    simp only [machine, updated, Option.isSome_some]
  | nextItem | selectOverride => rfl

end ClusterLoadAssignment

/-! ## Freedom from panics -/

/-- A configuration with endpoints in every priority, and not too many of them, is built
without a panic, and no sequence of updates and choices makes the balancer panic. -/
theorem ClusterLoadAssignmentBuilder.never_panics [HttpCrate] [ChannelCrates]
    [BalancerCrates] [HashMapOrder] (profile : BuildProfile)
    (builder : ClusterLoadAssignmentBuilder) {localities : List LocalityLbEndpoints}
    (accepted : builder.buildLocalities = .ok localities) (sized : builder.cla.Sized) :
    (∀ panic, builder.build profile ≠ .error (.panicked panic)) ∧
      ∀ {initial state : ClusterLoadAssignment} {events : List AssignmentEvent}
        {outputs : List LbEndpoint}, builder.build profile = .ok initial →
        (ClusterLoadAssignment.machine profile).Run Machine.anyStep initial events outputs
          state →
        ∀ event, ((ClusterLoadAssignment.machine profile).step state event).isSome = true := by
  refine ⟨build_not_panicked profile accepted sized, ?_⟩
  intro initial state events outputs built run event
  rcases (build_valid built).run run with ⟨valid, same⟩
  refine valid.step_isSome ?_ event
  rw [ClusterLoadAssignment.slices, same]
  exact sized_of_built (build_builds built).localities sized

attribute [local instance] HttpCrate.ascii ChannelCrates.ascii BalancerCrates.simple
  HashMapOrder.insertion

theorem ClusterLoadAssignmentBuilder.never_panics_two_endpoints :
    let builder := plain
      [⟨[.plain "a".toList 80 .healthy], 0⟩, ⟨[.plain "b".toList 80 .unhealthy], 0⟩]
      (.standard .maglev)
    ∃ localities, builder.buildLocalities = .ok localities ∧ builder.cla.Sized ∧
      ∀ panic, builder.build ⟨true⟩ ≠ .error (.panicked panic) := by
  have sized : PartialClusterLoadAssignment.Sized
      ⟨[⟨[.plain "a".toList 80 .healthy], 0⟩, ⟨[.plain "b".toList 80 .unhealthy], 0⟩]⟩ := by
    decide
  exact ⟨_, rfl, sized, (never_panics ⟨true⟩
    (.plain [⟨[.plain "a".toList 80 .healthy], 0⟩, ⟨[.plain "b".toList 80 .unhealthy], 0⟩]
      (.standard .maglev)) rfl sized).1⟩

/-- A priority whose only locality has no endpoints is accepted, and makes the
construction of its balancer divide by zero. -/
theorem ClusterLoadAssignmentBuilder.build_divides_by_zero :
    let builder := plain [⟨[], 0⟩] (.standard .roundRobin)
    (∃ localities, builder.buildLocalities = .ok localities) ∧
      builder.build ⟨true⟩ = .error (.panicked .divisionByZero) ∧
      builder.build ⟨false⟩ = .error (.panicked .divisionByZero) := by
  exact ⟨⟨_, rfl⟩, rfl, rfl⟩

/-! ## Availability -/

/-- In every state reached, an endpoint is found, whatever the random draw and the hash,
exactly when a priority has at least one percent of its endpoints healthy or the highest
priority has a healthy endpoint. -/
theorem DefaultBalancer.available_iff {B E : Type} [Endpoint E] [Balancer B E] [LawfulBalancer B E]
    [HashMapOrder] {profile : BuildProfile} {localities : List (LocalityEndpoints E)}
    {initial state : DefaultBalancer B E} {events : List (BalancerEvent E)}
    {outputs : List (Option E)} (accepted : ∀ locality ∈ localities,
      LocalityEndpoints.build locality.priority locality.endpoints = .ok locality)
    (built : fromSlice profile localities = .ok initial)
    (run : (machine profile).Run Machine.anyStep initial events outputs state) (choice : Choice E) :
    (state.nextItem choice).1.isSome = true ↔ Serves profile state.priorities := by
  have counted : ∀ locality ∈ localities, locality.Counted := fun locality member =>
    (LocalityEndpoints.build_counted (accepted locality member)).1
  have valid := (fromSlice_valid counted built).run run
  exact nextItem_isSome valid.weighs valid.tracks valid.consistent choice

/-- The second priority is available once the endpoint of the first has failed. -/
theorem DefaultBalancer.available_after_failure :
    let endpoint (id : Text) : LbEndpoint := ⟨"cluster".toList, .internal ⟨id, none⟩, {},
      ⟨1, by decide, by decide⟩, .healthy⟩
    ∃ initial state : DefaultBalancer (WeightedRoundRobinBalancer LbEndpoint) LbEndpoint,
      fromSlice ⟨true⟩ [⟨[endpoint "a".toList], 0, 1, 1⟩, ⟨[endpoint "b".toList], 1, 1, 1⟩] =
        .ok initial ∧
      (machine ⟨true⟩).Run Machine.anyStep initial
        [.updateHealth (endpoint "a".toList) .unhealthy] [] state ∧
      ∀ choice, (state.nextItem choice).1.isSome = true := by
  intro endpoint
  have accepted : ∀ locality ∈ [(⟨[endpoint "a".toList], 0, 1, 1⟩ : LocalityEndpoints LbEndpoint),
        ⟨[endpoint "b".toList], 1, 1, 1⟩],
      LocalityEndpoints.build locality.priority locality.endpoints = .ok locality := by
    simp only [forall_mem_cons]
    exact ⟨rfl, rfl, nofun⟩
  have available
      {initial state : DefaultBalancer (WeightedRoundRobinBalancer LbEndpoint) LbEndpoint}
      (built : fromSlice ⟨true⟩ _ = .ok initial) (run : (machine ⟨true⟩).Run Machine.anyStep initial
        [.updateHealth (endpoint "a".toList) .unhealthy] [] state) :=
    available_iff accepted built run
  refine ⟨_, _, rfl, .any_of_execute rfl, ?_⟩
  intro choice
  refine (available rfl (.any_of_execute rfl) choice).mpr ?_
  exact .inl ⟨_, mem_cons_of_mem _ mem_cons_self, _, rfl, by decide⟩

/-- One healthy endpoint among 101 of the second priority counts for zero percent, so
that only the first priority is tried, which has none. -/
theorem DefaultBalancer.healthy_endpoint_missed :
    let builder := plain
      [⟨[.plain "a".toList 80 .unhealthy], 0⟩, ⟨.plain "b".toList 80 .healthy ::
          (range 100).map fun port => .plain "c".toList port .unhealthy, 1⟩]
      (.standard .roundRobin)
    (builder.build ⟨true⟩).toOption.map (fun assignment =>
      (assignment.balancer.nextItem ⟨none, fun _ => 0, fun _ => 0⟩).1) = some none := by
  decide +kernel

end Orion.Clusters
