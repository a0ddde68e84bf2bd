import Orion.Clusters.AssignmentState

/-! # The health of the endpoints of a load assignment

Health is reported for an authority. The balancer looks up the item of each endpoint
that has it, and finds the first that is equal to the endpoint; a second one equal to
it keeps the health that it had.
-/

namespace Orion.Clusters

open Foundation Http ClusterLoadAssignmentBuilder DefaultBalancer StandardBalancer
open Endpoint hiding authority health
open List Option Nat

/-! ## Endpoints of a priority -/

/-- The endpoints of different priorities are different endpoints of the localities. -/
theorem countP_endpointsAt_le (holds : E → Bool) {keys : List Nat}
    (nodup : keys.Nodup) (localities : List (LocalityEndpoints E)) :
    (keys.flatMap (endpointsAt localities)).countP holds ≤
      (localities.flatMap LocalityEndpoints.endpoints).countP holds := by
  induction keys generalizing localities with
  | nil => simp
  | cons key keys induction =>
    rcases nodup_cons.mp nodup with ⟨fresh, rest⟩
    have split := (filter_append_perm
      (fun locality : LocalityEndpoints E => locality.priority = key) localities).flatMap_right
        LocalityEndpoints.endpoints
    have others : keys.flatMap (endpointsAt localities) = keys.flatMap (endpointsAt
        (localities.filter fun locality => !decide (locality.priority = key))) := by
      apply flatMap_congr
      intro other member
      rw [endpointsAt, endpointsAt, List.filter_filter]
      congr 1
      apply filter_congr
      intro locality _
      by_cases same : locality.priority = other
      · have different : other ≠ key := fun equal => fresh (equal ▸ member)
        simp [same, different]
      · simp [same]
    rw [← split.countP_eq, flatMap_append, countP_append, flatMap_cons, countP_append, others]
    exact Nat.add_le_add_left (induction rest _) _

namespace DefaultBalancer

variable {B E : Type} [Endpoint E] [Balancer B E]

def items (priorities : Priorities B E) : List (HealthLbItem E) :=
  priorities.flatMap fun entry => entry.2.balancer.items

omit [Endpoint E] [Balancer B E] in
theorem Tracks.countP_le {priorities : Priorities B E} (tracks : Tracks localities priorities)
    (holds : E → Bool) : (items priorities).countP (fun item => holds item.item) ≤
      (localities.flatMap LocalityEndpoints.endpoints).countP holds := by
  have same : (items priorities).map HealthLbItem.item =
      (priorities.map Prod.fst).flatMap (endpointsAt localities) := by
    rw [items, map_flatMap, flatMap_map]
    exact flatMap_congr tracks.endpoints
  rw [← Function.comp_def, ← countP_map, same]
  exact countP_endpointsAt_le holds tracks.nodup localities

/-! ## Updates of items -/

variable {id : E} {health : HealthStatus}

theorem updateHealth_eq_none {self : HealthyBalancer B E}
    (missing : self.updateHealth id health = none) :
    ∀ item ∈ self.items, same id item.item = false := by
  intro item member
  by_contra equal
  have found := (updateFirst_isSome id health self.items).mpr ⟨item, member, by simpa using equal⟩
  rcases isSome_iff_exists.mp found with ⟨⟨outcome, items⟩, first⟩
  unfold HealthyBalancer.updateHealth at missing
  cases outcome <;> simp [first] at missing

variable {self : DefaultBalancer B E}

theorem UpdateResult.forall_items {P : HealthLbItem E → Prop}
    (updated : UpdateResult profile self id health result)
    (each : ∀ item ∈ items self.priorities, P item)
    (kept : ∀ {before after}, P before → ChangesFor id health before after → P after) :
    ∀ item ∈ items result.2.priorities, P item := by
  have entries := updated.forall_entries (P := fun _ info => ∀ item ∈ info.balancer.items, P item)
    (fun entry member item listed =>
      each item (mem_flatMap.mpr ⟨entry, member, listed⟩))
    (by
      intro _ _ before after holds updates item member
      rcases partner_of_right (updateFirst_changes
        (HealthyBalancer.updateHealth_eq updates.balancer)) member with ⟨original, known, changes⟩
      exact kept (holds original known) changes)
  intro item member
  rcases mem_flatMap.mp member with ⟨entry, known, listed⟩
  exact entries entry known item listed

/-- If no two items are equal to the endpoint, the update reaches all that are. -/
theorem UpdateResult.reaches {result : Option ValueUpdated × DefaultBalancer B E}
    (updated : UpdateResult profile self id health result)
    (once : (items self.priorities).countP (fun item => same id item.item) ≤ 1) :
    ∀ item ∈ items result.2.priorities, same id item.item → item.health = health := by
  intro item member equal
  rcases mem_flatMap.mp member with ⟨entry, known, listed⟩
  cases updated with
  | missing absent =>
    rw [updateHealth_eq_none (absent entry known) item listed] at equal
    cases equal
  | @found outcome front priority before after back next split splitNext absent updates _ =>
    have first := HealthyBalancer.updateHealth_eq updates.balancer
    have present : 0 < before.balancer.items.countP fun item =>
        same id item.item :=
      countP_pos_iff.mpr ((updateFirst_isSome id health _).mp (by rw [first]; rfl))
    rw [split, items, flatMap_append, flatMap_cons, countP_append, countP_append] at once
    dsimp only at once
    rw [splitNext] at known
    rcases mem_append.mp known with inFront | rest
    · rw [updateHealth_eq_none (absent entry inFront) item listed] at equal
      cases equal
    · rcases mem_cons.mp rest with rfl | inBack
      · exact updateFirst_reaches first (by omega) item listed equal
      · have later : 0 < (back.flatMap fun entry => entry.2.balancer.items).countP
            fun item => same id item.item :=
          countP_pos_iff.mpr ⟨item, mem_flatMap.mpr ⟨entry, inBack, listed⟩, equal⟩
        omega

/-! ## Choices -/

omit [Endpoint E] in
theorem nextIn_healthy [LawfulBalancer B E] {choice : Choice E}
    {priorities : Priorities B E} (consistent : Consistent priorities)
    (chosen : (nextIn priority choice priorities).1 = some endpoint) :
    ∃ item ∈ items priorities, item.item = endpoint ∧ item.health = .healthy := by
  induction priorities with
  | nil => cases chosen
  | cons entry rest induction =>
    rcases entry with ⟨other, info⟩
    rw [nextIn] at chosen
    split_ifs at chosen with same
    · have inner : info.balancer.Consistent := consistent (other, info) (by simp)
      rcases inner.nextItem_healthy chosen with ⟨item, known, equal, healthy⟩
      exact ⟨item, mem_append_left _ known, equal, healthy⟩
    · rcases induction (fun entry member => consistent entry (by simp [member])) chosen with
        ⟨item, known, equal, healthy⟩
      exact ⟨item, mem_append_right _ known, equal, healthy⟩

omit [Endpoint E] in
theorem nextItem_healthy [LawfulBalancer B E] {choice : Choice E} {endpoint : E}
    (consistent : Consistent self.priorities) (chosen : (self.nextItem choice).1 = some endpoint) :
    ∃ item ∈ items self.priorities, item.item = endpoint ∧ item.health = .healthy := by
  unfold nextItem at chosen
  split at chosen
  · cases chosen
  · exact nextIn_healthy consistent chosen

omit [Endpoint E] in
theorem nextItem_items (self : DefaultBalancer B E) (choice : Choice E) :
    items (self.nextItem choice).2.priorities = items self.priorities := by
  have same := nextItem_map_eq (fun entry => entry.2.balancer.items) (fun _ _ _ => rfl) self choice
  rw [items, items, flatMap_def, same, ← flatMap_def]

end DefaultBalancer

/-! ## What a balancer knows -/

namespace BalancerType

theorem status_isHealthy (health : HealthStatus) :
    (if health.isHealthy then HealthStatus.healthy else .unhealthy) = health := by
  cases health <;> rfl

variable [BalancerCrates]

/-- What holds of every endpoint and the health by which it is chosen, be it by the
balancer or because it is named. -/
structure Shows (P : LbEndpoint → HealthStatus → Prop) (balancer : BalancerType) : Prop where
  items : balancer.chooser.Has fun _ _ _ chooser =>
    ∀ item ∈ items chooser.priorities, P item.item item.health
  overrides : ∀ {override key entry}, balancer = .overrideHost override →
    override.endpoints key = some entry → entry.endpoint.authority = key ∧
      P entry.endpoint (if entry.healthy then .healthy else .unhealthy)

variable {P : LbEndpoint → HealthStatus → Prop} {balancer : BalancerType}

theorem Shows.imp (shows : balancer.Shows P)
    (implies : ∀ endpoint health, P endpoint health → Q endpoint health) : balancer.Shows Q := by
  refine ⟨?_, fun same known => ?_⟩
  · apply shows.items.imp
    intro B _ _ chooser each item member
    exact implies _ _ (each item member)
  · rcases shows.overrides same known with ⟨authority, holds⟩
    exact ⟨authority, implies _ _ holds⟩

theorem Shows.and (left : balancer.Shows P) (right : balancer.Shows Q) :
    balancer.Shows fun endpoint health => P endpoint health ∧ Q endpoint health := by
  refine ⟨?_, fun same known => ?_⟩
  · apply (left.items.and right.items).imp
    intro B _ _ chooser both item member
    exact ⟨both.1 item member, both.2 item member⟩
  · exact ⟨(left.overrides same known).1, (left.overrides same known).2,
      (right.overrides same known).2⟩

variable {profile : BuildProfile} {endpoint : LbEndpoint} {health : HealthStatus}
  {result : Option ValueUpdated × BalancerType}

theorem updateHealth_overrides
    (returned : balancer.updateHealth profile endpoint health = .ok result)
    (same : result.2 = .overrideHost override) (known : override.endpoints key = some entry) :
    ∃ previous old, balancer = .overrideHost previous ∧ previous.endpoints key = some old ∧
      (entry = old ∧ key ≠ endpoint.authority ∨
        entry = { old with healthy := health.isHealthy } ∧ key = endpoint.authority) := by
  cases balancer with
  | standard _ =>
    rcases map_eq_ok_iff.mp returned with ⟨next, _, rfl⟩
    cases same
  | overrideHost previous =>
    rcases map_eq_ok_iff.mp returned with ⟨next, updated, rfl⟩
    rcases bind_eq_ok_iff.mp updated with ⟨inner, _, ⟨⟩⟩
    cases same
    cases found : previous.endpoints endpoint.authority with
    | none =>
      simp only [found] at known
      refine ⟨previous, entry, rfl, known, .inl ⟨rfl, ?_⟩⟩
      rintro rfl
      rw [found] at known
      cases known
    | some old =>
      simp only [found, Table.insert] at known
      split_ifs at known with sameKey
      · cases known
        exact ⟨previous, old, rfl, sameKey ▸ found, .inr ⟨rfl, sameKey⟩⟩
      · exact ⟨previous, entry, rfl, known, .inl ⟨rfl, sameKey⟩⟩

/-- An update for an endpoint concerns endpoints with its authority only. -/
theorem Shows.updateHealth (shows : balancer.Shows P)
    (kept : ∀ {other status}, endpoint.authority.eqIgnoreAsciiCase other.authority →
      P other status → P other health)
    (returned : balancer.updateHealth profile endpoint health = .ok result) : result.2.Shows P := by
  refine ⟨?_, fun same known => ?_⟩
  · refine updateHealth_has ?_ shows.items (updateHealth_chooser returned)
    intro B _ _ self result each updated
    refine (updateHealth_result updated).forall_items
      (P := fun item => P item.item item.health) each ?_
    rintro before after holds ⟨sameItem, unchanged | ⟨equal, set⟩⟩
    · rw [sameItem, unchanged]
      exact holds
    · rw [sameItem, set]
      exact kept (same_authority equal) holds
  · rcases updateHealth_overrides returned same known with
      ⟨previous, old, before, knownBefore, ⟨rfl, _⟩ | ⟨rfl, sameKey⟩⟩
    · exact shows.overrides before knownBefore
    · rcases shows.overrides before knownBefore with ⟨authority, holds⟩
      refine ⟨authority, ?_⟩
      rw [status_isHealthy]
      refine kept ?_ holds
      rw [authority, sameKey]
      exact eqIgnoreAsciiCase_refl _

theorem Shows.reaches (shows : balancer.Shows P) (itself : same endpoint endpoint)
    (once : balancer.chooser.Has fun _ _ _ chooser =>
      (DefaultBalancer.items chooser.priorities).countP
        (fun item => same endpoint item.item) ≤ 1)
    (returned : balancer.updateHealth profile endpoint health = .ok result) :
    result.2.Shows fun other status => other = endpoint → status = health := by
  refine ⟨?_, fun same known => ?_⟩
  · refine updateHealth_has ?_ once (updateHealth_chooser returned)
    intro B _ _ self result once updated item member equal
    exact (updateHealth_result updated).reaches once item member (equal ▸ itself)
  · rcases updateHealth_overrides returned same known with
      ⟨previous, old, before, knownBefore, ⟨rfl, different⟩ | ⟨rfl, sameKey⟩⟩
    · rcases shows.overrides before knownBefore with ⟨authority, _⟩
      refine ⟨authority, fun equal => absurd ?_ different⟩
      rw [← authority, equal]
    · refine ⟨(shows.overrides before knownBefore).1, fun _ => ?_⟩
      exact status_isHealthy health

theorem Shows.nextItem (shows : balancer.Shows P) (choice : Choice LbEndpoint) :
    (balancer.nextItem choice).2.Shows P := by
  refine ⟨?_, fun {override key entry} same known => ?_⟩
  · rw [(nextItem_chooser balancer choice).2]
    refine nextItem_has ?_ shows.items
    intro B _ _ self each
    rw [nextItem_items]
    exact each
  · cases balancer with
    | standard _ => cases same
    | overrideHost previous =>
      cases same
      exact shows.overrides rfl known

/-! ## Updates of all endpoints of an authority -/

section

variable {P : LbEndpoint → HealthStatus → Prop} {profile : BuildProfile} {health : HealthStatus}
  {balancer next : BalancerType} {endpoints : List LbEndpoint}

theorem Shows.foldlM (shows : balancer.Shows P) (kept : ∀ endpoint ∈ endpoints, ∀ {other status},
      endpoint.authority.eqIgnoreAsciiCase other.authority →
      P other status → P other health)
    (folded : endpoints.foldlM (fun balancer endpoint =>
      (balancer.updateHealth profile endpoint health).map Prod.snd) balancer = .ok next) :
    next.Shows P := by
  refine foldlM_invariant (fun _ balancer => balancer.Shows P) [] ?_ shows folded
  intro _ _ endpoint _ member shows returned
  rcases map_eq_ok_iff.mp returned with ⟨result, updated, rfl⟩
  exact shows.updateHealth (kept endpoint member) updated

/-- If none of the endpoints is equal to another one, all of them have the health at the
end. -/
theorem Shows.foldlM_reaches (shows : balancer.Shows P)
    (tracks : balancer.chooser.Has fun _ _ _ chooser =>
      DefaultBalancer.Tracks localities chooser.priorities)
    (itself : ∀ endpoint ∈ endpoints, same endpoint endpoint)
    (once : ∀ endpoint ∈ endpoints,
      (localities.flatMap LocalityEndpoints.endpoints).countP (same endpoint) ≤ 1)
    (folded : endpoints.foldlM (fun balancer endpoint =>
      (balancer.updateHealth profile endpoint health).map Prod.snd) balancer = .ok next) :
    next.Shows fun other status => other ∈ endpoints → status = health := by
  have start : balancer.Shows fun other status => other ∈ [] → status = health :=
    shows.imp fun _ _ _ member => absurd member not_mem_nil
  refine (foldlM_invariant (fun done balancer =>
    (balancer.chooser.Has fun _ _ _ chooser =>
        DefaultBalancer.Tracks localities chooser.priorities) ∧
      balancer.Shows fun other status => other ∈ done → status = health) []
    ?_ ⟨tracks, start⟩ folded).2
  rintro done _ endpoint _ member ⟨tracks, reached⟩ returned
  rcases map_eq_ok_iff.mp returned with ⟨result, updated, rfl⟩
  refine ⟨?_, ?_⟩
  · refine updateHealth_has ?_ tracks (updateHealth_chooser updated)
    intro B _ _ self result tracks updated
    exact tracks.updateHealth (updateHealth_result updated)
  · have earlier := reached.updateHealth (fun _ _ _ => rfl) updated
    have last := reached.reaches (itself endpoint member) (tracks.imp fun _ _ _ _ holds =>
      (holds.countP_le _).trans (once endpoint member)) updated
    refine (earlier.and last).imp fun other status both known => ?_
    rcases mem_append.mp known with before | now
    · exact both.1 before
    · exact both.2 (mem_singleton.mp now)

end

end BalancerType

/-! ## Runs -/

namespace ClusterLoadAssignment

def lastHealth (authority : Authority) (events : List AssignmentEvent) : Option HealthStatus :=
  events.foldl (fun last event =>
    match event with
    | .updateEndpointHealth other health =>
      if authority.eqIgnoreAsciiCase other then some health else last
    | .nextItem _ | .selectOverride _ _ => last) none

theorem lastHealth_update (authority other : Authority) (health : HealthStatus)
    (events : List AssignmentEvent) :
    lastHealth authority (events ++ [.updateEndpointHealth other health]) =
      if authority.eqIgnoreAsciiCase other then some health
      else lastHealth authority events := by
  rw [lastHealth, foldl_append]
  rfl

/-- No endpoint that is reported unhealthy is equal to another one. -/
def Unshared (self : ClusterLoadAssignment) : AssignmentEvent → Prop
  | .updateEndpointHealth authority .unhealthy =>
    ∀ endpoint ∈ self.allEndpoints, endpoint.authority.eqIgnoreAsciiCase authority = true →
      self.allEndpoints.countP (same endpoint) ≤ 1
  | _ => True

instance (self : ClusterLoadAssignment) (event : AssignmentEvent) :
    Decidable (self.Unshared event) :=
  match event with
  | .updateEndpointHealth authority .unhealthy =>
    inferInstanceAs (Decidable (∀ endpoint ∈ self.allEndpoints,
      endpoint.authority.eqIgnoreAsciiCase authority = true → _))
  | .updateEndpointHealth _ .healthy | .nextItem _ | .selectOverride _ _ =>
    inferInstanceAs (Decidable True)

theorem slices_endpoints (self : ClusterLoadAssignment) :
    self.slices.flatMap LocalityEndpoints.endpoints = self.allEndpoints :=
  flatMap_map _ _ _

variable [BalancerCrates]

/-- The balancer knows the endpoints whose authority was last reported unhealthy. -/
def Informed (events : List AssignmentEvent) (self : ClusterLoadAssignment) : Prop :=
  self.balancer.Shows fun endpoint health => endpoint ∈ self.allEndpoints ∧
    (lastHealth endpoint.authority events = some .unhealthy → health = .unhealthy)

variable {profile : BuildProfile} {self : ClusterLoadAssignment}

theorem Informed.updated {balancer : BalancerType} (informed : self.Informed events)
    (valid : self.Valid profile)
    (itself : ∀ endpoint ∈ self.allEndpoints, same endpoint endpoint)
    (unshared : self.Unshared (.updateEndpointHealth authority health))
    (folded : (self.allEndpoints.filter fun endpoint =>
        endpoint.authority.eqIgnoreAsciiCase authority).foldlM (fun balancer endpoint =>
          (balancer.updateHealth profile endpoint health).map Prod.snd) self.balancer =
        .ok balancer) :
    balancer.Shows fun endpoint status => endpoint ∈ self.allEndpoints ∧
      (lastHealth endpoint.authority
          (events ++ [.updateEndpointHealth authority health]) = some .unhealthy →
        status = .unhealthy) := by
  -- Endpoints with another authority keep what is known of them.
  have others : balancer.Shows fun endpoint status => endpoint ∈ self.allEndpoints ∧
      (¬ endpoint.authority.eqIgnoreAsciiCase authority →
        lastHealth endpoint.authority events = some .unhealthy → status = .unhealthy) := by
    refine (informed.imp fun _ _ known =>
      (⟨known.1, fun _ => known.2⟩ : _ ∧ (_ → _ → _))).foldlM ?_ folded
    intro endpoint member other status same known
    refine ⟨known.1, fun different => absurd ?_ different⟩
    have concerned := (mem_filter.mp member).2
    rw [Text.eqIgnoreAsciiCase_iff] at same concerned ⊢
    exact same.symm.trans concerned
  cases health with
  | healthy =>
    refine others.imp fun endpoint status known => ⟨known.1, fun last => ?_⟩
    rw [lastHealth_update] at last
    split_ifs at last with same
    · cases last
    · exact known.2 same last
  | unhealthy =>
    have reached := informed.foldlM_reaches (valid.imp fun _ _ _ _ holds => holds.tracks)
      (fun endpoint member => itself endpoint (mem_filter.mp member).1)
      (fun endpoint member => by
        rcases mem_filter.mp member with ⟨known, same⟩
        rw [slices_endpoints]
        exact unshared endpoint known same) folded
    refine (others.and reached).imp fun endpoint status known => ⟨known.1.1, fun last => ?_⟩
    rw [lastHealth_update] at last
    split_ifs at last with same
    · exact known.2 (mem_filter.mpr ⟨known.1.1, same⟩)
    · exact known.1.2 same last

theorem Informed.steps {next : ClusterLoadAssignment} (informed : self.Informed events)
    (valid : self.Valid profile)
    (itself : ∀ endpoint ∈ self.allEndpoints, same endpoint endpoint)
    (unshared : self.Unshared event) (steps : Steps profile self event next emitted) :
    next.Informed (events ++ [event]) := by
  cases steps with
  | updated folded => exact informed.updated valid itself unshared folded
  | chosen choice source =>
    have same : ∀ authority, lastHealth authority (events ++ [event]) =
        lastHealth authority events := by
      intro authority
      rw [lastHealth, foldl_append]
      rcases source with rfl | ⟨header, rfl⟩ <;> rfl
    refine (BalancerType.Shows.nextItem informed choice).imp fun endpoint status known => ?_
    rw [same]
    exact known
  | named _ _ =>
    refine BalancerType.Shows.imp informed fun endpoint status known => ⟨known.1, ?_⟩
    rw [lastHealth, foldl_append]
    exact known.2

theorem Informed.emitted {next : ClusterLoadAssignment} {event : AssignmentEvent}
    {emitted : List LbEndpoint} (informed : self.Informed events) (valid : self.Valid profile)
    (steps : Steps profile self event next emitted) :
    ∀ endpoint ∈ emitted, lastHealth endpoint.authority events ≠ some .unhealthy := by
  intro endpoint member last
  cases steps with
  | updated _ => cases member
  | chosen choice _ =>
    rw [(BalancerType.nextItem_chooser self.balancer choice).1, mem_toList] at member
    refine nextItem_of_has (Q := fun _ => False) ?_
      (informed.items.and valid) member
    intro B _ _ balancer both chosen
    rcases nextItem_healthy both.2.consistent chosen with ⟨item, known, rfl, healthy⟩
    have unhealthy := (both.1 item known).2 last
    rw [healthy] at unhealthy
    cases unhealthy
  | named same each =>
    rcases each endpoint member with ⟨key, entry, known, healthy, rfl⟩
    have unhealthy := (informed.overrides same known).2.2 last
    rw [if_pos healthy] at unhealthy
    cases unhealthy

end ClusterLoadAssignment

/-! ## Construction -/

/-- The endpoints that can be named are endpoints of the localities, under their
authority. -/
theorem OverrideHostLoadBalancer.overrideMap_entry
    (found : overrideMap previous localities key = some entry) :
    entry.endpoint ∈ localities.flatMap (·.endpoints) ∧ entry.endpoint.authority = key := by
  have inserted : ∀ (endpoints : List LbEndpoint) (table : Table Text OverrideEndpoint),
      (endpoints.foldl (fun entries endpoint =>
        entries.insert endpoint.authority ⟨endpoint, wasHealthy previous endpoint⟩) table)
          key = some entry →
      table key = some entry ∨ (entry.endpoint ∈ endpoints ∧ entry.endpoint.authority = key) := by
    intro endpoints
    induction endpoints with
    | nil => exact fun _ => .inl
    | cons endpoint endpoints induction =>
      intro table found
      rcases induction _ found with earlier | ⟨member, authority⟩
      · simp only [Table.insert] at earlier
        split_ifs at earlier with same
        · cases earlier
          exact .inr ⟨by simp, same.symm⟩
        · exact .inl earlier
      · exact .inr ⟨by simp [member], authority⟩
  rcases inserted _ _ found with empty | known
  · cases empty
  · exact known

section

variable [HttpCrate] [ChannelCrates]

theorem LbEndpointBuilder.build_itself {builder : LbEndpointBuilder} {endpoint : LbEndpoint}
    (built : builder.build = .ok endpoint) : same endpoint endpoint := by
  change endpoint.address.same endpoint.address
  rcases (build_eq_ok built).2 with ⟨address, _, same⟩ | ⟨authority, channels, _, same⟩
  · rw [same]
    exact decide_eq_true rfl
  · rw [same]
    exact eqIgnoreAsciiCase_refl _

theorem ClusterLoadAssignmentBuilder.built_itself {builder : ClusterLoadAssignmentBuilder}
    {localities : List LocalityLbEndpoints} (built : builder.buildLocalities = .ok localities) :
    ∀ endpoint ∈ localities.flatMap (·.endpoints),
      same endpoint endpoint := by
  intro endpoint member
  rcases mem_flatMap.mp member with ⟨locality, listed, known⟩
  rcases partner_of_right (buildLocalities_builds built) listed with ⟨_, _, builds⟩
  rcases partner_of_right builds.endpoints known with ⟨_, _, endpointBuilt⟩
  exact LbEndpointBuilder.build_itself endpointBuilt

variable [BalancerCrates] [HashMapOrder]

theorem ClusterLoadAssignmentBuilder.build_informed {builder : ClusterLoadAssignmentBuilder}
    (built : builder.build profile = .ok assignment) : assignment.Informed [] := by
  have builds := build_builds built
  refine ⟨?_, fun same known => ?_⟩
  · apply (build_valid built).imp
    intro B _ _ balancer valid item member
    refine ⟨?_, fun last => by cases last⟩
    rcases mem_flatMap.mp member with ⟨entry, listed, known⟩
    have endpoint := mem_map_of_mem (f := HealthLbItem.item) known
    rw [valid.tracks.endpoints entry listed] at endpoint
    rcases mem_flatMap.mp endpoint with ⟨locality, filtered, within⟩
    rw [← ClusterLoadAssignment.slices_endpoints]
    exact mem_flatMap.mpr ⟨locality, (mem_filter.mp filtered).1, within⟩
  · rw [builds.overrides same] at known
    rcases OverrideHostLoadBalancer.overrideMap_entry known with ⟨member, authority⟩
    exact ⟨authority, member, fun last => by cases last⟩

end

/-! ## The guarantee -/

section

variable [HttpCrate] [BalancerCrates]

theorem ClusterLoadAssignment.Informed.run (informed : initial.Informed [])
    (valid : initial.Valid profile)
    (itself : ∀ endpoint ∈ initial.allEndpoints, same endpoint endpoint)
    (run : (machine profile).Run Unshared initial events outputs state) :
    state.Informed events := by
  refine (run.invariant (fun events _ state => state.Informed events ∧
    state.Valid profile ∧ state.endpoints = initial.endpoints) ⟨informed, valid, rfl⟩ ?_).1
  rintro _ _ state _ _ _ ⟨informed, valid, same⟩ unshared taken
  have steps := machine_steps taken
  refine ⟨informed.steps valid ?_ unshared steps, valid.steps steps, steps.endpoints.trans same⟩
  rw [allEndpoints, same]
  exact itself

omit [HttpCrate] in
theorem ClusterLoadAssignment.Valid.healthyCount {self : ClusterLoadAssignment}
    (valid : self.Valid profile) (small : ∀ locality ∈ self.slices,
      (endpointsAt self.slices locality.priority).length < U32.limit) :
    self.balancer.chooser.Has fun _ _ _ balancer => ∀ entry ∈ balancer.priorities,
      entry.2.healthy = healthyCount entry.2.balancer.items := by
  apply StandardBalancer.Has.imp valid
  intro B _ _ balancer holds entry member
  rcases (holds.tracks.keys entry.1).mp (mem_map_of_mem member) with ⟨locality, listed, same⟩
  have bound := small locality listed
  rw [same, ← holds.tracks.endpoints entry member, length_map] at bound
  have count : Orion.Clusters.healthyCount entry.2.balancer.items ≤
      entry.2.balancer.items.length := countP_le_length
  rw [(holds.tracks.counts entry member).healthy, mod_eq_of_lt (by omega)]

/-- Where no endpoint that is reported unhealthy is equal to another one, no endpoint is
selected whose authority was last reported unhealthy, and the counters of the priorities
are the numbers of their healthy items. -/
theorem ClusterLoadAssignment.unhealthy_never_selected [ChannelCrates] [HashMapOrder]
    {profile : BuildProfile} {builder : ClusterLoadAssignmentBuilder}
    {initial state : ClusterLoadAssignment} {events : List AssignmentEvent}
    {outputs : List LbEndpoint} (built : builder.build profile = .ok initial)
    (small : ∀ locality ∈ builder.cla.endpoints,
      builder.cla.endpointCount locality.priority < U32.limit)
    (run : (machine profile).Run Unshared initial events outputs state) :
    (∀ {event next emitted}, (machine profile).step state event = some (next, emitted) →
      ∀ endpoint ∈ emitted, lastHealth endpoint.authority events ≠ some .unhealthy) ∧
    state.balancer.chooser.Has fun _ _ _ balancer => ∀ entry ∈ balancer.priorities,
      entry.2.healthy = Orion.Clusters.healthyCount entry.2.balancer.items := by
  have localities := (build_builds built).localities
  have valid := build_valid built
  rcases valid.run run with ⟨validNow, same⟩
  refine ⟨fun taken => ?_, ?_⟩
  · exact ((build_informed built).run valid (built_itself localities) run).emitted validNow
        (machine_steps taken)
  · apply validNow.healthyCount
    rw [slices, same]
    exact forall_endpointsAt_length (P := (· < U32.limit)) localities small

end

attribute [local instance] HttpCrate.ascii ChannelCrates.ascii BalancerCrates.simple
  HashMapOrder.insertion

theorem ClusterLoadAssignment.unhealthy_never_selected_two_endpoints :
    let builder := plain
      [⟨[.plain "a".toList 80 .healthy, .plain "b".toList 80 .healthy], 0⟩]
      (.overrideHost ⟨.header .host, .leastRequest⟩)
    let report : AssignmentEvent := .updateEndpointHealth "a:80".toList .unhealthy
    ∃ initial state reported, builder.build ⟨true⟩ = .ok initial ∧
      (machine ⟨true⟩).step initial report = some (state, reported) ∧
      ∀ {event next emitted}, (machine ⟨true⟩).step state event = some (next, emitted) →
        ∀ endpoint ∈ emitted, lastHealth endpoint.authority [report] ≠ some .unhealthy := by
  let builder := plain [⟨[.plain "a".toList 80 .healthy, .plain "b".toList 80 .healthy], 0⟩]
    (.overrideHost ⟨.header .host, .leastRequest⟩)
  let report : AssignmentEvent := .updateEndpointHealth "a:80".toList .unhealthy
  have usable : ((builder.build ⟨true⟩).toOption.any fun initial =>
      decide (initial.Unshared report) &&
        ((machine ⟨true⟩).step initial report).isSome) = true := by decide +kernel
  cases built : builder.build ⟨true⟩ with
  | error failure =>
    rw [built] at usable
    cases usable
  | ok initial =>
    rw [built] at usable
    rcases Bool.and_eq_true_iff.mp usable with ⟨unshared, steps⟩
    rcases isSome_iff_exists.mp steps with ⟨⟨state, reported⟩, taken⟩
    have small : ∀ locality ∈ builder.cla.endpoints,
        builder.cla.endpointCount locality.priority < U32.limit := by decide
    exact ⟨initial, state, reported, built, taken, (unhealthy_never_selected built small
      (Machine.Run.start.extend (of_decide_eq_true unshared) taken)).1⟩

/-- Of two equal endpoints only the first is marked, so that the second is selected
although its authority is reported unhealthy. -/
theorem ClusterLoadAssignment.unhealthy_selected :
    let builder := plain
      [⟨[.plain "a".toList 80 .healthy, .plain "a".toList 80 .healthy], 0⟩] (.standard .roundRobin)
    let report : AssignmentEvent := .updateEndpointHealth "a:80".toList .unhealthy
    lastHealth "a:80".toList [report] = some .unhealthy ∧
      ((builder.build ⟨true⟩).toOption.bind fun initial => ((machine ⟨true⟩).execute initial
          [report, .nextItem ⟨none, fun _ => 0, fun _ => 0⟩]).map fun result =>
            result.2.map LbEndpoint.authority) = some ["a:80".toList] := by
  decide +kernel

end Orion.Clusters
