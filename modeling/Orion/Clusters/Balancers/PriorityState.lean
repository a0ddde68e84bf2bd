import Orion.Foundation.Execution
import Orion.Clusters.Balancers.DefaultBalancer

/-! # The priorities of a balancer

How the entries of the priorities follow from the localities, and what updates and
choices preserve of them.
-/

namespace Orion.Clusters

open Foundation HealthLbItem Nat U32
open Prod hiding map_map
open List hiding after

/-! ## Localities -/

section

variable {E : Type} [Endpoint E]

structure LocalityEndpoints.Counted (locality : LocalityEndpoints E) : Prop where
  healthy : locality.healthyEndpoints = locality.endpoints.countP fun endpoint =>
    (Endpoint.health endpoint).isHealthy
  total : locality.totalEndpoints = locality.endpoints.length
  total_lt : locality.totalEndpoints < limit

theorem LocalityEndpoints.build_counted {priority : Nat} {endpoints : List E}
    (built : build priority endpoints = .ok locality) :
    locality.Counted ∧ locality.priority = priority ∧ locality.endpoints = endpoints := by
  unfold build at built
  simp only at built
  split_ifs at built with tooMany tooManyHealthy
  cases built
  exact ⟨⟨rfl, rfl, not_le.mp fun many => tooMany (.inl many)⟩, rfl, rfl⟩

def endpointsAt (localities : List (LocalityEndpoints E)) (priority : Nat) : List E :=
  (localities.filter fun locality => locality.priority = priority).flatMap
    LocalityEndpoints.endpoints

omit [Endpoint E] in
theorem endpointsAt_append (before after : List (LocalityEndpoints E)) (priority : Nat) :
    endpointsAt (before ++ after) priority =
      endpointsAt before priority ++ endpointsAt after priority := by
  simp [endpointsAt]

omit [Endpoint E] in
theorem endpointsAt_singleton (locality : LocalityEndpoints E) (priority : Nat) :
    endpointsAt [locality] priority =
      if locality.priority = priority then locality.endpoints else [] := by
  by_cases same : locality.priority = priority <;> simp [endpointsAt, same]

theorem healthyCount_append (items : List (HealthLbItem E)) (endpoints : List E) :
    healthyCount (items ++ endpoints.map ofEndpoint) =
      healthyCount items +
        endpoints.countP fun endpoint => (Endpoint.health endpoint).isHealthy := by
  rw [healthyCount, countP_append, countP_map]
  rfl

end

namespace DefaultBalancer

variable {B E : Type} [Endpoint E] [Balancer B E]

/-! ## Counters -/

/-- The counters of a priority are the numbers of its items, as far as 32 bits go. -/
structure Counts (info : PriorityInfo (HealthyBalancer B E)) : Prop where
  healthy : info.healthy = healthyCount info.balancer.items % limit
  total : info.total = info.balancer.items.length % limit

variable {locality : LocalityEndpoints E}

theorem Counts.fresh (counted : locality.Counted) :
    Counts (⟨.fromIter locality.endpoints, locality.healthyEndpoints,
      locality.totalEndpoints⟩ : PriorityInfo (HealthyBalancer B E)) := by
  have healthyLe : locality.healthyEndpoints ≤ locality.totalEndpoints := by
    rw [counted.healthy, counted.total]
    exact countP_le_length
  refine ⟨?_, ?_⟩
  · have count := healthyCount_append [] locality.endpoints
    rw [nil_append, ← counted.healthy, show healthyCount ([] : List (HealthLbItem E)) = 0
      from rfl, zero_add] at count
    change locality.healthyEndpoints = healthyCount (locality.endpoints.map ofEndpoint) % limit
    rw [count, mod_eq_of_lt (healthyLe.trans_lt counted.total_lt)]
  · change locality.totalEndpoints = (locality.endpoints.map ofEndpoint).length % limit
    rw [length_map, ← counted.total, mod_eq_of_lt counted.total_lt]

variable {profile : BuildProfile}

theorem Counts.extend {info : PriorityInfo (HealthyBalancer B E)} (counts : Counts info)
    (counted : locality.Counted) {healthy total : Nat}
    (healthySum : add profile info.healthy locality.healthyEndpoints = .ok healthy)
    (totalSum : add profile info.total locality.totalEndpoints = .ok total) :
    Counts ⟨info.balancer.extend locality.endpoints, healthy, total⟩ := by
  refine ⟨?_, ?_⟩
  · change healthy = healthyCount
      (info.balancer.items ++ locality.endpoints.map ofEndpoint) % limit
    rw [fit_eq_ok healthySum, healthyCount_append, ← counted.healthy, counts.healthy,
      mod_add_mod]
  · change total = (info.balancer.items ++ locality.endpoints.map ofEndpoint).length % limit
    rw [fit_eq_ok totalSum, length_append, length_map, ← counted.total,
      counts.total, mod_add_mod]

variable {id : E} {health : HealthStatus}

theorem Counts.updates {after : PriorityInfo (HealthyBalancer B E)}
    (counts : Counts before) (updates : Updates profile id health outcome before after) :
    Counts after := by
  have first := HealthyBalancer.updateHealth_eq updates.balancer
  have length := (updateFirst_changes first).length_eq
  refine ⟨?_, ?_⟩
  · have healthy := updates.healthy
    cases outcome with
    | notUpdated =>
      rw [healthy, counts.healthy, updateFirst_notUpdated first]
    | updated =>
      have moved := updateFirst_healthyCount first
      simp only [adjustHealthy] at healthy
      split_ifs at healthy moved with isHealthy
      · rw [fit_eq_ok healthy, counts.healthy, moved, mod_add_mod]
      · rw [counts.healthy, moved] at healthy
        rcases sub_eq_ok (mod_lt _ (by decide)) (by decide) healthy with ⟨small, same⟩
        unfold limit at small same ⊢
        omega
  · rw [updates.total, counts.total, length]

/-! ## Construction -/

structure Built (localities : List (LocalityEndpoints E)) (priorities : Priorities B E) :
    Prop where
  nodup : (priorities.map fst).Nodup
  known : ∀ locality ∈ localities, locality.priority ∈ priorities.map fst
  needed : ∀ priority ∈ priorities.map fst,
    ∃ locality ∈ localities, locality.priority = priority
  items : ∀ entry ∈ priorities, entry.2.balancer.items =
    (endpointsAt localities entry.1).map ofEndpoint
  counts : ∀ entry ∈ priorities, Counts entry.2

omit [Balancer B E] in
theorem Built.nil : Built (B := B) ([] : List (LocalityEndpoints E)) [] :=
  ⟨by simp, by simp, by simp, by simp, by simp⟩

variable {localities : List (LocalityEndpoints E)} {priorities : Priorities B E}

omit [Balancer B E] in
theorem Built.endpointsAt_eq_nil (built : Built localities priorities)
    (fresh : priority ∉ priorities.map fst) : endpointsAt localities priority = [] := by
  have none : localities.filter (fun locality => locality.priority = priority) = [] := by
    rw [filter_eq_nil_iff]
    intro locality member same
    exact fresh (of_decide_eq_true same ▸ built.known locality member)
  rw [endpointsAt, none, flatMap_nil]

omit [Endpoint E] in
theorem endpointsAt_of_ne (different : locality.priority ≠ priority) :
    endpointsAt (localities ++ [locality]) priority = endpointsAt localities priority := by
  rw [endpointsAt_append, endpointsAt_singleton, if_neg different, append_nil]

theorem Built.inserted (built : Built localities priorities) (counted : locality.Counted)
    (fresh : locality.priority ∉ priorities.map fst) :
    Built (localities ++ [locality])
      (priorities ++ [(locality.priority, ⟨.fromIter locality.endpoints,
        locality.healthyEndpoints, locality.totalEndpoints⟩)]) := by
  refine ⟨?_, ?_, ?_, ?_, ?_⟩
  · rw [map_append, map_singleton]
    refine nodup_append.mpr ⟨built.nodup, nodup_singleton _, ?_⟩
    rintro priority member other single rfl
    rw [mem_singleton.mp single] at member
    exact fresh member
  · intro other member
    rw [map_append, map_singleton]
    rcases mem_append.mp member with earlier | last
    · exact mem_append_left _ (built.known other earlier)
    · rw [mem_singleton.mp last]
      simp
  · intro priority member
    rw [map_append, map_singleton] at member
    rcases mem_append.mp member with earlier | last
    · rcases built.needed priority earlier with ⟨other, listed, same⟩
      exact ⟨other, mem_append_left _ listed, same⟩
    · exact ⟨locality, by simp, (mem_singleton.mp last).symm⟩
  · intro entry member
    rcases mem_append.mp member with earlier | last
    · rw [built.items entry earlier, endpointsAt_of_ne]
      exact fun same => fresh (same ▸ mem_map_of_mem earlier)
    · rw [mem_singleton.mp last, endpointsAt_append, built.endpointsAt_eq_nil fresh,
        endpointsAt_singleton, if_pos rfl]
      rfl
  · intro entry member
    rcases mem_append.mp member with earlier | last
    · exact built.counts entry earlier
    · rw [mem_singleton.mp last]
      exact .fresh counted

theorem Built.modified {front back : Priorities B E} {info : PriorityInfo (HealthyBalancer B E)}
    {healthy total : Nat} (built : Built localities (front ++ (locality.priority, info) :: back))
    (counted : locality.Counted)
    (healthySum : add profile info.healthy locality.healthyEndpoints = .ok healthy)
    (totalSum : add profile info.total locality.totalEndpoints = .ok total) :
    Built (localities ++ [locality])
      (front ++ (locality.priority,
        ⟨info.balancer.extend locality.endpoints, healthy, total⟩) :: back) := by
  have keys : (front ++ (locality.priority, (⟨info.balancer.extend locality.endpoints,
      healthy, total⟩ : PriorityInfo (HealthyBalancer B E))) :: back).map fst =
        (front ++ (locality.priority, info) :: back).map fst := by
    simp
  have others : ∀ entry, entry ∈ front ∨ entry ∈ back → locality.priority ≠ entry.1 := by
    intro entry member same
    have nodup := built.nodup
    rw [map_append, map_cons, nodup_middle, nodup_cons] at nodup
    apply nodup.1
    rw [← map_append]
    change locality.priority ∈ _
    rw [same]
    exact mem_map_of_mem (mem_append.mpr member)
  refine ⟨?_, ?_, ?_, ?_, ?_⟩
  · rw [keys]
    exact built.nodup
  · intro other member
    rw [keys]
    rcases mem_append.mp member with earlier | last
    · exact built.known other earlier
    · rw [mem_singleton.mp last]
      simp
  · intro priority member
    rw [keys] at member
    rcases built.needed priority member with ⟨other, listed, same⟩
    exact ⟨other, mem_append_left _ listed, same⟩
  · intro entry member
    rcases mem_append.mp member with inFront | rest
    · rw [built.items entry (mem_append_left _ inFront),
        endpointsAt_of_ne (others entry (.inl inFront))]
    · rcases mem_cons.mp rest with rfl | inBack
      · change info.balancer.items ++ locality.endpoints.map ofEndpoint = _
        rw [built.items (locality.priority, info) (by simp), endpointsAt_append,
          endpointsAt_singleton, if_pos rfl, map_append]
      · rw [built.items entry (by simp [inBack]), endpointsAt_of_ne (others entry (.inr inBack))]
  · intro entry member
    rcases mem_append.mp member with inFront | rest
    · exact built.counts entry (mem_append_left _ inFront)
    · rcases mem_cons.mp rest with rfl | inBack
      · exact (built.counts (locality.priority, info) (by simp)).extend counted healthySum totalSum
      · exact built.counts entry (by simp [inBack])

theorem Built.adds {next} (built : Built localities priorities) (counted : locality.Counted)
    (adds : Adds profile locality priorities next) : Built (localities ++ [locality]) next := by
  cases adds with
  | inserted fresh => exact built.inserted counted fresh
  | modified front split healthySum totalSum =>
    rw [split] at built
    exact built.modified counted healthySum totalSum

theorem Built.foldlM {final : Priorities B E} (counted : ∀ locality ∈ localities, locality.Counted)
    (returned : localities.foldlM (addLocality profile) [] = .ok final) : Built localities final :=
  foldlM_invariant Built [] (fun member built added =>
    built.adds (counted _ member) (addLocality_adds added)) Built.nil returned

omit [Balancer B E] in
theorem Built.perm (built : Built localities priorities)
    (perm : arranged.Perm priorities) : Built localities arranged := by
  have keys : (arranged.map fst).Perm (priorities.map fst) := perm.map _
  refine ⟨keys.nodup_iff.mpr built.nodup, ?_, ?_, ?_, ?_⟩
  · intro locality member
    exact keys.mem_iff.mpr (built.known locality member)
  · intro priority member
    exact built.needed priority (keys.mem_iff.mp member)
  · intro entry member
    exact built.items entry (perm.mem_iff.mp member)
  · intro entry member
    exact built.counts entry (perm.mem_iff.mp member)

variable {self : DefaultBalancer B E}

theorem fromSlice_built [HashMapOrder] (counted : ∀ locality ∈ localities, locality.Counted)
    (returned : fromSlice profile localities = .ok self) :
    Built localities self.priorities ∧
      recalculatePriorityLoadFactors profile self.priorities = .ok self.priorityLevelLb := by
  rcases bind_eq_ok_iff.mp returned with ⟨inserted, folded, rest⟩
  rcases bind_eq_ok_iff.mp rest with ⟨priorityLevelLb, recalculated, ⟨⟩⟩
  exact ⟨(Built.foldlM counted folded).perm (HashMapOrder.arrange_perm inserted), recalculated⟩

/-! ## Steps -/

section

variable {P : Nat → PriorityInfo (HealthyBalancer B E) → Prop}

omit [Endpoint E] [Balancer B E] in
theorem forall_replaced (each : ∀ entry ∈ front ++ (priority, before) :: back, P entry.1 entry.2)
    (replaced : P priority before → P priority after) :
    ∀ entry ∈ front ++ (priority, after) :: back, P entry.1 entry.2 := by
  intro entry member
  rcases mem_append.mp member with inFront | rest
  · exact each entry (by simp [inFront])
  · rcases mem_cons.mp rest with rfl | inBack
    · exact replaced (each (priority, before) (by simp))
    · exact each entry (by simp [inBack])

variable {self : DefaultBalancer B E}

section

variable {result : Option ValueUpdated × DefaultBalancer B E}
  (updated : UpdateResult profile self id health result)

include updated

/-- An update keeps what holds of each priority if it keeps it for the one that has
the endpoint. -/
theorem UpdateResult.forall_entries (each : ∀ entry ∈ self.priorities, P entry.1 entry.2)
    (kept : ∀ {priority outcome before after}, P priority before →
      Updates profile id health outcome before after → P priority after) :
    ∀ entry ∈ result.2.priorities, P entry.1 entry.2 := by
  cases updated with
  | missing _ => exact each
  | found split splitNext _ updates _ =>
    rw [split] at each
    rw [splitNext]
    exact forall_replaced each fun holds => kept holds updates

theorem UpdateResult.keys : result.2.priorities.map fst = self.priorities.map fst := by
  cases updated with
  | missing _ => rfl
  | found split splitNext _ _ _ =>
    rw [split, splitNext]
    simp

end

omit [Endpoint E]

section

variable {α : Type} (view : Nat × PriorityInfo (HealthyBalancer B E) → α)
  (blind : ∀ priority info choice,
    view (priority, { info with balancer := (info.balancer.nextItem choice).2 }) =
      view (priority, info))

include blind

theorem nextIn_map_eq (priority : Nat) (choice : Choice E) (priorities : Priorities B E) :
    (nextIn priority choice priorities).2.map view = priorities.map view := by
  induction priorities with
  | nil => rfl
  | cons entry rest induction =>
    rw [nextIn]
    split_ifs with same
    · simp only [map_cons]
      rw [blind]
    · simp only [map_cons]
      rw [induction]

theorem nextItem_map_eq (self : DefaultBalancer B E) (choice : Choice E) :
    (self.nextItem choice).2.priorities.map view = self.priorities.map view := by
  unfold nextItem
  split
  · rfl
  · exact nextIn_map_eq view blind _ choice self.priorities

end

section

variable (kept : ∀ {priority info} choice, P priority info →
    P priority { info with balancer := (info.balancer.nextItem choice).2 })

include kept

theorem nextIn_forall_entries (priority : Nat) (choice : Choice E)
    (each : ∀ entry ∈ priorities, P entry.1 entry.2) :
    ∀ entry ∈ (nextIn priority choice priorities).2, P entry.1 entry.2 := by
  induction priorities with
  | nil => exact each
  | cons entry rest induction =>
    rcases entry with ⟨other, info⟩
    have first : P other info := each (other, info) (by simp)
    have later := fun entry member => each entry (mem_cons_of_mem (other, info) member)
    rw [nextIn]
    split_ifs with same
    · intro entry member
      rcases mem_cons.mp member with rfl | inRest
      · exact kept choice first
      · exact later entry inRest
    · intro entry member
      rcases mem_cons.mp member with rfl | inRest
      · exact first
      · exact induction later entry inRest

theorem nextItem_forall_entries
    (choice : Choice E) (each : ∀ entry ∈ self.priorities, P entry.1 entry.2) :
    ∀ entry ∈ (self.nextItem choice).2.priorities, P entry.1 entry.2 := by
  unfold nextItem
  split
  · exact each
  · exact nextIn_forall_entries kept _ choice each

end

end

/-! ## Runs -/

inductive BalancerEvent (E : Type) where
  | updateHealth (id : E) (health : HealthStatus)
  | nextItem (choice : Choice E)

/-- A balancer that is used; a panic ends the run. -/
def machine (profile : BuildProfile) :
    Machine (DefaultBalancer B E) (BalancerEvent E) (Option E) where
  step self
    | .updateHealth id health =>
      match self.updateHealth profile id health with
      | .ok (_, next) => some (next, [])
      | .error _ => none
    | .nextItem choice => some ((self.nextItem choice).2, [(self.nextItem choice).1])

structure Tracks (localities : List (LocalityEndpoints E)) (priorities : Priorities B E) :
    Prop where
  keys : ∀ priority, priority ∈ priorities.map fst ↔
    ∃ locality ∈ localities, locality.priority = priority
  nodup : (priorities.map fst).Nodup
  endpoints : ∀ entry ∈ priorities, entry.2.balancer.items.map item =
    endpointsAt localities entry.1
  counts : ∀ entry ∈ priorities, Counts entry.2

omit [Balancer B E] in
theorem Built.tracks (built : Built localities priorities) : Tracks localities priorities := by
  refine ⟨?_, built.nodup, ?_, built.counts⟩
  · intro priority
    constructor
    · exact built.needed priority
    · rintro ⟨locality, member, rfl⟩
      exact built.known locality member
  · intro entry member
    rw [built.items entry member, map_map]
    exact map_id _

omit [Balancer B E] in
theorem changes_endpoints (changes : List.Forall₂ (ChangesFor id health) before after) :
    after.map item = before.map item := by
  induction changes with
  | nil => rfl
  | cons change _ induction => rw [map_cons, map_cons, change.1, induction]

theorem updates_endpoints {after : PriorityInfo (HealthyBalancer B E)}
    (updates : Updates profile id health outcome before after) :
    after.balancer.items.map item = before.balancer.items.map item :=
  changes_endpoints (updateFirst_changes (HealthyBalancer.updateHealth_eq updates.balancer))

theorem Tracks.updateHealth (tracks : Tracks localities self.priorities)
    {result : Option ValueUpdated × DefaultBalancer B E}
    (updated : UpdateResult profile self id health result) :
    Tracks localities result.2.priorities := by
  refine ⟨?_, ?_, ?_, ?_⟩
  · rw [updated.keys]
    exact tracks.keys
  · rw [updated.keys]
    exact tracks.nodup
  · exact updated.forall_entries (P := fun priority info =>
      info.balancer.items.map item = endpointsAt localities priority)
      tracks.endpoints fun same updates => (updates_endpoints updates).trans same
  · exact updated.forall_entries (P := fun _ info => Counts info) tracks.counts
      fun counts updates => counts.updates updates

omit [Endpoint E] in
theorem Tracks.nextItem (tracks : Tracks localities self.priorities)
    (choice : Choice E) : Tracks localities (self.nextItem choice).2.priorities := by
  have keys := nextItem_map_eq fst (fun _ _ _ => rfl) self choice
  refine ⟨?_, ?_, ?_, ?_⟩
  · rw [keys]
    exact tracks.keys
  · rw [keys]
    exact tracks.nodup
  · exact nextItem_forall_entries (P := fun priority info =>
      info.balancer.items.map item = endpointsAt localities priority)
      (fun _ same => same) choice tracks.endpoints
  · exact nextItem_forall_entries (P := fun _ info => Counts info)
      (fun _ counts => ⟨counts.healthy, counts.total⟩) choice tracks.counts

end DefaultBalancer

end Orion.Clusters
