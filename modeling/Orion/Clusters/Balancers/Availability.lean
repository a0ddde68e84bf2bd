import Orion.Clusters.Balancers.PriorityLoad
import Orion.Clusters.Balancers.PriorityState
import Orion.Clusters.Balancers.SmoothRoundRobin

/-! # Availability

Which priorities can be chosen follows from their percentages of healthy endpoints.
A percentage is rounded down, so that a healthy endpoint among many may count for
nothing; then the highest priority is chosen whether or not it has one.
-/

namespace Orion.Clusters

open Foundation List

/-! ## Loads as weights of the round robin -/

namespace Priority

def counters (endpoints : List (Nat × PriorityInfo B)) : List (Nat × PriorityInfo Unit) :=
  endpoints.map fun entry => (entry.1, ⟨(), entry.2.healthy, entry.2.total⟩)

theorem counters_sort (endpoints : List (Nat × PriorityInfo B)) :
    counters (sortByPriority endpoints) = sortByPriority (counters endpoints) :=
  map_insertionSort _ _ _ _ fun _ _ _ _ => Iff.rfl

theorem Weighted.counters (weighted : Weighted profile endpoints loads) :
    Weighted profile (counters endpoints) loads := by
  refine ⟨?_, weighted.few, weighted.each, ?_⟩
  · exact forall₂_map_left_iff.mpr weighted.matched
  · intro entry member
    rcases mem_map.mp member with ⟨original, known, rfl⟩
    exact weighted.started original known

theorem sum_le_of_few {loads : List (Nat × Nat)} (each : ∀ load ∈ loads, load.2 ≤ bound) :
    (loads.map Prod.snd).sum ≤ bound * loads.countP fun load => 0 < load.2 := by
  induction loads with
  | nil => simp
  | cons load loads induction =>
    have rest := induction fun other member => each other (by simp [member])
    have first := each load (by simp)
    rw [map_cons, sum_cons, countP_cons]
    by_cases positive : 0 < load.2
    · simp only [positive, decide_true, if_true, mul_add, mul_one]
      omega
    · simp only [positive, decide_false]
      simp only [Bool.false_eq_true, if_false, add_zero]
      omega

end Priority

namespace DefaultBalancer

open Priority WeightedRoundRobinBalancer Option Nat

variable {B E : Type}

/-- The round robin over the priorities goes by their loads. -/
def Weighs (profile : BuildProfile) (self : DefaultBalancer B E) : Prop :=
  ∃ loads, Weighted profile (sortByPriority (counters self.priorities)) loads ∧
    self.priorityLevelLb.identities = loads.map Prod.swap ∧
    Balanced self.priorityLevelLb.items

section

variable {loads : List (Nat × Nat)} {lb : WeightedRoundRobinBalancer Nat}

theorem weight_sum_le (weighted : Weighted profile endpoints loads) :
    (loads.map Prod.snd).sum ≤ 40000 := by
  have bounded := sum_le_of_few weighted.each
  have few := weighted.few
  omega

theorem roomy_of_weighted (weighted : Weighted profile endpoints loads)
    (same : lb.identities = loads.map Prod.swap) : Roomy lb.items := by
  have sum := weight_sum_le weighted
  have few := weighted.few
  rw [Roomy, active_eq same, totalWeight_eq same]
  have product : ((loads.countP fun load => 0 < load.2) + 1) * (loads.map Prod.snd).sum ≤
      201 * 40000 := Nat.mul_le_mul (by omega) sum
  have limit : ((201 * 40000 : Nat) : Int) ≤ I32.maximum := by decide
  exact le_trans (by exact_mod_cast product) limit

theorem exists_weight_iff (same : lb.identities = loads.map Prod.swap) :
    0 < totalWeight lb.items ↔ ∃ load ∈ loads, 0 < load.2 := by
  rw [totalWeight_eq same]
  constructor
  · intro positive
    by_contra none
    have zero : (loads.map Prod.snd).sum = 0 := by
      rw [sum_eq_zero_iff]
      intro weight member
      rcases mem_map.mp member with ⟨load, known, rfl⟩
      by_contra nonzero
      exact none ⟨load, known, pos_of_ne_zero nonzero⟩
    omega
  · rintro ⟨load, known, positive⟩
    exact positive.trans_le (single_le_sum (by simp) _ (mem_map_of_mem known))

end

/-! ## The round robin over the priorities -/

theorem new_loads (weighted : Weighted profile endpoints loads) :
    (WeightedRoundRobinBalancer.new (loads.map fun load => WrrLbItem.new load.2 load.1)).items =
        loads.map fun load => WrrLbItem.new load.2 load.1 := by
  apply collectCheckedFrom_of_fits
  rw [List.map_map, zero_add]
  exact (weight_sum_le weighted).trans_lt (by decide)

theorem recalculate_weighs {priorities : Priorities B E}
    {priorityLevelLb : WeightedRoundRobinBalancer Nat}
    (returned : recalculatePriorityLoadFactors profile priorities = .ok priorityLevelLb) :
    Weighs profile ⟨priorityLevelLb, priorities⟩ := by
  rcases bind_eq_ok_iff.mp returned with ⟨loads, computed, ⟨⟩⟩
  have weighted := calculatePriorityLoads_weighted computed
  have items := new_loads weighted
  refine ⟨loads, ?_, ?_, ?_⟩
  · rw [← counters_sort]
    exact weighted.counters
  · rw [identities, items, List.map_map]
    rfl
  · change Balanced (WeightedRoundRobinBalancer.new _).items
    rw [items]
    exact balanced_new loads

theorem nextItem_counters [Balancer B E] (self : DefaultBalancer B E) (choice : Choice E) :
    counters (self.nextItem choice).2.priorities = counters self.priorities :=
  nextItem_map_eq _ (fun _ _ _ => rfl) self choice

theorem nextItem_priorityLevelLb [Balancer B E] (self : DefaultBalancer B E) (choice : Choice E) :
    (self.nextItem choice).2.priorityLevelLb = self.priorityLevelLb.nextItem.2 := by
  unfold nextItem
  split
  · rename_i lb chosen
    rw [chosen]
  · rename_i priority lb chosen
    rw [chosen]

/-- Without weights the first item is chosen again and again. -/
theorem weightless {lb : WeightedRoundRobinBalancer Nat} (balanced : Balanced lb.items)
    (zero : ¬ 0 < totalWeight lb.items) :
    lb.nextItem = (lb.items.head?.map WrrLbItem.item, lb) := by
  apply nextItem_of_weightless
  intro item member
  have weight := weight_le_totalWeight member
  have none : item.weight = 0 := by omega
  exact ⟨none, balanced.idle item member none⟩

theorem Weighs.nextItem [Balancer B E] {self : DefaultBalancer B E} (weighs : Weighs profile self)
    (choice : Choice E) : Weighs profile (self.nextItem choice).2 := by
  rcases weighs with ⟨loads, weighted, same, balanced⟩
  refine ⟨loads, ?_, ?_, ?_⟩
  · rw [nextItem_counters]
    exact weighted
  · rw [nextItem_priorityLevelLb, nextItem_identities]
    exact same
  · rw [nextItem_priorityLevelLb]
    by_cases positive : 0 < totalWeight self.priorityLevelLb.items
    · exact (balanced.nextItem (roomy_of_weighted weighted same).contained positive).1
    · rw [weightless balanced positive]
      exact balanced

/-! ## The balancers of the priorities -/

section

variable [Endpoint E] [Balancer B E] [LawfulBalancer B E]

def Consistent (priorities : Priorities B E) : Prop :=
  ∀ entry ∈ priorities, entry.2.balancer.Consistent

theorem Consistent.adds {locality : LocalityEndpoints E} {priorities next : Priorities B E}
    (consistent : Consistent priorities)
    (adds : Adds profile locality priorities next) : Consistent next := by
  cases adds with
  | inserted _ =>
    intro entry member
    rcases mem_append.mp member with earlier | last
    · exact consistent entry earlier
    · rw [mem_singleton.mp last]
      exact HealthyBalancer.reload_consistent _
  | modified front split _ _ =>
    rw [split] at consistent
    exact forall_replaced (P := fun _ info => info.balancer.Consistent) consistent
      fun _ => HealthyBalancer.reload_consistent _

variable {self : DefaultBalancer B E}

theorem fromSlice_consistent [HashMapOrder] (returned : fromSlice profile localities = .ok self) :
    Consistent self.priorities := by
  rcases bind_eq_ok_iff.mp returned with ⟨inserted, folded, rest⟩
  rcases bind_eq_ok_iff.mp rest with ⟨priorityLevelLb, _, ⟨⟩⟩
  have consistent : Consistent inserted :=
    foldlM_invariant (fun _ priorities => Consistent priorities) []
      (fun _ consistent added => consistent.adds (addLocality_adds added))
      (by simp [Consistent]) folded
  intro entry member
  exact consistent entry ((HashMapOrder.arrange_perm inserted).mem_iff.mp member)

theorem Consistent.updateHealth (consistent : Consistent self.priorities) {id : E}
    (updated : UpdateResult profile self id health result) : Consistent result.2.priorities :=
  updated.forall_entries (P := fun _ info => info.balancer.Consistent) consistent
    fun holds updates => holds.updateHealth updates.balancer

omit [Endpoint E] in
theorem Consistent.nextItem (consistent : Consistent self.priorities) (choice : Choice E) :
    Consistent (self.nextItem choice).2.priorities :=
  nextItem_forall_entries (P := fun _ info => info.balancer.Consistent)
    (fun choice holds => holds.nextItem choice) choice consistent

end

/-! ## Choosing an endpoint -/

/-- A priority counts for something, or the highest one has a healthy endpoint. -/
def Serves (profile : BuildProfile) (priorities : Priorities B E) : Prop :=
  (∃ entry ∈ priorities, ∃ percentage,
      healthPercentage profile entry.2.healthy entry.2.total = .ok percentage ∧
        0 < percentage) ∨
    ∃ entry ∈ priorities, (∀ other ∈ priorities, entry.1 ≤ other.1) ∧
      ∃ item ∈ entry.2.balancer.items, item.health = .healthy

theorem healthy_pos {total : Nat}
    (returned : healthPercentage profile healthy total = .ok percentage)
    (positive : 0 < percentage) : 0 < healthy := by
  rcases Nat.eq_zero_or_pos healthy with rfl | some
  · rcases bind_eq_ok_iff.mp returned with ⟨product, ⟨⟩, quotient⟩
    unfold U32.div at quotient
    split_ifs at quotient
    cases quotient
    simp at positive
  · exact some

theorem Counts.exists_healthy (counts : Counts info) (positive : 0 < info.healthy) :
    ∃ item ∈ info.balancer.items, item.health = .healthy := by
  have counted : 0 < healthyCount info.balancer.items := by
    have healthy := counts.healthy
    have bound := mod_le (healthyCount info.balancer.items) U32.limit
    omega
  rcases countP_pos_iff.mp counted with ⟨item, member, healthy⟩
  exact ⟨item, member, of_decide_eq_true healthy⟩

section

variable {self : DefaultBalancer B E}

section

variable {loads : List (Nat × Nat)}
  (weighted : Weighted profile (sortByPriority (counters self.priorities)) loads)
  (same : self.priorityLevelLb.identities = loads.map Prod.swap)
  (balanced : Balanced self.priorityLevelLb.items)

include weighted same balanced

theorem nextItem_of_load (loaded : ∃ load ∈ loads, 0 < load.2) :
    ∃ entry ∈ self.priorities, self.priorityLevelLb.nextItem.1 = some entry.1 ∧
      ∃ percentage,
        healthPercentage profile entry.2.healthy entry.2.total = .ok percentage ∧
          0 < percentage := by
  rcases (balanced.nextItem (roomy_of_weighted weighted same).contained
    ((exists_weight_iff same).mpr loaded)).2 with ⟨weight, priority, chosen, positive, known⟩
  rw [same] at known
  rcases mem_map.mp known with ⟨load, listed, ⟨⟩⟩
  rcases partner_of_right weighted.matched listed with
    ⟨counter, sorted, key, percentage, returned, zero⟩
  rcases mem_map.mp (mem_sortByPriority.mp sorted) with ⟨entry, member, rfl⟩
  refine ⟨entry, member, ?_, percentage, returned, ?_⟩
  · rw [chosen, ← key]
  · apply pos_of_ne_zero
    intro none
    exact absurd (zero none) (by omega)

/-- No load is positive: then the highest priority is chosen, if there is one. -/
theorem nextItem_of_no_load (unloaded : ¬ ∃ load ∈ loads, 0 < load.2) :
    (self.priorities = [] ∧ self.priorityLevelLb.nextItem.1 = none) ∨
      ∃ entry ∈ self.priorities, self.priorityLevelLb.nextItem.1 = some entry.1 ∧
        ∀ other ∈ self.priorities, entry.1 ≤ other.1 := by
  have next := weightless balanced fun positive => unloaded ((exists_weight_iff same).mp positive)
  have head : self.priorityLevelLb.items.head?.map WrrLbItem.item = loads.head?.map Prod.fst := by
    have heads := congrArg (fun list => list.head?.map Prod.snd) same
    simp only [identities, head?_map, Option.map_map] at heads
    exact heads
  rw [next, head]
  have matched := weighted.matched
  cases sorted : sortByPriority (counters self.priorities) with
  | nil =>
    rw [sorted] at matched
    cases matched
    refine .inl ⟨?_, rfl⟩
    have empty : counters self.priorities = [] := by
      rw [eq_nil_iff_forall_not_mem]
      intro counter listed
      rw [← mem_sortByPriority, sorted] at listed
      cases listed
    exact map_eq_nil_iff.mp empty
  | cons counter rest =>
    rw [sorted] at matched
    cases matched with
    | cons first _ =>
      have listed : counter ∈ counters self.priorities :=
        mem_sortByPriority.mp (sorted ▸ mem_cons_self)
      rcases mem_map.mp listed with ⟨entry, member, rfl⟩
      refine .inr ⟨entry, member, by rw [head?_cons, map_some, ← first.1], ?_⟩
      intro other known
      exact sortByPriority_cons sorted _ (mem_map_of_mem known)

end

variable [Balancer B E] [LawfulBalancer B E]

theorem nextItem_isSome_of_priority (nodup : (self.priorities.map Prod.fst).Nodup)
    (consistent : Consistent self.priorities) (member : entry ∈ self.priorities)
    (chosen : self.priorityLevelLb.nextItem.1 = some entry.1) (choice : Choice E) :
    (self.nextItem choice).1.isSome ↔ ∃ item ∈ entry.2.balancer.items, item.health = .healthy := by
  rcases nextIn_of_mem choice (mem_map_of_mem (f := Prod.fst) member) with
    ⟨front, info, back, split, _, next⟩
  have same : (entry.1, info) = entry :=
    inj_on_of_nodup_map nodup (by simp [split]) member rfl
  have result : (self.nextItem choice).1 = (entry.2.balancer.nextItem choice).1 := by
    unfold nextItem
    split
    · rename_i lb none
      rw [none] at chosen
      cases chosen
    · rename_i priority lb some
      rw [some] at chosen
      cases chosen
      rw [next, ← same]
  rw [result]
  exact (consistent entry member).nextItem_isSome choice

/-- An endpoint is found exactly when a priority counts for something or the highest
one has a healthy endpoint. -/
theorem nextItem_isSome (weighs : Weighs profile self) (tracks : Tracks localities self.priorities)
    (consistent : Consistent self.priorities) (choice : Choice E) :
    (self.nextItem choice).1.isSome ↔ Serves profile self.priorities := by
  rcases weighs with ⟨loads, weighted, same, balanced⟩
  by_cases loaded : ∃ load ∈ loads, 0 < load.2
  · rcases nextItem_of_load weighted same balanced loaded with
      ⟨entry, member, chosen, percentage, returned, positive⟩
    rw [nextItem_isSome_of_priority tracks.nodup consistent member chosen]
    constructor
    · exact fun _ => .inl ⟨entry, member, percentage, returned, positive⟩
    · exact fun _ => (tracks.counts entry member).exists_healthy (healthy_pos returned positive)
  · have unhealthy : ¬ ∃ entry ∈ self.priorities, ∃ percentage,
        healthPercentage profile entry.2.healthy entry.2.total = .ok percentage ∧
          0 < percentage := by
      rintro ⟨entry, member, percentage, returned, positive⟩
      exact loaded (weighted.started (entry.1, ⟨(), entry.2.healthy, entry.2.total⟩)
        (mem_sortByPriority.mpr (mem_map_of_mem member)) percentage returned positive)
    rcases nextItem_of_no_load weighted same balanced loaded with
      ⟨empty, unchosen⟩ | ⟨entry, member, chosen, highest⟩
    · have nothing : (self.nextItem choice).1 = none := by
        unfold nextItem
        split
        · rfl
        · rename_i priority lb some
          rw [some] at unchosen
          cases unchosen
      simp [nothing, Serves, empty]
    · rw [nextItem_isSome_of_priority tracks.nodup consistent member chosen]
      constructor
      · exact fun healthy => .inr ⟨entry, member, highest, healthy⟩
      · rintro (some | ⟨other, known, first, healthy⟩)
        · exact absurd some unhealthy
        · have equal : other = entry := inj_on_of_nodup_map tracks.nodup known member
            (le_antisymm (first entry member) (highest other known))
          exact equal ▸ healthy

end

/-! ## Runs -/

section

variable [Endpoint E] [Balancer B E] [LawfulBalancer B E]

structure Valid (profile : BuildProfile) (localities : List (LocalityEndpoints E))
    (balancer : DefaultBalancer B E) : Prop where
  weighs : Weighs profile balancer
  tracks : Tracks localities balancer.priorities
  consistent : Consistent balancer.priorities

theorem fromSlice_valid [HashMapOrder] {self : DefaultBalancer B E}
    (counted : ∀ locality ∈ localities, locality.Counted)
    (returned : fromSlice profile localities = .ok self) : Valid profile localities self := by
  rcases fromSlice_built counted returned with ⟨built, recalculated⟩
  exact ⟨recalculate_weighs recalculated, built.tracks, fromSlice_consistent returned⟩

omit [LawfulBalancer B E] in
theorem Weighs.updateHealth {self : DefaultBalancer B E} (weighs : Weighs profile self) {id : E}
    (updated : UpdateResult profile self id health result) : Weighs profile result.2 := by
  cases updated with
  | missing _ => exact weighs
  | @found outcome front priority before after back next split splitNext _ updates lb =>
    cases outcome with
    | updated => exact recalculate_weighs lb
    | notUpdated =>
      rcases weighs with ⟨loads, weighted, same, balanced⟩
      have counters : counters next.priorities = counters self.priorities := by
        rw [splitNext, split]
        simp [Priority.counters, updates.total, updates.healthy]
      exact ⟨loads, counters ▸ weighted, lb ▸ same, lb ▸ balanced⟩

theorem Valid.step {state next : DefaultBalancer B E} {event : BalancerEvent E}
    {emitted : List (Option E)} (valid : Valid profile localities state)
    (taken : (machine profile).step state event = some (next, emitted)) :
    Valid profile localities next := by
  cases event with
  | nextItem choice =>
    cases taken
    exact ⟨valid.weighs.nextItem choice, valid.tracks.nextItem choice,
      valid.consistent.nextItem choice⟩
  | updateHealth id health =>
    simp only [machine] at taken
    cases returned : state.updateHealth profile id health with
    | error panic =>
      rw [returned] at taken
      cases taken
    | ok result =>
      rw [returned] at taken
      cases taken
      have updated := updateHealth_result returned
      exact ⟨valid.weighs.updateHealth updated, valid.tracks.updateHealth updated,
        valid.consistent.updateHealth updated⟩

theorem Valid.run {state : DefaultBalancer B E} (valid : Valid profile localities initial)
    (run : (machine profile).Run Machine.anyStep initial events outputs state) :
    Valid profile localities state :=
  run.stateInvariant (Valid profile localities) valid fun valid _ taken => valid.step taken

end

end DefaultBalancer

end Orion.Clusters
