import Orion.Clusters.Balancers.RoundRobin
import Orion.Foundation.Fallible

/-! # The default balancer

A choice is made in two steps: round robin over the priorities, by their loads, and
then the balancer of the priority over its healthy endpoints.
-/

namespace Orion.Clusters

open Foundation List Endpoint
open Option hiding choice

/-! ## Priorities

The share of the traffic that each priority gets, from how many of its endpoints
are healthy.
-/

structure PriorityInfo (B : Type) where
  balancer : B
  healthy : Nat
  total : Nat

namespace Priority

/-- The integer expression `100 * healthy / total`. -/
def healthPercentage (profile : BuildProfile) (healthy total : Nat) : Except Panic Nat := do
  let scaled ← U32.mul profile 100 healthy
  U32.div scaled total

def overprovisioned (percentage : Nat) : Binary64 :=
  Binary64.min (.ofExact 100) (.ofExact (7 / 5) * .ofNat percentage)

def calculatePriorityHealth (profile : BuildProfile) (healthy total : Nat) :
    Except Panic Binary64 :=
  (healthPercentage profile healthy total).map overprovisioned

/-- What a priority would get of the whole traffic. -/
def normalizedHealth (normalizedTotalHealth health : Binary64) : Binary64 :=
  health * .ofExact 100 / normalizedTotalHealth

/-- Append the load of one more priority, which gets what the ones before left. -/
def pushLoad (normalizedTotalHealth : Binary64) (loads : List (Nat × Binary64))
    (entry : Nat × Binary64) : List (Nat × Binary64) :=
  let load := .ofExact 100 - Binary64.sum (loads.map Prod.snd)
  loads ++ [(entry.1, load.min (normalizedHealth normalizedTotalHealth entry.2))]

def spreadLoads : List (Nat × Binary64) → List (Nat × Binary64)
  | [] => []
  | (priority, health) :: rest =>
    let normalizedTotalHealth :=
      Binary64.min (.ofExact 100)
        (Binary64.sum (((priority, health) :: rest).map Prod.snd))
    rest.foldl (pushLoad normalizedTotalHealth)
      [(priority, normalizedHealth normalizedTotalHealth health)]

/-- `f64::round(load) as u32`. -/
def loadWeight (load : Binary64) : Nat := load.round.toNatBelow U32.limit

def sortByPriority (endpoints : List (Nat × α)) : List (Nat × α) :=
  endpoints.insertionSort fun left right => left.1 ≤ right.1

theorem mem_sortByPriority : entry ∈ sortByPriority endpoints ↔ entry ∈ endpoints :=
  mem_insertionSort _

theorem sortByPriority_cons (sorted : sortByPriority endpoints = first :: rest) :
    ∀ other ∈ endpoints, first.1 ≤ other.1 := by
  have ordered : (sortByPriority endpoints).Pairwise fun left right => left.1 ≤ right.1 :=
    pairwise_insertionSort _ endpoints
  rw [sorted, pairwise_cons] at ordered
  intro other member
  have listed := mem_sortByPriority.mpr member
  rw [sorted] at listed
  rcases mem_cons.mp listed with rfl | later
  · exact le_refl _
  · exact ordered.1 other later

def healthOf (profile : BuildProfile) (entry : Nat × PriorityInfo B) :
    Except Panic (Nat × Binary64) :=
  (calculatePriorityHealth profile entry.2.healthy entry.2.total).map fun health =>
    (entry.1, health)

def calculatePriorityLoads (profile : BuildProfile)
    (endpoints : List (Nat × PriorityInfo B)) : Except Panic (List (Nat × Nat)) := do
  let priorityHealth ← (sortByPriority endpoints).mapM (healthOf profile)
  return (spreadLoads priorityHealth).map fun load => (load.1, loadWeight load.2)

end Priority

/-! ## Choosing among healthy endpoints

A balancer is rebuilt from the endpoints that are healthy each time one of them
changes its health.
-/

structure HealthLbItem (E : Type) where
  item : E
  health : HealthStatus

def healthyEndpoints (items : List (HealthLbItem E)) : List E :=
  (items.filter fun item => item.health.isHealthy).map HealthLbItem.item

/-- `LbItem::new(item.health(), item)`. -/
def HealthLbItem.ofEndpoint {E : Type} [Endpoint E] (endpoint : E) : HealthLbItem E :=
  ⟨endpoint, Endpoint.health endpoint⟩

def updateFirst {E : Type} [Endpoint E] (id : E) (health : HealthStatus) :
    List (HealthLbItem E) → Option (ValueUpdated × List (HealthLbItem E))
  | [] => none
  | item :: rest =>
    if same id item.item then
      let (status, outcome) := item.health.updateHealth health
      some (outcome, { item with health := status } :: rest)
    else
      (updateFirst id health rest).map fun (outcome, items) => (outcome, item :: items)

structure HealthyBalancer (B E : Type) where
  items : List (HealthLbItem E)
  balancer : B

namespace HealthyBalancer

variable {B E : Type} [Endpoint E] [Balancer B E]

def reload (self : HealthyBalancer B E) : HealthyBalancer B E :=
  { self with balancer := Balancer.fromIter (healthyEndpoints self.items) }

def new (items : List (HealthLbItem E)) : HealthyBalancer B E :=
  reload ⟨items, Balancer.fromIter []⟩

def fromIter (endpoints : List E) : HealthyBalancer B E :=
  new (endpoints.map HealthLbItem.ofEndpoint)

def extend (self : HealthyBalancer B E) (endpoints : List E) : HealthyBalancer B E :=
  reload { self with items := self.items ++ endpoints.map HealthLbItem.ofEndpoint }

def nextItem (self : HealthyBalancer B E) (choice : Choice E) : Option E × HealthyBalancer B E :=
  let (endpoint, balancer) := Balancer.nextItem self.balancer choice
  (endpoint, { self with balancer := balancer })

/-- `none` is the error that there is no such endpoint. -/
def updateHealth (self : HealthyBalancer B E) (id : E) (health : HealthStatus) :
    Option (ValueUpdated × HealthyBalancer B E) :=
  match updateFirst id health self.items with
  | none => none
  | some (.updated, items) => some (.updated, reload { self with items := items })
  | some (.notUpdated, items) => some (.notUpdated, { self with items := items })

end HealthyBalancer

/-! ## What an update changes -/

section

variable {E : Type} [Endpoint E] {id : E} {health : HealthStatus}

/-- How an item may differ after an update for `id`: it is as before, or has the
health of the update and is equal to `id`. -/
def ChangesFor (id : E) (health : HealthStatus) (before after : HealthLbItem E) : Prop :=
  after.item = before.item ∧
    (after.health = before.health ∨
      (same id before.item = true ∧ after.health = health))

theorem ChangesFor.refl (item : HealthLbItem E) : ChangesFor id health item item :=
  ⟨rfl, .inl rfl⟩

theorem updateHealth_status (status health : HealthStatus) :
    (status.updateHealth health).1 = health := by
  unfold HealthStatus.updateHealth
  split_ifs with equal
  · exact equal
  · rfl

variable {items next : List (HealthLbItem E)}

theorem updateFirst_changes (found : updateFirst id health items = some (outcome, next)) :
    List.Forall₂ (ChangesFor id health) items next := by
  induction items generalizing next with
  | nil => cases found
  | cons item rest induction =>
    rw [updateFirst] at found
    split_ifs at found with equal
    · cases found
      refine .cons ⟨rfl, .inr ⟨equal, updateHealth_status _ _⟩⟩ ?_
      exact forall₂_same.mpr fun other _ => ChangesFor.refl other
    · rcases map_eq_some_iff.mp found with ⟨⟨_, items⟩, later, ⟨⟩⟩
      exact .cons (ChangesFor.refl item) (induction later)

theorem updateFirst_isSome (id : E) (health : HealthStatus) (items : List (HealthLbItem E)) :
    (updateFirst id health items).isSome ↔ ∃ item ∈ items, same id item.item := by
  induction items with
  | nil => simp [updateFirst]
  | cons item rest induction =>
    rw [updateFirst]
    by_cases equal : same id item.item
    · simp [equal]
    · rw [if_neg equal, isSome_map, induction]
      simp [equal]

/-- If no two items are equal to `id`, all that are equal to it get the health. -/
theorem updateFirst_reaches (found : updateFirst id health items = some (outcome, next))
    (once : items.countP (fun item => same id item.item) ≤ 1) :
    ∀ item ∈ next, same id item.item → item.health = health := by
  induction items generalizing next with
  | nil => cases found
  | cons item rest induction =>
    rw [updateFirst] at found
    rw [countP_cons] at once
    split_ifs at found with equal
    · cases found
      intro other member equalOther
      rcases mem_cons.mp member with rfl | later
      · exact updateHealth_status _ _
      · have counted : 0 < rest.countP fun item => same id item.item :=
          countP_pos_iff.mpr ⟨other, later, equalOther⟩
        rw [if_pos equal] at once
        omega
    · rcases map_eq_some_iff.mp found with ⟨⟨_, items⟩, later, ⟨⟩⟩
      intro other member equalOther
      rcases mem_cons.mp member with rfl | known
      · exact absurd equalOther equal
      · rw [if_neg equal] at once
        exact induction later once other known equalOther

def healthyCount (items : List (HealthLbItem E)) : Nat :=
  items.countP fun item => item.health.isHealthy

theorem updateFirst_healthyCount (found : updateFirst id health items = some (.updated, next)) :
    if health.isHealthy then healthyCount next = healthyCount items + 1
    else healthyCount items = healthyCount next + 1 := by
  induction items generalizing next with
  | nil => cases found
  | cons item rest induction =>
    rw [updateFirst] at found
    split_ifs at found with equal
    · unfold HealthStatus.updateHealth at found
      split_ifs at found with same
      · cases found
      · cases found
        cases health <;> cases status : item.health <;>
          simp_all [healthyCount, HealthStatus.isHealthy]
    · rcases map_eq_some_iff.mp found with ⟨⟨_, items⟩, later, ⟨⟩⟩
      have moved := induction later
      simp only [healthyCount, countP_cons] at moved ⊢
      split_ifs at moved ⊢ <;> omega

theorem updateFirst_notUpdated
    (found : updateFirst id health items = some (.notUpdated, next)) : next = items := by
  induction items generalizing next with
  | nil => cases found
  | cons item rest induction =>
    rw [updateFirst] at found
    split_ifs at found with equal
    · unfold HealthStatus.updateHealth at found
      split_ifs at found with same
      · cases found
        rfl
      · cases found
    · rcases map_eq_some_iff.mp found with ⟨⟨_, items⟩, later, ⟨⟩⟩
      rw [induction later]

end

namespace HealthyBalancer

variable {B E : Type} [Balancer B E]

section

variable [LawfulBalancer B E]

/-- The inner balancer chooses among the healthy items. -/
def Consistent (self : HealthyBalancer B E) : Prop :=
  LawfulBalancer.BuiltFrom (healthyEndpoints self.items) self.balancer

theorem reload_consistent (self : HealthyBalancer B E) : self.reload.Consistent :=
  LawfulBalancer.fromIter_builtFrom _

variable {self : HealthyBalancer B E}

theorem Consistent.nextItem (consistent : self.Consistent)
    (choice : Choice E) : (self.nextItem choice).2.Consistent :=
  LawfulBalancer.nextItem_builtFrom choice consistent

theorem Consistent.nextItem_healthy (consistent : self.Consistent)
    (chosen : (self.nextItem choice).1 = some endpoint) :
    ∃ item ∈ self.items, item.item = endpoint ∧ item.health = .healthy := by
  have member := LawfulBalancer.nextItem_mem consistent chosen
  rcases mem_map.mp member with ⟨item, filtered, rfl⟩
  rcases mem_filter.mp filtered with ⟨known, healthy⟩
  exact ⟨item, known, rfl, of_decide_eq_true healthy⟩

theorem Consistent.nextItem_isSome (consistent : self.Consistent) (choice : Choice E) :
    (self.nextItem choice).1.isSome ↔ ∃ item ∈ self.items, item.health = .healthy := by
  constructor
  · intro found
    rcases isSome_iff_exists.mp found with ⟨endpoint, chosen⟩
    rcases consistent.nextItem_healthy chosen with ⟨item, known, _, healthy⟩
    exact ⟨item, known, healthy⟩
  · rintro ⟨item, known, healthy⟩
    apply LawfulBalancer.nextItem_isSome choice consistent
    apply ne_nil_of_mem (mem_map_of_mem (mem_filter.mpr ⟨known, ?_⟩))
    simp [HealthStatus.isHealthy, healthy]

end

variable [Endpoint E]

theorem updateHealth_eq {self next : HealthyBalancer B E} {id : E} {health : HealthStatus}
    {outcome : ValueUpdated} (found : self.updateHealth id health = some (outcome, next)) :
    updateFirst id health self.items = some (outcome, next.items) := by
  unfold updateHealth at found
  split at found
  · cases found
  · rename_i items first
    cases found
    exact first
  · rename_i items first
    cases found
    exact first

theorem Consistent.updateHealth [LawfulBalancer B E] {self next : HealthyBalancer B E}
    (consistent : self.Consistent) {id : E} {health : HealthStatus} {outcome : ValueUpdated}
    (found : self.updateHealth id health = some (outcome, next)) : next.Consistent := by
  unfold HealthyBalancer.updateHealth at found
  split at found
  · cases found
  · cases found
    exact reload_consistent _
  · rename_i items first
    cases found
    rw [updateFirst_notUpdated first]
    exact consistent

end HealthyBalancer

/-- The endpoints of a locality, as far as the balancers read them. -/
structure LocalityEndpoints (E : Type) where
  endpoints : List E
  priority : Nat
  healthyEndpoints : Nat
  totalEndpoints : Nat

/-- The counts with which a locality is built from its endpoints. A percentage of them
has to fit in 32 bits. -/
def LocalityEndpoints.build {E : Type} [Endpoint E] (priority : Nat) (endpoints : List E) :
    Except Text (LocalityEndpoints E) :=
  let totalEndpoints := endpoints.length
  let healthyEndpoints := endpoints.countP fun endpoint =>
    (Endpoint.health endpoint).isHealthy
  if U32.limit ≤ totalEndpoints ∨ U32.limit ≤ healthyEndpoints then
    .error "Too many endpoints".toList
  else if (U32.limit - 1) / 100 < healthyEndpoints then
    .error "Too many endpoints".toList
  else
    .ok ⟨endpoints, priority, healthyEndpoints, totalEndpoints⟩

/-- The order in which a hash map visits its entries, given in the order of their
insertion. -/
class HashMapOrder where
  arrange : {V : Type} → List (Nat × V) → List (Nat × V)
  arrange_perm : ∀ {V : Type} (entries : List (Nat × V)), (arrange entries).Perm entries

@[reducible] def HashMapOrder.insertion : HashMapOrder where
  arrange entries := entries
  arrange_perm _ := .refl _

/-- The entries of `priorities`, in the order of the hash map. -/
abbrev Priorities (B E : Type) := List (Nat × PriorityInfo (HealthyBalancer B E))

structure DefaultBalancer (B E : Type) where
  priorityLevelLb : WeightedRoundRobinBalancer Nat
  priorities : Priorities B E

namespace DefaultBalancer

variable {B E : Type} [Endpoint E] [Balancer B E]

def recalculatePriorityLoadFactors (profile : BuildProfile) (priorities : Priorities B E) :
    Except Panic (WeightedRoundRobinBalancer Nat) := do
  let priorityLoadWeights ← Priority.calculatePriorityLoads profile priorities
  return .new (priorityLoadWeights.map fun load => WrrLbItem.new load.2 load.1)

/-- `entry(..).and_modify(..).or_insert(..)` for one locality. -/
def addLocality (profile : BuildProfile) :
    Priorities B E → LocalityEndpoints E → Except Panic (Priorities B E)
  | [], locality =>
    .ok [(locality.priority,
      ⟨.fromIter locality.endpoints, locality.healthyEndpoints, locality.totalEndpoints⟩)]
  | (priority, info) :: rest, locality =>
    if priority = locality.priority then do
      let healthy ← U32.add profile info.healthy locality.healthyEndpoints
      let total ← U32.add profile info.total locality.totalEndpoints
      return (priority, ⟨info.balancer.extend locality.endpoints, healthy, total⟩) :: rest
    else do
      return (priority, info) :: (← addLocality profile rest locality)

def fromSlice [HashMapOrder] (profile : BuildProfile)
    (endpoints : List (LocalityEndpoints E)) : Except Panic (DefaultBalancer B E) := do
  let inserted ← endpoints.foldlM (addLocality profile) []
  let priorities := HashMapOrder.arrange inserted
  return ⟨← recalculatePriorityLoadFactors profile priorities, priorities⟩

def adjustHealthy (profile : BuildProfile) (health : HealthStatus) (healthy : Nat) :
    Except Panic Nat :=
  if health.isHealthy then U32.add profile healthy 1 else U32.sub profile healthy 1

/-- Update the first priority that has the endpoint; `none` if no priority has it. -/
def updatePriorities (profile : BuildProfile) (id : E) (health : HealthStatus) :
    Priorities B E → Except Panic (Option (ValueUpdated × Priorities B E))
  | [] => .ok none
  | (priority, info) :: rest =>
    match info.balancer.updateHealth id health with
    | some (.notUpdated, balancer) =>
      .ok (some (.notUpdated, (priority, { info with balancer := balancer }) :: rest))
    | some (.updated, balancer) => do
        let healthy ← adjustHealthy profile health info.healthy
        return some (.updated, (priority, ⟨balancer, healthy, info.total⟩) :: rest)
    | none => do
        let later ← updatePriorities profile id health rest
        return later.map fun (outcome, rest) => (outcome, (priority, info) :: rest)

/-- `none` is the error that there is no such endpoint. -/
def updateHealth (profile : BuildProfile) (self : DefaultBalancer B E) (id : E)
    (health : HealthStatus) : Except Panic (Option ValueUpdated × DefaultBalancer B E) := do
  match ← updatePriorities profile id health self.priorities with
  | none => return (none, self)
  | some (.notUpdated, priorities) =>
    return (some .notUpdated, { self with priorities := priorities })
  | some (.updated, priorities) =>
    return (some .updated,
      ⟨← recalculatePriorityLoadFactors profile priorities, priorities⟩)

def nextIn (priority : Nat) (choice : Choice E) : Priorities B E → Option E × Priorities B E
  | [] => (none, [])
  | (other, info) :: rest =>
    if other = priority then
      let (endpoint, balancer) := info.balancer.nextItem choice
      (endpoint, (other, { info with balancer := balancer }) :: rest)
    else
      let (endpoint, rest) := nextIn priority choice rest
      (endpoint, (other, info) :: rest)

def nextItem (self : DefaultBalancer B E) (choice : Choice E) : Option E × DefaultBalancer B E :=
  match self.priorityLevelLb.nextItem with
  | (none, priorityLevelLb) => (none, { self with priorityLevelLb := priorityLevelLb })
  | (some priority, priorityLevelLb) =>
    let (endpoint, priorities) := nextIn priority choice self.priorities
    (endpoint, ⟨priorityLevelLb, priorities⟩)

/-! ## What an update changes -/

structure Updates (profile : BuildProfile) (id : E) (health : HealthStatus)
    (outcome : ValueUpdated) (before after : PriorityInfo (HealthyBalancer B E)) : Prop where
  balancer : before.balancer.updateHealth id health = some (outcome, after.balancer)
  total : after.total = before.total
  healthy : match outcome with
    | .notUpdated => after.healthy = before.healthy
    | .updated => adjustHealthy profile health before.healthy = .ok after.healthy

variable {profile : BuildProfile} {id : E} {health : HealthStatus} {priorities next : Priorities B E}

/-- An update goes to the first priority that has the endpoint, and leaves the others
as they are. -/
theorem updatePriorities_eq_some
    (returned : updatePriorities profile id health priorities = .ok (some (outcome, next))) :
    ∃ front priority before after back,
      priorities = front ++ (priority, before) :: back ∧
      next = front ++ (priority, after) :: back ∧
      (∀ entry ∈ front, entry.2.balancer.updateHealth id health = none) ∧
      Updates profile id health outcome before after := by
  induction priorities generalizing next with
  | nil => cases returned
  | cons entry rest induction =>
    rcases entry with ⟨priority, info⟩
    unfold updatePriorities at returned
    cases found : info.balancer.updateHealth id health with
    | none =>
      simp only [found] at returned
      rcases bind_eq_ok_iff.mp returned with ⟨result, later, same⟩
      rcases result with _ | ⟨outcome', rest'⟩
      · cases same
      · cases same
        rcases induction later with
          ⟨front, other, before, after, back, split, splitNext, absent, updates⟩
        refine ⟨(priority, info) :: front, other, before, after, back, ?_, ?_, ?_, updates⟩
        · rw [split]
          rfl
        · rw [splitNext]
          rfl
        · intro entry member
          rcases mem_cons.mp member with rfl | earlier
          · exact found
          · exact absent entry earlier
    | some result =>
      rcases result with ⟨updated | notUpdated, balancer⟩
      · simp only [found] at returned
        rcases bind_eq_ok_iff.mp returned with ⟨healthy, adjusted, ⟨⟩⟩
        exact ⟨[], priority, info, _, rest, rfl, rfl, by simp, found, rfl, adjusted⟩
      · simp only [found] at returned
        cases returned
        exact ⟨[], priority, info, _, rest, rfl, rfl, by simp, found, rfl, rfl⟩

theorem updatePriorities_eq_none
    (returned : updatePriorities profile id health priorities = .ok none) :
    ∀ entry ∈ priorities, entry.2.balancer.updateHealth id health = none := by
  induction priorities with
  | nil => simp
  | cons entry rest induction =>
    rcases entry with ⟨priority, info⟩
    unfold updatePriorities at returned
    cases found : info.balancer.updateHealth id health with
    | none =>
      simp only [found] at returned
      rcases bind_eq_ok_iff.mp returned with ⟨result, later, same⟩
      rcases result with _ | ⟨outcome, rest'⟩
      · intro entry member
        rcases mem_cons.mp member with rfl | earlier
        · exact found
        · exact induction later entry earlier
      · cases same
    | some result =>
      rcases result with ⟨updated | notUpdated, balancer⟩
      · simp only [found] at returned
        rcases bind_eq_ok_iff.mp returned with ⟨_, _, ⟨⟩⟩
      · simp only [found] at returned
        cases returned

inductive UpdateResult (profile : BuildProfile) (self : DefaultBalancer B E) (id : E)
    (health : HealthStatus) : Option ValueUpdated × DefaultBalancer B E → Prop
  | missing :
      (∀ entry ∈ self.priorities, entry.2.balancer.updateHealth id health = none) →
      UpdateResult profile self id health (none, self)
  | found {outcome front priority before after back next} :
      self.priorities = front ++ (priority, before) :: back →
      next.priorities = front ++ (priority, after) :: back →
      (∀ entry ∈ front, entry.2.balancer.updateHealth id health = none) →
      Updates profile id health outcome before after →
      (match outcome with
        | .notUpdated => next.priorityLevelLb = self.priorityLevelLb
        | .updated => recalculatePriorityLoadFactors profile next.priorities =
            .ok next.priorityLevelLb) →
      UpdateResult profile self id health (some outcome, next)

theorem updateHealth_result {self : DefaultBalancer B E}
    (returned : self.updateHealth profile id health = .ok result) :
    UpdateResult profile self id health result := by
  rcases bind_eq_ok_iff.mp returned with ⟨next, found, rest⟩
  rcases next with _ | ⟨updated | notUpdated, priorities⟩
  · cases rest
    exact .missing (updatePriorities_eq_none found)
  · rcases updatePriorities_eq_some found with
      ⟨front, priority, before, after, back, split, splitNext, absent, updates⟩
    rcases bind_eq_ok_iff.mp rest with ⟨priorityLevelLb, recalculated, ⟨⟩⟩
    exact .found split splitNext absent updates recalculated
  · rcases updatePriorities_eq_some found with
      ⟨front, priority, before, after, back, split, splitNext, absent, updates⟩
    cases rest
    exact .found split splitNext absent updates rfl

/-! ## What a choice changes -/

omit [Endpoint E] in
theorem nextIn_of_mem (choice : Choice E) (known : priority ∈ priorities.map Prod.fst) :
    ∃ front info back,
      priorities = front ++ (priority, info) :: back ∧
      priority ∉ front.map Prod.fst ∧
      nextIn priority choice priorities =
        ((info.balancer.nextItem choice).1, front ++ (priority,
            { info with balancer := (info.balancer.nextItem choice).2 }) :: back) := by
  induction priorities with
  | nil => cases known
  | cons entry rest induction =>
    rcases entry with ⟨other, info⟩
    by_cases same : other = priority
    · subst same
      refine ⟨[], info, rest, rfl, by simp, ?_⟩
      rw [nextIn, if_pos rfl]
      rfl
    · have later : priority ∈ rest.map Prod.fst := by
        rcases mem_cons.mp known with equal | later
        · exact absurd equal.symm same
        · exact later
      rcases induction later with ⟨front, chosen, back, split, fresh, next⟩
      refine ⟨(other, info) :: front, chosen, back, ?_, ?_, ?_⟩
      · rw [split]
        rfl
      · simp only [map_cons, mem_cons, not_or]
        exact ⟨Ne.symm same, fresh⟩
      · rw [nextIn, if_neg same, next]
        rfl

/-! ## What a locality adds -/

/-- One more locality: a new priority at the end, or more endpoints for one that
exists. -/
inductive Adds (profile : BuildProfile) (locality : LocalityEndpoints E)
    (priorities : Priorities B E) : Priorities B E → Prop
  | inserted :
      locality.priority ∉ priorities.map Prod.fst →
      Adds profile locality priorities
        (priorities ++ [(locality.priority, ⟨.fromIter locality.endpoints,
          locality.healthyEndpoints, locality.totalEndpoints⟩)])
  | modified (front) {info back healthy total} :
      priorities = front ++ (locality.priority, info) :: back →
      U32.add profile info.healthy locality.healthyEndpoints = .ok healthy →
      U32.add profile info.total locality.totalEndpoints = .ok total →
      Adds profile locality priorities
        (front ++ (locality.priority,
          ⟨info.balancer.extend locality.endpoints, healthy, total⟩) :: back)

theorem addLocality_adds (returned : addLocality profile priorities locality = .ok next) :
    Adds profile locality priorities next := by
  induction priorities generalizing next with
  | nil =>
    cases returned
    exact .inserted (by simp)
  | cons entry rest induction =>
    rcases entry with ⟨priority, info⟩
    rw [addLocality] at returned
    split_ifs at returned with same
    · subst same
      rcases bind_eq_ok_iff.mp returned with ⟨healthy, healthySum, later⟩
      rcases bind_eq_ok_iff.mp later with ⟨total, totalSum, ⟨⟩⟩
      exact .modified [] rfl healthySum totalSum
    · rcases bind_eq_ok_iff.mp returned with ⟨rest', later, ⟨⟩⟩
      cases induction later with
      | inserted fresh => exact .inserted (by simpa [Ne.symm same] using fresh)
      | @modified front info' back healthy total split healthySum totalSum =>
        rw [split]
        exact .modified ((priority, info) :: front) rfl healthySum totalSum

end DefaultBalancer

end Orion.Clusters
