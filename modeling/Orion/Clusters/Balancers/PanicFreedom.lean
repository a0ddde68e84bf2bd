import Orion.Clusters.Balancers.PriorityLoad
import Orion.Clusters.Balancers.PriorityState

/-! # Freedom from panics

No priority without endpoints and no priority with very many of them: then no
arithmetic of the balancer can fail, however its endpoints change.
-/

namespace Orion.Clusters

open Foundation List Nat U32 HashMapOrder

/-- The largest number of which a percentage fits in 32 bits. -/
def percentageLimit : Nat := (limit - 1) / 100

theorem Priority.healthPercentage_isOk (positive : 0 < total) (small : healthy ≤ percentageLimit) :
    ∃ percentage, healthPercentage profile healthy total = .ok percentage := by
  have fits : 100 * healthy < limit := by
    unfold percentageLimit limit at small
    unfold limit
    omega
  refine ⟨100 * healthy / total, ?_⟩
  rw [healthPercentage, mul, fit_of_lt fits]
  exact if_neg positive.ne'

/-- Every priority has some endpoints, and not too many. -/
def Sized (localities : List (LocalityEndpoints E)) : Prop :=
  ∀ locality ∈ localities,
    0 < (endpointsAt localities locality.priority).length ∧
      (endpointsAt localities locality.priority).length ≤ percentageLimit

namespace DefaultBalancer

variable {B E : Type}

/-- What the counters of a priority are when it is neither empty nor too large. -/
structure Fits (info : PriorityInfo (HealthyBalancer B E)) : Prop where
  counts : Counts info
  nonempty : 0 < info.balancer.items.length
  small : info.balancer.items.length ≤ percentageLimit

variable {info : PriorityInfo (HealthyBalancer B E)}

theorem Fits.lt_limit (fits : Fits info) : info.balancer.items.length + 1 < limit := by
  have small := fits.small
  unfold percentageLimit limit at small
  unfold limit
  omega

theorem Fits.total_eq (fits : Fits info) : info.total = info.balancer.items.length := by
  have limit := fits.lt_limit
  rw [fits.counts.total, mod_eq_of_lt (by omega)]

theorem Fits.healthy_eq (fits : Fits info) :
    info.healthy = healthyCount info.balancer.items ∧
      info.healthy ≤ info.balancer.items.length := by
  have limit := fits.lt_limit
  have count : healthyCount info.balancer.items ≤ info.balancer.items.length :=
    countP_le_length
  have equal : info.healthy = healthyCount info.balancer.items := by
    rw [fits.counts.healthy, mod_eq_of_lt (by omega)]
  exact ⟨equal, equal ▸ count⟩

theorem Fits.percentage (fits : Fits info) (profile : BuildProfile) :
    ∃ percentage, Priority.healthPercentage profile info.healthy info.total = .ok percentage :=
  Priority.healthPercentage_isOk (fits.total_eq ▸ fits.nonempty)
    (fits.healthy_eq.2.trans fits.small)

variable {localities : List (LocalityEndpoints E)} {priorities : Priorities B E}

theorem Tracks.fits (tracks : Tracks localities priorities) (sized : Sized localities) :
    ∀ entry ∈ priorities, Fits entry.2 := by
  intro entry member
  have length : entry.2.balancer.items.length = (endpointsAt localities entry.1).length := by
    rw [← tracks.endpoints entry member, length_map]
  rcases (tracks.keys entry.1).mp (mem_map_of_mem member) with ⟨locality, listed, same⟩
  have size := sized locality listed
  rw [same, ← length] at size
  exact ⟨tracks.counts entry member, size.1, size.2⟩

theorem recalculate_isOk (profile : BuildProfile) (each : ∀ entry ∈ priorities, Fits entry.2) :
    ∃ priorityLevelLb, recalculatePriorityLoadFactors profile priorities = .ok priorityLevelLb := by
  rcases Priority.calculatePriorityLoads_isOk.mpr fun entry member =>
    (each entry member).percentage profile with ⟨loads, computed⟩
  exact ⟨_, by rw [recalculatePriorityLoadFactors, computed]; rfl⟩

variable [Endpoint E] [Balancer B E]

/-! ## Updates -/

theorem Fits.adjustHealthy_isOk (fits : Fits info) (profile : BuildProfile) {id : E}
    (found : info.balancer.updateHealth id health = some (.updated, balancer)) :
    ∃ healthy, adjustHealthy profile health info.healthy = .ok healthy := by
  have moved := updateFirst_healthyCount (HealthyBalancer.updateHealth_eq found)
  have counted := fits.healthy_eq
  have limit := fits.lt_limit
  unfold adjustHealthy
  split_ifs at moved ⊢ with isHealthy
  · exact ⟨_, fit_of_lt (by omega)⟩
  · exact ⟨_, sub_of_le (by omega)⟩

theorem updatePriorities_isOk (profile : BuildProfile) (id : E) (health : HealthStatus)
    (each : ∀ entry ∈ priorities, Fits entry.2) :
    ∃ result, updatePriorities profile id health priorities = .ok result := by
  induction priorities with
  | nil => exact ⟨none, rfl⟩
  | cons entry rest induction =>
    rcases entry with ⟨priority, info⟩
    unfold updatePriorities
    cases found : info.balancer.updateHealth id health with
    | none =>
      rcases induction fun entry member => each entry (by simp [member]) with ⟨result, later⟩
      exact ⟨_, by simp only [later]; rfl⟩
    | some result =>
      rcases result with ⟨updated | notUpdated, balancer⟩
      · rcases (each (priority, info) (by simp)).adjustHealthy_isOk profile found with
          ⟨healthy, adjusted⟩
        exact ⟨_, by simp only [adjusted]; rfl⟩
      · exact ⟨_, rfl⟩

theorem Fits.updates {id : E} {after : PriorityInfo (HealthyBalancer B E)}
    (fits : Fits before) (updates : Updates profile id health outcome before after) :
    Fits after := by
  have length : after.balancer.items.length = before.balancer.items.length := by
    rw [← length_map HealthLbItem.item, updates_endpoints updates, length_map]
  exact ⟨fits.counts.updates updates, length ▸ fits.nonempty, length ▸ fits.small⟩

theorem Tracks.updateHealth_isOk {self : DefaultBalancer B E}
    (tracks : Tracks localities self.priorities) (sized : Sized localities)
    (profile : BuildProfile) (id : E) (health : HealthStatus) :
    ∃ result, self.updateHealth profile id health = .ok result := by
  have fits := tracks.fits sized
  rcases updatePriorities_isOk profile id health fits with ⟨result, found⟩
  rw [DefaultBalancer.updateHealth, found]
  rcases result with _ | ⟨updated | notUpdated, priorities⟩
  · exact ⟨_, rfl⟩
  · rcases updatePriorities_eq_some found with
      ⟨front, priority, before, after, back, split, splitNext, _, updates⟩
    have fitsNext : ∀ entry ∈ priorities, Fits entry.2 := by
      rw [split] at fits
      rw [splitNext]
      exact forall_replaced (P := fun _ info => Fits info) fits fun holds =>
        holds.updates updates
    rcases recalculate_isOk profile fitsNext with ⟨priorityLevelLb, recalculated⟩
    exact ⟨_, by simp only [bind, Except.bind, recalculated]; rfl⟩
  · exact ⟨_, rfl⟩

/-! ## Construction -/

theorem addLocality_isOk (profile : BuildProfile)
    (room : ∀ entry ∈ priorities, entry.1 = locality.priority →
      entry.2.healthy + locality.healthyEndpoints < limit ∧
        entry.2.total + locality.totalEndpoints < limit) :
    ∃ next, addLocality profile priorities locality = .ok next := by
  induction priorities with
  | nil => exact ⟨_, rfl⟩
  | cons entry rest induction =>
    rcases entry with ⟨priority, info⟩
    rw [addLocality]
    split_ifs with same
    · rcases room (priority, info) (by simp) same with ⟨healthyRoom, totalRoom⟩
      rw [add, add, fit_of_lt healthyRoom, fit_of_lt totalRoom]
      exact ⟨_, rfl⟩
    · rcases induction fun entry member => room entry (by simp [member]) with ⟨next, added⟩
      rw [added]
      exact ⟨_, rfl⟩

omit [Balancer B E] in
/-- There is room for one more locality as long as all endpoints of its priority fit. -/
theorem Built.room (built : Built localities priorities) (counted : locality.Counted)
    (small : (endpointsAt (localities ++ [locality]) locality.priority).length < limit) :
    ∀ entry ∈ priorities, entry.1 = locality.priority →
      entry.2.healthy + locality.healthyEndpoints < limit ∧
        entry.2.total + locality.totalEndpoints < limit := by
  intro entry member same
  have items : entry.2.balancer.items.length =
      (endpointsAt localities locality.priority).length := by
    rw [built.items entry member, length_map, same]
  have healthyLe : locality.healthyEndpoints ≤ locality.endpoints.length := by
    rw [counted.healthy]
    exact countP_le_length
  have count : healthyCount entry.2.balancer.items ≤ entry.2.balancer.items.length :=
    countP_le_length
  have healthy := mod_le (healthyCount entry.2.balancer.items) limit
  have total := mod_le entry.2.balancer.items.length limit
  have counts := built.counts entry member
  rw [← counts.healthy] at healthy
  rw [← counts.total] at total
  rw [endpointsAt_append, endpointsAt_singleton, if_pos rfl, length_append] at small
  have totalEq := counted.total
  omega

theorem fromSlice_isOk [HashMapOrder] (profile : BuildProfile)
    (counted : ∀ locality ∈ localities, locality.Counted) (sized : Sized localities) :
    ∃ self : DefaultBalancer B E, fromSlice profile localities = .ok self := by
  have folds : ∃ inserted : Priorities B E,
      localities.foldlM (addLocality profile) [] = .ok inserted := by
    refine foldlM_isOk Built [] (fun member built added =>
      built.adds (counted _ member) (addLocality_adds added)) ?_ Built.nil
    intro before state locality after split member built
    rw [nil_append] at split
    have small := (sized locality member).2
    rw [← split, append_cons, endpointsAt_append, length_append] at small
    have limit : percentageLimit < limit := by decide
    exact addLocality_isOk profile (built.room (counted locality member) (by omega))
  rcases folds with ⟨inserted, folded⟩
  have built := (Built.foldlM counted folded).perm (arrange_perm inserted)
  rcases recalculate_isOk profile (built.tracks.fits sized) with ⟨priorityLevelLb, recalculated⟩
  refine ⟨⟨priorityLevelLb, arrange inserted⟩, ?_⟩
  rw [fromSlice, folded]
  simp only [bind, Except.bind]
  rw [recalculated]
  rfl

end DefaultBalancer

/-! ## What construction depends on -/

/-- Localities that differ in their endpoints, but not in their number. -/
structure LocalityEndpoints.Alike (left right : LocalityEndpoints E) : Prop where
  priority : left.priority = right.priority
  healthy : left.healthyEndpoints = right.healthyEndpoints
  total : left.totalEndpoints = right.totalEndpoints

/-- Whether a locality can be built depends on the health of its endpoints only. -/
theorem LocalityEndpoints.build_alike [Endpoint E] {priority : Nat} {endpoints : List E}
    (health : endpoints.map Endpoint.health = others.map Endpoint.health)
    (built : build priority endpoints = .ok locality) :
    ∃ other, build priority others = .ok other ∧ locality.Alike other := by
  have length : endpoints.length = others.length := by
    simpa using congrArg length health
  have healthy : (endpoints.countP fun endpoint => (Endpoint.health endpoint).isHealthy) =
      others.countP fun endpoint => (Endpoint.health endpoint).isHealthy := by
    simpa [countP_map, Function.comp_def] using congrArg (countP HealthStatus.isHealthy) health
  simp only [build, length, healthy] at built ⊢
  split_ifs at built ⊢
  cases built
  exact ⟨_, rfl, rfl, rfl, rfl⟩

namespace DefaultBalancer

/-- Priorities that differ in their endpoints only. -/
def SameCounts : Priorities B E → Priorities B E → Prop :=
  List.Forall₂ fun left right =>
    left.1 = right.1 ∧ left.2.healthy = right.2.healthy ∧ left.2.total = right.2.total

variable {B E : Type} [Endpoint E] [Balancer B E] {profile : BuildProfile}

theorem SameCounts.addLocality {next : Priorities B E} (same : SameCounts left right)
    (alike : locality.Alike other) (added : addLocality profile left locality = .ok next) :
    ∃ next', DefaultBalancer.addLocality profile right other = .ok next' ∧
      SameCounts next next' := by
  rcases alike with ⟨priority, healthy, total⟩
  induction same generalizing next with
  | nil =>
    cases added
    exact ⟨_, rfl, .cons ⟨priority, healthy, total⟩ .nil⟩
  | @cons entry entry' rest rest' counts matched induction =>
    rcases counts with ⟨samePriority, sameHealthy, sameTotal⟩
    simp only [DefaultBalancer.addLocality, ← priority, ← healthy, ← total, ← samePriority,
      ← sameHealthy, ← sameTotal] at added ⊢
    split_ifs at added ⊢ with found
    · rcases bind_eq_ok_iff.mp added with ⟨newHealthy, healthyAdded, later⟩
      rcases bind_eq_ok_iff.mp later with ⟨newTotal, totalAdded, ⟨⟩⟩
      rw [healthyAdded, totalAdded]
      exact ⟨_, rfl, .cons ⟨rfl, rfl, rfl⟩ matched⟩
    · rcases bind_eq_ok_iff.mp added with ⟨after, later, ⟨⟩⟩
      rcases induction later with ⟨after', later', counted⟩
      rw [later']
      exact ⟨_, rfl, .cons ⟨rfl, sameHealthy, sameTotal⟩ counted⟩

theorem SameCounts.foldlM {final : Priorities B E} (same : SameCounts left right)
    (alike : List.Forall₂ LocalityEndpoints.Alike localities others)
    (folded : localities.foldlM (DefaultBalancer.addLocality profile) left = .ok final) :
    ∃ final', others.foldlM (DefaultBalancer.addLocality profile) right = .ok final' ∧
      SameCounts final final' := by
  induction alike generalizing left right with
  | nil =>
    cases folded
    exact ⟨right, rfl, same⟩
  | cons pair _ induction =>
    rw [foldlM_cons, bind_eq_ok_iff] at folded
    rcases folded with ⟨next, first, later⟩
    rcases same.addLocality pair first with ⟨next', first', sameNext⟩
    rcases induction sameNext later with ⟨final', later', sameFinal⟩
    refine ⟨final', ?_, sameFinal⟩
    rw [foldlM_cons, first']
    exact later'

theorem fromSlice_isOk_of_alike [HashMapOrder] {others : List (LocalityEndpoints E)}
    (alike : List.Forall₂ LocalityEndpoints.Alike localities others)
    (built : ∃ self : DefaultBalancer B E, fromSlice profile localities = .ok self) :
    ∃ self : DefaultBalancer B E, fromSlice profile others = .ok self := by
  rcases built with ⟨self, built⟩
  rcases bind_eq_ok_iff.mp built with ⟨inserted, folded, rest⟩
  rcases bind_eq_ok_iff.mp rest with ⟨priorityLevelLb, recalculated, _⟩
  rcases bind_eq_ok_iff.mp recalculated with ⟨loads, computed, _⟩
  rcases SameCounts.foldlM .nil alike folded with ⟨inserted', folded', same⟩
  have percentages := Priority.calculatePriorityLoads_isOk.mp ⟨loads, computed⟩
  have computable : ∀ entry ∈ arrange inserted', ∃ percentage,
      Priority.healthPercentage profile entry.2.healthy entry.2.total = .ok percentage := by
    intro entry member
    have inserted := (arrange_perm inserted').mem_iff.mp member
    rcases partner_of_right same inserted with ⟨partner, known, _, healthy, total⟩
    rw [← healthy, ← total]
    exact percentages partner ((arrange_perm _).mem_iff.mpr known)
  rcases Priority.calculatePriorityLoads_isOk.mpr computable with ⟨loads', computed'⟩
  have recalculated' : ∃ priorityLevelLb, recalculatePriorityLoadFactors profile
      (arrange inserted') = .ok priorityLevelLb :=
    ⟨_, bind_eq_ok_iff.mpr ⟨loads', computed', rfl⟩⟩
  rcases recalculated' with ⟨priorityLevelLb', recalculated'⟩
  exact ⟨_, bind_eq_ok_iff.mpr ⟨inserted', folded',
    bind_eq_ok_iff.mpr ⟨priorityLevelLb', recalculated', rfl⟩⟩⟩

end DefaultBalancer

end Orion.Clusters
