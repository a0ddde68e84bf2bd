import Orion.Clusters.Balancers.SmoothRoundRobin

/-! # Turns in proportion to the weights

After as many choices as there is weight, every item was chosen as often as its weight says, and
the counters are where they began. From there on the choices repeat themselves, so that every
block of that length is fair.
-/

namespace Orion.Clusters.WeightedRoundRobinBalancer

open Foundation Nat WrrLbItem I32
open List hiding length

variable {T : Type}

def after (self : WeightedRoundRobinBalancer T) (calls : Nat) : WeightedRoundRobinBalancer T :=
  (fun state => state.nextItem.2)^[calls] self

/-- What the calls from `start` on return. -/
def returned (self : WeightedRoundRobinBalancer T) (start calls : Nat) : List (Option T) :=
  (range' start calls).map fun call => (self.after call).nextItem.1

/-- The operands of the saturating additions of a call: the counters are raised, the weights are
summed up, and the counter of the best item is lowered. -/
def additions (self : WeightedRoundRobinBalancer T) : List (Int × Int) :=
  if self.items.length ≤ 1 then
    []
  else
    let items := self.items.map increaseCurrentWeight
    let weights := items.map fun item => ofU32 item.weight
    self.items.map (fun item => (item.currentWeight, ofU32 item.weight)) ++
      (weights.scanl saturatingAdd 0).zip weights ++
      ((splitBest (byKey currentWeight) items).map fun split =>
        (split.best.currentWeight, -total items)).toList

variable {self : WeightedRoundRobinBalancer T} {loads : List (T × Nat)}

theorem Balanced.additions_exact (balanced : Balanced self.items)
    (contained : Contained self.items) (positive : 0 < totalWeight self.items) :
    ∀ operands ∈ self.additions,
      saturatingAdd operands.1 operands.2 = operands.1 + operands.2 := by
  intro operands member
  unfold additions at member
  split_ifs at member
  · cases member
  · dsimp only at member
    rw [balanced.increase_eq contained] at member
    simp only [mem_append, Option.mem_toList, Option.map_eq_some_iff] at member
    rcases member with (raising | summing) | ⟨split, scanned, rfl⟩
    · rcases mem_map.mp raising with ⟨item, known, rfl⟩
      rcases balanced.increase_exact contained known with ⟨weight, sum⟩
      rw [weight, sum]
    · rw [map_map] at summing
      have weights : (self.items.map fun item => ofU32 item.weight) =
          (self.items.map weight).map ofU32 := by rw [map_map]; rfl
      change operands ∈ zip (scanl _ _ (self.items.map fun item => ofU32 item.weight))
        (self.items.map fun item => ofU32 item.weight) at summing
      rw [weights] at summing
      exact (foldl_saturatingAdd (le_refl 0)
        (le_of_eq_of_le (zero_add _) contained.totalWeight_le)).2 operands summing
    · rcases balanced.lowered contained positive scanned with ⟨sum, lowered⟩
      rw [sum] at lowered ⊢
      exact (congrArg currentWeight lowered).trans (sub_eq_add_neg _ _)

/-! ## Counting the turns -/

/-- The items of a balancer after some calls, and how often each of them was returned. -/
structure Tallied (balancer : WeightedRoundRobinBalancer T) (calls : Nat)
    (results : List (Option T)) (tally : List (WrrLbItem T × Nat)) : Prop where
  items : balancer.items = tally.map Prod.fst
  balanced : Balanced balancer.items
  counters : ∀ entry ∈ tally, -(totalWeight balancer.items : Int) < entry.1.currentWeight ∧
    entry.1.currentWeight = calls * entry.1.weight - totalWeight balancer.items * entry.2
  turns : results.Perm (tally.flatMap fun entry => replicate entry.2 (some entry.1.item))

variable {tally : List (WrrLbItem T × Nat)} {results : List (Option T)}

section

variable (tallied : Tallied self calls results tally)

include tallied

theorem Tallied.raised_counter {entry : WrrLbItem T × Nat} (member : entry ∈ tally) :
    -(totalWeight self.items : Int) < (raised entry.1).currentWeight ∧
      (raised entry.1).currentWeight =
        (calls + 1 : Nat) * entry.1.weight - totalWeight self.items * entry.2 := by
  rcases tallied.counters entry member with ⟨above, counted⟩
  simp only [raised]
  refine ⟨by omega, ?_⟩
  rw [counted]
  push_cast
  ring

theorem Tallied.nextItem
    (contained : Contained self.items) (positive : 0 < totalWeight self.items) :
    ∃ tally, Tallied self.nextItem.2 (calls + 1) (results ++ [self.nextItem.1]) tally := by
  have balanced := (tallied.balanced.nextItem contained positive).1
  have sameTotal := totalWeight_nextItem self
  rcases tallied.balanced.nextItem_eq contained positive with ⟨before, _, after, same, high, next⟩
  rcases map_eq_append_iff.mp (tallied.items.symm.trans same) with
    ⟨first, rest, rfl, rfl, others⟩
  rcases map_eq_cons_iff.mp others with ⟨⟨best, count⟩, last, rfl, rfl, rfl⟩
  refine ⟨first.map (Prod.map raised id) ++ (charged (totalWeight self.items) best, count + 1) ::
    last.map (Prod.map raised id), ?_, balanced, ?_, ?_⟩
  · rw [next]
    simp [Function.comp_def]
  · rw [sameTotal]
    intro entry member
    simp only [mem_append, mem_cons, mem_map] at member
    rcases member with ⟨other, known, rfl⟩ | rfl | ⟨other, known, rfl⟩
    · exact tallied.raised_counter (by simp [known])
    · rcases tallied.counters (best, count) (by simp) with ⟨_, counted⟩
      simp only [raised, charged] at high counted ⊢
      refine ⟨by omega, ?_⟩
      rw [counted]
      push_cast
      ring
    · exact tallied.raised_counter (by simp [known])
  · rw [next]
    have moved := perm_append_singleton (some best.item) results
    refine moved.trans ((tallied.turns.cons _).trans ?_)
    simp only [flatMap_append, flatMap_cons, flatMap_map, replicate_succ,
      cons_append]
    exact perm_middle.symm

/-- After as many calls as there is weight, all counters are zero. -/
theorem Tallied.proportional
    (whole : totalWeight self.items = calls) (positive : 0 < totalWeight self.items) :
    ∀ entry ∈ tally, entry.1.currentWeight = 0 ∧ entry.2 = entry.1.weight := by
  have weight : (0 : Int) < totalWeight self.items := by exact_mod_cast positive
  rw [← whole] at tallied
  have nonnegative : ∀ counter ∈ self.items.map currentWeight, 0 ≤ counter := by
    intro counter member
    rw [tallied.items, map_map] at member
    rcases mem_map.mp member with ⟨entry, known, rfl⟩
    rcases tallied.counters entry known with ⟨above, counted⟩
    rw [← mul_sub] at counted
    by_contra negative
    have below : (entry.1.weight : Int) - entry.2 ≤ -1 := by
      by_contra enough
      apply negative
      change 0 ≤ entry.1.currentWeight
      rw [counted]
      exact mul_nonneg weight.le (by omega)
    have least := mul_le_mul_of_nonneg_left below weight.le
    linarith
  intro entry known
  have zero : entry.1.currentWeight = 0 := by
    apply all_zero_of_le_zero_le_of_sum_eq_zero nonnegative tallied.balanced.sum_eq_zero
    rw [tallied.items, map_map]
    exact mem_map_of_mem known
  have counted := (tallied.counters entry known).2
  rw [zero, ← mul_sub] at counted
  have same := (mul_eq_zero.mp counted.symm).resolve_left weight.ne'
  exact ⟨zero, by omega⟩

end

/-! ## Blocks of calls -/

theorem items_eq_of_zero (same : self.identities = loads.map Prod.swap)
    (zero : ∀ item ∈ self.items, item.currentWeight = 0) :
    self.items = loads.map fun load => WrrLbItem.new load.2 load.1 := by
  have fresh : self.identities.map (fun identity => WrrLbItem.new identity.1 identity.2) =
      self.items := by
    rw [identities, map_map]
    refine (map_congr_left fun item member => ?_).trans (map_id _)
    rcases item with ⟨weight, counter, item⟩
    exact congrArg (WrrLbItem.mk weight · item) (zero _ member).symm
  rw [← fresh, same, map_map]
  rfl

theorem contained_of_fits (same : self.identities = loads.map Prod.swap)
    (fits : (loads.length * (loads.map Prod.snd).sum : Int) ≤ maximum) :
    Contained self.items := by
  rw [Contained, active_eq same, totalWeight_eq same]
  refine le_trans ?_ fits
  exact_mod_cast mul_le_mul_right _ countP_le_length

theorem tallied_after (start : self.items = loads.map fun load => WrrLbItem.new load.2 load.1)
    (fits : (loads.length * (loads.map Prod.snd).sum : Int) ≤ maximum)
    (positive : 0 < (loads.map Prod.snd).sum) (calls : Nat) :
    (self.after calls).identities = loads.map Prod.swap ∧
      ∃ tally, Tallied (self.after calls) calls (self.returned 0 calls) tally := by
  induction calls with
  | zero =>
    have same : self.identities = loads.map Prod.swap := by
      rw [identities, start, map_map]
      rfl
    refine ⟨same, self.items.map fun item => (item, 0), ?_, ?_, ?_, ?_⟩
    · simp [after, Function.comp_def]
    · rw [after, Function.iterate_zero, id, start]
      exact balanced_new loads
    · have weight := totalWeight_eq same
      intro entry member
      rcases mem_map.mp member with ⟨item, known, rfl⟩
      rw [start] at known
      rcases mem_map.mp known with ⟨load, _, rfl⟩
      simp only [after, Function.iterate_zero, id, WrrLbItem.new]
      omega
    · simp [returned]
  | succ calls induction =>
    rcases induction with ⟨same, tally, tallied⟩
    have next : self.after (calls + 1) = (self.after calls).nextItem.2 :=
      Function.iterate_succ_apply' _ _ _
    have results : self.returned 0 (calls + 1) =
        self.returned 0 calls ++ [(self.after calls).nextItem.1] := by
      simp [returned, range'_1_concat]
    rw [next, results]
    exact ⟨(nextItem_identities _).trans same,
      tallied.nextItem (contained_of_fits same fits) (totalWeight_eq same ▸ positive)⟩

theorem map_range'_perm {value : Nat → α} (periodic : ∀ n, value (n % length) = value n)
    (start : Nat) : ((range' start length).map value).Perm
      ((range' 0 length).map value) := by
  have rotated : ((range' start length).map (· % length)).Perm (range' 0 length) := by
    have mods := multiset_Ico_map_mod start length
    change Multiset.map _ (range' start (start + length - start) : Multiset Nat) = _ at mods
    rw [Nat.add_sub_cancel_left, Multiset.map_coe] at mods
    rw [← range_eq_range']
    exact Multiset.coe_eq_coe.mp mods
  have same : (range' start length).map value =
      ((range' start length).map (· % length)).map value := by
    simp [map_map, Function.comp_def, periodic]
  rw [same]
  exact rotated.map value

/-- Every block of as many calls as there is weight returns each item as often as its weight says,
wherever it starts. The counters are zero after each such number of calls and sum up to zero after
every call, and no addition saturates. -/
theorem turns_proportional (loads : List (T × Nat)) (positive : ∀ load ∈ loads, 0 < load.2)
    (fits : (loads.length * (loads.map Prod.snd).sum : Int) ≤ maximum) :
    let fresh := new (loads.map fun load => WrrLbItem.new load.2 load.1)
    let weight := (loads.map Prod.snd).sum
    (∀ start, (fresh.returned start weight).Perm
      (loads.flatMap fun load => replicate load.2 (some load.1))) ∧
    (∀ blocks, (fresh.after (blocks * weight)).items =
      loads.map fun load => WrrLbItem.new load.2 load.1) ∧
    (∀ calls, ((fresh.after calls).items.map currentWeight).sum = 0) ∧
    (∀ calls, ∀ operands ∈ (fresh.after calls).additions,
      saturatingAdd operands.1 operands.2 = operands.1 + operands.2) ∧
    ∀ load ∈ loads, ofU32 load.2 = load.2 := by
  intro fresh weight
  have small : (weight : Int) ≤ maximum := by
    cases loads with
    | nil => exact fits
    | cons load loads =>
      refine le_trans ?_ fits
      exact_mod_cast Nat.le_mul_of_pos_left _ (Nat.succ_pos _)
  have kept : fresh.items = loads.map fun load => WrrLbItem.new load.2 load.1 := by
    apply collectCheckedFrom_of_fits
    rw [map_map, zero_add]
    have limit : maximum < U32.limit := by decide
    exact_mod_cast small.trans_lt limit
  cases loads with
  | nil =>
    have unchanged : ∀ calls, fresh.after calls = fresh :=
      fun calls => Function.iterate_fixed rfl calls
    refine ⟨fun _ => .refl _, ?_, ?_, ?_, nofun⟩
    · exact fun blocks => by rw [unchanged]; rfl
    · exact fun calls => by rw [unchanged]; rfl
    · exact fun calls => by rw [unchanged]; nofun
  | cons first rest =>
    have weighty : 0 < weight := (positive first (by simp)).trans_le (le_add_right _ _)
    have run := tallied_after kept fits weighty
    have state := fun calls => contained_of_fits (run calls).1 fits
    have total := fun calls => totalWeight_eq (run calls).1
    have balanced : ∀ calls, Balanced (fresh.after calls).items :=
      fun calls => (run calls).2.choose_spec.balanced
    rcases run weight with ⟨same, tally, tallied⟩
    have proportional := tallied.proportional (total weight) (total weight ▸ weighty)
    have zero : ∀ item ∈ (fresh.after weight).items, item.currentWeight = 0 := by
      rw [tallied.items]
      exact forall_mem_map.mpr fun entry known => (proportional entry known).1
    have periodic : Function.IsPeriodicPt (fun state => state.nextItem.2) weight fresh :=
      congrArg mk ((items_eq_of_zero same zero).trans kept.symm)
    refine ⟨?_, ?_, fun calls => (balanced calls).sum_eq_zero, ?_, ?_⟩
    · intro start
      have rotated := @map_range'_perm _ weight (fun call => (fresh.after call).nextItem.1)
        (fun call => by simp only [after, periodic.iterate_mod_apply]) start
      refine rotated.trans (tallied.turns.trans (.of_eq ?_))
      have counts : (tally.flatMap fun entry => replicate entry.2 (some entry.1.item)) =
          (fresh.after weight).items.flatMap fun item => replicate item.weight
          (some item.item) := by
        rw [tallied.items, flatMap_map]
        exact flatMap_congr fun entry known => by rw [(proportional entry known).2]
      rw [counts, items_eq_of_zero same zero, flatMap_map]
      rfl
    · intro blocks
      rw [after, (periodic.const_mul blocks).eq, kept]
    · exact fun calls => (balanced calls).additions_exact (state calls) (total calls ▸ weighty)
    · intro load member
      apply ofU32_of_le
      refine le_trans ?_ small
      exact_mod_cast single_le_sum (by simp) _ (mem_map_of_mem member)

/-- Two items of which one has twice the weight of the other. -/
theorem turns_proportional_of_two :
    ((new [WrrLbItem.new 2 'a', WrrLbItem.new 1 'b']).returned 1 3).Perm
      [some 'a', some 'a', some 'b'] :=
  (turns_proportional [('a', 2), ('b', 1)] (by decide) (by decide)).1 1

end Orion.Clusters.WeightedRoundRobinBalancer
