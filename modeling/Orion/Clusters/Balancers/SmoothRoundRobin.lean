import Orion.Clusters.Balancers.RoundRobin

/-! # Fairness of the weighted round robin

While the weights are small enough for the 32-bit counters, the counters of all
items sum up to zero between two choices. The highest counter is then positive when
a choice is made, so an item without weight is never chosen as long as another one
has weight.
-/

namespace Orion.Clusters.WeightedRoundRobinBalancer

open Foundation WrrLbItem List Option Nat I32

variable {T : Type}

section

variable (items : List (WrrLbItem T))

def totalWeight : Nat := (items.map weight).sum

def active : Nat :=
  items.countP fun item => 0 < item.weight

structure Balanced (items : List (WrrLbItem T)) : Prop where
  sum_eq_zero : (items.map currentWeight).sum = 0
  idle : ∀ item ∈ items, item.weight = 0 → item.currentWeight = 0
  above : ∀ item ∈ items, -(totalWeight items : Int) ≤ item.currentWeight

/-- No counter leaves the range of 32-bit integers. -/
def Roomy : Prop :=
  ((active items + 1) * totalWeight items : Int) ≤ maximum

/-- The sharper bound, which suffices. -/
def Contained : Prop :=
  (active items * totalWeight items : Int) ≤ maximum

end

/-! ## Items and their weights -/

section

variable {self : WeightedRoundRobinBalancer T} {loads : List (T × Nat)}

theorem totalWeight_eq (same : self.identities = loads.map Prod.swap) :
    totalWeight self.items = (loads.map Prod.snd).sum := by
  have weights : self.items.map weight = self.identities.map Prod.fst := by
    rw [identities, List.map_map]
    rfl
  rw [totalWeight, weights, same, List.map_map]
  rfl

theorem active_eq (same : self.identities = loads.map Prod.swap) :
    active self.items = loads.countP fun load => 0 < load.2 := by
  have counted : active self.items = self.identities.countP fun identity => 0 < identity.1 := by
    rw [identities, countP_map]
    rfl
  rw [counted, same, countP_map]
  rfl

theorem balanced_new (loads : List (T × Nat)) :
    Balanced (loads.map fun load => WrrLbItem.new load.2 load.1) := by
  have zero : ∀ item ∈ loads.map fun load => WrrLbItem.new load.2 load.1,
      item.currentWeight = 0 := by
    intro item member
    rcases mem_map.mp member with ⟨load, _, rfl⟩
    rfl
  refine ⟨?_, fun item member _ => zero item member, ?_⟩
  · apply sum_eq_zero
    intro counter member
    rcases mem_map.mp member with ⟨item, known, rfl⟩
    exact zero item known
  · intro item member
    rw [zero item member]
    omega

end

/-! ## The range of the counters -/

section

variable {items : List (WrrLbItem T)} {bound : Int}

section

variable (idle : ∀ item ∈ items, item.weight = 0 → item.currentWeight = 0)
  (above : ∀ item ∈ items, -bound ≤ item.currentWeight)

include idle above

theorem sum_add_active_nonneg : 0 ≤ (items.map currentWeight).sum + active items * bound := by
  induction items with
  | nil => simp [active]
  | cons item items induction =>
    have rest := induction (fun other member => idle other (by simp [member]))
      (fun other member => above other (by simp [member]))
    by_cases positive : 0 < item.weight
    · have own := above item (by simp)
      have count : active (item :: items) = active items + 1 := by
        simp [active, positive]
      simp only [map_cons, sum_cons, count]
      push_cast
      linarith
    · have own := idle item (by simp) (by omega)
      have count : active (item :: items) = active items := by
        simp [active, positive]
      simp only [map_cons, sum_cons, count, own]
      linarith

/-- A counter is as high as the others can be low. -/
theorem currentWeight_add_le
    {item : WrrLbItem T} (member : item ∈ items) (positive : 0 < item.weight) :
    item.currentWeight + bound ≤
      (items.map currentWeight).sum + active items * bound := by
  rcases append_of_mem member with ⟨before, after, rfl⟩
  have first := sum_add_active_nonneg (fun other known => idle other (mem_append_left _ known))
    (fun other known => above other (mem_append_left _ known))
  have second := sum_add_active_nonneg
    (fun other known => idle other (mem_append_right _ (mem_cons_of_mem _ known)))
    (fun other known => above other (mem_append_right _ (mem_cons_of_mem _ known)))
  have count : active (before ++ item :: after) = active before + active after + 1 := by
    simp only [active, countP_append, countP_cons, positive, decide_true, if_true]
    omega
  simp only [List.map_append, List.map_cons, List.sum_append, List.sum_cons, count]
  push_cast
  linarith

end

end

variable {items : List (WrrLbItem T)} {item : WrrLbItem T}

theorem weight_le_totalWeight (member : item ∈ items) : item.weight ≤ totalWeight items :=
  single_le_sum (by simp) _ (mem_map_of_mem member)

theorem Roomy.contained (roomy : Roomy items) : Contained items := by
  unfold Roomy at roomy
  unfold Contained
  linarith

theorem Contained.totalWeight_le (contained : Contained items) :
    (totalWeight items : Int) ≤ maximum := by
  by_cases weightless : ∀ weight ∈ items.map WrrLbItem.weight, weight = 0
  · rw [totalWeight, sum_eq_zero_iff.mpr weightless]
    decide
  · push Not at weightless
    rcases weightless with ⟨weight, member, nonzero⟩
    rcases mem_map.mp member with ⟨item, known, rfl⟩
    have some : 1 ≤ active items :=
      countP_pos_iff.mpr ⟨item, known, by simpa using pos_of_ne_zero nonzero⟩
    exact le_trans (by exact_mod_cast Nat.le_mul_of_pos_left _ some) contained

/-! ### What a choice does without a limit -/

def raised (item : WrrLbItem T) : WrrLbItem T :=
  { item with currentWeight := item.currentWeight + item.weight }

def charged (total : Nat) (item : WrrLbItem T) : WrrLbItem T :=
  { item with currentWeight := item.currentWeight + item.weight - total }

section

variable (balanced : Balanced items) (contained : Contained items)

include balanced contained

theorem Balanced.raised_le
    (member : item ∈ items) : item.currentWeight + item.weight ≤ maximum := by
  by_cases positive : 0 < item.weight
  · have below := currentWeight_add_le balanced.idle balanced.above member positive
    have weight : (item.weight : Int) ≤ totalWeight items := by
      exact_mod_cast weight_le_totalWeight member
    rw [balanced.sum_eq_zero] at below
    unfold Contained at contained
    linarith
  · have weightless : item.weight = 0 := by omega
    rw [balanced.idle item member weightless, weightless]
    decide

theorem Balanced.increase_exact (member : item ∈ items) :
    ofU32 item.weight = item.weight ∧
      saturatingAdd item.currentWeight item.weight = item.currentWeight + item.weight := by
  have weight : (item.weight : Int) ≤ totalWeight items := by
    exact_mod_cast weight_le_totalWeight member
  have total := contained.totalWeight_le
  have above := balanced.above item member
  have minimum : minimum = -maximum - 1 := by decide
  exact ⟨ofU32_of_le (by linarith),
    saturatingAdd_of_fits (by omega) (balanced.raised_le contained member)⟩

theorem Balanced.increase_eq : items.map increaseCurrentWeight = items.map raised := by
  apply map_congr_left
  intro item member
  rcases balanced.increase_exact contained member with ⟨weight, sum⟩
  rw [increaseCurrentWeight, adjustCurrentWeight, weight, sum]
  rfl

end

theorem foldl_saturatingAdd {weights : List Nat} (nonnegative : 0 ≤ start)
    (fits : start + (weights.sum : Int) ≤ maximum) :
    (weights.map ofU32).foldl saturatingAdd start = start + weights.sum ∧
      ∀ operands ∈ ((weights.map ofU32).scanl saturatingAdd start).zip
        (weights.map ofU32),
        saturatingAdd operands.1 operands.2 = operands.1 + operands.2 := by
  induction weights generalizing start with
  | nil => simp
  | cons weight weights induction =>
    simp only [sum_cons, cast_add] at fits
    have minimum : minimum ≤ 0 := by decide
    have added := I32.saturatingAdd_of_fits (show I32.minimum ≤ start + weight by linarith)
      (by linarith)
    rcases induction (show 0 ≤ start + (weight : Int) by linarith) (by linarith) with ⟨folded, each⟩
    rw [map_cons, foldl_cons, scanl_cons, ofU32_of_le (by linarith), added,
      folded, zip_cons_cons]
    refine ⟨?_, forall_mem_cons.mpr ⟨added, each⟩⟩
    simp only [sum_cons, cast_add]
    ring

theorem total_eq (fits : (totalWeight items : Int) ≤ maximum) :
    total items = totalWeight items := by
  have folded := (foldl_saturatingAdd (le_refl 0) (le_of_eq_of_le (zero_add _) fits)).1
  rw [zero_add, List.map_map] at folded
  exact folded

/-! ## One choice -/

theorem Balanced.increased_sum (balanced : Balanced items) :
    ((items.map raised).map currentWeight).sum = totalWeight items := by
  have pointwise : (items.map raised).map currentWeight =
      items.map fun item => item.currentWeight + (item.weight : Int) := map_map
  rw [pointwise, sum_map_add, balanced.sum_eq_zero, zero_add, totalWeight,
    Nat.cast_list_sum, List.map_map]
  rfl

/-- Some counter is positive when the best one is taken, so the best one is. -/
theorem Balanced.best_pos (balanced : Balanced items) (positive : 0 < totalWeight items)
    (scanned : splitBest (byKey currentWeight) (items.map raised) = some split) :
    0 < split.best.currentWeight := by
  by_contra notPositive
  have bounded := splitBest_key_le currentWeight scanned
  have sum : ((items.map raised).map currentWeight).sum ≤ 0 := by
    refine (sum_le_card_nsmul _ 0 ?_).trans_eq (nsmul_zero _)
    intro counter member
    rcases mem_map.mp member with ⟨item, known, rfl⟩
    exact (bounded item known).trans (not_lt.mp notPositive)
  rw [balanced.increased_sum] at sum
  omega

theorem Balanced.lowered (balanced : Balanced items) (contained : Contained items)
    (positive : 0 < totalWeight items)
    (scanned : splitBest (byKey currentWeight) (items.map raised) = some split) :
    total (items.map raised) = totalWeight items ∧
      split.best.adjustCurrentWeight (-total (items.map raised)) =
        { split.best with currentWeight := split.best.currentWeight - totalWeight items } := by
  have bestPositive := balanced.best_pos positive scanned
  have fits := contained.totalWeight_le
  have bestBelow : split.best.currentWeight ≤ maximum := by
    rcases mem_map.mp (splitBest_best_mem scanned) with ⟨original, member, same⟩
    rw [← same]
    exact balanced.raised_le contained member
  have minimum : minimum = -maximum - 1 := by decide
  have sameTotal : totalWeight (items.map raised) = totalWeight items := by
    rw [totalWeight, List.map_map]
    rfl
  have exact : total (items.map raised) = totalWeight items := by
    rw [total_eq (sameTotal ▸ fits), sameTotal]
  rw [exact, adjustCurrentWeight,
    saturatingAdd_of_fits (by linarith) (by linarith), sub_eq_add_neg]
  exact ⟨rfl, rfl⟩

variable {self : WeightedRoundRobinBalancer T}

/-- A choice raises all counters, and lowers that of the item chosen. With a single item nothing
changes, which is the same. -/
theorem Balanced.nextItem_eq (balanced : Balanced self.items) (contained : Contained self.items)
    (positive : 0 < totalWeight self.items) :
    ∃ before best after, self.items = before ++ best :: after ∧
      0 < (raised best).currentWeight ∧
      self.nextItem = (some best.item,
        ⟨before.map raised ++ charged (totalWeight self.items) best :: after.map raised⟩) := by
  by_cases few : self.items.length ≤ 1
  · rw [nextItem_of_few few]
    match items : self.items with
    | [] => simp [items, totalWeight] at positive
    | [item] =>
      rw [items] at balanced positive
      have zero : item.currentWeight = 0 := by simpa using balanced.sum_eq_zero
      refine ⟨[], item, [], rfl, ?_, ?_⟩
      · simpa [raised, zero, totalWeight] using positive
      · have unchanged : charged (totalWeight [item]) item = item := by
          simp [charged, totalWeight]
        rw [unchanged]
        exact congrArg (Prod.mk _) (congrArg WeightedRoundRobinBalancer.mk items)
    | _ :: _ :: _ => simp [items] at few
  · rcases nextItem_of_several (not_le.mp few) with ⟨split, scanned, chosen⟩
    rw [balanced.increase_eq contained] at scanned chosen
    rcases balanced.lowered contained positive scanned with ⟨_, lowered⟩
    have bestPositive := balanced.best_pos positive scanned
    have parts := splitBest_toList scanned
    rcases map_eq_append_iff.mp parts.symm with ⟨before, rest, same, first, others⟩
    rcases map_eq_cons_iff.mp others with ⟨best, after, rfl, chosenBest, last⟩
    refine ⟨before, best, after, same, ?_, ?_⟩
    · rwa [← chosenBest] at bestPositive
    · rw [chosen, Split.modifyBest, Split.toList, lowered, ← first, ← last, ← chosenBest]
      rfl

theorem totalWeight_nextItem (self : WeightedRoundRobinBalancer T) :
    totalWeight self.nextItem.2.items = totalWeight self.items := by
  have sameWeights := congrArg (map Prod.fst) (nextItem_identities self)
  simp only [identities, List.map_map] at sameWeights
  exact congrArg List.sum sameWeights

/-- As long as some item has weight, every choice takes an item that has, and balances the
counters again. -/
theorem Balanced.nextItem (balanced : Balanced self.items) (contained : Contained self.items)
    (positive : 0 < totalWeight self.items) :
    Balanced self.nextItem.2.items ∧
      ∃ weight item, self.nextItem.1 = some item ∧ 0 < weight ∧
        (weight, item) ∈ self.identities := by
  have sameTotal := totalWeight_nextItem self
  rcases balanced.nextItem_eq contained positive with ⟨before, best, after, same, high, next⟩
  have hasWeight : 0 < best.weight := by
    by_contra weightless
    have idle := balanced.idle best (by simp [same]) (by omega)
    rw [raised] at high
    dsimp only at high
    omega
  -- An item is the one chosen, or was only raised.
  have counters : ∀ item ∈ self.nextItem.2.items, (item.weight = 0 → item.currentWeight = 0) ∧
        -(totalWeight self.items : Int) ≤ item.currentWeight := by
    have others : ∀ item ∈ self.items, ((raised item).weight = 0 →
        (raised item).currentWeight = 0) ∧
          -(totalWeight self.items : Int) ≤ (raised item).currentWeight := by
      intro item member
      have above := balanced.above item member
      have idle := balanced.idle item member
      unfold raised
      exact ⟨fun weightless => by simp_all, by dsimp only; omega⟩
    intro item member
    rw [next] at member
    simp only [List.mem_append, List.mem_cons, List.mem_map] at member
    rcases member with ⟨other, known, rfl⟩ | rfl | ⟨other, known, rfl⟩
    · exact others other (by simp [same, known])
    · rw [raised] at high
      exact ⟨fun weightless => absurd weightless hasWeight.ne', by
        rw [charged]
        dsimp only at high ⊢
        omega⟩
    · exact others other (by simp [same, known])
  refine ⟨⟨?_, fun item member => (counters item member).1, ?_⟩, ?_⟩
  · have sum := balanced.increased_sum
    rw [next]
    simp only [List.map_append, List.map_cons, List.sum_append, List.sum_cons, raised, charged,
      same] at sum ⊢
    linarith
  · rw [sameTotal]
    exact fun item member => (counters item member).2
  · exact ⟨best.weight, best.item, by rw [next], hasWeight, mem_map.mpr ⟨best, by simp [same], rfl⟩⟩

theorem nextItem_of_weightless
    (weightless : ∀ item ∈ self.items, item.weight = 0 ∧ item.currentWeight = 0) :
    self.nextItem = (self.items.head?.map WrrLbItem.item, self) := by
  by_cases few : self.items.length ≤ 1
  · exact nextItem_of_few few
  · have idle : ∀ item : WrrLbItem T, item.currentWeight = 0 →
        item.adjustCurrentWeight 0 = item := by
      rintro ⟨weight, currentWeight, item⟩ rfl
      rfl
    have unchanged : self.items.map increaseCurrentWeight = self.items := by
      refine (map_congr_left ?_).trans (map_id self.items)
      intro item member
      rcases weightless item member with ⟨weight, counter⟩
      rw [increaseCurrentWeight, weight]
      exact idle item counter
    have noTotal : totalWeight self.items = 0 := by
      rw [totalWeight, sum_eq_zero_iff]
      intro weight member
      rcases mem_map.mp member with ⟨item, known, rfl⟩
      exact (weightless item known).1
    cases items : self.items with
    | nil => simp [items] at few
    | cons first rest =>
      rw [items] at weightless unchanged noTotal few
      have scanned : splitBest (byKey currentWeight) (first :: rest) = some ⟨[], first, rest⟩ := by
        apply splitBest_of_first_greatest
        intro item member
        rw [(weightless item (by simp [member])).2, (weightless first (by simp)).2]
      unfold nextItem
      rw [items, if_neg few, unchanged]
      simp only [scanned, total_eq (by rw [noTotal]; decide), noTotal, Split.modifyBest,
        Split.toList, nil_append, cast_zero, neg_zero,
        idle first (weightless first (by simp)).2, head?_cons, map_some]
      rw [← items]

end Orion.Clusters.WeightedRoundRobinBalancer
