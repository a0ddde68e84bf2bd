import Orion.Clusters.Balancers.LeastRequest

/-! # The least loaded endpoint of a sample

With equal weights the balancer draws some endpoints, goes around them once or more, and
returns one with the least load. -/

namespace Orion.Clusters.WeightedLeastRequestBalancer

open List hiding count

variable {E : Type}

def newWithSettings (items : List (LeastLbItem E)) (activeRequestBias : Orion.Foundation.Binary64)
    (p2cChoiceCount : Nat) : WeightedLeastRequestBalancer E where
  items := items
  activeRequestBias := activeRequestBias
  p2cChoiceCount := p2cChoiceCount
  allWeightsEqual := allEqual items

/-! ## Going around a sample -/

theorem mem_rotate (enough : elements.length ≤ count) (offset : Nat)
    (member : element ∈ elements) : element ∈ rotate elements offset count := by
  rcases mem_iff_getElem.mp member with ⟨index, inRange, rfl⟩
  have offsetInRange := Nat.mod_lt offset (by omega : 0 < elements.length)
  -- The distance from the offset to the element, going upwards.
  let position := (index + (elements.length - offset % elements.length)) % elements.length
  have positionInRange : position < elements.length := Nat.mod_lt _ (by omega)
  have reached : (offset + position) % elements.length = index := by
    have whole : offset + (index + (elements.length - offset % elements.length)) =
        index + elements.length * (offset / elements.length + 1) := by
      have parts := Nat.div_add_mod offset elements.length
      rw [Nat.mul_succ]
      omega
    rw [Nat.add_mod_mod, whole, Nat.add_mul_mod_self_left, Nat.mod_eq_of_lt inRange]
  refine mem_filterMap.mpr ⟨position, mem_range.mpr (by omega), ?_⟩
  rw [reached]
  exact getElem?_eq_getElem inRange

theorem lessLoaded_le (choice : Choice E) (best item : LeastLbItem E) :
    choice.httpLoad (lessLoaded choice best item).item ≤ choice.httpLoad best.item ∧
      choice.httpLoad (lessLoaded choice best item).item ≤ choice.httpLoad item.item := by
  rw [lessLoaded]
  split_ifs with less
  · exact ⟨less.le, le_refl _⟩
  · exact ⟨le_refl _, not_lt.mp less⟩

theorem foldl_lessLoaded_le (choice : Choice E) (first : LeastLbItem E)
    (rest : List (LeastLbItem E)) :
    ∀ other ∈ first :: rest,
      choice.httpLoad (rest.foldl (lessLoaded choice) first).item ≤
        choice.httpLoad other.item := by
  induction rest generalizing first with
  | nil => simp
  | cons item rest induction =>
    intro other member
    have least := induction (lessLoaded choice first item)
    have kept := lessLoaded_le choice first item
    have best := least _ mem_cons_self
    rcases mem_cons.mp member with rfl | later
    · exact best.trans kept.1
    · rcases mem_cons.mp later with rfl | inRest
      · exact best.trans kept.2
      · exact least other (mem_cons_of_mem _ inRest)

/-! ## The endpoint chosen -/

variable [BalancerCrates]

def sampled (self : WeightedLeastRequestBalancer E) (choice : Choice E) : List (LeastLbItem E) :=
  if self.items.length ≤ 1 then self.items
  else BalancerCrates.chooseMultiple self.items self.p2cChoiceCount (choice.random 0)

/-- What the balancer returns is drawn, and no other item that is drawn has less load. -/
theorem nextItemP2c_least {self : WeightedLeastRequestBalancer E}
    (chosen : self.nextItemP2c choice = some endpoint) :
    ∃ item ∈ self.sampled choice, item.item = endpoint ∧
      ∀ other ∈ self.sampled choice, choice.httpLoad endpoint ≤ choice.httpLoad other.item := by
  unfold nextItemP2c at chosen
  rw [sampled]
  split_ifs at chosen ⊢ with few
  · rcases Option.map_eq_some_iff.mp chosen with ⟨item, first, rfl⟩
    refine ⟨item, mem_of_mem_head? first, rfl, ?_⟩
    intro other member
    rcases head?_eq_some_iff.mp first with ⟨rest, same⟩
    have alone : rest = [] := by
      rw [same] at few
      simpa using few
    rw [same, alone, mem_singleton] at member
    rw [member]
  · simp only at chosen
    split at chosen
    · cases chosen
    · rename_i first rest rotated
      cases chosen
      refine ⟨_, ?_, rfl, ?_⟩
      · apply mem_of_mem_rotate
        rw [rotated]
        exact foldl_lessLoaded_mem choice first rest
      · intro other member
        apply foldl_lessLoaded_le
        rw [← rotated]
        apply mem_rotate _ _ member
        rw [BalancerCrates.chooseMultiple_length]
        exact Nat.min_le_left _ _

/-- `choose_multiple` takes items from distinct positions. -/
def SamplesDistinct : Prop :=
  ∀ {α : Type} (elements : List α) (amount random : Nat),
    (BalancerCrates.chooseMultiple elements amount random).Subperm elements

theorem mem_sampled (distinct : SamplesDistinct) {self : WeightedLeastRequestBalancer E}
    (enough : self.items.length ≤ self.p2cChoiceCount) (choice : Choice E)
    (member : item ∈ self.items) : item ∈ self.sampled choice := by
  rw [sampled]
  split_ifs
  · exact member
  · have all : (BalancerCrates.chooseMultiple self.items self.p2cChoiceCount
        (choice.random 0)).Perm self.items := by
      apply (distinct _ _ _).perm_of_length_le
      rw [BalancerCrates.chooseMultiple_length]
      omega
    exact all.mem_iff.mpr member

omit [BalancerCrates] in
theorem allEqual_of_forall {items : List (LeastLbItem E)}
    (equal : ∀ item ∈ items, item.weight = weight) : allEqual items := by
  cases items with
  | nil => rfl
  | cons first rest =>
    refine all_eq_true.mpr fun item member => ?_
    rw [equal item (mem_cons_of_mem _ member), equal first mem_cons_self]
    exact decide_eq_true rfl

/-- With equal weights the endpoint returned has the least load of those drawn, and of all
if as many are drawn; there is none only if there are no endpoints. -/
theorem nextItem_least_loaded (distinct : SamplesDistinct) (items : List (LeastLbItem E))
    (weight : Nat) (equal : ∀ item ∈ items, item.weight = weight)
    (activeRequestBias : Orion.Foundation.Binary64) (choiceCount : Nat)
    (positive : 1 ≤ choiceCount) (choice : Choice E) :
    let balancer := newWithSettings items activeRequestBias choiceCount
    (balancer.sampled choice).Subperm items ∧
      match (balancer.nextItem choice).1 with
      | none => items = []
      | some endpoint =>
        (∃ item ∈ balancer.sampled choice, item.item = endpoint) ∧
        (∀ other ∈ balancer.sampled choice, choice.httpLoad endpoint ≤ choice.httpLoad other.item) ∧
        (items.length ≤ choiceCount →
          ∀ other ∈ items, choice.httpLoad endpoint ≤ choice.httpLoad other.item) := by
  intro balancer
  have called : balancer.nextItem choice = (balancer.nextItemP2c choice, balancer) :=
    if_pos (allEqual_of_forall equal)
  refine ⟨?_, ?_⟩
  · rw [sampled]
    split_ifs
    · exact List.Subperm.refl items
    · exact distinct _ _ _
  · rw [called]
    cases chosen : balancer.nextItemP2c choice with
    | none =>
      by_contra nonempty
      have found := @nextItemP2c_isSome E balancer _ nonempty positive choice
      rw [chosen] at found
      exact absurd found nofun
    | some endpoint =>
      rcases nextItemP2c_least chosen with ⟨item, drawn, same, least⟩
      exact ⟨⟨item, drawn, same⟩, least,
        fun enough other member => least other (mem_sampled distinct enough choice member)⟩

omit [BalancerCrates] in
theorem nextItem_least_loaded_of_two :
    letI := BalancerCrates.simple
    let items : List (LeastLbItem Nat) := [.new 1 0, .new 1 1, .new 1 2]
    let choice : Choice Nat := ⟨none, fun _ => 0, fun endpoint => 5 - endpoint⟩
    let balancer := newWithSettings items defaultActiveRequestBias 2
    (balancer.nextItem choice).1 = some 1 ∧
      ∀ other ∈ balancer.sampled choice, choice.httpLoad 1 ≤ choice.httpLoad other.item := by
  let crates := BalancerCrates.simple
  let choice : Choice Nat := ⟨none, fun _ => 0, fun endpoint => 5 - endpoint⟩
  have distinct : SamplesDistinct :=
    fun elements amount _ => (take_sublist amount elements).subperm
  have result := nextItem_least_loaded distinct [.new 1 0, .new 1 1, .new 1 2] 1
    (by simp [LeastLbItem.new]) defaultActiveRequestBias 2 (by decide) choice
  exact ⟨rfl, result.2.2.1⟩

end Orion.Clusters.WeightedLeastRequestBalancer
