import Orion.Clusters.Balancers.Balancer
import Orion.Foundation.Narrowing

/-! # Weighted round robin

The smooth weighted round-robin algorithm: each choice raises every item by its
weight, takes the first highest one, and lowers it by the total weight.
-/

namespace Orion.Clusters

open Foundation

structure WrrLbItem (T : Type) where
  weight : Nat
  currentWeight : Int
  item : T

namespace WrrLbItem

variable {T : Type}

def new (weight : Nat) (item : T) : WrrLbItem T := ⟨weight, 0, item⟩

def adjustCurrentWeight (item : WrrLbItem T) (value : Int) : WrrLbItem T :=
  { item with currentWeight := I32.saturatingAdd item.currentWeight value }

def increaseCurrentWeight (item : WrrLbItem T) : WrrLbItem T :=
  item.adjustCurrentWeight (I32.ofU32 item.weight)

/-- What an item is, apart from how often it was chosen. -/
def identity (item : WrrLbItem T) : Nat × T := (item.weight, item.item)

@[simp] theorem adjustCurrentWeight_identity (item : WrrLbItem T) (value : Int) :
    (item.adjustCurrentWeight value).identity = item.identity := rfl

end WrrLbItem

open WrrLbItem List Option

structure WeightedRoundRobinBalancer (T : Type) where
  items : List (WrrLbItem T)

namespace WeightedRoundRobinBalancer

variable {T : Type}

def new (items : List (WrrLbItem T)) : WeightedRoundRobinBalancer T :=
  ⟨(collectChecked weight items).1⟩

def total (items : List (WrrLbItem T)) : Int :=
  (items.map fun item => I32.ofU32 item.weight).foldl I32.saturatingAdd 0

def nextItem (self : WeightedRoundRobinBalancer T) : Option T × WeightedRoundRobinBalancer T :=
  if self.items.length ≤ 1 then
    (self.items.head?.map item, self)
  else
    let items := self.items.map increaseCurrentWeight
    match splitBest (byKey currentWeight) items with
    | none => (none, ⟨items⟩)
    | some split =>
      (some split.best.item,
        ⟨(split.modifyBest (·.adjustCurrentWeight (-total items))).toList⟩)

def identities (self : WeightedRoundRobinBalancer T) : List (Nat × T) :=
  self.items.map identity

variable {self : WeightedRoundRobinBalancer T}

theorem nextItem_of_several (several : 1 < self.items.length) :
    ∃ split, splitBest (byKey currentWeight)
        (self.items.map increaseCurrentWeight) = some split ∧
      self.nextItem = (some split.best.item, ⟨(split.modifyBest (·.adjustCurrentWeight
          (-total (self.items.map increaseCurrentWeight)))).toList⟩) := by
  have nonempty : self.items.map increaseCurrentWeight ≠ [] := by
    intro empty
    rw [map_eq_nil_iff] at empty
    simp [empty] at several
  rcases splitBest_isSome (byKey currentWeight) nonempty with ⟨split, scanned⟩
  refine ⟨split, scanned, ?_⟩
  unfold nextItem
  rw [if_neg (by omega)]
  simp only [scanned]

theorem nextItem_of_few (few : self.items.length ≤ 1) :
    self.nextItem = (self.items.head?.map item, self) := by
  rw [nextItem, if_pos few]

theorem nextItem_identities (self : WeightedRoundRobinBalancer T) :
    self.nextItem.2.identities = self.identities := by
  by_cases few : self.items.length ≤ 1
  · rw [nextItem_of_few few]
  · rcases nextItem_of_several (not_le.mp few) with ⟨split, scanned, chosen⟩
    have parts := congrArg (map identity) (splitBest_toList scanned)
    simp only [Split.toList, List.map_append, List.map_cons, List.map_map] at parts
    rw [chosen]
    simp only [identities, Split.toList, Split.modifyBest, map_append, map_cons,
      adjustCurrentWeight_identity]
    exact parts

theorem nextItem_isSome (nonempty : self.identities ≠ []) : self.nextItem.1.isSome := by
  by_cases few : self.items.length ≤ 1
  · rw [nextItem_of_few few]
    cases items : self.items with
    | nil => simp [identities, items] at nonempty
    | cons item rest => rfl
  · rcases nextItem_of_several (not_le.mp few) with ⟨split, _, chosen⟩
    rw [chosen]
    rfl

theorem nextItem_mem (chosen : self.nextItem.1 = some chosenItem) :
    ∃ weight, (weight, chosenItem) ∈ self.identities := by
  by_cases few : self.items.length ≤ 1
  · rw [nextItem_of_few few] at chosen
    rcases map_eq_some_iff.mp chosen with ⟨item, first, rfl⟩
    exact ⟨item.weight, mem_map.mpr ⟨item, mem_of_mem_head? first, rfl⟩⟩
  · rcases nextItem_of_several (not_le.mp few) with ⟨split, scanned, next⟩
    rw [next] at chosen
    cases chosen
    rcases mem_map.mp (splitBest_best_mem scanned) with ⟨item, member, increased⟩
    refine ⟨item.weight, mem_map.mpr ⟨item, member, ?_⟩⟩
    rw [← increased]
    rfl

/-! ## Choosing an endpoint -/

section

variable {E : Type} [Endpoint E]

def fromIter (endpoints : List E) : WeightedRoundRobinBalancer E :=
  new (endpoints.map fun endpoint => WrrLbItem.new (Endpoint.weight endpoint) endpoint)

instance : Balancer (WeightedRoundRobinBalancer E) E where
  fromIter := fromIter
  nextItem self _ := self.nextItem

theorem fromIter_mem {weight : Nat} {endpoint : E}
    (member : (weight, endpoint) ∈ (fromIter endpoints).identities) : endpoint ∈ endpoints := by
  rcases mem_map.mp member with ⟨item, kept, same⟩
  rcases mem_map.mp (mem_of_mem_collectChecked kept) with ⟨original, known, rfl⟩
  cases same
  exact known

theorem fromIter_ne_nil {endpoints : List E} (nonempty : endpoints ≠ []) :
    (fromIter endpoints).identities ≠ [] := by
  intro empty
  rw [identities, map_eq_nil_iff] at empty
  apply collectChecked_ne_nil _ _ empty
  · simpa using nonempty
  · intro item member
    rcases mem_map.mp member with ⟨endpoint, _, rfl⟩
    exact Endpoint.weight_lt endpoint

instance : LawfulBalancer (WeightedRoundRobinBalancer E) E where
  BuiltFrom endpoints self := self.identities = (fromIter endpoints).identities
  fromIter_builtFrom _ := rfl
  nextItem_builtFrom := by
    intro endpoints self choice built
    exact (nextItem_identities self).trans built
  nextItem_mem := by
    intro endpoints self choice endpoint built chosen
    rcases nextItem_mem chosen with ⟨weight, member⟩
    rw [built] at member
    exact fromIter_mem member
  nextItem_isSome := by
    intro endpoints self choice built nonempty
    apply nextItem_isSome
    rw [built]
    exact fromIter_ne_nil nonempty

end

end WeightedRoundRobinBalancer

end Orion.Clusters
