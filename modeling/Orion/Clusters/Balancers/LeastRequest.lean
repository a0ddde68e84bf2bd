import Orion.Clusters.Balancers.Balancer
import Orion.Foundation.Narrowing

/-! # Least requests

With equal weights, the less loaded of two endpoints drawn at random; otherwise
weighted round robin with weights that shrink as the load grows.
-/

namespace Orion.Clusters

open Foundation BalancerCrates
open List hiding count

structure LeastLbItem (E : Type) where
  weight : Nat
  currentWeight : Binary64
  item : E

namespace LeastLbItem

variable {E : Type}

def new (weight : Nat) (item : E) : LeastLbItem E := ⟨weight, .ofExact 0, item⟩

def adjustCurrentWeight (self : LeastLbItem E) (value : Binary64) : LeastLbItem E :=
  { self with currentWeight := self.currentWeight + value }

/-- The weight that the load leaves, by a power `activeRequestBias` of the load. -/
def weightUnder [BalancerCrates] (self : LeastLbItem E) (choice : Choice E)
    (activeRequestBias : Binary64) : Binary64 :=
  if activeRequestBias = .ofExact 0 then
    .ofNat self.weight
  else
    .ofNat self.weight /
      powf (.ofNat ((choice.httpLoad self.item + 1) % U32.limit))
        activeRequestBias

end LeastLbItem

open LeastLbItem

structure WeightedLeastRequestBalancer (E : Type) where
  items : List (LeastLbItem E)
  activeRequestBias : Binary64
  p2cChoiceCount : Nat
  allWeightsEqual : Bool

namespace WeightedLeastRequestBalancer

variable {E : Type}

def defaultActiveRequestBias : Binary64 := .ofExact 1

def defaultP2cChoiceCount : Nat := 2

def allEqual : List (LeastLbItem E) → Bool
  | [] => true
  | first :: rest => rest.all fun item => item.weight = first.weight

def new (items : List (LeastLbItem E)) : WeightedLeastRequestBalancer E where
  items := items
  activeRequestBias := defaultActiveRequestBias
  p2cChoiceCount := defaultP2cChoiceCount
  allWeightsEqual := allEqual items

/-- `cycle().skip(offset).take(count)`. -/
def rotate (elements : List α) (offset count : Nat) : List α :=
  (range count).filterMap fun position =>
    elements[(offset + position) % elements.length]?

theorem mem_of_mem_rotate (member : element ∈ rotate elements offset count) :
    element ∈ elements := by
  rcases mem_filterMap.mp member with ⟨position, _, found⟩
  exact mem_of_getElem? found

theorem rotate_ne_nil (nonempty : elements ≠ []) (offset : Nat) (positive : 0 < count) :
    rotate elements offset count ≠ [] := by
  have inRange : offset % elements.length < elements.length :=
    Nat.mod_lt _ (length_pos_iff.mpr nonempty)
  have found : elements[offset % elements.length] ∈ rotate elements offset count := by
    refine mem_filterMap.mpr ⟨0, mem_range.mpr positive, ?_⟩
    rw [Nat.add_zero, getElem?_eq_getElem inRange]
  exact ne_nil_of_mem found

/-- The one of two items with the smaller load, the earlier one if they are equal. -/
def lessLoaded (choice : Choice E) (best item : LeastLbItem E) : LeastLbItem E :=
  if choice.httpLoad item.item < choice.httpLoad best.item then item else best

theorem foldl_lessLoaded_mem (choice : Choice E) (first : LeastLbItem E)
    (rest : List (LeastLbItem E)) : rest.foldl (lessLoaded choice) first ∈ first :: rest := by
  induction rest generalizing first with
  | nil => simp
  | cons item rest induction =>
    have kept : lessLoaded choice first item = item ∨ lessLoaded choice first item = first := by
      unfold lessLoaded
      split_ifs
      · exact .inl rfl
      · exact .inr rfl
    have member := induction (lessLoaded choice first item)
    rw [foldl_cons]
    rcases kept with same | same <;> rw [same] at member ⊢ <;>
      rcases mem_cons.mp member with here | later <;> simp [*]

variable {self : WeightedLeastRequestBalancer E}

theorem head_mem (chosen : self.items.head?.map item = some endpoint) :
    endpoint ∈ self.items.map item := by
  rcases Option.map_eq_some_iff.mp chosen with ⟨item, first, rfl⟩
  exact mem_map_of_mem (mem_of_mem_head? first)

variable [BalancerCrates]

section

variable (self : WeightedLeastRequestBalancer E) (choice : Choice E)

def nextItemWrr : Option E × WeightedLeastRequestBalancer E :=
  if self.items.length ≤ 1 then
    (self.items.head?.map item, self)
  else
    let weights := self.items.map fun item =>
      item.weightUnder choice self.activeRequestBias
    let items := self.items.map fun item =>
      item.adjustCurrentWeight (item.weightUnder choice self.activeRequestBias)
    let total := Binary64.sum weights
    match splitBest (fun item best => best.currentWeight.lt item.currentWeight) items with
    | none => (none, { self with items := items })
    | some split =>
      let adjusted := split.modifyBest fun item =>
        { item with currentWeight := item.currentWeight - total }
      (some split.best.item, { self with items := adjusted.toList })

def nextItemP2c : Option E :=
  if self.items.length ≤ 1 then
    self.items.head?.map item
  else
    let chosenItems :=
      chooseMultiple self.items self.p2cChoiceCount (choice.random 0)
    let randomOffset := randomRange chosenItems.length (choice.random 1)
    match rotate chosenItems randomOffset self.p2cChoiceCount with
    | [] => none
    | firstItem :: rest => some (rest.foldl (lessLoaded choice) firstItem).item

def nextItem : Option E × WeightedLeastRequestBalancer E :=
  if self.allWeightsEqual then (self.nextItemP2c choice, self)
  else self.nextItemWrr choice

end

/-! ## The endpoint chosen -/

theorem nextItemP2c_mem (chosen : self.nextItemP2c choice = some endpoint) :
    endpoint ∈ self.items.map item := by
  unfold nextItemP2c at chosen
  split_ifs at chosen with few
  · exact head_mem chosen
  · simp only at chosen
    split at chosen
    · cases chosen
    · rename_i first rest rotated
      cases chosen
      have member := foldl_lessLoaded_mem choice first rest
      rw [← rotated] at member
      exact mem_map_of_mem (chooseMultiple_mem (mem_of_mem_rotate member))

theorem nextItemP2c_isSome (nonempty : self.items ≠ []) (choices : 0 < self.p2cChoiceCount)
    (choice : Choice E) : (self.nextItemP2c choice).isSome := by
  unfold nextItemP2c
  split_ifs with few
  · cases items : self.items with
    | nil => exact absurd items nonempty
    | cons item rest => rfl
  · have chosen : chooseMultiple self.items self.p2cChoiceCount
        (choice.random 0) ≠ [] := by
      rw [← length_pos_iff, chooseMultiple_length]
      omega
    simp only
    split
    · rename_i empty
      exact absurd empty (rotate_ne_nil chosen _ choices)
    · rfl

/-- One turn of the weighted round robin: the items stay, and the one chosen is one
of them. -/
theorem nextItemWrr_spec (nonempty : self.items ≠ []) (choice : Choice E) :
    ((self.nextItemWrr choice).2.items.map item = self.items.map item ∧
      (self.nextItemWrr choice).2.p2cChoiceCount = self.p2cChoiceCount) ∧
      ∃ item ∈ self.items, (self.nextItemWrr choice).1 = some item.item := by
  unfold nextItemWrr
  split_ifs with few
  · cases items : self.items with
    | nil => exact absurd items nonempty
    | cons item rest => simp
  · have raised : self.items.map (fun item => item.adjustCurrentWeight
        (item.weightUnder choice self.activeRequestBias)) ≠ [] := by
      simpa using nonempty
    rcases splitBest_isSome (fun item best : LeastLbItem E =>
      best.currentWeight.lt item.currentWeight) raised with ⟨split, scanned⟩
    have parts := congrArg (map item) (splitBest_toList scanned)
    simp only [Split.toList, map_append, map_cons, map_map] at parts
    simp only [scanned, and_true]
    refine ⟨?_, ?_⟩
    · simp only [Split.toList, Split.modifyBest, map_append, map_cons]
      exact parts
    · rcases mem_map.mp (splitBest_best_mem scanned) with ⟨item, member, same⟩
      refine ⟨item, member, ?_⟩
      rw [← same]
      rfl

variable [Endpoint E]

def fromIter (endpoints : List E) : WeightedLeastRequestBalancer E :=
  new (endpoints.map fun endpoint => .new (Endpoint.weight endpoint) endpoint)

instance : Balancer (WeightedLeastRequestBalancer E) E where
  fromIter := fromIter
  nextItem := nextItem

omit [Endpoint E] in
theorem nextItem_spec (choice : Choice E) (choices : self.p2cChoiceCount = defaultP2cChoiceCount) :
    ((self.nextItem choice).2.items.map item = self.items.map item ∧
      (self.nextItem choice).2.p2cChoiceCount = defaultP2cChoiceCount) ∧
    (∀ endpoint, (self.nextItem choice).1 = some endpoint → endpoint ∈ self.items.map item) ∧
    (self.items ≠ [] → (self.nextItem choice).1.isSome) := by
  unfold nextItem
  split_ifs with equal
  · refine ⟨⟨rfl, choices⟩, fun endpoint => nextItemP2c_mem, fun nonempty => ?_⟩
    exact nextItemP2c_isSome nonempty (by rw [choices]; decide) choice
  · by_cases empty : self.items = []
    · simp [nextItemWrr, empty, choices]
    · rcases nextItemWrr_spec empty choice with ⟨⟨kept, same⟩, item, member, chosen⟩
      refine ⟨⟨kept, same.trans choices⟩, ?_, ?_⟩
      · intro endpoint found
        rw [chosen] at found
        cases found
        exact mem_map_of_mem member
      · intro _
        rw [chosen]
        rfl

instance : LawfulBalancer (WeightedLeastRequestBalancer E) E where
  BuiltFrom endpoints self :=
    self.items.map item = endpoints ∧
      self.p2cChoiceCount = defaultP2cChoiceCount
  fromIter_builtFrom := by
    intro endpoints
    refine ⟨?_, rfl⟩
    change (endpoints.map _).map item = endpoints
    rw [map_map]
    exact map_id endpoints
  nextItem_builtFrom := by
    intro endpoints self choice built
    rcases nextItem_spec choice built.2 with ⟨⟨kept, choices⟩, _⟩
    exact ⟨kept.trans built.1, choices⟩
  nextItem_mem := by
    intro endpoints self choice endpoint built chosen
    rw [← built.1]
    exact (nextItem_spec choice built.2).2.1 endpoint chosen
  nextItem_isSome := by
    intro endpoints self choice built nonempty
    apply (nextItem_spec choice built.2).2.2
    intro empty
    exact nonempty (by simpa [empty] using built.1.symm)

end WeightedLeastRequestBalancer

end Orion.Clusters
