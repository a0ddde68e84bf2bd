import Orion.Clusters.Balancers.Balancer

/-! # Ring hash

Every endpoint owns slots of a ring, as many as its weight asks for. A request goes
to the owner of the first slot whose hash is not below its own.
-/

namespace Orion.Clusters

open Foundation List
open Option hiding choice

structure RingHashBalancer (E : Type) where
  items : List (LbItem E)
  /-- The hash of each slot and the position of its owner. -/
  ring : List (Nat × Nat)

namespace RingHashBalancer

def defaultMinRingSize : Nat := 1024

def defaultMaxRingSize : Nat := 1024 * 1024 * 8

/-- The turns that the slot loop can take. At this number the counter of slots,
which is a double-precision number, stops growing. -/
def slotLimit : Nat := 2 ^ 53

/-! ## Sizes -/

/-- The factor from normalised weights to numbers of slots. -/
def scaleFor (minimumWeight : Binary64) (minRingSize maxRingSize : Nat) : Binary64 :=
  ((minimumWeight * .ofNat minRingSize).ceil / minimumWeight).min (.ofNat maxRingSize)

/-- `reduce(f64::min)`. -/
def minimumOf : List Binary64 → Option Binary64
  | [] => none
  | first :: rest => some (rest.foldl Binary64.min first)

theorem normalized_within (positive : 0 < weight) (part : weight ≤ total)
    (fits : total < U32.limit) : Binary64.Within (1 / 2 ^ 32) 1 (.ofNat weight / .ofNat total) := by
  have totalSmall : (total : ℚ) ≤ 2 ^ 32 := by
    have : total ≤ 2 ^ 32 := fits.le
    exact_mod_cast this
  have weightLarge : (1 : ℚ) ≤ weight := by exact_mod_cast positive
  have weightSmall : (weight : ℚ) ≤ total := by exact_mod_cast part
  have totalPositive : (0 : ℚ) < total := by linarith
  have bound : U32.limit ≤ 2 ^ 53 := by decide
  refine (Binary64.ofNat_within (by omega)).div (Binary64.ofNat_within (by omega))
    (by linarith) totalPositive ?_ .natCast ?_ ?_
  · simpa using Representable.dyadic 1 32 (by norm_num) (by norm_num)
  · exact div_le_div₀ (by linarith) weightLarge totalPositive totalSmall
  · exact (div_le_one totalPositive).mpr weightSmall

variable {minimum : Binary64}

theorem minimumOf_within (found : minimumOf numbers = some minimum)
    (within : ∀ number ∈ numbers, Binary64.Within low high number) :
    Binary64.Within low high minimum := by
  cases numbers with
  | nil => cases found
  | cons first rest =>
    cases found
    have start := within first (by simp)
    have others : ∀ number ∈ rest, Binary64.Within low high number :=
      fun number member => within number (by simp [member])
    clear within
    induction rest generalizing first with
    | nil => exact start
    | cons number rest induction =>
      apply induction (first.min number)
      · simpa using start.min (others number (by simp))
      · intro other member
        exact others other (by simp [member])

/-- The ring has at least as many slots as weight asks for, and not too many. -/
theorem scaleFor_within (within : Binary64.Within (1 / 2 ^ 32) 1 minimum) :
    Binary64.Within 1 defaultMaxRingSize
      (scaleFor minimum defaultMinRingSize defaultMaxRingSize) := by
  have product : Binary64.Within (1 / 2 ^ 22) 1024 (minimum * .ofNat defaultMinRingSize) := by
    refine within.mul (Binary64.ofNat_within (by decide)) (by norm_num)
      (by simp [defaultMinRingSize]) ?_ .natCast ?_ ?_
    · simpa using Representable.dyadic 1 22 (by norm_num) (by norm_num)
    · norm_num [defaultMinRingSize]
    · norm_num [defaultMinRingSize]
  have rounded : Binary64.Within 1 1024 (minimum * .ofNat defaultMinRingSize).ceil := by
    apply product.ceil .natCast .natCast
    · norm_num
    · norm_num
  have quotient : Binary64.Within 1 (2 ^ 42 : ℕ)
      ((minimum * .ofNat defaultMinRingSize).ceil / minimum) := rounded.div within
  have largest : Binary64.Within defaultMaxRingSize defaultMaxRingSize
      (.ofNat defaultMaxRingSize) := Binary64.ofNat_within (by decide)
  refine (quotient.min largest).mono ?_ ?_
  · norm_num [defaultMaxRingSize]
  · exact min_le_right _ _

/-! ## The ring -/

variable {E : Type} [Endpoint E] [BalancerCrates]

/-- The `while` loop that adds slots for one item until the target is reached. -/
def addSlots (itemKey : Authority) (index : Nat) (targetSlots : Binary64) :
    Nat → Nat → Binary64 → List (Nat × Nat) × Binary64
  | 0, _, currentSlots => ([], currentSlots)
  | turns + 1, slotIndex, currentSlots =>
    if currentSlots.lt targetSlots then
      let hash := BalancerCrates.xxHash64 0 [.authority itemKey, .slot slotIndex]
      let (slots, reached) :=
        addSlots itemKey index targetSlots turns (slotIndex + 1)
          (currentSlots + .ofExact 1)
      ((hash, index) :: slots, reached)
    else
      ([], currentSlots)

def fillRing (scale : Binary64) :
    List (LbItem E × Binary64) → Nat → Binary64 → Binary64 → List (Nat × Nat)
  | [], _, _, _ => []
  | (item, weight) :: rest, index, currentSlots, targetSlots =>
    let targetSlots := targetSlots + weight * scale
    let (slots, currentSlots) :=
      addSlots (Endpoint.authority item.item) index targetSlots slotLimit 0 currentSlots
    slots ++ fillRing scale rest (index + 1) currentSlots targetSlots

def newWithSettings (items : List (LbItem E)) (minRingSize maxRingSize : Nat) :
    RingHashBalancer E :=
  let (items, totalWeight) := collectChecked LbItem.weight items
  let normalizedWeights := items.map fun item => .ofNat item.weight / .ofNat totalWeight
  let ring := match minimumOf normalizedWeights with
    | none => []
    | some minimumWeight =>
      let scale := scaleFor minimumWeight minRingSize maxRingSize
      (fillRing scale (items.zip normalizedWeights) 0 (.ofExact 0) (.ofExact 0)).mergeSort
        fun left right => left.1 ≤ right.1
  ⟨items, ring⟩

def new (items : List (LbItem E)) : RingHashBalancer E :=
  newWithSettings items defaultMinRingSize defaultMaxRingSize

def fromIter (endpoints : List E) : RingHashBalancer E :=
  new (endpoints.map fun endpoint => ⟨endpoint, Endpoint.weight endpoint⟩)

/-- The binary search finds a slot with the hash, or where it would be inserted. -/
def search (ring : List (Nat × Nat)) (hash : Nat) : Nat :=
  (ring.takeWhile fun slot => slot.1 < hash).length

def nextItem (self : RingHashBalancer E) (choice : Choice E) : Option E :=
  if self.items.length ≤ 1 then
    self.items.head?.map LbItem.item
  else do
    let hash := choice.hash.getD (choice.random 0)
    let ringIndex := min (search self.ring hash) (self.ring.length - 1)
    let slot ← self.ring[ringIndex]?
    let item ← self.items[slot.2]?
    return item.item

instance : Balancer (RingHashBalancer E) E where
  fromIter := fromIter
  nextItem self choice := (self.nextItem choice, self)

/-! ## The slots -/

variable {index : Nat} {currentSlots : Binary64}

omit [Endpoint E] in
theorem addSlots_index
    (member : slot ∈ (addSlots itemKey index targetSlots turns slotIndex currentSlots).1) :
    slot.2 = index := by
  induction turns generalizing slotIndex currentSlots with
  | zero => simp [addSlots] at member
  | succ turns induction =>
    rw [addSlots] at member
    split_ifs at member with below
    · rcases mem_cons.mp member with rfl | later
      · rfl
      · exact induction later
    · simp at member

theorem fillRing_index {weighted : List (LbItem E × Binary64)}
    (member : slot ∈ fillRing scale weighted index currentSlots targetSlots) :
    index ≤ slot.2 ∧ slot.2 < index + weighted.length := by
  induction weighted generalizing index currentSlots targetSlots with
  | nil => simp [fillRing] at member
  | cons entry rest induction =>
    simp only [fillRing, mem_append] at member
    simp only [length_cons]
    rcases member with own | later
    · have same := addSlots_index own
      omega
    · have bounds := induction later
      omega

variable {item : LbItem E}

theorem fillRing_ne_nil (below : currentSlots.lt (targetSlots + weight * scale)) :
    fillRing scale ((item, weight) :: rest) index currentSlots targetSlots ≠ [] := by
  have turns : ∃ turns, slotLimit = turns + 1 := ⟨2 ^ 53 - 1, by decide⟩
  rcases turns with ⟨turns, equal⟩
  simp [fillRing, equal, addSlots, below]

/-- The first item of a ring gets a slot, however small its share is. -/
theorem fillRing_ne_nil_of_share (shareWithin : Binary64.Within (1 / 2 ^ 32) 1 share)
    (minimumWithin : Binary64.Within (1 / 2 ^ 32) 1 minimum) :
    fillRing (scaleFor minimum defaultMinRingSize defaultMaxRingSize)
      ((item, share) :: rest) 0 (.ofExact 0) (.ofExact 0) ≠ [] := by
  have least : Representable (1 / 2 ^ 32) := by
    simpa using Representable.dyadic 1 32 (by norm_num) (by norm_num)
  have most : Representable defaultMaxRingSize := Representable.natCast (by decide)
  have start : Binary64.Within 0 0 (.ofExact 0) := Binary64.ofExact_within
  have slots := shareWithin.mul (scaleFor_within minimumWithin) (by norm_num) (by norm_num)
    least most
  have target := start.add slots least most
  exact fillRing_ne_nil (start.lt target (by norm_num))

/-! ## The endpoint chosen -/

variable {endpoints : List E}

theorem fromIter_mem (member : item ∈ (fromIter endpoints).items) :
    item.item ∈ endpoints ∧ 0 < item.weight := by
  rcases mem_map.mp (mem_of_mem_collectChecked member) with ⟨endpoint, known, rfl⟩
  exact ⟨known, Endpoint.weight_pos endpoint⟩

theorem fromIter_ne_nil (nonempty : endpoints ≠ []) : (fromIter endpoints).items ≠ [] := by
  apply collectChecked_ne_nil
  · simpa using nonempty
  · intro item member
    rcases mem_map.mp member with ⟨endpoint, _, rfl⟩
    exact Endpoint.weight_lt endpoint

theorem newWithSettings_index {items : List (LbItem E)}
    (member : slot ∈ (newWithSettings items minRingSize maxRingSize).ring) :
    slot.2 < (newWithSettings items minRingSize maxRingSize).items.length := by
  simp only [newWithSettings] at member ⊢
  split at member
  · simp at member
  · have bounds := fillRing_index ((mergeSort_perm _ _).mem_iff.mp member)
    simpa using bounds.2

theorem newWithSettings_ring_ne_nil {items : List (LbItem E)}
    (positive : ∀ item ∈ items, 0 < item.weight)
    (nonempty : (collectChecked LbItem.weight items).1 ≠ []) :
    (newWithSettings items defaultMinRingSize defaultMaxRingSize).ring ≠ [] := by
  have share : ∀ item ∈ (collectChecked LbItem.weight items).1, Binary64.Within (1 / 2 ^ 32) 1
        (.ofNat item.weight / .ofNat (collectChecked LbItem.weight items).2) := by
    intro item member
    apply normalized_within
    · exact positive item (mem_of_mem_collectChecked member)
    · rw [collectChecked, collectCheckedFrom_total, Nat.zero_add]
      exact single_le_sum (by simp) _ (mem_map_of_mem member)
    · exact collectCheckedFrom_total_lt (by decide) items
  simp only [newWithSettings]
  cases kept : (collectChecked LbItem.weight items).1 with
  | nil => exact absurd kept nonempty
  | cons first rest =>
    rw [kept] at share
    cases found : minimumOf ((first :: rest).map fun item =>
        .ofNat item.weight / .ofNat (collectChecked LbItem.weight items).2) with
    | none => cases found
    | some minimum =>
      have minimumWithin : Binary64.Within (1 / 2 ^ 32) 1 minimum := by
        apply minimumOf_within found
        intro number member
        rcases mem_map.mp member with ⟨item, known, rfl⟩
        exact share item known
      rw [← length_pos_iff, length_mergeSort, length_pos_iff]
      exact fillRing_ne_nil_of_share (share first (by simp)) minimumWithin

omit [Endpoint E] [BalancerCrates] in
theorem nextItem_mem {self : RingHashBalancer E} (chosen : self.nextItem choice = some endpoint) :
    ∃ item ∈ self.items, item.item = endpoint := by
  unfold nextItem at chosen
  split_ifs at chosen with few
  · rcases map_eq_some_iff.mp chosen with ⟨item, first, rfl⟩
    exact ⟨item, mem_of_mem_head? first, rfl⟩
  · simp only [Option.bind_eq_bind, Option.pure_def, Option.bind_eq_some_iff] at chosen
    rcases chosen with ⟨slot, _, item, found, same⟩
    exact ⟨item, mem_of_getElem? found, some_inj.mp same⟩

theorem nextItem_isSome (nonempty : endpoints ≠ [])
    (choice : Choice E) : ((fromIter endpoints).nextItem choice).isSome := by
  have itemsNonempty := fromIter_ne_nil nonempty
  unfold nextItem
  split_ifs with few
  · cases items : (fromIter endpoints).items with
    | nil => exact absurd items itemsNonempty
    | cons item rest => rfl
  · have ringNonempty : (fromIter endpoints).ring ≠ [] := by
      apply newWithSettings_ring_ne_nil _ itemsNonempty
      intro item member
      rcases mem_map.mp member with ⟨endpoint, _, rfl⟩
      exact Endpoint.weight_pos endpoint
    have ringPositive := length_pos_iff.mpr ringNonempty
    have inRange : min (search (fromIter endpoints).ring
        (choice.hash.getD (choice.random 0))) ((fromIter endpoints).ring.length - 1) <
          (fromIter endpoints).ring.length := by omega
    have found := getElem?_eq_getElem inRange
    have owner : _ < (fromIter endpoints).items.length :=
      newWithSettings_index (mem_of_getElem? found)
    simp only [bind_eq_bind, found, bind_some, getElem?_eq_getElem owner]
    rfl

instance : LawfulBalancer (RingHashBalancer E) E where
  BuiltFrom endpoints self := self = fromIter endpoints
  fromIter_builtFrom _ := rfl
  nextItem_builtFrom := by
    intro endpoints self choice built
    exact built
  nextItem_mem := by
    intro endpoints self choice endpoint built chosen
    subst built
    rcases nextItem_mem chosen with ⟨item, member, rfl⟩
    exact (fromIter_mem member).1
  nextItem_isSome := by
    intro endpoints self choice built nonempty
    subst built
    exact nextItem_isSome nonempty choice

end RingHashBalancer

end Orion.Clusters
