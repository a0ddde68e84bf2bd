import Orion.Clusters.Balancers.Balancer

/-! # Maglev hashing

A lookup table that the endpoints fill in turns, each along its own permutation of
the positions and as often as its weight allows.
-/

namespace Orion.Clusters

open Foundation List Endpoint
open Option hiding choice

/-- The order in which an item asks for positions of the table. -/
structure Permutation where
  offset : Nat
  skip : Nat
  weight : Binary64
  currentWeight : Binary64
  targetWeight : Binary64
  next : Nat

namespace Permutation

def offsetSeed : Nat := 0

def skipSeed : Nat := 1

def new [BalancerCrates] (tableSize : Nat) (authority : Authority)
    (weight targetWeight : Binary64) : Permutation where
  offset := BalancerCrates.xxHash64 offsetSeed [.authority authority] % tableSize
  skip := BalancerCrates.xxHash64 skipSeed [.authority authority] % (tableSize - 1) + 1
  weight := weight
  currentWeight := targetWeight
  targetWeight := targetWeight
  next := 0

def hasEnoughWeightAfterIterating (self : Permutation) : Bool × Permutation :=
  let currentWeight := self.currentWeight + self.weight
  if currentWeight.ge self.targetWeight then
    (true, { self with currentWeight := currentWeight - self.targetWeight })
  else
    (false, { self with currentWeight := currentWeight })

def nextIndex (self : Permutation) (tableSize : Nat) : Nat × Permutation :=
  ((self.offset + self.skip * self.next) % tableSize, { self with next := self.next + 1 })

end Permutation

structure TableBuilder where
  table : List (Option Nat)
  size : Nat

namespace TableBuilder

def new (tableSize : Nat) : TableBuilder := ⟨replicate tableSize none, 0⟩

def tryUpdate (self : TableBuilder) (index value : Nat) : Option TableBuilder :=
  match self.table[index]? with
  | some none => some ⟨self.table.set index (some value), self.size + 1⟩
  | some (some _) | none => none

def isFull (self : TableBuilder) (tableSize : Nat) : Bool := tableSize ≤ self.size

def build (self : TableBuilder) : List Nat := self.table.map fun entry => entry.getD 0

/-- The first free position that the permutation asks for, in at most `turns`
tries. -/
def place (tableSize itemIndex : Nat) :
    Nat → Permutation → TableBuilder → Permutation × TableBuilder
  | 0, permutation, table => (permutation, table)
  | turns + 1, permutation, table =>
    let (index, permutation) := permutation.nextIndex tableSize
    match table.tryUpdate index itemIndex with
    | some table => (permutation, table)
    | none => place tableSize itemIndex turns permutation table

/-- One round: every item that has gathered enough weight takes a position, until
the table is full. -/
def round (tableSize : Nat) :
    Nat → List Permutation → TableBuilder → List Permutation × TableBuilder
  | _, [], table => ([], table)
  | itemIndex, permutation :: rest, table =>
    if table.isFull tableSize then
      (permutation :: rest, table)
    else
      let (enough, permutation) := permutation.hasEnoughWeightAfterIterating
      let (permutation, table) :=
        if enough then place tableSize itemIndex tableSize permutation table
        else (permutation, table)
      let (rest, table) := round tableSize (itemIndex + 1) rest table
      (permutation :: rest, table)

/-- The rounds. Once the table is full, a round changes nothing, so leaving the loop
at that point need not be told apart. -/
def rounds (tableSize : Nat) : Nat → List Permutation → TableBuilder → TableBuilder
  | 0, _, table => table
  | turns + 1, permutations, table =>
    let (permutations, table) := round tableSize 0 permutations table
    rounds tableSize turns permutations table

/-! ## What the table holds -/

structure Holds (tableSize items : Nat) (builder : TableBuilder) : Prop where
  length : builder.table.length = tableSize
  entries : ∀ value, some value ∈ builder.table → value < items

variable {tableSize items : Nat}

theorem new_holds : Holds tableSize items (new tableSize) where
  length := length_replicate
  entries := by
    intro value member
    have impossible := eq_of_mem_replicate member
    cases impossible

variable {self : TableBuilder}

theorem Holds.tryUpdate {next : TableBuilder} (holds : self.Holds tableSize items)
    (known : value < items) (updated : self.tryUpdate index value = some next) :
    next.Holds tableSize items := by
  unfold TableBuilder.tryUpdate at updated
  split at updated
  · cases updated
    refine ⟨by rw [length_set, holds.length], ?_⟩
    intro other member
    rcases mem_or_eq_of_mem_set member with earlier | same
    · exact holds.entries other earlier
    · cases same
      exact known
  · cases updated
  · cases updated

theorem Holds.place (holds : self.Holds tableSize items) (known : itemIndex < items) (turns : Nat)
    (permutation : Permutation) :
    (place tableSize itemIndex turns permutation self).2.Holds tableSize items := by
  induction turns generalizing permutation with
  | zero => exact holds
  | succ turns induction =>
    rw [TableBuilder.place]
    simp only
    split
    · rename_i updated
      exact holds.tryUpdate known updated
    · exact induction _

theorem round_length (itemIndex : Nat) (permutations : List Permutation) (self : TableBuilder) :
    (round tableSize itemIndex permutations self).1.length = permutations.length := by
  induction permutations generalizing itemIndex self with
  | nil => rfl
  | cons permutation rest induction =>
    rw [TableBuilder.round]
    split_ifs
    · rfl
    · simp [induction]

theorem Holds.round (holds : self.Holds tableSize items) {permutations : List Permutation}
    (known : itemIndex + permutations.length ≤ items) :
    (round tableSize itemIndex permutations self).2.Holds tableSize items := by
  induction permutations generalizing itemIndex self with
  | nil => exact holds
  | cons permutation rest induction =>
    rw [length_cons] at known
    rw [TableBuilder.round]
    split_ifs with full
    · exact holds
    · apply induction _ (by omega)
      split_ifs with enough
      · exact holds.place (by omega) _ _
      · exact holds

theorem Holds.rounds (holds : self.Holds tableSize items) (turns : Nat)
    {permutations : List Permutation} (known : permutations.length ≤ items) :
    (rounds tableSize turns permutations self).Holds tableSize items := by
  induction turns generalizing self permutations with
  | zero => exact holds
  | succ turns induction =>
    apply induction (holds.round (by omega))
    rw [round_length]
    exact known

theorem Holds.build (holds : self.Holds tableSize items) (positive : 0 < items) :
    self.build.length = tableSize ∧ ∀ value ∈ self.build, value < items := by
  refine ⟨by rw [TableBuilder.build, length_map, holds.length], ?_⟩
  intro value member
  rcases mem_map.mp member with ⟨entry, known, rfl⟩
  cases entry with
  | none => exact positive
  | some value => exact holds.entries value known

end TableBuilder

structure MaglevBalancer (E : Type) where
  items : List (LbItem E)
  table : List Nat

namespace MaglevBalancer

def defaultTableSize : Nat := 65537

/-- `reduce(f64::max)`. -/
def maximumOf : List Binary64 → Option Binary64
  | [] => none
  | first :: rest => some (rest.foldl Binary64.max first)

def authorityLe (left right : Authority) : Bool :=
  decide (left.toAsciiLower ≤ right.toAsciiLower)

variable {E : Type}

def nextItem (self : MaglevBalancer E) (choice : Choice E) : Option E :=
  if self.items.length ≤ 1 then
    self.items.head?.map LbItem.item
  else do
    let hash := choice.hash.getD (choice.random 0)
    let index ← self.table[hash % self.table.length]?
    let item ← self.items[index]?
    return item.item

variable [Endpoint E] [BalancerCrates]

def withSize (tableSize : Nat) (items : List (LbItem E)) : MaglevBalancer E :=
  let (items, totalWeight) := collectChecked LbItem.weight items
  let items := items.mergeSort fun left right =>
    authorityLe (authority left.item) (authority right.item)
  let normalized := fun item : LbItem E => .ofNat item.weight / .ofNat totalWeight
  let table := match items.length, maximumOf (items.map normalized) with
    | _, none => []
    | 1, some _ => [0]
    | _, some maxNormalizedWeight =>
      let permutations := items.map fun item =>
        Permutation.new tableSize (authority item.item) (normalized item)
          maxNormalizedWeight
      (TableBuilder.rounds tableSize tableSize permutations
        (TableBuilder.new tableSize)).build
  ⟨items, table⟩

def new (items : List (LbItem E)) : MaglevBalancer E := withSize defaultTableSize items

def fromIter (endpoints : List E) : MaglevBalancer E :=
  new (endpoints.map fun endpoint => ⟨endpoint, weight endpoint⟩)

instance : Balancer (MaglevBalancer E) E where
  fromIter := fromIter
  nextItem self choice := (self.nextItem choice, self)

/-! ## The endpoint chosen -/

theorem withSize_items_perm (tableSize : Nat) (items : List (LbItem E)) :
    (withSize tableSize items).items.Perm (collectChecked LbItem.weight items).1 :=
  mergeSort_perm _ _

theorem withSize_table {tableSize : Nat} {items : List (LbItem E)}
    (several : 1 < (withSize tableSize items).items.length) :
    (withSize tableSize items).table.length = tableSize ∧
      ∀ value ∈ (withSize tableSize items).table,
        value < (withSize tableSize items).items.length := by
  simp only [withSize] at several ⊢
  split
  · rename_i missing
    cases sorted : (collectChecked LbItem.weight items).1.mergeSort fun left right =>
        authorityLe (authority left.item) (authority right.item) with
    | nil => simp [sorted] at several
    | cons item rest => simp [sorted, maximumOf] at missing
  · omega
  · apply TableBuilder.Holds.build _ (by omega)
    apply TableBuilder.new_holds.rounds
    rw [length_map]

variable {endpoints : List E}

theorem fromIter_mem (member : item ∈ (fromIter endpoints).items) : item.item ∈ endpoints := by
  have kept := (withSize_items_perm _ _).mem_iff.mp member
  rcases mem_map.mp (mem_of_mem_collectChecked kept) with ⟨endpoint, known, rfl⟩
  exact known

theorem fromIter_ne_nil (nonempty : endpoints ≠ []) : (fromIter endpoints).items ≠ [] := by
  intro empty
  have perm := withSize_items_perm defaultTableSize
    (endpoints.map fun endpoint => ⟨endpoint, weight endpoint⟩)
  rw [show (withSize _ _).items = [] from empty] at perm
  apply collectChecked_ne_nil _ _ perm.symm.eq_nil
  · simpa using nonempty
  · intro item member
    rcases mem_map.mp member with ⟨endpoint, _, rfl⟩
    exact weight_lt endpoint

omit [Endpoint E] [BalancerCrates] in
theorem nextItem_mem {self : MaglevBalancer E} (chosen : self.nextItem choice = some endpoint) :
    ∃ item ∈ self.items, item.item = endpoint := by
  unfold nextItem at chosen
  split_ifs at chosen with few
  · rcases map_eq_some_iff.mp chosen with ⟨item, first, rfl⟩
    exact ⟨item, mem_of_mem_head? first, rfl⟩
  · simp only [Option.bind_eq_bind, Option.pure_def, Option.bind_eq_some_iff] at chosen
    rcases chosen with ⟨index, _, item, found, same⟩
    exact ⟨item, mem_of_getElem? found, some_inj.mp same⟩

theorem nextItem_isSome (nonempty : endpoints ≠ [])
    (choice : Choice E) : ((fromIter endpoints).nextItem choice).isSome := by
  have itemsNonempty := fromIter_ne_nil nonempty
  unfold nextItem
  split_ifs with few
  · cases items : (fromIter endpoints).items with
    | nil => exact absurd items itemsNonempty
    | cons item rest => rfl
  · rcases withSize_table (not_le.mp few) with ⟨length, entries⟩
    have inRange : choice.hash.getD (choice.random 0) % (fromIter endpoints).table.length <
        (fromIter endpoints).table.length := by
      apply Nat.mod_lt
      rw [show (fromIter endpoints).table.length = defaultTableSize from length]
      decide
    have found := getElem?_eq_getElem inRange
    have known : _ < (fromIter endpoints).items.length :=
      entries _ (mem_of_getElem? found)
    simp only [bind_eq_bind, found, bind_some, getElem?_eq_getElem known]
    rfl

instance : LawfulBalancer (MaglevBalancer E) E where
  BuiltFrom endpoints self := self = fromIter endpoints
  fromIter_builtFrom _ := rfl
  nextItem_builtFrom := by
    intro endpoints self choice built
    exact built
  nextItem_mem := by
    intro endpoints self choice endpoint built chosen
    subst built
    rcases nextItem_mem chosen with ⟨item, member, rfl⟩
    exact fromIter_mem member
  nextItem_isSome := by
    intro endpoints self choice built nonempty
    subst built
    exact nextItem_isSome nonempty choice

end MaglevBalancer

/-! ## The Maglev lookup table

The table depends on the endpoints only, not on the order in which they are given.
-/

/-- Endpoints that are nothing but their authority, all of the same weight. -/
@[reducible] def Endpoint.ofName : Endpoint Text where
  same left right := left.eqIgnoreAsciiCase right
  authority := id
  weight _ := 1
  health _ := .healthy
  weight_pos _ := Nat.one_pos
  weight_lt _ := by decide
  same_authority := id

namespace MaglevBalancer

/-! ## The order of the endpoints -/

def sortingKey [Endpoint E] (item : LbItem E) : Text :=
  Text.toAsciiLower (authority item.item)

variable {E : Type} [Endpoint E]

theorem mergeSort_of_perm {items : List (LbItem E)} (perm : items.Perm others)
    (distinct : (items.map sortingKey).Nodup) : (items.mergeSort fun left right =>
        authorityLe (authority left.item) (authority right.item)) =
      others.mergeSort fun left right =>
        authorityLe (authority left.item) (authority right.item) := by
  have sorts : ∀ list : List (LbItem E), (list.mergeSort fun left right =>
      authorityLe (authority left.item) (authority right.item)).Pairwise
        fun left right => sortingKey left ≤ sortingKey right := by
    intro list
    refine (pairwise_mergeSort ?_ ?_ list).imp of_decide_eq_true
    · intro first second third low high
      have lower : sortingKey first ≤ sortingKey second := of_decide_eq_true low
      have higher : sortingKey second ≤ sortingKey third := of_decide_eq_true high
      exact decide_eq_true (lower.trans higher)
    · intro left right
      simpa [authorityLe] using le_total (sortingKey left) (sortingKey right)
  refine List.Perm.eq_of_pairwise ?_ (sorts items) (sorts others)
    ((mergeSort_perm _ _).trans (perm.trans (mergeSort_perm _ _).symm))
  intro left right inItems inOthers low high
  exact inj_on_of_nodup_map distinct (mem_mergeSort.mp inItems)
    (perm.mem_iff.mpr (mem_mergeSort.mp inOthers)) (le_antisymm low high)

variable [BalancerCrates]

/-- The order in which the endpoints are given changes nothing, if their authorities are
distinct. -/
theorem nextItem_of_perm (tableSize : Nat) (items others : List (LbItem E))
    (perm : items.Perm others) (distinct : items.Pairwise fun left right =>
      (authority left.item).eqIgnoreAsciiCase (authority right.item) = false)
    (fits : (items.map LbItem.weight).sum < U32.limit) (choice : Choice E) :
    ((withSize tableSize items).nextItem choice).map authority =
      ((withSize tableSize others).nextItem choice).map authority := by
  have keys : (items.map sortingKey).Nodup :=
    pairwise_map.mpr (distinct.imp ne_of_beq_false)
  have total := (perm.map LbItem.weight).sum_nat
  rw [withSize, withSize, collectChecked_of_fits fits, collectChecked_of_fits (total ▸ fits), total]
  dsimp only
  rw [mergeSort_of_perm perm keys]

omit [BalancerCrates] in
theorem nextItem_of_swap :
    letI := ofName
    letI := BalancerCrates.simple
    ((withSize 2 [⟨['a'], 1⟩, ⟨['b'], 2⟩]).nextItem ⟨some 1, id, fun _ => 0⟩).map
        authority =
      ((withSize 2 [⟨['b'], 2⟩, ⟨['a'], 1⟩]).nextItem ⟨some 1, id, fun _ => 0⟩).map
        authority :=
  let _ := ofName
  let _ := BalancerCrates.simple
  nextItem_of_perm 2 _ _ (.swap _ _ []) (by decide) (by decide) ⟨some 1, id, fun _ => 0⟩

end MaglevBalancer

end Orion.Clusters
