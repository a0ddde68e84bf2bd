import Orion.Foundation.Binary64
import Orion.Foundation.MachineInteger
import Orion.Foundation.Text

/-! # Load balancers

What the load balancers ask of an endpoint, what they offer, and the crates on
which they rely.
-/

namespace Orion.Clusters

open Foundation List Nat

/-! ## Health -/

inductive HealthStatus where
  | healthy
  | unhealthy
  deriving DecidableEq

inductive ValueUpdated where
  | updated
  | notUpdated
  deriving DecidableEq

namespace HealthStatus

def isHealthy (status : HealthStatus) : Bool := status = .healthy

def updateHealth (status health : HealthStatus) : HealthStatus × ValueUpdated :=
  if status = health then (status, .notUpdated) else (health, .updated)

end HealthStatus

/-! ## Endpoints -/

/-- An authority; two of them are equal when they differ in case only. -/
abbrev Authority := Text

/-- The traits of an endpoint that the balancers use. Weights come from
`NonZeroU32` configuration values. -/
class Endpoint (E : Type) where
  /-- `PartialEq`. -/
  same : E → E → Bool
  authority : E → Authority
  weight : E → Nat
  health : E → HealthStatus
  weight_pos : ∀ endpoint, 0 < weight endpoint
  weight_lt : ∀ endpoint, weight endpoint < U32.limit
  same_authority : ∀ {left right}, same left right = true →
    (authority left).eqIgnoreAsciiCase (authority right) = true

/-- What a choice of an endpoint depends on besides the balancer: the hash of the
request, the random numbers drawn, and the loads read. -/
structure Choice (E : Type) where
  hash : Option Nat
  random : Nat → Nat
  httpLoad : E → Nat

/-- `Balancer<E>` together with `FromIterator<Arc<E>>`. -/
class Balancer (B : Type) (E : outParam Type) where
  fromIter : List E → B
  nextItem : B → Choice E → Option E × B

/-- A balancer keeps choosing among the endpoints it was built from, and finds one
if there are any. -/
class LawfulBalancer (B : Type) (E : outParam Type) [Balancer B E] where
  /-- The states reached from the balancer built from some endpoints. -/
  BuiltFrom : List E → B → Prop
  fromIter_builtFrom : ∀ endpoints : List E, BuiltFrom endpoints (Balancer.fromIter endpoints)
  nextItem_builtFrom : ∀ {endpoints : List E} {balancer : B} (choice : Choice E),
    BuiltFrom endpoints balancer →
    BuiltFrom endpoints (Balancer.nextItem balancer choice).2
  nextItem_mem : ∀ {endpoints : List E} {balancer : B} {choice : Choice E} {endpoint : E},
    BuiltFrom endpoints balancer →
    (Balancer.nextItem balancer choice).1 = some endpoint → endpoint ∈ endpoints
  nextItem_isSome : ∀ {endpoints : List E} {balancer : B} (choice : Choice E),
    BuiltFrom endpoints balancer → endpoints ≠ [] →
    (Balancer.nextItem balancer choice).1.isSome = true

/-! ## Other crates -/

inductive Hashed where
  | authority (authority : Authority)
  | slot (index : Nat)
  deriving DecidableEq

/-- The `rand` crate, on a random number that it has drawn, the `twox_hash` crate
and the power function of the platform. -/
class BalancerCrates where
  /-- `WeightedIndex::sample`. -/
  sample : (weights : List Nat) → (random : Nat) → Nat
  /-- `IteratorRandom::choose_multiple`. -/
  chooseMultiple : {α : Type} → List α → (amount random : Nat) → List α
  /-- `Rng::random_range` of `0..bound`. -/
  randomRange : (bound random : Nat) → Nat
  xxHash64 : (seed : Nat) → List Hashed → Nat
  powf : Binary64 → Binary64 → Binary64
  sample_lt : ∀ {weights} {random}, 0 < weights.sum →
    sample weights random < weights.length
  chooseMultiple_length : ∀ {α : Type} (elements : List α) (amount random : Nat),
    (chooseMultiple elements amount random).length = min amount elements.length
  chooseMultiple_mem : ∀ {α : Type} {elements : List α} {amount random : Nat} {element},
    element ∈ chooseMultiple elements amount random → element ∈ elements

/-- An implementation of what the crates document, which shows that the facts above
are consistent and lets the model be evaluated. -/
@[reducible] def BalancerCrates.simple : BalancerCrates where
  sample weights random := random % weights.length
  chooseMultiple elements amount _ := elements.take amount
  randomRange bound random := random % bound
  xxHash64 seed hashed := seed + hashed.length
  powf base _ := base
  sample_lt := by
    intro weights random positive
    apply mod_lt
    cases weights with
    | nil => simp at positive
    | cons weight weights => simp
  chooseMultiple_length := by
    intro α elements amount random
    exact length_take
  chooseMultiple_mem := by
    intro α elements amount random element member
    exact mem_of_mem_take member

/-! ## Collecting weighted items -/

structure LbItem (E : Type) where
  item : E
  weight : Nat

/-- The longest beginning of a list whose total weight, added to `total`, fits in 32
bits, together with that sum. -/
def collectCheckedFrom (weight : α → Nat) : Nat → List α → List α × Nat
  | total, [] => ([], total)
  | total, item :: items =>
    if total + weight item < U32.limit then
      let (kept, sum) := collectCheckedFrom weight (total + weight item) items
      (item :: kept, sum)
    else
      ([], total)

def collectChecked (weight : α → Nat) (items : List α) : List α × Nat :=
  collectCheckedFrom weight 0 items

section

variable {α : Type} {weight : α → Nat}

theorem collectCheckedFrom_sublist (total : Nat) (items : List α) :
    (collectCheckedFrom weight total items).1.Sublist items := by
  induction items generalizing total with
  | nil => exact List.Sublist.refl _
  | cons item items induction =>
    rw [collectCheckedFrom]
    split_ifs with fits
    · exact (induction _).cons_cons item
    · exact nil_sublist _

theorem collectCheckedFrom_total (total : Nat) (items : List α) :
    (collectCheckedFrom weight total items).2 =
      total + ((collectCheckedFrom weight total items).1.map weight).sum := by
  induction items generalizing total with
  | nil => rfl
  | cons item items induction =>
    rw [collectCheckedFrom]
    split_ifs with fits
    · simp only [map_cons, sum_cons]
      rw [induction]
      omega
    · simp

theorem collectCheckedFrom_total_lt (fits : total < U32.limit) (items : List α) :
    (collectCheckedFrom weight total items).2 < U32.limit := by
  induction items generalizing total with
  | nil => exact fits
  | cons item items induction =>
    rw [collectCheckedFrom]
    split_ifs with itemFits
    · exact induction itemFits
    · exact fits

theorem collectCheckedFrom_of_fits (fits : total + (items.map weight).sum < U32.limit) :
    (collectCheckedFrom weight total items).1 = items := by
  induction items generalizing total with
  | nil => rfl
  | cons item items induction =>
    simp only [map_cons, sum_cons] at fits
    rw [collectCheckedFrom, if_pos (by omega)]
    simp only [cons.injEq, true_and]
    exact induction (by omega)

theorem collectChecked_of_fits (fits : (items.map weight).sum < U32.limit) :
    collectChecked weight items = (items, (items.map weight).sum) := by
  have kept : (collectChecked weight items).1 = items :=
    collectCheckedFrom_of_fits (by rwa [zero_add])
  apply Prod.ext kept
  rw [collectChecked, collectCheckedFrom_total, zero_add]
  exact congrArg (fun kept => (kept.map weight).sum) kept

theorem mem_of_mem_collectChecked (member : item ∈ (collectChecked weight items).1) :
    item ∈ items :=
  (collectCheckedFrom_sublist 0 items).subset member

theorem collectChecked_ne_nil (nonempty : items ≠ [])
    (small : ∀ item ∈ items, weight item < U32.limit) : (collectChecked weight items).1 ≠ [] := by
  cases items with
  | nil => exact absurd rfl nonempty
  | cons item items =>
    have fits : weight item < U32.limit := small item (by simp)
    simp [collectChecked, collectCheckedFrom, fits]

end

/-! ## Random choice

An endpoint is drawn with a probability proportional to its weight.
-/

structure RandomBalancer (E : Type) where
  items : List (LbItem E)
  /-- The weights of the distribution, which needs a positive one. -/
  weightedIndex : Option (List Nat)

namespace RandomBalancer

variable {E : Type}

def new (items : List (LbItem E)) : RandomBalancer E :=
  let items := (collectChecked LbItem.weight items).1
  let weights := items.map LbItem.weight
  ⟨items, if 0 < weights.sum then some weights else none⟩

def nextItem [BalancerCrates] (self : RandomBalancer E) (choice : Choice E) : Option E := do
  let weights ← self.weightedIndex
  let item ← self.items[BalancerCrates.sample weights (choice.random 0)]?
  return item.item

variable [Endpoint E]

def fromIter (endpoints : List E) : RandomBalancer E :=
  new (endpoints.map fun endpoint => ⟨endpoint, Endpoint.weight endpoint⟩)

variable {endpoints : List E}

theorem fromIter_mem (member : item ∈ (fromIter endpoints).items) : item.item ∈ endpoints := by
  rcases mem_map.mp (mem_of_mem_collectChecked member) with ⟨endpoint, known, rfl⟩
  exact known

theorem fromIter_weight_pos (member : item ∈ (fromIter endpoints).items) : 0 < item.weight := by
  rcases mem_map.mp (mem_of_mem_collectChecked member) with ⟨endpoint, _, rfl⟩
  exact Endpoint.weight_pos endpoint

theorem fromIter_ne_nil (nonempty : endpoints ≠ []) : (fromIter endpoints).items ≠ [] := by
  apply collectChecked_ne_nil
  · simpa using nonempty
  · intro item member
    rcases mem_map.mp member with ⟨endpoint, _, rfl⟩
    exact Endpoint.weight_lt endpoint

theorem fromIter_weightedIndex (nonempty : endpoints ≠ []) :
    0 < ((fromIter endpoints).items.map LbItem.weight).sum ∧
      (fromIter endpoints).weightedIndex = some ((fromIter endpoints).items.map LbItem.weight) := by
  have positive : 0 < ((fromIter endpoints).items.map LbItem.weight).sum := by
    cases items : (fromIter endpoints).items with
    | nil => exact absurd items (fromIter_ne_nil nonempty)
    | cons item rest =>
      have member : item ∈ (fromIter endpoints).items := by simp [items]
      have itemPositive := fromIter_weight_pos member
      simp only [map_cons, sum_cons]
      omega
  exact ⟨positive, if_pos positive⟩

variable [BalancerCrates]

instance : Balancer (RandomBalancer E) E where
  fromIter := fromIter
  nextItem self choice := (self.nextItem choice, self)

omit [Endpoint E] in
theorem nextItem_mem {self : RandomBalancer E} (chosen : self.nextItem choice = some endpoint) :
    ∃ item ∈ self.items, item.item = endpoint := by
  simp only [nextItem, Option.bind_eq_bind, Option.pure_def, Option.bind_eq_some_iff] at chosen
  rcases chosen with ⟨weights, _, item, found, same⟩
  exact ⟨item, mem_of_getElem? found, Option.some_inj.mp same⟩

theorem nextItem_isSome (nonempty : endpoints ≠ [])
    (choice : Choice E) : ((fromIter endpoints).nextItem choice).isSome := by
  rcases fromIter_weightedIndex nonempty with ⟨positive, index⟩
  have inRange : BalancerCrates.sample _ (choice.random 0) < _ :=
    BalancerCrates.sample_lt positive
  rw [length_map] at inRange
  simp [nextItem, index, getElem?_eq_getElem inRange]

instance : LawfulBalancer (RandomBalancer E) E where
  BuiltFrom endpoints self := self = fromIter endpoints
  fromIter_builtFrom _ := rfl
  nextItem_builtFrom := by
    intro endpoints self choice built
    exact built
  nextItem_mem := by
    intro endpoints self choice endpoint built chosen
    subst built
    rcases nextItem_mem chosen with ⟨item, member, rfl⟩
    exact fromIter_mem member
  nextItem_isSome := by
    intro endpoints self choice built nonempty
    subst built
    exact nextItem_isSome nonempty choice

end RandomBalancer

end Orion.Clusters
