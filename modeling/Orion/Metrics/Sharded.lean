import Orion.Foundation.MultiMap

/-! # Counters in shards

A counter is kept once in each shard, and a reading adds the shards up. A shard does not go
below zero, so that what is subtracted on another shard than it was added on is lost.
-/

namespace Orion.Metrics

open Foundation UInt64.CommRing List

/-- The counters of all shards, under the shard and the key. -/
abbrev ShardedU64 (S K : Type) := List ((S × K) × UInt64)

def saturatingSub (current value : UInt64) : UInt64 := if current < value then 0 else current - value

inductive Operation (S K : Type) where
  | add (value : UInt64) (shardId : S) (key : K)
  | sub (value : UInt64) (shardId : S) (key : K)

namespace ShardedU64

variable {S K : Type} [DecidableEq S] [DecidableEq K]

def add (value : UInt64) (shardId : S) (key : K) : ShardedU64 S K → ShardedU64 S K
  | [] => [((shardId, key), value)]
  | (held, counter) :: rest =>
    if held = (shardId, key) then (held, counter + value) :: rest
    else (held, counter) :: add value shardId key rest

def sub (value : UInt64) (shardId : S) (key : K) : ShardedU64 S K → ShardedU64 S K
  | [] => []
  | (held, counter) :: rest =>
    if held = (shardId, key) then (held, saturatingSub counter value) :: rest
    else (held, counter) :: sub value shardId key rest

def collect (result : Table K UInt64) : (S × K) × UInt64 → Table K UInt64
  | ((_, key), value) => result.insert key ((result key).getD 0 + value)

def loadAll (self : ShardedU64 S K) : Table K UInt64 := self.foldl collect .empty

def gather (key : K) (total : Option UInt64) : (S × K) × UInt64 → Option UInt64
  | ((_, held), value) => if held = key then some (total.getD 0 + value) else total

def load (self : ShardedU64 S K) (key : K) : Option UInt64 := self.foldl (gather key) none

def apply (self : ShardedU64 S K) : Operation S K → ShardedU64 S K
  | .add value shardId key => self.add value shardId key
  | .sub value shardId key => self.sub value shardId key

/-! ## What the shards add up to -/

/-- What a key's counters add up to, in the arithmetic of `u64`. -/
noncomputable def total (key : K) (self : ShardedU64 S K) : UInt64 :=
  (self.map fun ((_, held), value) => if held = key then value else 0).sum

/-- The part of a subtraction that its shard does not hold. -/
def missing (value : UInt64) (shardId : S) (key : K) : ShardedU64 S K → UInt64
  | [] => value
  | (held, counter) :: rest =>
    if held = (shardId, key) then value - (counter - saturatingSub counter value)
    else missing value shardId key rest

end ShardedU64

/-- What an operation is meant to change the counter of a key by. -/
def Operation.amount [DecidableEq K] (key : K) : Operation S K → UInt64
  | .add value _ held => if held = key then value else 0
  | .sub value _ held => if held = key then -value else 0

def Operation.lost [DecidableEq S] [DecidableEq K] (self : ShardedU64 S K) (key : K) :
    Operation S K → UInt64
  | .add .. => 0
  | .sub value shardId held => if held = key then self.missing value shardId held else 0

/-- What the subtractions from a key lose in a history. -/
def lost [DecidableEq S] [DecidableEq K] (key : K) :
    ShardedU64 S K → List (Operation S K) → UInt64
  | _, [] => 0
  | self, operation :: rest => operation.lost self key + lost key (self.apply operation) rest

namespace ShardedU64

variable [DecidableEq K] (self : ShardedU64 S K) (key : K)

theorem total_cons (entry : (S × K) × UInt64) :
    total key (entry :: self) = (if entry.1.2 = key then entry.2 else 0) + self.total key :=
  sum_cons

theorem foldl_gather (before : Option UInt64) :
    (self.foldl (gather key) before).getD 0 = before.getD 0 + self.total key := by
  induction self generalizing before with
  | nil => simp [total]
  | cons entry rest induction =>
    rw [foldl_cons, induction, total_cons, gather]
    split_ifs <;> simp [add_assoc]

theorem foldl_collect (table : Table K UInt64) :
    self.foldl collect table key = self.foldl (gather key) (table key) := by
  induction self generalizing table with
  | nil => rfl
  | cons entry rest induction =>
    rw [foldl_cons, induction, foldl_cons]
    by_cases same : entry.1.2 = key
    · simp [collect, gather, Table.insert, same]
    · simp [collect, gather, Table.insert, same, Ne.symm same]

variable [DecidableEq S]

theorem total_add (value : UInt64) (shardId : S) (added : K) :
    (self.add value shardId added).total key =
      self.total key + if added = key then value else 0 := by
  induction self with
  | nil => simp [add, total]
  | cons entry rest induction =>
    rcases entry with ⟨held, counter⟩
    by_cases same : held = (shardId, added)
    · subst same
      simp only [add, if_true, total_cons]
      split_ifs <;> ring
    · simp only [add, if_neg same, total_cons, induction]
      ring

theorem total_sub (value : UInt64) (shardId : S) (subtracted : K) :
    (self.sub value shardId subtracted).total key = self.total key + if subtracted = key then
      -value + self.missing value shardId subtracted else 0 := by
  induction self with
  | nil => simp [sub, total, missing]
  | cons entry rest induction =>
    rcases entry with ⟨held, counter⟩
    by_cases same : held = (shardId, subtracted)
    · subst same
      simp only [sub, missing, if_true, total_cons]
      split_ifs <;> ring
    · simp only [sub, missing, if_neg same, total_cons, induction]
      ring

theorem total_apply (operation : Operation S K) : (self.apply operation).total key =
      self.total key + operation.amount key + operation.lost self key := by
  cases operation with
  | add value shardId added =>
    rw [apply, total_add, Operation.amount, Operation.lost, add_zero]
  | sub value shardId subtracted =>
    rw [apply, total_sub, Operation.amount, Operation.lost]
    split_ifs <;> ring

theorem total_foldl (operations : List (Operation S K)) :
    (operations.foldl apply self).total key =
      self.total key + (operations.map (Operation.amount key)).sum + lost key self operations := by
  induction operations generalizing self with
  | nil => simp [lost]
  | cons operation rest induction =>
    rw [foldl_cons, induction, total_apply, map_cons, sum_cons, lost]
    ring

/-- After any history both readings agree. They are what was added less what was subtracted
exactly if no subtraction was lost. -/
theorem load_exact_iff (operations : List (Operation S K)) (key : K) :
    let self := operations.foldl apply ([] : ShardedU64 S K)
    self.loadAll key = self.load key ∧
      ((self.load key).getD 0 = (operations.map (Operation.amount key)).sum ↔
        lost key [] operations = 0) := by
  refine ⟨foldl_collect _ key .empty, ?_⟩
  rw [load, foldl_gather, total_foldl]
  simp [total]

/-- A connection that is counted on one thread and ends on another is counted for ever. -/
theorem ended_connection_counted :
    let operations : List (Operation Nat Unit) := [.add 1 0 (), .sub 1 1 ()]
    (operations.map (Operation.amount ())).sum = 0 ∧
      (operations.foldl apply []).load () = some 1 := by
  decide

end ShardedU64

end Orion.Metrics
