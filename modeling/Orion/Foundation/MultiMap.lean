import Mathlib

/-! # Ordered multimaps

A key may carry several values, kept in the order in which they were added.
-/

namespace Orion.Foundation

open List

/-- Key/value entries in insertion order. -/
abbrev MultiMap (Key : Type u) (Value : Type v) := List (Key × Value)

namespace MultiMap

variable {Key : Type u} {Value : Type v} [DecidableEq Key]

section

variable (map : MultiMap Key Value) (key : Key)

def getAll : List Value :=
  (map.filter fun entry => entry.1 = key).map Prod.snd

def get : Option Value :=
  (map.getAll key).head?

def containsKey : Bool :=
  map.any fun entry => entry.1 = key

def remove : MultiMap Key Value :=
  map.filter fun entry => entry.1 ≠ key

def append (value : Value) : MultiMap Key Value :=
  List.append map [(key, value)]

def insert (value : Value) : MultiMap Key Value :=
  (map.remove key).append key value

end

variable {map : MultiMap Key Value} {key : Key} {value : Value}

theorem getAll_append (first second : MultiMap Key Value) (key : Key) :
    MultiMap.getAll (first ++ second) key = first.getAll key ++ second.getAll key := by
  simp [getAll]

@[simp] theorem getAll_append_self :
    (map.append key value).getAll key = map.getAll key ++ [value] := by
  simp [append, getAll]

@[simp] theorem getAll_append_of_ne (different : other ≠ key) :
    (map.append key value).getAll other = map.getAll other := by
  simp [append, getAll, different.symm]

@[simp] theorem getAll_remove_self : (map.remove key).getAll key = [] := by
  simp [remove, getAll, filter_filter]

@[simp] theorem getAll_remove_of_ne (different : other ≠ key) :
    (map.remove key).getAll other = map.getAll other := by
  simp only [remove, getAll, filter_filter]
  congr 1
  apply filter_congr
  intro entry _
  by_cases same : entry.1 = other
  · simp [same, different]
  · simp [same]

@[simp] theorem getAll_insert_self : (map.insert key value).getAll key = [value] := by
  simp [insert]

@[simp] theorem getAll_insert_of_ne (different : other ≠ key) :
    (map.insert key value).getAll other = map.getAll other := by
  simp [insert, different]

theorem containsKey_iff : map.containsKey key ↔ map.getAll key ≠ [] := by
  simp [containsKey, getAll, filter_eq_nil_iff]

theorem containsKey_eq_false_iff : map.containsKey key = false ↔ map.getAll key = [] := by
  rw [← Bool.not_eq_true, containsKey_iff, not_not]

end MultiMap

/-! ## Grouping by key

A table is filled by pushing one item after the other onto the list of its key.
What a key finds in the end are its own items, in the order of the pushes.
-/

abbrev Table (Key : Type u) (Value : Type v) := Key → Option Value

namespace Table

variable {Key : Type u} {Item : Type v} [DecidableEq Key]

def empty : Table Key Item := fun _ => none

def insert {Value : Type w} (table : Table Key Value) (key : Key) (value : Value) :
    Table Key Value :=
  fun other => if other = key then some value else table other

/-- Push an item onto the list of a key, starting an empty one if needed. -/
def push (table : Table Key (List Item)) (key : Key) (item : Item) : Table Key (List Item) :=
  fun other => if other = key then some ((table key).getD [] ++ [item]) else table other

def pushAll (table : Table Key (List Item)) (items : MultiMap Key Item) : Table Key (List Item) :=
  items.foldl (fun table (key, item) => table.push key item) table

omit [DecidableEq Key] in
@[simp] theorem empty_get (key : Key) : (empty : Table Key Item) key = none := rfl

theorem push_get (table : Table Key (List Item)) (key other : Key) (item : Item) :
    table.push key item other =
      if other = key then some ((table key).getD [] ++ [item]) else table other := rfl

theorem pushAll_getD (table : Table Key (List Item)) (items : MultiMap Key Item) (key : Key) :
    ((table.pushAll items) key).getD [] = (table key).getD [] ++ items.getAll key := by
  induction items generalizing table with
  | nil => simp [pushAll, MultiMap.getAll]
  | cons entry items induction =>
    rcases entry with ⟨other, item⟩
    have rest := induction (table.push other item)
    change ((table.push other item).pushAll items key).getD [] = _
    rw [rest, push_get]
    by_cases same : key = other
    · simp [same, MultiMap.getAll]
    · simp [same, MultiMap.getAll, Ne.symm same]

end Table

/-! ## Changes to multimaps

A change rewrites the values of one key, as a function of the values that the key
has. No series of changes is without effect on every list of values.
-/

open MultiMap

inductive ValueChange (Value : Type v) where
  | remove
  | append (value : Value)
  | insert (value : Value)
  | addIfAbsent (value : Value)
  | overwriteIfExists (value : Value)
  deriving DecidableEq

namespace ValueChange

variable {Key : Type u} {Value : Type v}

def values : ValueChange Value → List Value → List Value
  | .remove, _ => []
  | .append value, values => values ++ [value]
  | .insert value, _ => [value]
  | .addIfAbsent value, [] => [value]
  | .addIfAbsent _, values => values
  | .overwriteIfExists _, [] => []
  | .overwriteIfExists value, _ => [value]

section

variable [DecidableEq Key] (change : ValueChange Value) (map : MultiMap Key Value)

def applyTo (key : Key) : MultiMap Key Value :=
  match change with
  | .remove => map.remove key
  | .append value => map.append key value
  | .insert value => map.insert key value
  | .addIfAbsent value => if map.containsKey key then map else map.append key value
  | .overwriteIfExists value => if map.containsKey key then map.insert key value else map

theorem getAll_applyTo_self (key : Key) :
    (change.applyTo map key).getAll key = change.values (map.getAll key) := by
  cases change with
  | remove => exact getAll_remove_self
  | append value => exact getAll_append_self
  | insert value => exact getAll_insert_self
  | addIfAbsent value =>
    cases present : map.getAll key with
    | nil => simp [applyTo, values, containsKey_eq_false_iff.mpr present, present]
    | cons first rest =>
      have contained : map.containsKey key :=
        containsKey_iff.mpr (by simp [present])
      simp [applyTo, values, contained, present]
  | overwriteIfExists value =>
    cases present : map.getAll key with
    | nil => simp [applyTo, values, containsKey_eq_false_iff.mpr present, present]
    | cons first rest =>
      have contained : map.containsKey key :=
        containsKey_iff.mpr (by simp [present])
      simp [applyTo, values, contained]

theorem getAll_applyTo_of_ne (different : other ≠ key) :
    (change.applyTo map key).getAll other = map.getAll other := by
  cases change with
  | remove => exact getAll_remove_of_ne different
  | append value => exact getAll_append_of_ne different
  | insert value => exact getAll_insert_of_ne different
  | addIfAbsent value =>
    simp only [applyTo]
    split
    · rfl
    · exact getAll_append_of_ne different
  | overwriteIfExists value =>
    simp only [applyTo]
    split
    · exact getAll_insert_of_ne different
    · rfl

end

/-! ## Series of changes -/

def applyAll [DecidableEq Key] (changes : List (Key × ValueChange Value))
    (map : MultiMap Key Value) : MultiMap Key Value :=
  changes.foldl (fun map change => change.2.applyTo map change.1) map

def allValues (changes : List (ValueChange Value)) (values : List Value) : List Value :=
  changes.foldl (fun values change => change.values values) values

def changesOf [DecidableEq Key] (changes : List (Key × ValueChange Value)) (key : Key) :
    List (ValueChange Value) :=
  (changes.filter fun change => change.1 = key).map Prod.snd

theorem getAll_applyAll [DecidableEq Key] (changes : List (Key × ValueChange Value))
    (map : MultiMap Key Value) (key : Key) : (applyAll changes map).getAll key =
      allValues (changesOf changes key) (map.getAll key) := by
  induction changes generalizing map with
  | nil => rfl
  | cons change changes induction =>
    change (applyAll changes _).getAll key = _
    rw [induction]
    by_cases same : change.1 = key
    · have own : changesOf (change :: changes) key =
          change.2 :: changesOf changes key := by
        simp [changesOf, same]
      rw [own, ← same, getAll_applyTo_self]
      rfl
    · have others : changesOf (change :: changes) key = changesOf changes key := by
        simp [changesOf, same]
      rw [others, getAll_applyTo_of_ne change.2 map (Ne.symm same)]

/-- The changes that leave at most one of several values. -/
def Truncates : ValueChange Value → Prop
  | .remove | .insert _ | .overwriteIfExists _ => True
  | .append _ | .addIfAbsent _ => False

theorem length_values_le (change : ValueChange Value) (old : List Value) :
    (change.values old).length ≤ old.length + 1 := by
  cases change with
  | remove | append | insert => simp [values]
  | addIfAbsent value | overwriteIfExists value => cases old <;> simp [values]

theorem length_allValues_le (changes : List (ValueChange Value)) (old : List Value) :
    (allValues changes old).length ≤ old.length + changes.length := by
  induction changes generalizing old with
  | nil => simp [allValues]
  | cons change changes induction =>
    have rest := induction (change.values old)
    have first := length_values_le change old
    change (allValues changes (change.values old)).length ≤ _
    rw [length_cons]
    omega

theorem length_values_of_truncates {change : ValueChange Value} (truncates : change.Truncates)
    (old : List Value) : (change.values old).length ≤ 1 := by
  cases change with
  | remove | insert => simp [values]
  | overwriteIfExists value => cases old <;> simp [values]
  | append value | addIfAbsent value => exact truncates.elim

theorem values_ne_nil_of_not_truncates {change : ValueChange Value}
    (keeps : ¬ change.Truncates) (old : List Value) : change.values old ≠ [] := by
  cases change with
  | remove | insert | overwriteIfExists => exact (keeps trivial).elim
  | append value => simp [values]
  | addIfAbsent value => cases old <;> simp [values]

variable {changes : List (ValueChange Value)}

theorem length_allValues_of_truncates (truncates : ∃ change ∈ changes, change.Truncates)
    (old : List Value) : (allValues changes old).length ≤ changes.length := by
  induction changes generalizing old with
  | nil => simp at truncates
  | cons change changes induction =>
    change (allValues changes (change.values old)).length ≤ _
    rw [length_cons]
    by_cases first : change.Truncates
    · have short := length_values_of_truncates first old
      have rest := length_allValues_le changes (change.values old)
      omega
    · have later : ∃ change ∈ changes, change.Truncates := by
        rcases truncates with ⟨other, member, truncates⟩
        rcases mem_cons.mp member with same | member
        · exact (first (same ▸ truncates)).elim
        · exact ⟨other, member, truncates⟩
      exact Nat.le_succ_of_le (induction later (change.values old))

theorem allValues_ne_nil (keeps : ∀ change ∈ changes, ¬ change.Truncates)
    (nonempty : changes ≠ [] ∨ old ≠ []) : allValues changes old ≠ [] := by
  induction changes generalizing old with
  | nil => simpa [allValues] using nonempty
  | cons change changes induction =>
    apply induction fun other member => keeps other (mem_cons_of_mem _ member)
    exact .inr (values_ne_nil_of_not_truncates (keeps change (by simp)) old)

/-- Some list of values is changed: a long one if something truncates, and the
empty one otherwise. -/
theorem exists_allValues_ne [Inhabited Value]
    (nonempty : changes ≠ []) : ∃ values, allValues changes values ≠ values := by
  by_cases truncates : ∃ change ∈ changes, change.Truncates
  · refine ⟨replicate (changes.length + 1) default, ?_⟩
    intro unchanged
    have short := length_allValues_of_truncates truncates
      (replicate (changes.length + 1) default)
    rw [unchanged, length_replicate] at short
    omega
  · refine ⟨[], allValues_ne_nil ?_ (.inl nonempty)⟩
    intro change member truncating
    exact truncates ⟨change, member, truncating⟩

end ValueChange

end Orion.Foundation
