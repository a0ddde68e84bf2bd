import Mathlib

/-! # Maps in the order of their keys

A map whose values are visited in the order of the keys, and may be changed on the
way until one of them cannot be.
-/

namespace Orion.Foundation

open List Option

structure OrderedMap (Key Value : Type) [LinearOrder Key] where
  entries : List (Key × Value)
  sorted : entries.Pairwise fun left right => left.1 < right.1

namespace OrderedMap

variable {Key Value ε : Type}

/-! ## Changing the values of some entries -/

/-- Change the values in order; the first that fails ends the loop. The values that
were changed before stay changed. -/
def tryUpdateEntries (update : Value → Except ε Unit × Value) :
    List (Key × Value) → Except ε (List Value) × List (Key × Value)
  | [] => (.ok [], [])
  | (key, value) :: rest =>
    match update value with
    | (.error error, next) => (.error error, (key, next) :: rest)
    | (.ok (), next) =>
      let (updated, rest) := tryUpdateEntries update rest
      (updated.map (next :: ·), (key, next) :: rest)

theorem tryUpdateEntries_keys (update : Value → Except ε Unit × Value)
    (entries : List (Key × Value)) :
    (tryUpdateEntries update entries).2.map Prod.fst = entries.map Prod.fst := by
  induction entries with
  | nil => rfl
  | cons entry rest induction =>
    rw [tryUpdateEntries]
    split
    · rfl
    · simp only [map_cons, induction]

variable {update : Value → Except ε Unit × Value} {entries : List (Key × Value)}

variable [LinearOrder Key]

def empty : OrderedMap Key Value := ⟨[], .nil⟩

def get? (map : OrderedMap Key Value) (key : Key) : Option Value :=
  (map.entries.find? fun entry => entry.1 = key).map Prod.snd

variable {map : OrderedMap Key Value} {key : Key} {value : Value}

def insertEntry (key : Key) (value : Value) : List (Key × Value) → List (Key × Value)
  | [] => [(key, value)]
  | entry :: rest =>
    if key < entry.1 then (key, value) :: entry :: rest
    else if key = entry.1 then (key, value) :: rest
    else entry :: insertEntry key value rest

theorem mem_insertEntry (member : entry ∈ insertEntry key value entries) :
    entry = (key, value) ∨ entry ∈ entries := by
  induction entries with
  | nil => exact .inl (mem_singleton.mp member)
  | cons first rest induction =>
    rw [insertEntry] at member
    split_ifs at member
    · exact mem_cons.mp member
    · rcases mem_cons.mp member with same | later
      · exact .inl same
      · exact .inr (mem_cons_of_mem _ later)
    · rcases mem_cons.mp member with rfl | later
      · exact .inr mem_cons_self
      · rcases induction later with same | known
        · exact .inl same
        · exact .inr (mem_cons_of_mem _ known)

theorem insertEntry_sorted (sorted : entries.Pairwise fun left right => left.1 < right.1) :
    (insertEntry key value entries).Pairwise fun left right => left.1 < right.1 := by
  induction sorted with
  | nil => exact pairwise_singleton _ _
  | @cons first rest before sorted induction =>
    rw [insertEntry]
    split_ifs with less same
    · refine .cons (fun other member => ?_) (.cons before sorted)
      rcases mem_cons.mp member with rfl | later
      · exact less
      · exact lt_trans less (before other later)
    · refine .cons (fun other member => ?_) sorted
      rw [same]
      exact before other member
    · refine .cons (fun other member => ?_) induction
      rcases mem_insertEntry member with rfl | known
      · exact lt_of_le_of_ne (not_lt.mp less) (Ne.symm same)
      · exact before other known

def insert (map : OrderedMap Key Value) (key : Key) (value : Value) : OrderedMap Key Value :=
  ⟨insertEntry key value map.entries, insertEntry_sorted map.sorted⟩

theorem find?_insertEntry (key other : Key) (value : Value) (entries : List (Key × Value)) :
    (insertEntry key value entries).find? (fun entry => entry.1 = other) =
      if key = other then some (key, value)
      else entries.find? fun entry => entry.1 = other := by
  induction entries with
  | nil => by_cases same : key = other <;> simp [insertEntry, same]
  | cons entry rest induction =>
    rw [insertEntry]
    by_cases same : key = other
    · subst same
      rw [if_pos rfl] at induction ⊢
      split_ifs with less equal
      · simp
      · simp
      · rw [find?_cons_of_neg (by simpa using Ne.symm equal), induction]
    · rw [if_neg same] at induction ⊢
      split_ifs with less equal
      · rw [find?_cons_of_neg (by simpa using same)]
      · rw [find?_cons_of_neg (by simpa using same),
          find?_cons_of_neg (by simpa [← equal] using same)]
      · rw [find?_cons, find?_cons, induction]

theorem get?_insert (map : OrderedMap Key Value) (key other : Key) (value : Value) :
    (map.insert key value).get? other = if key = other then some value else map.get? other := by
  rw [get?, insert, find?_insertEntry]
  split_ifs <;> rfl

@[simp] theorem get?_insert_self (map : OrderedMap Key Value) (key : Key) (value : Value) :
    (map.insert key value).get? key = some value := by
  rw [get?_insert, if_pos rfl]

theorem get?_insert_of_ne (map : OrderedMap Key Value) (value : Value) (different : key ≠ other) :
    (map.insert key value).get? other = map.get? other := by
  rw [get?_insert, if_neg different]

def erase (map : OrderedMap Key Value) (key : Key) : OrderedMap Key Value :=
  ⟨map.entries.filter fun entry => entry.1 ≠ key, map.sorted.filter _⟩

theorem get?_erase (map : OrderedMap Key Value) (key other : Key) :
    (map.erase key).get? other = if key = other then none else map.get? other := by
  rw [get?, erase, find?_filter]
  by_cases same : key = other
  · subst same
    simp
  · rw [if_neg same, get?]
    congr 2
    funext entry
    by_cases found : entry.1 = other
    · simp [found, Ne.symm same]
    · simp [found]

def mapValues (map : OrderedMap Key Value) (function : Value → Value) :
    OrderedMap Key Value where
  entries := map.entries.map fun entry => (entry.1, function entry.2)
  sorted := pairwise_map.mpr map.sorted

theorem get?_mapValues (map : OrderedMap Key Value) (function : Value → Value) (key : Key) :
    (map.mapValues function).get? key = (map.get? key).map function := by
  rw [get?, get?, mapValues, List.find?_map, Option.map_map, Option.map_map]
  rfl

def tryUpdate (map : OrderedMap Key Value) (update : Value → Except ε Unit × Value) :
    Except ε (List Value) × OrderedMap Key Value :=
  ((tryUpdateEntries update map.entries).1, {
    entries := (tryUpdateEntries update map.entries).2
    sorted := by
      have sorted := map.sorted
      rw [← pairwise_map (R := (· < ·)), ← tryUpdateEntries_keys update,
        pairwise_map] at sorted
      exact sorted })

end OrderedMap

/-! ## A cache of recently used entries

At most so many entries are kept, each for a time after its last use. Times are
given to the operations.
-/

structure LruCache (Key Value : Type) where
  timeToLive : Nat
  capacity : Nat
  /-- With the time of their last use, the least recently used first. -/
  entries : List (Key × Value × Nat)

namespace LruCache

variable {Key Value : Type}

def withExpiryDurationAndCapacity (timeToLive capacity : Nat) : LruCache Key Value :=
  ⟨timeToLive, capacity, []⟩

def removeExpired (cache : LruCache Key Value) (now : Nat) : LruCache Key Value :=
  { cache with entries := cache.entries.filter fun (_, _, used) =>
      ¬ used + cache.timeToLive < now }

variable [DecidableEq Key]

section

variable (cache : LruCache Key Value) (now : Nat) (key : Key)

/-- What is stored for a key and has not expired. -/
def find : Option Value :=
  ((cache.removeExpired now).entries.find? fun entry => entry.1 = key).map fun entry =>
    entry.2.1

/-- Looking up a key makes its entry the most recently used one. -/
def get : Option Value × LruCache Key Value :=
  let live := cache.removeExpired now
  match cache.find now key with
  | none => (none, live)
  | some value => (some value, { live with
      entries := (live.entries.filter fun entry => entry.1 ≠ key) ++ [(key, value, now)] })

/-- The least recently used entries make room for a new one. -/
def insert (value : Value) : LruCache Key Value :=
  let live := cache.removeExpired now
  let others := live.entries.filter fun entry => entry.1 ≠ key
  { live with
    entries := others.drop (others.length + 1 - live.capacity) ++ [(key, value, now)] }

theorem get_fst : (cache.get now key).1 = cache.find now key := by
  unfold get
  split
  · rename_i missing
    rw [missing]
  · rename_i value found
    rw [found]

theorem find_eq_none_iff : cache.find now key = none ↔
    ∀ value used, (key, value, used) ∈ cache.entries → used + cache.timeToLive < now := by
  simp only [find, removeExpired, Option.map_eq_none_iff, List.find?_eq_none, List.mem_filter]
  constructor
  · intro missing value used member
    by_contra live
    exact missing (key, value, used) ⟨member, by simpa using live⟩ (by simp)
  · rintro expired ⟨other, value, used⟩ ⟨member, live⟩ same
    simp only [decide_eq_true_eq] at live same
    subst same
    exact live (expired value used member)

theorem mem_of_find (found : cache.find now key = some value) :
    ∃ used, (key, value, used) ∈ cache.entries ∧ ¬ used + cache.timeToLive < now := by
  rcases Option.map_eq_some_iff.mp found with ⟨⟨other, _, used⟩, first, rfl⟩
  have member := List.mem_filter.mp (List.mem_of_find?_eq_some first)
  have same := List.find?_some first
  simp only [decide_eq_true_eq] at same member
  subst same
  exact ⟨used, member⟩

end

/-! ### What came into a cache since -/

/-- A cache holds what it held initially, and values with a property. -/
structure Since (initial : LruCache Key Value) (P : Value → Prop) (cache : LruCache Key Value) :
    Prop where
  timeToLive : cache.timeToLive = initial.timeToLive
  entries : ∀ entry ∈ cache.entries, entry ∈ initial.entries ∨ P entry.2.1

namespace Since

variable {initial cache : LruCache Key Value} {P : Value → Prop}

omit [DecidableEq Key] in
theorem refl : Since initial P initial :=
  ⟨rfl, fun _ => .inl⟩

/-- What is found for a key that had no entry initially, or one that has expired. -/
theorem find (since : Since initial P cache) (missing : initial.find now key = none)
    (found : cache.find now key = some value) : P value := by
  rcases mem_of_find cache now key found with ⟨used, member, live⟩
  rcases since.entries _ member with known | fresh
  · rw [since.timeToLive] at live
    exact absurd ((find_eq_none_iff initial now key).mp missing value used known) live
  · exact fresh

theorem get (since : Since initial P cache) (missing : initial.find now key = none) :
    Since initial P (cache.get now key).2 := by
  unfold LruCache.get
  split
  · exact ⟨since.timeToLive, fun entry member => since.entries entry (List.mem_filter.mp member).1⟩
  · rename_i value found
    refine ⟨since.timeToLive, fun entry member => ?_⟩
    rcases List.mem_append.mp member with kept | used
    · exact since.entries entry (List.mem_filter.mp (List.mem_filter.mp kept).1).1
    · rw [List.mem_singleton.mp used]
      exact .inr (since.find missing found)

theorem insert (since : Since initial P cache) (fresh : P value) (now : Nat) (key : Key) :
    Since initial P (cache.insert now key value) := by
  refine ⟨since.timeToLive, fun entry member => ?_⟩
  rcases List.mem_append.mp member with kept | inserted
  · have listed := (List.mem_filter.mp (List.mem_of_mem_drop kept)).1
    exact since.entries entry (List.mem_filter.mp listed).1
  · rw [List.mem_singleton.mp inserted]
    exact .inr fresh

end Since

end LruCache

end Orion.Foundation
