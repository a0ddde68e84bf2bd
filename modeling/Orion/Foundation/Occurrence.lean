import Mathlib

/-! # Where a list occurs in another

Patterns that occur one after the other, with a chosen distance between the beginnings of
two of them: none at all when patterns may overlap, and the length of the first when they
may not.
-/

namespace Orion.Foundation

open List Option Nat

variable {α : Type u}

/-! ## Occurrences -/

structure OccursAt (pattern elements : List α) (position : Nat) : Prop where
  inside : position ≤ elements.length
  begins : pattern <+: elements.drop position

namespace OccursAt

variable {elements : List α}

theorem fits (occurs : OccursAt pattern elements position) :
    position + pattern.length ≤ elements.length := by
  have shorter := occurs.begins.length_le
  have inside := occurs.inside
  rw [length_drop] at shorter
  omega

theorem append (occurs : OccursAt pattern elements position) (more : List α) :
    OccursAt pattern (elements ++ more) position := by
  refine ⟨?_, ?_⟩
  · have inside := occurs.inside
    rw [length_append]
    omega
  · rw [drop_append_of_le_length occurs.inside]
    exact occurs.begins.trans (prefix_append _ _)

theorem drop_iff (within : start ≤ elements.length) :
    OccursAt pattern (elements.drop start) position ↔
      OccursAt pattern elements (start + position) := by
  constructor
  · rintro ⟨inside, begins⟩
    rw [length_drop] at inside
    rw [drop_drop] at begins
    exact ⟨by omega, begins⟩
  · rintro ⟨inside, begins⟩
    refine ⟨?_, ?_⟩
    · rw [length_drop]
      omega
    · rw [drop_drop]
      exact begins

theorem prepend (occurs : OccursAt pattern elements position) (earlier : List α) :
    OccursAt pattern (earlier ++ elements) (earlier.length + position) := by
  rw [← drop_iff (by simp), drop_left]
  exact occurs

end OccursAt

/-! ## Windows -/

/-- `slice::windows`. -/
def windows (size : Nat) (elements : List α) : List (List α) :=
  (range (elements.length + 1 - size)).map fun start => (elements.drop start).take size

section

variable [DecidableEq α]

def findWindow (pattern elements : List α) : Option Nat :=
  (windows pattern.length elements).findIdx? (· = pattern)

omit [DecidableEq α] in
theorem getElem?_windows_eq_some_iff : (windows pattern.length elements)[position]? = some pattern ↔
      OccursAt pattern elements position := by
  rw [windows, getElem?_map, map_eq_some_iff]
  constructor
  · rintro ⟨start, found, taken⟩
    rcases List.getElem?_eq_some_iff.mp found with ⟨within, same⟩
    rw [length_range] at within
    rw [getElem_range] at same
    subst same
    refine ⟨by omega, ?_⟩
    rw [← taken]
    exact take_prefix _ _
  · intro occurs
    have fits := occurs.fits
    refine ⟨position, getElem?_range (by omega), ?_⟩
    exact (prefix_iff_eq_take.mp occurs.begins).symm

theorem findWindow_eq_some_iff {elements : List α} :
    findWindow pattern elements = some position ↔
      OccursAt pattern elements position ∧
        ∀ earlier, OccursAt pattern elements earlier → position ≤ earlier := by
  simp only [findWindow, findIdx?_eq_some_iff_getElem, decide_eq_true_eq,
    ← getElem?_windows_eq_some_iff, getElem?_eq_some_iff]
  constructor
  · rintro ⟨within, same, first⟩
    refine ⟨⟨within, same⟩, ?_⟩
    rintro earlier ⟨_, found⟩
    by_contra less
    exact first earlier (by omega) found
  · rintro ⟨⟨within, same⟩, first⟩
    refine ⟨within, same, ?_⟩
    intro earlier less found
    have later := first earlier ⟨by omega, found⟩
    omega

theorem findWindow_eq_none_iff {elements : List α} :
    findWindow pattern elements = none ↔ ∀ position, ¬ OccursAt pattern elements position := by
  rw [findWindow, findIdx?_eq_none_iff]
  constructor
  · intro missing position occurs
    have found := mem_of_getElem? (getElem?_windows_eq_some_iff.mpr occurs)
    exact absurd (missing _ found) (by simp)
  · intro missing window member
    refine decide_eq_false ?_
    rintro rfl
    rcases mem_iff_getElem?.mp member with ⟨position, found⟩
    exact missing position (getElem?_windows_eq_some_iff.mp found)

end

/-! ## One after the other -/

/-- Patterns can be placed one after the other, from a position on, with a distance between
their beginnings. -/
def Placeable (distance : List α → Nat) (elements : List α) : Nat → List (List α) → Prop
  | _, [] => True
  | start, pattern :: patterns =>
    ∃ position, start ≤ position ∧ OccursAt pattern elements position ∧
      Placeable distance elements (position + distance pattern) patterns

structure Placement (distance : List α → Nat) (elements : List α)
    (placed : List (List α × Nat)) : Prop where
  occurs : ∀ entry ∈ placed, OccursAt entry.1 elements entry.2
  ordered : placed.IsChain fun first second => first.2 + distance first.1 ≤ second.2

variable {distance : List α → Nat} {elements : List α} {patterns : List (List α)}

theorem Placeable.mono (placeable : Placeable distance elements later patterns)
    (earlier : start ≤ later) : Placeable distance elements start patterns := by
  cases patterns with
  | nil => trivial
  | cons pattern patterns =>
    rcases placeable with ⟨position, after, occurs, rest⟩
    exact ⟨position, earlier.trans after, occurs, rest⟩

theorem Placeable.append (placeable : Placeable distance elements start patterns)
    (more : List α) : Placeable distance (elements ++ more) start patterns := by
  induction patterns generalizing start with
  | nil => trivial
  | cons pattern patterns induction =>
    rcases placeable with ⟨position, after, occurs, rest⟩
    exact ⟨position, after, occurs.append more, induction rest⟩

theorem Placeable.closer (placeable : Placeable distance elements start patterns) :
    Placeable (fun _ => 0) elements start patterns := by
  induction patterns generalizing start with
  | nil => trivial
  | cons pattern patterns induction =>
    rcases placeable with ⟨position, after, occurs, rest⟩
    exact ⟨position, after, occurs, induction (rest.mono (le_add_right _ _))⟩

theorem placeable_iff :
    Placeable distance elements start patterns ↔
      ∃ placed, placed.map Prod.fst = patterns ∧ Placement distance elements placed ∧
        ∀ first ∈ placed.head?, start ≤ first.2 := by
  induction patterns generalizing start with
  | nil =>
    refine iff_of_true trivial ⟨[], rfl, ⟨nofun, .nil⟩, nofun⟩
  | cons pattern patterns induction =>
    constructor
    · rintro ⟨position, after, occurs, rest⟩
      rcases induction.mp rest with ⟨placed, rfl, placement, first⟩
      refine ⟨(pattern, position) :: placed, rfl, ⟨?_, ?_⟩, ?_⟩
      · intro entry member
        rcases mem_cons.mp member with rfl | later
        · exact occurs
        · exact placement.occurs entry later
      · exact isChain_cons.mpr ⟨first, placement.ordered⟩
      · intro entry head
        cases head
        exact after
    · rintro ⟨placed, same, placement, first⟩
      cases placed with
      | nil => exact absurd same nofun
      | cons entry placed =>
        cases same
        rcases isChain_cons.mp placement.ordered with ⟨next, ordered⟩
        refine ⟨entry.2, first entry rfl, placement.occurs entry mem_cons_self, ?_⟩
        refine induction.mpr ⟨placed, rfl, ⟨?_, ordered⟩, next⟩
        intro other member
        exact placement.occurs other (mem_cons_of_mem _ member)

theorem Placeable.prepend (placeable : Placeable distance elements start patterns)
    (earlier : List α) :
    Placeable distance (earlier ++ elements) (earlier.length + start) patterns := by
  induction patterns generalizing start with
  | nil => trivial
  | cons pattern patterns induction =>
    rcases placeable with ⟨position, after, occurs, rest⟩
    refine ⟨earlier.length + position, by omega, occurs.prepend earlier, ?_⟩
    rw [Nat.add_assoc]
    exact induction rest

theorem Placeable.fits (placeable : Placeable length elements start patterns)
    (within : start ≤ elements.length) : start + (patterns.map length).sum ≤ elements.length := by
  induction patterns generalizing start with
  | nil => simpa using within
  | cons pattern patterns induction =>
    rcases placeable with ⟨position, after, occurs, rest⟩
    have room := induction rest occurs.fits
    rw [map_cons, sum_cons]
    omega

theorem placeable_filter_iff (within : start ≤ elements.length) :
    Placeable length elements start (patterns.filter fun pattern => !pattern.isEmpty) ↔
      Placeable length elements start patterns := by
  induction patterns generalizing start with
  | nil => rfl
  | cons pattern patterns induction =>
    cases pattern with
    | nil =>
      rw [filter_cons_of_neg (by simp), induction within]
      constructor
      · intro placeable
        exact ⟨start, le_refl _, ⟨within, nil_prefix⟩, placeable⟩
      · rintro ⟨position, after, _, placeable⟩
        exact placeable.mono after
    | cons first rest =>
      constructor
      · rintro ⟨position, after, occurs, placeable⟩
        exact ⟨position, after, occurs, (induction occurs.fits).mp placeable⟩
      · rintro ⟨position, after, occurs, placeable⟩
        exact ⟨position, after, occurs, (induction occurs.fits).mpr placeable⟩

/-! ## Overlaps -/

/-- The second pattern can begin before the first one ends. -/
def Overlaps (first second : List α) : Prop :=
  ∃ shift < first.length, first.drop shift <+: second ∨ second <+: first.drop shift

instance [DecidableEq α] (first second : List α) : Decidable (Overlaps first second) :=
  inferInstanceAs (Decidable (∃ shift < first.length, _ ∨ _))

theorem OccursAt.apart (firstOccurs : OccursAt first elements position)
    (secondOccurs : OccursAt second elements later)
    (apart : ¬ Overlaps first second) (ordered : position ≤ later) :
    position + first.length ≤ later := by
  by_contra early
  apply apart
  refine ⟨later - position, by omega, ?_⟩
  have both : first.drop (later - position) <+: elements.drop later := by
    have begins := firstOccurs.begins.drop (later - position)
    rwa [List.drop_drop, Nat.add_sub_cancel' ordered] at begins
  exact prefix_or_prefix_of_prefix both secondOccurs.begins

/-- In whatever order patterns occur that cannot overlap, they do not. -/
theorem Placeable.separate (placeable : Placeable (fun _ => 0) elements start patterns)
    (apart : patterns.IsChain fun first second => ¬ Overlaps first second) :
    Placeable length elements start patterns := by
  induction patterns generalizing start with
  | nil => trivial
  | cons pattern patterns induction =>
    rcases placeable with ⟨position, after, occurs, rest⟩
    rcases isChain_cons.mp apart with ⟨next, others⟩
    refine ⟨position, after, occurs, ?_⟩
    cases patterns with
    | nil => trivial
    | cons second patterns =>
      rcases rest with ⟨later, ordered, secondOccurs, rest⟩
      have distance := occurs.apart secondOccurs (next second rfl) ordered
      rcases induction ⟨later, le_refl later, secondOccurs, rest⟩ others with
        ⟨found, afterLater, foundOccurs, placeable⟩
      exact ⟨found, distance.trans afterLater, foundOccurs, placeable⟩

/-- Two patterns that can overlap fit in a list that is too short for both. -/
theorem Overlaps.exists_merged (overlaps : Overlaps first second) (nonempty : second ≠ []) :
    ∃ merged shift, OccursAt first merged 0 ∧ OccursAt second merged shift ∧
      merged.length < first.length + second.length := by
  rcases overlaps with ⟨shift, within, longer | shorter⟩
  · refine ⟨first.take shift ++ second, shift, ⟨zero_le _, ?_⟩, ⟨?_, ?_⟩, ?_⟩
    · rw [drop_zero]
      conv_lhs => rw [← take_append_drop shift first]
      exact (prefix_append_right_inj _).mpr longer
    · rw [length_append, length_take]
      omega
    · rw [drop_left' (length_take_of_le within.le)]
    · rw [length_append, length_take_of_le within.le]
      omega
  · have some := length_pos_iff.mpr nonempty
    exact ⟨first, shift, ⟨zero_le _, prefix_rfl⟩, ⟨within.le, shorter⟩, by omega⟩

theorem placeable_flatten (patterns : List (List α)) :
    Placeable (fun _ => 0) patterns.flatten 0 patterns := by
  induction patterns with
  | nil => trivial
  | cons pattern patterns induction =>
    refine ⟨0, le_refl 0, ⟨zero_le _, prefix_append _ _⟩, ?_⟩
    exact (induction.prepend pattern).mono (zero_le _)

/-- Patterns of which two neighbours can overlap occur in a list that is too short for them. -/
theorem exists_crowded (nonempty : ∀ pattern ∈ patterns, pattern ≠ [])
    (crowded : ¬ patterns.IsChain fun first second => ¬ Overlaps first second) :
    ∃ elements, Placeable (fun _ => 0) elements 0 patterns ∧
      elements.length < (patterns.map length).sum := by
  induction patterns with
  | nil => exact absurd .nil crowded
  | cons first patterns induction =>
    cases patterns with
    | nil => exact absurd (.singleton first) crowded
    | cons second patterns =>
      rw [isChain_cons_cons, Classical.not_and_iff_not_or_not, Classical.not_not] at crowded
      rcases crowded with overlaps | later
      · rcases overlaps.exists_merged (nonempty second (by simp)) with
          ⟨merged, shift, firstOccurs, secondOccurs, short⟩
        have others := (placeable_flatten patterns).prepend merged
        refine ⟨merged ++ patterns.flatten, ⟨0, le_refl 0, firstOccurs.append _, shift,
          zero_le _, secondOccurs.append _, ?_⟩, ?_⟩
        · exact others.mono secondOccurs.inside
        · rw [length_append, length_flatten, map_cons, map_cons, sum_cons, sum_cons]
          omega
      · rcases induction (fun pattern member => nonempty pattern (by simp [member])) later with
          ⟨elements, placeable, short⟩
        refine ⟨first ++ elements, ⟨0, le_refl 0, ⟨zero_le _, ?_⟩, ?_⟩, ?_⟩
        · exact prefix_append _ _
        · exact (placeable.prepend first).mono (zero_le _)
        · rw [map_cons, sum_cons, length_append]
          omega

end Orion.Foundation
