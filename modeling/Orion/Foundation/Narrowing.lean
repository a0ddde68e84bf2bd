import Mathlib

/-! # Narrowing by several scores

Of a list, those with the best score are kept, of these those with the best second score,
and so on. What has the worst score there is, is never kept.
-/

namespace Orion.Foundation

open List

/-! ## Keeping the best element of a list

A scan from the left that replaces the element it holds only by a better one. The
list is returned in two parts around the element kept, so that it can be changed
in place.
-/

variable {α : Type u}

structure Split (α : Type u) where
  before : List α
  best : α
  after : List α

namespace Split

def toList (split : Split α) : List α := split.before ++ split.best :: split.after

def modifyBest (split : Split α) (change : α → α) : Split α :=
  { split with best := change split.best }

def offer (better : α → α → Bool) (split : Split α) (candidate : α) : Split α :=
  if better candidate split.best then ⟨split.toList, candidate, []⟩
  else { split with after := split.after ++ [candidate] }

end Split

def splitBest (better : α → α → Bool) : List α → Option (Split α)
  | [] => none
  | first :: rest => some (rest.foldl (Split.offer better) ⟨[], first, []⟩)

theorem Split.offer_toList (split : Split α) (candidate : α) :
    (split.offer better candidate).toList = split.toList ++ [candidate] := by
  unfold Split.offer
  split_ifs with isBetter
  · rfl
  · simp [Split.toList]

theorem foldl_offer_toList (split : Split α) (candidates : List α) :
    (candidates.foldl (Split.offer better) split).toList = split.toList ++ candidates := by
  induction candidates generalizing split with
  | nil => simp
  | cons candidate candidates induction =>
    rw [foldl_cons, induction, Split.offer_toList]
    simp

theorem splitBest_toList (scanned : splitBest better elements = some split) :
    split.toList = elements := by
  cases elements with
  | nil => cases scanned
  | cons first rest =>
    cases scanned
    exact foldl_offer_toList _ rest

theorem splitBest_isSome (better : α → α → Bool) (nonempty : elements ≠ []) :
    ∃ split, splitBest better elements = some split := by
  cases elements with
  | nil => exact absurd rfl nonempty
  | cons first rest => exact ⟨_, rfl⟩

theorem splitBest_best_mem (scanned : splitBest better elements = some split) :
    split.best ∈ elements := by
  rw [← splitBest_toList scanned]
  simp [Split.toList]

/-! ## Best by a key -/

section

variable {Key : Type v} [LinearOrder Key] (key : α → Key)

/-- A later element is better only if its key is greater. -/
def byKey (candidate best : α) : Bool := decide (key best < key candidate)

theorem Split.offer_key_le (split : Split α) (candidate : α)
    (bound : ∀ element ∈ split.toList, key element ≤ key split.best) :
    ∀ element ∈ (split.offer (byKey key) candidate).toList,
      key element ≤ key (split.offer (byKey key) candidate).best := by
  intro element member
  rw [Split.offer_toList, mem_append, mem_singleton] at member
  by_cases isBetter : key split.best < key candidate
  · have offered : (split.offer (byKey key) candidate).best = candidate := by
      simp [Split.offer, byKey, isBetter]
    rw [offered]
    rcases member with earlier | rfl
    · exact le_trans (bound element earlier) (le_of_lt isBetter)
    · exact le_refl _
  · have offered : (split.offer (byKey key) candidate).best = split.best := by
      simp [Split.offer, byKey, isBetter]
    rw [offered]
    rcases member with earlier | rfl
    · exact bound element earlier
    · exact not_lt.mp isBetter

theorem foldl_offer_key_le (split : Split α) (candidates : List α)
    (bound : ∀ element ∈ split.toList, key element ≤ key split.best) :
    ∀ element ∈ (candidates.foldl (Split.offer (byKey key)) split).toList,
      key element ≤ key (candidates.foldl (Split.offer (byKey key)) split).best := by
  induction candidates generalizing split with
  | nil => exact bound
  | cons candidate candidates induction =>
    exact induction _ (split.offer_key_le key candidate bound)

theorem splitBest_key_le (scanned : splitBest (byKey key) elements = some split) :
    ∀ element ∈ elements, key element ≤ key split.best := by
  cases elements with
  | nil => cases scanned
  | cons first rest =>
    cases scanned
    have bound := foldl_offer_key_le key ⟨[], first, []⟩ rest (by simp [Split.toList])
    rwa [foldl_offer_toList] at bound

theorem foldl_offer_of_no_better (split : Split α) (candidates : List α)
    (none : ∀ candidate ∈ candidates, ¬ key split.best < key candidate) :
    candidates.foldl (Split.offer (byKey key)) split =
      { split with after := split.after ++ candidates } := by
  induction candidates generalizing split with
  | nil => simp
  | cons candidate candidates induction =>
    have notBetter := none candidate (by simp)
    have offered : split.offer (byKey key) candidate =
        { split with after := split.after ++ [candidate] } := by
      simp [Split.offer, byKey, notBetter]
    rw [foldl_cons, offered, induction]
    · simp
    · intro other member
      exact none other (by simp [member])

theorem splitBest_of_first_greatest (greatest : ∀ element ∈ rest, key element ≤ key first) :
    splitBest (byKey key) (first :: rest) = some ⟨[], first, rest⟩ := by
  rw [splitBest, foldl_offer_of_no_better key _ rest
    (fun candidate member => not_lt.mpr (greatest candidate member))]
  rfl

end

variable {α : Type u} {Score : Type v} [LinearOrder Score] [OrderBot Score]

def narrow (score : α → Score) (elements : List α) : List α :=
  elements.filter fun element =>
    score element ≠ ⊥ ∧ ∀ other ∈ elements, score other ≤ score element

def narrowAll : List (α → Score) → List α → List α
  | [], elements => elements
  | score :: scores, elements => narrowAll scores (narrow score elements)

/-- The first score that differs is better. -/
def Beats : List (α → Score) → α → α → Prop
  | [], _, _ => False
  | score :: scores, other, element =>
    score element < score other ∨ score element = score other ∧ Beats scores other element

variable {score : α → Score} {elements : List α} {element : α}

theorem mem_narrow_iff :
    element ∈ narrow score elements ↔
      element ∈ elements ∧ score element ≠ ⊥ ∧ ∀ other ∈ elements, score other ≤ score element := by
  simp [narrow]

theorem mem_narrow_iff_of_mem (kept : element ∈ narrow score elements) :
    other ∈ narrow score elements ↔ other ∈ elements ∧ score element = score other := by
  rcases mem_narrow_iff.mp kept with ⟨member, positive, best⟩
  rw [mem_narrow_iff]
  constructor
  · rintro ⟨inside, _, large⟩
    exact ⟨inside, le_antisymm (large element member) (best other inside)⟩
  · rintro ⟨inside, same⟩
    exact ⟨inside, same ▸ positive, same ▸ best⟩

variable {scores : List (α → Score)}

/-- The elements that are kept in the end have no worst score, and no other beats them. -/
theorem mem_narrowAll_iff :
    element ∈ narrowAll scores elements ↔
      element ∈ elements ∧ (∀ score ∈ scores, score element ≠ ⊥) ∧
        ∀ other ∈ elements, ¬ Beats scores other element := by
  induction scores generalizing elements with
  | nil => simp [narrowAll, Beats]
  | cons score scores induction =>
    rw [narrowAll, induction, mem_narrow_iff]
    constructor
    · rintro ⟨⟨member, positive, best⟩, later, unbeaten⟩
      refine ⟨member, forall_mem_cons.mpr ⟨positive, later⟩, ?_⟩
      rintro other inside (better | ⟨same, beats⟩)
      · exact absurd better (not_lt.mpr (best other inside))
      · exact unbeaten other ((mem_narrow_iff_of_mem
          (mem_narrow_iff.mpr ⟨member, positive, best⟩)).mpr ⟨inside, same⟩) beats
    · rintro ⟨member, positive, unbeaten⟩
      rcases forall_mem_cons.mp positive with ⟨now, later⟩
      have best : ∀ other ∈ elements, score other ≤ score element := by
        intro other inside
        exact not_lt.mp fun better => unbeaten other inside (.inl better)
      refine ⟨⟨member, now, best⟩, later, ?_⟩
      intro other inside beats
      rcases (mem_narrow_iff_of_mem (mem_narrow_iff.mpr ⟨member, now, best⟩)).mp inside with
        ⟨known, same⟩
      exact unbeaten other known (.inr ⟨same, beats⟩)

theorem narrowAll_append (first second : List (α → Score)) (elements : List α) :
    narrowAll (first ++ second) elements = narrowAll second (narrowAll first elements) := by
  induction first generalizing elements with
  | nil => rfl
  | cons score first induction => exact induction (narrow score elements)

theorem narrowAll_sublist (scores : List (α → Score)) (elements : List α) :
    (narrowAll scores elements).Sublist elements := by
  induction scores generalizing elements with
  | nil => exact List.Sublist.refl elements
  | cons score scores induction =>
    exact (induction (narrow score elements)).trans filter_sublist

variable {left right : α}

theorem same_of_mem_narrowAll (leftKept : left ∈ narrowAll scores elements)
    (rightKept : right ∈ narrowAll scores elements) :
    ∀ score ∈ scores, score left = score right := by
  induction scores generalizing elements with
  | nil => nofun
  | cons score scores induction =>
    rw [forall_mem_cons]
    refine ⟨?_, induction leftKept rightKept⟩
    have leftNow := (narrowAll_sublist scores _).subset leftKept
    have rightNow := (narrowAll_sublist scores _).subset rightKept
    exact ((mem_narrow_iff_of_mem leftNow).mp rightNow).2

omit [OrderBot Score] in
theorem Beats.of_same (beats : Beats scores other left)
    (same : ∀ score ∈ scores, score left = score right) : Beats scores other right := by
  induction scores with
  | nil => exact beats
  | cons score scores induction =>
    rcases forall_mem_cons.mp same with ⟨now, later⟩
    rcases beats with better | ⟨equal, beats⟩
    · exact .inl (now ▸ better)
    · exact .inr ⟨now ▸ equal, induction beats later⟩

theorem mem_narrowAll_of_same (kept : left ∈ narrowAll scores elements) (member : right ∈ elements)
    (same : ∀ score ∈ scores, score left = score right) : right ∈ narrowAll scores elements := by
  rcases mem_narrowAll_iff.mp kept with ⟨_, positive, unbeaten⟩
  refine mem_narrowAll_iff.mpr ⟨member, ?_, ?_⟩
  · intro score listed
    rw [← same score listed]
    exact positive score listed
  · intro other inside beats
    exact unbeaten other inside (beats.of_same fun score listed => (same score listed).symm)

/-! ## The same elements, or the same order -/

theorem narrow_congr (same : ∀ element ∈ elements, score element = other element) :
    narrow score elements = narrow other elements := by
  apply filter_congr
  intro element member
  rw [decide_eq_decide, same element member]
  apply and_congr_right'
  exact forall₂_congr fun inside listed => by rw [same inside listed]

theorem narrow_perm (score : α → Score) {left right : List α} (same : left.Perm right) :
    (narrow score left).Perm (narrow score right) := by
  have sameTest : ∀ element, (∀ other ∈ left, score other ≤ score element) ↔
      ∀ other ∈ right, score other ≤ score element := by
    intro element
    simp only [same.mem_iff]
  unfold narrow
  simp only [sameTest]
  exact same.filter _

theorem narrowAll_perm (scores : List (α → Score)) {left right : List α}
    (same : left.Perm right) : (narrowAll scores left).Perm (narrowAll scores right) := by
  induction scores generalizing left right with
  | nil => exact same
  | cons score scores induction => exact induction (narrow_perm score same)

theorem narrow_map (score : α → Score) (function : β → α) (elements : List β) :
    narrow score (elements.map function) =
      (narrow (fun element => score (function element)) elements).map function := by
  unfold narrow
  rw [filter_map]
  simp [Function.comp_def]

theorem narrowAll_map (scores : List (α → Score)) (function : β → α) (elements : List β) :
    narrowAll scores (elements.map function) =
      (narrowAll (scores.map fun score element => score (function element)) elements).map
        function := by
  induction scores generalizing elements with
  | nil => rfl
  | cons score scores induction =>
    rw [narrowAll, narrow_map, induction, map_cons, narrowAll]

theorem mem_narrowAll_of_subset {some all : List α} (kept : element ∈ narrowAll scores all)
    (inside : element ∈ some) (subset : some ⊆ all) : element ∈ narrowAll scores some := by
  rcases mem_narrowAll_iff.mp kept with ⟨_, positive, unbeaten⟩
  exact mem_narrowAll_iff.mpr ⟨inside, positive, fun other member =>
    unbeaten other (subset member)⟩

section

variable {Fine : Type w} [LinearOrder Fine] [OrderBot Fine] {coarsen : Fine → Score}
  {fine : α → Fine} {elements : List α}

theorem narrow_subset_of_monotone (monotone : Monotone coarsen)
    (bottom : ∀ score, coarsen score = ⊥ → score = ⊥) :
    narrow fine elements ⊆ narrow (fun element => coarsen (fine element)) elements := by
  intro element kept
  rcases mem_narrow_iff.mp kept with ⟨member, positive, best⟩
  exact mem_narrow_iff.mpr ⟨member, fun failed => positive (bottom _ failed),
    fun other inside => monotone (best other inside)⟩

theorem narrow_of_injective (monotone : Monotone coarsen)
    (bottom : ∀ score, coarsen score = ⊥ ↔ score = ⊥)
    (apart : ∀ left ∈ elements, ∀ right ∈ elements,
      coarsen (fine left) = coarsen (fine right) → fine left = fine right) :
    narrow (fun element => coarsen (fine element)) elements = narrow fine elements := by
  apply filter_congr
  intro element member
  rw [decide_eq_decide]
  apply and_congr (not_congr (bottom _))
  constructor
  · intro best other inside
    by_contra worse
    have equal := le_antisymm (best other inside) (monotone (not_le.mp worse).le)
    exact worse (apart other inside element member equal).le
  · intro best other inside
    exact monotone (best other inside)

end

/-! ## A scan for the best score -/

def scanBest (score : α → Score) (best : Score) (elements : List α) : Score :=
  elements.foldl (fun best element => if best < score element then score element else best) best

omit [OrderBot Score] in
theorem le_scanBest (score : α → Score) (best : Score) (elements : List α) :
    best ≤ scanBest score best elements ∧
      ∀ element ∈ elements, score element ≤ scanBest score best elements := by
  induction elements generalizing best with
  | nil => exact ⟨le_refl best, by simp⟩
  | cons element elements induction =>
    rw [forall_mem_cons, scanBest, foldl_cons]
    split
    · rename_i better
      rcases induction (score element) with ⟨current, later⟩
      exact ⟨better.le.trans current, current, later⟩
    · rename_i worse
      rcases induction best with ⟨current, later⟩
      exact ⟨current, (not_lt.mp worse).trans current, later⟩

omit [OrderBot Score] in
theorem scanBest_le (first : best ≤ bound) (others : ∀ element ∈ elements, score element ≤ bound) :
    scanBest score best elements ≤ bound := by
  induction elements generalizing best with
  | nil => exact first
  | cons element elements induction =>
    rcases forall_mem_cons.mp others with ⟨now, later⟩
    rw [scanBest, foldl_cons]
    split
    · exact induction now later
    · exact induction first later

theorem narrow_eq_filter (score : α → Score) (elements : List α) :
    narrow score elements = elements.filter fun element =>
      score element = scanBest score ⊥ elements ∧ score element ≠ ⊥ := by
  apply filter_congr
  intro element member
  have bound := (le_scanBest score ⊥ elements).2
  rw [decide_eq_decide, and_comm]
  apply and_congr_left'
  constructor
  · intro best
    exact le_antisymm (bound element member) (scanBest_le bot_le best)
  · intro same
    exact same ▸ bound

end Orion.Foundation
