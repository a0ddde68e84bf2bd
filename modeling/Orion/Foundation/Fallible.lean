import Mathlib

/-! # Fallible functions over lists

A function that may fail, applied to each item of a list or folded over it.
-/

namespace Orion.Foundation

open List

variable {α β ε σ : Type} {left : List α} {right : List β} {result : Except ε α}

theorem bind_eq_ok_iff {next} :
    (result >>= next) = .ok output ↔ ∃ value, result = .ok value ∧ next value = .ok output := by
  cases result <;> simp [bind, Except.bind]

theorem map_eq_ok_iff :
    result.map function = .ok output ↔ ∃ value, result = .ok value ∧ function value = output := by
  cases result <;> simp [Except.map]

theorem map_isOk (returns : ∃ value, result = .ok value) :
    ∃ output, result.map function = .ok output := by
  rcases returns with ⟨value, rfl⟩
  exact ⟨function value, rfl⟩

theorem mapError_eq_ok (returned : result.mapError function = .ok value) : result = .ok value := by
  cases result <;> cases returned
  rfl

theorem toOption_eq_some_iff : result.toOption = some value ↔ result = .ok value := by
  cases result <;> simp [Except.toOption]

/-! ## Tests that may fail -/

section

variable {m : Type → Type} [Monad m] {first second : α → m Bool} {items : List α}
  (same : ∀ item ∈ items, first item = second item)

include same

theorem anyM_congr : items.anyM first = items.anyM second := by
  induction items with
  | nil => rfl
  | cons item items induction =>
    rcases forall_mem_cons.mp same with ⟨here, later⟩
    rw [anyM_cons, anyM_cons, here, induction later]

theorem findM?_congr : items.findM? first = items.findM? second := by
  induction items with
  | nil => rfl
  | cons item items induction =>
    rcases forall_mem_cons.mp same with ⟨here, later⟩
    rw [findM?, findM?, here, induction later]

end

/-! ## All items -/

variable {function : α → Except ε β}

theorem mapM_eq_ok_iff :
    left.mapM function = .ok right ↔
      List.Forall₂ (fun input output => function input = .ok output) left right := by
  constructor
  · intro returned
    induction left generalizing right with
    | nil =>
      cases returned
      exact .nil
    | cons input inputs induction =>
      rw [mapM_cons, bind_eq_ok_iff] at returned
      rcases returned with ⟨output, first, later⟩
      rcases bind_eq_ok_iff.mp later with ⟨outputs, rest, ⟨⟩⟩
      exact .cons first (induction rest)
  · intro matched
    induction matched with
    | nil => rfl
    | cons first _ later =>
      rw [mapM_cons, first, later]
      rfl

theorem mapM_isOk (each : ∀ item ∈ left, ∃ output, function item = .ok output) :
    ∃ outputs, left.mapM function = .ok outputs := by
  induction left with
  | nil => exact ⟨[], rfl⟩
  | cons item items induction =>
    rcases each item (by simp) with ⟨output, first⟩
    rcases induction fun other member => each other (by simp [member]) with ⟨rest, later⟩
    refine ⟨output :: rest, ?_⟩
    rw [mapM_cons, first, later]
    rfl

theorem mapM_congr (same : ∀ item ∈ left, function item = other item) :
    left.mapM function = left.mapM other := by
  induction left with
  | nil => rfl
  | cons item items induction =>
    rw [mapM_cons, mapM_cons, same item (by simp),
      induction fun later member => same later (by simp [member])]

section

variable (Holds : List α → σ → Prop) {function : σ → α → Except ε σ} (done : List α) {rest : List α}
  (preserved : ∀ {done state item next}, item ∈ rest → Holds done state →
    function state item = .ok next → Holds (done ++ [item]) next)

include preserved

/-- A property of what has been done and of the state holds at the end of a fold that
does not fail. -/
theorem foldlM_invariant (holds : Holds done state)
    (returned : rest.foldlM function state = .ok final) : Holds (done ++ rest) final := by
  induction rest generalizing done state with
  | nil =>
    cases returned
    simpa using holds
  | cons item rest induction =>
    rw [foldlM_cons, bind_eq_ok_iff] at returned
    rcases returned with ⟨next, first, rest⟩
    have later := induction _ (fun member => preserved (by simp [member]))
      (preserved (by simp) holds first) rest
    simpa using later

theorem foldlM_isOk
    (progress : ∀ {before state item after}, before ++ item :: after = done ++ rest →
      item ∈ rest → Holds before state → ∃ next, function state item = .ok next)
    (holds : Holds done state) : ∃ final, rest.foldlM function state = .ok final := by
  induction rest generalizing done state with
  | nil => exact ⟨state, rfl⟩
  | cons item rest induction =>
    rcases progress rfl (by simp) holds with ⟨next, first⟩
    rcases induction _ (fun member => preserved (by simp [member]))
      (fun split member => progress (by simpa using split) (by simp [member]))
      (preserved (by simp) holds first) with ⟨final, later⟩
    refine ⟨final, ?_⟩
    rw [foldlM_cons, first]
    exact later

end

/-! ## Lists matched item by item

Each item of one list has its partner in the other.
-/

theorem partner_of_left (matched : List.Forall₂ related left right) (member : item ∈ left) :
    ∃ partner ∈ right, related item partner := by
  induction matched with
  | nil => cases member
  | @cons first partner _ _ pair _ induction =>
    rcases List.mem_cons.mp member with rfl | later
    · exact ⟨partner, by simp, pair⟩
    · rcases induction later with ⟨other, known, pair⟩
      exact ⟨other, by simp [known], pair⟩

theorem partner_of_right (matched : List.Forall₂ related left right) (member : partner ∈ right) :
    ∃ item ∈ left, related item partner :=
  partner_of_left (List.Forall₂.flip (R := Function.swap related) matched) member

/-- Lists that are matched in two ways have partners that are related in both. -/
theorem partner_of_both (matched : List.Forall₂ related left right)
    (matchedAlso : List.Forall₂ also left right) (member : item ∈ left) :
    ∃ partner, related item partner ∧ also item partner := by
  induction matched with
  | nil => cases member
  | @cons first partner _ _ pair _ induction =>
    cases matchedAlso with
    | cons pairAlso rest =>
      rcases List.mem_cons.mp member with rfl | later
      · exact ⟨partner, pair, pairAlso⟩
      · exact induction rest later

theorem matched_through (first : List.Forall₂ related left right)
    (second : List.Forall₂ later right final) :
    List.Forall₂ (fun item result => ∃ partner, related item partner ∧ later partner result)
      left final := by
  induction first generalizing final with
  | nil =>
    cases second
    exact .nil
  | cons pair _ induction =>
    cases second with
    | cons next rest => exact .cons ⟨_, pair, next⟩ (induction rest)

end Orion.Foundation
