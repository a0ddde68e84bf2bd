import Orion.Clusters.Balancers.DefaultBalancer

/-! # Shares of the traffic, exactly

The loads with rational numbers in place of doubles, and before they are rounded. The priorities
down to any of them get what their healths add up to, as long as there is traffic left.
-/

namespace Orion.Clusters.Priority.Exact

open List hiding after

def normalizedHealth (normalizedTotalHealth health : ℚ) : ℚ :=
  health * 100 / normalizedTotalHealth

def pushLoad (normalizedTotalHealth : ℚ) (loads : List (Nat × ℚ)) (entry : Nat × ℚ) :
    List (Nat × ℚ) :=
  let load := 100 - (loads.map Prod.snd).sum
  loads ++ [(entry.1, min load (normalizedHealth normalizedTotalHealth entry.2))]

def spreadLoads : List (Nat × ℚ) → List (Nat × ℚ)
  | [] => []
  | (priority, health) :: rest =>
    let normalizedTotalHealth := min 100 (((priority, health) :: rest).map Prod.snd).sum
    rest.foldl (pushLoad normalizedTotalHealth)
      [(priority, normalizedHealth normalizedTotalHealth health)]

/-- The loads of a map from priorities to healths. -/
def calculatePriorityLoads (priorities : Finset Nat) (health : Nat → ℚ) : List (Nat × ℚ) :=
  spreadLoads (priorities.sort.map fun priority => (priority, health priority))

/-! ## What priorities get together -/

/-- What the priorities get whose healths have the given sum. -/
def share (total sum : ℚ) : ℚ := min 100 (sum * 100 / total)

/-- The load of a priority, when those before it have the given sum. -/
def growth (total before health : ℚ) : ℚ := share total (before + health) - share total before

variable {before : ℚ} {keys : List Nat} {priorities : Finset Nat}

theorem share_mono (positive : 0 < total) (less : before ≤ after) :
    share total before ≤ share total after := by
  unfold share
  gcongr

theorem share_zero : share total 0 = 0 := by simp [share]

theorem pushLoad_eq (positive : 0 < total) (spent : (loads.map Prod.snd).sum = share total before)
    (nonnegative : 0 ≤ more) :
    pushLoad total loads (key, more) = loads ++ [(key, growth total before more)] := by
  have split : (before + more) * 100 / total = before * 100 / total + more * 100 / total := by
    ring
  have added : 0 ≤ more * 100 / total := by positivity
  rw [pushLoad, spent, growth, share, share, normalizedHealth, split]
  rcases le_total 100 (before * 100 / total) with full | free
  · rw [min_eq_left full, min_eq_left (le_add_of_le_of_nonneg full added), sub_self,
      min_eq_left added]
  · rw [min_eq_right free, ← min_sub_sub_right, add_sub_cancel_left]

/-- Each load is by how much the share grows with the health of its priority. -/
theorem foldl_pushLoad (positive : 0 < total) (ordered : keys.Pairwise (· < ·))
    (nonnegative : ∀ key ∈ keys, 0 ≤ health key) :
    (keys.map fun key => (key, health key)).foldl (pushLoad total) [] = keys.map (fun key =>
        (key, growth total ((keys.filter (· < key)).map health).sum (health key))) ∧
      (((keys.map fun key => (key, health key)).foldl (pushLoad total) []).map Prod.snd).sum =
        share total (keys.map health).sum := by
  induction keys using reverseRecOn with
  | nil => exact ⟨rfl, share_zero.symm⟩
  | append_singleton earlier key induction =>
    rcases pairwise_append.mp ordered with ⟨before, _, last⟩
    have all : (earlier ++ [key]).filter (· < key) = earlier := by
      simpa [filter_append] using fun other member => last other member key (by simp)
    have same : ∀ other ∈ earlier, (earlier ++ [key]).filter (· < other) =
        earlier.filter (· < other) := by
      intro other member
      simpa [filter_append] using (last other member key (by simp)).le
    rcases induction before fun other member => nonnegative other (by simp [member]) with
      ⟨loads, sum⟩
    rw [map_append, map_singleton, foldl_append, foldl_cons, foldl_nil,
      pushLoad_eq positive sum (nonnegative key (by simp))]
    constructor
    · rw [loads, map_append, map_singleton, all]
      exact congrArg (· ++ _) (map_congr_left fun other member => by rw [same other member])
    · rw [map_append, sum_append, sum]
      simp [growth]

/-- The first priority gets what it would get if it were pushed as the others are. -/
theorem spreadLoads_eq_foldl (positive : 0 < min 100 (entries.map Prod.snd).sum)
    (small : ∀ entry ∈ entries, entry.2 ≤ min 100 (entries.map Prod.snd).sum) :
    spreadLoads entries = entries.foldl (pushLoad (min 100 (entries.map Prod.snd).sum)) [] := by
  cases entries with
  | nil => rfl
  | cons entry rest =>
    have fits : normalizedHealth (min 100 ((entry :: rest).map Prod.snd).sum) entry.2 ≤ 100 := by
      rw [normalizedHealth, div_le_iff₀ positive]
      linarith [small entry (by simp)]
    rw [spreadLoads, foldl_cons, pushLoad]
    simp [-map_cons, min_eq_right fits]

/-- The summed health of the strictly higher priorities. -/
def above (priorities : Finset Nat) (health : Nat → ℚ) (priority : Nat) : ℚ :=
  ∑ higher ∈ priorities with higher < priority, health higher

theorem calculatePriorityLoads_eq
    (bounded : ∀ priority ∈ priorities, 0 ≤ health priority ∧ health priority ≤ 100)
    (positive : 0 < total) (same : min 100 (∑ priority ∈ priorities, health priority) = total) :
    calculatePriorityLoads priorities health = priorities.sort.map (fun priority =>
        (priority, growth total (above priorities health priority) (health priority))) ∧
      ((calculatePriorityLoads priorities health).map Prod.snd).sum =
        share total (∑ priority ∈ priorities, health priority) := by
  have sums : ∀ keep : Nat → Bool, ((priorities.sort.filter keep).map health).sum =
      ∑ priority ∈ priorities with keep priority, health priority := by
    intro keep
    rw [← sum_toFinset _ ((priorities.sort_nodup _).filter _), toFinset_filter,
      Finset.sort_toFinset]
  have all : (priorities.sort.map health).sum = ∑ priority ∈ priorities, health priority := by
    simpa using sums fun _ => true
  have ordered : priorities.sort.Pairwise (· < ·) :=
    ((priorities.pairwise_sort _).and (priorities.sort_nodup _)).imp fun both =>
      lt_of_le_of_ne both.1 both.2
  have small : ∀ priority ∈ priorities, health priority ≤ total := by
    intro priority member
    rw [← same]
    exact le_min (bounded priority member).2
      (Finset.single_le_sum (fun other known => (bounded other known).1) member)
  have spread := @spreadLoads_eq_foldl (priorities.sort.map fun key => (key, health key))
  rw [map_map, show Prod.snd ∘ (fun key => (key, health key)) = health from rfl, all,
    same] at spread
  rw [calculatePriorityLoads, spread positive (by simpa using small)]
  rcases foldl_pushLoad positive ordered fun key member =>
    (bounded key (by simpa using member)).1 with ⟨loads, sum⟩
  rw [sum, loads, all]
  simp [sums, above]

/-! ## Growing shares -/

theorem growth_nonneg (positive : 0 < total) (nonnegative : 0 ≤ more) :
    0 ≤ growth total before more :=
  sub_nonneg.mpr (share_mono positive (le_add_of_nonneg_right nonnegative))

theorem growth_le (positive : 0 < total) (nonnegative : 0 ≤ before) :
    growth total before more ≤ 100 := by
  have spent : share total 0 ≤ share total before := share_mono positive nonnegative
  rw [share_zero] at spent
  exact (sub_le_self _ spent).trans (min_le_left _ _)

theorem of_growth_pos (positive : 0 < total) (small : total ≤ 100)
    (grows : 0 < growth total before more) : 0 < more ∧ before < 100 := by
  constructor
  · by_contra none
    have less := share_mono positive (show before + more ≤ before by linarith)
    rw [growth] at grows
    linarith
  · by_contra full
    have all : share total before = 100 := by
      rw [share, min_eq_left]
      rw [le_div_iff₀ positive]
      linarith
    have atMost : share total (before + more) ≤ 100 := min_le_left _ _
    rw [growth, all] at grows
    linarith

/-- Where all health is needed, a later priority gets less. -/
theorem growth_antitone (nonnegative : 0 ≤ more) (less : before ≤ after) :
    growth 100 after more ≤ growth 100 before more := by
  simp only [growth, share, mul_div_cancel_right₀ _ (show (100 : ℚ) ≠ 0 by norm_num)]
  rcases le_total 100 (before + more) with enough | enough
  · rw [min_eq_left enough, min_eq_left (by linarith)]
    gcongr
  · rw [min_eq_right enough, min_eq_right (show before ≤ 100 by linarith)]
    rcases le_total 100 after with full | free
    · rw [min_eq_left full]
      linarith [min_le_left 100 (after + more)]
    · rw [min_eq_right free]
      linarith [min_le_right 100 (after + more)]

/-- The loads lie in the whole traffic and make it up, and only healthy priorities get a load
while those above them do not suffice. With enough health, more health above never means more
load below. -/
theorem loads_spec (priorities : Finset Nat) (health : Nat → ℚ)
    (bounded : ∀ priority ∈ priorities, 0 ≤ health priority ∧ health priority ≤ 100)
    (healthy : ∃ priority ∈ priorities, 0 < health priority) :
    (∀ entry ∈ calculatePriorityLoads priorities health, 0 ≤ entry.2 ∧ entry.2 ≤ 100) ∧
    ((calculatePriorityLoads priorities health).map Prod.snd).sum = 100 ∧
    (∀ entry ∈ calculatePriorityLoads priorities health, 0 < entry.2 →
      0 < health entry.1 ∧ ∑ higher ∈ priorities with higher < entry.1, health higher < 100) ∧
    (100 ≤ ∑ priority ∈ priorities, health priority →
      ∀ priority ∈ priorities, ∀ raised, health priority ≤ raised → raised ≤ 100 →
      ∀ lower, priority < lower → ∀ load raisedLoad,
        (lower, load) ∈ calculatePriorityLoads priorities health → (lower, raisedLoad) ∈
          calculatePriorityLoads priorities (Function.update health priority raised) →
        raisedLoad ≤ load) := by
  have sumPositive : 0 < ∑ priority ∈ priorities, health priority :=
    Finset.sum_pos' (fun other known => (bounded other known).1) healthy
  have positive := lt_min (show (0 : ℚ) < 100 by norm_num) sumPositive
  rcases calculatePriorityLoads_eq bounded positive rfl with ⟨loads, sum⟩
  refine ⟨?_, ?_, ?_, ?_⟩
  · intro entry member
    rw [loads] at member
    rcases mem_map.mp member with ⟨priority, known, rfl⟩
    have before : 0 ≤ above priorities health priority :=
      Finset.sum_nonneg fun other listed => (bounded other (Finset.mem_of_mem_filter _ listed)).1
    exact ⟨growth_nonneg positive (bounded priority (by simpa using known)).1,
      growth_le positive before⟩
  · rw [sum, share, min_eq_left]
    rw [le_div_iff₀ positive]
    linarith [min_le_right 100 (∑ priority ∈ priorities, health priority)]
  · intro entry member grows
    rw [loads] at member
    rcases mem_map.mp member with ⟨priority, known, rfl⟩
    exact of_growth_pos positive (min_le_left _ _) grows
  · intro enough priority listed raised more most lower below load raisedLoad given raisedGiven
    have higher : ∀ other, health other ≤ Function.update health priority raised other := by
      intro other
      rw [Function.update_apply]
      split_ifs with same
      · rwa [same]
      · exact le_refl _
    have raisedBounded : ∀ other ∈ priorities, 0 ≤ Function.update health priority raised other ∧
        Function.update health priority raised other ≤ 100 := by
      intro other known
      refine ⟨(bounded other known).1.trans (higher other), ?_⟩
      rw [Function.update_apply]
      split_ifs
      · exact most
      · exact (bounded other known).2
    have raisedEnough := enough.trans (Finset.sum_le_sum fun other _ => higher other)
    have raisedLoads := (calculatePriorityLoads_eq raisedBounded (show (0 : ℚ) < 100 by norm_num)
      (min_eq_left raisedEnough)).1
    rw [min_eq_left enough] at loads
    rw [loads] at given
    rw [raisedLoads] at raisedGiven
    rcases mem_map.mp given with ⟨_, known, same⟩
    rcases mem_map.mp raisedGiven with ⟨_, _, ⟨⟩⟩
    cases same
    rw [Function.update_of_ne below.ne']
    exact growth_antitone (bounded lower (by simpa using known)).1
      (Finset.sum_le_sum fun other _ => higher other)

/-- Two priorities of which the second is not needed entirely. -/
theorem loads_spec_of_two : ((calculatePriorityLoads {0, 1} fun _ => 70).map Prod.snd).sum = 100 :=
  (loads_spec {0, 1} (fun _ => 70) (fun _ _ => by norm_num) ⟨0, by simp, by norm_num⟩).2.1

end Orion.Clusters.Priority.Exact
