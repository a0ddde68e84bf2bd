import Orion.Clusters.Balancers.DefaultBalancer

/-! # Shares of the traffic

What rounding leaves of the loads: a priority without health gets nothing, some
priority gets something as soon as one has health, and the shares together stay
small. The numbers that count here are all eighths, which the format holds.
-/

namespace Orion.Clusters.Priority

open Foundation List Nat
open Binary64 hiding min
open Foundation.Binary64 hiding min

/-! ## Healths -/

theorem within_hundred : Within 100 100 (ofExact 100) := ofNat_within

theorem within_zero : Within 0 0 (ofExact 0) := ofNat_within

/-- The health of a priority: none at all, or at least one percent. -/
def Health (health : Binary64) : Prop := Within 0 0 health ∨ Within 1 100 health

theorem overprovisioned_zero : Within 0 0 (overprovisioned 0) := by
  have factor : Within 0 2 (ofExact (7 / 5)) := ofExact_within
  have product : Within 0 0 (ofExact (7 / 5) * ofNat 0) := factor.mul ofNat_within
  exact (within_hundred.min product).mono

theorem overprovisioned_positive (positive : 0 < percentage) (small : percentage < U32.limit) :
    Within 1 100 (overprovisioned percentage) := by
  have factor : Within 1 2 (ofExact (7 / 5)) := ofExact_within
  have atLeastOne : (1 : ℚ) ≤ percentage := by exact_mod_cast positive
  have below : 2 * percentage ≤ 2 ^ 53 := by
    unfold U32.limit at small
    omega
  have highest : Representable ((2 * percentage : Nat) : ℚ) := .natCast below
  have product : Within 1 ((2 * percentage : Nat) : ℚ) (ofExact (7 / 5) * ofNat percentage) :=
    factor.mul (ofNat_within (by omega)) (by norm_num) (by linarith) .natCast highest
      (by linarith) (by push_cast; exact le_refl _)
  exact (within_hundred.min product).mono (by norm_num) (min_le_left _ _)

theorem overprovisioned_health (small : percentage < U32.limit) :
    Health (overprovisioned percentage) := by
  rcases Nat.eq_zero_or_pos percentage with rfl | positive
  · exact .inl overprovisioned_zero
  · exact .inr (overprovisioned_positive positive small)

/-! ## Weights -/

section

variable {value : ℚ}

theorem representable_low : Representable ((-201 : ℤ) : ℚ) := by
  exact_mod_cast Representable.dyadic (-201) 0 (by simp) (by simp)

theorem loadWeight_le_of_lt {bound : Nat} (low : -200 ≤ value) (high : value < bound + 1 / 2)
    (small : bound ≤ 2 ^ 53) : loadWeight (.finite value held) ≤ bound := by
  have rounded : Within ((-201 : ℤ) : ℚ) ((bound : ℤ) : ℚ) (finite value held).round :=
    (within_self value held).round representable_low (.natCast small)
      (.inl (by push_cast; linarith)) (by push_cast; linarith)
  exact rounded.toNatBelow_le

theorem loadWeight_le (low : -200 ≤ value) (high : value ≤ 200) :
    loadWeight (.finite value held) ≤ 200 :=
  loadWeight_le_of_lt low (by push_cast; linarith) (by norm_num)

theorem loadWeight_eq_zero (low : -200 ≤ value) (high : value < 1 / 2) :
    loadWeight (.finite value held) = 0 :=
  le_zero.mp (loadWeight_le_of_lt low (by simpa using high) (by norm_num))

theorem loadWeight_positive (low : 1 / 2 ≤ value) (high : value ≤ 200) :
    0 < loadWeight (.finite value held) := by
  have rounded : Within ((1 : ℤ) : ℚ) ((200 : ℤ) : ℚ) (finite value held).round :=
    (within_self value held).round .natCast .natCast
      (.inr ⟨by linarith, by push_cast; linarith⟩) (by push_cast; linarith)
  exact rounded.le_toNatBelow (by decide)

end

/-! ## What is spent

A load is what the priorities before left, or less. Three roundings separate the two
sums, and none of them can cross an eighth. -/

section

variable {left : ℚ}

section

variable (nonnegative : 0 ≤ spent) (bounded : spent ≤ 200) (rounds : RoundsTo (100 - spent) left)

include nonnegative bounded rounds

/-- What is left is known up to an eighth. -/
theorem left_near :
    ∃ eighths : ℤ, 0 ≤ eighths ∧ eighths ≤ 1600 ∧
      eighths / 8 ≤ spent ∧ spent ≤ (eighths + 1) / 8 ∧
      (799 - eighths) / 8 ≤ left ∧ left ≤ (800 - eighths) / 8 := by
  have floorLe := Int.floor_le (8 * spent)
  have ltFloor := Int.lt_floor_add_one (8 * spent)
  have low : 0 ≤ ⌊8 * spent⌋ := Int.floor_nonneg.mpr (by linarith)
  have high : ⌊8 * spent⌋ ≤ 1600 := by
    have : (⌊8 * spent⌋ : ℚ) ≤ (1600 : ℤ) := by
      push_cast
      linarith
    exact_mod_cast this
  refine ⟨⌊8 * spent⌋, low, high, by linarith, by linarith, ?_, ?_⟩
  · have held : Representable (((799 - ⌊8 * spent⌋ : ℤ) : ℚ) / 8) :=
      .eighths (abs_le.mpr ⟨by omega, by omega⟩)
    push_cast at held
    exact rounds.above held (by linarith)
  · have held : Representable (((800 - ⌊8 * spent⌋ : ℤ) : ℚ) / 8) :=
      .eighths (abs_le.mpr ⟨by omega, by omega⟩)
    push_cast at held
    exact rounds.below held (by linarith)

theorem load_bounded (notMore : load ≤ left)
    (share : load = left ∨ 0 ≤ load) : -200 ≤ load ∧ load ≤ 200 := by
  rcases left_near nonnegative bounded rounds with ⟨eighths, low, high, _, _, leftAbove, leftBelow⟩
  refine ⟨?_, by linarith⟩
  rcases share with rfl | positive <;> linarith

end

/-- One more load spends about what was left, and never much more. -/
theorem spent_step {winners : Nat} (held : Representable spent) (nonnegative : 0 ≤ spent)
    (bounded : spent ≤ 200) (enough : min ((winners : ℚ) / 2) (799 / 8) ≤ spent)
    (few : winners ≤ 200) (rounds : RoundsTo (100 - spent) left) (notMore : load ≤ left)
    (share : load = left ∨ 0 ≤ load) (totalRounds : RoundsTo (spent + load) total) :
    0 ≤ total ∧ total ≤ 200 ∧ min ((winners : ℚ) / 2) (799 / 8) ≤ total ∧
      (1 / 2 ≤ load →
        winners + 1 ≤ 200 ∧ min (((winners + 1 : Nat) : ℚ) / 2) (799 / 8) ≤ total) := by
  rcases left_near nonnegative bounded rounds with
    ⟨eighths, low, high, spentAbove, spentBelow, leftAbove, leftBelow⟩
  have slightlyMore : Representable (((801 : ℤ) : ℚ) / 8) := .eighths (by simp)
  have nearly : Representable (((799 : ℤ) : ℚ) / 8) := .eighths (by simp)
  have atMost : total ≤ 801 / 8 := totalRounds.below slightlyMore (by linarith)
  have kept : spent ≤ total ∨ 799 / 8 ≤ total := by
    rcases le_or_gt 0 load with positive | negative
    · exact .inl (totalRounds.above held (by linarith))
    · rcases share with rfl | positive
      · exact .inr (totalRounds.above nearly (by linarith))
      · linarith
  refine ⟨?_, by linarith, ?_, ?_⟩
  · rcases kept with kept | kept <;> linarith
  · rcases kept with kept | kept
    · exact enough.trans kept
    · exact (min_le_right _ _).trans kept
  · intro half
    -- A load of a half or more is only left while the bound is not reached.
    have early : (winners : ℚ) / 2 ≤ spent := by
      rcases min_le_iff.mp enough with winnersEnough | full
      · exact winnersEnough
      · linarith
    have grown : ((winners + 1 : Nat) : ℚ) / 2 ≤ total := by
      have eighthsHeld : Representable ((((4 * (winners + 1) : Nat) : ℤ) : ℚ) / 8) :=
        .eighths (abs_le.mpr ⟨by omega, by omega⟩)
      push_cast at eighthsHeld
      have reached := totalRounds.above eighthsHeld (by linarith)
      push_cast
      linarith
    refine ⟨?_, (min_le_left _ _).trans grown⟩
    have : ((winners + 1 : Nat) : ℚ) < (201 : Nat) := by
      push_cast at grown ⊢
      linarith
    have := cast_lt.mp this
    omega

end

/-! ## Loads -/

def winners (loads : List (Nat × Binary64)) : Nat :=
  loads.countP fun load => 0 < loadWeight load.2

structure Spending (loads : List (Nat × Binary64)) : Prop where
  spent : ∃ spent held, sum (loads.map Prod.snd) = .finite spent held ∧
    0 ≤ spent ∧ spent ≤ 200 ∧ min ((winners loads : ℚ) / 2) (799 / 8) ≤ spent
  few : winners loads ≤ 200
  each : ∀ load ∈ loads, loadWeight load.2 ≤ 200

structure Spread (healths loads : List (Nat × Binary64)) : Prop where
  matched : List.Forall₂
    (fun health load => health.1 = load.1 ∧ (Within 0 0 health.2 → loadWeight load.2 = 0))
    healths loads
  spending : Spending loads
  started : 0 < winners loads ∨
    (∀ health ∈ healths, Within 0 0 health.2) ∧
      Within 0 0 (sum (loads.map Prod.snd))

theorem sum_append_singleton (numbers : List Binary64) (last : Binary64) :
    sum (numbers ++ [last]) = sum numbers + last := by
  simp [Binary64.sum]

theorem winners_append (loads : List (Nat × Binary64)) (priority : Nat) (load : Binary64) :
    winners (loads ++ [(priority, load)]) =
      winners loads + if 0 < loadWeight load then 1 else 0 := by
  simp [winners]

theorem scaled_zero (zero : Within 0 0 health) : Within 0 0 (health * ofExact 100) :=
  zero.mul within_hundred

theorem normalizedHealth_zero (totalWithin : Within 1 100 total) (zero : Within 0 0 health) :
    Within 0 0 (normalizedHealth total health) :=
  (scaled_zero zero).div totalWithin

theorem normalizedHealth_positive (totalWithin : Within 1 100 total)
    (within : Within 1 100 health) : Within 1 10000 (normalizedHealth total health) := by
  have product : Within 100 10000 (health * ofExact 100) := within.mul within_hundred
  exact product.div totalWithin

theorem load_value (held : Representable spent) (shareHeld : Representable share)
    (nonnegative : 0 ≤ spent) (bounded : spent ≤ 200) :
    ∃ left load loadHeld, RoundsTo (100 - spent) left ∧
      (ofExact 100 - .finite spent held).min (.finite share shareHeld) =
        .finite load loadHeld ∧ load ≤ left ∧ load ≤ share ∧ (load = left ∨ load = share) := by
  have hundred : ofExact 100 = .finite 100 .natCast := ofExact_of_representable _
  rcases ofExact_roundsTo (show |100 - spent| ≤ 2 ^ 53 from
    abs_le.mpr ⟨by linarith, by linarith⟩) with ⟨left, leftHeld, rounded, rounds⟩
  have difference : ofExact 100 - .finite spent held = .finite left leftHeld := by
    rw [hundred, ← rounded]
    rfl
  rw [difference]
  by_cases less : share < left
  · exact ⟨left, share, shareHeld, rounds, by simp [Binary64.min, lt, less], less.le,
      le_refl _, .inr rfl⟩
  · exact ⟨left, left, leftHeld, rounds, by simp [Binary64.min, lt, less], le_refl _,
      not_lt.mp less, .inl rfl⟩

section

variable {healths : List (Nat × Binary64)}

theorem Spending.append {spent : ℚ} {held : Representable spent}
    (loadHeld : Representable load) (spending : Spending loads)
    (sum : sum (loads.map Prod.snd) = .finite spent held)
    (rounds : RoundsTo (100 - spent) left) (notMore : load ≤ left)
    (share : load = left ∨ 0 ≤ load) (priority : Nat) :
    Spending (loads ++ [(priority, .finite load loadHeld)]) ∧ -200 ≤ load := by
  rcases spending.spent with ⟨same, sameHeld, sameSum, nonnegative, bounded, enough⟩
  rw [sum] at sameSum
  cases sameSum
  rcases load_bounded nonnegative bounded rounds notMore share with ⟨low, high⟩
  rcases ofExact_roundsTo (show |spent + load| ≤ 2 ^ 53 from
    abs_le.mpr ⟨by linarith, by linarith⟩) with ⟨spentNow, nowHeld, rounded, totalRounds⟩
  rcases spent_step held nonnegative bounded enough spending.few rounds notMore share
    totalRounds with ⟨nonnegativeNow, boundedNow, enoughNow, winner⟩
  have sumNow : Binary64.sum ((loads ++ [(priority, Binary64.finite load loadHeld)]).map Prod.snd) =
        .finite spentNow nowHeld := by
    rw [map_append, map_singleton, sum_append_singleton, sum, ← rounded]
    rfl
  have counted : winners (loads ++ [(priority, finite load loadHeld)]) ≤ 200 ∧
      min ((winners (loads ++ [(priority, finite load loadHeld)]) : ℚ) / 2)
        (799 / 8) ≤ spentNow := by
    rw [winners_append]
    rcases lt_or_ge load (1 / 2) with small | half
    · rw [loadWeight_eq_zero low small]
      exact ⟨spending.few, enoughNow⟩
    · rw [if_pos (loadWeight_positive half high)]
      exact winner half
  refine ⟨⟨⟨spentNow, nowHeld, sumNow, nonnegativeNow, boundedNow, counted.2⟩, counted.1, ?_⟩, low⟩
  intro entry member
  rcases mem_append.mp member with earlier | last
  · exact spending.each entry earlier
  · cases mem_singleton.mp last
    exact loadWeight_le low high

theorem left_of_nothing (nothing : Within 0 0 spent) : Within 100 100 (ofExact 100 - spent) :=
  within_hundred.sub nothing

theorem first_load_positive (nothing : Within 0 0 spent) (totalWithin : Within 1 100 total)
    (positive : Within 1 100 health) :
    0 < loadWeight ((ofExact 100 - spent).min (normalizedHealth total health)) := by
  rcases (left_of_nothing nothing).min (normalizedHealth_positive totalWithin positive) with
    ⟨load, held, equal, above, below⟩
  rw [equal]
  norm_num at above below
  exact loadWeight_positive (by linarith) (by linarith)

theorem early_load_zero (nothing : Within 0 0 spent) (totalWithin : Within 1 100 total)
    (zero : Within 0 0 health) :
    Within 0 0 (spent + (ofExact 100 - spent).min (normalizedHealth total health)) := by
  have load := (left_of_nothing nothing).min (normalizedHealth_zero totalWithin zero)
  exact nothing.add load

theorem Spread.push (spread : Spread healths loads) (totalWithin : Within 1 100 total)
    {entry : Nat × Binary64} (health : Health entry.2) :
    Spread (healths ++ [entry]) (pushLoad total loads entry) := by
  rcases spread.spending.spent with ⟨spent, held, sum, nonnegative, bounded, _⟩
  have normalized : Within 0 10000 (normalizedHealth total entry.2) := by
    rcases health with zero | positive
    · exact (normalizedHealth_zero totalWithin zero).mono
    · exact (normalizedHealth_positive totalWithin positive).mono
  rcases normalized with ⟨share, shareHeld, shareEqual, shareNonnegative, _⟩
  rcases load_value held shareHeld nonnegative bounded with
    ⟨left, load, loadHeld, rounds, loadEqual, notMore, notMoreShare, either⟩
  have shared : load = left ∨ 0 ≤ load := by
    rcases either with same | same
    · exact .inl same
    · exact .inr (same ▸ shareNonnegative)
  rcases spread.spending.append loadHeld sum rounds notMore shared entry.1 with ⟨spending, low⟩
  have pushed : pushLoad total loads entry =
      loads ++ [(entry.1, finite load loadHeld)] := by
    rw [pushLoad, sum, shareEqual, loadEqual]
  rw [pushed]
  refine ⟨?_, spending, ?_⟩
  · refine rel_append spread.matched (.cons ⟨rfl, ?_⟩ .nil)
    intro zero
    rcases normalizedHealth_zero totalWithin zero with ⟨none, noneHeld, noneEqual, _, below⟩
    rw [shareEqual] at noneEqual
    cases noneEqual
    exact loadWeight_eq_zero low (by linarith)
  · rw [winners_append]
    rcases spread.started with positive | ⟨nothing, spentNothing⟩
    · exact .inl (by omega)
    · rcases health with zero | positive
      · refine .inr ⟨?_, ?_⟩
        · intro health member
          rcases mem_append.mp member with earlier | last
          · exact nothing health earlier
          · cases mem_singleton.mp last
            exact zero
        · have early := early_load_zero spentNothing totalWithin zero
          rw [sum, shareEqual, loadEqual, ← sum] at early
          rw [map_append, map_singleton, sum_append_singleton]
          exact early
      · have loaded := first_load_positive spentNothing totalWithin positive
        rw [sum, shareEqual, loadEqual] at loaded
        rw [if_pos loaded]
        exact .inl (by omega)

theorem sum_singleton (held : Representable value) :
    Binary64.sum [.finite value held] = .finite value held := by
  have zero : ofExact 0 = .finite 0 .natCast := ofExact_of_representable _
  change ofExact 0 + .finite value held = _
  rw [zero]
  change ofExact (0 + value) = _
  rw [zero_add, ofExact_of_representable held]

/-- A total that is at most hundred, and no less than the health of a priority. -/
def Covers (total health : Binary64) : Prop :=
  ∀ {low}, Representable low → 0 ≤ low → low ≤ 100 → AtLeast low health →
    Within low 100 total

/-- The load of the highest priority is at most twice the traffic. -/
theorem normalizedHealth_first (positive : Within 1 100 health) (larger : Covers total health) :
    Within 1 200 (normalizedHealth total health) := by
  rcases positive with ⟨value, held, rfl, above, below⟩
  -- The whole part of the health bounds the total from below.
  have floorLe := Int.floor_le value
  have ltFloor := Int.lt_floor_add_one value
  have floorOne : 1 ≤ ⌊value⌋ := Int.le_floor.mpr (by exact_mod_cast above)
  rcases Int.eq_ofNat_of_zero_le (show 0 ≤ ⌊value⌋ by omega) with ⟨whole, same⟩
  rw [same] at floorLe ltFloor floorOne
  push_cast at floorLe ltFloor
  have wholeOne : (1 : ℚ) ≤ whole := by exact_mod_cast floorOne
  have wholeSmall : whole ≤ 100 := by
    have : (whole : ℚ) ≤ (100 : Nat) := by push_cast; linarith
    exact_mod_cast this
  have totalWithin : Within whole 100 total :=
    larger (.natCast (by omega)) (by linarith) (by exact_mod_cast wholeSmall)
      (.inr ⟨value, held, rfl, floorLe⟩)
  have product : Within 100 ((100 * (whole + 1) : Nat) : ℚ) (.finite value held * ofExact 100) :=
    (within_self value held).mul within_hundred (by linarith) (by norm_num) .natCast
      (.natCast (by omega)) (by linarith) (by push_cast; linarith)
  refine product.div totalWithin (by norm_num) (by linarith) .natCast .natCast (by norm_num) ?_
  rw [div_le_iff₀ (by linarith)]
  push_cast
  linarith

theorem Spread.first (isHealth : Health health) (totalWithin : Within 1 100 total)
    (larger : Covers total health) :
    Spread [(priority, health)] [(priority, normalizedHealth total health)] := by
  rcases isHealth with zero | positive
  · have normalized := normalizedHealth_zero totalWithin zero
    rcases normalized with ⟨load, held, equal, above, below⟩
    have weight : loadWeight (.finite load held) = 0 :=
      loadWeight_eq_zero (by linarith) (by linarith)
    have nobody : winners [(priority, finite load held)] = 0 := by
      simp [winners, weight]
    rw [equal]
    refine ⟨.cons ⟨rfl, fun _ => weight⟩ .nil,
      ⟨⟨load, held, sum_singleton held, above, by linarith, ?_⟩, ?_, ?_⟩,
      .inr ⟨?_, load, held, sum_singleton held, above, below⟩⟩
    · rw [nobody]
      norm_num
      exact above
    · omega
    · simp [weight]
    · simpa using zero
  · rcases normalizedHealth_first positive larger with ⟨load, held, equal, above, below⟩
    have weight : 0 < loadWeight (.finite load held) :=
      loadWeight_positive (by linarith) (by linarith)
    have winner : winners [(priority, finite load held)] = 1 := by
      simp [winners, weight]
    rw [equal]
    refine ⟨.cons ⟨rfl, ?_⟩ .nil,
      ⟨⟨load, held, sum_singleton held, by linarith, below, ?_⟩, by omega, ?_⟩,
      .inl (by omega)⟩
    · rintro ⟨value, valueHeld, rfl, _, none⟩
      rcases positive with ⟨_, _, ⟨⟩, some, _⟩
      linarith
    · rw [winner]
      refine (min_le_left _ _).trans ?_
      linarith
    · intro entry member
      cases mem_singleton.mp member
      exact loadWeight_le (by linarith) below

theorem Spread.foldl (spread : Spread healths loads)
    (totalWithin : Within 1 100 total) (each : ∀ entry ∈ rest, Health entry.2) :
    Spread (healths ++ rest) (rest.foldl (pushLoad total) loads) := by
  induction rest generalizing healths loads with
  | nil => simpa using spread
  | cons entry rest induction =>
    have pushed := spread.push totalWithin (each entry (by simp))
    have folded := induction pushed fun other member => each other (by simp [member])
    simpa using folded

end

example : calculatePriorityLoads ⟨true⟩
    [(0, ⟨(), 25, 100⟩), (1, ⟨(), 25, 100⟩), (2, ⟨(), 20, 100⟩)] =
      .ok [(0, 36), (1, 36), (2, 29)] := by decide +kernel

/-! ## All loads -/

theorem Health.within (isHealth : Health health) : Within 0 100 health := by
  rcases isHealth with zero | positive
  · exact zero.mono
  · exact positive.mono

theorem foldl_atLeast {healths : List Binary64} (held : Representable low) (nonnegative : 0 ≤ low)
    (started : AtLeast low start) (each : ∀ health ∈ healths, Health health) :
    AtLeast low (healths.foldl (· + ·) start) := by
  induction healths generalizing start with
  | nil => exact started
  | cons health healths induction =>
    refine induction ?_ fun other member => each other (by simp [member])
    exact started.add (each health (by simp)).within nonnegative (le_refl _) held (by linarith)

theorem atLeast_sum (each : ∀ health ∈ healths, Health health) (member : health ∈ healths)
    (held : Representable low) (nonnegative : 0 ≤ low) (atLeast : AtLeast low health) :
    AtLeast low (sum healths) := by
  rcases append_of_mem member with ⟨before, after, rfl⟩
  have started : AtLeast 0 (before.foldl (· + ·) (ofExact 0)) :=
    foldl_atLeast .natCast (le_refl _) within_zero.atLeast
      fun other known => each other (by simp [known])
  have within : Within low 100 health := by
    rcases (each health member).within with ⟨value, valueHeld, rfl, _, below⟩
    rcases atLeast with overflowed | ⟨same, sameHeld, equal, above⟩
    · cases overflowed
    · cases equal
      exact ⟨value, valueHeld, rfl, above, below⟩
  rw [Binary64.sum, foldl_append, foldl_cons]
  exact foldl_atLeast held nonnegative
    (started.add within (le_refl _) nonnegative held (by linarith))
    fun other known => each other (by simp [known])

theorem covers_total (each : ∀ health ∈ healths, Health health) (member : health ∈ healths) :
    Covers ((ofExact 100).min (sum healths)) health := by
  intro low held nonnegative small atLeast
  exact (atLeast_sum each member held nonnegative atLeast).min_within within_hundred small

theorem spreadLoads_spread (each : ∀ entry ∈ healths, Health entry.2) (member : entry ∈ healths)
    (positive : Within 1 100 entry.2) : Spread healths (spreadLoads healths) := by
  cases healths with
  | nil => cases member
  | cons first rest =>
    have eachHealth : ∀ health ∈ (first :: rest).map Prod.snd, Health health := by
      intro health known
      rcases mem_map.mp known with ⟨other, listed, rfl⟩
      exact each other listed
    have totalWithin : Within 1 100
        ((ofExact 100).min (sum ((first :: rest).map Prod.snd))) :=
      covers_total eachHealth (mem_map_of_mem member) .natCast (by norm_num)
        (by norm_num) positive.atLeast
    have larger : Covers ((ofExact 100).min (sum ((first :: rest).map Prod.snd)))
        first.2 := covers_total eachHealth (mem_map_of_mem (by simp))
    exact (Spread.first (each first (by simp)) totalWithin larger).foldl totalWithin
      fun other known => each other (by simp [known])

theorem Spread.winners_pos (spread : Spread healths loads) (member : entry ∈ healths)
    (positive : Within 1 100 entry.2) : 0 < winners loads := by
  rcases spread.started with started | ⟨nothing, _⟩
  · exact started
  · rcases nothing entry member with ⟨value, held, equal, _, below⟩
    rcases positive with ⟨same, sameHeld, sameEqual, above, _⟩
    rw [equal] at sameEqual
    cases sameEqual
    linarith

/-! ### No health at all -/

theorem sum_zero (each : ∀ health ∈ healths, Within 0 0 health) :
    Within 0 0 (sum healths) := by
  have folded : ∀ start, Within 0 0 start → Within 0 0 (healths.foldl (· + ·) start) := by
    induction healths with
    | nil => exact fun start started => started
    | cons health healths induction =>
      intro start started
      apply induction fun other member => each other (by simp [member])
      exact started.add (each health (by simp))
  exact folded _ within_zero

theorem eq_zero_of_within (within : Within 0 0 number) : number = .finite 0 .natCast := by
  rcases within with ⟨value, held, rfl, above, below⟩
  cases le_antisymm below above
  rfl

theorem normalizedHealth_nan (totalZero : Within 0 0 total) (zero : Within 0 0 health) :
    normalizedHealth total health = .nan := by
  rw [normalizedHealth, eq_zero_of_within (scaled_zero zero), eq_zero_of_within totalZero]
  rfl

theorem add_nan (number : Binary64) : number + .nan = .nan := by
  cases number <;> rfl

theorem sub_nan (number : Binary64) : number - .nan = .nan := by
  cases number <;> rfl

theorem pushLoad_nan {last : Nat × Binary64}
    (totalZero : Within 0 0 total) (zero : Within 0 0 entry.2) :
    pushLoad total ((done ++ [last]).map fun other => (other.1, .nan)) entry =
      (done ++ [last] ++ [entry]).map fun other => (other.1, .nan) := by
  have spent : sum
      (((done ++ [last]).map fun other => (other.1, nan)).map Prod.snd) = .nan := by
    rw [map_append, map_append]
    exact (sum_append_singleton _ _).trans (add_nan _)
  rw [pushLoad, spent, sub_nan, normalizedHealth_nan totalZero zero]
  simp only [map_append]
  rfl

theorem foldl_pushLoad_nan (done : List (Nat × Binary64)) {last : Nat × Binary64}
    (totalZero : Within 0 0 total) (each : ∀ entry ∈ rest, Within 0 0 entry.2) :
    rest.foldl (pushLoad total) ((done ++ [last]).map fun entry => (entry.1, .nan)) =
      (done ++ [last] ++ rest).map fun entry => (entry.1, .nan) := by
  induction rest generalizing done last with
  | nil => simp
  | cons entry rest induction =>
    rw [foldl_cons, pushLoad_nan totalZero (each entry (by simp)),
      induction _ fun other member => each other (by simp [member])]
    simp

theorem spreadLoads_nan {healths : List (Nat × Binary64)}
    (each : ∀ entry ∈ healths, Within 0 0 entry.2) :
    spreadLoads healths = healths.map fun entry => (entry.1, .nan) := by
  cases healths with
  | nil => rfl
  | cons first rest =>
    have totalZero : Within 0 0
        ((ofExact 100).min (sum ((first :: rest).map Prod.snd))) := by
      refine (within_hundred.min (sum_zero ?_)).mono
      intro health known
      rcases mem_map.mp known with ⟨entry, listed, rfl⟩
      exact each entry listed
    rw [spreadLoads, normalizedHealth_nan totalZero (each first (by simp))]
    apply foldl_pushLoad_nan [] totalZero
    exact fun other member => each other (by simp [member])

/-! ## Percentages -/

theorem healthPercentage_lt (returned : healthPercentage profile healthy total = .ok percentage) :
    percentage < U32.limit := by
  rcases bind_eq_ok_iff.mp returned with ⟨product, scaled, quotient⟩
  unfold U32.div at quotient
  split_ifs at quotient with zero
  cases quotient
  have small : product < U32.limit := by
    rw [U32.fit_eq_ok scaled]
    exact mod_lt _ (by decide)
  exact (div_le_self _ _).trans_lt small

def Percentages (profile : BuildProfile) (endpoints : List (Nat × PriorityInfo B))
    (percentages : List (Nat × Nat)) : Prop :=
  List.Forall₂
    (fun entry percentage => entry.1 = percentage.1 ∧
      healthPercentage profile entry.2.healthy entry.2.total = .ok percentage.2)
    endpoints percentages

def healths (percentages : List (Nat × Nat)) : List (Nat × Binary64) :=
  percentages.map fun entry => (entry.1, overprovisioned entry.2)

theorem healthOf_eq_ok (returned : healthOf profile entry = .ok health) :
    ∃ percentage,
      healthPercentage profile entry.2.healthy entry.2.total = .ok percentage ∧
      health = (entry.1, overprovisioned percentage) := by
  rcases map_eq_ok_iff.mp returned with ⟨value, computed, rfl⟩
  rcases map_eq_ok_iff.mp computed with ⟨percentage, quotient, rfl⟩
  exact ⟨percentage, quotient, rfl⟩

theorem percentages_of_healths
    (matched : List.Forall₂ (fun entry health => healthOf profile entry = .ok health)
      endpoints priorityHealth) :
    ∃ percentages, Percentages profile endpoints percentages ∧
      priorityHealth = healths percentages := by
  induction matched with
  | nil => exact ⟨[], .nil, rfl⟩
  | @cons entry health _ _ computed _ induction =>
    rcases induction with ⟨percentages, matched, rfl⟩
    rcases healthOf_eq_ok computed with ⟨percentage, quotient, rfl⟩
    exact ⟨(entry.1, percentage) :: percentages, .cons ⟨rfl, quotient⟩ matched, rfl⟩

theorem calculatePriorityLoads_eq_ok
    (returned : calculatePriorityLoads profile endpoints = .ok loads) :
    ∃ percentages, Percentages profile (sortByPriority endpoints) percentages ∧
      loads = (spreadLoads (healths percentages)).map
        fun load => (load.1, loadWeight load.2) := by
  rcases bind_eq_ok_iff.mp returned with ⟨priorityHealth, computed, ⟨⟩⟩
  rcases percentages_of_healths (mapM_eq_ok_iff.mp computed) with ⟨percentages, matched, rfl⟩
  exact ⟨percentages, matched, rfl⟩

/-! ## The weights of the priorities -/

section

theorem Percentages.health (matched : Percentages profile endpoints percentages) :
    ∀ entry ∈ healths percentages, Health entry.2 := by
  intro entry member
  rcases mem_map.mp member with ⟨percentage, known, rfl⟩
  rcases partner_of_right matched known with ⟨_, _, _, returned⟩
  exact overprovisioned_health (healthPercentage_lt returned)

theorem Percentages.spread (matched : Percentages profile endpoints percentages)
    (member : percentage ∈ percentages) (positive : 0 < percentage.2) :
    Spread (healths percentages) (spreadLoads (healths percentages)) ∧
      0 < winners (spreadLoads (healths percentages)) := by
  rcases partner_of_right matched member with ⟨_, _, _, returned⟩
  have healthy : Within 1 100 (overprovisioned percentage.2) :=
    overprovisioned_positive positive (healthPercentage_lt returned)
  have listed : (percentage.1, overprovisioned percentage.2) ∈ healths percentages :=
    mem_map.mpr ⟨percentage, member, rfl⟩
  have spread := spreadLoads_spread matched.health listed healthy
  exact ⟨spread, spread.winners_pos listed healthy⟩

theorem matched_loads_of_zero (zero : ∀ percentage ∈ percentages, percentage.2 = 0) :
    (spreadLoads (healths percentages)).map (fun load => (load.1, loadWeight load.2)) =
      percentages.map fun percentage => (percentage.1, 0) := by
  rw [spreadLoads_nan ?_]
  · unfold healths
    rw [map_map, map_map]
    rfl
  · intro entry member
    rcases mem_map.mp member with ⟨percentage, known, rfl⟩
    rw [zero percentage known]
    exact overprovisioned_zero

structure Weighted (profile : BuildProfile) (endpoints : List (Nat × PriorityInfo B))
    (loads : List (Nat × Nat)) : Prop where
  matched : List.Forall₂
    (fun entry load => entry.1 = load.1 ∧
      ∃ percentage, healthPercentage profile entry.2.healthy entry.2.total = .ok percentage ∧
        (percentage = 0 → load.2 = 0))
    endpoints loads
  few : loads.countP (fun load => 0 < load.2) ≤ 200
  each : ∀ load ∈ loads, load.2 ≤ 200
  started : ∀ entry ∈ endpoints, ∀ percentage,
    healthPercentage profile entry.2.healthy entry.2.total = .ok percentage →
    0 < percentage → ∃ load ∈ loads, 0 < load.2

theorem Percentages.weighted_of_zero (matched : Percentages profile endpoints percentages)
    (zero : ∀ percentage ∈ percentages, percentage.2 = 0) :
    Weighted profile endpoints (percentages.map fun percentage => (percentage.1, 0)) := by
  refine ⟨?_, ?_, ?_, ?_⟩
  · rw [forall₂_map_right_iff]
    refine matched.imp ?_
    rintro entry percentage ⟨same, returned⟩
    exact ⟨same, percentage.2, returned, fun _ => rfl⟩
  · simp [Function.comp_def]
  · intro load member
    rcases mem_map.mp member with ⟨_, _, rfl⟩
    exact zero_le _
  · intro entry member percentage returned positive
    rcases partner_of_left matched member with ⟨known, listed, _, same⟩
    rw [returned] at same
    cases same
    exact absurd (zero known listed) (by omega)

theorem Percentages.weighted_of_positive (matched : Percentages profile endpoints percentages)
    (member : percentage ∈ percentages) (positive : 0 < percentage.2) :
    Weighted profile endpoints
      ((spreadLoads (healths percentages)).map fun load => (load.1, loadWeight load.2)) := by
  rcases matched.spread member positive with ⟨spread, someWinner⟩
  refine ⟨?_, ?_, ?_, ?_⟩
  · rw [forall₂_map_right_iff]
    have pairs := spread.matched
    unfold healths at pairs
    rw [forall₂_map_left_iff] at pairs
    refine (matched_through matched pairs).imp ?_
    rintro entry load ⟨known, ⟨same, returned⟩, sameLoad, zero⟩
    refine ⟨same.trans sameLoad, known.2, returned, ?_⟩
    intro none
    exact zero (none ▸ overprovisioned_zero)
  · rw [countP_map]
    exact spread.spending.few
  · intro load listed
    rcases mem_map.mp listed with ⟨known, source, rfl⟩
    exact spread.spending.each known source
  · intro _ _ _ _ _
    rcases countP_pos_iff.mp someWinner with ⟨load, listed, winner⟩
    exact ⟨_, mem_map_of_mem listed, of_decide_eq_true winner⟩

theorem calculatePriorityLoads_weighted
    (returned : calculatePriorityLoads profile endpoints = .ok loads) :
    Weighted profile (sortByPriority endpoints) loads := by
  rcases calculatePriorityLoads_eq_ok returned with ⟨percentages, matched, rfl⟩
  by_cases healthy : ∃ percentage ∈ percentages, 0 < percentage.2
  · rcases healthy with ⟨percentage, member, positive⟩
    exact matched.weighted_of_positive member positive
  · have zero : ∀ percentage ∈ percentages, percentage.2 = 0 := by
      intro percentage member
      by_contra positive
      exact healthy ⟨percentage, member, pos_of_ne_zero positive⟩
    rw [matched_loads_of_zero zero]
    exact matched.weighted_of_zero zero

example : calculatePriorityLoads ⟨true⟩ [(3, ⟨(), 1, 101⟩), (1, ⟨(), 0, 1⟩)] =
    .ok [(1, 0), (3, 0)] := by decide +kernel

/-- The weights can be computed exactly when each percentage can. -/
theorem calculatePriorityLoads_isOk :
    (∃ loads, calculatePriorityLoads profile endpoints = .ok loads) ↔
      ∀ entry ∈ endpoints, ∃ percentage,
        healthPercentage profile entry.2.healthy entry.2.total = .ok percentage := by
  constructor
  · rintro ⟨loads, returned⟩ entry member
    rcases calculatePriorityLoads_eq_ok returned with ⟨percentages, matched, _⟩
    rcases partner_of_left matched (mem_sortByPriority.mpr member) with ⟨known, _, _, same⟩
    exact ⟨known.2, same⟩
  · intro each
    have computable : ∀ entry ∈ sortByPriority endpoints, ∃ health,
        healthOf profile entry = .ok health := by
      intro entry member
      rcases each entry (mem_sortByPriority.mp member) with ⟨percentage, returned⟩
      exact ⟨_, by rw [healthOf, calculatePriorityHealth, returned]; rfl⟩
    rcases mapM_isOk computable with ⟨priorityHealth, computed⟩
    exact ⟨_, by rw [calculatePriorityLoads, computed]; rfl⟩

end

end Orion.Clusters.Priority
