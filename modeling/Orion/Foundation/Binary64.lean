import Mathlib

/-! # Double-precision numbers

Binary floating-point numbers of 64 bits, with every operation rounded to the
nearest number and ties going to the even one. A finite number is held as the
rational it denotes, together with the fact that the format can hold it. The sign
of a zero is not kept; a zero divisor counts as positive.

What a computation needs to know about rounding is that it never crosses a number
of the format. `Binary64.Within` turns that into interval arithmetic.
-/

namespace Orion.Foundation

/-! ## Rounding -/

/-- The rationals with a significand of 53 bits and no digit below the smallest
subnormal number. -/
def OnGrid (value : ℚ) : Prop :=
  ∃ significand exponent : ℤ,
    |significand| ≤ 2 ^ 53 ∧ -1074 ≤ exponent ∧ value = significand * 2 ^ exponent

/-- The exponent of the last digit that the format keeps of a number. -/
def quantum (value : ℚ) : ℤ := max (Int.log 2 |value| - 52) (-1074)

def nearestEven (value : ℚ) : ℤ :=
  if value - ⌊value⌋ < 1 / 2 then ⌊value⌋
  else if 1 / 2 < value - ⌊value⌋ then ⌊value⌋ + 1
  else if ⌊value⌋ % 2 = 0 then ⌊value⌋
  else ⌊value⌋ + 1

def roundToNearest (value : ℚ) : ℚ :=
  nearestEven (value / 2 ^ quantum value) * 2 ^ quantum value

variable {value : ℚ}

theorem le_nearestEven {bound : ℤ} (below : (bound : ℚ) ≤ value) : bound ≤ nearestEven value := by
  have floorAbove : bound ≤ ⌊value⌋ := Int.le_floor.mpr below
  unfold nearestEven
  split_ifs <;> omega

theorem nearestEven_le {bound : ℤ} (above : value ≤ bound) : nearestEven value ≤ bound := by
  have floorBelow : ⌊value⌋ ≤ bound := Int.cast_le.mp ((Int.floor_le value).trans above)
  rcases floorBelow.eq_or_lt with equal | less
  · -- Then the value is its own floor, and nothing is rounded.
    have exact : value - ⌊value⌋ < 1 / 2 := by
      have : value ≤ (⌊value⌋ : ℚ) := equal ▸ above
      linarith
    rw [nearestEven, if_pos exact, equal]
  · unfold nearestEven
    split_ifs <;> omega

theorem two_zpow_pos (exponent : ℤ) : (0 : ℚ) < 2 ^ exponent :=
  zpow_pos (by norm_num) exponent

theorem roundToNearest_zero : roundToNearest 0 = 0 := by
  simp [roundToNearest, nearestEven]

theorem abs_lt_quantum (value : ℚ) : |value| < 2 ^ (quantum value + 53) := by
  have within : |value| < ((2 : ℕ) : ℚ) ^ (Int.log 2 |value| + 1) :=
    Int.lt_zpow_succ_log_self (by decide) |value|
  refine within.trans_le ?_
  apply zpow_le_zpow_right₀ (by norm_num)
  unfold quantum
  omega

/-- A number on the grid is a multiple of the last digit kept of `value`, unless it
is no larger than a power of two that `value` reaches. -/
theorem OnGrid.multiple_or_small (onGrid : OnGrid point) (nonzero : value ≠ 0) :
    (∃ multiple : ℤ, point = multiple * 2 ^ quantum value) ∨
      (|point| ≤ 2 ^ (quantum value + 52) ∧ 2 ^ (quantum value + 52) ≤ |value|) := by
  rcases onGrid with ⟨significand, exponent, small, notBelow, rfl⟩
  by_cases coarse : quantum value ≤ exponent
  · refine .inl ⟨significand * 2 ^ (exponent - quantum value).toNat, ?_⟩
    have shift : ((2 : ℚ) ^ (exponent - quantum value).toNat) = 2 ^ (exponent - quantum value) := by
      rw [← zpow_natCast, Int.toNat_of_nonneg (by omega)]
    push_cast
    rw [shift, mul_assoc, ← zpow_add₀ (by norm_num)]
    congr 2
    omega
  · refine .inr ⟨?_, ?_⟩
    · have significandSmall : |(significand : ℚ)| ≤ 2 ^ (53 : ℤ) := by
        have cast : ((|significand| : ℤ) : ℚ) ≤ ((2 ^ 53 : ℤ) : ℚ) := Int.cast_le.mpr small
        rw [Int.cast_abs] at cast
        exact cast.trans_eq (by norm_num)
      calc |(significand : ℚ) * 2 ^ exponent| = |(significand : ℚ)| * 2 ^ exponent := by
            rw [abs_mul, abs_of_pos (two_zpow_pos exponent)]
        _ ≤ 2 ^ (53 : ℤ) * 2 ^ exponent := by
            exact mul_le_mul_of_nonneg_right significandSmall (two_zpow_pos _).le
        _ = 2 ^ (53 + exponent) := (zpow_add₀ (by norm_num) _ _).symm
        _ ≤ 2 ^ (quantum value + 52) := by
            apply zpow_le_zpow_right₀ (by norm_num)
            omega
    · -- The quantum is not the subnormal one, so it is the one of the value's size.
      have large : quantum value + 52 = Int.log 2 |value| := by
        unfold quantum at coarse ⊢
        omega
      rw [large]
      exact Int.zpow_log_le_self (by decide) (abs_pos.mpr nonzero)

theorem le_roundToNearest_of_multiple {multiple : ℤ}
    (below : multiple * 2 ^ quantum value ≤ value) :
    multiple * 2 ^ quantum value ≤ roundToNearest value := by
  apply mul_le_mul_of_nonneg_right _ (two_zpow_pos _).le
  rw [Int.cast_le]
  apply le_nearestEven
  rwa [le_div_iff₀ (two_zpow_pos _)]

theorem roundToNearest_le_of_multiple {multiple : ℤ}
    (above : value ≤ multiple * 2 ^ quantum value) :
    roundToNearest value ≤ multiple * 2 ^ quantum value := by
  apply mul_le_mul_of_nonneg_right _ (two_zpow_pos _).le
  rw [Int.cast_le]
  apply nearestEven_le
  rwa [div_le_iff₀ (two_zpow_pos _)]

/-- The power of two at which the digits of a number start is a multiple of its
last digit. -/
theorem leading_eq_multiple (value : ℚ) :
    (2 : ℚ) ^ (quantum value + 52) = (2 ^ 52 : ℤ) * 2 ^ quantum value := by
  rw [add_comm, zpow_add₀ (by norm_num)]
  norm_num

theorem OnGrid.le_roundToNearest (onGrid : OnGrid point)
    (below : point ≤ value) : point ≤ roundToNearest value := by
  rcases eq_or_ne value 0 with rfl | nonzero
  · rwa [roundToNearest_zero]
  rcases onGrid.multiple_or_small nonzero with ⟨multiple, rfl⟩ | ⟨small, reached⟩
  · exact le_roundToNearest_of_multiple below
  · rcases le_or_gt 0 value with nonnegative | negative
    · rw [abs_of_nonneg nonnegative, leading_eq_multiple] at reached
      have rounded := le_roundToNearest_of_multiple reached
      rw [← leading_eq_multiple] at rounded
      exact (le_abs_self point).trans (small.trans rounded)
    · -- Below zero the two can only be equal, and equal to a power of two.
      rw [abs_of_neg negative] at reached
      have opposite : point = -2 ^ (quantum value + 52) := by
        have := neg_abs_le point
        linarith
      have multiple : point = ((-2 ^ 52 : ℤ) : ℚ) * 2 ^ quantum value := by
        rw [opposite, leading_eq_multiple]
        ring
      rw [multiple] at below ⊢
      exact le_roundToNearest_of_multiple below

theorem OnGrid.roundToNearest_le (onGrid : OnGrid point)
    (above : value ≤ point) : roundToNearest value ≤ point := by
  rcases eq_or_ne value 0 with rfl | nonzero
  · rwa [roundToNearest_zero]
  rcases onGrid.multiple_or_small nonzero with ⟨multiple, rfl⟩ | ⟨small, reached⟩
  · exact roundToNearest_le_of_multiple above
  · rcases le_or_gt value 0 with nonpositive | positive
    · rw [abs_of_nonpos nonpositive, leading_eq_multiple] at reached
      have bound : value ≤ ((-2 ^ 52 : ℤ) : ℚ) * 2 ^ quantum value := by
        push_cast at reached ⊢
        linarith
      have rounded := roundToNearest_le_of_multiple bound
      have leading := leading_eq_multiple value
      have := neg_abs_le point
      push_cast at rounded leading
      linarith
    · rw [abs_of_pos positive] at reached
      have equal : point = 2 ^ (quantum value + 52) := by
        have := le_abs_self point
        linarith
      rw [equal, leading_eq_multiple] at above ⊢
      exact roundToNearest_le_of_multiple above

theorem roundToNearest_onGrid (value : ℚ) : OnGrid (roundToNearest value) := by
  refine ⟨nearestEven (value / 2 ^ quantum value), quantum value, ?_, le_max_right _ _, rfl⟩
  have scaled : |value / 2 ^ quantum value| < 2 ^ 53 := by
    rw [abs_div, abs_of_pos (two_zpow_pos _), div_lt_iff₀ (two_zpow_pos _)]
    refine (abs_lt_quantum value).trans_eq ?_
    rw [add_comm, zpow_add₀ (by norm_num)]
    norm_num
  rw [abs_lt] at scaled
  rw [abs_le]
  constructor
  · apply le_nearestEven
    exact scaled.1.le
  · apply nearestEven_le
    exact scaled.2.le

/-! ## Numbers -/

structure Representable (value : ℚ) : Prop where
  onGrid : OnGrid value
  bounded : |value| < 2 ^ 1024

inductive Binary64 where
  | nan
  | infinite (negative : Bool)
  | finite (value : ℚ) (representable : Representable value)
  deriving DecidableEq

namespace Binary64

/-- The number nearest to an exact result; too large a result overflows. -/
def ofExact (value : ℚ) : Binary64 :=
  if bounded : |roundToNearest value| < 2 ^ 1024 then
    .finite (roundToNearest value) ⟨roundToNearest_onGrid value, bounded⟩
  else
    .infinite (value < 0)

def ofNat (number : ℕ) : Binary64 := ofExact number

def add : Binary64 → Binary64 → Binary64
  | .nan, _ | _, .nan => .nan
  | .infinite left, .infinite right => if left = right then .infinite left else .nan
  | .infinite left, .finite _ _ => .infinite left
  | .finite _ _, .infinite right => .infinite right
  | .finite left _, .finite right _ => ofExact (left + right)

def sub : Binary64 → Binary64 → Binary64
  | .nan, _ | _, .nan => .nan
  | .infinite left, .infinite right => if left = right then .nan else .infinite left
  | .infinite left, .finite _ _ => .infinite left
  | .finite _ _, .infinite right => .infinite !right
  | .finite left _, .finite right _ => ofExact (left - right)

def mul : Binary64 → Binary64 → Binary64
  | .nan, _ | _, .nan => .nan
  | .infinite left, .infinite right => .infinite (left != right)
  | .infinite negative, .finite value _ | .finite value _, .infinite negative =>
    if value = 0 then .nan else .infinite (negative != decide (value < 0))
  | .finite left _, .finite right _ => ofExact (left * right)

def div : Binary64 → Binary64 → Binary64
  | .nan, _ | _, .nan => .nan
  | .infinite _, .infinite _ => .nan
  | .infinite negative, .finite value _ => .infinite (negative != decide (value < 0))
  | .finite _ _, .infinite _ => ofExact 0
  | .finite left _, .finite right _ =>
    if right ≠ 0 then ofExact (left / right)
    else if left = 0 then .nan
    else .infinite (left < 0)

instance : Add Binary64 := ⟨add⟩
instance : Sub Binary64 := ⟨sub⟩
instance : Mul Binary64 := ⟨mul⟩
instance : Div Binary64 := ⟨div⟩

/-- The comparison `<`; it is false when an operand is not a number. -/
def lt : Binary64 → Binary64 → Bool
  | .nan, _ | _, .nan => false
  | .infinite left, .infinite right => left && !right
  | .infinite negative, .finite _ _ => negative
  | .finite _ _, .infinite negative => !negative
  | .finite left _, .finite right _ => left < right

/-- The comparison `>=`; it too is false when an operand is not a number. -/
def ge : Binary64 → Binary64 → Bool
  | .nan, _ | _, .nan => false
  | left, right => !left.lt right

/-- The smaller number; an operand that is not a number is ignored. -/
def min : Binary64 → Binary64 → Binary64
  | .nan, right => right
  | left, .nan => left
  | left, right => if right.lt left then right else left

/-- The larger number; an operand that is not a number is ignored. -/
def max : Binary64 → Binary64 → Binary64
  | .nan, right => right
  | left, .nan => left
  | left, right => if left.lt right then right else left

def ceil : Binary64 → Binary64
  | .finite value _ => ofExact ⌈value⌉
  | other => other

/-- The nearest integer, halves going away from zero. -/
def round : Binary64 → Binary64
  | .finite value _ =>
    ofExact (if 0 ≤ value then ⌊value + 1 / 2⌋ else ⌈value - 1 / 2⌉ : ℤ)
  | other => other

/-- Conversion to an unsigned integer below `limit`, cutting off the fraction and
clamping what is out of range. -/
def toNatBelow (limit : ℕ) : Binary64 → ℕ
  | .nan => 0
  | .infinite negative => if negative then 0 else limit - 1
  | .finite value _ => Nat.min ⌊value⌋.toNat (limit - 1)

def sum (numbers : List Binary64) : Binary64 := numbers.foldl (· + ·) (ofExact 0)

end Binary64

/-! ## Intervals of double-precision numbers

An operation on finite numbers gives a finite number, and stays between two bounds
that the format can hold, whenever its exact result does.
-/

/-! ## Numbers that the format can hold -/

theorem Representable.dyadic (numerator : ℤ) (digits : ℕ)
    (small : |numerator| ≤ 2 ^ 53) (shallow : digits ≤ 1074) :
    Representable (numerator / 2 ^ digits) := by
  refine ⟨⟨numerator, -digits, small, by omega, ?_⟩, ?_⟩
  · rw [zpow_neg, zpow_natCast, div_eq_mul_inv]
  · have numeratorSmall : |(numerator : ℚ)| ≤ 2 ^ 53 := by
      have cast : ((|numerator| : ℤ) : ℚ) ≤ ((2 ^ 53 : ℤ) : ℚ) := Int.cast_le.mpr small
      rw [Int.cast_abs] at cast
      exact cast.trans_eq (by norm_num)
    have denominator : (1 : ℚ) ≤ 2 ^ digits := one_le_pow₀ (by norm_num)
    calc |(numerator : ℚ) / 2 ^ digits| = |(numerator : ℚ)| / 2 ^ digits := by
          rw [abs_div, abs_of_pos (by positivity : (0 : ℚ) < 2 ^ digits)]
      _ ≤ |(numerator : ℚ)| := div_le_self (abs_nonneg _) denominator
      _ ≤ 2 ^ 53 := numeratorSmall
      _ < 2 ^ 1024 := pow_lt_pow_right₀ (by norm_num) (by norm_num)

theorem Representable.natCast {number : ℕ} (small : number ≤ 2 ^ 53 := by norm_num) :
    Representable number := by
  have held := Representable.dyadic number 0
    (by rw [abs_of_nonneg (by omega)]; exact_mod_cast small) (by omega)
  simpa using held

theorem Representable.eighths {number : ℤ} (small : |number| ≤ 2 ^ 53) :
    Representable (number / 8) := by
  have held := Representable.dyadic number 3 small (by omega)
  exact held

namespace Binary64

/-! ## Bounds -/

def Within (low high : ℚ) (number : Binary64) : Prop :=
  ∃ value representable,
    number = .finite value representable ∧ low ≤ value ∧ value ≤ high

variable {low high low' high' lowest highest : ℚ} {left right number : Binary64}

theorem within_self (value : ℚ) (representable : Representable value) :
    Within value value (.finite value representable) :=
  ⟨value, representable, rfl, le_refl _, le_refl _⟩

theorem Within.mono (within : Within low high number) (lower : lowest ≤ low := by norm_num)
    (higher : high ≤ highest := by norm_num) : Within lowest highest number := by
  rcases within with ⟨value, representable, rfl, above, below⟩
  exact ⟨value, representable, rfl, lower.trans above, below.trans higher⟩

/-- Bounds that the format can hold survive the rounding of an exact result. -/
theorem ofExact_within (lowHeld : Representable low := by exact .natCast)
    (highHeld : Representable high := by exact .natCast) (above : low ≤ value := by norm_num)
    (below : value ≤ high := by norm_num) : Within low high (ofExact value) := by
  have roundedAbove := lowHeld.onGrid.le_roundToNearest above
  have roundedBelow := highHeld.onGrid.roundToNearest_le below
  have bounded : |roundToNearest value| < 2 ^ 1024 := by
    rw [abs_lt]
    exact ⟨(abs_lt.mp lowHeld.bounded).1.trans_le roundedAbove,
      roundedBelow.trans_lt (abs_lt.mp highHeld.bounded).2⟩
  rw [ofExact, dif_pos bounded]
  exact ⟨_, _, rfl, roundedAbove, roundedBelow⟩

theorem ofNat_within {number : ℕ} (small : number ≤ 2 ^ 53 := by norm_num) :
    Within number number (ofNat number) :=
  ofExact_within (.natCast small) (.natCast small) (le_refl _) (le_refl _)

section

variable (leftWithin : Within low high left) (rightWithin : Within low' high' right)

include leftWithin rightWithin

theorem Within.add (lowHeld : Representable lowest := by exact .natCast)
    (highHeld : Representable highest := by exact .natCast)
    (lower : lowest ≤ low + low' := by norm_num)
    (higher : high + high' ≤ highest := by norm_num) : Within lowest highest (left + right) := by
  rcases leftWithin with ⟨x, xHeld, rfl, xAbove, xBelow⟩
  rcases rightWithin with ⟨y, yHeld, rfl, yAbove, yBelow⟩
  exact ofExact_within lowHeld highHeld (by linarith) (by linarith)

theorem Within.sub (lowHeld : Representable lowest := by exact .natCast)
    (highHeld : Representable highest := by exact .natCast)
    (lower : lowest ≤ low - high' := by norm_num)
    (higher : high - low' ≤ highest := by norm_num) : Within lowest highest (left - right) := by
  rcases leftWithin with ⟨x, xHeld, rfl, xAbove, xBelow⟩
  rcases rightWithin with ⟨y, yHeld, rfl, yAbove, yBelow⟩
  exact ofExact_within lowHeld highHeld (by linarith) (by linarith)

theorem Within.mul (nonnegative : 0 ≤ low := by norm_num) (nonnegative' : 0 ≤ low' := by norm_num)
    (lowHeld : Representable lowest := by exact .natCast)
    (highHeld : Representable highest := by exact .natCast)
    (lower : lowest ≤ low * low' := by norm_num)
    (higher : high * high' ≤ highest := by norm_num) : Within lowest highest (left * right) := by
  rcases leftWithin with ⟨x, xHeld, rfl, xAbove, xBelow⟩
  rcases rightWithin with ⟨y, yHeld, rfl, yAbove, yBelow⟩
  refine ofExact_within lowHeld highHeld (lower.trans ?_) (le_trans ?_ higher)
  · exact mul_le_mul xAbove yAbove nonnegative' (nonnegative.trans xAbove)
  · exact mul_le_mul xBelow yBelow (nonnegative'.trans yAbove)
      (nonnegative.trans (xAbove.trans xBelow))

theorem Within.div (nonnegative : 0 ≤ low := by norm_num) (positive : 0 < low' := by norm_num)
    (lowHeld : Representable lowest := by exact .natCast)
    (highHeld : Representable highest := by exact .natCast)
    (lower : lowest ≤ low / high' := by norm_num)
    (higher : high / low' ≤ highest := by norm_num) : Within lowest highest (left / right) := by
  rcases leftWithin with ⟨x, xHeld, rfl, xAbove, xBelow⟩
  rcases rightWithin with ⟨y, yHeld, rfl, yAbove, yBelow⟩
  have yPositive : 0 < y := positive.trans_le yAbove
  have xNonnegative : 0 ≤ x := nonnegative.trans xAbove
  change Within lowest highest (if y ≠ 0 then ofExact (x / y) else _)
  rw [if_pos yPositive.ne']
  refine ofExact_within lowHeld highHeld (lower.trans ?_) (le_trans ?_ higher)
  · exact div_le_div₀ xNonnegative xAbove yPositive yBelow
  · exact div_le_div₀ (xNonnegative.trans xBelow) xBelow positive yAbove

theorem Within.min : Within (Min.min low low') (Min.min high high') (left.min right) := by
  rcases leftWithin with ⟨x, xHeld, rfl, xAbove, xBelow⟩
  rcases rightWithin with ⟨y, yHeld, rfl, yAbove, yBelow⟩
  simp only [Binary64.min, lt, decide_eq_true_eq]
  split_ifs with less
  · exact ⟨y, yHeld, rfl, min_le_of_right_le yAbove, le_min (less.le.trans xBelow) yBelow⟩
  · rw [not_lt] at less
    exact ⟨x, xHeld, rfl, min_le_of_left_le xAbove, le_min xBelow (less.trans yBelow)⟩

end

theorem Within.ceil (within : Within low high number) (lowHeld : Representable lowest)
    (highHeld : Representable highest) (lower : lowest ≤ ⌈low⌉)
    (higher : (⌈high⌉ : ℚ) ≤ highest) : Within lowest highest number.ceil := by
  rcases within with ⟨value, held, rfl, above, below⟩
  refine ofExact_within lowHeld highHeld (lower.trans ?_) (le_trans ?_ higher)
  · exact Int.cast_le.mpr (Int.ceil_mono above)
  · exact Int.cast_le.mpr (Int.ceil_mono below)

theorem Within.lt (leftWithin : Within low high left)
    (rightWithin : Within low' high' right) (apart : high < low') : left.lt right := by
  rcases leftWithin with ⟨x, xHeld, rfl, xAbove, xBelow⟩
  rcases rightWithin with ⟨y, yHeld, rfl, yAbove, yBelow⟩
  exact decide_eq_true (lt_of_le_of_lt xBelow (lt_of_lt_of_le apart yAbove))

theorem Within.round {least most : ℤ} (within : Within low high number)
    (lowHeld : Representable least) (highHeld : Representable most)
    (lower : least < low + 1 / 2 ∨ 0 ≤ low ∧ least ≤ low + 1 / 2)
    (higher : high < most + 1 / 2) : Within least most number.round := by
  rcases within with ⟨value, held, rfl, above, below⟩
  refine ofExact_within lowHeld highHeld ?_ ?_
  · rw [Int.cast_le]
    split_ifs with nonnegative
    · rw [Int.le_floor]
      rcases lower with strict | ⟨_, half⟩ <;> linarith
    · rw [Int.le_ceil_iff]
      rcases lower with strict | ⟨_, half⟩ <;> linarith
  · rw [Int.cast_le]
    split_ifs with nonnegative
    · rw [← Int.lt_add_one_iff, Int.floor_lt]
      push_cast
      linarith
    · rw [Int.ceil_le]
      linarith

theorem Within.toNatBelow_le {most : ℕ} (within : Within low most number) :
    number.toNatBelow limit ≤ most := by
  rcases within with ⟨value, held, rfl, _, below⟩
  have floor : ⌊value⌋ ≤ most := by
    exact_mod_cast (Int.floor_le value).trans below
  exact (Nat.min_le_left _ _).trans (by omega)

theorem Within.le_toNatBelow {least : ℕ} (within : Within least high number)
    (small : least < limit) : least ≤ number.toNatBelow limit := by
  rcases within with ⟨value, held, rfl, above, _⟩
  have floor : (least : ℤ) ≤ ⌊value⌋ := Int.le_floor.mpr (by exact_mod_cast above)
  exact Nat.le_min.mpr ⟨by omega, by omega⟩

/-! ## Values -/

/-- No number that the format can hold lies between an exact result and the
rounded one. -/
structure RoundsTo (exact value : ℚ) : Prop where
  above : ∀ {point}, Representable point → point ≤ exact → point ≤ value
  below : ∀ {point}, Representable point → exact ≤ point → value ≤ point

theorem ofExact_roundsTo (small : |exact| ≤ 2 ^ 53) :
    ∃ value representable,
      ofExact exact = .finite value representable ∧ RoundsTo exact value := by
  have largest : Representable (2 ^ 53) := by
    exact_mod_cast Representable.natCast (le_refl (2 ^ 53))
  have lowest : Representable (-2 ^ 53) := by
    have held := Representable.dyadic (-2 ^ 53) 0 (by simp) (by simp)
    norm_num at held ⊢
    exact held
  rcases ofExact_within lowest largest (abs_le.mp small).1 (abs_le.mp small).2 with
    ⟨value, representable, rounded, _, _⟩
  refine ⟨value, representable, rounded, ?_⟩
  have same : value = roundToNearest exact := by
    unfold ofExact at rounded
    split_ifs at rounded
    exact (Binary64.finite.inj rounded).symm
  rw [same]
  exact ⟨fun held => held.onGrid.le_roundToNearest, fun held => held.onGrid.roundToNearest_le⟩

theorem ofExact_of_representable (held : Representable value) :
    ofExact value = .finite value held := by
  rcases ofExact_within held held (le_refl _) (le_refl _) with
    ⟨same, representable, equal, above, below⟩
  cases le_antisymm below above
  exact equal

/-- A number that is not below a bound, and may have overflowed. -/
def AtLeast (low : ℚ) (number : Binary64) : Prop :=
  number = .infinite false ∨
    ∃ value representable, number = .finite value representable ∧ low ≤ value

theorem Within.atLeast (within : Within low high number) : AtLeast low number := by
  rcases within with ⟨value, representable, equal, above, _⟩
  exact .inr ⟨value, representable, equal, above⟩

theorem AtLeast.add (atLeast : AtLeast low left) (within : Within low' high' right)
    (nonnegative : 0 ≤ low) (nonnegative' : 0 ≤ low') (held : Representable lowest)
    (lower : lowest ≤ low + low') : AtLeast lowest (left + right) := by
  rcases within with ⟨y, yHeld, rfl, yAbove, _⟩
  rcases atLeast with rfl | ⟨x, xHeld, rfl, xAbove⟩
  · exact .inl rfl
  · change AtLeast lowest (ofExact (x + y))
    unfold ofExact
    split_ifs with bounded
    · exact .inr ⟨_, _, rfl, held.onGrid.le_roundToNearest (by linarith)⟩
    · refine .inl ?_
      rw [decide_eq_false (by linarith)]

theorem AtLeast.min_within (atLeast : AtLeast low right)
    (within : Within high high left) (ordered : low ≤ high) : Within low high (left.min right) := by
  rcases within with ⟨x, xHeld, rfl, xAbove, xBelow⟩
  rcases atLeast with rfl | ⟨y, yHeld, rfl, yAbove⟩
  · exact ⟨x, xHeld, rfl, ordered.trans xAbove, xBelow⟩
  · simp only [Binary64.min, Binary64.lt, decide_eq_true_eq]
    split_ifs with less
    · exact ⟨y, yHeld, rfl, yAbove, by linarith⟩
    · exact ⟨x, xHeld, rfl, ordered.trans xAbove, xBelow⟩

end Binary64

end Orion.Foundation
