import Mathlib

/-! # Machine integers

Unsigned 32-bit integers as natural numbers. An operation whose result does not
fit panics in a build with overflow checks and wraps around in one without them; a
division by zero always panics. Saturating operations on signed 32-bit integers
clamp their result.
-/

namespace Orion.Foundation

open List

inductive Panic where
  | overflow
  | divisionByZero
  deriving DecidableEq

structure BuildProfile where
  overflowChecks : Bool
  deriving DecidableEq

instance neZeroU16 : NeZero 65536 := ⟨by decide⟩

instance lawfulBEqU16 : LawfulBEq (Fin 65536) := inferInstance

namespace U32

def limit : Nat := 2 ^ 32

theorem one_lt_limit : 1 < limit := by decide

/-- The result of an operation whose exact result is `value`. -/
def fit (profile : BuildProfile) (value : Nat) : Except Panic Nat :=
  if value < limit then .ok value
  else if profile.overflowChecks then .error .overflow
  else .ok (value % limit)

section

variable (profile : BuildProfile) (left right : Nat)

def add : Except Panic Nat :=
  fit profile (left + right)

def mul : Except Panic Nat :=
  fit profile (left * right)

def sub : Except Panic Nat :=
  if right ≤ left then .ok (left - right)
  else if profile.overflowChecks then .error .overflow
  else .ok ((limit + left - right) % limit)

end

def div (left right : Nat) : Except Panic Nat :=
  if right = 0 then .error .divisionByZero else .ok (left / right)

variable {value left right : Nat}

theorem fit_of_lt (small : value < limit) : fit profile value = .ok value := if_pos small

/-- Whatever the build, a result that is returned is right up to wrapping. -/
theorem fit_eq_ok (returned : fit profile value = .ok result) : result = value % limit := by
  unfold fit at returned
  split_ifs at returned with small
  · cases returned
    exact (Nat.mod_eq_of_lt small).symm
  · cases returned
    rfl

theorem sub_of_le (fits : right ≤ left) : sub profile left right = .ok (left - right) :=
  if_pos fits

theorem sub_eq_ok (leftFits : left < limit) (rightFits : right ≤ limit)
    (returned : sub profile left right = .ok result) :
    result < limit ∧ (result + right) % limit = left := by
  unfold sub at returned
  unfold limit at leftFits rightFits returned ⊢
  split_ifs at returned with fits
  · cases returned
    omega
  · cases returned
    omega

end U32

namespace I32

def maximum : Int := 2 ^ 31 - 1

def minimum : Int := -2 ^ 31

def saturatingAdd (left right : Int) : Int :=
  max minimum (min maximum (left + right))

def ofU32 (value : Nat) : Int := min maximum value

theorem saturatingAdd_of_fits (above : minimum ≤ left + right) (below : left + right ≤ maximum) :
    saturatingAdd left right = left + right := by
  rw [saturatingAdd, min_eq_right below, max_eq_right above]

theorem ofU32_of_le {value : Nat} (small : (value : Int) ≤ maximum) :
    ofU32 value = value := min_eq_right small

end I32

/-! ## Numbers as bytes, the most significant first -/

def fromBeBytes (bytes : List UInt8) : Nat :=
  bytes.foldl (fun number byte => number * 256 + byte.toNat) 0

def toBeBytes : (count : Nat) → Nat → List UInt8
  | 0, _ => []
  | count + 1, number => toBeBytes count (number / 256) ++ [UInt8.ofNat number]

def fromBePairs : List UInt8 → List Nat
  | high :: low :: rest => fromBeBytes [high, low] :: fromBePairs rest
  | _ => []

@[simp] theorem length_toBeBytes (count number : Nat) :
    (toBeBytes count number).length = count := by
  induction count generalizing number with
  | zero => rfl
  | succ count induction =>
    rw [toBeBytes, length_append, induction]
    rfl

theorem fromBeBytes_toBeBytes {count number : Nat} (small : number < 256 ^ count) :
    fromBeBytes (toBeBytes count number) = number := by
  induction count generalizing number with
  | zero =>
    rw [Nat.pow_zero, Nat.lt_one_iff] at small
    rw [small]
    rfl
  | succ count induction =>
    have smaller : number / 256 < 256 ^ count := by
      rw [Nat.pow_succ] at small
      exact Nat.div_lt_of_lt_mul (by rwa [Nat.mul_comm] at small)
    have earlier := induction smaller
    rw [fromBeBytes] at earlier
    rw [fromBeBytes, toBeBytes, foldl_append, earlier]
    simp only [foldl_cons, foldl_nil, UInt8.toNat_ofNat']
    omega

theorem fromBeBytes_lt (bytes : List UInt8) : fromBeBytes bytes < 256 ^ bytes.length := by
  induction bytes using reverseRecOn with
  | nil => exact Nat.one_pos
  | append_singleton bytes byte induction =>
    have small := byte.toNat_lt
    rw [fromBeBytes] at induction
    rw [fromBeBytes, foldl_append, length_append, length_singleton, pow_succ, foldl_cons, foldl_nil]
    omega

theorem fromBeBytes_four (a b c d : UInt8) :
    fromBeBytes [a, b, c, d] = a.toNat * 2 ^ 24 + b.toNat * 2 ^ 16 + c.toNat * 2 ^ 8 + d.toNat := by
  simp only [fromBeBytes, foldl_cons, foldl_nil]
  omega

theorem toBeBytes_two (number : Nat) :
    toBeBytes 2 number = [UInt8.ofNat (number / 256), UInt8.ofNat number] := rfl

theorem fromBePairs_toBeBytes (small : ∀ number ∈ numbers, number < 65536) :
    fromBePairs (numbers.flatMap (toBeBytes 2)) = numbers := by
  induction numbers with
  | nil => rfl
  | cons number numbers induction =>
    rcases forall_mem_cons.mp small with ⟨first, others⟩
    change fromBeBytes (toBeBytes 2 number) :: fromBePairs (numbers.flatMap (toBeBytes 2)) = _
    rw [fromBeBytes_toBeBytes first, induction others]

end Orion.Foundation
