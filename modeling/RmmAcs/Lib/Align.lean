/-
# Rounding an address to a power of two

C code rounds an address by masking: `(a + (b - 1)) & ~(b - 1)`.  This module gives the
arithmetic meaning of that mask for a power of two `b = 2 ^ k`, on natural numbers and on
64-bit words, together with the four facts about rounding up that a layout argument needs:
the result is a multiple, it is not below its argument, it overshoots by less than one unit,
and it is what the machine computes as long as the addition does not wrap.

Nothing in it mentions a particular allocator.
-/
import Mathlib

namespace RmmAcs.Lib

/-! ## 1. Rounding on natural numbers -/

/-- The least multiple of `b` that is at least `a`. -/
def alignUp (a b : ℕ) : ℕ := (a + (b - 1)) / b * b

theorem dvd_alignUp (a b : ℕ) : b ∣ alignUp a b := Dvd.intro_left _ rfl

theorem le_alignUp {a b : ℕ} (hb : 0 < b) : a ≤ alignUp a b := by
  have h := Nat.div_add_mod (a + (b - 1)) b
  have hlt := Nat.mod_lt (a + (b - 1)) hb
  rw [Nat.mul_comm] at h
  unfold alignUp
  omega

theorem alignUp_le (a b : ℕ) : alignUp a b ≤ a + (b - 1) := Nat.div_mul_le_self _ _

/-- No multiple lies between. -/
theorem alignUp_le_of_dvd {a b x : ℕ} (hb : 0 < b) (hle : a ≤ x) (hdvd : b ∣ x) :
    alignUp a b ≤ x := by
  obtain ⟨c, rfl⟩ := hdvd
  have hdiv : (a + (b - 1)) / b < c + 1 := by
    rw [Nat.div_lt_iff_lt_mul hb, Nat.add_mul, Nat.one_mul, Nat.mul_comm c b]
    omega
  unfold alignUp
  rw [Nat.mul_comm]
  exact Nat.mul_le_mul_left b (Nat.lt_succ_iff.mp hdiv)

/-! ## 2. The mask -/

/-- **Masking the low bits off is rounding down.**  On 64-bit values the mask
`~(2 ^ k - 1)` clears exactly the `k` low bits. -/
theorem and_not_low_mask {x k : ℕ} (hx : x < 2 ^ 64) (hk : k < 64) :
    x &&& (2 ^ 64 - 1 - (2 ^ k - 1)) = x / 2 ^ k * 2 ^ k := by
  have hpow : 2 ^ k ≤ 2 ^ 64 := Nat.pow_le_pow_right (by omega) (by omega)
  have hpos : 0 < 2 ^ k := Nat.two_pow_pos k
  have hmask : 2 ^ 64 - 1 - (2 ^ k - 1) = 2 ^ 64 - ((2 ^ k - 1) + 1) := by omega
  apply Nat.eq_of_testBit_eq
  intro i
  rw [Nat.testBit_and, hmask, Nat.testBit_two_pow_sub_succ (by omega), Nat.testBit_two_pow_sub_one,
    Nat.testBit_mul_two_pow, Nat.testBit_div_two_pow]
  by_cases hik : k ≤ i
  · have hnot : ¬ i < k := by omega
    simp only [hik, hnot, decide_true, decide_false, Bool.not_false, Bool.and_true, Bool.true_and,
      Nat.sub_add_cancel hik]
    by_cases hi : i < 64
    · simp [hi]
    · have hbit : x.testBit i = false :=
        Nat.testBit_lt_two_pow (lt_of_lt_of_le hx (Nat.pow_le_pow_right (by omega) (by omega)))
      simp [hbit]
  · have hlt : i < k := by omega
    simp [hik, hlt]

theorem toNat_pred {b : UInt64} {k : ℕ} (hb : b.toNat = 2 ^ k) : (b - 1).toNat = b.toNat - 1 := by
  have hle : (1 : UInt64) ≤ b := by
    rw [UInt64.le_iff_toNat_le, hb]
    exact Nat.two_pow_pos k
  rw [UInt64.toNat_sub_of_le _ _ hle]
  rfl

/-- **The C macro for rounding down.** -/
theorem toNat_mask_eq_alignDown (a : UInt64) {b : UInt64} {k : ℕ} (hb : b.toNat = 2 ^ k) :
    (a &&& ~~~(b - 1)).toNat = a.toNat / 2 ^ k * 2 ^ k := by
  have hk : k < 64 := by
    have hlt := b.toNat_lt
    rw [hb] at hlt
    exact (Nat.pow_lt_pow_iff_right (by omega)).mp hlt
  rw [UInt64.toNat_and, UInt64.toNat_not, toNat_pred hb, hb]
  exact and_not_low_mask a.toNat_lt hk

/-- **The C macro computes `alignUp`.**  For a power-of-two `b` and as long as
`a + (b - 1)` stays below `2 ^ 64`, the masked word is the rounded-up address. -/
theorem toNat_mask_eq_alignUp {a b : UInt64} {k : ℕ} (hb : b.toNat = 2 ^ k)
    (hsum : a.toNat + (b.toNat - 1) < 2 ^ 64) :
    ((a + (b - 1)) &&& ~~~(b - 1)).toNat = alignUp a.toNat b.toNat := by
  have hadd : (a + (b - 1)).toNat = a.toNat + (b.toNat - 1) := by
    rw [UInt64.toNat_add, toNat_pred hb, Nat.mod_eq_of_lt hsum]
  rw [toNat_mask_eq_alignDown _ hb, hadd, alignUp, hb]

end RmmAcs.Lib
