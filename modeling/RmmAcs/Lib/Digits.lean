/-
# Digits by repeated division

A loop that prints a number divides it by the base until nothing is left, and prints something of
the number at each round.  `rounds` are the numbers the loop sees, the least significant end first.
What is printed is a function of them, so that two loops with the same base print the same exactly
if their functions agree on what is seen.

Nothing in it mentions a particular printer.
-/
import Mathlib

namespace RmmAcs.Lib

/-- The numbers a division loop sees, in at most `fuel` rounds; there is one round at least. -/
def rounds (b : ℕ) : ℕ → ℕ → List ℕ
  | 0, _ => []
  | fuel + 1, n => n :: if n / b > 0 then rounds b fuel (n / b) else []

/-- In the `k`-th round the loop sees `n / b ^ k`. -/
theorem mem_rounds {b fuel n m : ℕ} (h : m ∈ rounds b fuel n) : ∃ k, m = n / b ^ k := by
  induction fuel generalizing n with
  | zero => cases h
  | succ fuel ih =>
    rcases List.mem_cons.mp h with rfl | h
    · exact ⟨0, by simp⟩
    · split at h
      · obtain ⟨k, rfl⟩ := ih h
        exact ⟨k + 1, by rw [Nat.div_div_eq_div_mul, ← pow_succ']⟩
      · cases h

/-- With fuel enough it sees all of them that are not zero. -/
theorem div_mem_rounds {b fuel n : ℕ} (hn : n < b ^ fuel) (k : ℕ) (hk : n / b ^ k ≠ 0) :
    n / b ^ k ∈ rounds b fuel n := by
  induction fuel generalizing n k with
  | zero =>
    have : n = 0 := by simpa using hn
    exact absurd (by rw [this, Nat.zero_div]) hk
  | succ fuel ih =>
    cases k with
    | zero => simp [rounds]
    | succ k =>
      have hdiv : n / b ^ (k + 1) = n / b / b ^ k := by
        rw [Nat.div_div_eq_div_mul, ← pow_succ']
      rw [hdiv] at hk ⊢
      have hpos : n / b > 0 := Nat.pos_of_ne_zero fun h => hk (by rw [h, Nat.zero_div])
      rw [rounds, if_pos hpos]
      refine List.mem_cons_of_mem _ (ih ?_ k hk)
      rw [pow_succ] at hn
      exact Nat.div_lt_of_lt_mul (by rwa [Nat.mul_comm] at hn)

/-- **The digits of a number** are what the loop prints that prints the remainders, reversed. -/
theorem toDigits_eq_rounds {b : ℕ} (hb : 1 < b) {fuel n : ℕ} (hfuel : 0 < fuel)
    (hn : n < b ^ fuel) :
    Nat.toDigits b n = ((rounds b fuel n).map fun m => Nat.digitChar (m % b)).reverse := by
  induction fuel generalizing n with
  | zero => omega
  | succ fuel ih =>
    rw [Nat.toDigits_eq_if hb]
    split
    · rename_i hlt
      have hdiv : ¬ n / b > 0 := by rw [Nat.div_eq_of_lt hlt]; omega
      rw [rounds, if_neg hdiv]
      simp [Nat.mod_eq_of_lt hlt]
    · rename_i hge
      have hpos : n / b > 0 := Nat.div_pos (by omega) (by omega)
      have hsmall : n / b < b ^ fuel :=
        Nat.div_lt_of_lt_mul (by rwa [pow_succ, Nat.mul_comm] at hn)
      have hfuel' : 0 < fuel := by
        refine Nat.pos_of_ne_zero fun h => ?_
        rw [h, pow_zero] at hsmall
        omega
      rw [rounds, if_pos hpos, ih hfuel' hsmall]
      simp

/-- **Two loops print the same** exactly if they do at every number that is seen, zero apart. -/
theorem rounds_map_eq_iff {α : Type} {b fuel n : ℕ} (hn : n < b ^ fuel)
    {f g : ℕ → α} (hzero : f 0 = g 0) :
    (rounds b fuel n).map f = (rounds b fuel n).map g ↔ ∀ k, f (n / b ^ k) = g (n / b ^ k) := by
  rw [List.map_inj_left]
  constructor
  · intro h k
    by_cases hk : n / b ^ k = 0
    · rw [hk, hzero]
    · exact h _ (div_mem_rounds hn k hk)
  · intro h m hm
    obtain ⟨k, rfl⟩ := mem_rounds hm
    exact h k

end RmmAcs.Lib
