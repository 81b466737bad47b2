/-
# Walks

A walk goes from a place to the next one until it comes to a place where it stops.  Nothing but the
places themselves decides whether it ever does: it stops exactly if one of the places
`a, next a, next (next a), ...` is a stop.  If the places are finitely many, and it stops at all, it
has met no place twice, so that it has stopped by the time it has been at each of them once.
-/
import Mathlib

namespace RmmAcs.Lib

variable {α : Type} (stop : α → Bool) (next : α → α)

/-- The place where a walk stops; `none` if it has not after so many places. -/
def walk : ℕ → α → Option α
  | 0, _ => none
  | fuel + 1, a => if stop a then some a else walk fuel (next a)

/-- The walk stops. -/
def Stops (a : α) : Prop := ∃ k, stop (next^[k] a) = true

variable {stop next}

theorem stops_of_stop {a : α} (h : stop a = true) : Stops stop next a := ⟨0, h⟩

/-- **Where a walk ends**: at the first stop. -/
theorem walk_eq_some_iff {fuel : ℕ} {a b : α} : walk stop next fuel a = some b ↔
    ∃ k < fuel, next^[k] a = b ∧ stop b = true ∧ ∀ j < k, stop (next^[j] a) = false := by
  induction fuel generalizing a with
  | zero => simp [walk]
  | succ fuel ih =>
    rw [walk]
    cases hstop : stop a with
    | true =>
      simp only [if_true, Option.some.injEq]
      constructor
      · rintro rfl
        exact ⟨0, Nat.succ_pos _, rfl, hstop, fun j hj => absurd hj (Nat.not_lt_zero j)⟩
      · rintro ⟨k, -, hk, -, hfirst⟩
        cases k with
        | zero => exact hk
        | succ k =>
          have h0 : stop a = false := hfirst 0 (Nat.succ_pos k)
          rw [hstop] at h0
          cases h0
    | false =>
      simp only [Bool.false_eq_true, if_false]
      rw [ih]
      constructor
      · rintro ⟨k, hk, hb, hstopb, hfirst⟩
        refine ⟨k + 1, Nat.succ_lt_succ hk, hb, hstopb, fun j hj => ?_⟩
        cases j with
        | zero => exact hstop
        | succ j => exact hfirst j (Nat.lt_of_succ_lt_succ hj)
      · rintro ⟨k, hk, hb, hstopb, hfirst⟩
        cases k with
        | zero =>
          have hab : a = b := hb
          rw [hab, hstopb] at hstop
          cases hstop
        | succ k =>
          exact ⟨k, Nat.lt_of_succ_lt_succ hk, hb, hstopb,
            fun j hj => hfirst (j + 1) (Nat.succ_lt_succ hj)⟩

/-- A walk ends if it stops, and only then. -/
theorem walk_ends_iff {a : α} : (∃ fuel b, walk stop next fuel a = some b) ↔ Stops stop next a := by
  constructor
  · rintro ⟨fuel, b, h⟩
    obtain ⟨k, -, hk, hstop, -⟩ := walk_eq_some_iff.mp h
    exact ⟨k, by rw [hk, hstop]⟩
  · intro h
    classical
    obtain ⟨hk, hfirst⟩ := (Nat.find_eq_iff h).mp rfl
    exact ⟨Nat.find h + 1, _, walk_eq_some_iff.mpr ⟨_, Nat.lt_succ_self _, rfl, hk,
      fun j hj => by simpa using hfirst j hj⟩⟩

/-- A walk that stops has met no place twice: from there it would go round. -/
theorem iterate_ne_of_first {a : α} {i j k : ℕ} (hij : i < j) (hjk : j ≤ k)
    (hk : stop (next^[k] a) = true) (hfirst : ∀ j < k, stop (next^[j] a) = false) :
    next^[i] a ≠ next^[j] a := by
  intro heq
  have hback : next^[k] a = next^[k - j + i] a := by
    calc
      next^[k] a = next^[k - j] (next^[j] a) := by
        rw [← Function.iterate_add_apply, Nat.sub_add_cancel hjk]
      _ = next^[k - j] (next^[i] a) := by rw [heq]
      _ = next^[k - j + i] a := (Function.iterate_add_apply _ _ _ _).symm
  rw [hback, hfirst (k - j + i) (by omega)] at hk
  cases hk

/-- **How long a walk is**: if all places but the first are among `N`, and it stops, it does so after
`N` steps at the latest. -/
theorem exists_stop_le {N : ℕ} {s : Finset α} (hcard : s.card ≤ N) (hnext : ∀ a, next a ∈ s) {a : α}
    (h : Stops stop next a) :
    ∃ k ≤ N, stop (next^[k] a) = true ∧ ∀ j < k, stop (next^[j] a) = false := by
  classical
  obtain ⟨hk, hfirst⟩ := (Nat.find_eq_iff h).mp rfl
  have hfirst' : ∀ j < Nat.find h, stop (next^[j] a) = false := by simpa using hfirst
  refine ⟨Nat.find h, ?_, hk, hfirst'⟩
  have hinj : Set.InjOn (fun j => next^[j + 1] a) (Finset.range (Nat.find h)) := by
    intro i hi j hj heq
    simp only [Finset.coe_range, Set.mem_Iio] at hi hj
    rcases Nat.lt_trichotomy i j with hlt | rfl | hgt
    · exact absurd heq (iterate_ne_of_first (by omega) (by omega) hk hfirst')
    · rfl
    · exact absurd heq.symm (iterate_ne_of_first (by omega) (by omega) hk hfirst')
  calc
    Nat.find h = (Finset.range (Nat.find h)).card := (Finset.card_range _).symm
    _ ≤ s.card := by
      refine Finset.card_le_card_of_injOn _ (fun j _ => ?_) hinj
      simp only [Function.iterate_succ_apply']
      exact hnext _
    _ ≤ N := hcard

/-- A walk among `N` places that ends at all ends within `N + 1` of them, at the same place. -/
theorem walk_of_walk {N : ℕ} {s : Finset α} (hcard : s.card ≤ N) (hnext : ∀ a, next a ∈ s) {a b : α}
    {fuel fuel' : ℕ} (h : walk stop next fuel a = some b) (hfuel : N < fuel') :
    walk stop next fuel' a = some b := by
  obtain ⟨k, -, hk, hstop, hfirst⟩ := walk_eq_some_iff.mp h
  have hstops : Stops stop next a := ⟨k, by rw [hk, hstop]⟩
  obtain ⟨j, hj, hstopj, -⟩ := exists_stop_le hcard hnext hstops
  have hjk : k ≤ j := by
    by_contra hlt
    rw [hfirst j (Nat.lt_of_not_le hlt)] at hstopj
    cases hstopj
  exact walk_eq_some_iff.mpr ⟨k, by omega, hk, hstop, hfirst⟩

end RmmAcs.Lib
