/-
# C strings in a buffer

The characters of a C string, a buffer as a function of the index, and what a list of stores makes
of it.  The printing routines of `val_libc.c` store their characters one after the other; what is
then in the buffer is said once here.
-/
import Mathlib

namespace RmmAcs.Print

/-! ## 1. Strings and stores -/

def NUL : Char := '\x00'

/-- The characters of a C string. -/
abbrev CStr := {cs : List Char // NUL ∉ cs}

/-- A buffer after stores. -/
def written (buf : ℕ → Char) (stores : List (ℕ × Char)) : ℕ → Char :=
  stores.foldl (fun b p => Function.update b p.1 p.2) buf

theorem written_append (buf : ℕ → Char) (st st' : List (ℕ × Char)) :
    written buf (st ++ st') = written (written buf st) st' := List.foldl_append

theorem written_ne_nul {buf : ℕ → Char} {stores : List (ℕ × Char)} (hbuf : ∀ i, buf i ≠ NUL)
    (hstores : ∀ p ∈ stores, p.2 ≠ NUL) (i : ℕ) : written buf stores i ≠ NUL := by
  induction stores generalizing buf with
  | nil => exact hbuf i
  | cons p stores ih =>
    have hupdate : ∀ j, Function.update buf p.1 p.2 j ≠ NUL := by
      intro j
      by_cases hj : j = p.1
      · rw [hj, Function.update_self]
        exact hstores p List.mem_cons_self
      · rw [Function.update_of_ne hj]
        exact hbuf j
    exact ih hupdate fun q hq => hstores q (List.mem_cons_of_mem _ hq)

/-! ## 2. Characters from the start of the buffer -/

/-- Characters with their places in the buffer. -/
def placed (cs : List Char) : List (ℕ × Char) := cs.mapIdx fun i c => (i, c)

@[simp] theorem placed_concat (cs : List Char) (c : Char) :
    placed (cs ++ [c]) = placed cs ++ [(cs.length, c)] := List.mapIdx_concat

theorem mem_placed {cs : List Char} {p : ℕ × Char} (h : p ∈ placed cs) :
    p.1 < cs.length ∧ p.2 ∈ cs := by
  obtain ⟨i, hi, rfl⟩ := List.mem_mapIdx.mp h
  exact ⟨hi, List.getElem_mem hi⟩

/-- A buffer after characters have been placed in it. -/
theorem written_placed (buf : ℕ → Char) (cs : List Char) (i : ℕ) :
    written buf (placed cs) i = cs.getD i (buf i) := by
  induction cs using List.reverseRecOn with
  | nil => rfl
  | append_singleton cs c ih =>
    rw [placed_concat, written_append]
    simp only [written, List.foldl_cons, List.foldl_nil] at ih ⊢
    by_cases hi : i = cs.length
    · rw [hi, Function.update_self]
      simp
    · rw [Function.update_of_ne hi, ih]
      rcases Nat.lt_or_gt_of_ne hi with hlt | hgt
      · simp [List.getElem?_append_left hlt]
      · rw [List.getD_eq_default _ _ (by omega), List.getD_eq_default _ _ (by simp; omega)]

/-! ## 3. The string in a buffer -/

/-- A buffer starts with characters. -/
def HoldsPrefix (buf : ℕ → Char) (cs : List Char) : Prop := ∀ i < cs.length, buf i = cs.getD i NUL

/-- A buffer holds a string and its terminator. -/
def HoldsString (buf : ℕ → Char) (cs : List Char) : Prop :=
  HoldsPrefix buf cs ∧ buf cs.length = NUL

/-- A store behind the characters adds one. -/
theorem HoldsPrefix.snoc {buf : ℕ → Char} {cs : List Char} (h : HoldsPrefix buf cs) (c : Char) :
    HoldsPrefix (Function.update buf cs.length c) (cs ++ [c]) := by
  intro i hi
  rw [List.length_append, List.length_singleton] at hi
  by_cases hlast : i = cs.length
  · rw [hlast, Function.update_self]
    simp
  · have hlt : i < cs.length := by omega
    rw [Function.update_of_ne hlast, List.getD_append _ _ _ _ hlt]
    exact h i hlt

/-- The terminator behind them makes a string. -/
theorem HoldsPrefix.terminate {buf : ℕ → Char} {cs : List Char} (h : HoldsPrefix buf cs) :
    HoldsString (Function.update buf cs.length NUL) cs := by
  refine ⟨fun i hi => ?_, Function.update_self _ _ _⟩
  rw [Function.update_of_ne (Nat.ne_of_lt hi)]
  exact h i hi

/-- It holds only one. -/
theorem HoldsString.unique {buf : ℕ → Char} {cs ds : List Char} (hcs : NUL ∉ cs) (hds : NUL ∉ ds)
    (h : HoldsString buf cs) (h' : HoldsString buf ds) : cs = ds := by
  have hne : ∀ {es : List Char}, NUL ∉ es → HoldsString buf es → ∀ i < es.length, buf i ≠ NUL := by
    intro es hes hbuf i hi hnul
    rw [hbuf.1 i hi, List.getD_eq_getElem _ _ hi] at hnul
    exact hes (hnul ▸ List.getElem_mem hi)
  have hlen : cs.length = ds.length := by
    rcases Nat.lt_trichotomy cs.length ds.length with hlt | heq | hgt
    · exact absurd h.2 (hne hds h' _ hlt)
    · exact heq
    · exact absurd h'.2 (hne hcs h _ hgt)
  refine List.ext_getElem hlen fun i hi hi' => ?_
  have h1 := h.1 i hi
  have h2 := h'.1 i hi'
  rw [List.getD_eq_getElem _ _ hi] at h1
  rw [List.getD_eq_getElem _ _ hi'] at h2
  exact h1.symm.trans h2

theorem holdsString_placed (buf : ℕ → Char) (cs : List Char) :
    HoldsString (written buf (placed (cs ++ [NUL]))) cs := by
  refine ⟨fun i hi => ?_, ?_⟩
  · rw [written_placed, List.getD_append _ _ _ _ hi, List.getD_eq_getElem _ _ hi,
      List.getD_eq_getElem _ _ hi]
  · rw [written_placed]
    simp

end RmmAcs.Print
