/-
# Code that jumps

Error handling in C is a jump.  The body of a function runs from the top; where something fails
it leaves for a label, with the state as it is at that point, and what the code after the label
finds there is exactly what the failing statement left behind.

A `Code` is such a body: it falls through, or leaves for a label.  Labels are any type, so a
label can carry a loop counter along.  What is known of a body is a `Triple` with TWO
postconditions, one for falling through and one for each label, and there is one rule for each
way to build code.
-/
import Mathlib

namespace RmmAcs.Lib

/-- A piece of code on the state `σ` with the labels `ℓ`: `none` is falling through. -/
abbrev Code (σ ℓ : Type) := σ → Option ℓ × σ

namespace Code

variable {σ ℓ : Type}

/-! ## 1. Building code -/

def skip : Code σ ℓ := fun s => (none, s)

/-- `goto l`. -/
def jump (l : ℓ) : Code σ ℓ := fun s => (some l, s)

/-- A statement that cannot fail. -/
def act (f : σ → σ) : Code σ ℓ := fun s => (none, f s)

/-- `p; q`. -/
def seq (p q : Code σ ℓ) : Code σ ℓ := fun s =>
  match p s with
  | (none, s') => q s'
  | (some l, s') => (some l, s')

/-- One statement after another. -/
def block : List (Code σ ℓ) → Code σ ℓ
  | [] => skip
  | p :: ps => seq p (block ps)

/-- `if (b) { p }`. -/
def guarded (b : σ → Bool) (p : Code σ ℓ) : Code σ ℓ := fun s => if b s then p s else skip s

/-- `for (i = 0; i < n; i++) { body }`. -/
def loop (body : ℕ → Code σ ℓ) : ℕ → Code σ ℓ
  | 0 => skip
  | n + 1 => seq (loop body n) (body n)

/-- The same with a bound that is read from the state. -/
def forTo (n : σ → ℕ) (body : ℕ → Code σ ℓ) : Code σ ℓ := fun s => loop body (n s) s

/-- `while (b) { body }`, for at most so many rounds. -/
def whileLoop (b : σ → Bool) (body : Code σ ℓ) : ℕ → Code σ ℓ
  | 0 => skip
  | n + 1 => guarded b (seq body (whileLoop b body n))

/-! ## 2. Triples -/

/-- A result meets `Q` if the code fell through, and `E l` if it left for `l`. -/
def Exit (Q : σ → Prop) (E : ℓ → σ → Prop) : Option ℓ × σ → Prop
  | (none, s) => Q s
  | (some l, s) => E l s

/-- **Triples with two exits.** -/
def Triple (P : σ → Prop) (p : Code σ ℓ) (Q : σ → Prop) (E : ℓ → σ → Prop) : Prop :=
  ∀ s, P s → Exit Q E (p s)

variable {P P' Q Q' R : σ → Prop} {E E' : ℓ → σ → Prop} {p q : Code σ ℓ}

theorem Exit.mono {r : Option ℓ × σ} (h : Exit Q E r) (hQ : ∀ s, Q s → Q' s)
    (hE : ∀ l s, E l s → E' l s) : Exit Q' E' r := by
  obtain ⟨(_ | l), s⟩ := r
  · exact hQ s h
  · exact hE l s h

theorem Exit.fst_eq_none {r : Option ℓ × σ} (h : Exit Q (fun _ _ => False) r) : r.1 = none := by
  obtain ⟨(_ | l), s⟩ := r
  · rfl
  · exact False.elim h

/-- Code that cannot jump. -/
theorem Exit.falls {r : Option ℓ × σ} (h : Exit Q (fun _ _ => False) r) : Q r.2 := by
  obtain ⟨(_ | l), s⟩ := r
  · exact h
  · exact False.elim h

/-- What holds on every way out holds at the end. -/
theorem exit_same_iff {r : Option ℓ × σ} : Exit P (fun _ => P) r ↔ P r.2 := by
  obtain ⟨(_ | l), s⟩ := r <;> rfl

theorem Triple.conseq (h : Triple P p Q E) (hP : ∀ s, P' s → P s) (hQ : ∀ s, Q s → Q' s)
    (hE : ∀ l s, E l s → E' l s) : Triple P' p Q' E' :=
  fun s hs => (h s (hP s hs)).mono hQ hE

theorem triple_skip : Triple P (skip : Code σ ℓ) P E := fun _ hs => hs

theorem triple_jump {l : ℓ} (h : ∀ s, P s → E l s) : Triple P (jump l) Q E := h

theorem triple_act {f : σ → σ} (h : ∀ s, P s → Q (f s)) : Triple P (act f : Code σ ℓ) Q E := h

theorem Triple.seq (hp : Triple P p R E) (hq : Triple R q Q E) : Triple P (seq p q) Q E := by
  intro s hs
  have h := hp s hs
  unfold Code.seq
  match hr : p s, h with
  | (none, s'), h => exact hq s' h
  | (some l, s'), h => exact h

theorem triple_nil : Triple P (block [] : Code σ ℓ) P E := triple_skip

theorem Triple.cons {ps : List (Code σ ℓ)} (hp : Triple P p R E) (hps : Triple R (block ps) Q E) :
    Triple P (block (p :: ps)) Q E := hp.seq hps

theorem Triple.guarded {b : σ → Bool} (hp : Triple (fun s => P s ∧ b s = true) p Q E)
    (hskip : ∀ s, P s → b s = false → Q s) : Triple P (guarded b p) Q E := by
  intro s hs
  unfold Code.guarded
  split
  · rename_i hb
    exact hp s ⟨hs, hb⟩
  · rename_i hb
    exact hskip s hs (by simpa using hb)

/-- **The rule of the counted loop**: an invariant that knows the counter. -/
theorem triple_loop {body : ℕ → Code σ ℓ} {I : ℕ → σ → Prop} {n : ℕ}
    (h : ∀ i < n, Triple (I i) (body i) (I (i + 1)) E) : Triple (I 0) (loop body n) (I n) E := by
  induction n with
  | zero => exact triple_skip
  | succ n ih => exact (ih fun i hi => h i (Nat.lt_succ_of_lt hi)).seq (h n (Nat.lt_succ_self n))

theorem triple_forTo {n : σ → ℕ} {body : ℕ → Code σ ℓ}
    (h : ∀ N, Triple (fun s => P s ∧ n s = N) (loop body N) Q E) : Triple P (forTo n body) Q E :=
  fun s hs => h (n s) s ⟨hs, rfl⟩

/-- If the bound is known. -/
theorem triple_forTo_of_eq {n : σ → ℕ} {body : ℕ → Code σ ℓ} {N : ℕ} (hn : ∀ s, P s → n s = N)
    (h : Triple P (loop body N) Q E) : Triple P (forTo n body) Q E := by
  intro s hs
  have hs' := h s hs
  rw [← hn s hs] at hs'
  exact hs'

/-- **The rule of the while loop**: the invariant counts the rounds, and tells the guard.  The
loop is given as many rounds as it takes, so it ends with its guard false. -/
theorem triple_whileLoop {b : σ → Bool} {body : Code σ ℓ} {I : ℕ → σ → Prop} {n : ℕ}
    (hguard : ∀ i ≤ n, ∀ s, I i s → b s = decide (i < n))
    (h : ∀ i < n, Triple (I i) body (I (i + 1)) E) :
    Triple (I 0) (whileLoop b body n) (fun s => I n s ∧ b s = false) E := by
  -- from any round on
  have main : ∀ k i, i + k = n →
      Triple (I i) (whileLoop b body k) (fun s => I n s ∧ b s = false) E := by
    intro k
    induction k with
    | zero =>
      rintro i rfl s hs
      exact ⟨hs, by rw [hguard i (le_refl _) s hs]; simp⟩
    | succ k ih =>
      intro i hi
      refine Triple.guarded (((h i (by omega)).conseq (fun s hs => hs.1) (fun _ hs => hs)
        fun _ _ hs => hs).seq (ih (i + 1) (by omega))) ?_
      intro s hs hb
      rw [hguard i (by omega) s hs] at hb
      exact absurd hb (by simp; omega)
  exact main n 0 (by omega)

theorem whileLoop_of_false (b : σ → Bool) (body : Code σ ℓ) {s : σ} (h : b s = false) (n : ℕ) :
    whileLoop b body n s = (none, s) := by
  cases n with
  | zero => rfl
  | succ n =>
    unfold whileLoop Code.guarded
    rw [h]
    rfl

/-- What the body keeps, the loop keeps, however often it runs. -/
theorem triple_whileLoop_inv {b : σ → Bool} {body : Code σ ℓ} (h : Triple P body P E) (n : ℕ) :
    Triple P (whileLoop b body n) P E := by
  induction n with
  | zero => exact triple_skip
  | succ n ih => exact ((h.conseq (fun _ hs => hs.1) (fun _ hs => hs) fun _ _ hs => hs).seq
      ih).guarded fun _ hs _ => hs

/-! ## 3. What is kept on every way out -/

/-- What the code keeps, however it is left. -/
abbrev Keeps (P : σ → Prop) (p : Code σ ℓ) : Prop := Triple P p P fun _ => P

theorem Keeps.guarded {b : σ → Bool} (h : Keeps P p) : Keeps P (Code.guarded b p) :=
  Triple.guarded (h.conseq (fun _ hs => hs.1) (fun _ hs => hs) fun _ _ hs => hs) fun _ hs _ => hs

theorem keeps_block {ps : List (Code σ ℓ)} (h : ∀ p ∈ ps, Keeps P p) : Keeps P (block ps) := by
  induction ps with
  | nil => exact triple_nil
  | cons p ps ih =>
    exact (h p List.mem_cons_self).cons (ih fun q hq => h q (List.mem_cons_of_mem _ hq))

theorem keeps_forTo {n : σ → ℕ} {body : ℕ → Code σ ℓ} (h : ∀ i, Keeps P (body i)) :
    Keeps P (forTo n body) :=
  fun s hs => triple_loop (I := fun _ => P) (fun i _ => h i) s hs

end Code

end RmmAcs.Lib
