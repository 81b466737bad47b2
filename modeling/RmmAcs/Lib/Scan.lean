/-
# Scans

A scan goes through a list in a state of its own, its PLACE.  Of every element it reports some
events, and says at which place it goes on, or that it stops.  If the list ends first, the place says
what is reported of that.

Nothing a scan reports comes from anywhere else (`mem_scanFrom`): so what is true of the events of each
step, at the position of the step, is true of all.
-/
import Mathlib

namespace RmmAcs.Lib

variable {π α ε : Type} {step : π → ℕ → α → List ε × Option π} {finish : π → ε}

/-- `scanFrom step finish p pos l`: what is reported of `l` from the place `p` on, its first element being
at the position `pos`. -/
def scanFrom (step : π → ℕ → α → List ε × Option π) (finish : π → ε) : π → ℕ → List α → List ε
  | p, _, [] => [finish p]
  | p, pos, x :: xs =>
    match (step p pos x).2 with
    | some q => (step p pos x).1 ++ scanFrom step finish q (pos + 1) xs
    | none => (step p pos x).1

theorem scanFrom_cons_some {p q : π} {pos : ℕ} {x : α} {xs : List α} {es : List ε}
    (h : step p pos x = (es, some q)) :
    scanFrom step finish p pos (x :: xs) = es ++ scanFrom step finish q (pos + 1) xs := by
  rw [scanFrom, h]

theorem scanFrom_cons_none {p : π} {pos : ℕ} {x : α} {xs : List α} {es : List ε}
    (h : step p pos x = (es, none)) : scanFrom step finish p pos (x :: xs) = es := by
  rw [scanFrom, h]

/-- **Where an event comes from**: a step, at the position of the element it was taken at, or the end
of the list. -/
theorem mem_scanFrom {p : π} {pos : ℕ} {l : List α} {e : ε} (h : e ∈ scanFrom step finish p pos l) :
    (∃ q i x, l[i]? = some x ∧ e ∈ (step q (pos + i) x).1) ∨ ∃ q, e = finish q := by
  induction l generalizing p pos with
  | nil => exact Or.inr ⟨p, List.mem_singleton.mp h⟩
  | cons x xs ih =>
    have hhead (he : e ∈ (step p pos x).1) :
        ∃ q i y, (x :: xs)[i]? = some y ∧ e ∈ (step q (pos + i) y).1 := ⟨p, 0, x, rfl, he⟩
    rw [scanFrom] at h
    split at h
    · rcases List.mem_append.mp h with he | he
      · exact Or.inl (hhead he)
      · rcases ih he with ⟨q, i, y, hy, he⟩ | hend
        · refine Or.inl ⟨q, i + 1, y, hy, ?_⟩
          rwa [← Nat.add_assoc, Nat.add_right_comm]
        · exact Or.inr hend
    · exact Or.inl (hhead h)

end RmmAcs.Lib
