/-
# Runs of a step relation

A system takes one labelled step after another.  `Reach step s l s'` says that from `s` the
labels `l` lead to `s'`; what every step keeps, every run keeps.
-/
import Mathlib

namespace RmmAcs.Lib

variable {σ α : Type}

/-- `Reach step s l s'`: the steps labelled `l`, oldest first, lead from `s` to `s'`. -/
inductive Reach (step : σ → α → σ → Prop) (s : σ) : List α → σ → Prop where
  | nil : Reach step s [] s
  | snoc {l : List α} {a : α} {s' s'' : σ} :
      Reach step s l s' → step s' a s'' → Reach step s (l ++ [a]) s''

theorem Reach.of_nil {step : σ → α → σ → Prop} {s s' : σ} (h : Reach step s [] s') : s' = s := by
  generalize hl : ([] : List α) = l at h
  cases h with
  | nil => rfl
  | snoc _ _ => simp at hl

/-- **The invariant rule.** -/
theorem Reach.invariant {step : σ → α → σ → Prop} {I : σ → Prop} {s s' : σ} {l : List α}
    (h : Reach step s l s') (hs : I s)
    (hstep : ∀ s a s', I s → step s a s' → I s') : I s' := by
  induction h with
  | nil => exact hs
  | snoc _ hst ih => exact hstep _ _ _ ih hst

/-- One run after another. -/
theorem Reach.trans {step : σ → α → σ → Prop} {s s' s'' : σ} {l l' : List α}
    (h : Reach step s l s') (h' : Reach step s' l' s'') : Reach step s (l ++ l') s'' := by
  induction h' with
  | nil => rwa [List.append_nil]
  | snoc _ hst ih =>
    rw [← List.append_assoc]
    exact ih.snoc hst

/-- A run that a step function computes. -/
theorem Reach.of_foldlM {f : σ → α → Option σ} {s s' : σ} {l : List α}
    (h : l.foldlM f s = some s') : Reach (fun s a s' => f s a = some s') s l s' := by
  induction l using List.reverseRecOn generalizing s' with
  | nil =>
    obtain rfl : s = s' := by simpa using h
    exact .nil
  | append_singleton l a ih =>
    rw [List.foldlM_append] at h
    obtain ⟨m, hm, hlast⟩ := Option.bind_eq_some_iff.mp h
    exact (ih hm).snoc (by simpa using hlast)

/-- **The refinement rule.**  If every step of the lower system, from states with the invariant
`I`, is a step of the upper one under `abs` or leaves the image where it is, then every run of
the lower system is a run of the upper one on what its steps show. -/
theorem Reach.refines {τ β : Type} {step : σ → α → σ → Prop} {step' : τ → β → τ → Prop}
    {I : σ → Prop} {s s' : σ} {l : List α} (abs : σ → τ) (vis : α → Option β)
    (h : Reach step s l s') (hs : I s) (hI : ∀ s a s', I s → step s a s' → I s')
    (hstep : ∀ s a s', I s → step s a s' →
      (vis a = none ∧ abs s' = abs s) ∨ ∃ b, vis a = some b ∧ step' (abs s) b (abs s')) :
    Reach step' (abs s) (l.filterMap vis) (abs s') := by
  induction h with
  | nil => exact .nil
  | snoc hr hst ih =>
    rcases hstep _ _ _ (hr.invariant hs hI) hst with ⟨hnone, habs⟩ | ⟨b, hsome, hup⟩
    · rw [List.filterMap_append, List.filterMap_cons_none hnone, List.filterMap_nil,
        List.append_nil, habs]
      exact ih
    · rw [List.filterMap_append, List.filterMap_cons_some hsome, List.filterMap_nil]
      exact ih.snoc hup

end RmmAcs.Lib
