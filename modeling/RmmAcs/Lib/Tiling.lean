/-
# Ranges that tile a range

A long piece of work is often done by calls that each do as much of it as they can and answer how
far they came.  Where the caller starts the next call at the end of the one before, the ranges done
TILE the whole: the first begins at the beginning, each begins where the one before ends, the last
ends at the end.

A call may also fail, and then what it answers means nothing.  A caller that takes it for an end
all the same goes on from somewhere else.  `Linked` is such a sequence of calls, whatever the
answers were, and `tiles_iff` says when the calls that succeeded tile the range after all and no
failed one has moved the caller.
-/
import Mathlib

namespace RmmAcs.Lib

variable {α : Type} [LinearOrder α]

/-! ## 1. Tilings -/

/-- The ranges tile `[lo, hi)`, in order. -/
def Tiles : α → List (α × α) → α → Prop
  | lo, [], hi => lo = hi
  | lo, r :: rs, hi => r.1 = lo ∧ r.1 ≤ r.2 ∧ Tiles r.2 rs hi

section Tiles

variable {lo mid hi : α} {l : List (α × α)}

theorem Tiles.range_le (h : Tiles lo l hi) {r : α × α} (hr : r ∈ l) : r.1 ≤ r.2 := by
  induction l generalizing lo with
  | nil => exact absurd hr List.not_mem_nil
  | cons s rs ih =>
    obtain ⟨rfl, hle, hrest⟩ := h
    rcases List.mem_cons.mp hr with rfl | hr
    · exact hle
    · exact ih hrest hr

end Tiles

/-! ## 2. Calls that may fail -/

/-- A call as the caller sees it: where it starts, where the caller goes on, and whether it
succeeded. -/
structure Attempt (α : Type) where
  start : α
  next : α
  ok : Bool
deriving DecidableEq, Repr

/-- The range of a call. -/
def Attempt.range (c : Attempt α) : α × α := (c.start, c.next)

/-- The ranges of the calls that succeeded. -/
def done (cs : List (Attempt α)) : List (α × α) := (cs.filter Attempt.ok).map Attempt.range

/-- Each call starts where the caller goes on after the one before. -/
def Linked : α → List (Attempt α) → α → Prop
  | a, [], b => a = b
  | a, c :: cs, b => c.start = a ∧ Linked c.next cs b

/-- An answer that can be relied on: a call that succeeded has not gone backwards, and one that
failed leaves the caller where it was. -/
def Attempt.Sane (c : Attempt α) : Prop := if c.ok then c.start ≤ c.next else c.next = c.start

instance (c : Attempt α) : Decidable c.Sane :=
  inferInstanceAs (Decidable (if c.ok = true then c.start ≤ c.next else c.next = c.start))

theorem tiles_of_sane {a b : α} {cs : List (Attempt α)} (h : Linked a cs b)
    (hsane : ∀ c ∈ cs, c.Sane) : Tiles a (done cs) b := by
  induction cs generalizing a with
  | nil => exact h
  | cons c cs ih =>
    obtain ⟨rfl, hrest⟩ := h
    have htail := ih hrest fun d hd => hsane d (List.mem_cons_of_mem _ hd)
    have hc := hsane c List.mem_cons_self
    unfold Attempt.Sane at hc
    cases hok : c.ok with
    | true =>
      rw [if_pos hok] at hc
      rw [done, List.filter_cons_of_pos hok]
      exact ⟨rfl, hc, htail⟩
    | false =>
      rw [if_neg (by rw [hok]; decide)] at hc
      rw [done, List.filter_cons_of_neg (by rw [hok]; decide)]
      rw [hc] at htail
      exact htail

/-- **When the work is done.**  The calls that succeeded tile the range, and no failed call has
moved the caller, exactly if every answer could be relied on. -/
theorem tiles_iff {a b : α} {cs : List (Attempt α)} (h : Linked a cs b) :
    (Tiles a (done cs) b ∧ ∀ c ∈ cs, c.ok = false → c.next = c.start) ↔ ∀ c ∈ cs, c.Sane := by
  constructor
  · rintro ⟨htiles, hfailed⟩ c hc
    unfold Attempt.Sane
    cases hok : c.ok with
    | true =>
      rw [if_pos rfl]
      exact htiles.range_le (List.mem_map.mpr ⟨c, List.mem_filter.mpr ⟨hc, hok⟩, rfl⟩)
    | false =>
      rw [if_neg (by decide)]
      exact hfailed c hc hok
  · intro hsane
    refine ⟨tiles_of_sane h hsane, fun c hc hok => ?_⟩
    have hc' := hsane c hc
    unfold Attempt.Sane at hc'
    rwa [if_neg (by rw [hok]; decide)] at hc'

end RmmAcs.Lib
