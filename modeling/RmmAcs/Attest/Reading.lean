/-
# Reading the items

Both parsers of `attestation_realm.c` are one loop over different bodies, and do no more than go
through the items before them.  A `Reading` says what a parser makes of its items: how it ends on
them, and what it counts.  A piece of the parser RUNS on the items before it if it has returned what
they say, or goes on where they say the same as what is still ahead; and if the body does so for one
claim, the loop ends as the items say (`claimLoop_ends`).
-/
import RmmAcs.Attest.Items

namespace RmmAcs.Attest

open RmmAcs Lib

/-! ## 1. What a parser does -/

/-- What a parser makes of its items. -/
structure Reading where
  /-- the items ahead -/
  ahead : Ctx → List Event
  /-- the format of a claim -/
  formed : Item → Bool
  /-- how the parser ends, from a count of fields -/
  verdict : UInt32 → List Event → Option Status
  count : Counters → Counters
  /-- the two counters of claims, with so many claims to come -/
  tally : Counters → ℕ → UInt32 × UInt32
  verdict_stop : ∀ k st, verdict k [.stop st] = some (endStatus st)
  verdict_formed : ∀ {k pos it es}, formed it = true → verdict k (.claim pos it :: es) = verdict k es
  verdict_malformed : ∀ {k pos it es}, formed it = false → ¬ it.Overruns →
    verdict k (.claim pos it :: es) = some .error
  count_swCompFields : ∀ c, (count c).swCompFields = c.swCompFields
  tally_count : ∀ c n, tally (count c) n = tally c (n + 1)

namespace Reading

variable {R : Reading} {s : St} {es : List Event} {r : Ctl}

/-- The items ahead of a state whose last call may have failed. -/
def after (R : Reading) (s : St) : List Event :=
  if s.status = .success then R.ahead s.ctx else [.stop s.status]

/-- **A piece of a parser**, run where `es` is to come: it has returned what the items say, or it goes
on, and they say the same as what is still ahead. -/
inductive Runs (R : Reading) (s : St) (es : List Event) : Ctl → Prop
  | next {s' : St} : R.verdict s'.cnt.swCompFields (R.after s') = R.verdict s.cnt.swCompFields es →
      R.tally s'.cnt (claims (R.after s')).length = R.tally s.cnt (claims es).length →
      s'.ctx.rest.length ≤ s.ctx.rest.length → Runs R s es (.next s')
  | error {s' : St} : R.verdict s.cnt.swCompFields es = some .error → Runs R s es (.ret .error s')
  | fault : R.verdict s.cnt.swCompFields es = none → Runs R s es .fault

/-- **A parser**, run where `es` is to come: it has returned what the items say, and if it accepts,
has counted the claims. -/
inductive Ends (R : Reading) (s : St) (es : List Event) : Ctl → Prop
  | success {s' : St} : R.verdict s.cnt.swCompFields es = some .success →
      R.tally s'.cnt 0 = R.tally s.cnt (claims es).length → Ends R s es (.ret .success s')
  | error {s' : St} : R.verdict s.cnt.swCompFields es = some .error → Ends R s es (.ret .error s')
  | fault : R.verdict s.cnt.swCompFields es = none → Ends R s es .fault

theorem Runs.refl (R : Reading) (s : St) : R.Runs s (R.after s) (.next s) :=
  .next rfl rfl (le_refl _)

/-- What is ahead of a piece, from what is ahead of the next. -/
theorem Runs.of_next {s' : St} {es' : List Event} (h : R.Runs s' es' r)
    (hverdict : R.verdict s'.cnt.swCompFields es' = R.verdict s.cnt.swCompFields es)
    (htally : R.tally s'.cnt (claims es').length = R.tally s.cnt (claims es).length)
    (hrest : s'.ctx.rest.length ≤ s.ctx.rest.length) : R.Runs s es r := by
  cases h with
  | next hv ht hr => exact .next (hv.trans hverdict) (ht.trans htally) (hr.trans hrest)
  | error hv => exact .error (hverdict ▸ hv)
  | fault hv => exact .fault (hverdict ▸ hv)

theorem Ends.of_next {s' : St} {es' : List Event} (h : R.Ends s' es' r)
    (hverdict : R.verdict s'.cnt.swCompFields es' = R.verdict s.cnt.swCompFields es)
    (htally : R.tally s'.cnt (claims es').length = R.tally s.cnt (claims es).length) :
    R.Ends s es r := by
  cases h with
  | success hv ht => exact .success (hverdict ▸ hv) (ht.trans htally)
  | error hv => exact .error (hverdict ▸ hv)
  | fault hv => exact .fault (hverdict ▸ hv)

/-- **A claim in the expected format** is counted, and what follows it decides. -/
theorem Runs.claim {pos : ℕ} (hformed : R.formed s.item = true)
    (h : R.Runs { s with cnt := R.count s.cnt } es r) : R.Runs s (.claim pos s.item :: es) r := by
  refine h.of_next ?_ (R.tally_count _ _) (le_refl _)
  rw [R.verdict_formed hformed]
  exact congrArg (R.verdict · es) (R.count_swCompFields s.cnt)

theorem Runs.rejected {pos : ℕ} {s' : St} (hformed : ¬ R.formed s.item = true)
    (hover : ¬ s.item.Overruns) : R.Runs s (.claim pos s.item :: es) (.ret .error s') :=
  .error (R.verdict_malformed (Bool.not_eq_true _ ▸ hformed) hover)

/-- A claim of which only the format is looked at. -/
theorem Runs.checked {pos : ℕ} {ok : Prop} [Decidable ok] {s₁ s₂ : St}
    (hst : s.status = .success) (hover : ¬ s.item.Overruns) (hok : R.formed s.item = true ↔ ok)
    (hcnt : s₁.cnt = R.count s.cnt) (hstatus : s₁.status = s.status) (hctx : s₁.ctx = s.ctx) :
    R.Runs s (.claim pos s.item :: R.ahead s.ctx) (if ok then .next s₁ else .ret .error s₂) := by
  by_cases h : ok
  · have hafter : R.after s₁ = R.ahead s.ctx := by rw [after, if_pos (hstatus.trans hst), hctx]
    rw [if_pos h]
    refine .claim (hok.mpr h) (.next ?_ ?_ (by rw [hctx]))
    · rw [hafter, hcnt]
    · rw [hafter, hcnt]
  · rw [if_neg h]
    exact .rejected (mt hok.mp h) hover

/-- At the end of the input nothing is counted. -/
theorem ends_atEnd (R : Reading) (h : s.status ≠ .success) :
    R.Ends s (R.after s) (Ctl.next s).atEnd := by
  have hstop : R.after s = [.stop s.status] := if_neg h
  rw [hstop]
  by_cases hend : s.status = .hitEnd ∨ s.status = .noMoreItems
  · have hok : endStatus s.status = .success := if_pos hend
    rw [Ctl.atEnd, if_pos hend]
    exact .success (by rw [R.verdict_stop, hok]) rfl
  · have herr : endStatus s.status = .error := if_neg hend
    rw [Ctl.atEnd, if_neg hend]
    exact .error (by rw [R.verdict_stop, herr])

end Reading

/-! ## 2. The loop -/

section Loop

variable {R : Reading} {s : St}

theorem St.fetch_nil (h : s.ctx.rest = []) :
    s.fetch = { s with status := s.ctx.dec.last.1, item := s.ctx.dec.last.2 } := by
  simp only [St.fetch, Ctx.getNext, h]

theorem St.fetch_cons {r : Status × Item} {rs : List (Status × Item)} (h : s.ctx.rest = r :: rs) :
    s.fetch = { s with
      ctx := { s.ctx with pos := s.ctx.pos + 1, rest := rs }, status := r.1, item := r.2 } := by
  simp only [St.fetch, Ctx.getNext, h]

theorem St.fetch_status {r : Status × Item} {rs : List (Status × Item)} (h : s.ctx.rest = r :: rs) :
    s.fetch.status = r.1 := by
  rw [St.fetch_cons h]

theorem St.fetch_length_le (s : St) : s.fetch.ctx.rest.length ≤ s.ctx.rest.length := by
  cases h : s.ctx.rest with
  | nil => rw [St.fetch_nil h, h]
  | cons r rs =>
    rw [St.fetch_cons h]
    exact Nat.le_succ _

/-- A call that succeeds takes a result off the input. -/
theorem St.fetch_length_lt (h : s.fetch.status = .success) :
    s.fetch.ctx.rest.length < s.ctx.rest.length := by
  cases hr : s.ctx.rest with
  | nil =>
    rw [St.fetch_nil hr] at h
    exact absurd h s.ctx.dec.lastFails
  | cons r rs =>
    rw [St.fetch_cons hr]
    exact Nat.lt_succ_self _

/-- **The loop over a payload.**  The induction is on the rounds, of which there are always more than
results left; `more` is what is ahead at an item that could be read. -/
theorem claimLoop_ends {body : St → Ctl} {more : St → List Event}
    (hahead : ∀ s : St, R.ahead s.ctx =
      if s.fetch.status ≠ .success then [.stop s.fetch.status] else more s.fetch)
    (hbody : ∀ s, s.status = .success → R.Runs s (more s) (body s)) {n : ℕ} {s : St}
    (hn : s.ctx.rest.length < n) : R.Ends s (R.ahead s.ctx) (claimLoop body n s).atEnd := by
  induction n generalizing s with
  | zero => exact absurd hn (Nat.not_lt_zero _)
  | succ n ih =>
    rw [claimLoop, hahead]
    by_cases hf : s.fetch.status ≠ .success
    · rw [if_pos hf, if_pos hf]
      have hend := R.ends_atEnd hf
      rw [Reading.after, if_neg hf] at hend
      exact hend.of_next rfl rfl
    · rw [if_neg hf, if_neg hf]
      have hlt := St.fetch_length_lt (not_not.mp hf)
      have hone := hbody s.fetch (not_not.mp hf)
      generalize body s.fetch = r at hone
      cases hone with
      | @next s' hverdict htally hrest =>
        dsimp only
        by_cases hs : s'.status = .success
        · have hafter : R.after s' = R.ahead s'.ctx := if_pos hs
          rw [if_pos hs]
          rw [hafter] at hverdict htally
          exact (ih (by omega)).of_next hverdict htally
        · rw [if_neg hs]
          exact (R.ends_atEnd hs).of_next hverdict htally
      | error hv => exact .error hv
      | fault hv => exact .fault hv

end Loop

end RmmAcs.Attest
