/-
# The realm parser reads its items

The one inner loop is that of the extensible measurements.  It copies as many items as the array
claims to have and looks only at the status of the last call, so the scan has a place for the number
of items still to be skipped.
-/
import RmmAcs.Attest.Reading

namespace RmmAcs.Attest

open RmmAcs Lib

section Realm

variable {qcbor : Bytes → Decoded} {challenge : Bytes} {s : St}

/-- The items ahead, from the place `skip` on. -/
def Ctx.realmAhead (skip : ℕ) (c : Ctx) : List Event :=
  scanFrom realmStep (realmFinish c.dec.last.1) skip c.pos c.rest

/-- Before so many extensible measurements; if there are none, the last call may have failed. -/
def St.realmBefore (skip : ℕ) (s : St) : List Event :=
  if skip = 0 ∧ s.status ≠ .success then [.stop s.status] else s.ctx.realmAhead skip

/-- At an item that could be read. -/
def St.realmMore (s : St) : List Event :=
  if s.item.IsClaim realmMandatory then
    .claim (s.ctx.pos - 1) s.item ::
      s.ctx.realmAhead (if s.item.label = ccaRealmExtensibleMeasurement then s.item.uCount else 0)
  else s.ctx.realmAhead 0

def realmReading (qcbor : Bytes → Decoded) (challenge : Bytes) : Reading where
  ahead := Ctx.realmAhead 0
  formed := Item.realmFormed qcbor challenge
  verdict _ := realmVerdict qcbor challenge
  count c := { c with realmClaims := c.realmClaims + 1 }
  tally c n := (c.realmClaims + UInt32.ofNat n, c.platformClaims)
  verdict_stop _ st := by
    by_cases hend : st = .hitEnd ∨ st = .noMoreItems <;> simp [realmVerdict, endStatus, hend]
  verdict_formed h := if_pos h
  verdict_malformed h hover := (if_neg (by simp [h])).trans (if_neg hover)
  count_swCompFields _ := rfl
  tally_count c n := by
    rw [UInt32.ofNat_add]
    refine Prod.ext ?_ rfl
    dsimp only
    ac_rfl

@[simp] theorem realmReading_formed (it : Item) :
    (realmReading qcbor challenge).formed it = it.realmFormed qcbor challenge := rfl

theorem St.realmBefore_zero (s : St) :
    s.realmBefore 0 = (realmReading qcbor challenge).after s := by
  by_cases hst : s.status = .success <;> simp [St.realmBefore, Reading.after, realmReading, hst]

theorem St.realmBefore_of_success (hst : s.status = .success) (skip : ℕ) :
    s.realmBefore skip = s.ctx.realmAhead skip := if_neg fun h => h.2 hst

section Step

variable {pos : ℕ} {st : Status} {it : Item}

theorem realmStep_stop (h : st ≠ .success) : realmStep 0 pos (st, it) = ([.stop st], none) :=
  if_pos h

theorem realmStep_claim (h : st = .success) (hclaim : it.IsClaim realmMandatory) :
    realmStep 0 pos (st, it) =
      ([.claim pos it], some (if it.label = ccaRealmExtensibleMeasurement then it.uCount else 0)) :=
  (if_neg (not_not.mpr h)).trans (if_pos hclaim)

theorem realmStep_other (h : st = .success) (hclaim : ¬ it.IsClaim realmMandatory) :
    realmStep 0 pos (st, it) = ([], some 0) :=
  (if_neg (not_not.mpr h)).trans (if_neg hclaim)

theorem realmStep_last_stop (h : st ≠ .success) : realmStep 1 pos (st, it) = ([.stop st], none) :=
  if_pos h

theorem realmStep_last (h : st = .success) : realmStep 1 pos (st, it) = ([], some 0) :=
  if_neg (not_not.mpr h)

theorem realmStep_skip {n : ℕ} : realmStep (n + 2) pos (st, it) = ([], some (n + 1)) := rfl

end Step

/-- The next item. -/
theorem St.realmAhead_zero (s : St) : s.ctx.realmAhead 0 =
    if s.fetch.status ≠ .success then [.stop s.fetch.status] else s.fetch.realmMore := by
  unfold Ctx.realmAhead
  cases hr : s.ctx.rest with
  | nil =>
    rw [St.fetch_nil hr, if_pos s.ctx.dec.lastFails]
    rfl
  | cons r rs =>
    obtain ⟨st, it⟩ := r
    rw [St.fetch_cons hr]
    dsimp only
    by_cases hst : st = .success
    · rw [if_neg (not_not.mpr hst)]
      unfold St.realmMore
      by_cases hclaim : it.IsClaim realmMandatory
      · rw [if_pos hclaim]
        exact (scanFrom_cons_some (realmStep_claim hst hclaim)).trans rfl
      · rw [if_neg hclaim]
        exact scanFrom_cons_some (realmStep_other hst hclaim)
    · rw [if_pos hst]
      exact scanFrom_cons_none (realmStep_stop hst)

/-- The next extensible measurement. -/
theorem St.realmAhead_succ (skip : ℕ) (s : St) :
    s.ctx.realmAhead (skip + 1) = s.fetch.realmBefore skip := by
  unfold St.realmBefore Ctx.realmAhead
  cases hr : s.ctx.rest with
  | nil =>
    rw [St.fetch_nil hr, hr]
    exact (ite_self _).symm
  | cons r rs =>
    obtain ⟨st, it⟩ := r
    rw [St.fetch_cons hr]
    dsimp only
    cases skip with
    | zero =>
      by_cases hst : st = .success
      · rw [if_neg fun h => h.2 hst]
        exact scanFrom_cons_some (realmStep_last hst)
      · rw [if_pos ⟨rfl, hst⟩]
        exact scanFrom_cons_none (realmStep_last_stop hst)
    | succ skip =>
      rw [if_neg fun h => Nat.succ_ne_zero skip h.1]
      exact scanFrom_cons_some realmStep_skip

/-- The extensible measurements, if `rem` has room for them. -/
theorem remLoop_next {n i : ℕ} (h : i + n ≤ 4) (s : St) :
    ∃ s', remLoop n i s = .next s' ∧ s'.cnt = s.cnt ∧ s'.realmBefore 0 = s.realmBefore n ∧
      s'.ctx.rest.length ≤ s.ctx.rest.length := by
  induction n generalizing i s with
  | zero => exact ⟨s, rfl, rfl, rfl, le_refl _⟩
  | succ n ih =>
    obtain ⟨s', hs', hcnt, hbefore, hrest⟩ := ih (i := i + 1) (by omega)
      (s.fetch.setOut fun o => { o with rem := o.rem.set i s.fetch.item.string })
    refine ⟨s', ?_, hcnt, ?_, hrest.trans s.fetch_length_le⟩
    · rw [remLoop, if_pos (by omega), hs']
    · have hhere : s.realmBefore (n + 1) = s.ctx.realmAhead (n + 1) :=
        if_neg fun h => Nat.succ_ne_zero n h.1
      rw [hbefore, hhere, St.realmAhead_succ]
      rfl

theorem remLoop_fault {n i : ℕ} (hi : i ≤ 4) (h : 4 < i + n) (s : St) :
    remLoop n i s = .fault := by
  induction n generalizing i s with
  | zero => omega
  | succ n ih =>
    rw [remLoop]
    split
    · exact ih (by omega) (by omega) _
    · rfl

theorem realmClaim_of_not (h : ¬ s.item.IsClaim realmMandatory) :
    realmClaim qcbor challenge s = .next s := by
  unfold realmClaim
  by_cases hint : s.item.uLabelType ≠ .int64
  · rw [if_pos hint]
  · have hnot : s.item.label ∉ realmMandatory := fun hmem => h ⟨not_not.mp hint, hmem⟩
    simp only [realmMandatory, List.mem_cons, List.not_mem_nil, or_false, not_or] at hnot
    obtain ⟨h1, h2, h3, h4, h5, h6, h7⟩ := hnot
    rw [if_neg hint, if_neg h1, if_neg h2, if_neg h3, if_neg h6, if_neg (not_or.mpr ⟨h5, h7⟩),
      if_neg h4]

/-- The extensible measurements, skipped or too many. -/
theorem realm_measurements (hst : s.status = .success)
    (hl : s.item.label = ccaRealmExtensibleMeasurement) {pos : ℕ} :
    (realmReading qcbor challenge).Runs s
      (.claim pos s.item :: s.ctx.realmAhead s.item.uCount)
      (if s.item.uDataType = .array then remLoop s.item.uCount 0 s.countRealm
        else .ret .error s.countRealm) := by
  have hformed : s.item.realmFormed qcbor challenge =
      (s.item.uDataType == .array && s.item.uCount ≤ 4) := by
    rw [Item.realmFormed, hl]
    rfl
  by_cases harr : s.item.uDataType = .array
  · rw [if_pos harr]
    by_cases hroom : s.item.uCount ≤ 4
    · obtain ⟨s', hs', hcnt, hbefore, hrest⟩ := remLoop_next (by omega : 0 + s.item.uCount ≤ 4)
        s.countRealm
      have hafter : (realmReading qcbor challenge).after s' = s.ctx.realmAhead s.item.uCount := by
        rw [← St.realmBefore_zero, hbefore]
        exact St.realmBefore_of_success hst s.item.uCount
      rw [hs', ← hafter]
      refine .claim (by simp [hformed, harr, hroom]) (.next ?_ ?_ hrest)
      · rw [hcnt]
        rfl
      · rw [hcnt]
        rfl
    · rw [remLoop_fault (by omega) (by omega)]
      refine .fault ?_
      exact (if_neg (by simp [hformed, hroom])).trans (if_pos ⟨hl, harr, by omega⟩)
  · rw [if_neg harr]
    exact .rejected (by simp [hformed, harr]) fun hover => harr hover.2.1

/-- A claim of which only the format is looked at. -/
theorem realm_checked {ok : Prop} [Decidable ok] {L : ℤ} {s₁ s₂ : St} (hst : s.status = .success)
    (hclaim : s.item.IsClaim realmMandatory) (hl : s.item.label = L)
    (hL : L ≠ ccaRealmExtensibleMeasurement) (hok : s.item.realmFormed qcbor challenge = true ↔ ok)
    (hcnt : s₁.cnt = s.countRealm.cnt) (hstatus : s₁.status = s.status) (hctx : s₁.ctx = s.ctx) :
    (realmReading qcbor challenge).Runs s s.realmMore (if ok then .next s₁ else .ret .error s₂) := by
  have hmore : s.realmMore =
      .claim (s.ctx.pos - 1) s.item :: (realmReading qcbor challenge).ahead s.ctx := by
    rw [St.realmMore, if_pos hclaim, if_neg (hl ▸ hL)]
    rfl
  rw [hmore]
  exact .checked hst (fun hover => hL (hl ▸ hover.1)) hok hcnt hstatus hctx

/-- **One claim.**  The cases are the labels, in the order of the source. -/
theorem realmClaim_runs (hst : s.status = .success) :
    (realmReading qcbor challenge).Runs s s.realmMore (realmClaim qcbor challenge s) := by
  by_cases hclaim : s.item.IsClaim realmMandatory
  swap
  · have hafter : s.realmMore = (realmReading qcbor challenge).after s := by
      rw [Reading.after, if_pos hst, St.realmMore, if_neg hclaim]
      rfl
    rw [realmClaim_of_not hclaim, hafter]
    exact .refl _ s
  unfold realmClaim
  rw [if_neg (not_not.mpr hclaim.1)]
  by_cases hl : s.item.label = ccaRealmChallenge
  · have hformed : s.item.realmFormed qcbor challenge =
        (s.item.isBytesOf [64] && usefulBufCompare s.item.string challenge == 0) := if_pos hl
    rw [if_pos hl]
    by_cases h64 : s.item.isBytesOf [64] = true
    · rw [if_pos h64]
      exact realm_checked hst hclaim hl (by decide) (by rw [hformed, h64, Bool.true_and]) rfl rfl rfl
    · rw [if_neg h64, St.realmMore, if_pos hclaim]
      exact .rejected (by simp [hformed, h64]) fun hover => absurd (hl.symm.trans hover.1) (by decide)
  rw [if_neg hl]
  by_cases hl : s.item.label = ccaRealmPersonalizationValue
  · have hformed : s.item.realmFormed qcbor challenge = s.item.isBytesOf [64] := by
      rw [Item.realmFormed, hl]
      rfl
    rw [if_pos hl]
    exact realm_checked hst hclaim hl (by decide) (by rw [hformed]) rfl rfl rfl
  rw [if_neg hl]
  by_cases hl : s.item.label = ccaRealmInitialMeasurement
  · have hformed : s.item.realmFormed qcbor challenge = s.item.isBytesOf [32, 48, 64] := by
      rw [Item.realmFormed, hl]
      rfl
    rw [if_pos hl]
    exact realm_checked hst hclaim hl (by decide) (by rw [hformed]) rfl rfl rfl
  rw [if_neg hl]
  by_cases hl : s.item.label = ccaRealmPublicKey
  · have hformed : s.item.realmFormed qcbor challenge =
        (s.item.isBytes && validateRealmPubKey qcbor s.item.string == .success) := by
      rw [Item.realmFormed, hl]
      rfl
    rw [if_pos hl]
    exact realm_checked hst hclaim hl (by decide) (by rw [hformed]) rfl rfl rfl
  rw [if_neg hl]
  by_cases hl : s.item.label = ccaRealmHashAlgoId ∨ s.item.label = ccaRealmPublicKeyHashAlgoId
  · rw [if_pos hl]
    rcases hl with hl | hl
    · have hformed : s.item.realmFormed qcbor challenge = s.item.isText := by
        rw [Item.realmFormed, hl]
        rfl
      exact realm_checked hst hclaim hl (by decide) (by rw [hformed]) rfl rfl rfl
    · have hformed : s.item.realmFormed qcbor challenge = s.item.isText := by
        rw [Item.realmFormed, hl]
        rfl
      exact realm_checked hst hclaim hl (by decide) (by rw [hformed]) rfl rfl rfl
  rw [if_neg hl]
  have hlast : s.item.label = ccaRealmExtensibleMeasurement := by
    have hmem := hclaim.2
    simp only [realmMandatory, List.mem_cons, List.not_mem_nil, or_false] at hmem
    tauto
  rw [if_pos hlast, St.realmMore, if_pos hclaim, if_pos hlast]
  exact realm_measurements hst hlast

/-- **The realm parser reads its items.** -/
theorem parseClaimsRealmToken_ends (s : St) :
    (realmReading qcbor challenge).Ends s (s.ctx.realmAhead 0)
      (parseClaimsRealmToken qcbor challenge s) :=
  claimLoop_ends St.realmAhead_zero (fun _ => realmClaim_runs) (Nat.lt_succ_self _)

end Realm

end RmmAcs.Attest
