/-
# The platform parser reads its items

There are two inner loops.  That of the components passes over a component whose header cannot be
read; that of its fields returns if one is missing, and looks at the header as if it were a field.
The count of the fields is the one test that is not made on the items alone: the first component's is
added to what was left in the counter, and the test clears it.
-/
import RmmAcs.Attest.Reading

namespace RmmAcs.Attest

open RmmAcs Lib

section Platform

variable {s : St}

/-! ## 1. The items ahead -/

/-- The items ahead, from the place `p` on. -/
def Ctx.platformAhead (p : Place) (c : Ctx) : List Event :=
  scanFrom platformStep (platformFinish c.dec.last.1) p c.pos c.rest

/-- Before so many components; if there are none, the last call may have failed. -/
def St.platformBefore (n : ℕ) (s : St) : List Event :=
  if n = 0 ∧ s.status ≠ .success then [.stop s.status] else s.ctx.platformAhead (.before n)

/-- At an item that could be read. -/
def St.platformMore (s : St) : List Event :=
  if s.item.IsClaim platformLabels then
    .claim (s.ctx.pos - 1) s.item ::
      s.ctx.platformAhead
        (if s.item.label = ccaPlatformSwComponents then .before s.item.uCount else .claims)
  else s.ctx.platformAhead .claims

/-- At an item of a component that could be read, with `left` after it. -/
def St.fieldMore (start : ℕ) (seen : List (ℕ × Item)) (left more : ℕ) (s : St) : List Event :=
  match fieldStep start seen left more (s.ctx.pos - 1) s.item with
  | (es, some p) => es ++ s.ctx.platformAhead p
  | (es, none) => es

def platformReading : Reading where
  ahead := Ctx.platformAhead .claims
  formed := Item.platformFormed
  verdict := platformVerdict
  count c := { c with platformClaims := c.platformClaims + 1 }
  tally c n := (c.realmClaims, c.platformClaims + UInt32.ofNat n)
  verdict_stop _ st := by
    by_cases hend : st = .hitEnd ∨ st = .noMoreItems <;> simp [platformVerdict, endStatus, hend]
  verdict_formed h := if_pos h
  verdict_malformed h _ := if_neg (by simp [h])
  count_swCompFields _ := rfl
  tally_count c n := by
    rw [UInt32.ofNat_add]
    refine Prod.ext rfl ?_
    dsimp only
    ac_rfl

@[simp] theorem platformReading_formed (it : Item) :
    platformReading.formed it = it.platformFormed := rfl

theorem St.platformBefore_zero (s : St) : s.platformBefore 0 = platformReading.after s := by
  by_cases hst : s.status = .success <;>
    simp [St.platformBefore, Reading.after, platformReading, hst, Place.before]

theorem St.platformBefore_of_success (hst : s.status = .success) (n : ℕ) :
    s.platformBefore n = s.ctx.platformAhead (.before n) := if_neg fun h => h.2 hst

section Step

variable {pos : ℕ} {st : Status} {it : Item}

theorem platformStep_stop (h : st ≠ .success) :
    platformStep .claims pos (st, it) = ([.stop st], none) := if_pos h

theorem platformStep_claim (h : st = .success) (hclaim : it.IsClaim platformLabels) :
    platformStep .claims pos (st, it) = ([.claim pos it],
      some (if it.label = ccaPlatformSwComponents then .before it.uCount else .claims)) :=
  (if_neg (not_not.mpr h)).trans (if_pos hclaim)

theorem platformStep_other (h : st = .success) (hclaim : ¬ it.IsClaim platformLabels) :
    platformStep .claims pos (st, it) = ([], some .claims) :=
  (if_neg (not_not.mpr h)).trans (if_neg hclaim)

theorem platformStep_last_stop (h : st ≠ .success) :
    platformStep (.component 0) pos (st, it) = ([.stop st], none) := if_pos h

theorem platformStep_skip (h : st ≠ .success) {more : ℕ} :
    platformStep (.component (more + 1)) pos (st, it) = ([], some (.component more)) := if_pos h

theorem platformStep_component (h : st = .success) {more : ℕ} :
    platformStep (.component more) pos (st, it) = fieldStep pos [] it.uCount more pos it :=
  if_neg (not_not.mpr h)

variable {start left more : ℕ} {seen : List (ℕ × Item)}

theorem platformStep_broken (h : st ≠ .success) :
    platformStep (.field start seen left more) pos (st, it) = ([.broken], none) := if_pos h

theorem platformStep_field (h : st = .success) :
    platformStep (.field start seen left more) pos (st, it) =
      fieldStep start seen left more pos it := if_neg (not_not.mpr h)

end Step

/-- The next item. -/
theorem St.platformAhead_claims (s : St) : s.ctx.platformAhead .claims =
    if s.fetch.status ≠ .success then [.stop s.fetch.status] else s.fetch.platformMore := by
  unfold Ctx.platformAhead
  cases hr : s.ctx.rest with
  | nil =>
    rw [St.fetch_nil hr, if_pos s.ctx.dec.lastFails]
    rfl
  | cons r rs =>
    obtain ⟨st, it⟩ := r
    rw [St.fetch_cons hr]
    dsimp only
    by_cases hst : st = .success
    · rw [if_neg (not_not.mpr hst)]
      unfold St.platformMore
      by_cases hclaim : it.IsClaim platformLabels
      · rw [if_pos hclaim]
        exact (scanFrom_cons_some (platformStep_claim hst hclaim)).trans rfl
      · rw [if_neg hclaim]
        exact scanFrom_cons_some (platformStep_other hst hclaim)
    · rw [if_pos hst]
      exact scanFrom_cons_none (platformStep_stop hst)

/-- A step inside a component goes on from the item. -/
theorem scanFrom_fieldStep {p : Place} {st : Status} {it : Item} {rs : List (Status × Item)}
    {start left more : ℕ} {seen : List (ℕ × Item)} (hr : s.ctx.rest = (st, it) :: rs)
    (h : platformStep p s.ctx.pos (st, it) = fieldStep start seen left more s.ctx.pos it) :
    s.ctx.platformAhead p = s.fetch.fieldMore start seen left more := by
  rw [Ctx.platformAhead, hr, scanFrom, h, St.fetch_cons hr]
  cases left with
  | zero => rfl
  | succ left => rfl

/-- The next component. -/
theorem St.platformAhead_component (more : ℕ) (s : St) : s.ctx.platformAhead (.component more) =
    if s.fetch.status ≠ .success then s.fetch.platformBefore more
    else s.fetch.fieldMore (s.fetch.ctx.pos - 1) [] s.fetch.item.uCount more := by
  cases hr : s.ctx.rest with
  | nil =>
    rw [Ctx.platformAhead, hr, St.fetch_nil hr, if_pos s.ctx.dec.lastFails, St.platformBefore,
      Ctx.platformAhead, hr]
    cases more with
    | zero => exact (if_pos ⟨rfl, s.ctx.dec.lastFails⟩).symm
    | succ more => exact (if_neg fun h => Nat.succ_ne_zero more h.1).symm
  | cons r rs =>
    obtain ⟨st, it⟩ := r
    by_cases hst : st = .success
    · rw [St.fetch_status hr, if_neg (not_not.mpr hst),
        scanFrom_fieldStep hr (platformStep_component hst), St.fetch_cons hr]
      rfl
    · rw [St.fetch_status hr, if_pos hst, St.platformBefore, St.fetch_cons hr, Ctx.platformAhead, hr]
      cases more with
      | zero =>
        rw [if_pos ⟨rfl, hst⟩]
        exact scanFrom_cons_none (platformStep_last_stop hst)
      | succ more =>
        rw [if_neg fun h => Nat.succ_ne_zero more h.1]
        exact scanFrom_cons_some (platformStep_skip hst)

/-- The next item of a component. -/
theorem St.platformAhead_field (start left more : ℕ) (seen : List (ℕ × Item)) (s : St) :
    s.ctx.platformAhead (.field start seen left more) =
      if s.fetch.status ≠ .success then [.broken] else s.fetch.fieldMore start seen left more := by
  cases hr : s.ctx.rest with
  | nil =>
    rw [Ctx.platformAhead, hr, St.fetch_nil hr, if_pos s.ctx.dec.lastFails]
    rfl
  | cons r rs =>
    obtain ⟨st, it⟩ := r
    by_cases hst : st = .success
    · rw [St.fetch_status hr, if_neg (not_not.mpr hst),
        scanFrom_fieldStep hr (platformStep_field hst)]
    · rw [St.fetch_status hr, if_pos hst, Ctx.platformAhead, hr]
      exact scanFrom_cons_none (platformStep_broken hst)

/-! ## 2. Software components -/

/-- The recognised fields, the current item being one of the component. -/
def St.seen (seen : List (ℕ × Item)) (s : St) : List (ℕ × Item) :=
  if s.item.label ∈ componentLabels then seen ++ [(s.ctx.pos - 1, s.item)] else seen

theorem St.fieldMore_zero (start more : ℕ) (seen : List (ℕ × Item)) (s : St) :
    s.fieldMore start seen 0 more =
      .component start (s.seen seen) :: s.ctx.platformAhead (.before more) := rfl

theorem St.fieldMore_succ (start left more : ℕ) (seen : List (ℕ × Item)) (s : St) :
    s.fieldMore start seen (left + 1) more =
      s.ctx.platformAhead (.field start (s.seen seen) left more) := rfl

theorem St.mem_seen {seen : List (ℕ × Item)} {f : ℕ × Item} (h : f ∈ seen) : f ∈ s.seen seen := by
  unfold St.seen
  split
  · exact List.mem_append_left _ h
  · exact h

/-- One item of a component, by the list of its labels. -/
theorem componentField_eq (s : St) : componentField s =
    if s.item.label ∈ componentLabels then expect s.item.fieldFormed s.countField else .next s := by
  unfold componentField Item.fieldFormed
  by_cases htext : s.item.label = ccaPlatformSwComponentType ∨
      s.item.label = ccaPlatformSwComponentVersion ∨ s.item.label = ccaPlatformSwComponentAlgorithmId
  · have hmem : s.item.label ∈ componentLabels ∧ s.item.label ∉ componentMandatory := by
      rcases htext with hl | hl | hl
      · rw [hl]
        decide
      · rw [hl]
        decide
      · rw [hl]
        decide
    rw [if_pos htext, if_pos hmem.1, if_neg hmem.2]
  · rw [if_neg htext]
    by_cases hbytes : s.item.label = ccaPlatformSwComponentMeasurementValue ∨
        s.item.label = ccaPlatformSwComponentSignerId
    · have hmand : s.item.label ∈ componentMandatory := by
        simpa only [componentMandatory, List.mem_cons, List.not_mem_nil, or_false] using hbytes
      have hlab : s.item.label ∈ componentLabels := List.mem_append_right _ hmand
      rw [if_pos hbytes, if_pos hmand, if_pos hlab]
    · have hnot : s.item.label ∉ componentLabels := by
        simp only [componentLabels, componentMandatory, List.mem_append, List.mem_cons,
          List.not_mem_nil, or_false]
        exact not_or.mpr ⟨htext, hbytes⟩
      rw [if_neg hbytes, if_neg hnot]

/-- One item of a component, and the fields it is counted with. -/
theorem componentField_seen (s : St) (seen : List (ℕ × Item)) (k : UInt32) :
    (∃ s', componentField s = .ret .error s' ∧ ∃ f ∈ s.seen seen, ¬ f.2.fieldFormed = true) ∨
    ∃ s', componentField s = .next s' ∧ s'.ctx = s.ctx ∧ s'.status = s.status ∧
      ((∀ f ∈ seen, f.2.fieldFormed = true) → ∀ f ∈ s.seen seen, f.2.fieldFormed = true) ∧
      (s.cnt.swCompFields = UInt32.ofNat seen.length + k →
        s'.cnt = { s.cnt with swCompFields := UInt32.ofNat (s.seen seen).length + k }) := by
  rw [componentField_eq]
  by_cases hlab : s.item.label ∈ componentLabels
  · have hseen : s.seen seen = seen ++ [(s.ctx.pos - 1, s.item)] := if_pos hlab
    rw [if_pos hlab, hseen]
    by_cases hformed : s.item.fieldFormed = true
    · refine Or.inr ⟨s.countField, if_pos hformed, rfl, rfl, fun h f hf => ?_, fun hk => ?_⟩
      · rcases List.mem_append.mp hf with hf | hf
        · exact h f hf
        · rw [List.mem_singleton.mp hf]
          exact hformed
      · have hone : s.cnt.swCompFields + 1 =
            UInt32.ofNat (seen ++ [(s.ctx.pos - 1, s.item)]).length + k := by
          rw [List.length_append, List.length_singleton, UInt32.ofNat_add, hk]
          ac_rfl
        rw [← hone]
        rfl
    · exact Or.inl ⟨_, if_neg hformed, _, List.mem_append_right _ (List.mem_singleton_self _),
        hformed⟩
  · have hseen : s.seen seen = seen := if_neg hlab
    rw [if_neg hlab, hseen]
    refine Or.inr ⟨s, rfl, rfl, rfl, id, fun hk => ?_⟩
    rw [← hk]

/-- A component with a field that is not in the expected format: whatever follows, the verdict is
`VAL_ERROR`. -/
theorem fieldMore_malformed {k : UInt32} {start left more : ℕ} {seen : List (ℕ × Item)} {s : St}
    (h : ∃ f ∈ s.seen seen, ¬ f.2.fieldFormed = true) :
    platformVerdict k (s.fieldMore start seen left more) = some .error := by
  obtain ⟨f, hf, hnot⟩ := h
  induction left generalizing s seen with
  | zero =>
    rw [St.fieldMore_zero]
    exact if_neg fun hall => hnot (hall.1 f hf)
  | succ left ih =>
    rw [St.fieldMore_succ, St.platformAhead_field]
    split
    · rfl
    · exact ih (St.mem_seen hf)

/-- **The items of one component**, by the number still to come.  Either one of them is malformed or
missing, or the component is read, and its fields are counted on from `k`. -/
theorem fieldLoop_reads {k : UInt32} {start left more : ℕ} {seen : List (ℕ × Item)} {s : St}
    (hst : s.status = .success) (hk : s.cnt.swCompFields = UInt32.ofNat seen.length + k)
    (hseen : ∀ f ∈ seen, f.2.fieldFormed = true) :
    (∃ s', fieldLoop left s = .ret .error s' ∧
      platformVerdict k (s.fieldMore start seen left more) = some .error) ∨
    ∃ s' fields, fieldLoop left s = .next s' ∧
      s.fieldMore start seen left more = .component start fields :: s'.platformBefore more ∧
      (∀ f ∈ fields, f.2.fieldFormed = true) ∧
      s'.cnt = { s.cnt with swCompFields := UInt32.ofNat fields.length + k } ∧
      s'.ctx.rest.length ≤ s.ctx.rest.length := by
  induction left generalizing s seen with
  | zero =>
    rcases componentField_seen s seen k with ⟨s', hs', hbad⟩ | ⟨s', hs', hctx, hstatus, hall, hcnt⟩
    · exact Or.inl ⟨s', hs', fieldMore_malformed hbad⟩
    · refine Or.inr ⟨s', s.seen seen, hs', ?_, hall hseen, hcnt hk, by rw [hctx]⟩
      rw [St.fieldMore_zero, St.platformBefore_of_success (hstatus.trans hst), hctx]
  | succ left ih =>
    rw [fieldLoop]
    rcases componentField_seen s seen k with ⟨s', hs', hbad⟩ | ⟨s', hs', hctx, -, hall, hcnt⟩
    · rw [hs']
      exact Or.inl ⟨s', rfl, fieldMore_malformed hbad⟩
    · rw [hs', St.fieldMore_succ, ← hctx, St.platformAhead_field]
      dsimp only
      by_cases hf : s'.fetch.status ≠ .success
      · rw [if_pos hf, if_pos hf]
        exact Or.inl ⟨s'.fetch, rfl, rfl⟩
      · rw [if_neg hf, if_neg hf]
        have hk' : s'.fetch.cnt.swCompFields = UInt32.ofNat (s.seen seen).length + k :=
          congrArg Counters.swCompFields (hcnt hk)
        rcases ih (not_not.mp hf) hk' (hall hseen) with herr | ⟨t, fields, ht, hmore, hok, htc, hr⟩
        · exact Or.inl herr
        · refine Or.inr ⟨t, fields, ht, hmore, hok, ?_, hr.trans s'.fetch_length_le⟩
          rw [htc]
          have hc : s'.fetch.cnt = s'.cnt := rfl
          rw [hc, hcnt hk]

/-- **The components**, by the number still to come.  The test on the count is made after each, and
clears it. -/
theorem componentLoop_runs (n : ℕ) (s : St) :
    platformReading.Runs s (s.platformBefore n) (componentLoop n s) := by
  induction n generalizing s with
  | zero =>
    rw [St.platformBefore_zero]
    exact .refl _ s
  | succ n ih =>
    have hhere : s.platformBefore (n + 1) = s.ctx.platformAhead (.component n) :=
      if_neg fun h => Nat.succ_ne_zero n h.1
    rw [hhere, St.platformAhead_component, componentLoop]
    by_cases hf : s.fetch.status ≠ .success
    · rw [if_pos hf, if_pos hf]
      exact (ih s.fetch).of_next rfl rfl s.fetch_length_le
    · rw [if_neg hf, if_neg hf]
      have hk : s.fetch.cnt.swCompFields =
          UInt32.ofNat ([] : List (ℕ × Item)).length + s.cnt.swCompFields := (UInt32.zero_add _).symm
      have hread := @fieldLoop_reads s.cnt.swCompFields (s.fetch.ctx.pos - 1) s.fetch.item.uCount n
        [] s.fetch (not_not.mp hf) hk (by simp)
      rcases hread with ⟨s', hs', herr⟩ | ⟨s', fields, hs', hmore, hok, hcnt, hrest⟩
      · rw [hs']
        exact .error herr
      · rw [hs', hmore]
        dsimp only
        have hsw : s'.cnt.swCompFields = UInt32.ofNat fields.length + s.cnt.swCompFields :=
          congrArg Counters.swCompFields hcnt
        by_cases hfew : s'.cnt.swCompFields < 2
        · rw [if_pos hfew]
          exact .error (if_neg fun h => h.2 (hsw ▸ hfew))
        · rw [if_neg hfew]
          refine (ih s'.clearFields).of_next ?_ ?_ (hrest.trans s.fetch_length_le)
          · exact (if_pos ⟨hok, hsw ▸ hfew⟩).symm
          · have hboth : s'.cnt.realmClaims = s.cnt.realmClaims ∧
                s'.cnt.platformClaims = s.cnt.platformClaims := by
              rw [hcnt]
              exact ⟨rfl, rfl⟩
            have hclear : platformReading.tally s'.clearFields.cnt = platformReading.tally s.cnt := by
              simp only [platformReading, St.clearFields, hboth]
            rw [hclear]
            rfl

/-! ## 3. Claims -/

/-- A claim of which only the format is looked at. -/
theorem platform_checked {ok : Prop} [Decidable ok] {L : ℤ} {s₁ s₂ : St} (hst : s.status = .success)
    (hclaim : s.item.IsClaim platformLabels) (hl : s.item.label = L)
    (hL : L ≠ ccaPlatformSwComponents) (hmem : L ≠ ccaRealmExtensibleMeasurement)
    (hok : s.item.platformFormed = true ↔ ok) (hcnt : s₁.cnt = s.countPlatform.cnt)
    (hstatus : s₁.status = s.status) (hctx : s₁.ctx = s.ctx) :
    platformReading.Runs s s.platformMore (if ok then .next s₁ else .ret .error s₂) := by
  have hmore : s.platformMore =
      .claim (s.ctx.pos - 1) s.item :: platformReading.ahead s.ctx := by
    rw [St.platformMore, if_pos hclaim, if_neg (hl ▸ hL)]
    rfl
  rw [hmore]
  exact .checked hst (fun hover => hmem (hl ▸ hover.1)) hok hcnt hstatus hctx

/-- The software components. -/
theorem platform_components (hst : s.status = .success)
    (hl : s.item.label = ccaPlatformSwComponents) {pos : ℕ} :
    platformReading.Runs s
      (.claim pos s.item :: s.ctx.platformAhead (.before s.item.uCount))
      (if s.item.uDataType = .array then componentLoop s.item.uCount s.countPlatform
        else .ret .error s.countPlatform) := by
  have hformed : s.item.platformFormed = (s.item.uDataType == .array) := by
    rw [Item.platformFormed, hl]
    rfl
  by_cases harr : s.item.uDataType = .array
  · have hbefore : s.ctx.platformAhead (.before s.item.uCount) =
        s.countPlatform.platformBefore s.item.uCount :=
      (St.platformBefore_of_success (s := s.countPlatform) hst s.item.uCount).symm
    rw [if_pos harr, hbefore]
    exact .claim (by simp [hformed, harr]) (componentLoop_runs s.item.uCount s.countPlatform)
  · rw [if_neg harr]
    exact .rejected (by simp [hformed, harr]) fun hover => absurd (hl.symm.trans hover.1) (by decide)

theorem platformClaim_of_not (h : ¬ s.item.IsClaim platformLabels) : platformClaim s = .next s := by
  unfold platformClaim
  by_cases hint : s.item.uLabelType ≠ .int64
  · rw [if_pos hint]
  · have hnot : s.item.label ∉ platformLabels := fun hmem => h ⟨not_not.mp hint, hmem⟩
    simp only [platformLabels, platformMandatory, List.mem_cons, List.not_mem_nil, or_false,
      not_or] at hnot
    obtain ⟨h0, h1, h2, h3, h4, h5, h6, h7, h8⟩ := hnot
    have htext : ¬ (s.item.label = ccaPlatformProfile ∨
        s.item.label = ccaPlatformVerificationService ∨ s.item.label = ccaPlatformHashAlgoId) :=
      not_or.mpr ⟨h1, not_or.mpr ⟨h0, h8⟩⟩
    rw [if_neg hint, if_neg htext, if_neg h2, if_neg h3, if_neg h4, if_neg h5, if_neg h6, if_neg h7]

/-- **One claim.**  The cases are the labels, in the order of the source. -/
theorem platformClaim_runs (hst : s.status = .success) :
    platformReading.Runs s s.platformMore (platformClaim s) := by
  by_cases hclaim : s.item.IsClaim platformLabels
  swap
  · have hafter : s.platformMore = platformReading.after s := by
      rw [Reading.after, if_pos hst, St.platformMore, if_neg hclaim]
      rfl
    rw [platformClaim_of_not hclaim, hafter]
    exact .refl _ s
  unfold platformClaim
  rw [if_neg (not_not.mpr hclaim.1)]
  by_cases hl : s.item.label = ccaPlatformProfile ∨
      s.item.label = ccaPlatformVerificationService ∨ s.item.label = ccaPlatformHashAlgoId
  · rw [if_pos hl]
    have hformed : s.item.platformFormed = s.item.isText := by
      rcases hl with hl | hl | hl
      · rw [Item.platformFormed, hl]
        rfl
      · rw [Item.platformFormed, hl]
        rfl
      · rw [Item.platformFormed, hl]
        rfl
    rcases hl with hl | hl | hl
    · exact platform_checked hst hclaim hl (by decide) (by decide) (by rw [hformed]) rfl rfl rfl
    · exact platform_checked hst hclaim hl (by decide) (by decide) (by rw [hformed]) rfl rfl rfl
    · exact platform_checked hst hclaim hl (by decide) (by decide) (by rw [hformed]) rfl rfl rfl
  rw [if_neg hl]
  by_cases hl' : s.item.label = ccaPlatformChallenge
  · have hformed : s.item.platformFormed = s.item.isBytesOf [32, 48, 64] := if_pos hl'
    rw [if_pos hl']
    exact platform_checked hst hclaim hl' (by decide) (by decide) (by rw [hformed]) rfl rfl rfl
  rw [if_neg hl']
  by_cases hl' : s.item.label = ccaPlatformImplementationId
  · have hformed : s.item.platformFormed = s.item.isBytesOf [32] := by
      rw [Item.platformFormed, hl']
      rfl
    rw [if_pos hl']
    exact platform_checked hst hclaim hl' (by decide) (by decide) (by rw [hformed]) rfl rfl rfl
  rw [if_neg hl']
  by_cases hl' : s.item.label = ccaPlatformInstanceId
  · have hformed : s.item.platformFormed = s.item.isBytesOf [33] := by
      rw [Item.platformFormed, hl']
      rfl
    rw [if_pos hl']
    exact platform_checked hst hclaim hl' (by decide) (by decide) (by rw [hformed]) rfl rfl rfl
  rw [if_neg hl']
  by_cases hl' : s.item.label = ccaPlatformConfig
  · have hformed : s.item.platformFormed = s.item.isBytes := by
      rw [Item.platformFormed, hl']
      rfl
    rw [if_pos hl']
    exact platform_checked hst hclaim hl' (by decide) (by decide) (by rw [hformed]) rfl rfl rfl
  rw [if_neg hl']
  by_cases hl' : s.item.label = ccaPlatformLifecycle
  · have hformed : s.item.platformFormed = (s.item.uDataType == .int64) := by
      rw [Item.platformFormed, hl']
      rfl
    rw [if_pos hl']
    exact platform_checked hst hclaim hl' (by decide) (by decide) (by rw [hformed]) rfl rfl rfl
  rw [if_neg hl']
  have hlast : s.item.label = ccaPlatformSwComponents := by
    have hmem := hclaim.2
    simp only [platformLabels, platformMandatory, List.mem_cons, List.not_mem_nil, or_false] at hmem
    tauto
  rw [if_pos hlast, St.platformMore, if_pos hclaim, if_pos hlast]
  exact platform_components hst hlast

/-- **The platform parser reads its items.** -/
theorem parseClaimsPlatformToken_ends (s : St) :
    platformReading.Ends s (s.ctx.platformAhead .claims) (parseClaimsPlatformToken s) :=
  claimLoop_ends St.platformAhead_claims (fun _ => platformClaim_runs) (Nat.lt_succ_self _)

end Platform

end RmmAcs.Attest
