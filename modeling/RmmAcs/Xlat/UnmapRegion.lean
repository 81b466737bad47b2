/-
# Unmapping a region

`xlat_tables_unmap_region` clears a region in the trees its table holds (`unmapRegion_clears`).  The
tables it gives up hold nothing any more, as the next one who takes them relies on: nobody clears a
table when it is taken.

This needs more than that the region is mapped.  A table counts the regions that go through it; if it
comes down to 0, it is given up with whatever is in it.
-/
import RmmAcs.Xlat.MapRegion

namespace RmmAcs.Xlat

open Lib.Radix

section Clears

variable {n : ℕ} {c : Layout n} {mm : MmapRegion} {s s' s₁ s₂ : Tables n} {t : TableRef n}
  {entries d idx lo va : ℕ} {kids sub sub' : ℕ → Node n} {e : Node n}

/-- **What is done with an entry** that the region meets: a leaf is erased, and a table is entered. -/
theorem unmapAction_cases (hok : SpanOk mm) (hd : d ≤ 3)
    (hmeets : mm.span.Meets geometry d va) (hready : e.Ready geometry mm.span d va)
    {action : Option Action} (haction : action = xlatTablesUnmapRegionAction mm va
      (va + geometry.width d - 1) (XLAT_TABLE_LEVEL_MAX - d) (nodeType d e)) :
    (∃ a, e = .leaf a) ∧ action = some .writeBlockEntry ∧ mm.span.Covers geometry d va ∨
      (∃ i count kids, e = .table i count kids) ∧ action = some .recurseIntoTable ∧ 0 < d := by
  subst haction
  rw [xlatTablesUnmapRegionAction]
  cases e with
  | invalid => exact absurd hmeets hready
  | leaf a =>
    have hcov := hready hmeets
    refine Or.inl ⟨⟨a, rfl⟩, ?_, hcov⟩
    rw [if_pos ((covers_iff hok d va).mpr hcov)]
    by_cases h0 : d = 0
    · rw [if_pos ((level_eq_three hd).mpr h0)]
      subst h0
      exact if_pos rfl
    · rw [if_neg fun h => h0 ((level_eq_three hd).mp h)]
      obtain ⟨d, rfl⟩ := Nat.exists_eq_succ_of_ne_zero h0
      rw [nodeType, leafType_succ hd, if_neg (by decide), if_pos rfl]
  | table i count kids =>
    cases d with
    | zero => exact hready.elim
    | succ d =>
      refine Or.inr ⟨⟨i, count, kids, rfl⟩, ?_, Nat.succ_pos d⟩
      have hlt3 : XLAT_TABLE_LEVEL_MAX - (d + 1) < 3 := by
        unfold XLAT_TABLE_LEVEL_MAX
        omega
      by_cases hcov : mm.span.Covers geometry (d + 1) va
      · rw [if_pos ((covers_iff hok (d + 1) va).mpr hcov), if_neg (Nat.ne_of_lt hlt3)]
        exact if_pos rfl
      · have hmet : mm.baseVa ≤ va + geometry.width (d + 1) - 1 ∨ mm.endVa ≥ va := by
          unfold Span.Meets MmapRegion.span at hmeets
          unfold MmapRegion.endVa
          dsimp only at hmeets
          omega
        rw [if_neg fun h => hcov ((covers_iff hok (d + 1) va).mp h), if_pos hmet]
        exact if_pos ⟨hlt3, rfl⟩

variable (c mm) in
/-- **A table has been cleared.** -/
structure Clears (t : TableRef n) (entries d lo : ℕ) (s : Tables n) (kids : ℕ → Node n) (s' : Tables n)
    (kids' : ℕ → Node n) : Prop where
  adv : Advance c t entries d s kids s' kids'
  clean : FreeClean s'
  clear : ∀ j < entries, Clear geometry mm.span d (lo + j * geometry.width d) (kids j) (kids' j)

variable (c mm) in
/-- The function does its work on the table below an entry. -/
def ClearsBelow (rec : ℕ → TableRef n → Tables n → Option (Tables n)) (d va : ℕ) : Prop :=
  ∀ d', d = d' + 1 → ∀ i s sub, TableHolds c s (some i) XLAT_TABLE_ENTRIES d' sub → FreeClean s →
    (∀ j < XLAT_TABLE_ENTRIES, (sub j).Ready geometry mm.span d' (va + j * geometry.width d')) →
    ∃ s₂ sub' s', Clears c mm (some i) XLAT_TABLE_ENTRIES d' va s sub s₂ sub' ∧
      xlatTableDecRegionsCount s₂ (some i) = some s' ∧ rec va (some i) s = some s'

/-- **One entry is cleared.** -/
theorem unmapEntry_clears (hok : SpanOk mm) (hd : d ≤ 3) (h : TableHolds c s t entries d kids)
    (hclean : FreeClean s) (hidx : idx < entries)
    (hmeets : mm.span.Meets geometry d va) (hready : (kids idx).Ready geometry mm.span d va)
    {rec : ℕ → TableRef n → Tables n → Option (Tables n)} (hrec : ClearsBelow c mm rec d va) :
    ∃ s' e', unmapEntry c mm rec (XLAT_TABLE_LEVEL_MAX - d) t idx va s = some (none, s') ∧
      Advance c t entries d s kids s' (Function.update kids idx e') ∧ FreeClean s' ∧
      Clear geometry mm.span d va (kids idx) e' := by
  have hx := (h.repr idx hidx).type
  unfold unmapEntry
  dsimp only
  rw [hx, blockSize_eq hd]
  rcases unmapAction_cases hok hd hmeets hready rfl
    with ⟨⟨a, hkid⟩, haction, hcov⟩ | ⟨⟨i, v, sub, hkid⟩, haction, hpos⟩
  · -- a leaf is erased
    rw [haction]
    refine ⟨_, .invalid, rfl, h.set hidx rfl nofun, ?_, ?_⟩
    · refine hclean.of_free fun i hi => ⟨hi, s.set_table t idx _ ?_⟩
      rintro rfl
      exact (h.self i rfl).ne' hi
    · rw [hkid]
      exact .erase hcov
  · -- a table is entered
    obtain ⟨d, rfl⟩ := Nat.exists_eq_succ_of_ne_zero hpos.ne'
    have hrepr := h.repr idx hidx
    rw [hkid] at hrepr hready
    obtain ⟨hdesc, hv, -⟩ := hrepr
    obtain ⟨hpos, hdies, hsub⟩ := hready
    have hent : Entered c t entries idx d s kids s i sub :=
      .of_table h hidx hkid rfl (fun _ _ => rfl) (hv ▸ hpos)
    obtain ⟨s₂, sub', s₃, hclears, hdec, hret⟩ := hrec d rfl i s sub hent.holds hclean hsub
    have hcount₂ : s₂.mappedRegions i = v := by
      rw [hclears.adv.counts i, hv]
      rintro (⟨j, hj, hhas⟩ | h0)
      · exact hent.holds.own j hj i hhas rfl
      · omega
    obtain ⟨hdesc₃, hcount₃, hother₃⟩ := xlatTableDecRegionsCount_some hdec
    rw [hcount₂] at hcount₃
    rw [haction, hdesc, subtable_table]
    simp only [Option.bind_eq_bind, Option.bind_some, hret, xlatTableIsEmpty, hcount₃]
    by_cases hone : v = 1
    · -- it is given up, with nothing in it
      subst hone
      have hnone : ∀ j < XLAT_TABLE_ENTRIES, sub' j = .invalid := fun j hj =>
        (hclears.clear j hj).dies (hdies rfl hmeets j hj)
      have hadv : Advance c t entries (d + 1) s kids (s₃.set t idx INVALID_DESC)
          (Function.update kids idx .invalid) := by
        refine hent.leave h hidx hclears.adv (fun t' ht => ?_) (fun j hj => ?_) hother₃ ?_ trivial
          (fun k hk => hk.elim) fun k hk => hk.elim
        · rw [s₃.set_table t idx _ ht, hdesc₃]
        · rw [s₃.set_idx t idx _ hj, hdesc₃]
        · exact s₃.set_same t idx _
      refine ⟨_, .invalid, rfl, hadv, fun k hk j hj => ?_, ?_⟩
      · have hkt : some k ≠ t := fun ht => (hadv.holds.self k ht.symm).ne' hk
        rw [if_pos (by decide), s₃.set_table t idx _ hkt, hdesc₃]
        by_cases hki : k = i
        · subst hki
          have hrepr := hclears.adv.holds.repr j hj
          rw [hnone j hj] at hrepr
          exact hrepr
        · exact hclears.clean k ((hother₃ k hki).symm.trans hk) j hj
      · rw [hkid]
        exact .drop hmeets hclears.clear hnone
    · have hne : ¬ (v - 1 == 0) = true := by
        rw [beq_iff_eq]
        omega
      rw [if_neg hne]
      refine ⟨_, .table i (v - 1) sub', rfl, ?_, ?_, ?_⟩
      · exact hent.leave_table h hidx hclears.adv hdesc₃ hother₃ hcount₃ (by omega)
      · refine hclears.clean.of_free fun k hk => ⟨?_, by rw [hdesc₃]⟩
        by_cases hki : k = i
        · subst hki
          omega
        · exact (hother₃ k hki).symm.trans hk
      · rw [hkid]
        exact .keep hmeets hone hclears.clear

/-- **A table is cleared**, if the function does its work on the tables below it. -/
theorem unmapLoop_clears (hok : SpanOk mm) (hd : d ≤ 3) (hlo : geometry.width d ∣ lo)
    (h : TableHolds c s t entries d kids) (hclean : FreeClean s) (hentries : 0 < entries)
    (hmeets : mm.baseVa < lo + entries * geometry.width d ∧ lo < mm.span.hi)
    (hready : ∀ j < entries, (kids j).Ready geometry mm.span d (lo + j * geometry.width d))
    {rec : ℕ → TableRef n → Tables n → Option (Tables n)}
    (hrec : ∀ va, geometry.width d ∣ va → mm.span.Meets geometry d va → ClearsBelow c mm rec d va)
    (hva : va = xlatTablesFindStartVa mm lo (XLAT_TABLE_LEVEL_MAX - d))
    (hidx : idx = xlatTablesVaToIndex lo va (XLAT_TABLE_LEVEL_MAX - d)) :
    ∃ e s', entryLoop (xlatBlockSize (XLAT_TABLE_LEVEL_MAX - d)) mm.endVa
        (unmapEntry c mm rec (XLAT_TABLE_LEVEL_MAX - d) t) (entries - idx) idx va s = some (e, s') ∧
      ∃ kids', Clears c mm t entries d lo s kids s' kids' := by
  obtain ⟨hlt, hva, hbase, hfirst⟩ := start_spec hd hlo hmeets.1 hentries hva hidx
  obtain ⟨hpageVa, hinside, hend, hne⟩ := start_inside hok hlo hmeets.2 hva hfirst
  rw [blockSize_eq hd]
  -- the entries before the first are not met; those from the current one on have not changed
  refine entryLoop_rule
    (fun k v s' => v = lo + k * geometry.width d ∧ idx ≤ k ∧ ∃ kids',
      Advance c t entries d s kids s' kids' ∧ FreeClean s' ∧ (∀ j, k ≤ j → kids' j = kids j) ∧
      ∀ j < entries, j < k →
        Clear geometry mm.span d (lo + j * geometry.width d) (kids j) (kids' j))
    (fun _ s' => ∃ kids', Clears c mm t entries d lo s kids s' kids')
    ?_ ?_ ?_ (Nat.add_sub_of_le hlt.le) hne ?_
  · rintro k v s' hk hv ⟨rfl, hle, kids', hadv, hclean', hlater, hclear⟩
    have hbefore := Nat.mul_le_mul_right (geometry.width d) hle
    have hmet : mm.span.Meets geometry d (lo + k * geometry.width d) :=
      ⟨Nat.lt_of_lt_of_le hbase (by omega), by omega⟩
    obtain ⟨s'', e', hret, hadv', hclean'', hcleared⟩ := unmapEntry_clears hok hd hadv.holds hclean' hk
      hmet (hlater k (Nat.le_refl k) ▸ hready k hk) (hrec _ (Nat.dvd_add hlo (Nat.dvd_mul_left ..)) hmet)
    rw [hlater k (Nat.le_refl k)] at hcleared
    refine ⟨none, s'', hret, nofun, fun _ => ⟨by rw [Nat.succ_mul, Nat.add_assoc],
      hle.trans (Nat.le_succ k), _, hadv.trans hadv', hclean'', fun j hj => ?_, fun j hj hjk => ?_⟩⟩
    · rw [Function.update_of_ne (Nat.ne_of_gt hj), hlater j (Nat.le_of_succ_le hj)]
    · rcases Nat.lt_or_eq_of_le (Nat.le_of_lt_succ hjk) with hjk | rfl
      · rw [Function.update_of_ne hjk.ne]
        exact hclear j hj hjk
      · rw [Function.update_self]
        exact hcleared
  · rintro v s' ⟨rfl, -, kids', hadv, hclean', -, hclear⟩
    exact ⟨kids', hadv, hclean', fun j hj => hclear j hj hj⟩
  · rintro k v s' hk hv ⟨rfl, -, kids', hadv, hclean', hlater, hclear⟩
    have hpage : PAGE_SIZE ∣ lo + k * geometry.width d :=
      (pageSize_dvd_width d).trans (Nat.dvd_add hlo (Nat.dvd_mul_left ..))
    have hout : mm.span.hi ≤ lo + k * geometry.width d :=
      le_of_aligned hpage (hi_aligned hok) (by omega)
    refine ⟨kids', hadv, hclean', fun j hj => ?_⟩
    rcases Nat.lt_or_ge j k with hjk | hkj
    · exact hclear j hj hjk
    · rw [hlater j hkj]
      have hbehind := Nat.mul_le_mul_right (geometry.width d) hkj
      exact .same fun hmeets => absurd hmeets.2 (by omega)
  · refine ⟨hva, Nat.le_refl idx, kids, .refl h, hclean, fun _ _ => rfl, fun j hj hjk => ?_⟩
    have hbefore := kid_before geometry d lo hjk
    refine .same fun hmeets => ?_
    have hmet : mm.baseVa < lo + j * geometry.width d + geometry.width d := hmeets.1
    omega

/-- **A region is unmapped in a table**, which then counts one region less. -/
theorem unmapRegion_clears (hok : SpanOk mm) (hd : c.baseLevel + d ≤ 3) (hlo : geometry.width d ∣ lo)
    (h : TableHolds c s t entries d kids) (hclean : FreeClean s) (hentries : 0 < entries)
    (hmeets : mm.baseVa < lo + entries * geometry.width d ∧ lo < mm.span.hi)
    (hready : ∀ j < entries, (kids j).Ready geometry mm.span d (lo + j * geometry.width d)) :
    ∃ s₂ kids', Clears c mm t entries d lo s kids s₂ kids' ∧
      xlatTablesUnmapRegion c mm d lo t entries s =
        if XLAT_TABLE_LEVEL_MAX - d > c.baseLevel then xlatTableDecRegionsCount s₂ t else some s₂ := by
  induction d generalizing lo t entries s kids with
  | zero =>
    have hrec : ∀ va, geometry.width 0 ∣ va → mm.span.Meets geometry 0 va →
        ClearsBelow c mm (fun _ _ _ => none) 0 va :=
      fun va _ _ d' hd' => absurd hd' (Nat.succ_ne_zero d').symm
    obtain ⟨e, s₂, hloop, kids', hclears⟩ := unmapLoop_clears hok (by omega) hlo h hclean hentries
      hmeets hready hrec rfl rfl
    refine ⟨s₂, kids', hclears, ?_⟩
    rw [xlatTablesUnmapRegion]
    simp only [hloop, Option.bind_eq_bind, Option.bind_some]
  | succ d ih =>
    have hrec : ∀ va, geometry.width (d + 1) ∣ va → mm.span.Meets geometry (d + 1) va →
        ClearsBelow c mm
          (fun va table s => xlatTablesUnmapRegion c mm d va table XLAT_TABLE_ENTRIES s) (d + 1) va := by
      rintro va hva hmet d' hd' i s sub hsub hclean hready
      cases hd'
      have hlevel : XLAT_TABLE_LEVEL_MAX - d > c.baseLevel := by
        unfold XLAT_TABLE_LEVEL_MAX
        omega
      rw [Span.Meets, geometry.width_succ] at hmet
      obtain ⟨s₂, sub', hclears, hret⟩ := ih (by omega) ((width_dvd (Nat.le_succ d)).trans hva) hsub
        hclean (by decide) hmet hready
      rw [if_pos hlevel] at hret
      exact ⟨s₂, sub', _, hclears, rfl, hret⟩
    obtain ⟨e, s₂, hloop, kids', hclears⟩ := unmapLoop_clears hok (by omega) hlo h hclean hentries
      hmeets hready hrec rfl rfl
    refine ⟨s₂, kids', hclears, ?_⟩
    rw [xlatTablesUnmapRegion]
    simp only [hloop, Option.bind_eq_bind, Option.bind_some]

end Clears

end RmmAcs.Xlat
