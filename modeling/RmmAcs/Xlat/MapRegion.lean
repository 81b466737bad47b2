/-
# Mapping a region

`xlat_tables_map_region` fills a region in the trees its table holds (`mapRegion_fills`).  It fills all
of it that lies in the table, and returns where that ends; or it runs out of tables, and returns the
address it has come to.  The two differ in their lowest bits, which is how the callers tell them apart.

No assertion fails on the way, if every leaf that meets the region lies in it: an entry that the region
meets but does not cover has then no leaf.
-/
import RmmAcs.Xlat.Represent

namespace RmmAcs.Xlat

open Lib.Radix

/-! ## 1. Regions -/

/-- The addresses of a region. -/
def MmapRegion.span (mm : MmapRegion) : Span := ⟨mm.baseVa, mm.baseVa + mm.size⟩

/-- A region has whole pages. -/
structure SpanOk (mm : MmapRegion) : Prop where
  va_aligned : PAGE_SIZE ∣ mm.baseVa
  size_aligned : PAGE_SIZE ∣ mm.size
  size_pos : 0 < mm.size

/-- What the checks leave of a region: whole pages, physical addresses of 48 bits; and a memory type
there is. -/
structure RegionOk (mm : MmapRegion) : Prop extends SpanOk mm where
  pa_aligned : PAGE_SIZE ∣ mm.basePa
  pa_lt : mm.basePa + mm.size ≤ 2 ^ 48
  type_valid : TypeValid mm.attr.toUInt32

/-- The physical address for an address of a region. -/
def MmapRegion.pa (mm : MmapRegion) (va : ℕ) : ℕ := mm.basePa + va - mm.baseVa

/-- There can be a leaf for an entry in a region. -/
def LeafAligned (mm : MmapRegion) (d lo : ℕ) : Prop := mm.pa lo % geometry.width d = 0

/-- The leaf for an entry in a region. -/
def newDesc (regime : Regime) (mm : MmapRegion) (d lo : ℕ) : UInt64 :=
  UInt64.ofNat (mm.pa lo) ||| leafType (XLAT_TABLE_LEVEL_MAX - d)
    ||| descAttrs regime mm.attr.toUInt32

section Action

variable {n : ℕ} {mm : MmapRegion} {d va : ℕ} {e : Node n}

theorem level_eq_three {d : ℕ} (hd : d ≤ 3) : XLAT_TABLE_LEVEL_MAX - d = 3 ↔ d = 0 := by
  unfold XLAT_TABLE_LEVEL_MAX
  omega

/-- An entry is covered if it starts and ends in the region. -/
theorem covers_iff (hok : SpanOk mm) (d va : ℕ) :
    mm.baseVa ≤ va ∧ mm.endVa ≥ va + geometry.width d - 1 ↔ mm.span.Covers geometry d va := by
  have hsize := hok.size_pos
  have hwidth := geometry.width_pos d
  unfold MmapRegion.endVa Span.Covers MmapRegion.span
  dsimp only
  omega

/-- Pages are covered if they are met. -/
theorem covers_of_meets_page (hok : SpanOk mm) (hva : PAGE_SIZE ∣ va)
    (hmeets : mm.span.Meets geometry 0 va) : mm.span.Covers geometry 0 va := by
  obtain ⟨b, hb⟩ := hok.va_aligned
  obtain ⟨z, hz⟩ := hok.size_aligned
  obtain ⟨k, hk⟩ := hva
  unfold Span.Meets MmapRegion.span at hmeets
  unfold Span.Covers MmapRegion.span
  dsimp only at hmeets ⊢
  rw [width_zero] at hmeets ⊢
  unfold PAGE_SIZE at *
  omega

/-- **What is done with an entry** that the region meets: an invalid one becomes a leaf or a table, a
leaf stays, and a table is entered. -/
theorem mapAction_cases (hok : RegionOk mm) (hd : d ≤ 3) (hva : PAGE_SIZE ∣ va)
    (hmeets : mm.span.Meets geometry d va) (hfits : ∀ a, e = .leaf a → mm.span.Covers geometry d va)
    (hdepth : ∀ i count kids, e = .table i count kids → 0 < d) (pa : ℕ) {action : Option Action}
    (haction : action = xlatTablesMapRegionAction mm (nodeType d e) pa va (XLAT_TABLE_LEVEL_MAX - d)) :
    e = .invalid ∧ (action = some .writeBlockEntry ∧ mm.span.Covers geometry d va ∧
        (0 < d → pa % geometry.width d = 0) ∨ action = some .createNewTable ∧ 0 < d) ∨
      (∃ a, e = .leaf a) ∧ action = some .none ∨
      (∃ i count kids, e = .table i count kids) ∧ action = some .recurseIntoTable := by
  subst haction
  rw [xlatTablesMapRegionAction, and_xlatBlockMask, blockSize_eq hd]
  have hlt3 : 0 < d → XLAT_TABLE_LEVEL_MAX - d < 3 := by
    unfold XLAT_TABLE_LEVEL_MAX
    omega
  have hmet : mm.baseVa ≤ va + geometry.width d - 1 ∨ mm.endVa ≥ va := by
    unfold Span.Meets MmapRegion.span at hmeets
    unfold MmapRegion.endVa
    dsimp only at hmeets
    omega
  have hzero : ¬ mm.span.Covers geometry d va → 0 < d := by
    intro hno
    refine Nat.pos_of_ne_zero ?_
    rintro rfl
    exact hno (covers_of_meets_page hok.toSpanOk hva hmeets)
  by_cases hcov : mm.span.Covers geometry d va
  · rw [if_pos ((covers_iff hok.toSpanOk d va).mpr hcov)]
    by_cases h0 : d = 0
    · rw [if_pos ((level_eq_three hd).mpr h0)]
      subst h0
      cases e with
      | invalid =>
        refine Or.inl ⟨rfl, Or.inl ⟨?_, hcov, fun h => absurd h (Nat.lt_irrefl 0)⟩⟩
        rw [nodeType, if_neg (by decide), if_pos rfl]
      | leaf a => exact Or.inr (Or.inl ⟨⟨a, rfl⟩, if_pos rfl⟩)
      | table i count kids => exact absurd (hdepth i count kids rfl) (Nat.lt_irrefl 0)
    · rw [if_neg fun h => h0 ((level_eq_three hd).mp h)]
      cases e with
      | invalid =>
        refine Or.inl ⟨rfl, ?_⟩
        rw [nodeType, if_neg (by decide), if_pos rfl]
        by_cases hfine : pa % geometry.width d ≠ 0 ∨ XLAT_TABLE_LEVEL_MAX - d < MIN_LVL_BLOCK_DESC ∨
            mm.granularity < geometry.width d
        · exact Or.inr ⟨if_pos hfine, Nat.pos_of_ne_zero h0⟩
        · refine Or.inl ⟨if_neg hfine, hcov, fun _ => ?_⟩
          exact not_not.mp (not_or.mp hfine).1
      | leaf a =>
        refine Or.inr (Or.inl ⟨⟨a, rfl⟩, ?_⟩)
        obtain ⟨d, rfl⟩ := Nat.exists_eq_succ_of_ne_zero h0
        rw [nodeType, leafType_succ hd, if_neg (by decide), if_neg (by decide), if_pos rfl]
      | table i count kids => exact Or.inr (Or.inr ⟨⟨i, count, kids, rfl⟩, if_pos rfl⟩)
  · rw [if_neg fun h => hcov ((covers_iff hok.toSpanOk d va).mp h), if_pos hmet, if_pos (hlt3 (hzero hcov))]
    cases e with
    | invalid => exact Or.inl ⟨rfl, Or.inr ⟨if_pos rfl, hzero hcov⟩⟩
    | leaf a => exact absurd (hfits a rfl) hcov
    | table i count kids =>
      refine Or.inr (Or.inr ⟨⟨i, count, kids, rfl⟩, ?_⟩)
      rw [nodeType, if_neg (by decide), if_pos rfl]

end Action

/-! ## 2. One entry -/

/-- The leaves that the region meets lie in it. -/
abbrev Fits (r : Span) {n : ℕ} (e : Node n) (d lo : ℕ) : Prop :=
  e.All geometry (fun _ _ _ => True) (fun d lo _ => r.Meets geometry d lo → r.Covers geometry d lo)
    (fun _ _ => True) d lo

section Fills

variable {n : ℕ} (c : Layout n) (mm : MmapRegion)

/-- Filling has come to the end of the region; or to an entry for which there was no table. -/
def Stopped (s : Tables n) (d lo hi stop e : ℕ) : Prop :=
  stop = mm.span.hi ∧ e + 1 = mm.span.hi ∧ mm.span.hi ≤ hi ∨
    stop = e ∧ 0 < d ∧ geometry.width 1 ∣ e ∧ lo ≤ e ∧ e < mm.span.hi ∧ e < hi ∧
      xlatTableGetEmpty s = none

/-- Filling has come to the end of the range and may go on, or has stopped. -/
def CameTo (s : Tables n) (d lo hi stop e : ℕ) : Prop :=
  stop = mm.span.hi ∧ e + 1 = hi ∧ hi ≤ mm.span.hi ∨ Stopped mm s d lo hi stop e

/-- Entries have been filled. -/
abbrev Filled (stop d lo : ℕ) (e e' : Node n) : Prop :=
  Fill geometry mm.span stop (LeafAligned mm) (newDesc c.regime mm) d lo e e'

/-- **A table has been filled.** -/
structure Fills (t : TableRef n) (entries d lo : ℕ) (s : Tables n) (kids : ℕ → Node n) (e : ℕ)
    (s' : Tables n) (kids' : ℕ → Node n) (stop : ℕ) : Prop where
  adv : Advance c t entries d s kids s' kids'
  clean : FreeClean s'
  fill : ∀ j < entries, Filled c mm stop d (lo + j * geometry.width d) (kids j) (kids' j)
  came : CameTo mm s' d lo (lo + entries * geometry.width d) stop e

/-- The function does its work on the table below an entry. -/
def FillsBelow (rec : ℕ → TableRef n → Tables n → Option (ℕ × Tables n)) (d va : ℕ) : Prop :=
  ∀ d', d = d' + 1 → ∀ i s s₁ sub, xlatTableIncRegionsCount s (some i) = some s₁ →
    TableHolds c s₁ (some i) XLAT_TABLE_ENTRIES d' sub → FreeClean s₁ →
    (∀ j < XLAT_TABLE_ENTRIES, Fits mm.span (sub j) d' (va + j * geometry.width d')) →
    ∃ e s' sub' stop, rec va (some i) s = some (e, s') ∧
      Fills c mm (some i) XLAT_TABLE_ENTRIES d' va s₁ sub e s' sub' stop

variable {c mm} {s s' s₁ s₂ : Tables n} {t : TableRef n} {entries d idx va : ℕ}
  {kids sub sub' : ℕ → Node n} {i : Fin n}

theorem hi_aligned (hok : SpanOk mm) : PAGE_SIZE ∣ mm.span.hi :=
  Nat.dvd_add hok.va_aligned hok.size_aligned

theorem Stopped.mono {lo hi lo' hi' stop e : ℕ} (h : Stopped mm s d lo hi stop e) (hlo : lo' ≤ lo)
    (hhi : hi ≤ hi') {d' : ℕ} (hd : d ≤ d') : Stopped mm s d' lo' hi' stop e := by
  rcases h with ⟨hstop, he, hend⟩ | ⟨hstop, hpos, hpage, hle, hend, hlt, hnone⟩
  · exact Or.inl ⟨hstop, he, hend.trans hhi⟩
  · exact Or.inr ⟨hstop, Nat.lt_of_lt_of_le hpos hd, hpage, hlo.trans hle, hend,
      Nat.lt_of_lt_of_le hlt hhi, hnone⟩

/-- The callers tell by the address returned whether to go on: where there was no table it is that of a
page, and not the last one of a range. -/
theorem CameTo.next {lo hi stop e : ℕ} (h : CameTo mm s d lo hi stop e) (hhi : PAGE_SIZE ∣ hi)
    (he : e = hi - 1) : stop = mm.span.hi ∧ hi ≤ mm.span.hi := by
  rcases h with ⟨hstop, -, hle⟩ | ⟨hstop, he', hle⟩ | ⟨-, -, hpage, -, -, hlt', -⟩
  · exact ⟨hstop, hle⟩
  · exact ⟨hstop, by omega⟩
  · obtain ⟨k, hk⟩ := hhi
    obtain ⟨q, hq⟩ := (pageSize_dvd_width 1).trans hpage
    unfold PAGE_SIZE at hk hq
    omega

theorem CameTo.stopped {lo hi stop e : ℕ} (h : CameTo mm s d lo hi stop e) (he : e ≠ hi - 1) :
    Stopped mm s d lo hi stop e := by
  rcases h with ⟨-, he', -⟩ | h
  · omega
  · exact h

/-- What a step of the loop leaves. -/
structure EntryFills (c : Layout n) (mm : MmapRegion) (t : TableRef n) (entries d idx va : ℕ) (s : Tables n) (kids : ℕ → Node n)
    (ret : Option ℕ) (s' : Tables n) (e' : Node n) (stop : ℕ) : Prop where
  adv : Advance c t entries d s kids s' (Function.update kids idx e')
  clean : FreeClean s'
  fill : Filled c mm stop d va (kids idx) e'
  next : ret = none → stop = mm.span.hi ∧ va + geometry.width d ≤ mm.span.hi
  ends : ∀ e, ret = some e → Stopped mm s' d va (va + geometry.width d) stop e

theorem CameTo.visits {stop e : ℕ} (hmeets : mm.span.Meets geometry (d + 1) va)
    (h : CameTo mm s d va (va + geometry.width (d + 1)) stop e) : Visits geometry mm.span stop d va := by
  refine ⟨hmeets, ?_⟩
  have hlt : va < mm.span.hi := hmeets.2
  rcases h with ⟨hstop, -⟩ | ⟨hstop, -⟩ | ⟨hstop, hd, -, hle, -⟩
  · exact Or.inl (hstop ▸ hlt)
  · exact Or.inl (hstop ▸ hlt)
  · rcases Nat.lt_or_eq_of_le hle with hlt | heq
    · exact Or.inl (hstop ▸ hlt)
    · exact Or.inr ⟨hstop ▸ heq, hd⟩

/-- After the table of an entry has been filled. -/
theorem Fills.entry {e stop : ℕ} (h : Fills c mm (some i) XLAT_TABLE_ENTRIES d va s₁ sub e s' sub' stop)
    (hva : PAGE_SIZE ∣ va) (hmeets : mm.span.Meets geometry (d + 1) va) {node : Node n}
    (hadv : Advance c t entries (d + 1) s kids s' (Function.update kids idx node))
    (hfill : Visits geometry mm.span stop d va → Filled c mm stop (d + 1) va (kids idx) node) :
    EntryFills c mm t entries (d + 1) idx va s kids
      (if e ≠ va + geometry.width (d + 1) - 1 then some e else none) s' node stop := by
  have hwidth : va + XLAT_TABLE_ENTRIES * geometry.width d = va + geometry.width (d + 1) := by
    rw [geometry.width_succ]
    rfl
  have hcame := h.came
  rw [hwidth] at hcame
  refine ⟨hadv, h.clean, hfill (hcame.visits hmeets), fun hret => ?_, fun e' hret => ?_⟩
  · split_ifs at hret with he
    exact hcame.next (Nat.dvd_add hva (pageSize_dvd_width _)) (not_not.mp he)
  · split_ifs at hret with he
    cases hret
    exact (hcame.stopped he).mono (Nat.le_refl _) (Nat.le_refl _) (Nat.le_succ d)

/-- **One entry is filled.** -/
theorem mapEntry_fills (hok : RegionOk mm) (hd : d ≤ 3) (h : TableHolds c s t entries d kids)
    (hclean : FreeClean s) (hidx : idx < entries)
    (hdvd : geometry.width d ∣ va) (hmeets : mm.span.Meets geometry d va) (hfits : Fits mm.span (kids idx) d va)
    {rec : ℕ → TableRef n → Tables n → Option (ℕ × Tables n)} (hrec : FillsBelow c mm rec d va) :
    ∃ ret s' e' stop, mapEntry c mm rec (XLAT_TABLE_LEVEL_MAX - d) t idx va s = some (ret, s') ∧
      EntryFills c mm t entries d idx va s kids ret s' e' stop := by
  have hva : PAGE_SIZE ∣ va := (pageSize_dvd_width d).trans hdvd
  have hx := (h.repr idx hidx).type
  have hfit : ∀ a, kids idx = .leaf a → mm.span.Covers geometry d va := by
    intro a hkid
    rw [hkid] at hfits
    exact hfits hmeets
  have hdepth : ∀ i count sub, kids idx = .table i count sub → 0 < d := by
    intro i count sub hkid
    have hrepr := h.repr idx hidx
    rw [hkid] at hrepr
    cases d with
    | zero => exact hrepr.elim
    | succ d => exact Nat.succ_pos d
  unfold mapEntry
  dsimp only
  rw [hx, blockSize_eq hd]
  rcases mapAction_cases hok hd hva hmeets hfit hdepth (mm.basePa + va - mm.baseVa) rfl
    with ⟨hkid, ⟨haction, hcov, hpa⟩ | ⟨haction, hpos⟩⟩ | ⟨⟨a, hkid⟩, haction⟩ |
      ⟨⟨i, v, sub, hkid⟩, haction⟩
  · -- a leaf is written
    have hpage : PAGE_SIZE ∣ mm.basePa + va - mm.baseVa :=
      Nat.dvd_sub (Nat.dvd_add hok.pa_aligned hva) hok.va_aligned
    have hblock : (mm.basePa + va - mm.baseVa) % geometry.width d = 0 := by
      cases d with
      | zero => exact Nat.mod_eq_zero_of_dvd hpage
      | succ d => exact hpa (Nat.succ_pos d)
    have hlt : mm.basePa + va - mm.baseVa < 2 ^ 48 := by
      have hle : mm.baseVa ≤ va := hcov.1
      have hend : va + geometry.width d ≤ mm.baseVa + mm.size := hcov.2
      have hwidth := geometry.width_pos d
      have hpa := hok.pa_lt
      omega
    have hdesc : xlatDesc c.regime mm.attr.toUInt32 (mm.basePa + va - mm.baseVa)
        (XLAT_TABLE_LEVEL_MAX - d) = some (newDesc c.regime mm d va) := by
      rw [xlatDesc_eq, blockSize_eq hd, if_pos ⟨hblock, hok.type_valid⟩]
      rfl
    rw [haction, hdesc]
    refine ⟨none, _, .leaf (newDesc c.regime mm d va), mm.span.hi, rfl, ?_, ?_, ?_,
      fun _ => ⟨rfl, hcov.2⟩, nofun⟩
    · refine h.set hidx ⟨rfl, ?_⟩ nofun
      exact desc_type _ _ (Nat.mod_eq_zero_of_dvd hpage) hlt
    · refine hclean.of_free fun i hi => ⟨hi, s.set_table t idx _ ?_⟩
      rintro rfl
      exact (h.self i rfl).ne' hi
    · rw [hkid]
      exact .write hcov hblock hcov.2
  · -- a table is created, or there is none
    rw [haction]
    cases hfree : xlatTableGetEmpty s with
    | none =>
      refine ⟨some va, s, kids idx, va, rfl, ?_, hclean, .same (Or.inr (Nat.le_refl va)), nofun, ?_⟩
      · rw [Function.update_eq_self]
        exact .refl h
      · intro e he
        cases he
        exact Or.inr ⟨rfl, hpos, (width_dvd hpos).trans hdvd, Nat.le_refl va, hmeets.2,
          Nat.lt_add_of_pos_right (geometry.width_pos d), hfree⟩
    | some i =>
      have hzero := xlatTableGetEmpty_some hfree
      obtain ⟨d, rfl⟩ := Nat.exists_eq_succ_of_ne_zero hpos.ne'
      have hti : t ≠ some i := fun ht => (h.self i ht).ne' hzero
      let s₁ : Tables n := { s.set t idx (TABLE_DESC ||| c.addr i) with
        mappedRegions := Function.update s.mappedRegions i (s.mappedRegions i + 1) }
      have hcount : s₁.mappedRegions i = 1 := by
        dsimp only [s₁]
        rw [Function.update_self, hzero]
        rfl
      have hent : Entered c t entries idx d s kids s₁ i fun _ => .invalid :=
        .of_free h hclean hzero (fun t' ht => s.set_table t idx _ ht) (fun j hj => s.set_idx t idx _ hj)
          (fun k hk => Function.update_of_ne hk _ _) (s.set_same t idx _) (hcount ▸ Int.one_pos)
      have hclean₁ : FreeClean s₁ := by
        refine hclean.of_free fun k hk => ?_
        by_cases hki : k = i
        · subst hki
          omega
        · have hk' : s.mappedRegions k = 0 := (Function.update_of_ne hki _ _).symm.trans hk
          refine ⟨hk', s.set_table t idx _ ?_⟩
          rintro rfl
          exact (h.self k rfl).ne' hk'
      obtain ⟨e, s', sub', stop, hret, hfills⟩ := hrec d rfl i _ s₁ _ rfl hent.holds hclean₁
        fun _ _ => trivial
      have hcount' : s'.mappedRegions i = 1 := by
        rw [hfills.adv.counts i, hcount]
        rintro (⟨j, hj, hhas⟩ | h0)
        · exact hhas
        · omega
      simp only [Option.bind_eq_bind, Option.bind_some, hret]
      refine ⟨_, s', .table i 1 sub', stop, rfl, hfills.entry hva hmeets ?_ fun hvisits => ?_⟩
      · exact hent.leave_table h hidx hfills.adv rfl (fun _ _ => rfl) hcount' Int.one_pos
      · rw [hkid]
        exact .create hvisits hfills.fill
  · -- a leaf stays
    rw [haction]
    have hcov := hfit a hkid
    refine ⟨none, s, kids idx, mm.span.hi, rfl, ?_, hclean, ?_, fun _ => ⟨rfl, hcov.2⟩, nofun⟩
    · rw [Function.update_eq_self]
      exact .refl h
    · rw [hkid]
      exact .kept
  · -- a table is entered
    obtain ⟨d, rfl⟩ := Nat.exists_eq_succ_of_ne_zero (hdepth i v sub hkid).ne'
    have hrepr := h.repr idx hidx
    have hpos := h.used idx hidx i
    rw [hkid] at hrepr hpos hfits
    obtain ⟨hdesc, hv, -⟩ := hrepr
    have hpos := hpos (Or.inl rfl)
    let s₁ : Tables n :=
      { s with mappedRegions := Function.update s.mappedRegions i (s.mappedRegions i + 1) }
    have hcount : s₁.mappedRegions i = v + 1 := by
      dsimp only [s₁]
      rw [Function.update_self, hv]
    have hent : Entered c t entries idx d s kids s₁ i sub :=
      .of_table h hidx hkid rfl (fun k hk => Function.update_of_ne hk _ _) (by omega)
    have hclean₁ : FreeClean s₁ := by
      refine hclean.of_free fun k hk => ⟨?_, rfl⟩
      by_cases hki : k = i
      · subst hki
        omega
      · exact (Function.update_of_ne hki _ _).symm.trans hk
    obtain ⟨e, s', sub', stop, hret, hfills⟩ := hrec d rfl i s s₁ sub rfl hent.holds hclean₁ hfits.2
    have hcount' : s'.mappedRegions i = v + 1 := by
      rw [hfills.adv.counts i, hcount]
      rintro (⟨j, hj, hhas⟩ | h0)
      · exact hent.holds.own j hj i hhas rfl
      · omega
    rw [haction, hdesc, subtable_table]
    simp only [Option.bind_eq_bind, Option.bind_some, hret]
    refine ⟨_, s', .table i (v + 1) sub', stop, rfl, hfills.entry hva hmeets ?_ fun hvisits => ?_⟩
    · exact hent.leave_table h hidx hfills.adv rfl (fun _ _ => rfl) hcount' (by omega)
    · rw [hkid]
      exact .recurse hvisits hfills.fill

end Fills

/-! ## 3. The entries of a table -/

/-- An address of a page that is not below the last byte before another one. -/
theorem le_of_aligned {v hi : ℕ} (hv : PAGE_SIZE ∣ v) (hhi : PAGE_SIZE ∣ hi) (hlast : hi ≤ v + 1) :
    hi ≤ v := by
  obtain ⟨k, rfl⟩ := hv
  obtain ⟨q, rfl⟩ := hhi
  unfold PAGE_SIZE at *
  omega

section Loop

variable {n : ℕ} {c : Layout n} {mm : MmapRegion} {s s₁ : Tables n} {t : TableRef n}
  {entries d lo : ℕ} {kids : ℕ → Node n}

/-- **Where a loop starts**: with the first entry that the region meets. -/
theorem start_spec (hd : d ≤ 3) (hlo : geometry.width d ∣ lo)
    (hmeets : mm.baseVa < lo + entries * geometry.width d) (hentries : 0 < entries)
    {va idx : ℕ} (hva : va = xlatTablesFindStartVa mm lo (XLAT_TABLE_LEVEL_MAX - d))
    (hidx : idx = xlatTablesVaToIndex lo va (XLAT_TABLE_LEVEL_MAX - d)) :
    idx < entries ∧ va = lo + idx * geometry.width d ∧ mm.baseVa < va + geometry.width d ∧
      (idx = 0 ∨ va ≤ mm.baseVa) := by
  have hwidth := geometry.width_pos d
  have hshift : ∀ x, x >>> xlatAddrShift (XLAT_TABLE_LEVEL_MAX - d) = x / geometry.width d := by
    intro x
    rw [Nat.shiftRight_eq_div_pow, ← xlatBlockSize_eq, blockSize_eq hd]
  rw [xlatTablesFindStartVa, and_xlatBlockMask, blockSize_eq hd] at hva
  rw [xlatTablesVaToIndex, hshift] at hidx
  by_cases hgt : mm.baseVa > lo
  · rw [if_pos hgt] at hva
    obtain ⟨k, rfl⟩ := hlo
    obtain ⟨q, hq⟩ : geometry.width d ∣ va := hva ▸ Nat.dvd_sub_mod _
    have hmod := Nat.mod_lt mm.baseVa hwidth
    have hkq : k ≤ q := by
      by_contra hlt
      have hle : geometry.width d * (q + 1) ≤ geometry.width d * k :=
        Nat.mul_le_mul_left _ (Nat.lt_of_not_le hlt)
      rw [Nat.mul_succ] at hle
      omega
    obtain ⟨j, rfl⟩ := Nat.exists_eq_add_of_le hkq
    have hidx' : idx = j := by
      rw [hidx, hq, ← Nat.mul_sub, Nat.add_sub_cancel_left, Nat.mul_div_cancel_left _ hwidth]
    have hva' : va = geometry.width d * k + j * geometry.width d := by
      rw [hq, Nat.mul_add, Nat.mul_comm j]
    subst hidx'
    refine ⟨?_, hva', by omega, Or.inr (by omega)⟩
    by_contra hge
    have hle := Nat.mul_le_mul_right (geometry.width d) (Nat.le_of_not_lt hge)
    have hdiv := Nat.mod_le mm.baseVa (geometry.width d)
    omega
  · rw [if_neg hgt] at hva
    subst hva
    rw [Nat.sub_self, Nat.zero_div] at hidx
    subst hidx
    exact ⟨hentries, by omega, by omega, Or.inl rfl⟩

/-- It starts inside the region or before it, and not at its last byte. -/
theorem start_inside (hok : SpanOk mm) (hlo : geometry.width d ∣ lo) (hhi : lo < mm.span.hi) {va idx : ℕ}
    (hva : va = lo + idx * geometry.width d) (hfirst : idx = 0 ∨ va ≤ mm.baseVa) :
    PAGE_SIZE ∣ va ∧ va < mm.span.hi ∧ mm.endVa + 1 = mm.span.hi ∧ va < mm.endVa := by
  have hpage : PAGE_SIZE ∣ va :=
    (pageSize_dvd_width d).trans (hva ▸ Nat.dvd_add hlo (Nat.dvd_mul_left ..))
  have hsize := hok.size_pos
  have hinside : va < mm.span.hi := by
    rcases hfirst with rfl | hle
    · omega
    · exact Nat.lt_of_le_of_lt hle (Nat.lt_add_of_pos_right hsize)
  have hend : mm.endVa + 1 = mm.span.hi := by
    unfold MmapRegion.endVa MmapRegion.span
    dsimp only
    omega
  refine ⟨hpage, hinside, hend, ?_⟩
  by_contra hle
  have habove := le_of_aligned hpage (hi_aligned hok) (by omega)
  omega

/-- **A table is filled**, if the function does its work on the tables below it. -/
theorem mapLoop_fills (hok : RegionOk mm) (hd : d ≤ 3) (hlo : geometry.width d ∣ lo)
    (h : TableHolds c s t entries d kids) (hclean : FreeClean s) (hentries : 0 < entries)
    (hmeets : mm.baseVa < lo + entries * geometry.width d ∧ lo < mm.span.hi)
    (hfits : ∀ j < entries, Fits mm.span (kids j) d (lo + j * geometry.width d))
    {rec : ℕ → TableRef n → Tables n → Option (ℕ × Tables n)}
    (hrec : ∀ va, geometry.width d ∣ va → mm.span.Meets geometry d va → FillsBelow c mm rec d va)
    {va idx : ℕ}
    (hva : va = xlatTablesFindStartVa mm lo (XLAT_TABLE_LEVEL_MAX - d))
    (hidx : idx = xlatTablesVaToIndex lo va (XLAT_TABLE_LEVEL_MAX - d)) :
    ∃ e s', entryLoop (xlatBlockSize (XLAT_TABLE_LEVEL_MAX - d)) mm.endVa
        (mapEntry c mm rec (XLAT_TABLE_LEVEL_MAX - d) t) (entries - idx) idx va s = some (e, s') ∧
      ∃ kids' stop, Fills c mm t entries d lo s kids e s' kids' stop := by
  have hwidth := geometry.width_pos d
  obtain ⟨hlt, hva, hbase, hfirst⟩ := start_spec hd hlo hmeets.1 hentries hva hidx
  obtain ⟨hpageVa, hinside, hend, hne⟩ := start_inside hok.toSpanOk hlo hmeets.2 hva hfirst
  rw [blockSize_eq hd]
  -- the entries before the first are not met; those from the current one on have not changed
  refine entryLoop_rule
    (fun k v s' => v = lo + k * geometry.width d ∧ idx ≤ k ∧ v ≤ mm.span.hi ∧ ∃ kids',
      Advance c t entries d s kids s' kids' ∧ FreeClean s' ∧ (∀ j, k ≤ j → kids' j = kids j) ∧
      ∀ j < entries, j < k →
        Filled c mm mm.span.hi d (lo + j * geometry.width d) (kids j) (kids' j))
    (fun e s' => ∃ kids' stop, Fills c mm t entries d lo s kids e s' kids' stop)
    ?_ ?_ ?_ (Nat.add_sub_of_le hlt.le) hne ?_
  · rintro k v s' hk hv ⟨rfl, hle, -, kids', hadv, hclean', hlater, hfill⟩
    have hdvd : geometry.width d ∣ lo + k * geometry.width d := Nat.dvd_add hlo (Nat.dvd_mul_left ..)
    have hbefore := Nat.mul_le_mul_right (geometry.width d) hle
    have hmet : mm.span.Meets geometry d (lo + k * geometry.width d) :=
      ⟨Nat.lt_of_lt_of_le hbase (by omega), by omega⟩
    obtain ⟨ret, s'', e', stop, hret, hentry⟩ := mapEntry_fills hok hd hadv.holds hclean' hk
      hdvd hmet (hlater k (Nat.le_refl k) ▸ hfits k hk) (hrec _ hdvd hmet)
    have hfilled := hentry.fill
    rw [hlater k (Nat.le_refl k)] at hfilled
    refine ⟨ret, s'', hret, fun e he => ?_, fun hnone => ?_⟩
    · -- the function returns: the entries behind this one are out of the region, or not reached
      have hstopped := hentry.ends e he
      refine ⟨_, stop, hadv.trans hentry.adv, hentry.clean, fun j hj => ?_,
        Or.inr (hstopped.mono (Nat.le_add_right ..) ?_ (Nat.le_refl d))⟩
      · rcases Nat.lt_trichotomy j k with hjk | rfl | hkj
        · have hbefore := kid_before geometry d lo hjk
          rw [Function.update_of_ne hjk.ne]
          rcases hstopped with ⟨rfl, -⟩ | ⟨rfl, -, -, hreached, hinside, -⟩
          · exact hfill j hj hjk
          · exact (hfill j hj hjk).restop (by omega) (by omega)
        · rw [Function.update_self]
          exact hfilled
        · have hbehind := kid_before geometry d lo hkj
          rw [Function.update_of_ne hkj.ne', hlater j hkj.le]
          refine .same ?_
          rcases hstopped with ⟨-, -, hout⟩ | ⟨rfl, -, -, -, -, hout, -⟩
          · exact Or.inl fun hmeets => absurd hmeets.2 (by omega)
          · exact Or.inr (by omega)
      · exact kid_before geometry d lo hk
    · obtain ⟨rfl, hinside⟩ := hentry.next hnone
      refine ⟨by rw [Nat.succ_mul, Nat.add_assoc], hle.trans (Nat.le_succ k), hinside, _,
        hadv.trans hentry.adv, hentry.clean, fun j hj => ?_, fun j hj hjk => ?_⟩
      · rw [Function.update_of_ne (Nat.ne_of_gt hj), hlater j (Nat.le_of_succ_le hj)]
      · rcases Nat.lt_or_eq_of_le (Nat.le_of_lt_succ hjk) with hjk | rfl
        · rw [Function.update_of_ne hjk.ne]
          exact hfill j hj hjk
        · rw [Function.update_self]
          exact hfilled
  · rintro v s' ⟨rfl, -, hinside, kids', hadv, hclean', -, hfill⟩
    have hpos := Nat.mul_pos hentries hwidth
    exact ⟨kids', _, hadv, hclean', fun j hj => hfill j hj hj, Or.inl ⟨rfl, by omega, hinside⟩⟩
  · rintro k v s' hk hv ⟨rfl, -, hinside, kids', hadv, hclean', hlater, hfill⟩
    have hpage : PAGE_SIZE ∣ lo + k * geometry.width d :=
      (pageSize_dvd_width d).trans (Nat.dvd_add hlo (Nat.dvd_mul_left ..))
    have heq : lo + k * geometry.width d = mm.span.hi :=
      Nat.le_antisymm hinside (le_of_aligned hpage (hi_aligned hok.toSpanOk) (by omega))
    have hlast : lo + k * geometry.width d ≤ lo + entries * geometry.width d :=
      Nat.add_le_add_left (Nat.mul_le_mul_right _ hk) _
    refine ⟨kids', _, hadv, hclean', fun j hj => ?_, Or.inr (Or.inl ⟨rfl, by omega, by omega⟩)⟩
    rcases Nat.lt_or_ge j k with hjk | hkj
    · exact hfill j hj hjk
    · rw [hlater j hkj]
      have hbehind := Nat.mul_le_mul_right (geometry.width d) hkj
      exact .same (Or.inl fun hmeets => absurd hmeets.2 (by omega))
  · refine ⟨hva, Nat.le_refl idx, hinside.le, kids, .refl h, hclean, fun _ _ => rfl, fun j hj hjk => ?_⟩
    have hbefore := kid_before geometry d lo hjk
    refine .same (Or.inl fun hmeets => ?_)
    have hmet : mm.baseVa < lo + j * geometry.width d + geometry.width d := hmeets.1
    omega

/-- A branch that only changes the state. -/
theorem ite_bind_of_eq {α β : Type} {p : Prop} [Decidable p] {x y : Option α} {b : α}
    (h : (if p then x else y) = some b) (f : α → Option β) :
    (if p then x.bind f else y.bind f) = f b := by
  rw [← apply_ite (Option.bind · f), h, Option.bind_some]

/-- **A region is mapped in a table**, once the region has been counted. -/
theorem mapRegion_fills (hok : RegionOk mm) (hd : c.baseLevel + d ≤ 3) (hlo : geometry.width d ∣ lo)
    (hcount : (if XLAT_TABLE_LEVEL_MAX - d > c.baseLevel then xlatTableIncRegionsCount s t
      else some s) = some s₁)
    (h : TableHolds c s₁ t entries d kids) (hclean : FreeClean s₁) (hentries : 0 < entries)
    (hmeets : mm.baseVa < lo + entries * geometry.width d ∧ lo < mm.span.hi)
    (hfits : ∀ j < entries, Fits mm.span (kids j) d (lo + j * geometry.width d)) :
    ∃ e s', xlatTablesMapRegion c mm d lo t entries s = some (e, s') ∧
      ∃ kids' stop, Fills c mm t entries d lo s₁ kids e s' kids' stop := by
  induction d generalizing lo t entries s s₁ kids with
  | zero =>
    have hrec : ∀ va, geometry.width 0 ∣ va → mm.span.Meets geometry 0 va →
        FillsBelow c mm (fun _ _ _ => none) 0 va :=
      fun va _ _ d' hd' => absurd hd' (Nat.succ_ne_zero d').symm
    rw [xlatTablesMapRegion]
    simp only [Option.bind_eq_bind, ite_bind_of_eq hcount]
    exact mapLoop_fills hok (by omega) hlo h hclean hentries hmeets hfits hrec rfl rfl
  | succ d ih =>
    have hrec : ∀ va, geometry.width (d + 1) ∣ va → mm.span.Meets geometry (d + 1) va →
        FillsBelow c mm (fun va table s => xlatTablesMapRegion c mm d va table XLAT_TABLE_ENTRIES s)
          (d + 1) va := by
      intro va hva hmet d' hd' i s s₁ sub hinc hsub hclean hfits
      cases hd'
      have hlevel : XLAT_TABLE_LEVEL_MAX - d > c.baseLevel := by
        unfold XLAT_TABLE_LEVEL_MAX
        omega
      rw [Span.Meets, geometry.width_succ] at hmet
      obtain ⟨e, s', hret, sub', stop, hfills⟩ := ih (by omega)
        ((width_dvd (Nat.le_succ d)).trans hva) ((if_pos hlevel).trans hinc) hsub hclean (by decide)
        hmet hfits
      exact ⟨e, s', sub', stop, hret, hfills⟩
    rw [xlatTablesMapRegion]
    simp only [Option.bind_eq_bind, ite_bind_of_eq hcount]
    exact mapLoop_fills hok (by omega) hlo h hclean hentries hmeets hfits hrec rfl rfl

end Loop

end RmmAcs.Xlat
