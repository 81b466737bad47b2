/-
# What the tables of a context say

The tables of a context hold trees in which every leaf lies in a region, no invalid entry meets one, and
every table counts the regions that meet it (`Mapped`).  Mapping a region, unmapping one and replacing a
leaf keep this, and say what becomes of the leaf for each address.

A count may be too great, by the regions for which there were too few tables: what is undone then is what
lies before the address the mapping has come to, and a table that starts there has been counted already.
It is exact for the tables of pages, and as long as the tables suffice for all of them.  So a table of
pages is given up when it is empty.  One of blocks may be given up with a table in it that is empty and
not given up; what is left in it is then an entry for a table, and stays.
-/
import RmmAcs.Xlat.UnmapRegion
import RmmAcs.Xlat.Walk

namespace RmmAcs.Xlat

open Lib.Radix

/-! ## 1. Leaves -/

/-- A descriptor as `xlat_desc` makes them. -/
def IsLeaf (regime : Regime) (d : ℕ) (a : UInt64) : Prop :=
  ∃ pa attr, pa % geometry.width d = 0 ∧ pa < 2 ^ 48 ∧ TypeValid attr ∧
    a = UInt64.ofNat pa ||| leafType (XLAT_TABLE_LEVEL_MAX - d) ||| descAttrs regime attr

/-- The translation that a leaf gives for an address. -/
def leafTranslation (va : ℕ) (leaf : ℕ × ℕ × UInt64) : ℕ × UInt64 :=
  ((leaf.2.2 &&& TABLE_ADDR_MASK).toNat + (va - leaf.2.1), leaf.2.2 &&& ATTR_BITS)

/-- The leaf for an address, in the trees of a table that starts at 0. -/
def baseFind {n : ℕ} (kids : ℕ → Node n) (d va : ℕ) : Option (ℕ × ℕ × UInt64) :=
  (kids (va / geometry.width d)).find geometry d (va / geometry.width d * geometry.width d) va

section Leaves

variable {regime : Regime} {d lo va : ℕ} {a : UInt64} {mm : MmapRegion}

theorem leaf_addr {pa : ℕ} {attr : UInt32} (hpa : pa % geometry.width d = 0) (hlt : pa < 2 ^ 48) :
    ((UInt64.ofNat pa ||| leafType (XLAT_TABLE_LEVEL_MAX - d) ||| descAttrs regime attr)
      &&& TABLE_ADDR_MASK).toNat = pa := by
  have hpage : pa % PAGE_SIZE = 0 :=
    Nat.mod_eq_zero_of_dvd ((pageSize_dvd_width d).trans (Nat.dvd_of_mod_eq_zero hpa))
  rw [desc_addr regime attr hpage hlt, UInt64.toNat_ofNat_of_lt' (Nat.lt_trans hlt (by decide))]

theorem leaf_attrs {pa level : ℕ} {attr : UInt32} (hpa : pa % PAGE_SIZE = 0) (hlt : pa < 2 ^ 48) :
    (UInt64.ofNat pa ||| leafType level ||| descAttrs regime attr) &&& ATTR_BITS
      = descAttrs regime attr := by
  rw [desc_and regime attr hpa hlt (by decide) (by decide)]
  exact (descAttrs_within regime attr).and_eq_self (by decide)

theorem IsLeaf.page_aligned (h : IsLeaf regime d a) : (a &&& TABLE_ADDR_MASK).toNat % geometry.width d = 0 ∧
    (a &&& TABLE_ADDR_MASK).toNat < 2 ^ 48 ∧ a &&& DESC_MASK = leafType (XLAT_TABLE_LEVEL_MAX - d) := by
  obtain ⟨pa, attr, hpa, hlt, -, rfl⟩ := h
  have hpage : pa % PAGE_SIZE = 0 :=
    Nat.mod_eq_zero_of_dvd ((pageSize_dvd_width d).trans (Nat.dvd_of_mod_eq_zero hpa))
  rw [leaf_addr hpa hlt]
  exact ⟨hpa, hlt, desc_type regime attr hpage hlt⟩

/-- The leaf for an entry in a region. -/
theorem isLeaf_newDesc (hok : RegionOk mm) (hcov : mm.span.Covers geometry d lo)
    (haligned : LeafAligned mm d lo) : IsLeaf regime d (newDesc regime mm d lo) := by
  refine ⟨mm.pa lo, mm.attr.toUInt32, haligned, ?_, hok.type_valid, rfl⟩
  have hlo : mm.baseVa ≤ lo := hcov.1
  have hhi : lo + geometry.width d ≤ mm.baseVa + mm.size := hcov.2
  have hwidth := geometry.width_pos d
  have hpa := hok.pa_lt
  unfold MmapRegion.pa
  omega

/-- What it says about an address. -/
theorem leafTranslation_newDesc (hok : RegionOk mm) (hcov : mm.span.Covers geometry d lo)
    (haligned : LeafAligned mm d lo) (hva : lo ≤ va) :
    leafTranslation va (d, lo, newDesc regime mm d lo) =
      (mm.pa va, descAttrs regime mm.attr.toUInt32) := by
  have hlo : mm.baseVa ≤ lo := hcov.1
  have hhi : lo + geometry.width d ≤ mm.baseVa + mm.size := hcov.2
  have hwidth := geometry.width_pos d
  have hpa := hok.pa_lt
  have hlt : mm.pa lo < 2 ^ 48 := by
    unfold MmapRegion.pa
    omega
  have hpage : mm.pa lo % PAGE_SIZE = 0 :=
    Nat.mod_eq_zero_of_dvd ((pageSize_dvd_width d).trans (Nat.dvd_of_mod_eq_zero haligned))
  rw [leafTranslation, newDesc, leaf_addr haligned hlt, leaf_attrs hpage hlt]
  refine Prod.ext ?_ rfl
  unfold MmapRegion.pa
  dsimp only
  omega

end Leaves

/-! ## 2. The invariant of the tables -/

/-- A table of entries of a depth counts the regions that meet it; and at least these, from a depth on. -/
def Counted (spans : List Span) (exact : ℕ) (d lo : ℕ) (count : ℤ) : Prop :=
  0 < count ∧ (spans.countP fun r => r.Meets geometry (d + 1) lo : ℤ) ≤ count ∧
    (d < exact → count = (spans.countP fun r => r.Meets geometry (d + 1) lo : ℤ))

/-- A leaf lies in a region. -/
def LeafIn (regime : Regime) (spans : List Span) (d lo : ℕ) (a : UInt64) : Prop :=
  (∃ r ∈ spans, r.Covers geometry d lo) ∧ IsLeaf regime d a

/-- An invalid entry is outside of all regions. -/
def Outside (spans : List Span) (d lo : ℕ) : Prop := ∀ r ∈ spans, ¬ r.Meets geometry d lo

/-- **The tables have the leaves of regions.** -/
structure Mapped {n : ℕ} (c : Layout n) (s : Tables n) (spans : List Span) (exact : ℕ)
    (kids : ℕ → Node n) : Prop where
  holds : TableHolds c s none c.baseTableEntries (XLAT_TABLE_LEVEL_MAX - c.baseLevel) kids
  clean : FreeClean s
  all : ∀ j < c.baseTableEntries, (kids j).All geometry (Counted spans exact)
    (LeafIn c.regime spans) (Outside spans) (XLAT_TABLE_LEVEL_MAX - c.baseLevel)
    (j * geometry.width (XLAT_TABLE_LEVEL_MAX - c.baseLevel))

/-- The base table. -/
structure BaseOk {n : ℕ} (c : Layout n) : Prop where
  level_le : c.baseLevel ≤ 3
  entries_pos : 0 < c.baseTableEntries
  entries_le : c.baseTableEntries ≤ XLAT_TABLE_ENTRIES

/-- The addresses below are those of the base table. -/
def Layout.vaEnd {n : ℕ} (c : Layout n) : ℕ :=
  c.baseTableEntries * geometry.width (XLAT_TABLE_LEVEL_MAX - c.baseLevel)

section Steps

variable {n : ℕ} {c : Layout n} {s : Tables n} {spans : List Span} {exact : ℕ} {kids : ℕ → Node n}
  {mm : MmapRegion} {va : ℕ}

theorem Counted.perm {spans' : List Span} (hperm : spans.Perm spans') {d lo : ℕ} {count : ℤ}
    (h : Counted spans exact d lo count) : Counted spans' exact d lo count := by
  unfold Counted at h ⊢
  rw [← hperm.countP_eq]
  exact h

/-- The order of the regions makes no difference. -/
theorem Mapped.perm {spans' : List Span} (h : Mapped c s spans exact kids) (hperm : spans.Perm spans') :
    Mapped c s spans' exact kids := by
  refine ⟨h.holds, h.clean, fun j hj => (h.all j hj).mono (fun d lo count _ _ => .perm hperm)
    (fun d lo a _ _ => ?_) fun d lo _ _ h r hr => h r (hperm.mem_iff.mpr hr)⟩
  rintro ⟨⟨r, hr, hcov⟩, hleaf⟩
  exact ⟨⟨r, hperm.mem_iff.mp hr, hcov⟩, hleaf⟩

/-- The entry of the base table for an address. -/
theorem base_index (hva : va < c.vaEnd) :
    va / geometry.width (XLAT_TABLE_LEVEL_MAX - c.baseLevel) < c.baseTableEntries ∧
      va / geometry.width (XLAT_TABLE_LEVEL_MAX - c.baseLevel)
          * geometry.width (XLAT_TABLE_LEVEL_MAX - c.baseLevel) ≤ va ∧
      va < va / geometry.width (XLAT_TABLE_LEVEL_MAX - c.baseLevel)
          * geometry.width (XLAT_TABLE_LEVEL_MAX - c.baseLevel)
        + geometry.width (XLAT_TABLE_LEVEL_MAX - c.baseLevel) := by
  have hwidth := geometry.width_pos (XLAT_TABLE_LEVEL_MAX - c.baseLevel)
  have hmod := Nat.div_add_mod' va (geometry.width (XLAT_TABLE_LEVEL_MAX - c.baseLevel))
  have hlt := Nat.mod_lt va hwidth
  refine ⟨Nat.div_lt_of_lt_mul (by rw [Nat.mul_comm]; exact hva), by omega, by omega⟩

/-- What is found is a leaf of the tables. -/
theorem Mapped.find (h : Mapped c s spans exact kids) (hva : va < c.vaEnd) {d lo : ℕ} {a : UInt64}
    (hfind : baseFind kids (XLAT_TABLE_LEVEL_MAX - c.baseLevel) va = some (d, lo, a)) :
    LeafIn c.regime spans d lo a ∧ geometry.width d ∣ lo ∧ lo ≤ va ∧ va < lo + geometry.width d := by
  obtain ⟨hj, hrange⟩ := base_index hva
  obtain ⟨⟨hleaf, hdvd⟩, hin⟩ := ((h.all _ hj).aligned (Nat.dvd_mul_left ..)).find hrange hfind
  exact ⟨hleaf, hdvd, hin⟩

/-- Nothing is found outside of all regions. -/
theorem Mapped.find_none (h : Mapped c s spans exact kids) (hva : va < c.vaEnd)
    (hout : ∀ r ∈ spans, va ∉ r) : baseFind kids (XLAT_TABLE_LEVEL_MAX - c.baseLevel) va = none := by
  cases hfind : baseFind kids (XLAT_TABLE_LEVEL_MAX - c.baseLevel) va with
  | none => rfl
  | some leaf =>
    obtain ⟨⟨⟨r, hr, hcov⟩, -⟩, -, hin⟩ := h.find hva hfind
    exact absurd (mem_of_covers hcov hin) (hout r hr)

end Steps

/-! ## 3. Counting -/

section Counting

variable {spans : List Span} {exact exact' : ℕ} {r : Span} {d lo : ℕ} {count : ℤ}

theorem countP_meets (r : Span) (spans : List Span) (d lo : ℕ) :
    ((r :: spans).countP fun r => r.Meets geometry d lo : ℤ) =
      (spans.countP fun r => r.Meets geometry d lo : ℤ) + if r.Meets geometry d lo then 1 else 0 := by
  rw [List.countP_cons]
  by_cases hmeets : r.Meets geometry d lo
  · simp only [hmeets, decide_true, if_true, Nat.cast_add, Nat.cast_one]
  · simp only [hmeets, decide_false, Bool.false_eq_true, if_false, add_zero]

theorem Outside.countP_eq_zero (h : Outside spans d lo) :
    (spans.countP fun r => r.Meets geometry d lo) = 0 :=
  List.countP_eq_zero.mpr fun r hr hmeets => h r hr (of_decide_eq_true hmeets)

theorem Counted.same (h : Counted spans exact d lo count) (hno : ¬ r.Meets geometry (d + 1) lo)
    (hle : exact' ≤ exact) : Counted (r :: spans) exact' d lo count := by
  obtain ⟨hpos, hcount, hexact⟩ := h
  unfold Counted
  rw [countP_meets, if_neg hno, add_zero]
  exact ⟨hpos, hcount, fun hd => hexact (by omega)⟩

theorem Counted.visit (h : Counted spans exact d lo count)
    (hmeets : d < exact' → r.Meets geometry (d + 1) lo) (hle : exact' ≤ exact) :
    Counted (r :: spans) exact' d lo (count + 1) := by
  obtain ⟨hpos, hcount, hexact⟩ := h
  unfold Counted
  rw [countP_meets]
  refine ⟨by omega, ?_, fun hd => ?_⟩
  · split_ifs <;> omega
  · rw [if_pos (hmeets hd), hexact (by omega)]

theorem Counted.create (hout : Outside spans (d + 1) lo)
    (hmeets : d < exact' → r.Meets geometry (d + 1) lo) : Counted (r :: spans) exact' d lo 1 := by
  unfold Counted
  rw [countP_meets, hout.countP_eq_zero]
  refine ⟨Int.one_pos, ?_, fun hd => ?_⟩
  · split_ifs <;> decide
  · rw [if_pos (hmeets hd)]
    rfl

/-- A region less. -/
theorem Counted.leave (h : Counted (r :: spans) exact d lo count) (hmeets : r.Meets geometry (d + 1) lo)
    (hne : count ≠ 1) : Counted spans exact d lo (count - 1) := by
  obtain ⟨hpos, hcount, hexact⟩ := h
  rw [countP_meets, if_pos hmeets] at hcount hexact
  exact ⟨by omega, by omega, fun hd => by rw [hexact hd, add_sub_cancel_right]⟩

theorem Counted.drop (h : Counted (r :: spans) exact d lo count) (hno : ¬ r.Meets geometry (d + 1) lo) :
    Counted spans exact d lo count := by
  obtain ⟨hpos, hcount, hexact⟩ := h
  rw [countP_meets, if_neg hno, add_zero] at hcount hexact
  exact ⟨hpos, hcount, hexact⟩

/-- A table that only one region goes through. -/
theorem Counted.outside_of_one (h : Counted (r :: spans) exact d lo 1)
    (hmeets : r.Meets geometry (d + 1) lo) : Outside spans (d + 1) lo := by
  obtain ⟨-, hcount, -⟩ := h
  rw [countP_meets, if_pos hmeets] at hcount
  have hzero : (spans.countP fun r => r.Meets geometry (d + 1) lo) = 0 := by omega
  exact fun r' hr' hmeets' => List.countP_eq_zero.mp hzero r' hr' (decide_eq_true hmeets')

theorem Outside.within {d' lo' : ℕ} (h : Outside spans d lo) (hlo : lo ≤ lo')
    (hhi : lo' + geometry.width d' ≤ lo + geometry.width d) : Outside spans d' lo' := by
  intro r hr hmeets
  refine h r hr ?_
  unfold Span.Meets at hmeets ⊢
  omega

end Counting

/-! ## 4. Mapping -/

/-- The translation of an address, in the trees of the base table. -/
def lookup {n : ℕ} (kids : ℕ → Node n) (d va : ℕ) : Option (ℕ × UInt64) :=
  (baseFind kids d va).map (leafTranslation va)

/-- What has been mapped of a region. -/
def MmapRegion.mappedTo (mm : MmapRegion) (stop : ℕ) : Span := ⟨mm.baseVa, min stop mm.span.hi⟩

section Map

variable {n : ℕ} {c : Layout n} {s : Tables n} {spans : List Span} {exact : ℕ} {kids : ℕ → Node n}
  {mm : MmapRegion} {va : ℕ}

theorem BaseOk.depth_le (h : BaseOk c) :
    c.baseLevel + (XLAT_TABLE_LEVEL_MAX - c.baseLevel) ≤ 3 ∧
      ¬ XLAT_TABLE_LEVEL_MAX - (XLAT_TABLE_LEVEL_MAX - c.baseLevel) > c.baseLevel := by
  have hle := h.level_le
  unfold XLAT_TABLE_LEVEL_MAX
  omega

/-- A region and those that are mapped are apart, or it has them inside. -/
def FitsAround (mm : MmapRegion) (spans : List Span) : Prop :=
  ∀ r ∈ spans, (r.hi ≤ mm.span.lo ∨ mm.span.hi ≤ r.lo) ∨ mm.span.lo ≤ r.lo ∧ r.hi ≤ mm.span.hi

theorem Mapped.fits (h : Mapped c s spans exact kids) (hfits : FitsAround mm spans) {j : ℕ}
    (hj : j < c.baseTableEntries) : Fits mm.span (kids j) (XLAT_TABLE_LEVEL_MAX - c.baseLevel)
      (j * geometry.width (XLAT_TABLE_LEVEL_MAX - c.baseLevel)) := by
  refine (h.all j hj).mono (fun _ _ _ _ _ _ => trivial) (fun d lo a _ _ hleaf hmeets => ?_)
    fun _ _ _ _ _ => trivial
  obtain ⟨⟨r, hr, hcov⟩, -⟩ := hleaf
  have hwidth := geometry.width_pos d
  have hr := hfits r hr
  unfold Span.Covers at hcov ⊢
  unfold Span.Meets at hmeets
  omega

/-- **Mapping a region.**  Nothing is overwritten: an address of the region that has been reached gets
the translation of the region if it had none.  The region has been mapped if the last address of it is
returned; what is returned else is where it ran out of tables. -/
theorem Mapped.map (h : Mapped c s spans exact kids) (hbase : BaseOk c) (hok : RegionOk mm)
    (hin : mm.span.hi ≤ c.vaEnd) (hfits : FitsAround mm spans) :
    ∃ e s' kids' stop, xlatTablesMapRegion c mm (XLAT_TABLE_LEVEL_MAX - c.baseLevel) 0 none
        c.baseTableEntries s = some (e, s') ∧
      (stop = mm.span.hi ∧ e = mm.endVa ∨
        stop = e ∧ e ≠ mm.endVa ∧ geometry.width 1 ∣ e ∧ e < mm.span.hi) ∧
      (∀ exact' ≤ exact, stop = mm.span.hi ∨ exact' ≤ 1 →
        Mapped c s' (mm.mappedTo stop :: spans) exact' kids') ∧
      ∀ va < c.vaEnd, lookup kids' (XLAT_TABLE_LEVEL_MAX - c.baseLevel) va =
        if va ∈ mm.mappedTo stop ∧ lookup kids (XLAT_TABLE_LEVEL_MAX - c.baseLevel) va = none then
          some (mm.pa va, descAttrs c.regime mm.attr.toUInt32)
        else lookup kids (XLAT_TABLE_LEVEL_MAX - c.baseLevel) va := by
  obtain ⟨hdepth, hlevel⟩ := hbase.depth_le
  have hsize := hok.size_pos
  have hlo : mm.baseVa < mm.span.hi := Nat.lt_add_of_pos_right hsize
  have hzero : ∀ j, 0 + j * geometry.width (XLAT_TABLE_LEVEL_MAX - c.baseLevel) =
      j * geometry.width (XLAT_TABLE_LEVEL_MAX - c.baseLevel) := fun j => Nat.zero_add _
  obtain ⟨e, s', hret, kids', stop, hfills⟩ := mapRegion_fills hok hdepth (Nat.dvd_zero _)
    (if_neg hlevel) h.holds h.clean hbase.entries_pos
    ⟨by rw [hzero]; exact Nat.lt_of_lt_of_le hlo hin, Nat.zero_lt_of_lt hlo⟩
    (fun j hj => by rw [hzero]; exact h.fits hfits hj)
  have hends : stop = mm.span.hi ∧ e = mm.endVa ∨
      stop = e ∧ e ≠ mm.endVa ∧ geometry.width 1 ∣ e ∧ e < mm.span.hi := by
    have hend : mm.endVa + 1 = mm.span.hi := by
      unfold MmapRegion.endVa MmapRegion.span
      dsimp only
      omega
    have hvaEnd : c.vaEnd = c.baseTableEntries * geometry.width (XLAT_TABLE_LEVEL_MAX - c.baseLevel) := rfl
    rcases hfills.came with ⟨hstop, he, hle⟩ | ⟨hstop, he, hle⟩ | ⟨hstop, -, hdvd, -, hlt, -⟩
    · rw [hzero] at he hle
      exact Or.inl ⟨hstop, by omega⟩
    · exact Or.inl ⟨hstop, by omega⟩
    · refine Or.inr ⟨hstop, fun heq => ?_, hdvd, hlt⟩
      have hpage := hi_aligned hok.toSpanOk
      rw [← hend, ← heq] at hpage
      exact absurd ((Nat.dvd_add_right ((pageSize_dvd_width 1).trans hdvd)).mp hpage) (by decide)
  have hmapped : ∀ exact' ≤ exact, stop = mm.span.hi ∨ exact' ≤ 1 →
      Mapped c s' (mm.mappedTo stop :: spans) exact' kids' := by
    intro exact' hle hstop
    -- the tables that have been entered are met by what has been mapped, as far as the counts are exact
    have hvisits : ∀ d lo, Visits geometry mm.span stop d lo → d < exact' →
        (mm.mappedTo stop).Meets geometry (d + 1) lo := by
      rintro d lo ⟨⟨hmeets, hhi⟩, hreached⟩ hd
      refine ⟨hmeets, ?_⟩
      unfold MmapRegion.mappedTo
      dsimp only
      omega
    have hno : ∀ d lo, ¬ mm.span.Meets geometry d lo ∨ stop ≤ lo →
        ¬ (mm.mappedTo stop).Meets geometry d lo := by
      rintro d lo hno ⟨hmeets, hhi⟩
      unfold MmapRegion.mappedTo at hhi hmeets
      dsimp only at hhi hmeets
      rcases hno with hno | hstop
      · exact hno ⟨hmeets, by omega⟩
      · omega
    refine ⟨hfills.adv.holds, hfills.clean, fun j hj => ?_⟩
    have hfill := hfills.fill j hj
    rw [hzero] at hfill
    refine hfill.all (h.all j hj) (fun d lo count hout hcount => hcount.same (hno (d + 1) lo hout) hle)
      (fun d lo count hvisit hcount => hcount.visit (hvisits d lo hvisit) hle)
      (fun d lo hvisit hout => .create hout (hvisits d lo hvisit)) ?_ ?_ ?_ ?_
    · rintro d lo a ⟨⟨r, hr, hcov⟩, hleaf⟩
      exact ⟨⟨r, List.mem_cons_of_mem _ hr, hcov⟩, hleaf⟩
    · intro d lo hcov haligned hreached _
      refine ⟨⟨_, List.mem_cons_self .., hcov.1, ?_⟩, isLeaf_newDesc hok hcov haligned⟩
      exact Nat.le_min.mpr ⟨hreached, hcov.2⟩
    · intro d lo hout houtside r hr
      rcases List.mem_cons.mp hr with rfl | hr
      · exact hno d lo hout
      · exact houtside r hr
    · exact fun d lo hout j hj => hout.within (kid_range geometry d lo hj).1 (kid_range geometry d lo hj).2
  refine ⟨e, s', kids', stop, hret, hends, hmapped, fun va hva => ?_⟩
  obtain ⟨hj, hrange⟩ := base_index hva
  have hfill := hfills.fill _ hj
  rw [hzero] at hfill
  obtain ⟨hnew, hold⟩ := hfill.find hrange
  have hmem : va ∈ mm.mappedTo stop ↔ va ∈ mm.span ∧ va < stop := by
    rw [Span.mem_iff, Span.mem_iff]
    unfold MmapRegion.mappedTo
    dsimp only
    exact ⟨fun h => ⟨⟨h.1, by omega⟩, by omega⟩, fun h => ⟨h.1.1, by omega⟩⟩
  have hnone : lookup kids (XLAT_TABLE_LEVEL_MAX - c.baseLevel) va = none ↔
      baseFind kids (XLAT_TABLE_LEVEL_MAX - c.baseLevel) va = none := Option.map_eq_none_iff
  by_cases hgets : va ∈ mm.mappedTo stop ∧
      lookup kids (XLAT_TABLE_LEVEL_MAX - c.baseLevel) va = none
  · rw [if_pos hgets]
    obtain ⟨hin, hlt⟩ := hmem.mp hgets.1
    obtain ⟨d', lo', hfind, hcov, haligned⟩ := hnew ⟨hin, hlt, hnone.mp hgets.2⟩
    have hfind' : baseFind kids' (XLAT_TABLE_LEVEL_MAX - c.baseLevel) va =
        some (d', lo', newDesc c.regime mm d' lo') := hfind
    obtain ⟨-, -, hlo', -⟩ := (hmapped 0 (Nat.zero_le _) (Or.inr (Nat.zero_le _))).find hva hfind'
    rw [lookup, hfind', Option.map_some, leafTranslation_newDesc hok hcov haligned hlo']
  · rw [if_neg hgets, lookup, lookup]
    have hsame : baseFind kids' (XLAT_TABLE_LEVEL_MAX - c.baseLevel) va =
        baseFind kids (XLAT_TABLE_LEVEL_MAX - c.baseLevel) va := hold fun h =>
          hgets ⟨hmem.mpr ⟨h.1, h.2.1⟩, hnone.mpr h.2.2⟩
    rw [hsame]

end Map

/-! ## 5. Unmapping -/

section Unmap

variable {n : ℕ} {c : Layout n} {s : Tables n} {spans : List Span} {exact : ℕ} {kids : ℕ → Node n}
  {mm : MmapRegion} {r : Span} {d lo va : ℕ} {e : Node n}

theorem le_of_width_le {d d' : ℕ} (h : geometry.width d' ≤ geometry.width d) : d' ≤ d := by
  by_contra hlt
  have hpow : geometry.width d < geometry.width d' := Nat.pow_lt_pow_right (by decide) (by omega)
  omega

/-- What is in a table that only one region goes through, is of that region. -/
theorem dies_of_outside (hout : Outside spans (d + 1) lo) {j : ℕ} (hj : j < XLAT_TABLE_ENTRIES)
    (hexact : d ≤ exact)
    (h : e.All geometry (Counted (r :: spans) exact) (LeafIn c.regime (r :: spans)) (Outside (r :: spans))
      d (lo + j * geometry.width d)) : e.Dies geometry r d (lo + j * geometry.width d) := by
  obtain ⟨hlo, hhi⟩ := kid_range geometry d lo hj
  refine h.mono (fun d' lo' count hlo' hhi' hcount => ?_) (fun d' lo' a hlo' hhi' hleaf => ?_)
    fun _ _ _ _ _ => trivial
  · have hout' : Outside spans (d' + 1) lo' := hout.within (hlo.trans hlo') (hhi'.trans hhi)
    have hwidth : geometry.width (d' + 1) ≤ geometry.width d := by omega
    have hlt : d' < exact := Nat.lt_of_lt_of_le (le_of_width_le hwidth) hexact
    obtain ⟨hpos, -, heq⟩ := hcount
    have heq := heq hlt
    rw [countP_meets, hout'.countP_eq_zero] at heq
    split_ifs at heq with hmeets
    · exact ⟨heq, hmeets⟩
    · exact absurd hpos (by rw [heq]; decide)
  · obtain ⟨⟨r', hr', hcov⟩, -⟩ := hleaf
    rcases List.mem_cons.mp hr' with rfl | hr'
    · exact hcov
    · exact absurd (meets_of_covers hcov) (hout.within (hlo.trans hlo') (hhi'.trans hhi) r' hr')

/-- Two regions that share no address. -/
def SpansApart (r : Span) (spans : List Span) : Prop := ∀ r' ∈ spans, r'.hi ≤ r.lo ∨ r.hi ≤ r'.lo

theorem SpansApart.outside (h : SpansApart r spans) (hcov : r.Covers geometry d lo) :
    Outside spans d lo := by
  intro r' hr' hmeets
  have happart := h r' hr'
  unfold Span.Covers at hcov
  unfold Span.Meets at hmeets
  omega

/-- **The region can be unmapped**, if the counts are exact below the tables that can be given up. -/
theorem Mapped.ready (h : Mapped c s (r :: spans) exact kids) (hapart : SpansApart r spans)
    (hexact : 2 ≤ c.baseLevel + exact) {j : ℕ} (hj : j < c.baseTableEntries) :
    (kids j).Ready geometry r (XLAT_TABLE_LEVEL_MAX - c.baseLevel)
      (j * geometry.width (XLAT_TABLE_LEVEL_MAX - c.baseLevel)) := by
  -- how deep a table can be
  have hall : (kids j).All geometry (fun d lo count => Counted (r :: spans) exact d lo count ∧ d ≤ exact)
      (LeafIn c.regime (r :: spans)) (Outside (r :: spans)) (XLAT_TABLE_LEVEL_MAX - c.baseLevel)
      (j * geometry.width (XLAT_TABLE_LEVEL_MAX - c.baseLevel)) := by
    refine (h.all j hj).mono (fun d lo count hlo hhi hcount => ⟨hcount, ?_⟩) (fun _ _ _ _ _ h => h)
      fun _ _ _ _ h => h
    have hwidth : geometry.width (d + 1) ≤ geometry.width (XLAT_TABLE_LEVEL_MAX - c.baseLevel) := by omega
    have hle := le_of_width_le hwidth
    unfold XLAT_TABLE_LEVEL_MAX at hle
    omega
  refine hall.ready (fun d lo count h => h.1.1) (fun d lo a hleaf hmeets => ?_)
    (fun d lo hout => hout r (List.mem_cons_self ..)) fun d lo hcount hmeets e j hj he => ?_
  · obtain ⟨⟨r', hr', hcov⟩, -⟩ := hleaf
    rcases List.mem_cons.mp hr' with rfl | hr'
    · exact hcov
    · have happart := hapart r' hr'
      unfold Span.Covers at hcov ⊢
      unfold Span.Meets at hmeets
      omega
  · have he : e.All geometry (Counted (r :: spans) exact) (LeafIn c.regime (r :: spans))
        (Outside (r :: spans)) d (lo + j * geometry.width d) :=
      he.mono (fun _ _ _ _ _ h => h.1) (fun _ _ _ _ _ h => h) (fun _ _ _ _ h => h)
    exact dies_of_outside (hcount.1.outside_of_one hmeets) hj hcount.2 he

/-- **Unmapping a region**: its addresses have no translation any more, and the others have theirs. -/
theorem Mapped.unmap (h : Mapped c s (r :: spans) exact kids) (hbase : BaseOk c) (hok : SpanOk mm)
    (hspan : mm.span = r) (hin : r.hi ≤ c.vaEnd) (hapart : SpansApart r spans)
    (hexact : 2 ≤ c.baseLevel + exact) :
    ∃ s' kids', xlatTablesUnmapRegion c mm (XLAT_TABLE_LEVEL_MAX - c.baseLevel) 0 none
        c.baseTableEntries s = some s' ∧ Mapped c s' spans exact kids' ∧
      ∀ va < c.vaEnd, lookup kids' (XLAT_TABLE_LEVEL_MAX - c.baseLevel) va =
        if va ∈ r then none else lookup kids (XLAT_TABLE_LEVEL_MAX - c.baseLevel) va := by
  subst hspan
  obtain ⟨hdepth, hlevel⟩ := hbase.depth_le
  have hlo : mm.baseVa < mm.span.hi := Nat.lt_add_of_pos_right hok.size_pos
  have hzero : ∀ j, 0 + j * geometry.width (XLAT_TABLE_LEVEL_MAX - c.baseLevel) =
      j * geometry.width (XLAT_TABLE_LEVEL_MAX - c.baseLevel) := fun j => Nat.zero_add _
  obtain ⟨s', kids', hclears, hret⟩ := unmapRegion_clears hok hdepth (Nat.dvd_zero _) h.holds h.clean
    hbase.entries_pos ⟨by rw [hzero]; exact Nat.lt_of_lt_of_le hlo hin, Nat.zero_lt_of_lt hlo⟩
    (fun j hj => by rw [hzero]; exact h.ready hapart hexact hj)
  rw [if_neg hlevel] at hret
  refine ⟨s', kids', hret, ⟨hclears.adv.holds, hclears.clean, fun j hj => ?_⟩, fun va hva => ?_⟩
  · have hclear := hclears.clear j hj
    rw [hzero] at hclear
    refine hclear.all (h.all j hj) (fun d lo count hno hcount => hcount.drop hno)
      (fun d lo count hmeets hne hcount => hcount.leave hmeets hne)
      (fun d lo hmeets hcount => hcount.outside_of_one hmeets) (fun d lo a hno hleaf => ?_)
      (fun d lo a hcov _ => hapart.outside hcov)
      fun d lo _ hout r hr => hout r (List.mem_cons_of_mem _ hr)
    obtain ⟨⟨r, hr, hcov⟩, hleaf⟩ := hleaf
    rcases List.mem_cons.mp hr with rfl | hr
    · exact absurd (meets_of_covers hcov) hno
    · exact ⟨⟨r, hr, hcov⟩, hleaf⟩
  · obtain ⟨hj, hrange⟩ := base_index hva
    have hclear := hclears.clear _ hj
    rw [hzero] at hclear
    have hfind : baseFind kids' (XLAT_TABLE_LEVEL_MAX - c.baseLevel) va =
        if va ∈ mm.span then none else baseFind kids (XLAT_TABLE_LEVEL_MAX - c.baseLevel) va :=
      hclear.find hrange
    rw [lookup, lookup, hfind]
    split_ifs
    · rfl
    · rfl

/-- Nothing of a region has been mapped. -/
theorem Mapped.forget (h : Mapped c s (r :: spans) exact kids) (hexact : exact ≤ 1)
    (hempty : r.hi ≤ r.lo) (hdvd : geometry.width 1 ∣ r.hi) : Mapped c s spans exact kids := by
  obtain ⟨k, hk⟩ : geometry.width (0 + 1) ∣ r.hi := hdvd
  refine ⟨h.holds, h.clean, fun j hj => ?_⟩
  refine ((h.all j hj).aligned (Nat.dvd_mul_left ..)).mono (fun d lo count _ _ hcount => ?_)
    (fun d lo a _ _ hleaf => ?_) fun d lo _ _ hout r hr => hout.1 r (List.mem_cons_of_mem _ hr)
  · obtain ⟨⟨hpos, hcount, heq⟩, halign⟩ := hcount
    rw [countP_meets] at hcount heq
    refine ⟨hpos, ?_, fun hd => ?_⟩
    · split_ifs at hcount <;> omega
    · -- a table of pages that starts before the end of the region ends before it as well
      have hd0 : d = 0 := by omega
      subst hd0
      have hno : ¬ r.Meets geometry (0 + 1) lo := by
        rintro ⟨hmeets, hlt⟩
        obtain ⟨q, hq⟩ : geometry.width (0 + 1) ∣ lo := halign
        have hqk : q < k := by
          by_contra hge
          have hle := Nat.mul_le_mul_left (geometry.width (0 + 1)) (Nat.le_of_not_lt hge)
          rw [← hq] at hle
          omega
        have hle := Nat.mul_le_mul_left (geometry.width (0 + 1)) hqk
        rw [Nat.mul_succ, ← hq] at hle
        omega
      rw [heq hd, if_neg hno, add_zero]
  · obtain ⟨⟨⟨r', hr', hcov⟩, hleaf⟩, -⟩ := hleaf
    rcases List.mem_cons.mp hr' with rfl | hr'
    · have hwidth := geometry.width_pos d
      unfold Span.Covers at hcov
      omega
    · exact ⟨⟨r', hr', hcov⟩, hleaf⟩

end Unmap

end RmmAcs.Xlat
