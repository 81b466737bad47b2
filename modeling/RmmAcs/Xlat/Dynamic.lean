/-
# Dynamic regions

A context is live when its tables say of every region of the array what is to be said, and nothing else
(`Live`).  Adding and removing keep it so: a call that succeeds changes the translations of its region, a
call that fails changes none, and no assertion fails (`dynamic_regions`).

With a base table of level 0 this ends with the first region for which there are too few tables.  What is
taken back then may leave a table of level 2 without regions, but counted; and when the table of level 1
above it is given up, its descriptor is left behind.
-/
import RmmAcs.Xlat.Initial

namespace RmmAcs.Xlat

open Lib.Radix

/-- How far the counts are exact: below the tables that can be given up. -/
def exactDepth {n : ℕ} (c : Layout n) : ℕ := 2 - c.baseLevel

/-- **A live context.** -/
structure Live {n : ℕ} (ctx : Ctx n) : Prop where
  base : CtxOk ctx
  limits : Limits ctx
  array : ArrayOk ctx
  initialized : ctx.initialized = true
  mapped : ∃ kids, Mapped ctx.layout ctx.tables (ctx.mmap.map MmapRegion.span) (exactDepth ctx.layout) kids

/-- The tables suffice for a region. -/
def Ctx.Suffices {n : ℕ} (ctx : Ctx n) (mm : MmapRegion) : Prop :=
  ∃ s, ctx.mapRegion mm.toDynamic ctx.tables = some (mm.toDynamic.endVa, s)

/-- All translations are those of another context. -/
def SameTranslations {n : ℕ} (ctx ctx' : Ctx n) : Prop :=
  ∀ va ≤ ctx.vaMaxAddress, ctx'.translate va = ctx.translate va

/-- Another state of the same context. -/
def SameSpace {n : ℕ} (ctx ctx' : Ctx n) : Prop :=
  ctx'.layout.regime = ctx.layout.regime ∧ ctx'.vaMaxAddress = ctx.vaMaxAddress

section Add

variable {n : ℕ} {ctx : Ctx n} {mm : MmapRegion}

theorem toDynamic_dynamic (mm : MmapRegion) : mm.toDynamic.Dynamic := by
  have hmask : (mm.attr ||| MT_DYNAMIC) &&& MT_DYNAMIC = MT_DYNAMIC := by
    rw [or_and, UInt64.and_self]
    have hself : (mm.attr &&& MT_DYNAMIC) ||| MT_DYNAMIC = MT_DYNAMIC := by
      rw [UInt64.or_comm, ← UInt64.toBitVec_inj]
      ext i
      simp only [UInt64.toBitVec_or, UInt64.toBitVec_and, BitVec.getElem_or, BitVec.getElem_and]
      cases MT_DYNAMIC.toBitVec[i] <;> simp
    exact hself
  have hne : MT_DYNAMIC ≠ 0 := by decide
  unfold MmapRegion.Dynamic MmapRegion.toDynamic
  rw [hmask]
  exact hne

/-- A region and a dynamic one are apart. -/
theorem spansApart_of_dynamic {mmap : List MmapRegion} (hdyn : mm.Dynamic)
    (h : ∀ x ∈ mmap, Apart mm x ∨ Inside mm x ∨ Inside x mm) :
    SpansApart mm.span (mmap.map MmapRegion.span) := by
  intro r hr
  obtain ⟨x, hx, rfl⟩ := List.mem_map.mp hr
  unfold MmapRegion.span
  dsimp only
  rcases h x hx with ⟨hapart, -⟩ | hin | hin
  · omega
  · exact absurd hdyn hin.inner_static
  · exact absurd hdyn hin.outer_static

/-- A dynamic region of the array is apart from the others. -/
theorem ArrayOk.apart_of_dynamic (h : ArrayOk ctx) {before after : List MmapRegion}
    (hsplit : ctx.mmap = before ++ mm :: after) (hdyn : mm.Dynamic) :
    SpansApart mm.span ((before ++ after).map MmapRegion.span) := by
  have hpairwise := h.pairwise
  rw [hsplit] at hpairwise
  obtain ⟨-, hlater, hearlier⟩ := List.pairwise_append.mp hpairwise
  refine spansApart_of_dynamic hdyn fun x hx => ?_
  rcases List.mem_append.mp hx with hx | hx
  · rcases (hearlier x hx mm (List.mem_cons_self ..)).2 with hapart | hin
    · exact Or.inl ⟨hapart.1.symm, hapart.2.symm⟩
    · exact Or.inr (Or.inr hin)
  · rcases ((List.pairwise_cons.mp hlater).1 x hx).2 with hapart | hin
    · exact Or.inl hapart
    · exact Or.inr (Or.inl hin)

/-- The region of an address, where one region is apart from the others. -/
theorem find_middle {before after : List MmapRegion} {va : ℕ}
    (hapart : SpansApart mm.span ((before ++ after).map MmapRegion.span)) :
    (before ++ mm :: after).find? (fun a => va ∈ a.span) =
        (if va ∈ mm.span then some mm else (before ++ after).find? fun a => va ∈ a.span) ∧
      (va ∈ mm.span → (before ++ after).find? (fun a => va ∈ a.span) = none) := by
  have hnone : va ∈ mm.span → ∀ a ∈ before ++ after, ¬ decide (va ∈ a.span) = true := by
    intro hva a ha hmem
    have hmem := of_decide_eq_true hmem
    have happart := hapart a.span (List.mem_map_of_mem ha)
    rw [Span.mem_iff] at hva hmem
    omega
  refine ⟨?_, fun hva => List.find?_eq_none.mpr (hnone hva)⟩
  rw [List.find?_append, List.find?_append]
  by_cases hva : va ∈ mm.span
  · have hbefore : before.find? (fun a => va ∈ a.span) = none :=
      List.find?_eq_none.mpr fun a ha => hnone hva a (List.mem_append_left _ ha)
    rw [hbefore, if_pos hva, Option.none_or]
    exact List.find?_cons_of_pos (decide_eq_true hva)
  · rw [if_neg hva, List.find?_cons_of_neg (by rw [decide_eq_true_eq]; exact hva)]

/-- Where a region is put. -/
theorem insertRegion_split (mm : MmapRegion) (mmap : List MmapRegion) :
    ∃ before after, insertRegion mm mmap = before ++ mm :: after ∧ mmap = before ++ after := by
  unfold insertRegion
  refine ⟨_, _, rfl, ?_⟩
  rw [List.append_assoc, List.takeWhile_append_dropWhile, List.takeWhile_append_dropWhile]

theorem Live.lookup_eq (h : Live ctx) {kids : ℕ → Node n}
    (hmapped : Mapped ctx.layout ctx.tables (ctx.mmap.map MmapRegion.span) (exactDepth ctx.layout) kids)
    {va : ℕ} (hva : va ≤ ctx.vaMaxAddress) :
    va < ctx.layout.vaEnd ∧
      ctx.translate va = lookup kids (XLAT_TABLE_LEVEL_MAX - ctx.layout.baseLevel) va := by
  have hlt : va < ctx.layout.vaEnd := Nat.lt_of_lt_of_le (Nat.lt_succ_of_le hva) h.base.va_le
  exact ⟨hlt, translate_eq hmapped h.base hlt⟩

/-- Other tables with the same regions. -/
theorem Live.withTables (h : Live ctx) {s : Tables n} {kids : ℕ → Node n}
    (hmapped : Mapped ctx.layout s (ctx.mmap.map MmapRegion.span) (exactDepth ctx.layout) kids) {b : Bool}
    (hb : b = true) : Live { ctx with tables := s, initialized := b } :=
  ⟨⟨h.base.base, h.base.level, h.base.va_le⟩, ⟨h.limits.pa_lt, h.limits.va_lt, h.limits.num_pos⟩,
    h.array.of_tables, hb, kids, hmapped⟩

/-- The tables have changed, and say the same. -/
theorem Live.of_same (h : Live ctx) {s : Tables n} {kids kids' : ℕ → Node n}
    (hmapped : Mapped ctx.layout ctx.tables (ctx.mmap.map MmapRegion.span) (exactDepth ctx.layout) kids)
    (hmapped' : Mapped ctx.layout s (ctx.mmap.map MmapRegion.span) (exactDepth ctx.layout) kids')
    (hsame : ∀ va < ctx.layout.vaEnd,
      lookup kids' (XLAT_TABLE_LEVEL_MAX - ctx.layout.baseLevel) va =
        lookup kids (XLAT_TABLE_LEVEL_MAX - ctx.layout.baseLevel) va) :
    Live { ctx with tables := s } ∧ SameTranslations ctx { ctx with tables := s } := by
  have hlive : Live { ctx with tables := s } := h.withTables hmapped' h.initialized
  refine ⟨hlive, fun va hva => ?_⟩
  obtain ⟨hlt, htranslate⟩ := h.lookup_eq hmapped hva
  rw [htranslate, (hlive.lookup_eq hmapped' hva).2]
  exact hsame va hlt

/-- Nothing has been mapped apart from the regions. -/
theorem Mapped.lookup_none {c : Layout n} {s : Tables n} {spans : List Span} {exact : ℕ}
    {kids : ℕ → Node n} (h : Mapped c s spans exact kids) {r : Span} (hapart : SpansApart r spans) {va : ℕ}
    (hva : va < c.vaEnd) (hmem : va ∈ r) : lookup kids (XLAT_TABLE_LEVEL_MAX - c.baseLevel) va = none := by
  refine Option.map_eq_none_iff.mpr (h.find_none hva fun r' hr hmem' => ?_)
  have happart := hapart r' hr
  rw [Span.mem_iff] at hmem hmem'
  omega

/-- **What has been mapped of a region is taken back.** -/
theorem Mapped.takeBack {c : Layout n} {s : Tables n} {spans : List Span} {exact stop : ℕ}
    {kids : ℕ → Node n} (h : Mapped c s (⟨mm.baseVa, stop⟩ :: spans) exact kids) (hbase : BaseOk c)
    (haligned : PAGE_SIZE ∣ mm.baseVa) (hdvd : geometry.width 1 ∣ stop) (hin : stop ≤ c.vaEnd)
    (hapart : SpansApart ⟨mm.baseVa, stop⟩ spans) (hle : exact ≤ 1) (hexact : 2 ≤ c.baseLevel + exact) :
    ∃ s' kids', (if mm.baseVa ≥ stop then some s else
        xlatTablesUnmapRegion c (unmapMm mm stop) (XLAT_TABLE_LEVEL_MAX - c.baseLevel) 0 none
          c.baseTableEntries s) = some s' ∧
      Mapped c s' spans exact kids' ∧
      ∀ va < c.vaEnd, lookup kids' (XLAT_TABLE_LEVEL_MAX - c.baseLevel) va =
        if va ∈ (⟨mm.baseVa, stop⟩ : Span) then none
        else lookup kids (XLAT_TABLE_LEVEL_MAX - c.baseLevel) va := by
  by_cases hnothing : mm.baseVa ≥ stop
  · refine ⟨s, kids, if_pos hnothing, h.forget hle hnothing hdvd, fun va hva => ?_⟩
    rw [if_neg]
    intro hmem
    rw [Span.mem_iff] at hmem
    dsimp only at hmem
    omega
  · have hok : SpanOk (unmapMm mm stop) :=
      ⟨haligned, Nat.dvd_sub ((pageSize_dvd_width 1).trans hdvd) haligned,
        Nat.sub_pos_of_lt (Nat.lt_of_not_le hnothing)⟩
    have hspan : (unmapMm mm stop).span = ⟨mm.baseVa, stop⟩ := by
      unfold MmapRegion.span unmapMm
      dsimp only
      rw [Nat.add_sub_cancel' (Nat.le_of_not_le hnothing)]
    rw [if_neg hnothing]
    exact h.unmap hbase hok hspan hin hapart hexact

/-- **A region is mapped in a live context**, or it leaves no trace. -/
theorem Live.mapDynamicRegion (h : Live ctx) (hdyn : mm.Dynamic)
    (hmm : RegionChecked ctx.paMaxAddress ctx.vaMaxAddress mm) (htype : TypeValid mm.attr.toUInt32)
    (hcases : ∀ x ∈ ctx.mmap, Apart mm x ∨ Inside mm x ∨ Inside x mm)
    (hadd : ArrayOk (ctx.addToMmap mm))
    (henough : 1 ≤ ctx.layout.baseLevel ∨ ∃ s, ctx.mapRegion mm ctx.tables = some (mm.endVa, s)) :
    ∃ ret ctx', ctx.mapDynamicRegion mm = some (ret, ctx') ∧ Live ctx' ∧ SameSpace ctx ctx' ∧
      (ret = 0 ∧ ctx'.mmap = insertRegion mm ctx.mmap ∧
          (∀ va ≤ ctx.vaMaxAddress, ctx'.translate va = if va ∈ mm.span then
            some (regionTranslation ctx.layout.regime mm va) else ctx.translate va) ∨
        ret = -ENOMEM ∧ ctx'.mmap = ctx.mmap ∧ SameTranslations ctx ctx') := by
  obtain ⟨kids, hmapped⟩ := h.mapped
  have hapart := spansApart_of_dynamic hdyn hcases
  have hok := hmm.ok h.limits htype
  have hin := hmm.span_le h.base
  obtain ⟨e, s', kids', stop, hret, hends, hmap, hlookup⟩ := hmapped.map h.base.base hok hin
    fun r hr => Or.inl (hapart r hr)
  have hret' : ctx.mapRegion mm ctx.tables = some (e, s') := hret
  unfold Ctx.mapDynamicRegion
  rw [hret']
  rcases hends with ⟨hstop, he⟩ | ⟨hstop, hne, hdvd, hlt⟩
  · -- it has been mapped
    subst he
    simp only [Option.bind_eq_bind, Option.bind_some, ne_eq, not_true_eq_false, if_false]
    have hspan : mm.mappedTo stop = mm.span := by
      rw [hstop, MmapRegion.mappedTo, Nat.min_self]
      rfl
    have hmapped' := hmap _ (Nat.le_refl _) (Or.inl hstop)
    rw [hspan] at hmapped' hlookup
    have hperm : (mm.span :: ctx.mmap.map MmapRegion.span).Perm
        ((ctx.addToMmap mm).mmap.map MmapRegion.span) :=
      ((insertRegion_perm mm ctx.mmap).map MmapRegion.span).symm
    have hlive : Live { ctx.addToMmap mm with tables := s' } :=
      ⟨⟨h.base.base, h.base.level, h.base.va_le⟩, ⟨h.limits.pa_lt, h.limits.va_lt, h.limits.num_pos⟩,
        hadd.of_tables, h.initialized, kids', hmapped'.perm hperm⟩
    refine ⟨0, _, rfl, hlive, ⟨rfl, rfl⟩, Or.inl ⟨rfl, rfl, fun va hva => ?_⟩⟩
    obtain ⟨hltVa, htranslate⟩ := h.lookup_eq hmapped hva
    rw [(hlive.lookup_eq (hmapped'.perm hperm) hva).2, htranslate]
    have hva' := hlookup va hltVa
    by_cases hmem : va ∈ mm.span
    · rw [if_pos ⟨hmem, hmapped.lookup_none hapart hltVa hmem⟩] at hva'
      rw [if_pos hmem]
      exact hva'
    · rw [if_neg fun h => hmem h.1] at hva'
      rw [if_neg hmem]
      exact hva'
  · -- there were too few tables
    subst hstop
    have hlevel : 1 ≤ ctx.layout.baseLevel := by
      refine henough.resolve_right ?_
      rintro ⟨s, hs⟩
      have heq := hret'.symm.trans hs
      cases heq
      exact hne rfl
    have hexact : exactDepth ctx.layout ≤ 1 := by
      unfold exactDepth
      omega
    have hspan : mm.mappedTo stop = ⟨mm.baseVa, stop⟩ := by
      rw [MmapRegion.mappedTo, Nat.min_eq_left hlt.le]
    have hmapped' := hmap _ (Nat.le_refl _) (Or.inr hexact)
    rw [hspan] at hmapped' hlookup
    simp only [Option.bind_eq_bind, Option.bind_some, ne_eq, hne, not_false_eq_true, if_true]
    have hapart' : SpansApart ⟨mm.baseVa, stop⟩ (ctx.mmap.map MmapRegion.span) := by
      intro r hr
      have happart := hapart r hr
      have hlo : mm.span.lo = mm.baseVa := rfl
      dsimp only
      omega
    obtain ⟨s'', kids'', hback, hmapped'', hlookup'⟩ := hmapped'.takeBack h.base.base hok.va_aligned hdvd
      (hlt.le.trans hin) hapart' hexact (by unfold exactDepth; omega)
    obtain ⟨hlive, hsame⟩ := h.of_same hmapped hmapped'' fun va hva => by
      rw [hlookup' va hva]
      by_cases hmem : va ∈ (⟨mm.baseVa, stop⟩ : Span)
      · rw [if_pos hmem]
        exact (hmapped.lookup_none hapart' hva hmem).symm
      · rw [if_neg hmem, hlookup va hva, if_neg fun h => hmem h.1]
    by_cases hnothing : mm.baseVa ≥ stop
    · rw [if_pos hnothing] at hback ⊢
      cases hback
      exact ⟨_, _, rfl, hlive, ⟨rfl, rfl⟩, Or.inr ⟨rfl, rfl, hsame⟩⟩
    · rw [if_neg hnothing] at hback ⊢
      have hback' : ctx.unmapRegion (unmapMm mm stop) s' = some s'' := hback
      rw [hback']
      exact ⟨_, _, rfl, hlive, ⟨rfl, rfl⟩, Or.inr ⟨rfl, rfl, hsame⟩⟩

end Add

section Calls

variable {n : ℕ} {ctx ctx' : Ctx n}

/-- A call for dynamic regions. -/
inductive DynamicCall where
  | add (mm : MmapRegion)
  | remove (baseVa size : ℕ)

/-- Its place among the functions of the library. -/
def DynamicCall.toCall : DynamicCall → Call
  | .add mm => .addDynamicRegion mm
  | .remove baseVa size => .removeDynamicRegion baseVa size

/-- Sizes have 64 bits, and memory has one of the types there are. -/
def DynamicCall.Valid : DynamicCall → Prop
  | .add mm => mm.size < 2 ^ 64 ∧ TypeValid mm.toDynamic.attr.toUInt32
  | .remove _ _ => True

/-- With a base table of level 0 the tables have to suffice. -/
def DynamicCall.Enough (ctx : Ctx n) : DynamicCall → Prop
  | .add mm => 1 ≤ ctx.layout.baseLevel ∨ ctx.Suffices mm
  | .remove _ _ => True

/-- **What a call does**: if it succeeds, its region is added or removed, with the translations of its
addresses and no others; if it fails, nothing. -/
def DynamicCall.Does (ctx : Ctx n) (ret : ℤ) (ctx' : Ctx n) : DynamicCall → Prop
  | .add mm =>
    if ret = 0 ∧ mm.size ≠ 0 then
      ctx'.mmap = insertRegion mm.toDynamic ctx.mmap ∧ ∀ va ≤ ctx.vaMaxAddress,
        ctx'.translate va = if va ∈ mm.span then
          some (regionTranslation ctx.layout.regime mm.toDynamic va) else ctx.translate va
    else ctx'.mmap = ctx.mmap ∧ SameTranslations ctx ctx'
  | .remove baseVa size =>
    if ret = 0 then ∃ before mm after, ctx.mmap = before ++ mm :: after ∧ ctx'.mmap = before ++ after ∧
      mm.baseVa = baseVa ∧ mm.size = size ∧ mm.Dynamic ∧ ∀ va ≤ ctx.vaMaxAddress,
        ctx'.translate va = if va ∈ mm.span then none else ctx.translate va
    else ctx'.mmap = ctx.mmap ∧ SameTranslations ctx ctx'

theorem SameTranslations.refl (ctx : Ctx n) : SameTranslations ctx ctx := fun _ _ => rfl

/-- **Adding.** -/
theorem Live.add (h : Live ctx) {mm : MmapRegion} (hvalid : (DynamicCall.add mm).Valid)
    (henough : (DynamicCall.add mm).Enough ctx) :
    ∃ ret ctx', mmapAddDynamicRegionCtx ctx mm = some (ret, ctx') ∧ Live ctx' ∧
      SameSpace ctx ctx' ∧ (DynamicCall.add mm).Does ctx ret ctx' := by
  obtain ⟨htyped, htype⟩ := hvalid
  unfold mmapAddDynamicRegionCtx
  dsimp only [DynamicCall.Does]
  by_cases hzero : mm.size = 0
  · rw [if_pos hzero]
    refine ⟨0, ctx, rfl, h, ⟨rfl, rfl⟩, ?_⟩
    rw [if_neg fun hno => hno.2 hzero]
    exact ⟨rfl, .refl ctx⟩
  rw [if_neg hzero]
  by_cases hcheck : mmapAddRegionCheck ctx mm.toDynamic = 0
  · rw [if_neg (not_not.mpr hcheck), if_pos h.initialized]
    rw [← mm.toDynamic_size] at htyped
    have hsize : 0 < mm.toDynamic.size := Nat.pos_of_ne_zero hzero
    obtain ⟨hmm, -, hoverlap⟩ := check_eq_zero hsize htyped hcheck
    have hcases : ∀ x ∈ ctx.mmap, Apart mm.toDynamic x ∨ Inside mm.toDynamic x ∨ Inside x mm.toDynamic :=
      fun x hx => overlap_cases h.limits hmm (h.array.checked x hx) (hoverlap x hx)
    obtain ⟨ret, ctx', hret, hlive, hspace, hdoes⟩ := h.mapDynamicRegion (toDynamic_dynamic mm) hmm htype hcases
      (h.array.add h.limits hsize htyped hcheck) henough
    refine ⟨ret, ctx', hret, hlive, hspace, ?_⟩
    rcases hdoes with ⟨rfl, hmmap, htranslate⟩ | ⟨rfl, hsame⟩
    · rw [if_pos ⟨rfl, hzero⟩]
      exact ⟨hmmap, htranslate⟩
    · rw [if_neg fun hno => absurd hno.1 (by decide)]
      exact hsame
  · rw [if_pos hcheck]
    refine ⟨_, ctx, rfl, h, ⟨rfl, rfl⟩, ?_⟩
    rw [if_neg fun hno => hcheck hno.1]
    exact ⟨rfl, .refl ctx⟩

/-- **Removing.** -/
theorem Live.remove (h : Live ctx) (baseVa size : ℕ) :
    ∃ ret ctx', mmapRemoveDynamicRegionCtx ctx baseVa size = some (ret, ctx') ∧ Live ctx' ∧
      SameSpace ctx ctx' ∧ (DynamicCall.remove baseVa size).Does ctx ret ctx' := by
  unfold mmapRemoveDynamicRegionCtx
  extract_lets here
  dsimp only [DynamicCall.Does]
  cases hfind : ctx.mmap.find? here with
  | none =>
    refine ⟨_, ctx, rfl, h, ⟨rfl, rfl⟩, ?_⟩
    rw [if_neg (by decide)]
    exact ⟨rfl, .refl ctx⟩
  | some mm =>
    obtain ⟨hhere, before, after, hsplit, herase⟩ := find_split hfind
    obtain ⟨hbaseVa, hsize⟩ := Bool.and_eq_true_iff.mp hhere
    dsimp only
    by_cases hstatic : mm.attr &&& MT_DYNAMIC = 0
    · rw [if_pos hstatic]
      refine ⟨_, ctx, rfl, h, ⟨rfl, rfl⟩, ?_⟩
      rw [if_neg (by decide)]
      exact ⟨rfl, .refl ctx⟩
    · rw [if_neg hstatic, if_pos h.initialized, herase]
      obtain ⟨kids, hmapped⟩ := h.mapped
      have hmem : mm ∈ ctx.mmap := by
        rw [hsplit]
        exact List.mem_append_right before (List.mem_cons_self ..)
      have hmm := h.array.checked mm hmem
      have hperm : (ctx.mmap.map MmapRegion.span).Perm
          (mm.span :: (before ++ after).map MmapRegion.span) := by
        rw [hsplit]
        exact List.perm_middle.map MmapRegion.span
      have hapart := h.array.apart_of_dynamic hsplit hstatic
      have hok : SpanOk mm := ⟨Nat.dvd_of_mod_eq_zero hmm.va_aligned,
        Nat.dvd_of_mod_eq_zero hmm.size_aligned, hmm.size_pos⟩
      obtain ⟨s, kids', hunmap, hmapped', hlookup⟩ := (hmapped.perm hperm).unmap h.base.base hok rfl
        (hmm.span_le h.base) hapart (by unfold exactDepth; omega)
      have hunmap' : ctx.unmapRegion mm ctx.tables = some s := hunmap
      rw [hunmap']
      have hlive : Live { ctx.removeFromMmap mm (before ++ after) with tables := s } :=
        ⟨⟨h.base.base, h.base.level, h.base.va_le⟩,
          ⟨h.limits.pa_lt, h.limits.va_lt, h.limits.num_pos⟩,
          (h.array.remove h.limits hsplit).of_tables, h.initialized, kids', hmapped'⟩
      refine ⟨0, _, rfl, hlive, ⟨rfl, rfl⟩, ?_⟩
      rw [if_pos rfl]
      refine ⟨before, mm, after, hsplit, rfl, beq_iff_eq.mp hbaseVa, beq_iff_eq.mp hsize, hstatic,
        fun va hva => ?_⟩
      obtain ⟨hlt, htranslate⟩ := h.lookup_eq hmapped hva
      rw [htranslate, (hlive.lookup_eq hmapped' hva).2]
      exact hlookup va hlt

/-- **The tables keep saying what the array says.** -/
theorem DynamicCall.Does.agrees {call : DynamicCall} {ret : ℤ} (hdoes : call.Does ctx ret ctx')
    (hlive : Live ctx) (hlive' : Live ctx') (hspace : SameSpace ctx ctx') {β : Type} {f : ℕ × UInt64 → β}
    (hagree : ctx.Agrees f) : ctx'.Agrees f := by
  have hsame : ctx'.mmap = ctx.mmap → SameTranslations ctx ctx' → ctx'.Agrees f := by
    intro hmmap hsame va hva
    rw [hspace.2] at hva
    rw [hsame va hva, hmmap, hspace.1]
    exact hagree va hva
  cases call with
  | add mm =>
    dsimp only [DynamicCall.Does] at hdoes
    split_ifs at hdoes with hadded
    · obtain ⟨hmmap, htranslate⟩ := hdoes
      intro va hva
      obtain ⟨before, after, hinsert, hsplit⟩ := insertRegion_split mm.toDynamic ctx.mmap
      rw [hinsert] at hmmap
      obtain ⟨hfind, -⟩ := find_middle (hlive'.array.apart_of_dynamic hmmap (toDynamic_dynamic mm))
      rw [hspace.2] at hva
      have hspan : mm.toDynamic.span = mm.span := rfl
      have hbefore := hagree va hva
      rw [htranslate va hva, hmmap, hfind, hspace.1, hspan]
      split_ifs
      · rfl
      · rw [hbefore, hsplit]
    · exact hsame hdoes.1 hdoes.2
  | remove baseVa size =>
    dsimp only [DynamicCall.Does] at hdoes
    split_ifs at hdoes with hremoved
    · obtain ⟨before, mm, after, hsplit, hmmap, -, -, hdyn, htranslate⟩ := hdoes
      intro va hva
      obtain ⟨hfind, hnone⟩ := find_middle (hlive.array.apart_of_dynamic hsplit hdyn)
      rw [hspace.2] at hva
      have hbefore := hagree va hva
      rw [hsplit, hfind] at hbefore
      rw [htranslate va hva, hmmap, hspace.1]
      split_ifs with hmem
      · rw [hnone hmem]
        rfl
      · rw [if_neg hmem] at hbefore
        exact hbefore
    · exact hsame hdoes.1 hdoes.2

/-- The contexts that calls for dynamic regions lead to. -/
inductive Reaches : Ctx n → Ctx n → Prop where
  | refl (ctx : Ctx n) : Reaches ctx ctx
  | step {ctx ctx' ctx'' : Ctx n} {call : DynamicCall} {ret : ℤ} (h : Reaches ctx ctx')
      (hvalid : call.Valid) (henough : call.Enough ctx') (hret : call.toCall.run ctx' = some (ret, ctx'')) :
      Reaches ctx ctx''

/-- **One call.** -/
theorem Live.call (h : Live ctx) {call : DynamicCall} (hvalid : call.Valid) (henough : call.Enough ctx) :
    ∃ ret ctx', call.toCall.run ctx = some (ret, ctx') ∧ Live ctx' ∧ SameSpace ctx ctx' ∧
      call.Does ctx ret ctx' := by
  cases call with
  | add mm => exact h.add hvalid henough
  | remove baseVa size => exact h.remove baseVa size

/-- **A run of calls.** -/
theorem Live.reaches (h : Live ctx) (hagree : ctx.Agrees id) (hreaches : Reaches ctx ctx') :
    Live ctx' ∧ SameSpace ctx ctx' ∧ ctx'.Agrees id := by
  induction hreaches with
  | refl => exact ⟨h, ⟨rfl, rfl⟩, hagree⟩
  | step _ hvalid henough hret ih =>
    obtain ⟨hlive, hspace, hagree⟩ := ih
    obtain ⟨ret, ctx', hret', hlive', hspace', hdoes⟩ := hlive.call hvalid henough
    have heq := hret.symm.trans hret'
    cases heq
    exact ⟨hlive', ⟨hspace'.1.trans hspace.1, hspace'.2.trans hspace.2⟩,
      hdoes.agrees hlive hlive' hspace' hagree⟩

/-- The tables that have been made suffice. -/
theorem Built.live {start : Ctx n} {mms : List MmapRegion} (h : Built start mms ctx)
    (hmms : ∀ mm ∈ mms, mm.Addable) (hall : ctx.allMapped ctx.mmap (Tables.zero n) = true)
    (hinit : initXlatTablesCtx ctx = some ctx') : Live ctx' ∧ ctx'.Agrees id ∧ SameSpace start ctx' := by
  have hexact : ¬ True → exactDepth ctx.layout ≤ 1 := fun hno => absurd trivial hno
  obtain ⟨s, spans, kids, hinit', hinits⟩ := h.init hmms hexact fun _ => hall
  obtain rfl := Option.some.inj (hinit.symm.trans hinit')
  refine ⟨⟨⟨h.base.base, h.base.level, h.base.va_le⟩, ⟨h.limits.pa_lt, h.limits.va_lt, h.limits.num_pos⟩,
    h.array.of_tables, rfl, kids, ?_⟩, hinits.agrees h.base trivial, h.regime, h.vaMax⟩
  exact hinits.mapped.perm (hinits.complete trivial).1

/-- **The life of a context.**  Its regions are added, and there are enough tables for them; then dynamic
regions come and go.  At any time an address has the translation of the innermost region around it, and
the next call does what it is for: no assertion fails. -/
theorem dynamic_regions {start ctx₀ : Ctx n} {mms : List MmapRegion} (hstart : Fresh start)
    (hmms : ∀ mm ∈ mms, mm.Addable) (hadd : mmapAddCtx start mms = some ctx₀)
    (hall : ctx₀.allMapped ctx₀.mmap (Tables.zero n) = true) (hinit : initXlatTablesCtx ctx₀ = some ctx)
    (hreaches : Reaches ctx ctx') :
    (∀ va ≤ start.vaMaxAddress, ctx'.TranslatesAs start.layout.regime ctx'.mmap va) ∧
      ∀ call : DynamicCall, call.Valid → call.Enough ctx' →
        ∃ ret ctx'', call.toCall.run ctx' = some (ret, ctx'') ∧ call.Does ctx' ret ctx'' := by
  obtain ⟨hlive₀, hagree₀, hspace₀⟩ := (hstart.addAll hmms hadd).live hmms hall hinit
  obtain ⟨hlive, hspace, hagree⟩ := hlive₀.reaches hagree₀ hreaches
  refine ⟨fun va hva => ?_, fun call hvalid henough => ?_⟩
  · rw [← hspace₀.2, ← hspace.2] at hva
    rw [← hspace₀.1, ← hspace.1]
    exact hlive.array.translatesAs hagree hva
  · obtain ⟨ret, ctx'', hret, -, -, hdoes⟩ := hlive.call hvalid henough
    exact ⟨ret, ctx'', hret, hdoes⟩

end Calls

/-- A page of a device that is mapped for a while. -/
def sampleDynamic : MmapRegion := ⟨0x90000000, 0x40010000, 0x1000, 0x0, 0x40000000⟩

theorem dynamic_regions_sample : ∃ ctx₀ ctx ctx', mmapAddCtx sampleCtx sampleRegions = some ctx₀ ∧
    initXlatTablesCtx ctx₀ = some ctx ∧ Reaches ctx ctx' ∧ sampleDynamic.toDynamic ∈ ctx'.mmap ∧
    (∀ va < 2 ^ 32, ctx'.TranslatesAs .el2 ctx'.mmap va) ∧
    ∃ ret ctx'', mmapRemoveDynamicRegionCtx ctx' 0x40010000 0x1000 = some (ret, ctx'') ∧
      (DynamicCall.remove 0x40010000 0x1000).Does ctx' ret ctx'' := by
  have hrun : ((mmapAddCtx sampleCtx sampleRegions).bind fun ctx₀ =>
      (initXlatTablesCtx ctx₀).bind fun ctx => (mmapAddDynamicRegionCtx ctx sampleDynamic).map fun res =>
        ctx₀.allMapped ctx₀.mmap (Tables.zero 2) && ctx.layout.baseLevel == 1 &&
          res.2.mmap.contains sampleDynamic.toDynamic) = some true := by decide +kernel
  obtain ⟨ctx₀, hadd, hrun⟩ := Option.bind_eq_some_iff.mp hrun
  obtain ⟨ctx, hinit, hrun⟩ := Option.bind_eq_some_iff.mp hrun
  obtain ⟨⟨ret, ctx'⟩, hret, hrun⟩ := Option.map_eq_some_iff.mp hrun
  obtain ⟨hrun, hmem⟩ := Bool.and_eq_true_iff.mp hrun
  obtain ⟨hall, hlevel⟩ := Bool.and_eq_true_iff.mp hrun
  have hreaches : Reaches ctx ctx' := by
    have hvalid : (DynamicCall.add sampleDynamic).Valid := ⟨by decide, by decide⟩
    exact .step (.refl ctx) hvalid (Or.inl (beq_iff_eq.mp hlevel).ge) hret
  obtain ⟨htranslates, hcalls⟩ :=
    dynamic_regions sampleCtx_fresh sampleRegions_addable hadd hall hinit hreaches
  exact ⟨ctx₀, ctx, ctx', hadd, hinit, hreaches, List.contains_iff_mem.mp hmem,
    fun va hva => htranslates va (Nat.le_pred_of_lt hva), hcalls (.remove 0x40010000 0x1000) trivial trivial⟩

end RmmAcs.Xlat
