/-
# Initialisation

`init_xlat_tables_ctx` maps the regions of the array one after the other.  Where the tables suffice, an
address gets the translation of the first region of the array that has it, which is the innermost one
(`init_translates`).  Where they do not, nobody is told; but what an address gets, if anything, is still
the translation of a region around it.
-/
import RmmAcs.Xlat.Mapped
import RmmAcs.Xlat.MmapArray

namespace RmmAcs.Xlat

open Lib.Radix

/-! ## 1. Translations -/

/-- The base table has the addresses of the context, at the level a walk starts with. -/
structure CtxOk {n : ℕ} (ctx : Ctx n) : Prop where
  base : BaseOk ctx.layout
  level : ctx.layout.baseLevel = getXlatTableLevelBase (ctx.vaMaxAddress + 1)
  va_le : ctx.vaMaxAddress + 1 ≤ ctx.layout.vaEnd

/-- The translation a region has for its addresses. -/
def regionTranslation (regime : Regime) (mm : MmapRegion) (va : ℕ) : ℕ × UInt64 :=
  (mm.pa va, descAttrs regime mm.attr.toUInt32)

/-- An address has the translation of the innermost of these regions that has it. -/
def Ctx.TranslatesAs {n : ℕ} (ctx : Ctx n) (regime : Regime) (mms : List MmapRegion) (va : ℕ) : Prop :=
  ctx.translate va = none ∧ (∀ a ∈ mms, va ∉ a.span) ∨
    ∃ a ∈ mms, va ∈ a.span ∧ ctx.translate va = some (regionTranslation regime a va) ∧
      ∀ b ∈ mms, va ∈ b.span → b = a ∨ Inside a b

/-- The tables say what the array says, as far as `f` sees it. -/
def Ctx.Agrees {n : ℕ} {β : Type} (ctx : Ctx n) (f : ℕ × UInt64 → β) : Prop :=
  ∀ va ≤ ctx.vaMaxAddress, (ctx.translate va).map f =
    (ctx.mmap.find? fun a => va ∈ a.span).map fun a => f (regionTranslation ctx.layout.regime a va)

section Translate

variable {n : ℕ} {ctx : Ctx n} {spans : List Span} {exact : ℕ} {kids : ℕ → Node n} {mm : MmapRegion}
  {va : ℕ}

/-- **The walk from the base table.** -/
theorem Mapped.walk {s : Tables n} (h : Mapped ctx.layout s spans exact kids) (hctx : CtxOk ctx)
    (hva : va < ctx.layout.vaEnd) :
    ∃ res, ctx.walk s va = some res ∧
      WalkFinds ctx.layout s none ctx.layout.baseTableEntries (XLAT_TABLE_LEVEL_MAX - ctx.layout.baseLevel)
        kids (va / geometry.width (XLAT_TABLE_LEVEL_MAX - ctx.layout.baseLevel))
        (va / geometry.width (XLAT_TABLE_LEVEL_MAX - ctx.layout.baseLevel)
          * geometry.width (XLAT_TABLE_LEVEL_MAX - ctx.layout.baseLevel)) va
        (baseFind kids (XLAT_TABLE_LEVEL_MAX - ctx.layout.baseLevel) va) res := by
  have hspace : va < 0 + geometry.width (XLAT_TABLE_LEVEL_MAX - ctx.layout.baseLevel + 1) := by
    rw [Nat.zero_add, geometry.width_succ]
    exact Nat.lt_of_lt_of_le hva (Nat.mul_le_mul_right _ hctx.base.entries_le)
  obtain ⟨res, hwalk, hfinds⟩ := walk_spec (Nat.sub_le _ _) h.holds (Nat.dvd_zero _)
    ⟨Nat.zero_le va, hspace⟩ rfl (base_index hva).1
  rw [Nat.sub_zero, Nat.zero_add] at hfinds
  rw [Ctx.walk, ← hctx.level]
  exact ⟨res, hwalk, hfinds⟩

/-- **The translation of an address** is that of the leaf for it. -/
theorem translate_eq (h : Mapped ctx.layout ctx.tables spans exact kids) (hctx : CtxOk ctx)
    (hva : va < ctx.layout.vaEnd) :
    ctx.translate va = lookup kids (XLAT_TABLE_LEVEL_MAX - ctx.layout.baseLevel) va := by
  have hdepth : XLAT_TABLE_LEVEL_MAX - ctx.layout.baseLevel ≤ 3 := Nat.sub_le _ _
  have hrange := (base_index hva).2
  obtain ⟨res, hwalk, hnone, hsome⟩ := h.walk hctx hva
  unfold Ctx.translate
  rw [hwalk]
  rw [lookup]
  cases hfind : baseFind kids (XLAT_TABLE_LEVEL_MAX - ctx.layout.baseLevel) va with
  | none =>
    rw [hnone hfind]
    rfl
  | some leaf =>
    obtain ⟨d, lo, a⟩ := leaf
    obtain ⟨t', idx', rfl, hdesc, -⟩ := hsome d lo a hfind
    obtain ⟨⟨-, hleaf⟩, ⟨q, hq⟩, hlo, hhi⟩ := h.find hva hfind
    obtain ⟨hdvd, -, -⟩ := hleaf.page_aligned
    have hwithin := Entry.find_within hrange hfind
    have hd : d ≤ 3 := by
      have hle : geometry.width d ≤ geometry.width (XLAT_TABLE_LEVEL_MAX - ctx.layout.baseLevel) := by
        omega
      exact (le_of_width_le hle).trans hdepth
    have hmod : va % geometry.width d = va - lo := by
      have hsplit : va = (va - lo) + geometry.width d * q := by omega
      conv_lhs => rw [hsplit]
      rw [Nat.add_mul_mod_self_left, Nat.mod_eq_of_lt (by omega)]
    simp only [Option.bind_eq_bind, Option.bind_some, hdesc, blockSize_eq hd, hmod,
      Nat.div_mul_cancel (Nat.dvd_of_mod_eq_zero hdvd)]
    rfl

theorem RegionChecked.ok (hlim : Limits ctx) (h : RegionChecked ctx.paMaxAddress ctx.vaMaxAddress mm)
    (htype : TypeValid mm.attr.toUInt32) : RegionOk mm where
  va_aligned := Nat.dvd_of_mod_eq_zero h.va_aligned
  size_aligned := Nat.dvd_of_mod_eq_zero h.size_aligned
  size_pos := h.size_pos
  pa_aligned := Nat.dvd_of_mod_eq_zero h.pa_aligned
  pa_lt := h.pa_le.trans hlim.pa_lt
  type_valid := htype

theorem RegionChecked.span_le (hctx : CtxOk ctx)
    (h : RegionChecked ctx.paMaxAddress ctx.vaMaxAddress mm) : mm.span.hi ≤ ctx.layout.vaEnd :=
  h.va_le.trans hctx.va_le

/-- Zeroed tables hold nothing. -/
theorem mapped_zero (c : Layout n) (exact : ℕ) :
    Mapped c (Tables.zero n) [] exact fun _ => .invalid where
  holds :=
    { repr := fun _ _ => rfl
      sep := fun _ _ => trivial
      apart := fun _ _ _ _ _ _ hk => hk.elim
      own := fun _ _ _ hk => hk.elim
      used := fun _ _ _ hk => hk.elim
      self := nofun }
  clean _ _ _ _ := rfl
  all _ _ := nofun

end Translate

/-! ## 2. The loop -/

section Init

variable {n : ℕ} {ctx : Ctx n}

/-- The tables suffice for these regions, one after the other. -/
def Ctx.allMapped (ctx : Ctx n) : List MmapRegion → Tables n → Bool
  | [], _ => true
  | mm :: mmap, s =>
    match ctx.mapRegion mm s with
    | none => false
    | some (endVa, s) => endVa == mm.endVa && ctx.allMapped mmap s

/-- Regions that come before another one in the array leave room for it, or lie in it. -/
theorem fitsAround_of_precedes {mm : MmapRegion} {done : List MmapRegion} {spans : List Span}
    (hbefore : ∀ a ∈ done, Precedes a mm)
    (hspans : ∀ r ∈ spans, ∃ a ∈ done, r.lo = a.baseVa ∧ r.hi ≤ a.baseVa + a.size) :
    FitsAround mm spans := by
  intro r hr
  obtain ⟨a, ha, hlo, hhi⟩ := hspans r hr
  unfold MmapRegion.span
  dsimp only
  rcases (hbefore a ha).2 with ⟨hapart, -⟩ | hinside
  · omega
  · have hin := hinside.lo
    have hin' := hinside.hi
    omega

/-- What the loop has made of the regions before. -/
structure Inits (ctx : Ctx n) (full : Prop) (done : List MmapRegion) (s : Tables n) (spans : List Span)
    (exact : ℕ) (kids : ℕ → Node n) : Prop where
  mapped : Mapped ctx.layout s spans exact kids
  spans_of : ∀ r ∈ spans, ∃ a ∈ done, r.lo = a.baseVa ∧ r.hi ≤ a.baseVa + a.size
  sound : ∀ va < ctx.layout.vaEnd, ∀ x,
    lookup kids (XLAT_TABLE_LEVEL_MAX - ctx.layout.baseLevel) va = some x →
      ∃ a ∈ done, va ∈ a.span ∧ x = regionTranslation ctx.layout.regime a va
  complete : full → spans.Perm (done.map MmapRegion.span) ∧ ∀ va < ctx.layout.vaEnd,
    lookup kids (XLAT_TABLE_LEVEL_MAX - ctx.layout.baseLevel) va =
      (done.find? fun a => va ∈ a.span).map (regionTranslation ctx.layout.regime · va)

/-- **One region more.** -/
theorem Inits.step {full : Prop} {done : List MmapRegion} {s : Tables n} {spans : List Span} {exact : ℕ}
    {kids : ℕ → Node n} (h : Inits ctx full done s spans exact kids) (hctx : CtxOk ctx)
    {mm : MmapRegion} (hok : RegionOk mm) (hin : mm.span.hi ≤ ctx.layout.vaEnd)
    (hbefore : ∀ a ∈ done, Precedes a mm) (hexact : ¬ full → exact ≤ 1)
    (hfull : full → ∃ s', ctx.mapRegion mm s = some (mm.endVa, s')) :
    ∃ e s' spans' kids', ctx.mapRegion mm s = some (e, s') ∧
      Inits ctx full (done ++ [mm]) s' spans' exact kids' := by
  obtain ⟨e, s', kids', stop, hret, hends, hmapped, hlookup⟩ :=
    h.mapped.map hctx.base hok hin (fitsAround_of_precedes hbefore h.spans_of)
  have hstop : full → stop = mm.span.hi := by
    intro hf
    obtain ⟨s'', hs''⟩ := hfull hf
    have heq := hret.symm.trans hs''
    cases heq
    rcases hends with ⟨hstop, -⟩ | ⟨-, hne, -⟩
    · exact hstop
    · exact absurd rfl hne
  have hsub : ∀ va, va ∈ mm.mappedTo stop → va ∈ mm.span := by
    intro va hva
    rw [Span.mem_iff] at hva ⊢
    unfold MmapRegion.mappedTo at hva
    dsimp only at hva
    exact ⟨hva.1, by omega⟩
  refine ⟨e, s', _, kids', hret, hmapped exact (Nat.le_refl _) ?_, fun r hr => ?_, fun va hva x hx => ?_,
    fun hf => ⟨?_, fun va hva => ?_⟩⟩
  · by_cases hf : full
    · exact Or.inl (hstop hf)
    · exact Or.inr (hexact hf)
  · rcases List.mem_cons.mp hr with rfl | hr
    · exact ⟨mm, List.mem_append_right _ (List.mem_cons_self ..), rfl, Nat.min_le_right _ _⟩
    · obtain ⟨a, ha, hspan⟩ := h.spans_of r hr
      exact ⟨a, List.mem_append_left _ ha, hspan⟩
  · rw [hlookup va hva] at hx
    split_ifs at hx with hgets
    · cases hx
      exact ⟨mm, List.mem_append_right _ (List.mem_cons_self ..), hsub va hgets.1, rfl⟩
    · obtain ⟨a, ha, hspan⟩ := h.sound va hva x hx
      exact ⟨a, List.mem_append_left _ ha, hspan⟩
  · have hspan : mm.mappedTo stop = mm.span := by
      rw [hstop hf, MmapRegion.mappedTo, Nat.min_self]
      rfl
    rw [hspan, List.map_append, List.map_singleton]
    exact ((h.complete hf).1.cons mm.span).trans (List.perm_append_singleton _ _).symm
  · have hspan : mm.mappedTo stop = mm.span := by
      rw [hstop hf, MmapRegion.mappedTo, Nat.min_self]
      rfl
    have hbefore := (h.complete hf).2 va hva
    rw [hlookup va hva, hspan, List.find?_append, hbefore]
    cases hfind : done.find? fun a => va ∈ a.span with
    | some a => rw [if_neg fun h => Option.some_ne_none _ h.2, Option.some_or]
    | none =>
      rw [Option.none_or, Option.map_none, List.find?_singleton]
      by_cases hva' : va ∈ mm.span
      · rw [if_pos ⟨hva', rfl⟩, if_pos (decide_eq_true hva')]
        rfl
      · rw [if_neg fun h => hva' h.1, if_neg (by rw [decide_eq_true_eq]; exact hva')]
        rfl

/-- **The loop**, over the regions that are left. -/
theorem mapAll_inits {full : Prop} {exact : ℕ} (hctx : CtxOk ctx) (hlim : Limits ctx)
    (hexact : ¬ full → exact ≤ 1) {todo done : List MmapRegion} {s : Tables n} {spans : List Span}
    {kids : ℕ → Node n} (h : Inits ctx full done s spans exact kids)
    (hchecked : ∀ mm ∈ todo, RegionChecked ctx.paMaxAddress ctx.vaMaxAddress mm)
    (htypes : ∀ mm ∈ todo, TypeValid mm.attr.toUInt32) (hpairwise : (done ++ todo).Pairwise Precedes)
    (hfull : full → ctx.allMapped todo s = true) :
    ∃ s' spans' kids', ctx.mapAll todo s = some s' ∧ Inits ctx full (done ++ todo) s' spans' exact kids' := by
  induction todo generalizing done s spans kids with
  | nil =>
    rw [List.append_nil]
    exact ⟨s, spans, kids, rfl, h⟩
  | cons mm todo ih =>
    have hmm := hchecked mm (List.mem_cons_self ..)
    have hbefore : ∀ a ∈ done, Precedes a mm := fun a ha =>
      (List.pairwise_append.mp hpairwise).2.2 a ha mm (List.mem_cons_self ..)
    have hmapped : full → ∃ s', ctx.mapRegion mm s = some (mm.endVa, s') ∧ ctx.allMapped todo s' = true := by
      intro hf
      have hall := hfull hf
      unfold Ctx.allMapped at hall
      cases hmap : ctx.mapRegion mm s with
      | none =>
        rw [hmap] at hall
        cases hall
      | some res =>
        rw [hmap] at hall
        obtain ⟨hend, hall⟩ := Bool.and_eq_true_iff.mp hall
        exact ⟨res.2, by rw [← beq_iff_eq.mp hend], hall⟩
    obtain ⟨e, s', spans', kids', hret, hstep⟩ := h.step hctx
      (hmm.ok hlim (htypes mm (List.mem_cons_self ..))) (hmm.span_le hctx) hbefore hexact
      fun hf => (hmapped hf).imp fun _ h => h.1
    have hassoc : done ++ mm :: todo = done ++ [mm] ++ todo := (List.append_cons ..)
    rw [hassoc] at hpairwise ⊢
    obtain ⟨s'', spans'', kids'', hrest, hinits⟩ := ih hstep
      (fun x hx => hchecked x (List.mem_cons_of_mem _ hx)) (fun x hx => htypes x (List.mem_cons_of_mem _ hx))
      hpairwise fun hf => by
        obtain ⟨s₁, hs₁, hall⟩ := hmapped hf
        have heq := hret.symm.trans hs₁
        cases heq
        exact hall
    refine ⟨s'', spans'', kids'', ?_, hinits⟩
    rw [Ctx.mapAll, hret]
    exact hrest

/-- The greatest ends are within the limits, as `init_xlat_tables_ctx` asserts. -/
theorem ArrayOk.max_le (h : ArrayOk ctx) :
    ctx.maxVa ≤ ctx.vaMaxAddress ∧ ctx.maxPa ≤ ctx.paMaxAddress := by
  refine ⟨?_, ?_⟩
  · rcases h.maxVa.2 with hzero | ⟨mm, hmm, hmax⟩
    · omega
    · have hle := (h.checked mm hmm).va_le
      dsimp only at hmax
      omega
  · rcases h.maxPa.2 with hzero | ⟨mm, hmm, hmax⟩
    · omega
    · have hle := (h.checked mm hmm).pa_le
      dsimp only at hmax
      omega

/-- The first region of the array that has an address is the innermost one. -/
theorem ArrayOk.find_innermost (h : ArrayOk ctx) {a : MmapRegion} {va : ℕ}
    (hfind : ctx.mmap.find? (fun a => va ∈ a.span) = some a) :
    a ∈ ctx.mmap ∧ va ∈ a.span ∧ ∀ b ∈ ctx.mmap, va ∈ b.span → b = a ∨ Inside a b := by
  obtain ⟨ha, before, after, hsplit, hnot⟩ := List.find?_eq_some_iff_append.mp hfind
  have hva := of_decide_eq_true ha
  refine ⟨List.mem_of_find?_eq_some hfind, hva, fun b hb hvb => ?_⟩
  have hpairwise := h.pairwise
  rw [hsplit] at hb hpairwise
  rcases List.mem_append.mp hb with hb | hb
  · have hnot := hnot b hb
    rw [decide_eq_true hvb] at hnot
    cases hnot
  · rcases List.mem_cons.mp hb with rfl | hb
    · exact Or.inl rfl
    · have hprecedes := (List.pairwise_cons.mp (List.pairwise_append.mp hpairwise).2.1).1 b hb
      rcases hprecedes.2 with ⟨hapart, -⟩ | hinside
      · rw [Span.mem_iff] at hva hvb
        unfold MmapRegion.span at hva hvb
        dsimp only at hva hvb
        omega
      · exact Or.inr hinside

/-- What an address is translated to comes from the innermost region that has it. -/
theorem ArrayOk.translates (h : ArrayOk ctx) {β : Type} {f : ℕ × UInt64 → β} (hagree : ctx.Agrees f)
    {va : ℕ} (hva : va ≤ ctx.vaMaxAddress) :
    ctx.translate va = none ∧ (∀ a ∈ ctx.mmap, va ∉ a.span) ∨
      ∃ a ∈ ctx.mmap, va ∈ a.span ∧
        (∃ x, ctx.translate va = some x ∧ f x = f (regionTranslation ctx.layout.regime a va)) ∧
        ∀ b ∈ ctx.mmap, va ∈ b.span → b = a ∨ Inside a b := by
  have htranslate := hagree va hva
  cases hfind : ctx.mmap.find? fun a => va ∈ a.span with
  | none =>
    rw [hfind] at htranslate
    refine Or.inl ⟨Option.map_eq_none_iff.mp htranslate, fun a ha hva => ?_⟩
    exact List.find?_eq_none.mp hfind a ha (decide_eq_true hva)
  | some a =>
    rw [hfind] at htranslate
    obtain ⟨ha, hva, hinner⟩ := h.find_innermost hfind
    exact Or.inr ⟨a, ha, hva, Option.map_eq_some_iff.mp htranslate, hinner⟩

theorem ArrayOk.translatesAs (h : ArrayOk ctx) (hagree : ctx.Agrees id) {va : ℕ}
    (hva : va ≤ ctx.vaMaxAddress) : ctx.TranslatesAs ctx.layout.regime ctx.mmap va := by
  rcases h.translates hagree hva with hnone | ⟨a, ha, hspan, ⟨x, hx, rfl⟩, hinner⟩
  · exact Or.inl hnone
  · exact Or.inr ⟨a, ha, hspan, hx, hinner⟩

/-- Other regions that have an address. -/
theorem Ctx.TranslatesAs.congr {regime : Regime} {mms mms' : List MmapRegion} {va : ℕ}
    (h : ctx.TranslatesAs regime mms va) (hmem : ∀ a, va ∈ a.span → (a ∈ mms ↔ a ∈ mms')) :
    ctx.TranslatesAs regime mms' va := by
  rcases h with ⟨hnone, hno⟩ | ⟨a, ha, hva, htranslate, hinner⟩
  · exact Or.inl ⟨hnone, fun a ha hva => hno a ((hmem a hva).mpr ha) hva⟩
  · exact Or.inr ⟨a, (hmem a hva).mp ha, hva, htranslate, fun b hb hvb => hinner b ((hmem b hvb).mpr hb) hvb⟩

/-- A context without regions, as `REGISTER_XLAT_CONTEXT` makes it. -/
structure Fresh (ctx : Ctx n) : Prop where
  base : CtxOk ctx
  limits : Limits ctx
  space : (ctx.vaMaxAddress + 1) &&& ctx.vaMaxAddress = 0
  mmap : ctx.mmap = []
  maxEnds : ctx.maxVa = 0 ∧ ctx.maxPa = 0

/-- A region that can be added: sizes have 64 bits, and memory has one of the types there are. -/
def MmapRegion.Addable (mm : MmapRegion) : Prop := mm.size < 2 ^ 64 ∧ TypeValid mm.attr.toUInt32

/-- A context with its regions. -/
structure Built (start : Ctx n) (mms : List MmapRegion) (ctx : Ctx n) : Prop where
  base : CtxOk ctx
  limits : Limits ctx
  space : (ctx.vaMaxAddress + 1) &&& ctx.vaMaxAddress = 0
  array : ArrayOk ctx
  regime : ctx.layout.regime = start.layout.regime
  vaMax : ctx.vaMaxAddress = start.vaMaxAddress
  mem : ∀ mm, mm ∈ ctx.mmap ↔ mm ∈ mms ∧ mm.size ≠ 0

theorem Fresh.built (h : Fresh ctx) : Built ctx [] ctx where
  base := h.base
  limits := h.limits
  space := h.space
  array := .of_empty h.mmap h.maxEnds
  regime := rfl
  vaMax := rfl
  mem mm := by
    rw [h.mmap]
    exact ⟨nofun, fun h => h.1⟩

theorem Built.add {start ctx' : Ctx n} {mms : List MmapRegion} (h : Built start mms ctx) {mm : MmapRegion}
    (hmm : mm.Addable) (hret : mmapAddRegionCtx ctx mm = some ctx') : Built start (mms ++ [mm]) ctx' := by
  obtain ⟨harray, hlimits⟩ := mmapAddRegionCtx_keeps h.array h.limits hmm.1 hret
  unfold mmapAddRegionCtx at hret
  split_ifs at hret with hzero hcheck
  · cases hret
    refine ⟨h.base, hlimits, h.space, harray, h.regime, h.vaMax, fun x => ?_⟩
    rw [h.mem, List.mem_append, List.mem_singleton, or_and_right, or_iff_left]
    rintro ⟨rfl, hne⟩
    exact hne hzero
  · cases hret
    refine ⟨⟨h.base.base, h.base.level, h.base.va_le⟩, hlimits, h.space, harray, h.regime, h.vaMax,
      fun x => ?_⟩
    unfold Ctx.addToMmap
    rw [insertRegion_mem, h.mem, List.mem_append, List.mem_singleton, or_and_right, or_comm]
    have hne : x = mm → x.size ≠ 0 := by
      rintro rfl
      exact hzero
    rw [and_iff_left_of_imp hne]

theorem Built.addAll {start ctx' : Ctx n} {todo mms : List MmapRegion} (h : Built start mms ctx)
    (hmms : ∀ mm ∈ todo, mm.Addable) (hret : mmapAddCtx ctx todo = some ctx') :
    Built start (mms ++ todo) ctx' := by
  induction todo generalizing ctx mms with
  | nil =>
    cases hret
    rw [List.append_nil]
    exact h
  | cons mm todo ih =>
    unfold mmapAddCtx at hret
    rw [List.foldlM_cons] at hret
    obtain ⟨ctx₁, hmm, hret⟩ := Option.bind_eq_some_iff.mp hret
    rw [List.append_cons]
    exact ih (h.add (hmms mm (List.mem_cons_self ..)) hmm)
      (fun x hx => hmms x (List.mem_cons_of_mem _ hx)) hret

/-- **The array of a context**, made of these regions. -/
theorem Fresh.addAll {start : Ctx n} {mms : List MmapRegion} (h : Fresh start)
    (hmms : ∀ mm ∈ mms, mm.Addable) (hret : mmapAddCtx start mms = some ctx) : Built start mms ctx :=
  h.built.addAll hmms hret

/-- `init_xlat_tables_ctx` comes to its end, and keeps what is known of the loop. -/
theorem Built.init {start : Ctx n} {mms : List MmapRegion} {full : Prop} {exact : ℕ}
    (h : Built start mms ctx) (hmms : ∀ mm ∈ mms, mm.Addable) (hexact : ¬ full → exact ≤ 1)
    (hfull : full → ctx.allMapped ctx.mmap (Tables.zero n) = true) :
    ∃ s spans kids, initXlatTablesCtx ctx = some { ctx with tables := s, initialized := true } ∧
      Inits ctx full ctx.mmap s spans exact kids := by
  have hzero : Inits ctx full [] (Tables.zero n) [] exact fun _ => .invalid := by
    refine ⟨mapped_zero ctx.layout exact, nofun, fun va _ x hx => ?_, fun _ => ⟨List.Perm.nil, fun _ _ => rfl⟩⟩
    cases hx
  obtain ⟨s, spans, kids, hmap, hinits⟩ := mapAll_inits h.base h.limits hexact hzero h.array.checked
    (fun mm hmm => (hmms mm ((h.mem mm).mp hmm).1).2) h.array.pairwise hfull
  refine ⟨s, spans, kids, ?_, hinits⟩
  have hva : ctx.vaMaxAddress ≤ MAX_VIRT_ADDR_SPACE_SIZE - 1 := by
    have hlt := h.limits.va_lt
    unfold MAX_VIRT_ADDR_SPACE_SIZE
    omega
  unfold initXlatTablesCtx
  rw [hmap]
  simp only [hva, h.space, h.array.max_le, and_self, guard_true, Option.pure_def, Option.bind_eq_bind,
    Option.bind_some]

theorem Inits.agrees {full : Prop} {s : Tables n} {spans : List Span} {exact : ℕ} {kids : ℕ → Node n}
    (h : Inits ctx full ctx.mmap s spans exact kids) (hctx : CtxOk ctx) (hfull : full) :
    { ctx with tables := s, initialized := true : Ctx n }.Agrees id := by
  have hctx' : CtxOk { ctx with tables := s, initialized := true } := ⟨hctx.base, hctx.level, hctx.va_le⟩
  intro va hva
  have hlt : va < ctx.layout.vaEnd := Nat.lt_of_lt_of_le (Nat.lt_succ_of_le hva) hctx.va_le
  rw [translate_eq h.mapped hctx' hlt, Option.map_id]
  exact (h.complete hfull).2 va hlt

/-- **Initialisation.**  Regions are added to a context, and no assertion fails then; none fails afterwards.
What an address is translated to is what a region around it says; and if the tables suffice, every address
of a region is translated, as the innermost region says. -/
theorem init_translates {start : Ctx n} {mms : List MmapRegion} (hstart : Fresh start)
    (hmms : ∀ mm ∈ mms, mm.Addable) (hadd : mmapAddCtx start mms = some ctx) :
    ∃ ctx', initXlatTablesCtx ctx = some ctx' ∧
      (∀ va ≤ start.vaMaxAddress, ∀ x, ctx'.translate va = some x →
        ∃ a ∈ mms, va ∈ a.span ∧ x = regionTranslation start.layout.regime a va) ∧
      (ctx.allMapped ctx.mmap (Tables.zero n) = true → ∀ va ≤ start.vaMaxAddress,
        ctx'.TranslatesAs start.layout.regime mms va) := by
  have hbuilt := hstart.addAll hmms hadd
  obtain ⟨s, spans, kids, hinit, hinits⟩ := hbuilt.init hmms (fun _ => Nat.le_refl 1)
    fun hfull : ctx.allMapped ctx.mmap (Tables.zero n) = true => hfull
  have hctx' : CtxOk { ctx with tables := s, initialized := true } :=
    ⟨hbuilt.base.base, hbuilt.base.level, hbuilt.base.va_le⟩
  refine ⟨_, hinit, fun va hva x hx => ?_, fun hfull va hva => ?_⟩
  · rw [← hbuilt.vaMax] at hva
    have hlt := Nat.lt_of_lt_of_le (Nat.lt_succ_of_le hva) hbuilt.base.va_le
    rw [translate_eq hinits.mapped hctx' hlt] at hx
    obtain ⟨a, ha, hspan, hx⟩ := hinits.sound va hlt x hx
    rw [hbuilt.regime] at hx
    exact ⟨a, ((hbuilt.mem a).mp ha).1, hspan, hx⟩
  · rw [← hbuilt.vaMax] at hva
    have hagree := hinits.agrees hbuilt.base hfull
    rw [← hbuilt.regime]
    refine (hbuilt.array.of_tables.translatesAs hagree hva).congr fun a hva => ?_
    rw [hbuilt.mem, and_iff_left]
    -- a region with addresses has a size
    intro hzero
    rw [Span.mem_iff] at hva
    unfold MmapRegion.span at hva
    dsimp only at hva
    omega

end Init

/-- Three pages of memory, one of them with code. -/
def sampleRegions : List MmapRegion :=
  [⟨0x40000000, 0x40000000, 0x3000, 0xA, 0x40000000⟩, ⟨0x40001000, 0x40001000, 0x1000, 0x2, 0x40000000⟩]

theorem sampleCtx_fresh : Fresh sampleCtx where
  base := ⟨⟨by decide, by decide, by decide⟩, by decide +kernel, by decide +kernel⟩
  limits := ⟨by decide, by decide, by decide⟩
  space := by decide +kernel
  mmap := rfl
  maxEnds := ⟨rfl, rfl⟩

theorem sampleRegions_addable : ∀ mm ∈ sampleRegions, mm.Addable := by
  simp only [sampleRegions, List.forall_mem_cons, MmapRegion.Addable]
  exact ⟨by decide, by decide, nofun⟩

theorem init_translates_sample : ∃ ctx ctx', mmapAddCtx sampleCtx sampleRegions = some ctx ∧
    initXlatTablesCtx ctx = some ctx' ∧
    ctx'.translate 0x40001234 = some (0x40001234, descAttrs .el2 0x2) := by
  have hsome : (mmapAddCtx sampleCtx sampleRegions).isSome := by decide +kernel
  obtain ⟨ctx, hadd⟩ := Option.isSome_iff_exists.mp hsome
  have hall : (mmapAddCtx sampleCtx sampleRegions).map (fun ctx => ctx.allMapped ctx.mmap (Tables.zero 2)) =
      some true := by decide +kernel
  rw [hadd] at hall
  obtain ⟨ctx', hinit, -, hfull⟩ := init_translates sampleCtx_fresh sampleRegions_addable hadd
  refine ⟨ctx, ctx', hadd, hinit, ?_⟩
  have hcode : (⟨0x40001000, 0x40001000, 0x1000, 0x2, 0x40000000⟩ : MmapRegion) ∈ sampleRegions :=
    List.mem_cons_of_mem _ (List.mem_cons_self ..)
  rcases hfull (Option.some.inj hall) 0x40001234 (by decide +kernel) with
    ⟨-, hno⟩ | ⟨a, ha, -, htranslate, hinner⟩
  · exact absurd (by decide) (hno _ hcode)
  · rw [htranslate]
    simp only [sampleRegions, List.mem_cons, List.not_mem_nil, or_false] at ha
    rcases ha with rfl | rfl
    · -- the page of code lies in the memory, not around it
      rcases hinner _ hcode (by decide) with heq | hin
      · exact absurd heq (by decide)
      · exact absurd hin.lo (by decide)
    · rfl

end RmmAcs.Xlat
