/-
# Changing attributes

`xlat_change_mem_attributes_ctx` gives pages other attributes.  It keeps the physical addresses, and it
changes no address outside of its pages; where one of them is not mapped as a page, it changes nothing
(`context_calls`, for all calls that a context can get while it is in use).
`xlat_get_mem_attributes_ctx` reads the attributes of an address.

The addresses to change have to be in the space of the context, and fewer than 2^32 pages: the walk does
not look at the bits above the space (`Ctx.walk_add`), and the loops never reach a greater count.
-/
import RmmAcs.Xlat.Dynamic

namespace RmmAcs.Xlat

open Lib.Radix

/-! ## 1. A page -/

section Page

variable {n : ℕ} {ctx : Ctx n} {s : Tables n} {spans : List Span} {exact d va va' : ℕ}
  {kids : ℕ → Node n}

/-- The trees of the base table, with another leaf for an address. -/
def basePut (kids : ℕ → Node n) (d : ℕ) (a : UInt64) (va : ℕ) : ℕ → Node n :=
  Function.update kids (va / geometry.width d)
    ((kids (va / geometry.width d)).put geometry a d (va / geometry.width d * geometry.width d) va)

theorem div_range (d va : ℕ) : va / geometry.width d * geometry.width d ≤ va ∧
    va < va / geometry.width d * geometry.width d + geometry.width d := by
  have hmod := Nat.div_add_mod' va (geometry.width d)
  have hlt := Nat.mod_lt va (geometry.width_pos d)
  omega

/-- The addresses of a leaf are in one entry of the base table. -/
theorem div_eq_of_leaf {d' lo : ℕ} {a : UInt64} (hfind : baseFind kids d va = some (d', lo, a))
    (hva' : lo ≤ va' ∧ va' < lo + geometry.width d') : va' / geometry.width d = va / geometry.width d := by
  have hwithin := Entry.find_within (div_range d va) hfind
  refine Nat.div_eq_of_lt_le (by omega) ?_
  rw [Nat.succ_mul]
  omega

theorem baseFind_same {d' lo : ℕ} {a : UInt64} (hfind : baseFind kids d va = some (d', lo, a))
    (hva' : lo ≤ va' ∧ va' < lo + geometry.width d') : baseFind kids d va' = some (d', lo, a) := by
  rw [baseFind, div_eq_of_leaf hfind hva']
  exact Entry.find_same (div_range d va) hfind hva'

theorem baseFind_put {d' lo : ℕ} {a a' : UInt64} (hfind : baseFind kids d va = some (d', lo, a)) :
    baseFind (basePut kids d a' va) d va' =
      if lo ≤ va' ∧ va' < lo + geometry.width d' then some (d', lo, a') else baseFind kids d va' := by
  have hrange' := div_range d va'
  rw [baseFind, basePut]
  by_cases hsame : va' / geometry.width d = va / geometry.width d
  · rw [baseFind, hsame, Function.update_self]
    rw [hsame] at hrange'
    exact Entry.find_put (div_range d va) hrange' hfind
  · rw [Function.update_of_ne hsame, if_neg fun hin => hsame (div_eq_of_leaf hfind hin)]
    rfl

/-- The tables that are not in use are left alone. -/
theorem FreeClean.set {t : TableRef n} (h : FreeClean s)
    (hused : ∀ k, t = some k → 0 < s.mappedRegions k) {idx : ℕ} {a : UInt64} :
    FreeClean (s.set t idx a) := by
  intro i hzero j hj
  have hzero' : s.mappedRegions i = 0 := hzero
  have hne : some i ≠ t := fun heq => by
    have hpos := hused i heq.symm
    omega
  rw [Tables.set_table _ _ _ _ hne]
  exact h i hzero' j hj

/-- **One page.** -/
theorem Mapped.changePage (h : Mapped ctx.layout s spans exact kids) (hctx : CtxOk ctx)
    (hva : va < ctx.layout.vaEnd) {attr : UInt32} (htype : TypeValid attr) {lo : ℕ} {a : UInt64}
    (hfind : baseFind kids (XLAT_TABLE_LEVEL_MAX - ctx.layout.baseLevel) va = some (0, lo, a)) :
    ∃ s' kids' a', (∀ count, ctx.changePages attr (count + 1) va s =
        ctx.changePages attr count (va + PAGE_SIZE) s') ∧
      Mapped ctx.layout s' spans exact kids' ∧
      a' &&& TABLE_ADDR_MASK = a &&& TABLE_ADDR_MASK ∧ a' &&& ATTR_BITS = descAttrs ctx.layout.regime attr ∧
      ∀ va', baseFind kids' (XLAT_TABLE_LEVEL_MAX - ctx.layout.baseLevel) va' =
        if lo ≤ va' ∧ va' < lo + PAGE_SIZE then some (0, lo, a')
        else baseFind kids (XLAT_TABLE_LEVEL_MAX - ctx.layout.baseLevel) va' := by
  obtain ⟨hj, hrange⟩ := base_index hva
  obtain ⟨res, hwalk, -, hsome⟩ := h.walk hctx hva
  obtain ⟨table, idx, rfl, hdesc, hused, hput⟩ := hsome 0 lo a hfind
  obtain ⟨⟨hspan, pa, attr₀, hpa, hlt, htype₀, rfl⟩, -⟩ := h.find hva hfind
  have hpage : pa % PAGE_SIZE = 0 := hpa
  have hleaf : IsLeaf ctx.layout.regime 0 (UInt64.ofNat pa ||| leafType (XLAT_TABLE_LEVEL_MAX - 0)
      ||| descAttrs ctx.layout.regime attr) := ⟨pa, attr, hpa, hlt, htype, rfl⟩
  have hadvance := hput _ hleaf.page_aligned.2.2
  refine ⟨_, basePut kids _ _ va, _, fun count => ?_,
    ⟨hadvance.holds, h.clean.set hused, fun j hj' => ?_⟩, ?_, leaf_attrs hpage hlt,
    fun va' => baseFind_put hfind⟩
  · have haligned : pa % xlatBlockSize (XLAT_TABLE_LEVEL_MAX - 0) = 0 := hpa
    have hnew := xlatDesc_eq ctx.layout.regime attr pa (XLAT_TABLE_LEVEL_MAX - 0)
    rw [if_pos ⟨haligned, htype⟩] at hnew
    rw [Ctx.changePages, hwalk]
    simp only [Option.bind_eq_bind, Option.bind_some, hdesc, memAttributes_desc _ _ hpage hlt htype₀,
      leaf_addr hpa hlt, hnew]
  · unfold basePut
    by_cases hsame : j = va / geometry.width (XLAT_TABLE_LEVEL_MAX - ctx.layout.baseLevel)
    · subst hsame
      rw [Function.update_self]
      refine (h.all _ hj).put hrange fun d' lo' a₀ hfind' hin => ⟨hin.1, ?_⟩
      have heq := hfind'.symm.trans hfind
      cases heq
      exact hleaf
    · rw [Function.update_of_ne hsame]
      exact h.all j hj'
  · rw [desc_addr _ _ hpage hlt, desc_addr _ _ hpage hlt]

end Page

/-! ## 2. All pages -/

section Pages

variable {n : ℕ} {ctx : Ctx n} {s : Tables n} {spans : List Span} {exact : ℕ} {kids : ℕ → Node n}
  {attr : UInt32}

/-- These pages are mapped as pages. -/
def ArePages (kids : ℕ → Node n) (d va count : ℕ) : Prop :=
  ∀ k < count, ∃ a, baseFind kids d (va + k * PAGE_SIZE) = some (0, va + k * PAGE_SIZE, a)

/-- **The first loop** finds out whether the pages are mapped as pages. -/
theorem Mapped.checkPages (h : Mapped ctx.layout ctx.tables spans exact kids) (hctx : CtxOk ctx)
    {count va : ℕ} (hdvd : PAGE_SIZE ∣ va) (hin : va + count * PAGE_SIZE ≤ ctx.layout.vaEnd) :
    ∃ b, ctx.checkPages attr count va = some b ∧
      (b = true → ArePages kids (XLAT_TABLE_LEVEL_MAX - ctx.layout.baseLevel) va count) := by
  induction count generalizing va with
  | zero => exact ⟨true, rfl, fun _ k hk => absurd hk (Nat.not_lt_zero k)⟩
  | succ count ih =>
    rw [Nat.succ_mul] at hin
    have hpos : 0 < PAGE_SIZE := by decide
    have hva : va < ctx.layout.vaEnd := by omega
    obtain ⟨res, hwalk, hnone, hsome⟩ := h.walk hctx hva
    rw [Ctx.checkPages, hwalk]
    cases hfind : baseFind kids (XLAT_TABLE_LEVEL_MAX - ctx.layout.baseLevel) va with
    | none =>
      rw [hnone hfind]
      exact ⟨false, rfl, nofun⟩
    | some leaf =>
      obtain ⟨d, lo, a⟩ := leaf
      obtain ⟨table, idx, rfl, -⟩ := hsome d lo a hfind
      simp only [Option.bind_eq_bind, Option.bind_some]
      split_ifs with hgranule hdevice
      · exact ⟨false, rfl, nofun⟩
      · exact ⟨false, rfl, nofun⟩
      · -- it is a page, and it starts at the address
        have hd : d = 0 := by
          have hlevel := not_not.mp fun hne => hgranule (Or.inr hne)
          unfold XLAT_TABLE_LEVEL_MAX at hlevel
          omega
        subst hd
        obtain ⟨-, hlo, hle, hlt⟩ := h.find hva hfind
        have heq : lo = va := by
          obtain ⟨p, rfl⟩ := hdvd
          obtain ⟨q, rfl⟩ : PAGE_SIZE ∣ lo := hlo
          have hqp : q ≤ p := Nat.le_of_mul_le_mul_left hle hpos
          have hpq : PAGE_SIZE * p < PAGE_SIZE * (q + 1) := hlt
          have hpq := Nat.lt_of_mul_lt_mul_left hpq
          have heq : q = p := by omega
          rw [heq]
        subst heq
        obtain ⟨b, hrest, hpages⟩ := ih (Nat.dvd_add hdvd (Nat.dvd_refl _)) (by omega)
        refine ⟨b, hrest, fun hb k hk => ?_⟩
        cases k with
        | zero =>
          rw [Nat.zero_mul, Nat.add_zero]
          exact ⟨a, hfind⟩
        | succ k =>
          have hnext := hpages hb k (Nat.lt_of_succ_lt_succ hk)
          rw [Nat.add_assoc, Nat.add_comm PAGE_SIZE, ← Nat.succ_mul] at hnext
          exact hnext

/-- **The second loop** gives them other attributes. -/
theorem Mapped.changePages (h : Mapped ctx.layout s spans exact kids) (hctx : CtxOk ctx)
    (htype : TypeValid attr) {count va : ℕ} (hin : va + count * PAGE_SIZE ≤ ctx.layout.vaEnd)
    (hpages : ArePages kids (XLAT_TABLE_LEVEL_MAX - ctx.layout.baseLevel) va count) :
    ∃ s' kids', ctx.changePages attr count va s = some s' ∧ Mapped ctx.layout s' spans exact kids' ∧
      ∀ va', if va ≤ va' ∧ va' < va + count * PAGE_SIZE then
          ∃ pa attrs, lookup kids (XLAT_TABLE_LEVEL_MAX - ctx.layout.baseLevel) va' = some (pa, attrs) ∧
            lookup kids' (XLAT_TABLE_LEVEL_MAX - ctx.layout.baseLevel) va' =
              some (pa, descAttrs ctx.layout.regime attr)
        else lookup kids' (XLAT_TABLE_LEVEL_MAX - ctx.layout.baseLevel) va' =
          lookup kids (XLAT_TABLE_LEVEL_MAX - ctx.layout.baseLevel) va' := by
  induction count generalizing va s kids with
  | zero =>
    refine ⟨s, kids, rfl, h, fun va' => ?_⟩
    rw [if_neg (by omega)]
  | succ count ih =>
    rw [Nat.succ_mul] at hin
    have hpos : 0 < PAGE_SIZE := by decide
    obtain ⟨a, hfind⟩ := hpages 0 (Nat.succ_pos count)
    rw [Nat.zero_mul, Nat.add_zero] at hfind
    obtain ⟨s₁, kids₁, a', hstep, hmapped, haddr, hattrs, hfound⟩ :=
      h.changePage hctx (by omega) htype hfind
    have hpages' : ArePages kids₁ (XLAT_TABLE_LEVEL_MAX - ctx.layout.baseLevel) (va + PAGE_SIZE) count := by
      intro k hk
      have hnext := hpages (k + 1) (Nat.succ_lt_succ hk)
      rw [Nat.succ_mul, Nat.add_comm (k * PAGE_SIZE), ← Nat.add_assoc] at hnext
      rw [hfound, if_neg (by omega)]
      exact hnext
    obtain ⟨s', kids', hrest, hmapped', hlookup⟩ := ih hmapped (by omega) hpages'
    refine ⟨s', kids', (hstep count).trans hrest, hmapped', fun va' => ?_⟩
    have hrest := hlookup va'
    rw [Nat.succ_mul]
    by_cases hpage : va ≤ va' ∧ va' < va + PAGE_SIZE
    · -- the page itself
      rw [if_neg (by omega)] at hrest
      rw [if_pos (by omega)]
      refine ⟨_, _, congrArg (Option.map (leafTranslation va')) (baseFind_same hfind hpage), ?_⟩
      rw [hrest, lookup, hfound, if_pos hpage, ← hattrs, ← haddr]
      rfl
    · have hsame : lookup kids₁ (XLAT_TABLE_LEVEL_MAX - ctx.layout.baseLevel) va' =
          lookup kids (XLAT_TABLE_LEVEL_MAX - ctx.layout.baseLevel) va' := by
        rw [lookup, lookup, hfound, if_neg hpage]
      rw [hsame] at hrest
      by_cases hlater : va + PAGE_SIZE ≤ va' ∧ va' < va + PAGE_SIZE + count * PAGE_SIZE
      · rw [if_pos hlater] at hrest
        rw [if_pos (by omega)]
        exact hrest
      · rw [if_neg hlater] at hrest
        rw [if_neg (by omega)]
        exact hrest

end Pages

/-! ## 3. Calls -/

section Calls

variable {n : ℕ} {ctx ctx' : Ctx n} {baseVa size : ℕ} {attr : UInt32}

/-- **What a change does**: other attributes for its pages if it succeeds, and nothing but `-EINVAL` if it
fails. -/
def Changes (ctx : Ctx n) (baseVa size : ℕ) (attr : UInt32) (ret : ℤ) (ctx' : Ctx n) : Prop :=
  if ret = 0 then ctx'.mmap = ctx.mmap ∧ ∀ va ≤ ctx.vaMaxAddress,
    if baseVa ≤ va ∧ va < baseVa + size then
      ∃ pa attrs, ctx.translate va = some (pa, attrs) ∧
        ctx'.translate va = some (pa, descAttrs ctx.layout.regime attr)
    else ctx'.translate va = ctx.translate va
  else ret = -EINVAL ∧ ctx' = ctx

/-- **Changing.** -/
theorem Live.change (h : Live ctx) (htype : TypeValid attr) (hin : baseVa + size ≤ ctx.vaMaxAddress + 1)
    (hcount : size / PAGE_SIZE < 2 ^ 32) :
    ∃ ret ctx', xlatChangeMemAttributesCtx ctx baseVa size attr = some (ret, ctx') ∧ Live ctx' ∧
      SameSpace ctx ctx' ∧ Changes ctx baseVa size attr ret ctx' := by
  have hrefused : ∀ {x : Option (ℤ × Ctx n)}, x = some (-EINVAL, ctx) → ∃ ret ctx', x = some (ret, ctx') ∧
      Live ctx' ∧ SameSpace ctx ctx' ∧ Changes ctx baseVa size attr ret ctx' := by
    rintro x rfl
    refine ⟨_, ctx, rfl, h, ⟨rfl, rfl⟩, ?_⟩
    rw [Changes, if_neg (by decide)]
    exact ⟨rfl, rfl⟩
  unfold xlatChangeMemAttributesCtx
  simp only [h.initialized, guard_true, Option.pure_def, Option.bind_eq_bind, Option.bind_some]
  by_cases halign : baseVa % PAGE_SIZE ≠ 0
  · rw [if_pos halign]
    exact hrefused rfl
  rw [if_neg halign]
  by_cases hzero : size = 0
  · rw [if_pos hzero]
    exact hrefused rfl
  rw [if_neg hzero]
  by_cases hpart : size % PAGE_SIZE ≠ 0
  · rw [if_pos hpart]
    exact hrefused rfl
  rw [if_neg hpart]
  by_cases hwx : attr &&& MT_EXECUTE_NEVER = 0 ∧ attr &&& MT_RW ≠ 0
  · rw [if_pos hwx]
    exact hrefused rfl
  rw [if_neg hwx]
  obtain ⟨kids, hmapped⟩ := h.mapped
  have hdvd : PAGE_SIZE ∣ baseVa := Nat.dvd_of_mod_eq_zero (not_not.mp halign)
  have hsize : size / PAGE_SIZE * PAGE_SIZE = size :=
    Nat.div_mul_cancel (Nat.dvd_of_mod_eq_zero (not_not.mp hpart))
  have hspace : baseVa + size / PAGE_SIZE * PAGE_SIZE ≤ ctx.layout.vaEnd := by
    rw [hsize]
    exact hin.trans h.base.va_le
  obtain ⟨b, hcheck, hpages⟩ : ∃ b, ctx.checkPages attr (size / PAGE_SIZE) baseVa = some b ∧
      (b = true → ArePages kids (XLAT_TABLE_LEVEL_MAX - ctx.layout.baseLevel) baseVa (size / PAGE_SIZE)) :=
    hmapped.checkPages h.base hdvd hspace
  rw [if_pos hcount, hcheck]
  cases b with
  | false => exact hrefused rfl
  | true =>
    obtain ⟨s', kids', hchange, hmapped', hlookup⟩ :=
      hmapped.changePages h.base htype hspace (hpages rfl)
    simp only [Option.bind_some, if_true, hcount, guard_true, Option.pure_def, hchange]
    have hlive : Live { ctx with tables := s', initialized := true } := h.withTables hmapped' rfl
    refine ⟨0, _, rfl, hlive, ⟨rfl, rfl⟩, ?_⟩
    rw [Changes, if_pos rfl]
    refine ⟨rfl, fun va hva => ?_⟩
    have hva' := hlookup va
    rw [hsize, ← (h.lookup_eq hmapped hva).2] at hva'
    rw [(hlive.lookup_eq hmapped' hva).2]
    exact hva'

/-- **Physical addresses stay.** -/
theorem Changes.agrees {ret : ℤ} (h : Changes ctx baseVa size attr ret ctx') (hspace : SameSpace ctx ctx')
    (hagree : ctx.Agrees Prod.fst) : ctx'.Agrees Prod.fst := by
  unfold Changes at h
  split_ifs at h with hret
  · obtain ⟨hmmap, htranslate⟩ := h
    intro va hva
    rw [hspace.2] at hva
    have hbefore := hagree va hva
    have hafter := htranslate va hva
    rw [hmmap, hspace.1, ← hbefore]
    split_ifs at hafter with hin
    · obtain ⟨pa, attrs, hold, hnew⟩ := hafter
      rw [hold, hnew]
      rfl
    · rw [hafter]
  · rw [h.2]
    exact hagree

/-- The addresses a walk can tell apart. -/
def Ctx.walkSpan (ctx : Ctx n) : ℕ := geometry.width (XLAT_TABLE_LEVEL_MAX - ctx.layout.baseLevel + 1)

/-- The walk does not look at the bits above the space. -/
theorem Ctx.walk_add (hctx : CtxOk ctx) (s : Tables n) (va k : ℕ) :
    ctx.walk s (va + k * ctx.walkSpan) = ctx.walk s va := by
  have hd : XLAT_TABLE_LEVEL_MAX - ctx.layout.baseLevel ≤ 3 := Nat.sub_le _ _
  rw [Ctx.walk, Ctx.walk, ← hctx.level, ← findXlatTableEntry_mod hd, ← findXlatTableEntry_mod hd va,
    Ctx.walkSpan, Nat.add_mul_mod_self_right]

/-- **What reading does**: the attributes that the descriptor of the address has, as the library reports
them, or `-EINVAL` where nothing is mapped. -/
def Reads (ctx : Ctx n) (va : ℕ) (res : ℤ × Option UInt32) : Prop :=
  ctx.translate va = none ∧ res = (-EINVAL, none) ∨
    ∃ pa attr, ctx.translate va = some (pa, descAttrs ctx.layout.regime attr) ∧ TypeValid attr ∧
      res = (0, some (readBack ctx.layout.regime attr))

/-- **Reading**, of an address of the space and of those above it that the walk takes for it. -/
theorem Live.get (h : Live ctx) {va : ℕ} (hva : va ≤ ctx.vaMaxAddress) (k : ℕ) :
    ∃ res, xlatGetMemAttributesCtx ctx (va + k * ctx.walkSpan) = some res ∧ Reads ctx va res := by
  obtain ⟨kids, hmapped⟩ := h.mapped
  obtain ⟨hlt, htranslate⟩ := h.lookup_eq hmapped hva
  obtain ⟨res, hwalk, hnone, hsome⟩ := hmapped.walk h.base hlt
  unfold xlatGetMemAttributesCtx Reads
  rw [Ctx.walk_add h.base, hwalk, htranslate, lookup]
  simp only [h.initialized, guard_true, Option.pure_def, Option.bind_eq_bind, Option.bind_some]
  cases hfind : baseFind kids (XLAT_TABLE_LEVEL_MAX - ctx.layout.baseLevel) va with
  | none =>
    rw [hnone hfind]
    exact ⟨_, rfl, Or.inl ⟨rfl, rfl⟩⟩
  | some leaf =>
    obtain ⟨d, lo, a⟩ := leaf
    obtain ⟨table, idx, rfl, hdesc, -⟩ := hsome d lo a hfind
    obtain ⟨⟨-, pa, attr, hpa, hpaLt, htype, ha⟩, -⟩ := hmapped.find hlt hfind
    have hpage : pa % PAGE_SIZE = 0 :=
      Nat.mod_eq_zero_of_dvd ((width_dvd (Nat.zero_le d)).trans (Nat.dvd_of_mod_eq_zero hpa))
    have hattrs : a &&& ATTR_BITS = descAttrs ctx.layout.regime attr := by
      rw [ha, leaf_attrs hpage hpaLt]
    have hread : memAttributes ctx.layout.regime a = some (readBack ctx.layout.regime attr) := by
      rw [ha, memAttributes_desc _ _ hpage hpaLt htype]
    simp only [hdesc, hread, Option.bind_some]
    refine ⟨_, rfl, Or.inr ⟨(leafTranslation va (d, lo, a)).1, attr, ?_, htype, rfl⟩⟩
    rw [← hattrs]
    rfl

/-- The contexts that come up while a context is in use. -/
inductive Runs : Ctx n → Ctx n → Prop where
  | refl (ctx : Ctx n) : Runs ctx ctx
  | call {ctx ctx' ctx'' : Ctx n} {call : DynamicCall} {ret : ℤ} (h : Runs ctx ctx')
      (hvalid : call.Valid) (henough : call.Enough ctx') (hret : call.toCall.run ctx' = some (ret, ctx'')) :
      Runs ctx ctx''
  | change {ctx ctx' ctx'' : Ctx n} {baseVa size : ℕ} {attr : UInt32} {ret : ℤ} (h : Runs ctx ctx')
      (htype : TypeValid attr) (hin : baseVa + size ≤ ctx'.vaMaxAddress + 1)
      (hcount : size / PAGE_SIZE < 2 ^ 32)
      (hret : xlatChangeMemAttributesCtx ctx' baseVa size attr = some (ret, ctx'')) : Runs ctx ctx''

theorem Live.runs (h : Live ctx) (hagree : ctx.Agrees Prod.fst) (hruns : Runs ctx ctx') :
    Live ctx' ∧ SameSpace ctx ctx' ∧ ctx'.Agrees Prod.fst := by
  induction hruns with
  | refl => exact ⟨h, ⟨rfl, rfl⟩, hagree⟩
  | call _ hvalid henough hret ih =>
    obtain ⟨hlive, hspace, hagree⟩ := ih
    obtain ⟨ret, ctx', hret', hlive', hspace', hdoes⟩ := hlive.call hvalid henough
    have heq := hret.symm.trans hret'
    cases heq
    exact ⟨hlive', ⟨hspace'.1.trans hspace.1, hspace'.2.trans hspace.2⟩,
      hdoes.agrees hlive hlive' hspace' hagree⟩
  | change _ htype hin hcount hret ih =>
    obtain ⟨hlive, hspace, hagree⟩ := ih
    obtain ⟨ret, ctx', hret', hlive', hspace', hchanges⟩ := hlive.change htype hin hcount
    have heq := hret.symm.trans hret'
    cases heq
    exact ⟨hlive', ⟨hspace'.1.trans hspace.1, hspace'.2.trans hspace.2⟩, hchanges.agrees hspace' hagree⟩

/-- **A context in use.**  Whatever the order of the calls, an address is mapped exactly if a region has
it, and to the physical address that the region says; and the next call does what it is for,
reading included: no assertion fails. -/
theorem context_calls {start ctx₀ : Ctx n} {mms : List MmapRegion} (hstart : Fresh start)
    (hmms : ∀ mm ∈ mms, mm.Addable) (hadd : mmapAddCtx start mms = some ctx₀)
    (hall : ctx₀.allMapped ctx₀.mmap (Tables.zero n) = true) (hinit : initXlatTablesCtx ctx₀ = some ctx)
    (hruns : Runs ctx ctx') :
    (∀ va ≤ start.vaMaxAddress, ctx'.translate va = none ∧ (∀ a ∈ ctx'.mmap, va ∉ a.span) ∨
        ∃ a ∈ ctx'.mmap, va ∈ a.span ∧ ∃ attrs, ctx'.translate va = some (a.pa va, attrs)) ∧
      (∀ call : DynamicCall, call.Valid → call.Enough ctx' →
        ∃ ret ctx'', call.toCall.run ctx' = some (ret, ctx'') ∧ call.Does ctx' ret ctx'') ∧
      (∀ baseVa size attr, TypeValid attr → baseVa + size ≤ start.vaMaxAddress + 1 →
        size / PAGE_SIZE < 2 ^ 32 →
        ∃ ret ctx'', xlatChangeMemAttributesCtx ctx' baseVa size attr = some (ret, ctx'') ∧
          Changes ctx' baseVa size attr ret ctx'') ∧
      ∀ va ≤ start.vaMaxAddress, ∀ k,
        ∃ res, xlatGetMemAttributesCtx ctx' (va + k * ctx'.walkSpan) = some res ∧ Reads ctx' va res := by
  obtain ⟨hlive₀, hagree₀, hspace₀⟩ := (hstart.addAll hmms hadd).live hmms hall hinit
  have hagreePa : ctx.Agrees Prod.fst := fun va hva => by
    have hagree := congrArg (Option.map Prod.fst) (hagree₀ va hva)
    rw [Option.map_map, Option.map_map] at hagree
    exact hagree
  obtain ⟨hlive, hspace, hagree⟩ := hlive₀.runs hagreePa hruns
  refine ⟨fun va hva => ?_, fun call hvalid henough => ?_, fun baseVa size attr htype hin hcount => ?_,
    fun va hva k => ?_⟩
  · rw [← hspace₀.2, ← hspace.2] at hva
    rcases hlive.array.translates hagree hva with hnone | ⟨a, ha, hspan, ⟨x, hx, hpa⟩, -⟩
    · exact Or.inl hnone
    · refine Or.inr ⟨a, ha, hspan, x.2, ?_⟩
      have hpa : x.1 = a.pa va := hpa
      rw [hx, ← hpa]
  · obtain ⟨ret, ctx'', hret, -, -, hdoes⟩ := hlive.call hvalid henough
    exact ⟨ret, ctx'', hret, hdoes⟩
  · rw [← hspace₀.2, ← hspace.2] at hin
    obtain ⟨ret, ctx'', hret, -, -, hchanges⟩ := hlive.change htype hin hcount
    exact ⟨ret, ctx'', hret, hchanges⟩
  · rw [← hspace₀.2, ← hspace.2] at hva
    exact hlive.get hva k

end Calls

theorem context_calls_sample : ∃ ctx₀ ctx ctx', mmapAddCtx sampleCtx sampleRegions = some ctx₀ ∧
    initXlatTablesCtx ctx₀ = some ctx ∧
    xlatChangeMemAttributesCtx ctx 0x40002000 0x1000 MT_MEMORY = some (0, ctx') ∧
    ∃ pa attrs, ctx.translate 0x40002008 = some (pa, attrs) ∧
      ctx'.translate 0x40002008 = some (pa, descAttrs ctx.layout.regime MT_MEMORY) := by
  have hrun : ((mmapAddCtx sampleCtx sampleRegions).bind fun ctx₀ => (initXlatTablesCtx ctx₀).bind fun ctx =>
      (xlatChangeMemAttributesCtx ctx 0x40002000 0x1000 MT_MEMORY).map fun res =>
        ctx₀.allMapped ctx₀.mmap (Tables.zero 2) && ctx.vaMaxAddress == 2 ^ 32 - 1 && res.1 == 0) =
      some true := by decide +kernel
  obtain ⟨ctx₀, hadd, hrun⟩ := Option.bind_eq_some_iff.mp hrun
  obtain ⟨ctx, hinit, hrun⟩ := Option.bind_eq_some_iff.mp hrun
  obtain ⟨⟨ret, ctx'⟩, hret, hrun⟩ := Option.map_eq_some_iff.mp hrun
  obtain ⟨hrun, hzero⟩ := Bool.and_eq_true_iff.mp hrun
  obtain ⟨hall, hmax⟩ := Bool.and_eq_true_iff.mp hrun
  obtain rfl : ret = 0 := beq_iff_eq.mp hzero
  obtain ⟨-, -, hchange, -⟩ :=
    context_calls sampleCtx_fresh sampleRegions_addable hadd hall hinit (.refl ctx)
  obtain ⟨ret, ctx'', hret', hchanges⟩ :=
    hchange 0x40002000 0x1000 MT_MEMORY (by decide) (by decide +kernel) (by decide)
  have heq := hret.symm.trans hret'
  cases heq
  rw [Changes, if_pos rfl] at hchanges
  have hpage := hchanges.2 0x40002008 (by rw [beq_iff_eq.mp hmax]; decide)
  rw [if_pos (by decide)] at hpage
  exact ⟨ctx₀, ctx, ctx', hadd, hinit, hret, hpage⟩

end RmmAcs.Xlat
