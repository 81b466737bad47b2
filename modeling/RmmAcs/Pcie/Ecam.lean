/-
# Configuration space through memory

`val_pcie_read_cfg` and `val_pcie_write_cfg` reach the registers of a function through memory.  The
first region of the table that has the bus gives the base, and the 4 KB of a function are at

  base + bus * 1 MB + dev * 32 KB + func * 4 KB,

counted from bus 0, whatever the first bus of the region is.

The rest of the suite takes it for granted that a function has registers of its own: what is written
to it is read back from it, and from nothing else.  The code alone does not see to that; it depends
on where the platform has put the windows of the regions.  They must not overlap, and that is all
(`ecam_registers_iff`).
-/
import RmmAcs.Pcie.Capability
import RmmAcs.Pcie.Regions

namespace RmmAcs.Pcie.Ecam

open RmmAcs.Pcie

/-! ## 1. Access through memory -/

/-- Memory-mapped registers of 32 bits, by their address. -/
abbrev Mmio := UInt64 → UInt32

def palMmioRead32 (addr : UInt64) (m : Mmio) : UInt32 := m addr

def palMmioWrite32 (addr : UInt64) (data : UInt32) (m : Mmio) : Mmio := Function.update m addr data

def PCIE_MAX_BUS : UInt32 := 256

section Access

variable (t : PcieInfoTable)

/-- `while (i < val_pcie_get_info(PCIE_INFO_NUM_ECAM, 0))`: the base of the first region with the bus
and the segment, or 0. -/
def ecamBase (bdf : UInt32) : UInt64 :=
  let bus := (bdfBus bdf).toNat
  let segment := (bdfSeg bdf).toNat
  match (List.range (valPcieGetInfo t .numEcam 0)).find? fun i =>
      decide (valPcieGetInfo t .startBus i ≤ bus) && decide (bus ≤ valPcieGetInfo t .endBus i) &&
        decide (segment = valPcieGetInfo t .segment i) with
  | some i => .ofNat (valPcieGetInfo t .ecam i)
  | none => 0

/-- `cfg_addr`: 4 KB for each function. -/
def cfgAddr (bdf : UInt32) : UInt32 :=
  bdfBus bdf * PCIE_MAX_DEV * PCIE_MAX_FUNC * 4096 + bdfDev bdf * PCIE_MAX_FUNC * 4096
    + bdfFunc bdf * 4096

/-- The check of the fields at the start of each function. -/
def invalidFields (bdf : UInt32) : Bool :=
  decide (bdfBus bdf ≥ PCIE_MAX_BUS) || decide (bdfDev bdf ≥ PCIE_MAX_DEV)
    || decide (bdfFunc bdf ≥ PCIE_MAX_FUNC)

/-- `val_pcie_get_bdf_config_addr`; 0 where there is no mapping. -/
def valPcieGetBdfConfigAddr (bdf : UInt32) : UInt64 :=
  if invalidFields bdf then 0
  else if ecamBase t bdf = 0 then 0
  else ecamBase t bdf + (cfgAddr bdf).toUInt64

/-- `val_pcie_read_cfg`: what it returns, and what is then in `*data`. -/
def valPcieReadCfg (bdf offset : UInt32) (data : Option UInt32) (m : Mmio) : UInt32 × Option UInt32 :=
  if invalidFields bdf then (PCIE_NO_MAPPING, data)
  else if ecamBase t bdf = 0 then (PCIE_NO_MAPPING, data)
  else (0, some (palMmioRead32 (ecamBase t bdf + (cfgAddr bdf).toUInt64 + offset.toUInt64) m))

/-- `val_pcie_write_cfg`. -/
def valPcieWriteCfg (bdf offset data : UInt32) (m : Mmio) : Mmio :=
  if invalidFields bdf then m
  else if ecamBase t bdf = 0 then m
  else palMmioWrite32 (ecamBase t bdf + (cfgAddr bdf).toUInt64 + offset.toUInt64) data m

end Access

/-! ## 2. Windows -/

/-- The addresses of a region. -/
def window (b : PcieInfoBlock) : Set ℕ :=
  {x | b.ecamBase.toNat + b.startBusNum.toNat * 2 ^ 20 ≤ x ∧
    x < b.ecamBase.toNat + (b.endBusNum.toNat + 1) * 2 ^ 20}

/-- What a platform gives each region: eight bits for the segment and the buses, and a base that is
not 0, with room for the buses. -/
structure Mapped (t : PcieInfoTable) : Prop where
  fits : ∀ b ∈ t.block, b.segmentNum.toNat < 256 ∧ b.endBusNum.toNat < 256
  base : ∀ b ∈ t.block, b.ecamBase ≠ 0 ∧ 4 ∣ b.ecamBase.toNat
  room : ∀ b ∈ t.block, b.ecamBase.toNat + (b.endBusNum.toNat + 1) * 2 ^ 20 ≤ 2 ^ 64

/-- A register of a function. -/
def IsReg (offset : UInt32) : Prop := offset.toNat < 4096 ∧ 4 ∣ offset.toNat

instance (offset : UInt32) : Decidable (IsReg offset) := inferInstanceAs (Decidable (_ ∧ _))

section Lookup

variable {t : PcieInfoTable} {b : PcieInfoBlock} {f g : BdfFn} {bdf : UInt32}

/-- The fields are masked, so that they always pass. -/
theorem invalidFields_eq (bdf : UInt32) : invalidFields bdf = false := by
  have h := bdfFields_fits bdf
  have hbus : ¬ bdfBus bdf ≥ PCIE_MAX_BUS := by
    rw [ge_iff_le, UInt32.le_iff_toNat_le]
    exact Nat.not_le.mpr h.bus
  have hdev : ¬ bdfDev bdf ≥ PCIE_MAX_DEV := by
    rw [ge_iff_le, UInt32.le_iff_toNat_le]
    exact Nat.not_le.mpr h.dev
  have hfunc : ¬ bdfFunc bdf ≥ PCIE_MAX_FUNC := by
    rw [ge_iff_le, UInt32.le_iff_toNat_le]
    exact Nat.not_le.mpr h.func
  simp only [invalidFields, hbus, hdev, hfunc, decide_false, Bool.or_false]

theorem readCfg_eq (t : PcieInfoTable) (bdf offset : UInt32) (data : Option UInt32) (m : Mmio) :
    valPcieReadCfg t bdf offset data m = if ecamBase t bdf = 0 then (PCIE_NO_MAPPING, data) else
      (0, some (m (ecamBase t bdf + (cfgAddr bdf).toUInt64 + offset.toUInt64))) := by
  rw [valPcieReadCfg, invalidFields_eq, if_neg (by decide)]
  rfl

theorem writeCfg_eq (t : PcieInfoTable) (bdf offset data : UInt32) (m : Mmio) :
    valPcieWriteCfg t bdf offset data m = if ecamBase t bdf = 0 then m else
      Function.update m (ecamBase t bdf + (cfgAddr bdf).toUInt64 + offset.toUInt64) data := by
  rw [valPcieWriteCfg, invalidFields_eq, if_neg (by decide)]
  rfl

/-- A region has a function if it has the bus and the segment. -/
theorem mem_fns_bdfFields : bdfFields bdf ∈ b.fns ↔
    (b.startBusNum.toNat ≤ (bdfBus bdf).toNat ∧ (bdfBus bdf).toNat ≤ b.endBusNum.toNat) ∧
      (bdfSeg bdf).toNat = b.segmentNum.toNat := by
  have h := bdfFields_fits bdf
  rw [mem_block_fns]
  exact ⟨fun h => ⟨h.2.1, h.1⟩, fun h' => ⟨h'.2, h'.1, h.dev, h.func⟩⟩

/-- **The lookup** finds a region with the function, if there is one. -/
theorem ecamBase_cases (t : PcieInfoTable) (bdf : UInt32) :
    (∃ b ∈ t.block, bdfFields bdf ∈ b.fns ∧ ecamBase t bdf = b.ecamBase) ∨
      bdfFields bdf ∉ t.fns ∧ ecamBase t bdf = 0 := by
  have hcond : ∀ i (hi : i < t.block.length),
      (decide (valPcieGetInfo t .startBus i ≤ (bdfBus bdf).toNat) &&
        decide ((bdfBus bdf).toNat ≤ valPcieGetInfo t .endBus i) &&
        decide ((bdfSeg bdf).toNat = valPcieGetInfo t .segment i)) = true ↔
      bdfFields bdf ∈ (t.block[i]).fns := by
    intro i hi
    rw [startBus_eq hi, endBus_eq hi, segment_eq hi, mem_fns_bdfFields]
    simp only [Bool.and_eq_true, decide_eq_true_eq]
  unfold ecamBase
  dsimp only
  rw [numEcam_eq]
  split
  · rename_i i hfind
    have hi : i < t.block.length := List.mem_range.mp (List.mem_of_find?_eq_some hfind)
    refine Or.inl ⟨t.block[i], List.getElem_mem hi, (hcond i hi).mp ?_, ?_⟩
    · simpa only [Bool.and_eq_true, decide_eq_true_eq] using List.find?_some hfind
    rw [valPcieGetInfo, List.getElem?_eq_getElem hi]
    exact UInt64.ofNat_toNat
  · rename_i hfind
    refine Or.inr ⟨fun hmem => ?_, rfl⟩
    obtain ⟨b, hb, hfb⟩ := List.mem_flatMap.mp hmem
    obtain ⟨i, hi, rfl⟩ := List.mem_iff_getElem.mp hb
    exact List.find?_eq_none.mp hfind i (List.mem_range.mpr hi) ((hcond i hi).mpr hfb)

instance : Std.Symm PcieInfoBlock.Disjoint := ⟨fun _ _ h heq => (h heq.symm).symm⟩

/-- A function is in one region. -/
theorem block_unique {a : PcieInfoBlock} (ha : a ∈ t.block) (hb : b ∈ t.block) (hfa : f ∈ a.fns)
    (hfb : f ∈ b.fns) : a = b := by
  by_contra hne
  obtain ⟨hsa, ⟨hlo, hhi⟩, -⟩ := mem_block_fns.mp hfa
  obtain ⟨hsb, ⟨hlo', hhi'⟩, -⟩ := mem_block_fns.mp hfb
  have hdis := t.disjoint.forall ha hb hne
  rcases hdis (UInt32.toNat_inj.mp (hsa.symm.trans hsb)) with hlt | hlt
  · have hlt' := UInt32.lt_iff_toNat_lt.mp hlt
    omega
  · have hlt' := UInt32.lt_iff_toNat_lt.mp hlt
    omega

theorem fits_of_mem (hm : Mapped t) (hf : f ∈ t.fns) : f.Fits := (fns_fit_iff t).mpr hm.fits f hf

theorem ecamBase_of_mem (hm : Mapped t) (hb : b ∈ t.block) (hf : f ∈ b.fns) :
    ecamBase t f.bdf = b.ecamBase := by
  have hmem : f ∈ t.fns := List.mem_flatMap.mpr ⟨b, hb, hf⟩
  have hfields := (fits_of_mem hm hmem).bdfFields_bdf
  rcases ecamBase_cases t f.bdf with ⟨a, ha, hfa, hbase⟩ | ⟨hno, -⟩
  · rw [hfields] at hfa
    rw [hbase, block_unique ha hb hfa hf]
  · rw [hfields] at hno
    exact absurd hmem hno

/-- **A mapping** is there exactly for the functions of the regions. -/
theorem ecamBase_eq_zero_iff (hm : Mapped t) (bdf : UInt32) :
    ecamBase t bdf = 0 ↔ bdfFields bdf ∉ t.fns := by
  rcases ecamBase_cases t bdf with ⟨b, hb, hf, hbase⟩ | ⟨hno, hbase⟩
  · exact iff_of_false (fun h => (hm.base b hb).1 (hbase ▸ h))
      (not_not.mpr (List.mem_flatMap.mpr ⟨b, hb, hf⟩))
  · exact iff_of_true hbase hno

end Lookup

/-! ## 3. Addresses -/

/-- The address of a register of a function, from the base of its region. -/
def place (f : BdfFn) (offset : ℕ) : ℕ := f.bus * 2 ^ 20 + f.dev * 2 ^ 15 + f.func * 2 ^ 12 + offset

section Addresses

variable {t : PcieInfoTable} {b : PcieInfoBlock} {f g : BdfFn} {o o' : UInt32}

theorem cfgAddr_toNat (h : f.Fits) : (cfgAddr f.bdf).toNat = place f 0 := by
  have hfields := h.bdfFields_bdf
  have hbus : (bdfBus f.bdf).toNat = f.bus := congrArg BdfFn.bus hfields
  have hdev : (bdfDev f.bdf).toNat = f.dev := congrArg BdfFn.dev hfields
  have hfunc : (bdfFunc f.bdf).toNat = f.func := congrArg BdfFn.func hfields
  have hb := h.bus
  have hd := h.dev
  have hf := h.func
  have h32 : PCIE_MAX_DEV.toNat = 32 := rfl
  have h8 : PCIE_MAX_FUNC.toNat = 8 := rfl
  have h4k : (4096 : UInt32).toNat = 4096 := rfl
  simp only [cfgAddr, UInt32.toNat_add, UInt32.toNat_mul, hbus, hdev, hfunc, h32, h8, h4k, place]
  omega

theorem place_injective {n n' : ℕ} (hf : f.Fits) (hg : g.Fits) (hn : n < 4096) (hn' : n' < 4096)
    (h : place f n = place g n') : f.bus = g.bus ∧ f.dev = g.dev ∧ f.func = g.func ∧ n = n' := by
  have hfd := hf.dev
  have hff := hf.func
  have hgd := hg.dev
  have hgf := hg.func
  unfold place at h
  omega

/-- Every address of a window is that of a register, or within one. -/
theorem exists_place {x : ℕ} (hx : x ∈ window b) : ∃ f ∈ b.fns, ∃ n < 4096,
    x = b.ecamBase.toNat + place f n := by
  obtain ⟨hlo, hhi⟩ := hx
  refine ⟨⟨b.segmentNum.toNat, (x - b.ecamBase.toNat) / 2 ^ 20,
    (x - b.ecamBase.toNat) / 2 ^ 15 % 32, (x - b.ecamBase.toNat) / 2 ^ 12 % 8⟩,
    mem_block_fns.mpr ⟨rfl, ⟨?_, ?_⟩, Nat.mod_lt _ (by decide), Nat.mod_lt _ (by decide)⟩,
    (x - b.ecamBase.toNat) % 4096, Nat.mod_lt _ (by decide), ?_⟩
  · dsimp only
    omega
  · dsimp only
    omega
  · dsimp only [place]
    omega

/-- The register at an offset of a function. -/
def regAddr (t : PcieInfoTable) (f : BdfFn) (o : UInt32) : UInt64 :=
  ecamBase t f.bdf + (cfgAddr f.bdf).toUInt64 + o.toUInt64

theorem regAddr_toNat (hm : Mapped t) (hb : b ∈ t.block) (hf : f ∈ b.fns) (ho : IsReg o) :
    (regAddr t f o).toNat = b.ecamBase.toNat + place f o.toNat := by
  have hfits := fits_of_mem hm (List.mem_flatMap.mpr ⟨b, hb, hf⟩)
  have hroom := hm.room b hb
  obtain ⟨-, ⟨-, hhi⟩, hdev, hfunc⟩ := mem_block_fns.mp hf
  have hoff := ho.1
  have hsplit : place f o.toNat = place f 0 + o.toNat := by
    unfold place
    omega
  have hlt : b.ecamBase.toNat + place f o.toNat < 2 ^ 64 := by
    unfold place
    omega
  rw [hsplit] at hlt ⊢
  rw [regAddr, ecamBase_of_mem hm hb hf, UInt64.toNat_add, UInt64.toNat_add, UInt32.toNat_toUInt64,
    UInt32.toNat_toUInt64, cfgAddr_toNat hfits, Nat.mod_add_mod, Nat.mod_eq_of_lt (by omega)]
  omega

theorem regAddr_mem_window (hm : Mapped t) (hb : b ∈ t.block) (hf : f ∈ b.fns) (ho : IsReg o) :
    (regAddr t f o).toNat ∈ window b := by
  obtain ⟨-, ⟨hlo, hhi⟩, hdev, hfunc⟩ := mem_block_fns.mp hf
  have hoff := ho.1
  rw [regAddr_toNat hm hb hf ho]
  unfold window place
  constructor
  · omega
  · omega

/-- **Separate windows, separate registers.** -/
theorem regAddr_injective (hm : Mapped t)
    (hsep : t.block.Pairwise fun a b => Disjoint (window a) (window b)) (hf : f ∈ t.fns)
    (hg : g ∈ t.fns) (ho : IsReg o) (ho' : IsReg o') (h : regAddr t f o = regAddr t g o') :
    f = g ∧ o = o' := by
  obtain ⟨a, ha, hfa⟩ := List.mem_flatMap.mp hf
  obtain ⟨b, hb, hgb⟩ := List.mem_flatMap.mp hg
  have hsame : a = b := by
    by_contra hne
    have hsym : Std.Symm fun a b : PcieInfoBlock => Disjoint (window a) (window b) :=
      ⟨fun _ _ h => h.symm⟩
    have hwin := regAddr_mem_window hm hb hgb ho'
    rw [← h] at hwin
    exact Set.disjoint_left.mp (hsep.forall ha hb hne) (regAddr_mem_window hm ha hfa ho) hwin
  subst hsame
  have hnat := congrArg UInt64.toNat h
  rw [regAddr_toNat hm ha hfa ho, regAddr_toNat hm ha hgb ho'] at hnat
  obtain ⟨hbus, hdev, hfunc, hoff⟩ := place_injective (fits_of_mem hm hf) (fits_of_mem hm hg) ho.1
    ho'.1 (Nat.add_left_cancel hnat)
  have hseg : f.seg = g.seg :=
    (mem_block_fns.mp hfa).1.trans (mem_block_fns.mp hgb).1.symm
  exact ⟨BdfFn.ext hseg hbus hdev hfunc, UInt32.toNat_inj.mp hoff⟩

end Addresses

/-! ## 4. Registers of their own -/

/-- **Each function has registers of its own**: what is written to a register is read back from it,
and from no other register of any function. -/
def OwnRegisters (t : PcieInfoTable) : Prop :=
  ∀ m f g o o' v, f ∈ t.fns → g ∈ t.fns → IsReg o → IsReg o' →
    valPcieReadCfg t g.bdf o' none (valPcieWriteCfg t f.bdf o v m) =
      if f = g ∧ o = o' then (0, some v) else valPcieReadCfg t g.bdf o' none m

section Own

variable {t : PcieInfoTable} {f g : BdfFn} {o o' : UInt32}

theorem read_write (hm : Mapped t) (hf : f ∈ t.fns) (hg : g ∈ t.fns) (m : Mmio) (v : UInt32) :
    valPcieReadCfg t g.bdf o' none (valPcieWriteCfg t f.bdf o v m) =
      if regAddr t g o' = regAddr t f o then (0, some v) else valPcieReadCfg t g.bdf o' none m := by
  have hmapped : ∀ {h : BdfFn}, h ∈ t.fns → ecamBase t h.bdf ≠ 0 := by
    intro h hh h0
    rw [ecamBase_eq_zero_iff hm, (fits_of_mem hm hh).bdfFields_bdf] at h0
    exact h0 hh
  rw [readCfg_eq, readCfg_eq, writeCfg_eq, if_neg (hmapped hf), if_neg (hmapped hg),
    if_neg (hmapped hg)]
  by_cases h : regAddr t g o' = regAddr t f o
  · rw [if_pos h]
    have h' : ecamBase t g.bdf + (cfgAddr g.bdf).toUInt64 + o'.toUInt64 = regAddr t f o := h
    rw [h']
    exact congrArg (fun x => ((0 : UInt32), some x)) (Function.update_self ..)
  · rw [if_neg h]
    exact congrArg (fun x => ((0 : UInt32), some x)) (Function.update_of_ne h ..)

/-- Two windows that meet share a register. -/
theorem exists_shared (hm : Mapped t) {a b : PcieInfoBlock} (ha : a ∈ t.block) (hb : b ∈ t.block)
    (hmeet : ¬ Disjoint (window a) (window b)) : ∃ f ∈ a.fns, ∃ g ∈ b.fns, ∃ o o', IsReg o ∧
      IsReg o' ∧ regAddr t f o = regAddr t g o' := by
  obtain ⟨x, hxa, hxb⟩ := Set.not_disjoint_iff.mp hmeet
  -- round down to a register; windows begin at one
  have ha4 := (hm.base a ha).2
  have hb4 := (hm.base b hb).2
  have hdown : ∀ {c : PcieInfoBlock}, 4 ∣ c.ecamBase.toNat → x ∈ window c →
      x / 4 * 4 ∈ window c := by
    rintro c hc ⟨hlo, hhi⟩
    unfold window
    constructor
    · omega
    · omega
  have hreg : ∀ {c : PcieInfoBlock} {f : BdfFn} {n : ℕ}, 4 ∣ c.ecamBase.toNat → n < 4096 →
      x / 4 * 4 = c.ecamBase.toNat + place f n → IsReg (.ofNat n) ∧ (UInt32.ofNat n).toNat = n := by
    intro c f n hc hn hx
    have hnat : (UInt32.ofNat n).toNat = n :=
      UInt32.toNat_ofNat_of_lt' (Nat.lt_trans hn (by decide))
    refine ⟨⟨by rw [hnat]; exact hn, ?_⟩, hnat⟩
    rw [hnat]
    unfold place at hx
    omega
  obtain ⟨f, hf, n, hn, hfx⟩ := exists_place (hdown ha4 hxa)
  obtain ⟨g, hg, n', hn', hgx⟩ := exists_place (hdown hb4 hxb)
  obtain ⟨ho, hon⟩ := hreg ha4 hn hfx
  obtain ⟨ho', hon'⟩ := hreg hb4 hn' hgx
  refine ⟨f, hf, g, hg, _, _, ho, ho', UInt64.toNat_inj.mp ?_⟩
  rw [regAddr_toNat hm ha hf ho, regAddr_toNat hm hb hg ho', hon, hon', ← hfx, hgx]

/-- The address of the configuration space is 0 where there is no mapping, and else that of the
registers the reads go to. -/
def ConfigAddrs (t : PcieInfoTable) : Prop :=
  (∀ bdf, bdfFields bdf ∉ t.fns → valPcieGetBdfConfigAddr t bdf = 0) ∧
    ∀ f ∈ t.fns, valPcieGetBdfConfigAddr t f.bdf ≠ 0 ∧ ∀ offset m,
      valPcieReadCfg t f.bdf offset none m =
        (0, some (palMmioRead32 (valPcieGetBdfConfigAddr t f.bdf + offset.toUInt64) m))

theorem configAddr_eq (t : PcieInfoTable) (bdf : UInt32) : valPcieGetBdfConfigAddr t bdf =
    if ecamBase t bdf = 0 then 0 else ecamBase t bdf + (cfgAddr bdf).toUInt64 := by
  rw [valPcieGetBdfConfigAddr, invalidFields_eq, if_neg (by decide)]

theorem configAddrs_of_mapped (hm : Mapped t) : ConfigAddrs t := by
  refine ⟨fun bdf hbdf => ?_, fun f hf => ?_⟩
  · rw [configAddr_eq, if_pos ((ecamBase_eq_zero_iff hm bdf).mpr hbdf)]
  · obtain ⟨b, hb, hfb⟩ := List.mem_flatMap.mp hf
    have hbase := (hm.base b hb).1
    have hmapped : ecamBase t f.bdf ≠ 0 := by
      rw [ecamBase_of_mem hm hb hfb]
      exact hbase
    have haddr : valPcieGetBdfConfigAddr t f.bdf = regAddr t f 0 := by
      rw [configAddr_eq, if_neg hmapped, regAddr]
      exact (UInt64.add_zero _).symm
    refine ⟨fun h0 => hbase ?_, fun offset m => ?_⟩
    · -- the base is below the address
      have hnat := regAddr_toNat hm hb hfb (o := 0) ⟨by decide, by decide⟩
      rw [← haddr, h0] at hnat
      refine UInt64.toNat_inj.mp (Nat.le_zero.mp ?_)
      exact (Nat.le_add_right _ _).trans hnat.ge
    · rw [readCfg_eq, if_neg hmapped, configAddr_eq, if_neg hmapped]
      rfl

/-- **Configuration space through memory.**  An access has a mapping exactly if the function is one of
a region, and then its registers lie behind the address of its configuration space; and the functions
have registers of their own exactly if no two windows overlap. -/
theorem ecam_registers_iff (hm : Mapped t) :
    (∀ bdf offset m, (valPcieReadCfg t bdf offset none m).1 = PCIE_NO_MAPPING ↔
      bdfFields bdf ∉ t.fns) ∧
    ConfigAddrs t ∧
    (OwnRegisters t ↔ t.block.Pairwise fun a b => Disjoint (window a) (window b)) := by
  refine ⟨fun bdf offset m => ?_, configAddrs_of_mapped hm, fun hown => ?_,
    fun hsep m f g o o' v hf hg ho ho' => ?_⟩
  · rw [readCfg_eq, ← ecamBase_eq_zero_iff hm]
    by_cases h : ecamBase t bdf = 0
    · rw [if_pos h]
      exact iff_of_true rfl h
    · rw [if_neg h]
      have hne : (0 : UInt32) ≠ PCIE_NO_MAPPING := by decide
      exact iff_of_false hne h
  · -- a register that two functions share
    have hnodup : t.block.Nodup := t.disjoint.imp fun {a b} hdis heq => by
      have hle := UInt32.le_iff_toNat_le.mp b.start_le_end
      subst heq
      rcases hdis rfl with hlt | hlt
      · exact absurd (UInt32.lt_iff_toNat_lt.mp hlt) (Nat.not_lt.mpr hle)
      · exact absurd (UInt32.lt_iff_toNat_lt.mp hlt) (Nat.not_lt.mpr hle)
    refine hnodup.pairwise_of_forall_ne fun a ha b hb hne => ?_
    by_contra hmeet
    obtain ⟨f, hf, g, hg, o, o', ho, ho', hshare⟩ := exists_shared hm ha hb hmeet
    have hft : f ∈ t.fns := List.mem_flatMap.mpr ⟨a, ha, hf⟩
    have hgt : g ∈ t.fns := List.mem_flatMap.mpr ⟨b, hb, hg⟩
    have hfg : ¬ (f = g ∧ o = o') := fun h => hne (block_unique ha hb hf (h.1 ▸ hg))
    have hread := hown (fun _ => 0) f g o o' 1 hft hgt ho ho'
    have hzero : ecamBase t g.bdf ≠ 0 := by
      intro h0
      rw [ecamBase_eq_zero_iff hm, (fits_of_mem hm hgt).bdfFields_bdf] at h0
      exact h0 hgt
    rw [read_write hm hft hgt, if_pos hshare.symm, if_neg hfg, readCfg_eq, if_neg hzero] at hread
    exact absurd (congrArg Prod.snd hread) (by decide)
  · rw [read_write hm hf hg]
    by_cases h : regAddr t g o' = regAddr t f o
    · obtain ⟨rfl, rfl⟩ := regAddr_injective hm hsep hg hf ho' ho h
      rw [if_pos rfl, if_pos ⟨rfl, rfl⟩]
    · rw [if_neg h, if_neg]
      rintro ⟨rfl, rfl⟩
      exact h rfl

/-- Two segments with 16 MB each. -/
def twoWindows : PcieInfoTable where
  block := [⟨0x40000000, 0, 0, 15, by decide⟩, ⟨0x50000000, 1, 0, 15, by decide⟩]
  disjoint := by
    rw [List.pairwise_pair]
    exact fun h => absurd h (by decide)
  nonempty := List.cons_ne_nil _ _

theorem twoWindows_mapped : Mapped twoWindows where
  fits := by
    unfold twoWindows
    decide
  base := by
    unfold twoWindows
    decide
  room := by
    unfold twoWindows
    decide

theorem ecam_registers_two_segments : OwnRegisters twoWindows := by
  refine (ecam_registers_iff twoWindows_mapped).2.2.mpr (List.pairwise_pair.mpr ?_)
  refine Set.disjoint_left.mpr fun x hx hx' => Nat.not_lt.mpr hx'.1 (Nat.lt_of_lt_of_le hx.2 ?_)
  decide

end Own

end RmmAcs.Pcie.Ecam
