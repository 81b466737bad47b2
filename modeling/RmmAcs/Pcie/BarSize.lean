/-
# The size of a BAR, and the ranges of a device

A BAR tells its size by the address bits it keeps when all ones are written to it.  The register is
live: `val_pcie_get_bar` has to put back what was there, and it takes a 64-bit BAR apart into two
registers, each with a mask of its own.  From 4 GB on the lower register keeps no bit at all, and the
whole size is in the upper one.  All of this is right, for every size and every address
(`get_bar_exact`), and no register is left changed.

`val_host_get_addr_range` goes through the BARs of a device and lists their ranges.  At the first BAR
that is not implemented it STOPS, so what lies behind a gap is missing in the list; and the end of a
range at the very top of the address space is 0 (`addr_ranges_exact_iff`).
-/
import Mathlib

namespace RmmAcs.Pcie

/-! ## 1. Registers -/

/-- A register of the configuration space: the bits that can be written, and its value. -/
structure CfgReg where
  mask : UInt32
  value : UInt32
deriving DecidableEq, Repr

/-- The bits that cannot be written stay. -/
def CfgReg.write (v : UInt32) (r : CfgReg) : CfgReg :=
  { r with value := (v &&& r.mask) ||| (r.value &&& ~~~r.mask) }

/-- The registers of a function by their offset. -/
abbrev CfgRegs := UInt32 → CfgReg

namespace CfgRegs

def read (cfg : CfgRegs) (offset : UInt32) : UInt32 := (cfg offset).value

def write (cfg : CfgRegs) (offset v : UInt32) : CfgRegs :=
  Function.update cfg offset ((cfg offset).write v)

end CfgRegs

/-! ## 2. The functions -/

def BAR_MASK : UInt32 := 0xFFFFFFF0
def BAR_64_BIT : UInt32 := 1
def BAR0_OFFSET : UInt32 := 0x10
def BAR_TYPE_0_MAX_OFFSET : UInt32 := 0x24
def NCOH_ADDR_RANGE_NUM : ℕ := 6

/-- `BAR_REG(bar_reg_value)` -/
def barReg (v : UInt32) : UInt32 := (v >>> 2) &&& 1

/-- `pci_bar_size_helper`: what the register reads after all ones have been written to it. -/
def pciBarSizeHelper (cfg : CfgRegs) (offset : UInt32) : UInt32 × CfgRegs :=
  let bar := cfg.read offset
  let cfg := cfg.write offset 0xFFFFFFFF
  let val := cfg.read offset
  (val, cfg.write offset bar)

/-- What `val_pcie_get_bar` returns, with `*addr` and `*size`. -/
structure BarInfo where
  offset : UInt32
  addr : UInt64
  size : UInt64
deriving DecidableEq, Repr

def valPcieGetBar (cfg : CfgRegs) (offset : UInt32) : BarInfo × CfgRegs :=
  let (size0, cfg) := pciBarSizeHelper cfg offset
  if size0 = 0 then (⟨offset, 0, 0⟩, cfg)
  else
    let bar0 := cfg.read offset
    let size0 := size0 &&& BAR_MASK
    let offset := offset + 4
    if barReg bar0 = BAR_64_BIT then
      let bar4 := cfg.read offset
      let (size4, cfg) := pciBarSizeHelper cfg offset
      let bar0 := bar0 &&& BAR_MASK
      (⟨offset + 4, (bar4.toUInt64 <<< 32) ||| bar0.toUInt64,
        ~~~((size4.toUInt64 <<< 32) ||| size0.toUInt64) + 1⟩, cfg)
    else (⟨offset, (bar0 &&& BAR_MASK).toUInt64, (~~~size0 + 1).toUInt64⟩, cfg)

/-- A range of `ncoh_addr_range`. -/
structure AddrRange where
  base : UInt64
  top : UInt64
deriving DecidableEq, Repr

/-- The loop of `val_host_get_addr_range`, with the ranges recorded so far: their number is both `i`
and `ncoh_num_addr_range`. -/
def addrRangeLoop : ℕ → CfgRegs → UInt32 → List AddrRange → List AddrRange × CfgRegs
  | 0, cfg, _, ranges => (ranges, cfg)
  | n + 1, cfg, offset, ranges =>
    let (bar, cfg) := valPcieGetBar cfg offset
    if bar.size = 0 then (ranges, cfg)
    else
      let ranges := ranges ++ [⟨bar.addr, bar.addr + bar.size⟩]
      if bar.offset > BAR_TYPE_0_MAX_OFFSET then (ranges, cfg)
      else addrRangeLoop n cfg bar.offset ranges

/-- `val_host_get_addr_range`. -/
def valHostGetAddrRange (cfg : CfgRegs) : List AddrRange × CfgRegs :=
  addrRangeLoop NCOH_ADDR_RANGE_NUM cfg BAR0_OFFSET []

/-! ## 3. Memory BARs -/

/-- The number of address bits of a BAR. -/
def barWidth (wide : Bool) : ℕ := if wide then 64 else 32

/-- **A memory BAR**: of 32 or 64 bits, its size `2 ^ k`, the address it holds, which is a multiple of
the size, and its four attribute bits: bit 0 says that it is for memory, bit 2 how wide it is. -/
structure MemBar where
  wide : Bool
  k : ℕ
  addr : ℕ
  attr : ℕ
  four_le : 4 ≤ k
  lt_width : k < barWidth wide
  aligned : 2 ^ k ∣ addr
  addr_lt : addr < 2 ^ barWidth wide
  attr_lt : attr < 16
  memory : attr % 2 = 0
  attr_wide : attr / 4 % 2 = if wide then 1 else 0

/-- The registers at an offset are those of the BAR: its address bits below the size, and its
attributes, cannot be written. -/
structure CfgRegs.HasBar (cfg : CfgRegs) (offset : UInt32) (b : MemBar) : Prop where
  mask : (cfg offset).mask.toNat = 2 ^ 32 - 2 ^ min b.k 32
  value : (cfg offset).value.toNat = b.addr % 2 ^ 32 + b.attr
  mask_upper : b.wide = true → (cfg (offset + 4)).mask.toNat = 2 ^ 32 - 2 ^ (b.k - 32)
  value_upper : b.wide = true → (cfg (offset + 4)).value.toNat = b.addr / 2 ^ 32

/-! ## 4. Probing a register -/

/-- What was in a register is put back. -/
theorem CfgReg.write_write (r : CfgReg) (v : UInt32) : (r.write v).write r.value = r := by
  have hvalue : (r.value &&& r.mask) ||| (((v &&& r.mask) ||| (r.value &&& ~~~r.mask)) &&& ~~~r.mask)
      = r.value := by
    rw [← UInt32.toBitVec_inj]
    ext i hi
    simp only [UInt32.toBitVec_or, UInt32.toBitVec_and, UInt32.toBitVec_not, BitVec.getElem_or,
      BitVec.getElem_and, BitVec.getElem_not]
    cases r.value.toBitVec[i] with
    | true => cases r.mask.toBitVec[i] <;> cases v.toBitVec[i] <;> rfl
    | false => cases r.mask.toBitVec[i] <;> cases v.toBitVec[i] <;> rfl
  rw [CfgReg.write, CfgReg.write]
  simp only [hvalue]

/-- What a register reads after all ones: the bits that can be written, and the others of its value. -/
def CfgReg.probe (r : CfgReg) : UInt32 := r.mask ||| (r.value &&& ~~~r.mask)

/-- **Probing** leaves all registers as they were. -/
theorem pciBarSizeHelper_eq (cfg : CfgRegs) (offset : UInt32) :
    pciBarSizeHelper cfg offset = ((cfg offset).probe, cfg) := by
  have hones : 0xFFFFFFFF &&& (cfg offset).mask = (cfg offset).mask := UInt32.neg_one_and
  have hback : (cfg.write offset 0xFFFFFFFF).write offset (cfg.read offset) = cfg := by
    rw [CfgRegs.write, CfgRegs.write, CfgRegs.read, Function.update_self, Function.update_idem,
      CfgReg.write_write, Function.update_eq_self]
  rw [pciBarSizeHelper]
  simp only [hback]
  rw [CfgRegs.write, CfgRegs.read, Function.update_self, CfgReg.write, hones, CfgReg.probe]

/-! ## 5. Masks -/

theorem high_mask_eq {k w : ℕ} (hk : k ≤ w) : 2 ^ w - 2 ^ k = (2 ^ (w - k) - 1) <<< k := by
  rw [Nat.shiftLeft_eq, Nat.sub_mul, one_mul, ← pow_add, Nat.sub_add_cancel hk]

/-- The high bits of a number. -/
theorem and_high_mask {x k w : ℕ} (hx : x < 2 ^ w) (hk : k ≤ w) :
    x &&& (2 ^ w - 2 ^ k) = x / 2 ^ k * 2 ^ k := by
  refine Nat.eq_of_testBit_eq fun i => ?_
  rw [high_mask_eq hk, ← Nat.shiftRight_eq_div_pow, ← Nat.shiftLeft_eq, Nat.testBit_and, Nat.testBit_shiftLeft,
    Nat.testBit_shiftLeft, Nat.testBit_two_pow_sub_one, Nat.testBit_shiftRight]
  by_cases hki : k ≤ i
  · by_cases hiw : i < w
    · simp [hki, show i - k < w - k by omega, Nat.add_sub_cancel' hki]
    · have hbit : x.testBit i = false :=
        Nat.testBit_lt_two_pow (Nat.lt_of_lt_of_le hx (Nat.pow_le_pow_right (by decide) (by omega)))
      simp [hki, Nat.add_sub_cancel' hki, hbit]
  · simp [hki]

/-- The mask of the high bits, with low bits. -/
theorem high_mask_or {t k w : ℕ} (ht : t < 2 ^ k) (hk : k ≤ w) :
    (2 ^ w - 2 ^ k) ||| t = 2 ^ w - 2 ^ k + t := by
  rw [high_mask_eq hk, Nat.shiftLeft_add_eq_or_of_lt ht]

theorem probe_toNat {r : CfgReg} {k : ℕ} (hk : k ≤ 32) (hmask : r.mask.toNat = 2 ^ 32 - 2 ^ k) :
    r.probe.toNat = 2 ^ 32 - 2 ^ k + r.value.toNat % 2 ^ k := by
  have hle : 2 ^ k ≤ 2 ^ 32 := Nat.pow_le_pow_right (by decide) hk
  have hpos := Nat.two_pow_pos k
  have hnot : (~~~r.mask).toNat = 2 ^ k - 1 := by
    rw [UInt32.toNat_not, hmask]
    change 2 ^ 32 - 1 - (2 ^ 32 - 2 ^ k) = 2 ^ k - 1
    omega
  rw [CfgReg.probe, UInt32.toNat_or, UInt32.toNat_and, hnot, Nat.and_two_pow_sub_one_eq_mod, hmask,
    high_mask_or (Nat.mod_lt _ hpos) hk]

/-- `BAR_MASK` takes the attributes away. -/
theorem barMask_toNat {v : UInt32} {a t : ℕ} (hv : v.toNat = a + t) (ha : 16 ∣ a) (ht : t < 16) :
    (v &&& BAR_MASK).toNat = a := by
  have hmask : BAR_MASK.toNat = 2 ^ 32 - 2 ^ 4 := rfl
  obtain ⟨c, rfl⟩ := ha
  rw [UInt32.toNat_and, hmask, and_high_mask v.toNat_lt (by decide), hv]
  omega

/-- `BAR_REG` is an attribute. -/
theorem barReg_eq_iff {v : UInt32} {a t : ℕ} (hv : v.toNat = a + t) (ha : 16 ∣ a) :
    barReg v = BAR_64_BIT ↔ t / 4 % 2 = 1 := by
  obtain ⟨c, rfl⟩ := ha
  have hone : (1 : UInt32).toNat = 2 ^ 1 - 1 := rfl
  have htwo : (2 : UInt32).toNat % 32 = 2 := rfl
  rw [← UInt32.toNat_inj, barReg, UInt32.toNat_and, UInt32.toNat_shiftRight, hone, htwo,
    Nat.and_two_pow_sub_one_eq_mod, Nat.shiftRight_eq_div_pow, hv]
  change (16 * c + t) / 2 ^ 2 % 2 ^ 1 = 1 ↔ _
  omega

/-! ## 6. The size and the address -/

namespace MemBar

variable (b : MemBar)

/-- The lower register holds the address below 4 GB, as far as it is not below the size. -/
theorem lower_dvd : 2 ^ min b.k 32 ∣ b.addr % 2 ^ 32 := by
  have hk : 2 ^ min b.k 32 ∣ 2 ^ b.k := pow_dvd_pow 2 (Nat.min_le_left ..)
  have h32 : 2 ^ min b.k 32 ∣ 2 ^ 32 := pow_dvd_pow 2 (Nat.min_le_right ..)
  exact (Nat.dvd_mod_iff h32).mpr (hk.trans b.aligned)

theorem sixteen_dvd_mask : 16 ∣ 2 ^ min b.k 32 := by
  have hfour := b.four_le
  exact pow_dvd_pow 2 (Nat.le_min.mpr ⟨hfour, by decide⟩)

theorem sixteen_dvd : 16 ∣ b.addr % 2 ^ 32 := b.sixteen_dvd_mask.trans b.lower_dvd

/-- In the upper register there is no bit below the size. -/
theorem upper_mod : b.addr / 2 ^ 32 % 2 ^ (b.k - 32) = 0 := by
  rcases Nat.lt_or_ge b.k 32 with hlt | hge
  · rw [Nat.sub_eq_zero_of_le (Nat.le_of_lt hlt), pow_zero, Nat.mod_one]
  · have hpow : 2 ^ b.k = 2 ^ 32 * 2 ^ (b.k - 32) := by rw [← pow_add, Nat.add_sub_cancel' hge]
    have haligned := b.aligned
    rw [hpow] at haligned
    exact Nat.mod_eq_zero_of_dvd (Nat.dvd_div_of_mul_dvd haligned)

/-- The two masks are the mask of the size. -/
theorem masks_eq :
    (2 ^ 32 - 2 ^ (b.k - 32)) * 2 ^ 32 + (2 ^ 32 - 2 ^ min b.k 32) = 2 ^ 64 - 2 ^ b.k := by
  rcases Nat.lt_or_ge b.k 32 with hlt | hge
  · have hle : 2 ^ b.k ≤ 2 ^ 32 := Nat.pow_le_pow_right (by decide) (Nat.le_of_lt hlt)
    rw [Nat.sub_eq_zero_of_le (Nat.le_of_lt hlt), Nat.min_eq_left (Nat.le_of_lt hlt)]
    omega
  · have hpow : 2 ^ b.k = 2 ^ (b.k - 32) * 2 ^ 32 := by rw [← pow_add, Nat.sub_add_cancel hge]
    rw [Nat.min_eq_right hge, hpow, Nat.sub_mul]
    omega

theorem addr_lt_64 : b.addr < 2 ^ 64 := by
  refine Nat.lt_of_lt_of_le b.addr_lt (Nat.pow_le_pow_right (by decide) ?_)
  rw [barWidth]
  split
  · exact Nat.le_refl 64
  · decide

theorem size_lt_64 : 2 ^ b.k < 2 ^ 64 := by
  refine Nat.pow_lt_pow_right (by decide) (Nat.lt_of_lt_of_le b.lt_width ?_)
  rw [barWidth]
  split
  · exact Nat.le_refl 64
  · decide

end MemBar

section GetBar

variable {cfg : CfgRegs} {offset : UInt32} {b : MemBar}

theorem lower_probe (h : cfg.HasBar offset b) :
    (cfg offset).probe.toNat = 2 ^ 32 - 2 ^ min b.k 32 + b.attr := by
  obtain ⟨c, hc⟩ := b.lower_dvd
  have hattr : b.attr < 2 ^ min b.k 32 :=
    Nat.lt_of_lt_of_le b.attr_lt (Nat.le_of_dvd (Nat.two_pow_pos _) b.sixteen_dvd_mask)
  rw [probe_toNat (Nat.min_le_right ..) h.mask, h.value, hc, Nat.mul_add_mod, Nat.mod_eq_of_lt hattr]

theorem upper_probe (h : cfg.HasBar offset b) (hwide : b.wide = true) :
    (cfg (offset + 4)).probe.toNat = 2 ^ 32 - 2 ^ (b.k - 32) := by
  have hk : b.k - 32 ≤ 32 := by
    have hlt := b.lt_width
    rw [hwide] at hlt
    change b.k < 64 at hlt
    omega
  rw [probe_toNat hk (h.mask_upper hwide), h.value_upper hwide, b.upper_mod, Nat.add_zero]

/-- The size of a BAR is not taken for that of an unimplemented one. -/
theorem lower_probe_ne_zero (h : cfg.HasBar offset b) :
    (cfg offset).probe ≠ 0 := by
  intro h0
  have hprobe := lower_probe h
  rw [h0] at hprobe
  change 0 = _ at hprobe
  have hlt := b.lt_width
  have hattr := b.attr_wide
  cases hwide : b.wide with
  | true =>
    rw [hwide, if_pos rfl] at hattr
    omega
  | false =>
    rw [hwide] at hlt
    change b.k < 32 at hlt
    have hpow : 2 ^ b.k < 2 ^ 32 := Nat.pow_lt_pow_right (by decide) hlt
    rw [Nat.min_eq_left (Nat.le_of_lt hlt)] at hprobe
    omega

/-- The two halves of a 64-bit number. -/
theorem halves_toNat (hi lo : UInt32) :
    ((hi.toUInt64 <<< 32) ||| lo.toUInt64).toNat = hi.toNat * 2 ^ 32 + lo.toNat := by
  have hlo := lo.toNat_lt
  have hhi := hi.toNat_lt
  have hshift : (hi.toUInt64 <<< 32).toNat = hi.toNat <<< 32 := by
    rw [UInt64.toNat_shiftLeft, UInt32.toNat_toUInt64]
    exact Nat.mod_eq_of_lt (by rw [Nat.shiftLeft_eq]; change _ * 2 ^ 32 < 2 ^ 64; omega)
  rw [UInt64.toNat_or, hshift, UInt32.toNat_toUInt64, ← Nat.shiftLeft_add_eq_or_of_lt hlo,
    Nat.shiftLeft_eq]

/-- The complement of a mask, and one, is the size. -/
theorem size64_eq {m : UInt64} {k : ℕ} (hk : k < 64) (hm : m.toNat = 2 ^ 64 - 2 ^ k) :
    ~~~m + 1 = UInt64.ofNat (2 ^ k) := by
  have hlt : 2 ^ k < 2 ^ 64 := Nat.pow_lt_pow_right (by decide) hk
  have hpos := Nat.two_pow_pos k
  rw [← UInt64.toNat_inj, UInt64.toNat_add, UInt64.toNat_not, hm, UInt64.toNat_ofNat_of_lt' hlt]
  change (2 ^ 64 - 1 - (2 ^ 64 - 2 ^ k) + 1) % 2 ^ 64 = 2 ^ k
  omega

theorem size32_eq {m : UInt32} {k : ℕ} (hk : k < 32) (hm : m.toNat = 2 ^ 32 - 2 ^ k) :
    (~~~m + 1).toUInt64 = UInt64.ofNat (2 ^ k) := by
  have hlt : 2 ^ k < 2 ^ 32 := Nat.pow_lt_pow_right (by decide) hk
  have hlt' : 2 ^ k < 2 ^ 64 := Nat.lt_trans hlt (by decide)
  have hpos := Nat.two_pow_pos k
  rw [← UInt64.toNat_inj, UInt32.toNat_toUInt64, UInt32.toNat_add, UInt32.toNat_not, hm,
    UInt64.toNat_ofNat_of_lt' hlt']
  change (2 ^ 32 - 1 - (2 ^ 32 - 2 ^ k) + 1) % 2 ^ 32 = 2 ^ k
  omega

/-- How far the next BAR is. -/
def MemBar.stride (b : MemBar) : UInt32 := if b.wide then 8 else 4

theorem getBar_eq (h : cfg.HasBar offset b) :
    valPcieGetBar cfg offset
      = (⟨offset + b.stride, UInt64.ofNat b.addr, UInt64.ofNat (2 ^ b.k)⟩, cfg) := by
  have hmask : ((cfg offset).probe &&& BAR_MASK).toNat = 2 ^ 32 - 2 ^ min b.k 32 := by
    refine barMask_toNat (lower_probe h) ?_ b.attr_lt
    exact Nat.dvd_sub (by decide) b.sixteen_dvd_mask
  have haddr : ((cfg offset).value &&& BAR_MASK).toNat = b.addr % 2 ^ 32 :=
    barMask_toNat h.value b.sixteen_dvd b.attr_lt
  have hreg := barReg_eq_iff h.value b.sixteen_dvd
  have hlt := b.lt_width
  have haddrlt := b.addr_lt
  rw [b.attr_wide] at hreg
  simp only [valPcieGetBar, pciBarSizeHelper_eq, if_neg (lower_probe_ne_zero h), CfgRegs.read]
  cases hwide : b.wide with
  | true =>
    rw [hwide] at hlt haddrlt
    change b.k < 64 at hlt
    change b.addr < 2 ^ 64 at haddrlt
    rw [if_pos (hreg.mpr (by rw [hwide]; rfl)), MemBar.stride, hwide]
    have hmasks : (((cfg (offset + 4)).probe.toUInt64 <<< 32) |||
        ((cfg offset).probe &&& BAR_MASK).toUInt64).toNat = 2 ^ 64 - 2 ^ b.k := by
      rw [halves_toNat, upper_probe h hwide, hmask, b.masks_eq]
    have haddr64 : ((cfg (offset + 4)).value.toUInt64 <<< 32) |||
        ((cfg offset).value &&& BAR_MASK).toUInt64 = UInt64.ofNat b.addr := by
      rw [← UInt64.toNat_inj, halves_toNat, h.value_upper hwide, haddr,
        UInt64.toNat_ofNat_of_lt' haddrlt]
      omega
    rw [size64_eq hlt hmasks, haddr64, UInt32.add_assoc]
    rfl
  | false =>
    rw [hwide] at hlt haddrlt
    change b.k < 32 at hlt
    change b.addr < 2 ^ 32 at haddrlt
    rw [if_neg (fun h64 => by
      have h01 := hreg.mp h64
      rw [hwide] at h01
      cases h01), MemBar.stride, hwide]
    rw [Nat.min_eq_left (Nat.le_of_lt hlt)] at hmask
    have haddr32 : ((cfg offset).value &&& BAR_MASK).toUInt64 = UInt64.ofNat b.addr := by
      rw [← UInt64.toNat_inj, UInt32.toNat_toUInt64, haddr,
        UInt64.toNat_ofNat_of_lt' (Nat.lt_trans haddrlt (by decide)), Nat.mod_eq_of_lt haddrlt]
    rw [size32_eq hlt hmask, haddr32]
    rfl

end GetBar

/-- **Sizing a BAR**: address, size and the offset of the next BAR are right, and every register is as
it was. -/
theorem get_bar_exact (b : MemBar) {cfg : CfgRegs} {offset : UInt32} (h : cfg.HasBar offset b) :
    (valPcieGetBar cfg offset).1.addr.toNat = b.addr ∧
      (valPcieGetBar cfg offset).1.size.toNat = 2 ^ b.k ∧
      (valPcieGetBar cfg offset).1.offset = offset + b.stride ∧
      (valPcieGetBar cfg offset).2 = cfg := by
  rw [getBar_eq h]
  exact ⟨UInt64.toNat_ofNat_of_lt' b.addr_lt_64, UInt64.toNat_ofNat_of_lt' b.size_lt_64, rfl, rfl⟩

/-- A prefetchable 64-bit BAR of 4 GB. -/
def fourGigabytes : MemBar where
  wide := true
  k := 32
  addr := 0x4000000000
  attr := 12
  four_le := by decide
  lt_width := by decide
  aligned := by norm_num
  addr_lt := by norm_num [barWidth]
  attr_lt := by decide
  memory := by decide
  attr_wide := by decide

/-- Its registers: no address bit of the lower one can be written. -/
def fourGigabytesCfg (offset : UInt32) : CfgReg :=
  if offset = 0x10 then ⟨0, 12⟩ else if offset = 0x14 then ⟨0xFFFFFFFF, 0x40⟩ else ⟨0, 0⟩

theorem get_bar_four_gigabytes :
    CfgRegs.HasBar fourGigabytesCfg 0x10 fourGigabytes ∧
      (valPcieGetBar fourGigabytesCfg 0x10).1.size.toNat = 2 ^ 32 := by
  have hupper : fourGigabytesCfg (0x10 + 4) = ⟨0xFFFFFFFF, 0x40⟩ := by decide
  have hbar : CfgRegs.HasBar fourGigabytesCfg 0x10 fourGigabytes := by
    refine ⟨?_, ?_, fun _ => ?_, fun _ => ?_⟩
    · change 0 = 2 ^ 32 - 2 ^ 32
      norm_num
    · change 12 = 0x4000000000 % 2 ^ 32 + 12
      norm_num
    · rw [hupper]
      change 4294967295 = 2 ^ 32 - 2 ^ 0
      norm_num
    · rw [hupper]
      change 0x40 = 0x4000000000 / 2 ^ 32
      norm_num
  exact ⟨hbar, (get_bar_exact fourGigabytes hbar).2.1⟩

/-! ## 7. The six slots of a Type 0 function -/

/-- A slot, or the two slots of a 64-bit BAR. -/
inductive BarSlot where
  | absent
  | bar (b : MemBar)

namespace BarSlot

/-- How many slots it takes. -/
def width : BarSlot → ℕ
  | absent => 1
  | bar b => if b.wide then 2 else 1

def isBar : BarSlot → Bool
  | absent => false
  | bar _ => true

theorem width_pos (s : BarSlot) : 1 ≤ s.width := by
  cases s with
  | absent => exact Nat.le_refl 1
  | bar b =>
    rw [width]
    split
    · decide
    · decide

/-- The range of an implemented BAR: its address, and the address behind it. -/
def range : BarSlot → Option (ℕ × ℕ)
  | absent => none
  | bar b => some (b.addr, b.addr + 2 ^ b.k)

/-- The range as it is recorded. -/
def recorded : BarSlot → Option AddrRange
  | absent => none
  | bar b => some ⟨UInt64.ofNat b.addr, UInt64.ofNat b.addr + UInt64.ofNat (2 ^ b.k)⟩

end BarSlot

/-- The registers from an offset on are those of the slots; an unimplemented one reads as zero. -/
def CfgRegs.HasSlots (cfg : CfgRegs) : UInt32 → List BarSlot → Prop
  | _, [] => True
  | offset, .absent :: rest => cfg offset = ⟨0, 0⟩ ∧ cfg.HasSlots (offset + 4) rest
  | offset, .bar b :: rest => cfg.HasBar offset b ∧ cfg.HasSlots (offset + b.stride) rest

/-- **A Type 0 function**: its BARs, implemented and not, fill six slots. -/
structure Type0Fn where
  cfg : CfgRegs
  slots : List BarSlot
  six : (slots.map BarSlot.width).sum = 6
  hasSlots : cfg.HasSlots BAR0_OFFSET slots

/-- The ranges of all implemented BARs are recorded, in the order of the slots. -/
def RangesExact (f : Type0Fn) : Prop :=
  (valHostGetAddrRange f.cfg).1.map (fun r => (r.base.toNat, r.top.toNat))
      = f.slots.filterMap BarSlot.range ∧
    (valHostGetAddrRange f.cfg).1.length ≤ NCOH_ADDR_RANGE_NUM

theorem getBar_absent {cfg : CfgRegs} {offset : UInt32} (h : cfg offset = ⟨0, 0⟩) :
    valPcieGetBar cfg offset = (⟨offset, 0, 0⟩, cfg) := by
  have hprobe : (cfg offset).probe = 0 := by
    rw [h]
    decide
  simp only [valPcieGetBar, pciBarSizeHelper_eq, hprobe, if_true]

theorem stride_toNat (b : MemBar) : b.stride.toNat = 4 * (BarSlot.bar b).width := by
  rw [MemBar.stride, BarSlot.width]
  split
  · rfl
  · rfl

/-- The loop records the BARs up to the first slot that is not implemented. -/
theorem addrRangeLoop_eq {cfg : CfgRegs} {slots : List BarSlot} (hne : slots ≠ []) {n : ℕ}
    {offset : UInt32} (hslots : cfg.HasSlots offset slots)
    (hend : offset.toNat + 4 * (slots.map BarSlot.width).sum = 0x28)
    (hn : (slots.map BarSlot.width).sum ≤ n) (ranges : List AddrRange) :
    addrRangeLoop n cfg offset ranges
      = (ranges ++ (slots.takeWhile BarSlot.isBar).filterMap BarSlot.recorded, cfg) := by
  induction slots generalizing n offset ranges with
  | nil => exact absurd rfl hne
  | cons s rest ih =>
    rw [List.map_cons, List.sum_cons] at hend hn
    cases s with
    | absent =>
      cases n with
      | zero => exact absurd hn (by change ¬ 1 + _ ≤ 0; omega)
      | succ n =>
        have htake : (BarSlot.absent :: rest).takeWhile BarSlot.isBar = [] := rfl
        rw [addrRangeLoop, getBar_absent hslots.1, htake, List.filterMap_nil, List.append_nil]
        rfl
    | bar b =>
      have hpos := (BarSlot.bar b).width_pos
      cases n with
      | zero => omega
      | succ n =>
        have hsize : UInt64.ofNat (2 ^ b.k) ≠ 0 := by
          intro h0
          have htoNat := congrArg UInt64.toNat h0
          rw [UInt64.toNat_ofNat_of_lt' b.size_lt_64] at htoNat
          exact absurd htoNat (Nat.two_pow_pos b.k).ne'
        have hoffset : (offset + b.stride).toNat = offset.toNat + 4 * (BarSlot.bar b).width := by
          rw [UInt32.toNat_add, stride_toNat]
          exact Nat.mod_eq_of_lt (by omega)
        have hmax : offset + b.stride > BAR_TYPE_0_MAX_OFFSET ↔ (rest.map BarSlot.width).sum = 0 := by
          rw [gt_iff_lt, UInt32.lt_iff_toNat_lt, hoffset]
          change 0x24 < _ ↔ _
          omega
        have hrecorded : ((BarSlot.bar b :: rest).takeWhile BarSlot.isBar).filterMap BarSlot.recorded
            = [⟨UInt64.ofNat b.addr, UInt64.ofNat b.addr + UInt64.ofNat (2 ^ b.k)⟩]
              ++ (rest.takeWhile BarSlot.isBar).filterMap BarSlot.recorded := rfl
        rw [addrRangeLoop, getBar_eq hslots.1, hrecorded, ← List.append_assoc]
        simp only [if_neg hsize, hmax]
        rcases rest with _ | ⟨s', rest⟩
        · have hzero : (([] : List BarSlot).map BarSlot.width).sum = 0 := rfl
          rw [if_pos hzero]
          exact congrArg (·, cfg) (List.append_nil _).symm
        · have hpos' := s'.width_pos
          rw [if_neg (by rw [List.map_cons, List.sum_cons]; omega)]
          exact ih (List.cons_ne_nil _ _) hslots.2 (by omega) (by omega) _

/-- What is recorded, read as numbers, is what there is: if nothing comes behind a gap, and no range
ends at the end of the address space. -/
theorem recorded_eq_iff (slots : List BarSlot) :
    ((slots.takeWhile BarSlot.isBar).filterMap BarSlot.recorded).map
        (fun r => (r.base.toNat, r.top.toNat)) = slots.filterMap BarSlot.range ↔
      (slots.Pairwise fun s s' => s = .absent → s' = .absent) ∧
        ∀ b, .bar b ∈ slots → b.addr + 2 ^ b.k < 2 ^ 64 := by
  induction slots with
  | nil => simp
  | cons s rest ih =>
    cases s with
    | absent =>
      have htake : (BarSlot.absent :: rest).takeWhile BarSlot.isBar = [] := rfl
      have hrange : (BarSlot.absent :: rest).filterMap BarSlot.range = rest.filterMap BarSlot.range := rfl
      rw [htake, hrange, List.filterMap_nil, List.map_nil, eq_comm, List.filterMap_eq_nil_iff,
        List.pairwise_cons]
      constructor
      · intro hnone
        have habsent : ∀ s' ∈ rest, s' = .absent := by
          intro s' hs'
          cases s' with
          | absent => rfl
          | bar b => exact absurd (hnone _ hs') (by simp [BarSlot.range])
        refine ⟨⟨fun s' hs' _ => habsent s' hs', ?_⟩, fun b hb => ?_⟩
        · exact List.pairwise_of_forall_mem_list fun s hs s' hs' _ => habsent s' hs'
        · rcases List.mem_cons.mp hb with hb | hb
          · cases hb
          · cases habsent _ hb
      · rintro ⟨⟨habsent, -⟩, -⟩ s' hs'
        rw [habsent s' hs' rfl]
        rfl
    | bar b =>
      have hrecorded : ((BarSlot.bar b :: rest).takeWhile BarSlot.isBar).filterMap BarSlot.recorded
          = ⟨UInt64.ofNat b.addr, UInt64.ofNat b.addr + UInt64.ofNat (2 ^ b.k)⟩
            :: (rest.takeWhile BarSlot.isBar).filterMap BarSlot.recorded := rfl
      have hrange : (BarSlot.bar b :: rest).filterMap BarSlot.range
          = (b.addr, b.addr + 2 ^ b.k) :: rest.filterMap BarSlot.range := rfl
      have htop : (UInt64.ofNat b.addr + UInt64.ofNat (2 ^ b.k)).toNat = b.addr + 2 ^ b.k ↔
          b.addr + 2 ^ b.k < 2 ^ 64 := by
        have haddr := b.addr_lt_64
        have hsize := b.size_lt_64
        rw [UInt64.toNat_add, UInt64.toNat_ofNat_of_lt' haddr, UInt64.toNat_ofNat_of_lt' hsize]
        exact Nat.mod_eq_iff_lt (by decide)
      rw [hrecorded, hrange, List.map_cons, List.cons.injEq, Prod.mk.injEq, ih, htop,
        List.pairwise_cons, UInt64.toNat_ofNat_of_lt' b.addr_lt_64]
      constructor
      · rintro ⟨⟨-, hlt⟩, hpair, hends⟩
        refine ⟨⟨fun s' _ h => absurd h (by simp), hpair⟩, fun b' hb' => ?_⟩
        rcases List.mem_cons.mp hb' with hb' | hb'
        · cases hb'
          exact hlt
        · exact hends b' hb'
      · rintro ⟨⟨-, hpair⟩, hends⟩
        exact ⟨⟨rfl, hends b (List.mem_cons_self ..)⟩, hpair,
          fun b' hb' => hends b' (List.mem_cons_of_mem _ hb')⟩

/-- There are never more BARs than slots. -/
theorem length_recorded_le (slots : List BarSlot) :
    ((slots.takeWhile BarSlot.isBar).filterMap BarSlot.recorded).length
      ≤ (slots.map BarSlot.width).sum := by
  refine Nat.le_trans (List.length_filterMap_le ..) ?_
  refine Nat.le_trans (List.takeWhile_sublist _).length_le ?_
  induction slots with
  | nil => exact Nat.le_refl 0
  | cons s rest ih =>
    have hpos := s.width_pos
    rw [List.length_cons, List.map_cons, List.sum_cons]
    omega

theorem valHostGetAddrRange_eq (f : Type0Fn) :
    valHostGetAddrRange f.cfg
      = ((f.slots.takeWhile BarSlot.isBar).filterMap BarSlot.recorded, f.cfg) := by
  have hne : f.slots ≠ [] := by
    intro hnil
    have hsix := f.six
    rw [hnil] at hsix
    cases hsix
  have hend : BAR0_OFFSET.toNat + 4 * (f.slots.map BarSlot.width).sum = 0x28 := by
    rw [f.six]
    rfl
  exact addrRangeLoop_eq hne f.hasSlots hend (Nat.le_of_eq f.six) []

/-- **The ranges of a device**: exact if no implemented BAR comes behind an unimplemented slot, and no
BAR ends at the end of the address space. -/
theorem addr_ranges_exact_iff (f : Type0Fn) :
    RangesExact f ↔
      (f.slots.Pairwise fun s s' => s = .absent → s' = .absent) ∧
        ∀ b, .bar b ∈ f.slots → b.addr + 2 ^ b.k < 2 ^ 64 := by
  rw [RangesExact, valHostGetAddrRange_eq, recorded_eq_iff]
  refine and_iff_left ?_
  exact Nat.le_trans (length_recorded_le f.slots) (Nat.le_of_eq f.six)

/-- A 32-bit BAR of 4 KB. -/
def pageBar (page : ℕ) (h : page < 2 ^ 20) : MemBar where
  wide := false
  k := 12
  addr := page * 2 ^ 12
  attr := 0
  four_le := by decide
  lt_width := by decide
  aligned := Nat.dvd_mul_left ..
  addr_lt := by
    change page * 2 ^ 12 < 2 ^ 32
    omega
  attr_lt := by decide
  memory := by decide
  attr_wide := by decide

/-- BARs in slots 0 and 2, with a gap between them. -/
def gapFn : Type0Fn where
  cfg := fun offset =>
    if offset = 0x10 then ⟨0xFFFFF000, 0x50000000⟩
    else if offset = 0x18 then ⟨0xFFFFF000, 0x50001000⟩ else ⟨0, 0⟩
  slots := [.bar (pageBar 0x50000 (by norm_num)), .absent, .bar (pageBar 0x50001 (by norm_num)),
    .absent, .absent, .absent]
  six := by decide
  hasSlots := by
    refine ⟨⟨?_, ?_, fun h => absurd h (by decide), fun h => absurd h (by decide)⟩, by decide,
      ⟨?_, ?_, fun h => absurd h (by decide), fun h => absurd h (by decide)⟩, by decide, by decide,
      by decide, trivial⟩
    · change 0xFFFFF000 = 2 ^ 32 - 2 ^ 12
      norm_num
    · change 0x50000000 = 0x50000 * 2 ^ 12 % 2 ^ 32 + 0
      norm_num
    · change 0xFFFFF000 = 2 ^ 32 - 2 ^ 12
      norm_num
    · change 0x50001000 = 0x50001 * 2 ^ 12 % 2 ^ 32 + 0
      norm_num

/-- The second BAR is not recorded. -/
theorem addr_ranges_stop_at_gap :
    (valHostGetAddrRange gapFn.cfg).1 = [⟨0x50000000, 0x50001000⟩] ∧ ¬ RangesExact gapFn := by
  have hranges : (valHostGetAddrRange gapFn.cfg).1 = [⟨0x50000000, 0x50001000⟩] := by decide +kernel
  refine ⟨hranges, fun hexact => ?_⟩
  have hlen := congrArg List.length hexact.1
  rw [hranges] at hlen
  exact absurd hlen (by decide)

end RmmAcs.Pcie
