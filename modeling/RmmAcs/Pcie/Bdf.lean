/-
# Functions by their BDF

A function is named by a number, its BDF: eight bits for the segment, eight for the bus, five for the
device and three for the function.  `PCIE_CREATE_BDF` packs them without a mask, so a field that is too
large runs into the next one.

`val_pcie_increment_busdev` goes from one device to the next.  It compares the device with 32 where its
twin in the PAL compares it with 31, and as no device is 32 it never carries: behind device 31 it packs
device 32, whose bit is the lowest bit of the bus.  If that was zero, this IS the next bus
(`increment_busdev_iff`); if it was one, the increment is back at device 0 of the same bus.  From every
bus it therefore stays on two buses for ever, and every later device is reached from bus 254 alone.
-/
import Mathlib

namespace RmmAcs.Pcie

/-! ## 1. The fields of a BDF -/

def PCIE_MAX_DEV : UInt32 := 32
def PCIE_MAX_FUNC : UInt32 := 8

/-- `PCIE_EXTRACT_BDF_SEG` -/
def bdfSeg (bdf : UInt32) : UInt32 := (bdf >>> 16) &&& 0xFF

/-- `PCIE_EXTRACT_BDF_BUS` -/
def bdfBus (bdf : UInt32) : UInt32 := (bdf >>> 8) &&& 0xFF

/-- `PCIE_EXTRACT_BDF_DEV` -/
def bdfDev (bdf : UInt32) : UInt32 := (bdf >>> 3) &&& 0x1F

/-- `PCIE_EXTRACT_BDF_FUNC` -/
def bdfFunc (bdf : UInt32) : UInt32 := bdf &&& 0x7

/-- `PCIE_CREATE_BDF` -/
def createBdf (seg bus dev func : UInt32) : UInt32 :=
  (seg <<< 16) ||| (bus <<< 8) ||| (dev <<< 3) ||| func

/-- A function of a device of a bus of a segment. -/
@[ext]
structure BdfFn where
  seg : ℕ
  bus : ℕ
  dev : ℕ
  func : ℕ
deriving DecidableEq, Repr

/-- The function a BDF names. -/
def bdfFields (bdf : UInt32) : BdfFn :=
  ⟨(bdfSeg bdf).toNat, (bdfBus bdf).toNat, (bdfDev bdf).toNat, (bdfFunc bdf).toNat⟩

/-- The fields of a function fit into a BDF. -/
structure BdfFn.Fits (f : BdfFn) : Prop where
  seg : f.seg < 256
  bus : f.bus < 256
  dev : f.dev < 32
  func : f.func < 8

/-- The BDF of a function. -/
def BdfFn.bdf (f : BdfFn) : UInt32 :=
  createBdf (.ofNat f.seg) (.ofNat f.bus) (.ofNat f.dev) (.ofNat f.func)

theorem bdfFields_eq (bdf : UInt32) : bdfFields bdf =
    ⟨bdf.toNat / 65536 % 256, bdf.toNat / 256 % 256, bdf.toNat / 8 % 32, bdf.toNat % 8⟩ := by
  have h8 : (0xFF : UInt32).toNat = 2 ^ 8 - 1 := rfl
  have h5 : (0x1F : UInt32).toNat = 2 ^ 5 - 1 := rfl
  have h3 : (0x7 : UInt32).toNat = 2 ^ 3 - 1 := rfl
  simp only [bdfFields, bdfSeg, bdfBus, bdfDev, bdfFunc, UInt32.toNat_and, UInt32.toNat_shiftRight,
    h8, h5, h3, Nat.and_two_pow_sub_one_eq_mod, Nat.shiftRight_eq_div_pow]
  rfl

theorem bdfFields_fits (bdf : UInt32) : (bdfFields bdf).Fits := by
  rw [bdfFields_eq]
  exact ⟨Nat.mod_lt _ (by decide), Nat.mod_lt _ (by decide), Nat.mod_lt _ (by decide),
    Nat.mod_lt _ (by decide)⟩

/-- Four fields that do not overlap are put side by side. -/
theorem or_fields {seg bus dev func : ℕ} (hbus : bus < 256) (hdev : dev < 32) (hfunc : func < 8) :
    seg <<< 16 ||| bus <<< 8 ||| dev <<< 3 ||| func
      = seg * 65536 + bus * 256 + dev * 8 + func := by
  have h3 : dev <<< 3 ||| func = dev * 8 + func := by
    rw [← Nat.shiftLeft_add_eq_or_of_lt (by simpa using hfunc), Nat.shiftLeft_eq]
  have h8 : bus <<< 8 ||| (dev * 8 + func) = bus * 256 + (dev * 8 + func) := by
    rw [← Nat.shiftLeft_add_eq_or_of_lt (by omega), Nat.shiftLeft_eq]
  have h16 : seg <<< 16 ||| (bus * 256 + (dev * 8 + func))
      = seg * 65536 + (bus * 256 + (dev * 8 + func)) := by
    rw [← Nat.shiftLeft_add_eq_or_of_lt (by omega), Nat.shiftLeft_eq]
  rw [Nat.or_assoc, Nat.or_assoc, h3, h8, h16]
  omega

theorem createBdf_toNat {seg bus dev func : UInt32} (hseg : seg.toNat < 256)
    (hbus : bus.toNat < 256) (hdev : dev.toNat < 32) (hfunc : func.toNat < 8) :
    (createBdf seg bus dev func).toNat
      = seg.toNat * 65536 + bus.toNat * 256 + dev.toNat * 8 + func.toNat := by
  have hs : (seg <<< 16).toNat = seg.toNat <<< 16 := by
    rw [UInt32.toNat_shiftLeft]
    exact Nat.mod_eq_of_lt (by rw [Nat.shiftLeft_eq]; change _ * 65536 < 4294967296; omega)
  have hb : (bus <<< 8).toNat = bus.toNat <<< 8 := by
    rw [UInt32.toNat_shiftLeft]
    exact Nat.mod_eq_of_lt (by rw [Nat.shiftLeft_eq]; change _ * 256 < 4294967296; omega)
  have hd : (dev <<< 3).toNat = dev.toNat <<< 3 := by
    rw [UInt32.toNat_shiftLeft]
    exact Nat.mod_eq_of_lt (by rw [Nat.shiftLeft_eq]; change _ * 8 < 4294967296; omega)
  rw [createBdf, UInt32.toNat_or, UInt32.toNat_or, UInt32.toNat_or, hs, hb, hd,
    or_fields hbus hdev hfunc]

theorem toNat_ofNat_small {n : ℕ} (h : n < 256) : (UInt32.ofNat n).toNat = n :=
  UInt32.toNat_ofNat_of_lt' (Nat.lt_trans h (by decide))

theorem BdfFn.Fits.bdf_toNat {f : BdfFn} (h : f.Fits) :
    f.bdf.toNat = f.seg * 65536 + f.bus * 256 + f.dev * 8 + f.func := by
  have hs := toNat_ofNat_small h.seg
  have hb := toNat_ofNat_small h.bus
  have hd := toNat_ofNat_small (Nat.lt_trans h.dev (by decide))
  have hf := toNat_ofNat_small (Nat.lt_trans h.func (by decide))
  have hcreate := createBdf_toNat (by rw [hs]; exact h.seg) (by rw [hb]; exact h.bus)
    (by rw [hd]; exact h.dev) (by rw [hf]; exact h.func)
  rw [hs, hb, hd, hf] at hcreate
  exact hcreate

theorem BdfFn.Fits.bdfFields_bdf {f : BdfFn} (h : f.Fits) : bdfFields f.bdf = f := by
  obtain ⟨hseg, hbus, hdev, hfunc⟩ := h
  rw [bdfFields_eq, BdfFn.Fits.bdf_toNat ⟨hseg, hbus, hdev, hfunc⟩]
  ext
  · change _ / 65536 % 256 = _
    omega
  · change _ / 256 % 256 = _
    omega
  · change _ / 8 % 32 = _
    omega
  · change _ % 8 = _
    omega

/-- A BDF of 24 bits is the BDF of the function it names. -/
theorem bdf_bdfFields {bdf : UInt32} (h : bdf.toNat < 2 ^ 24) : (bdfFields bdf).bdf = bdf := by
  rw [← UInt32.toNat_inj, (bdfFields_fits bdf).bdf_toNat, bdfFields_eq]
  change bdf.toNat / 65536 % 256 * 65536 + bdf.toNat / 256 % 256 * 256 + bdf.toNat / 8 % 32 * 8
    + bdf.toNat % 8 = _
  omega

theorem BdfFn.Fits.bdf_lt {f : BdfFn} (h : f.Fits) : f.bdf.toNat < 2 ^ 24 := by
  rw [h.bdf_toNat]
  have hseg := h.seg
  have hbus := h.bus
  have hdev := h.dev
  have hfunc := h.func
  omega

/-- The BDF of the fields of a BDF, some of them replaced. -/
theorem createBdf_eq {seg bus dev func : UInt32} {f : BdfFn} (hseg : seg.toNat = f.seg)
    (hbus : bus.toNat = f.bus) (hdev : dev.toNat = f.dev) (hfunc : func.toNat = f.func) :
    createBdf seg bus dev func = f.bdf := by
  rw [BdfFn.bdf, ← hseg, ← hbus, ← hdev, ← hfunc, UInt32.ofNat_toNat, UInt32.ofNat_toNat,
    UInt32.ofNat_toNat, UInt32.ofNat_toNat]

/-! ## 2. From device to device -/

def valPcieIncrementBusdev (startBdf : UInt32) : UInt32 :=
  let seg := bdfSeg startBdf
  let bus := bdfBus startBdf
  let dev := bdfDev startBdf
  if dev ≠ PCIE_MAX_DEV then createBdf seg bus (dev + 1) 0 else createBdf seg (bus + 1) 0 0

def palIncrementBusDev (startBdf : UInt32) : UInt32 :=
  let seg := bdfSeg startBdf
  let bus := bdfBus startBdf
  let dev := bdfDev startBdf
  if dev ≠ PCIE_MAX_DEV - 1 then createBdf seg bus (dev + 1) 0 else createBdf seg (bus + 1) 0 0

/-- The next device: on the same bus, or behind device 31 the first one of the next bus. -/
def BdfFn.nextDevice (f : BdfFn) : BdfFn :=
  if f.dev < 31 then ⟨f.seg, f.bus, f.dev + 1, 0⟩ else ⟨f.seg, f.bus + 1, 0, 0⟩

/-- Where the increment of the VAL goes: behind device 31 the bus gets its lowest bit set. -/
def BdfFn.nextSlot (f : BdfFn) : BdfFn :=
  if f.dev < 31 then ⟨f.seg, f.bus, f.dev + 1, 0⟩ else ⟨f.seg, f.bus / 2 * 2 + 1, 0, 0⟩

theorem bdfDev_lt (bdf : UInt32) : (bdfDev bdf).toNat < 32 := (bdfFields_fits bdf).dev

theorem bdfDev_succ_toNat (bdf : UInt32) : (bdfDev bdf + 1).toNat = (bdfDev bdf).toNat + 1 := by
  have hlt := bdfDev_lt bdf
  rw [UInt32.toNat_add]
  exact Nat.mod_eq_of_lt (by change _ + 1 < 4294967296; omega)

theorem palIncrementBusDev_eq {bdf : UInt32} (hbus : (bdfBus bdf).toNat < 255) :
    palIncrementBusDev bdf = (bdfFields bdf).nextDevice.bdf := by
  have hdev := bdfDev_lt bdf
  by_cases hlast : bdfDev bdf = PCIE_MAX_DEV - 1
  · have h31 : (bdfFields bdf).dev = 31 := by
      change (bdfDev bdf).toNat = 31
      rw [hlast]
      rfl
    have hnext : (bdfFields bdf).nextDevice = ⟨(bdfFields bdf).seg, (bdfFields bdf).bus + 1, 0, 0⟩ := by
      rw [BdfFn.nextDevice, if_neg (by omega)]
    rw [palIncrementBusDev, if_neg (not_not.mpr hlast), hnext]
    refine createBdf_eq rfl ?_ rfl rfl
    rw [UInt32.toNat_add]
    exact Nat.mod_eq_of_lt (by change _ + 1 < 4294967296; omega)
  · have h31 : (bdfFields bdf).dev < 31 := by
      have hne : (bdfDev bdf).toNat ≠ 31 := fun h => hlast (UInt32.toNat_inj.mp h)
      change (bdfDev bdf).toNat < 31
      omega
    rw [palIncrementBusDev, if_pos hlast, BdfFn.nextDevice, if_pos h31]
    exact createBdf_eq rfl rfl (bdfDev_succ_toNat bdf) rfl

/-- Device 32 is the lowest bit of the bus. -/
theorem createBdf_dev_32 (seg bus : UInt32) : createBdf seg bus 32 0 = createBdf seg (bus ||| 1) 0 0 := by
  have h32 : (32 : UInt32) <<< (3 : UInt32) = (1 : UInt32) <<< (8 : UInt32) := by decide
  have h0 : (0 : UInt32) <<< (3 : UInt32) = 0 := by decide
  rw [createBdf, createBdf, h32, h0, UInt32.shiftLeft_or, UInt32.or_zero, UInt32.or_zero,
    UInt32.or_zero, UInt32.or_assoc]

theorem or_one_small : ∀ b < 256, b ||| 1 = b / 2 * 2 + 1 := by decide +kernel

theorem valPcieIncrementBusdev_eq (bdf : UInt32) :
    valPcieIncrementBusdev bdf = (bdfFields bdf).nextSlot.bdf := by
  have hdev := bdfDev_lt bdf
  have hne : bdfDev bdf ≠ PCIE_MAX_DEV := by
    intro h
    rw [h] at hdev
    exact absurd hdev (by decide)
  rw [valPcieIncrementBusdev, if_pos hne]
  by_cases h31 : (bdfFields bdf).dev < 31
  · rw [BdfFn.nextSlot, if_pos h31]
    exact createBdf_eq rfl rfl (bdfDev_succ_toNat bdf) rfl
  · have hlast : bdfDev bdf + 1 = 32 := by
      rw [← UInt32.toNat_inj, bdfDev_succ_toNat]
      change ¬ (bdfDev bdf).toNat < 31 at h31
      change (bdfDev bdf).toNat + 1 = 32
      omega
    rw [hlast, createBdf_dev_32, BdfFn.nextSlot, if_neg h31]
    refine createBdf_eq rfl ?_ rfl rfl
    rw [UInt32.toNat_or]
    exact or_one_small _ (bdfFields_fits bdf).bus

theorem BdfFn.Fits.nextSlot {f : BdfFn} (h : f.Fits) : f.nextSlot.Fits := by
  obtain ⟨hseg, hbus, hdev, hfunc⟩ := h
  by_cases h31 : f.dev < 31
  · rw [BdfFn.nextSlot, if_pos h31]
    exact ⟨hseg, hbus, Nat.succ_lt_succ h31, Nat.succ_pos 7⟩
  · rw [BdfFn.nextSlot, if_neg h31]
    refine ⟨hseg, ?_, Nat.succ_pos 31, Nat.succ_pos 7⟩
    change f.bus / 2 * 2 + 1 < 256
    omega

theorem bdfFields_valPcieIncrementBusdev (bdf : UInt32) :
    bdfFields (valPcieIncrementBusdev bdf) = (bdfFields bdf).nextSlot := by
  rw [valPcieIncrementBusdev_eq, (bdfFields_fits bdf).nextSlot.bdfFields_bdf]

theorem nextSlot_eq_nextDevice_iff {f : BdfFn} (h : f.Fits) :
    f.nextSlot = f.nextDevice ↔ f.dev ≠ 31 ∨ f.bus % 2 = 0 := by
  have hdev := h.dev
  by_cases h31 : f.dev < 31
  · rw [BdfFn.nextSlot, BdfFn.nextDevice, if_pos h31, if_pos h31]
    exact iff_of_true rfl (Or.inl (by omega))
  · rw [BdfFn.nextSlot, BdfFn.nextDevice, if_neg h31, if_neg h31, BdfFn.mk.injEq]
    omega

/-- The increment goes along a bus. -/
theorem iterate_along_bus (bdf : UInt32) {k : ℕ} (hk : (bdfFields bdf).dev + k ≤ 31) :
    ∃ func, (k ≠ 0 → func = 0) ∧ bdfFields (valPcieIncrementBusdev^[k] bdf)
      = ⟨(bdfFields bdf).seg, (bdfFields bdf).bus, (bdfFields bdf).dev + k, func⟩ := by
  induction k with
  | zero => exact ⟨(bdfFields bdf).func, fun h => absurd rfl h, rfl⟩
  | succ k ih =>
    obtain ⟨func, -, hfields⟩ := ih (by omega)
    refine ⟨0, fun _ => rfl, ?_⟩
    rw [Function.iterate_succ_apply', bdfFields_valPcieIncrementBusdev, hfields, BdfFn.nextSlot,
      if_pos (by change (bdfFields bdf).dev + k < 31; omega)]
    rfl

/-- The increment never leaves a pair of buses. -/
theorem iterate_bus_pair (bdf : UInt32) (k : ℕ) :
    (bdfFields (valPcieIncrementBusdev^[k] bdf)).bus / 2 = (bdfFields bdf).bus / 2 := by
  induction k with
  | zero => rfl
  | succ k ih =>
    rw [Function.iterate_succ_apply', bdfFields_valPcieIncrementBusdev, ← ih, BdfFn.nextSlot]
    split
    · rfl
    · change (_ / 2 * 2 + 1) / 2 = _ / 2
      omega

/-- The increment, again and again, comes to every later device of the segment. -/
def ReachesLater (next : UInt32 → UInt32) (bdf : UInt32) : Prop :=
  ∀ bus dev, bus < 256 → dev < 32 →
    (bdfFields bdf).bus < bus ∨ (bdfFields bdf).bus = bus ∧ (bdfFields bdf).dev < dev →
    ∃ k, bdfFields (next^[k] bdf) = ⟨(bdfFields bdf).seg, bus, dev, 0⟩

theorem reachesLater_of_bus_254 {bdf : UInt32} (hbus : (bdfFields bdf).bus = 254) :
    ReachesLater valPcieIncrementBusdev bdf := by
  have hdev := (bdfFields_fits bdf).dev
  intro bus dev hb hd hlater
  rcases hlater with hlater | ⟨rfl, hlater⟩
  · -- to the end of bus 254, over to bus 255, and along it
    obtain rfl : bus = 255 := by omega
    obtain ⟨func, -, hend⟩ := iterate_along_bus bdf (k := 31 - (bdfFields bdf).dev) (by omega)
    have hover : bdfFields (valPcieIncrementBusdev^[31 - (bdfFields bdf).dev + 1] bdf)
        = ⟨(bdfFields bdf).seg, 255, 0, 0⟩ := by
      rw [Function.iterate_succ_apply', bdfFields_valPcieIncrementBusdev, hend, BdfFn.nextSlot,
        if_neg (by change ¬ (bdfFields bdf).dev + (31 - (bdfFields bdf).dev) < 31; omega), hbus]
    obtain ⟨func', hfunc', halong⟩ := iterate_along_bus
      (valPcieIncrementBusdev^[31 - (bdfFields bdf).dev + 1] bdf) (k := dev)
      (by rw [hover]; change 0 + dev ≤ 31; omega)
    rw [hover, Nat.zero_add, ← Function.iterate_add_apply] at halong
    by_cases h0 : dev = 0
    · subst h0
      exact ⟨_, hover⟩
    · rw [hfunc' h0] at halong
      exact ⟨_, halong⟩
  · obtain ⟨func, hfunc, hfields⟩ := iterate_along_bus bdf (k := dev - (bdfFields bdf).dev) (by omega)
    rw [hfunc (by omega), Nat.add_sub_cancel' (by omega)] at hfields
    exact ⟨_, hfields⟩

/-- **The increment of the VAL**: it is that of the PAL, to the next device, unless it stands at
device 31 of an odd bus; and from bus 254 alone it comes to every later device. -/
theorem increment_busdev_iff {bdf : UInt32} (hbus : (bdfFields bdf).bus < 255) :
    ((valPcieIncrementBusdev bdf = palIncrementBusDev bdf ∧
        bdfFields (valPcieIncrementBusdev bdf) = (bdfFields bdf).nextDevice) ↔
      (bdfFields bdf).dev ≠ 31 ∨ (bdfFields bdf).bus % 2 = 0) ∧
    (ReachesLater valPcieIncrementBusdev bdf ↔ (bdfFields bdf).bus = 254) := by
  have hfits := bdfFields_fits bdf
  constructor
  · rw [← nextSlot_eq_nextDevice_iff hfits]
    constructor
    · rintro ⟨-, hnext⟩
      rw [← hnext, bdfFields_valPcieIncrementBusdev]
    · intro hnext
      have hval : valPcieIncrementBusdev bdf = (bdfFields bdf).nextDevice.bdf := by
        rw [valPcieIncrementBusdev_eq, hnext]
      exact ⟨hval.trans (palIncrementBusDev_eq hbus).symm,
        (bdfFields_valPcieIncrementBusdev bdf).trans hnext⟩
  · constructor
    · intro hreach
      obtain ⟨k, hk⟩ := hreach 255 0 (by decide) (by decide) (Or.inl hbus)
      have hpair := iterate_bus_pair bdf k
      rw [hk] at hpair
      change 255 / 2 = _ at hpair
      omega
    · exact reachesLater_of_bus_254

/-- Bus 254, device 3 of segment 0. -/
theorem increment_busdev_bus_254 :
    (bdfFields 0xFE18).bus < 255 ∧ valPcieIncrementBusdev 0xFE18 = palIncrementBusDev 0xFE18 ∧
      ReachesLater valPcieIncrementBusdev 0xFE18 :=
  ⟨by decide, ((increment_busdev_iff (by decide)).1.mpr (by decide)).1,
    (increment_busdev_iff (by decide)).2.mpr (by decide)⟩

/-- Device 31 of bus 1: the increment goes back to device 0 of bus 1, that of the PAL on to bus 2. -/
theorem increment_busdev_stays :
    valPcieIncrementBusdev 0x1F8 = 0x100 ∧ palIncrementBusDev 0x1F8 = 0x200 ∧
      ¬ ReachesLater valPcieIncrementBusdev 0x1F8 := by
  refine ⟨by decide, by decide, fun hreach => ?_⟩
  obtain ⟨k, hk⟩ := hreach 2 0 (by decide) (by decide) (Or.inl (by decide))
  have hpair := iterate_bus_pair 0x1F8 k
  rw [hk] at hpair
  exact absurd hpair (by decide)

end RmmAcs.Pcie
