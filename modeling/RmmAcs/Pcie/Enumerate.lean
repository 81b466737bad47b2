/-
# The enumeration: `pal_pcie_enumeration.c`

`pal_pcie_enumerate_device` goes through the slots of a bus.  A bridge gets the next free number as
its secondary bus and 0xFF, for the time being, as its subordinate bus; the bus below is enumerated,
and what comes back is the final subordinate bus.  A Type 0 function gets addresses for its BARs,
from one of three pools: the 64-bit BARs, the other memory BARs ("32 bit P"), and the I/O BARs
("32 bit NP").  After each bridge the pools are rounded up to the next megabyte, for its windows.

The pools are global variables, and so is the history of what has been programmed into a BAR, which
the program does not keep but its reader wants to know.  Addresses and sizes are numbers here:
that no start address wraps around at 2 ^ 32 (2 ^ 64) is ASSUMED.  It holds of a hierarchy that fits
into the windows of the pools, which end far below.  What IS cut to 32 bits, the size of the last
64-bit BAR, is cut here as well.
-/
import RmmAcs.Pcie.Config

namespace RmmAcs.Pcie

/-! ## 1. The global variables -/

/-- The pools of addresses: `g_bar32_np_*`, `g_bar32_p_*` and `g_bar64_p_*`. -/
inductive PoolKind where
  | np
  | p
  | p64
deriving DecidableEq, Repr

/-- A pool: its start, its `max`, and the size and bus of the last BAR (`g_np_bar_size`, `g_np_bus`,
..). -/
structure Pool where
  start : ℕ
  max : ℕ
  size : ℕ
  bus : ℕ
deriving DecidableEq, Repr

/-- An address programmed into a BAR: the BAR by its bus and offset, its size and its pool, the
address, and what the variables held before: those of the pool, and the size of the last BAR of the
same function and pool (`np_bar_size`, ..). -/
structure Programmed where
  kind : PoolKind
  bus : ℕ
  offset : ℕ
  size : ℕ
  address : ℕ
  before : Pool
  last : ℕ
deriving DecidableEq, Repr

structure Globals where
  pools : PoolKind → Pool
  /-- `g_rp_bar32_value` and `g_rp_bar64_value`. -/
  rpBar32 : UInt32
  rpBar64 : UInt64
  history : List Programmed

/-- `PLATFORM_OVERRIDE_PCIE_BAR32NP_VALUE`, `.._BAR32P_VALUE`, `.._BAR64_VALUE` and the two values for
root ports. -/
def Globals.init : Globals where
  pools := fun k =>
    match k with
    | .np => ⟨0x50000000, 0, 0, 0⟩
    | .p => ⟨0x50600000, 0, 0, 0⟩
    | .p64 => ⟨0x4000100000, 0, 0, 0⟩
  rpBar32 := 0x50850000
  rpBar64 := 0x4000000000
  history := []

/-- The start address of the next BAR. -/
def Pool.next (p : Pool) (bus last barSize : ℕ) : ℕ :=
  if last = 0 ∧ p.bus = bus then
    if p.size < barSize then p.start + barSize else p.start + p.size
  else if p.size < barSize ∧ last ≠ 0 then p.start + barSize
  else p.start + last

/-- A BAR takes its address from a pool. -/
def Globals.place (kind : PoolKind) (bus offset last barSize : ℕ) (g : Globals) : Globals :=
  let p := g.pools kind
  let start := p.next bus last barSize
  { g with
    pools := Function.update g.pools kind { p with start := start, size := barSize % 2 ^ 32, bus := bus }
    history := g.history ++ [⟨kind, bus, offset, barSize, start, p, last⟩] }

/-! ## 2. The BARs of a function -/

/-- `BAR_TYPE(bar_reg_value) == BAR_MEM_SPACE`. -/
def isMemSpace (v : UInt32) : Bool := (v &&& 1) == 0

/-- `BAR_REG(bar_reg_value) == BAR_64_BIT`. -/
def is64Bit (v : UInt32) : Bool := ((v >>> 2) &&& 1) == 1

/-- `BAR_MASK`. -/
def barMask : UInt32 := 0xFFFFFFF0

/-- The variables of the loop: the state, the global variables, the offset, and `np_bar_size`,
`p_bar_size` and `p_bar64_size`. -/
structure BarState (σ : Type) where
  cfg : σ
  g : Globals
  offset : ℕ
  last : PoolKind → ℕ

section Bars

variable {σ : Type} (acc : Access σ)

/-- Write all ones to a register, and read what comes back. -/
def probe32 (offset : ℕ) (s : σ) : UInt32 × σ :=
  let s := acc.write offset 0xFFFFFFF0 s
  (acc.read offset s, s)

/-- The size of a 32-bit BAR, from what was read: `~(v & BAR_MASK) + 1`. -/
def size32 (v : UInt32) : ℕ := (~~~(v &&& barMask) + 1).toNat

/-- The same for both registers of a 64-bit BAR. -/
def probe64 (offset : ℕ) (s : σ) : UInt64 × σ :=
  let s := acc.write offset 0xFFFFFFF0 s
  let s := acc.write (offset + 4) 0xFFFFFFFF s
  let lower := acc.read offset s
  let upper := acc.read (offset + 4) s
  ((lower &&& barMask).toUInt64 ||| (upper.toUInt64 <<< 32), s)

def size64 (v : UInt64) : ℕ := (~~~v + 1).toNat

/-- The registers have changed. -/
def BarState.withCfg (s : σ) (st : BarState σ) : BarState σ := { st with cfg := s }

/-- `offset = offset + n`. -/
def BarState.moveOn (n : ℕ) (st : BarState σ) : BarState σ := { st with offset := st.offset + n }

/-- Take an address for a BAR; the first of the two values is the start of its pool. -/
def BarState.place (kind : PoolKind) (bus barSize : ℕ) (st : BarState σ) : ℕ × BarState σ :=
  let g := st.g.place kind bus st.offset (st.last kind) barSize
  ((g.pools kind).start,
    { st with g := g, last := Function.update st.last kind (barSize % 2 ^ 32) })

/-- Both halves of the address of a 64-bit BAR. -/
def writeBar64 (start : ℕ) (st : BarState σ) : BarState σ :=
  let s := acc.write st.offset (UInt32.ofNat start) st.cfg
  let s := acc.write (st.offset + 4) (UInt32.ofNat (start / 2 ^ 32)) s
  (st.withCfg s).moveOn 8

def writeBar32 (start : ℕ) (st : BarState σ) : BarState σ :=
  (st.withCfg (acc.write st.offset (UInt32.ofNat start) st.cfg)).moveOn 4

/-- The address of a BAR that is not in memory space.  Bit 2 of what is read back decides where the
loop goes on. -/
def writeBarIo (start : ℕ) (st : BarState σ) : BarState σ :=
  let s := acc.write st.offset (UInt32.ofNat start) st.cfg
  if is64Bit (acc.read st.offset s) then
    (st.withCfg (acc.write (st.offset + 4) 0 s)).moveOn 8
  else (st.withCfg s).moveOn 4

/-- A 64-bit BAR. -/
def programBar64 (bus : ℕ) (st : BarState σ) : BarState σ :=
  let (v, s) := probe64 acc st.offset st.cfg
  let st := st.withCfg s
  if size64 v = 0 then st.moveOn 8
  else
    let (start, st) := st.place .p64 bus (size64 v)
    writeBar64 acc start st

/-- A 32-bit memory BAR. -/
def programBar32 (bus : ℕ) (st : BarState σ) : BarState σ :=
  let (v, s) := probe32 acc st.offset st.cfg
  let st := st.withCfg s
  if size32 v = 0 then st.moveOn 4
  else
    let (start, st) := st.place .p bus (size32 v)
    writeBar32 acc start st

/-- A BAR that is not in memory space. -/
def programBarIo (bus : ℕ) (st : BarState σ) : BarState σ :=
  let (v, s) := probe32 acc st.offset st.cfg
  let st := st.withCfg s
  if size32 v = 0 then st.moveOn (if is64Bit v then 8 else 4)
  else
    let (start, st) := st.place .np bus (size32 v)
    writeBarIo acc start st

/-- The body of the loop. -/
def barRound (bus : ℕ) (st : BarState σ) : BarState σ :=
  let v := acc.read st.offset st.cfg
  if isMemSpace v then
    if is64Bit v then programBar64 acc bus st else programBar32 acc bus st
  else programBarIo acc bus st

/-- `while (offset <= TYPE0_BAR_MAX_OFF)`; `none` is a loop that has not ended after so many
rounds. -/
def barLoop (bus : ℕ) : ℕ → BarState σ → Option (BarState σ)
  | 0, st => if st.offset ≤ 0x24 then none else some st
  | n + 1, st => if st.offset ≤ 0x24 then barLoop bus n (barRound acc bus st) else some st

/-- `g_bar32_p_max = g_bar32_p_start`, and so on. -/
def Globals.setMax (g : Globals) : Globals :=
  { g with pools := fun k => { g.pools k with max := (g.pools k).start } }

/-- `pal_pcie_program_bar_reg`. -/
def palPcieProgramBarReg (bus : ℕ) (s : σ) (g : Globals) : Option (σ × Globals) :=
  (barLoop acc bus 6 ⟨s, g, 0x10, fun _ => 0⟩).map fun st => (st.cfg, st.g.setMax)

/-- The body of the loop of `pal_pcie_rp_program_bar`. -/
def rpBarRound (st : σ × UInt32 × ℕ) (rpBar64 : UInt64) : σ × UInt32 × ℕ :=
  let (s, rpBar32, offset) := st
  if is64Bit (acc.read offset s) then
    let (v, s) := probe64 acc offset s
    if size64 v = 0 then (s, rpBar32, offset + 8)
    else
      let s := acc.write offset rpBar64.toUInt32 s
      (acc.write (offset + 4) (rpBar64 >>> 32).toUInt32 s, rpBar32, offset + 8)
  else
    let (v, s) := probe32 acc offset s
    if size32 v = 0 then (s, rpBar32, offset + 4)
    else (acc.write offset rpBar32 s, rpBar32 + UInt32.ofNat (size32 v), offset + 4)

/-- `while (offset <= TYPE1_BAR_MAX_OFF)`. -/
def rpBarLoop (rpBar64 : UInt64) : ℕ → σ × UInt32 × ℕ → Option (σ × UInt32)
  | 0, st => if st.2.2 ≤ 0x14 then none else some (st.1, st.2.1)
  | n + 1, st =>
    if st.2.2 ≤ 0x14 then rpBarLoop rpBar64 n (rpBarRound acc st rpBar64) else some (st.1, st.2.1)

/-- `pal_pcie_rp_program_bar`. -/
def palPcieRpProgramBar (s : σ) (g : Globals) : Option (σ × Globals) :=
  (rpBarLoop acc g.rpBar64 2 (s, g.rpBar32, 0x10)).map fun (s, rpBar32) =>
    (s, { g with rpBar32 := rpBar32 })

/-! ## 3. The windows of a bridge -/

/-- `BAR_INCREMENT`. -/
def barIncrement : ℕ := 0x100000

/-- `(start & MEM_BASE32_LIM_MASK) + BAR_INCREMENT`. -/
def nextMegabyte (start : ℕ) : ℕ := start / barIncrement * barIncrement + barIncrement

/-- One half of `get_resource_base_32`: the start of the pool goes up to the next megabyte, if it is
not at one, and the limit goes into the window register.  `(start << 12) != 0` looks at the low
20 bits. -/
def resourceBase32 (kind : PoolKind) (offset base limit : ℕ) (s : σ) (g : Globals) : σ × Globals :=
  let p := g.pools kind
  if base ≠ p.start then
    let start := if p.start % 2 ^ 20 ≠ 0 then nextMegabyte p.start else p.start
    let limit := if limit = start then limit - barIncrement else limit
    let v := (UInt32.ofNat limit &&& 0xFFF00000) ||| acc.read offset s
    (acc.write offset v s,
      { g with pools := Function.update g.pools kind { p with start := start } })
  else (s, g)

/-- `get_resource_base_32`. -/
def getResourceBase32 (pBase npBase pLimit npLimit : ℕ) (s : σ) (g : Globals) : σ × Globals :=
  let (s, g) := resourceBase32 acc .np 0x20 npBase npLimit s g
  resourceBase32 acc .p 0x24 pBase pLimit s g

/-- `REG_MASK_SHIFT(bar_value)`. -/
def regMaskShift (v : UInt32) : UInt32 := (v &&& 0xFFF00000) >>> 16

/-- `get_resource_base_64`.  Here `(start << 12) != 0` looks at the low 52 bits, and the start goes up
a second time.  (In between, the lower half of the limit is changed once more; it has been used by
then.) -/
def getResourceBase64 (base limit : ℕ) (s : σ) (g : Globals) : σ × Globals :=
  let p := g.pools .p64
  if base ≠ limit ∧ p.start ≤ limit then
    let memBar := (regMaskShift (UInt32.ofNat limit) <<< 16) ||| regMaskShift (UInt32.ofNat base)
    let start := if p.start % 2 ^ 52 ≠ 0 then nextMegabyte p.start else p.start
    let s := acc.write 0x24 memBar s
    let s := acc.write 0x28 (UInt32.ofNat (base / 2 ^ 32)) s
    (acc.write 0x2C (UInt32.ofNat (limit / 2 ^ 32)) s,
      { g with pools := Function.update g.pools .p64 { p with start := nextMegabyte start } })
  else (s, g)

/-! ## 4. Bridges -/

/-- `BUS_NUM_REG_CFG(sub_bus, sec_bus, pri_bus)`. -/
def busNumRegCfg (subBus secBus priBus : ℕ) : UInt32 :=
  UInt32.ofNat (subBus <<< 16 ||| secBus <<< 8 ||| priBus)

/-- A bridge before the bus below it is enumerated: `COMMAND_REG_OFFSET`, `BUS_NUM_REG_OFFSET` with
0xFF, and the two windows. -/
def enterBridge (bus sec : ℕ) (g : Globals) (s : σ) : σ :=
  let s := acc.write 0x4 (acc.read 0x4 s ||| 7) s
  let s := acc.write 0x18 (busNumRegCfg 0xFF sec bus) s
  let s := acc.write 0x20 ((UInt32.ofNat (g.pools .np).start >>> 16) &&& 0xFFF0) s
  acc.write 0x24 ((UInt32.ofNat (g.pools .p).start >>> 16) &&& 0xFFF0) s

/-- The same bridge afterwards: its bus numbers, its windows and its own BARs. -/
def leaveBridge (bus sub sec : ℕ) (base : PoolKind → ℕ) (s : σ) (g : Globals) :
    Option (σ × Globals) :=
  let s := acc.write 0x18 (busNumRegCfg sub sec bus) s
  let (s, g) := getResourceBase32 acc (base .p) (base .np) (g.pools .p).max (g.pools .np).max s g
  let (s, g) := getResourceBase64 acc (base .p64) (g.pools .p64).max s g
  palPcieRpProgramBar acc s g

end Bars

/-! ## 5. The buses -/

/-- An ECAM block, by the bus numbers it covers; they have eight bits. -/
structure Ecam where
  startBus : ℕ
  endBus : ℕ
  start_le : startBus ≤ endBus
  end_le : endBus ≤ 255

/-- The slots in the order of the two loops, over `dev` and `func`. -/
def slots : List ℕ :=
  (List.range 32).flatMap fun dev => (List.range 8).map fun func => 8 * dev + func

/-- The variables of the loops: `sec_bus`, `sub_bus`, the bases of the pools, and the state. -/
structure Scan where
  sec : ℕ
  sub : ℕ
  base : PoolKind → ℕ
  tree : Bus
  g : Globals

/-- The starts of the pools. -/
def Globals.starts (g : Globals) : PoolKind → ℕ := fun k => (g.pools k).start

section Enumerate

variable (ecam : Ecam)

/-- The class code of a host bridge: `HB_BASE_CLASS` and `HB_SUB_CLASS`. -/
def isHostBridge (classCode : UInt32) : Bool :=
  ((classCode >>> 24) &&& 0xFF) == 6 && ((classCode >>> 16) &&& 0xFF) == 0

/-- The body of the loops; `rec` is the function itself. -/
def scanSlot (rec : ℕ → ℕ → Bus → Globals → Option (ℕ × Bus × Globals)) (bus : ℕ) (st : Scan)
    (slot : ℕ) : Option Scan :=
  let acc := palPciCfg ecam.startBus bus slot
  let vendorId := acc.read 0 st.tree
  if vendorId = 0 ∨ vendorId = 0xFFFFFFFF then some st
  else if isHostBridge (acc.read 0x8 st.tree) then some st
  else
    let header := acc.read 0xC st.tree
    if Fn.headerType header = 1 then
      match rec st.sec (st.sec + 1) (enterBridge acc bus st.sec st.g st.tree) st.g with
      | some (sub, t, g) =>
        (leaveBridge acc bus sub st.sec st.base t g).map fun (t, g) =>
          { sec := sub + 1, sub := sub, base := g.starts, tree := t, g := g }
      | none => none
    else if Fn.headerType header = 0 then
      (palPcieProgramBarReg acc bus st.tree st.g).map fun (t, g) =>
        { st with sub := st.sec - 1, tree := t, g := g }
    else some st

/-- `pal_pcie_enumerate_device`; `none` is a call that has not returned, with so many calls inside
one another. -/
def palPcieEnumerateDevice : ℕ → ℕ → ℕ → Bus → Globals → Option (ℕ × Bus × Globals)
  | 0, _, _, _, _ => none
  | n + 1, bus, sec, t, g =>
    if bus = ecam.endBus + 1 then some (bus, t, g)
    else
      (slots.foldlM (scanSlot ecam (palPcieEnumerateDevice n) bus) ⟨sec, bus, g.starts, t, g⟩).map
        fun st => (st.sub, st.tree, st.g)

/-- One slot of `pal_clear_pri_bus`. -/
def clearPriBusSlot (bus : ℕ) (t : Bus) (slot : ℕ) : Bus :=
  let acc := palPciCfg ecam.startBus bus slot
  let vendorId := acc.read 0 t
  if vendorId = 0 ∨ vendorId = 0xFFFFFFFF then t
  else if Fn.headerType (acc.read 0xC t) = 1 then acc.write 0x18 (acc.read 0x18 t &&& 0xFFFFFF00) t
  else t

/-- `pal_clear_pri_bus`. -/
def palClearPriBus (t : Bus) : Bus :=
  (List.range (ecam.endBus + 1)).foldl (fun t bus => slots.foldl (clearPriBusSlot ecam bus) t) t

end Enumerate

/-- `pal_pcie_enumerate`: the hierarchies of the ECAM blocks, one after the other. -/
def palPcieEnumerate (fuel : ℕ) : List (Ecam × Bus) → Globals → Option (List Bus × Globals)
  | [], g => some ([], g)
  | (ecam, t) :: blocks, g =>
    match palPcieEnumerateDevice ecam fuel ecam.startBus (ecam.startBus + 1) t g with
    | none => none
    | some (_, t, g) =>
      (palPcieEnumerate fuel blocks g).map fun (ts, g) => (palClearPriBus ecam t :: ts, g)

end RmmAcs.Pcie
