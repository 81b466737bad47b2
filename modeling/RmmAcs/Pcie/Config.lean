/-
# PCIe configuration space

A hierarchy is a root bus with functions on it, some of which are bridges to further buses.  What
the enumeration sees of it is the configuration space: it reads and writes the registers of the
function at a bus, a device and a function number.  WHERE such an access goes is decided by the
hierarchy itself.  The root bus answers for its own number.  A bridge takes what lies between its
secondary and its subordinate bus number; if it is the secondary number the function is on the bus
below, and otherwise the access goes on to the bridges there.  So an access to a bus finds it only
once the bridges that lead there have been programmed, and while they are.

The state of the hierarchy and its structure are one tree, with the registers at its nodes.
-/
import Mathlib

namespace RmmAcs.Pcie

/-! ## 1. Functions -/

/-- A BAR register: the bits that can be written, the bits that are fixed, and what has been
written last. -/
structure BarReg where
  mask : UInt32
  low : UInt32
  value : UInt32
deriving DecidableEq, Repr

def BarReg.read (r : BarReg) : UInt32 := (r.value &&& r.mask) ||| r.low

/-- The registers of a function that the enumeration reads or writes.  `busNum` and the windows are
those of a Type 1 header; a Type 0 header has six BARs, a Type 1 header two. -/
structure Fn where
  vendorId : UInt32
  command : UInt32
  classCode : UInt32
  header : UInt32
  bars : ℕ → BarReg
  busNum : UInt32
  /-- `NON_PRE_FET_OFFSET`, `PRE_FET_OFFSET` and the two registers behind it. -/
  npWindow : UInt32
  pWindow : UInt32
  pUpperBase : UInt32
  pUpperLimit : UInt32

namespace Fn

/-- `PCIE_HEADER_TYPE(header_value)`. -/
def headerType (header : UInt32) : UInt32 := (header >>> 16) &&& 3

/-- `TYPE1_HEADER`. -/
def isType1 (f : Fn) : Bool := headerType f.header == 1

/-- A BAR register of the function. -/
def readBar (i : ℕ) (f : Fn) : UInt32 := (f.bars i).read

def writeBar (i : ℕ) (v : UInt32) (f : Fn) : Fn :=
  { f with bars := Function.update f.bars i { f.bars i with value := v } }

/-- A register by its offset; of the others nothing is known. -/
def read (offset : ℕ) (f : Fn) : UInt32 :=
  match offset, f.isType1 with
  | 0x0, _ => f.vendorId
  | 0x4, _ => f.command
  | 0x8, _ => f.classCode
  | 0xC, _ => f.header
  | 0x10, _ => f.readBar 0
  | 0x14, _ => f.readBar 1
  | 0x18, true => f.busNum
  | 0x18, false => f.readBar 2
  | 0x1C, false => f.readBar 3
  | 0x20, true => f.npWindow
  | 0x20, false => f.readBar 4
  | 0x24, true => f.pWindow
  | 0x24, false => f.readBar 5
  | 0x28, true => f.pUpperBase
  | 0x2C, true => f.pUpperLimit
  | _, _ => 0

/-- The vendor, the class code and the header type cannot be written. -/
def write (offset : ℕ) (v : UInt32) (f : Fn) : Fn :=
  match offset, f.isType1 with
  | 0x4, _ => { f with command := v }
  | 0x10, _ => f.writeBar 0 v
  | 0x14, _ => f.writeBar 1 v
  | 0x18, true => { f with busNum := v }
  | 0x18, false => f.writeBar 2 v
  | 0x1C, false => f.writeBar 3 v
  | 0x20, true => { f with npWindow := v }
  | 0x20, false => f.writeBar 4 v
  | 0x24, true => { f with pWindow := v }
  | 0x24, false => f.writeBar 5 v
  | 0x28, true => { f with pUpperBase := v }
  | 0x2C, true => { f with pUpperLimit := v }
  | _, _ => f

/-- The secondary and the subordinate bus number of a bridge. -/
def sec (f : Fn) : ℕ := ((f.busNum >>> 8) &&& 0xFF).toNat

def sub (f : Fn) : ℕ := ((f.busNum >>> 16) &&& 0xFF).toNat

/-- A bridge takes the accesses to these buses. -/
def Claims (f : Fn) (bus : ℕ) : Prop := f.sec ≤ bus ∧ bus ≤ f.sub

instance (f : Fn) (bus : ℕ) : Decidable (f.Claims bus) := inferInstanceAs (Decidable (_ ∧ _))

end Fn

/-! ## 2. Buses -/

/-- The functions on a bus, by their slot (`8 * dev + func`); a bridge has a bus below it. -/
inductive Bus where
  | empty
  | device (slot : ℕ) (f : Fn) (rest : Bus)
  | bridge (slot : ℕ) (f : Fn) (below rest : Bus)

namespace Bus

/-- The function in a slot of this bus. -/
def find (slot : ℕ) : Bus → Option Fn
  | empty => none
  | device s f rest => if slot = s then some f else rest.find slot
  | bridge s f _ rest => if slot = s then some f else rest.find slot

/-- Change the function in a slot of this bus. -/
def update (slot : ℕ) (g : Fn → Fn) : Bus → Bus
  | empty => empty
  | device s f rest => if slot = s then device s (g f) rest else device s f (rest.update slot g)
  | bridge s f below rest =>
    if slot = s then bridge s (g f) below rest else bridge s f below (rest.update slot g)

/-- No bridge on this bus takes the access. -/
def Quiet (bus : ℕ) : Bus → Prop
  | empty => True
  | device _ _ rest => rest.Quiet bus
  | bridge _ f _ rest => ¬ f.Claims bus ∧ rest.Quiet bus

instance decidableQuiet (bus : ℕ) : (t : Bus) → Decidable (t.Quiet bus)
  | empty => inferInstanceAs (Decidable True)
  | device _ _ rest => decidableQuiet bus rest
  | bridge _ f _ rest =>
    have := decidableQuiet bus rest
    inferInstanceAs (Decidable (¬ f.Claims bus ∧ rest.Quiet bus))

/-- An access to a bus below this one: it goes through the ONE bridge that takes it.  Where several
would, nothing answers. -/
def findBelow (bus slot : ℕ) : Bus → Option Fn
  | empty => none
  | device _ _ rest => rest.findBelow bus slot
  | bridge _ f below rest =>
    if f.Claims bus then
      if rest.Quiet bus then
        if bus = f.sec then below.find slot else below.findBelow bus slot
      else none
    else rest.findBelow bus slot

def updateBelow (bus slot : ℕ) (g : Fn → Fn) : Bus → Bus
  | empty => empty
  | device s f rest => device s f (rest.updateBelow bus slot g)
  | bridge s f below rest =>
    if f.Claims bus then
      if rest.Quiet bus then
        if bus = f.sec then bridge s f (below.update slot g) rest
        else bridge s f (below.updateBelow bus slot g) rest
      else bridge s f below rest
    else bridge s f below (rest.updateBelow bus slot g)

/-- The function at a bus and a slot, from a root bus with the number `root`. -/
def lookup (root bus slot : ℕ) (t : Bus) : Option Fn :=
  if bus = root then t.find slot else t.findBelow bus slot

def modify (root bus slot : ℕ) (g : Fn → Fn) (t : Bus) : Bus :=
  if bus = root then t.update slot g else t.updateBelow bus slot g

end Bus

/-! ## 3. Accesses -/

/-- How the registers of one function are reached, in a state `σ`. -/
structure Access (σ : Type) where
  read : ℕ → σ → UInt32
  write : ℕ → UInt32 → σ → σ

/-- `pal_pci_cfg_read` and `pal_pci_cfg_write` for a bus and a slot.  Where nothing answers, all bits
are set, and a write is lost. -/
def palPciCfg (root bus slot : ℕ) : Access Bus where
  read := fun offset t =>
    match t.lookup root bus slot with
    | some f => f.read offset
    | none => 0xFFFFFFFF
  write := fun offset v t => t.modify root bus slot (Fn.write offset v)

/-- The registers of a function at hand. -/
def Fn.access : Access Fn where
  read := Fn.read
  write := Fn.write

/-- What is done through one access is done through the other, under `h`. -/
structure Access.Sim {σ τ : Type} (a : Access σ) (b : Access τ) (h : σ → τ) : Prop where
  read : ∀ offset s, b.read offset (h s) = a.read offset s
  write : ∀ offset v s, b.write offset v (h s) = h (a.write offset v s)

end RmmAcs.Pcie
