/-
# Which capability walks end

Four functions follow the capability chains of a function: `val_pcie_find_capability`, and in the
PAL `pal_pcie_get_pcie_type`, `pal_pcie_get_snoop_bit` and `pal_pcie_read_ext_cap_word`.  Each next
pointer is the device's, and none of the four counts its steps or remembers where it has been.  A
chain that comes back to itself is followed FOREVER, unless the walk is left at a structure with the
id on the way round.

The last of the four does not even leave there.  It reads a word of the structure INTO THE VARIABLE
the next pointer is then taken from, so that behind a structure with the id it goes on from
whatever that word has in its upper bits.
-/
import RmmAcs.Lib.Walk
import RmmAcs.Pcie.Capability

namespace RmmAcs.Pcie

open Lib

/-! ## 1. The walks of the PAL -/

def CID_PCIECS : UInt32 := 0x10
def PCIE_DEVICE_TYPE_SHIFT : UInt32 := 20
def PCIE_DEVICE_TYPE_MASK : UInt32 := 0xf
def PCI_EXP_DEVCTL : UInt32 := 8
def DEVCTL_SNOOP_BIT : UInt32 := 11

variable (read : UInt32 → UInt32)

/-- `while (next_cap_offset)`, left at a structure with the id; `none` if it is not over after `fuel`
rounds.  `pal_pcie_read_cfg` reads without asking for a mapping. -/
def palChain {α : Type} (l : Layout) (cid : UInt32) (found : UInt32 → UInt32 → α) (missing : α) :
    ℕ → UInt32 → Option α
  | 0, _ => none
  | fuel + 1, next =>
    if next = 0 then some missing
    else if l.cid (read next) = cid then some (found next (read next))
    else palChain l cid found missing fuel (l.next (read next))

/-- `pal_pcie_get_pcie_type`. -/
def palPcieGetPcieType (fuel : ℕ) : Option UInt32 :=
  palChain read capLayout CID_PCIECS
    (fun _ reg => (reg >>> PCIE_DEVICE_TYPE_SHIFT) &&& PCIE_DEVICE_TYPE_MASK) 0 fuel
    (read TYPE01_CPR &&& 0xff)

/-- `pal_pcie_get_snoop_bit`. -/
def palPcieGetSnoopBit (fuel : ℕ) : Option UInt32 :=
  palChain read capLayout CID_PCIECS
    (fun offset _ => (read (offset + PCI_EXP_DEVCTL) >>> DEVCTL_SNOOP_BIT) &&& 1) 2 fuel
    (read TYPE01_CPR &&& 0xff)

/-- What is in `reg_value` at the end of a round of `pal_pcie_read_ext_cap_word`. -/
def extCapReg (extCapId : UInt32) (offset : UInt8) (next : UInt32) : UInt32 :=
  if ecapLayout.cid (read next) = extCapId then read (next + offset.toUInt32) else read next

/-- The loop of `pal_pcie_read_ext_cap_word`; the result is what is then in `*val`. -/
def readExtCapLoop (extCapId : UInt32) (offset : UInt8) : ℕ → UInt32 → UInt16 → Option UInt16
  | 0, _, _ => none
  | fuel + 1, next, val =>
    if next = 0 then some val
    else
      let reg := extCapReg read extCapId offset next
      let val := if ecapLayout.cid (read next) = extCapId then (reg &&& 0xffff).toUInt16 else val
      readExtCapLoop extCapId offset fuel (ecapLayout.next reg) val

/-- `pal_pcie_read_ext_cap_word`. -/
def palPcieReadExtCapWord (extCapId : UInt32) (offset : UInt8) (val : UInt16) (fuel : ℕ) :
    Option UInt16 :=
  readExtCapLoop read extCapId offset fuel PCIE_ECAP_START val

/-! ## 2. When they end -/

/-- The offset of the next structure, as its pointer has it. -/
def nextCap (l : Layout) (offset : UInt32) : UInt32 := l.next (read offset)

/-- A null pointer, or a structure with the id. -/
def capStop (l : Layout) (cid offset : UInt32) : Bool :=
  offset == 0 || l.cid (read offset) == cid

/-- **The chain leads somewhere**: to a structure with the id, or to a null pointer. -/
def ChainStops (l : Layout) (cid start : UInt32) : Prop :=
  Stops (capStop read l cid) (nextCap read l) start

/-- The next structure where the pointer is read from behind a structure with the id. -/
def nextExtCap (extCapId : UInt32) (offset : UInt8) (next : UInt32) : UInt32 :=
  ecapLayout.next (extCapReg read extCapId offset next)

/-- The chain of `pal_pcie_read_ext_cap_word` leads to a null pointer. -/
def ExtChainStops (extCapId : UInt32) (offset : UInt8) : Prop :=
  Stops (· == 0) (nextExtCap read extCapId offset) PCIE_ECAP_START

variable {read}

/-- A loop over a chain is a walk. -/
theorem palChain_eq_walk {α : Type} (l : Layout) (cid : UInt32) (found : UInt32 → UInt32 → α)
    (missing : α) (fuel : ℕ) (start : UInt32) :
    palChain read l cid found missing fuel start =
      (walk (capStop read l cid) (nextCap read l) fuel start).map fun offset =>
        if offset = 0 then missing else found offset (read offset) := by
  induction fuel generalizing start with
  | zero => rfl
  | succ fuel ih =>
    rw [palChain, walk]
    by_cases h0 : start = 0
    · simp [capStop, h0]
    · by_cases hid : l.cid (read start) = cid
      · simp [capStop, h0, hid]
      · simp only [capStop, h0, hid, Bool.or_self, if_false, ih, beq_eq_false_iff_ne.mpr h0,
          beq_eq_false_iff_ne.mpr hid, Bool.false_eq_true]
        rfl

theorem palChain_ends_iff {α : Type} (l : Layout) (cid : UInt32) (found : UInt32 → UInt32 → α)
    (missing : α) (start : UInt32) :
    (∃ fuel r, palChain read l cid found missing fuel start = some r) ↔
      ChainStops read l cid start := by
  rw [ChainStops, ← walk_ends_iff]
  refine exists_congr fun fuel => ?_
  rw [palChain_eq_walk]
  simp [Option.map_eq_some_iff]

/-- The search of the VAL is the same walk. -/
theorem searchChain_eq_palChain (l : Layout) (cid : UInt32) (fuel : ℕ) (start : UInt32)
    (reg : Option UInt32) :
    searchChain ⟨true, read⟩ l cid fuel start reg =
      palChain read l cid (fun offset _ => Found.returns PCIE_SUCCESS (some offset))
        (.returns PCIE_CAP_NOT_FOUND none) fuel start := by
  induction fuel generalizing start reg with
  | zero => rfl
  | succ fuel ih =>
    rw [searchChain_step rfl, palChain, ih]

theorem searchChain_ends_iff (l : Layout) (cid : UInt32) (start : UInt32) (reg : Option UInt32) :
    (∃ fuel r, searchChain ⟨true, read⟩ l cid fuel start reg = some r) ↔
      ChainStops read l cid start := by
  rw [← palChain_ends_iff l cid (fun offset _ => Found.returns PCIE_SUCCESS (some offset))
    (.returns PCIE_CAP_NOT_FOUND none) start]
  simp only [searchChain_eq_palChain]

/-- **The search for a capability.**  In the configuration space it looks at the first register
before it walks. -/
theorem findCapability_ends_iff (read : UInt32 → UInt32) (cidType cid : UInt32) :
    (∃ fuel r, valPcieFindCapability ⟨true, read⟩ cidType cid fuel = some r) ↔
      (cidType = PCIE_CAP → read TYPE01_CPR = PCIE_UNKNOWN_RESPONSE ∨
        ChainStops read capLayout cid (read TYPE01_CPR &&& 0xff)) ∧
      (cidType = PCIE_ECAP → ChainStops read ecapLayout cid PCIE_ECAP_START) := by
  have hne : PCIE_ECAP ≠ PCIE_CAP := by decide
  by_cases hcap : cidType = PCIE_CAP
  · subst hcap
    have hret : (0 : UInt32) ≠ PCIE_NO_MAPPING := by decide
    simp only [valPcieFindCapability, if_true, valPcieReadCfg, if_neg hret, true_imp_iff]
    by_cases hones : read TYPE01_CPR = PCIE_UNKNOWN_RESPONSE
    · simp [hones, hne.symm]
    · simp only [hones, if_false, false_or, hne.symm, false_imp_iff, and_true]
      exact searchChain_ends_iff capLayout cid _ _
  · simp only [valPcieFindCapability, hcap, if_false, false_imp_iff, true_and]
    by_cases hecap : cidType = PCIE_ECAP
    · simp only [hecap, if_true, true_imp_iff]
      exact searchChain_ends_iff ecapLayout cid _ _
    · simp [hecap]

theorem readExtCapLoop_ends_iff (extCapId : UInt32) (offset : UInt8) (start : UInt32)
    (val : UInt16) (fuel : ℕ) :
    (readExtCapLoop read extCapId offset fuel start val).isSome =
      (walk (· == 0) (nextExtCap read extCapId offset) fuel start).isSome := by
  induction fuel generalizing start val with
  | zero => rfl
  | succ fuel ih =>
    rw [readExtCapLoop, walk]
    by_cases h0 : start = 0
    · simp [h0]
    · rw [if_neg h0, if_neg (by simpa using h0)]
      exact ih _ _

theorem readExtCapWord_ends_iff (read : UInt32 → UInt32) (extCapId : UInt32) (offset : UInt8)
    (val : UInt16) :
    (∃ fuel r, palPcieReadExtCapWord read extCapId offset val fuel = some r) ↔
      ExtChainStops read extCapId offset := by
  rw [ExtChainStops, ← walk_ends_iff]
  refine exists_congr fun fuel => ?_
  rw [← Option.isSome_iff_exists, ← Option.isSome_iff_exists, palPcieReadExtCapWord,
    readExtCapLoop_ends_iff]

/-- **Which walks end.**  The search of the VAL ends exactly if the chain it follows leads to the id
or to a null pointer, or the capabilities pointer reads as all ones.  The two searches of the PAL for
the PCI Express capability end exactly if the chain leads to it or to a null pointer.  The read of a
word ends exactly if the pointers it follows, some of them read from behind a structure with the id,
lead to a null pointer. -/
theorem capability_walks_end_iff (read : UInt32 → UInt32) (cidType cid extCapId : UInt32)
    (offset : UInt8) (val : UInt16) :
    ((∃ fuel r, valPcieFindCapability ⟨true, read⟩ cidType cid fuel = some r) ↔
      (cidType = PCIE_CAP → read TYPE01_CPR = PCIE_UNKNOWN_RESPONSE ∨
        ChainStops read capLayout cid (read TYPE01_CPR &&& 0xff)) ∧
      (cidType = PCIE_ECAP → ChainStops read ecapLayout cid PCIE_ECAP_START)) ∧
    ((∃ fuel r, palPcieGetPcieType read fuel = some r) ↔
      ChainStops read capLayout CID_PCIECS (read TYPE01_CPR &&& 0xff)) ∧
    ((∃ fuel r, palPcieGetSnoopBit read fuel = some r) ↔
      ChainStops read capLayout CID_PCIECS (read TYPE01_CPR &&& 0xff)) ∧
    ((∃ fuel r, palPcieReadExtCapWord read extCapId offset val fuel = some r) ↔
      ExtChainStops read extCapId offset) :=
  ⟨findCapability_ends_iff read cidType cid, palChain_ends_iff _ _ _ _ _,
    palChain_ends_iff _ _ _ _ _, readExtCapWord_ends_iff read extCapId offset val⟩

/-- A function with one capability and one extended capability, each its own successor. -/
def selfPointing (offset : UInt32) : UInt32 :=
  if offset = 0x34 then 0x40
  else if offset = 0x40 then 0x4005
  else if offset = 0x100 then 0x10010001
  else 0

theorem not_stops_of_fixed {α : Type} {stop : α → Bool} {next : α → α} {a : α}
    (hstop : stop a = false) (hnext : next a = a) : ¬ Stops stop next a := by
  rintro ⟨k, hk⟩
  rw [Function.iterate_fixed hnext, hstop] at hk
  cases hk

/-- None of the four comes back from it. -/
theorem walks_run_forever :
    (∀ fuel, valPcieFindCapability ⟨true, selfPointing⟩ PCIE_CAP CID_PCIECS fuel = none) ∧
    (∀ fuel, palPcieGetPcieType selfPointing fuel = none) ∧
    (∀ fuel, palPcieGetSnoopBit selfPointing fuel = none) ∧
    ∀ fuel, palPcieReadExtCapWord selfPointing 0x2E 4 0 fuel = none := by
  have hcap : ¬ ChainStops selfPointing capLayout CID_PCIECS (selfPointing TYPE01_CPR &&& 0xff) :=
    not_stops_of_fixed (by decide) (by decide)
  have hecap : ¬ ExtChainStops selfPointing 0x2E 4 := not_stops_of_fixed (by decide) (by decide)
  have hones : selfPointing TYPE01_CPR ≠ PCIE_UNKNOWN_RESPONSE := by decide
  have hnone {α : Type} {f : ℕ → Option α} (h : ¬ ∃ fuel r, f fuel = some r) (fuel : ℕ) :
      f fuel = none := by
    rw [Option.eq_none_iff_forall_ne_some]
    exact fun r hr => h ⟨fuel, r, hr⟩
  refine ⟨hnone fun h => ?_, hnone ?_, hnone ?_, hnone ?_⟩
  · exact (((findCapability_ends_iff _ _ _).mp h).1 rfl).elim hones hcap
  · exact mt (palChain_ends_iff _ _ _ _ _).mp hcap
  · exact mt (palChain_ends_iff _ _ _ _ _).mp hcap
  · exact mt (readExtCapWord_ends_iff _ _ _ _).mp hecap

end RmmAcs.Pcie
