/-
# The table of all functions

`val_pcie_create_device_bdf_table` goes through all functions of all regions and lists those that
answer, are no host bridge, have a PCI Express capability and are not to be left out on this platform.
Then `val_pcie_populate_device_rootport` looks for the root port above each of them, in the list
itself.

Two things are not looked at.  The table is an array of 32 KB, with no check for its end.  And a
function whose pointer to the capabilities reads as all ones is listed, since the search then returns
what the READ returned; its kind is later read from an offset nobody has stored.  Where neither
happens, the table is what the searches of `RootPort.lean` take it to be (`device_table_of_chains`).
-/
import RmmAcs.Pcie.Ecam
import RmmAcs.Pcie.Enumerate
import RmmAcs.Pcie.RootPort

namespace RmmAcs.Pcie.Ecam

open RmmAcs.Pcie
open Lib

/-! ## 1. Configuration space by BDF -/

def TYPE01_VIDR : UInt32 := 0x0
def TYPE01_RIDR : UInt32 := 0x8

section Space

variable (t : PcieInfoTable) (m : Mmio)

/-- The registers of a function. -/
def space (bdf offset : UInt32) : UInt32 :=
  palMmioRead32 (ecamBase t bdf + (cfgAddr bdf).toUInt64 + offset.toUInt64) m

/-- The configuration space of a function, as the searches for a capability have it. -/
def cfgSpace (bdf : UInt32) : CfgSpace := ⟨decide (ecamBase t bdf ≠ 0), space t m bdf⟩

theorem readCfg_cfgSpace (bdf offset : UInt32) (data : Option UInt32) :
    valPcieReadCfg t bdf offset data m = Pcie.valPcieReadCfg (cfgSpace t m bdf) offset data := by
  rw [readCfg_eq, Pcie.valPcieReadCfg, cfgSpace]
  by_cases h : ecamBase t bdf = 0
  · simp only [h, ne_eq, not_true_eq_false, decide_false, if_true, Bool.false_eq_true, if_false]
  · simp only [h, ne_eq, not_false_eq_true, decide_true, if_true, if_false]
    rfl

end Space

/-! ## 2. The table -/

/-- How the functions below may end otherwise: there is no mapping, a search is not over after so many
rounds or uses a variable with nothing in it, or the table has no room. -/
inductive ScanExit where
  | noMapping
  | stuck
  | overrun
deriving DecidableEq, Repr

/-- `pcie_device_attr` -/
structure PcieDeviceAttr where
  bdf : UInt32
  rpBdf : UInt32
deriving DecidableEq, Repr

def PCIE_DEVICE_BDF_TABLE_SZ : ℕ := 8192

/-- The entries of `g_pcie_bdf_table1`: `PCIE_DEVICE_BDF_TABLE_SZ` times the size of its header, for
the header and entries of eight bytes. -/
def bdfTableEntries : ℕ := (PCIE_DEVICE_BDF_TABLE_SZ * 4 - 4) / 8

section Table

-- the fuel is for the searches for a capability; `valid` is `pal_pcie_check_device_valid`
variable (t : PcieInfoTable) (m : Mmio) (valid : UInt32 → UInt32) (onChip : UInt32 → Bool) (fuel : ℕ)

/-- `val_pcie_is_host_bridge`. -/
def valPcieIsHostBridge (bdf : UInt32) : Except ScanExit Bool :=
  match (valPcieReadCfg t bdf TYPE01_RIDR none m).2 with
  | none => .error .stuck
  | some reg => .ok (isHostBridge reg)

/-- The body of the loops of `val_pcie_create_device_bdf_table`. -/
def probeBdf (table : List UInt32) (bdf : UInt32) : Except ScanExit (List UInt32) :=
  match valPcieReadCfg t bdf TYPE01_VIDR none m with
  | (ret, reg) =>
    if ret = PCIE_NO_MAPPING then .error .noMapping
    else if reg = some PCIE_UNKNOWN_RESPONSE then .ok table
    else do
      if ← valPcieIsHostBridge t m bdf then return table
      match valPcieFindCapability (cfgSpace t m bdf) PCIE_CAP CID_PCIECS fuel with
      | none => .error .stuck
      | some .uninitialised => .error .stuck
      | some (.returns status _) =>
        if status ≠ PCIE_SUCCESS then return table
        else if valid bdf ≠ 0 then return table
        else if table.length < bdfTableEntries then return table ++ [bdf]
        else .error .overrun

/-- `val_pcie_populate_device_rootport`. -/
def valPciePopulateDeviceRootport (table : List UInt32) : Except ScanExit (List PcieDeviceAttr) :=
  table.mapM fun bdf =>
    match valPcieGetRootport (space t m) onChip table fuel bdf with
    | none => .error .stuck
    | some (_, rpBdf) => .ok ⟨bdf, rpBdf⟩

/-- The loops over regions, buses, devices and functions. -/
def scanRegions : Except ScanExit (List UInt32) :=
  (List.range (valPcieGetInfo t .numEcam 0)).foldlM (fun table ecamIndex =>
    let segNum := valPcieGetInfo t .segment ecamIndex
    let startBus := valPcieGetInfo t .startBus ecamIndex
    let endBus := valPcieGetInfo t .endBus ecamIndex
    (List.range (endBus - startBus + 1)).foldlM (fun table i =>
      (List.range PCIE_MAX_DEV.toNat).foldlM (fun table dev =>
        (List.range PCIE_MAX_FUNC.toNat).foldlM (fun table func =>
          probeBdf t m valid fuel table
            (createBdf (.ofNat segNum) (.ofNat (startBus + i)) (.ofNat dev) (.ofNat func)))
          table) table) table) []

/-- `val_pcie_create_device_bdf_table`: the table, where it returns 0. -/
def valPcieCreateDeviceBdfTable : Except ScanExit (List PcieDeviceAttr) := do
  let table ← scanRegions t m valid fuel
  valPciePopulateDeviceRootport t m onChip fuel table

end Table

/-! ## 3. The loops -/

section Loops

variable {ε α β γ : Type}

theorem foldlM_flatMap (g : α → List β) (f : γ → β → Except ε γ) (l : List α) (c : γ) :
    (l.flatMap g).foldlM f c = l.foldlM (fun c a => (g a).foldlM f c) c := by
  induction l generalizing c with
  | nil => rfl
  | cons a l ih =>
    rw [List.flatMap_cons, List.foldlM_append, List.foldlM_cons]
    exact bind_congr fun c' => ih c'

/-- A loop over the indices of a list. -/
theorem foldlM_indices {f : γ → ℕ → Except ε γ} {g : γ → α → Except ε γ} {l : List α}
    (h : ∀ c i (hi : i < l.length), f c i = g c l[i]) (c : γ) :
    (List.range l.length).foldlM f c = l.foldlM g c := by
  conv_rhs => rw [← List.map_getElem_finRange l]
  rw [← List.map_coe_finRange_eq_range, List.foldlM_map, List.foldlM_map]
  have heq : (fun c (i : Fin l.length) => f c i) = fun c (i : Fin l.length) => g c l[i] :=
    funext₂ fun c i => h c i i.isLt
  rw [heq]
  rfl

/-- A loop that passes over some elements and appends something for the others, as long as there is
room. -/
theorem foldlM_collect {f : List β → α → Except ε (List β)} {p : α → Prop} [DecidablePred p]
    {g : α → β} {full : ε} {room : ℕ} {l : List α} (hskip : ∀ a ∈ l, ¬ p a → ∀ c, f c a = .ok c)
    (htake : ∀ a ∈ l, p a → ∀ c : List β,
      f c a = if c.length < room then .ok (c ++ [g a]) else .error full)
    {c : List β} (hc : c.length ≤ room) :
    l.foldlM f c = if c.length + (l.filter p).length ≤ room then .ok (c ++ (l.filter p).map g)
      else .error full := by
  induction l generalizing c with
  | nil =>
    rw [List.filter_nil, List.length_nil, Nat.add_zero, if_pos hc, List.map_nil, List.append_nil]
    rfl
  | cons a l ih =>
    have ih' := fun {c : List β} (hc : c.length ≤ room) =>
      ih (fun b hb => hskip b (List.mem_cons_of_mem _ hb))
        (fun b hb => htake b (List.mem_cons_of_mem _ hb)) hc
    rw [List.foldlM_cons]
    by_cases hp : p a
    · rw [htake a (List.mem_cons_self ..) hp, List.filter_cons_of_pos (by simpa using hp),
        List.length_cons, List.map_cons]
      by_cases hroom : c.length < room
      · have hlen : (c ++ [g a]).length ≤ room := by
          rw [List.length_append, List.length_singleton]
          exact hroom
        rw [if_pos hroom]
        refine (ih' hlen).trans ?_
        rw [List.length_append, List.length_singleton, List.append_assoc, List.singleton_append,
          Nat.add_assoc, Nat.add_comm 1]
      · rw [if_neg hroom, if_neg (by omega)]
        rfl
    · rw [hskip a (List.mem_cons_self ..) hp, List.filter_cons_of_neg (by simpa using hp)]
      exact ih' hc

end Loops

section Scan

variable (t : PcieInfoTable) (m : Mmio) (valid : UInt32 → UInt32) (fuel : ℕ)

/-- The loops go through the functions in the order of the table. -/
theorem scanRegions_eq : scanRegions t m valid fuel =
    t.fns.foldlM (fun table f => probeBdf t m valid fuel table f.bdf) [] := by
  rw [scanRegions, PcieInfoTable.fns, foldlM_flatMap, numEcam_eq]
  refine foldlM_indices (fun table i hi => ?_) []
  rw [PcieInfoBlock.fns, foldlM_flatMap, endBus_eq hi, startBus_eq hi, segment_eq hi]
  refine congrArg (fun f => List.foldlM f table _) (funext₂ fun table i => ?_)
  rw [busFns, foldlM_flatMap]
  refine congrArg (fun f => List.foldlM f table _) (funext₂ fun table dev => ?_)
  exact List.foldlM_map.symm

end Scan

/-! ## 4. Which functions are listed -/

section Probe

variable (t : PcieInfoTable) (m : Mmio) (valid : UInt32 → UInt32)

/-- A function that is listed. -/
structure Listed (bdf : UInt32) : Prop where
  answers : space t m bdf TYPE01_VIDR ≠ PCIE_UNKNOWN_RESPONSE
  notHost : isHostBridge (space t m bdf TYPE01_RIDR) = false
  cap : space t m bdf TYPE01_CPR = PCIE_UNKNOWN_RESPONSE ∨ HasPcieCap (space t m bdf)
  valid : valid bdf = 0

open Classical in
/-- The functions that are listed, in the order of the regions. -/
noncomputable def listed : List BdfFn := t.fns.filter fun f => Listed t m valid f.bdf

/-- The search for a PCI Express capability ends for a function that answers and is no host bridge. -/
def ChainEnds (bdf : UInt32) : Prop :=
  space t m bdf TYPE01_VIDR = PCIE_UNKNOWN_RESPONSE ∨
    isHostBridge (space t m bdf TYPE01_RIDR) = true ∨ space t m bdf TYPE01_CPR = PCIE_UNKNOWN_RESPONSE ∨
    ChainStops (space t m bdf) capLayout CID_PCIECS (space t m bdf TYPE01_CPR &&& 0xff)

variable {t m valid}

/-- **The search for the PCI Express capability** is successful if there is one, or if the pointer
reads as all ones. -/
theorem findCapability_pciecs {read : UInt32 → UInt32} {fuel : ℕ} (hfuel : fuel > 256)
    (hchain : read TYPE01_CPR = PCIE_UNKNOWN_RESPONSE ∨
      ChainStops read capLayout CID_PCIECS (read TYPE01_CPR &&& 0xff)) :
    ∃ status cidOffset, valPcieFindCapability ⟨true, read⟩ PCIE_CAP CID_PCIECS fuel
        = some (.returns status cidOffset) ∧
      (status = PCIE_SUCCESS ↔ read TYPE01_CPR = PCIE_UNKNOWN_RESPONSE ∨ HasPcieCap read) := by
  have hret : (0 : UInt32) ≠ PCIE_NO_MAPPING := by decide
  by_cases hones : read TYPE01_CPR = PCIE_UNKNOWN_RESPONSE
  · refine ⟨0, none, ?_, iff_of_true rfl (Or.inl hones)⟩
    simp only [valPcieFindCapability, if_true, Pcie.valPcieReadCfg, if_neg hret, hones]
  · obtain ⟨fuel', b, hwalk'⟩ := walk_ends_iff.mpr (hchain.resolve_left hones)
    have hwalk := walk_chain (w := 8) rfl hwalk' hfuel
    have hfind : valPcieFindCapability ⟨true, read⟩ PCIE_CAP CID_PCIECS fuel = some (if b = 0 then
        .returns PCIE_CAP_NOT_FOUND none else .returns PCIE_SUCCESS (some b)) := by
      simp only [valPcieFindCapability, if_true, Pcie.valPcieReadCfg, if_neg hret, if_neg hones,
        searchChain_eq_palChain, palChain_eq_walk]
      rw [hwalk]
      rfl
    by_cases h0 : b = 0
    · rw [if_pos h0] at hfind
      refine ⟨_, _, hfind, iff_of_false (by decide) ?_⟩
      rintro (h | h)
      · exact hones h
      · obtain ⟨base, hbase⟩ := h.base
        have hsame := hfind.symm.trans (hbase fuel hfuel).1
        cases hsame
    · rw [if_neg h0] at hfind
      exact ⟨_, _, hfind, iff_of_true rfl (Or.inr ⟨fuel, b, hfind⟩)⟩

/-- **One function**: it is passed over, or listed if there is room. -/
theorem probeBdf_eq {fuel : ℕ} {bdf : UInt32} (hfuel : fuel > 256) (hmap : ecamBase t bdf ≠ 0)
    (hchain : ChainEnds t m bdf) (table : List UInt32) :
    (¬ Listed t m valid bdf → probeBdf t m valid fuel table bdf = .ok table) ∧
      (Listed t m valid bdf → probeBdf t m valid fuel table bdf =
        if table.length < bdfTableEntries then .ok (table ++ [bdf]) else .error .overrun) := by
  have hret : (0 : UInt32) ≠ PCIE_NO_MAPPING := by decide
  have hread : ∀ offset, valPcieReadCfg t bdf offset none m = (0, some (space t m bdf offset)) := by
    intro offset
    rw [readCfg_eq, if_neg hmap]
    rfl
  have hcfg : cfgSpace t m bdf = ⟨true, space t m bdf⟩ := by
    rw [cfgSpace, decide_eq_true hmap]
  rw [probeBdf, hread]
  simp only [if_neg hret, Option.some.injEq, valPcieIsHostBridge, hread, hcfg]
  by_cases hvid : space t m bdf TYPE01_VIDR = PCIE_UNKNOWN_RESPONSE
  · rw [if_pos hvid]
    exact ⟨fun _ => rfl, fun h => absurd hvid h.answers⟩
  rw [if_neg hvid]
  cases hhost : isHostBridge (space t m bdf TYPE01_RIDR) with
  | true => exact ⟨fun _ => rfl, fun h => absurd (hhost.symm.trans h.notHost) (by decide)⟩
  | false =>
    have hwalk := (hchain.resolve_left hvid).resolve_left (by rw [hhost]; decide)
    obtain ⟨status, cidOffset, hfind, hstatus⟩ := findCapability_pciecs hfuel hwalk
    simp only [hfind]
    by_cases hcap : status = PCIE_SUCCESS
    · by_cases hvalid : valid bdf = 0
      · have hlisted : Listed t m valid bdf := ⟨hvid, hhost, hstatus.mp hcap, hvalid⟩
        refine ⟨fun h => absurd hlisted h, fun _ => ?_⟩
        simp only [hcap, hvalid, ne_eq, not_true_eq_false, if_false]
        rfl
      · refine ⟨fun _ => ?_, fun h => absurd h.valid hvalid⟩
        simp only [hcap, hvalid, ne_eq, not_true_eq_false, not_false_eq_true, if_false, if_true]
        rfl
    · refine ⟨fun _ => ?_, fun h => absurd (hstatus.mpr h.cap) hcap⟩
      simp only [hcap, ne_eq, not_false_eq_true, if_true]
      rfl

/-- **All functions.** -/
theorem scanRegions_listed {fuel : ℕ} (hm : Mapped t) (hfuel : fuel > 256)
    (hchains : ∀ f ∈ t.fns, ChainEnds t m f.bdf) : scanRegions t m valid fuel =
      if (listed t m valid).length ≤ bdfTableEntries then .ok ((listed t m valid).map BdfFn.bdf)
      else .error .overrun := by
  have hmap : ∀ f ∈ t.fns, ecamBase t f.bdf ≠ 0 := by
    intro f hf h0
    rw [ecamBase_eq_zero_iff hm, (fits_of_mem hm hf).bdfFields_bdf] at h0
    exact h0 hf
  classical
  rw [scanRegions_eq, foldlM_collect (p := fun f => Listed t m valid f.bdf) (g := BdfFn.bdf)
    (fun f hf hno c => (probeBdf_eq hfuel (hmap f hf) (hchains f hf) c).1 hno)
    (fun f hf hyes c => (probeBdf_eq hfuel (hmap f hf) (hchains f hf) c).2 hyes) (Nat.zero_le _)]
  rw [List.length_nil, Nat.zero_add, List.nil_append, listed]

end Probe

/-! ## 5. The root ports -/

section RootPorts

variable (t : PcieInfoTable) (m : Mmio) (onChip : UInt32 → Bool) (fuel : ℕ)

/-- What is asked of an entry: a root port is its own, an integrated function has none, and for any
other one it is the first root port of the table that covers it, in its segment, or 0. -/
def HasRootPort (table : List UInt32) (e : PcieDeviceAttr) : Prop :=
  ∃ dp, valPcieDevicePortType (space t m) onChip fuel e.bdf = some dp ∧
    e.rpBdf = if dp = RP ∨ dp = iEP_RP then e.bdf
      else if dp = RCiEP ∨ dp = RCEC then 0xffffffff
      else (table.find? fun rp =>
        Covers (space t m) onChip fuel e.bdf rp ∧ bdfSeg rp = bdfSeg e.bdf).getD 0

variable {t m fuel}

theorem getRootport_hasRootPort {table : List UInt32} (hfuel : fuel > 256)
    (hcap : ∀ e ∈ table, HasPcieCap (space t m e)) {bdf : UInt32} (hmem : bdf ∈ table) :
    ∃ status rpBdf, valPcieGetRootport (space t m) onChip table fuel bdf = some (status, rpBdf) ∧
      HasRootPort t m onChip fuel table ⟨bdf, rpBdf⟩ := by
  obtain ⟨base, hbase⟩ := devicePortType_of_cap onChip (hcap bdf hmem)
  obtain ⟨⟨dp, hdp, -⟩, -⟩ := hbase fuel hfuel
  rw [valPcieGetRootport, hdp]
  simp only [Option.bind_eq_bind, Option.bind_some]
  by_cases hrp : dp = RP ∨ dp = iEP_RP
  · rw [if_pos hrp]
    exact ⟨0, bdf, rfl, dp, hdp, (if_pos hrp).symm⟩
  rw [if_neg hrp]
  by_cases hint : dp = RCiEP ∨ dp = RCEC
  · rw [if_pos hint]
    exact ⟨1, 0xffffffff, rfl, dp, hdp, by rw [if_neg hrp, if_pos hint]⟩
  rw [if_neg hint, rootportLoop_eq hfuel bdf hcap]
  cases hfind : table.find? fun rp =>
      Covers (space t m) onChip fuel bdf rp ∧ bdfSeg rp = bdfSeg bdf with
  | some rp => exact ⟨0, rp, rfl, dp, hdp, by rw [if_neg hrp, if_neg hint, hfind]; rfl⟩
  | none => exact ⟨1, 0, rfl, dp, hdp, by rw [if_neg hrp, if_neg hint, hfind]; rfl⟩

/-- The kind of a function without an offset is not known. -/
theorem getRootport_ones (table : List UInt32) {bdf : UInt32}
    (hones : space t m bdf TYPE01_CPR = PCIE_UNKNOWN_RESPONSE) :
    valPcieGetRootport (space t m) onChip table fuel bdf = none := by
  have hret : (0 : UInt32) ≠ PCIE_NO_MAPPING := by decide
  have hkind : valPcieDevicePortType (space t m) onChip fuel bdf = none := by
    simp only [valPcieDevicePortType, valPcieFindCapability, if_true, Pcie.valPcieReadCfg,
      if_neg hret, hones]
  rw [valPcieGetRootport, hkind]
  rfl

end RootPorts

section MapM

variable {ε α β : Type} {f : α → Except ε β} {l : List α}

theorem mapM_ok {back : β → α} {P : β → Prop}
    (h : ∀ a ∈ l, ∃ b, f a = .ok b ∧ back b = a ∧ P b) :
    ∃ bs, l.mapM f = .ok bs ∧ bs.map back = l ∧ ∀ b ∈ bs, P b := by
  induction l with
  | nil => exact ⟨[], rfl, rfl, List.forall_mem_nil _⟩
  | cons a l ih =>
    obtain ⟨b, hb, hback, hp⟩ := h a (List.mem_cons_self ..)
    obtain ⟨bs, hbs, hmap, hall⟩ := ih fun a' ha' => h a' (List.mem_cons_of_mem _ ha')
    refine ⟨b :: bs, ?_, ?_, List.forall_mem_cons.mpr ⟨hp, hall⟩⟩
    · rw [List.mapM_cons, hb, hbs]
      rfl
    · rw [List.map_cons, hback, hmap]

theorem mapM_error {e : ε} (h : ∀ a, f a = .error e ∨ ∃ b, f a = .ok b) (hex : ∃ a ∈ l, f a = .error e) :
    l.mapM f = .error e := by
  induction l with
  | nil =>
    obtain ⟨a, ha, -⟩ := hex
    cases ha
  | cons a l ih =>
    rw [List.mapM_cons]
    rcases h a with ha | ⟨b, hb⟩
    · rw [ha]
      rfl
    · obtain ⟨a', ha', herr⟩ := hex
      rcases List.mem_cons.mp ha' with rfl | hmem
      · rw [hb] at herr
        cases herr
      · rw [hb, ih ⟨a', hmem, herr⟩]
        rfl

end MapM

section Main

variable {t : PcieInfoTable} {m : Mmio} {valid : UInt32 → UInt32} {onChip : UInt32 → Bool} {fuel : ℕ}

/-- **The table**, where the searches for a PCI Express capability end.  It overruns if more functions
are listed than it has entries for; the search for the root ports is lost if one of them has all ones
for its pointer; and else it lists each of them once, all of them with a PCI Express capability, and
each with its root port.  The searches read what `val_pcie_read_cfg` reads. -/
theorem device_table_of_chains (hm : Mapped t) (hfuel : fuel > 256)
    (hchains : ∀ f ∈ t.fns, ChainEnds t m f.bdf) :
    (bdfTableEntries < (listed t m valid).length →
      valPcieCreateDeviceBdfTable t m valid onChip fuel = .error .overrun) ∧
    ((listed t m valid).length ≤ bdfTableEntries →
      (∃ f ∈ listed t m valid, space t m f.bdf TYPE01_CPR = PCIE_UNKNOWN_RESPONSE) →
      valPcieCreateDeviceBdfTable t m valid onChip fuel = .error .stuck) ∧
    ((listed t m valid).length ≤ bdfTableEntries →
      (∀ f ∈ listed t m valid, space t m f.bdf TYPE01_CPR ≠ PCIE_UNKNOWN_RESPONSE) →
      ∃ (table : BdfTable (space t m)) (entries : List PcieDeviceAttr),
        valPcieCreateDeviceBdfTable t m valid onChip fuel = .ok entries ∧
        entries.map PcieDeviceAttr.bdf = table.bdfs ∧ table.bdfs.map bdfFields = listed t m valid ∧
        table.bdfs.Nodup ∧ ∀ e ∈ entries, HasRootPort t m onChip fuel table.bdfs e) ∧
    ∀ bdf offset data,
      valPcieReadCfg t bdf offset data m = Pcie.valPcieReadCfg (cfgSpace t m bdf) offset data := by
  have hscan : scanRegions t m valid fuel = _ := scanRegions_listed hm hfuel hchains
  refine ⟨fun hfull => ?_, fun hroom hones => ?_, fun hroom hcpr => ?_, readCfg_cfgSpace t m⟩
  · rw [valPcieCreateDeviceBdfTable, hscan, if_neg (Nat.not_le.mpr hfull)]
    rfl
  · rw [valPcieCreateDeviceBdfTable, hscan, if_pos hroom]
    obtain ⟨f, hf, hfones⟩ := hones
    refine mapM_error (fun bdf => ?_) ⟨f.bdf, List.mem_map_of_mem hf, ?_⟩
    · cases valPcieGetRootport (space t m) onChip ((listed t m valid).map BdfFn.bdf) fuel bdf with
      | none => exact Or.inl rfl
      | some r => exact Or.inr ⟨_, rfl⟩
    · rw [getRootport_ones onChip _ hfones]
  · have hlisted : ∀ f ∈ listed t m valid, f.Fits ∧ Listed t m valid f.bdf := by
      intro f hf
      classical
      obtain ⟨hmem, hl⟩ := List.mem_filter.mp hf
      exact ⟨fits_of_mem hm hmem, of_decide_eq_true hl⟩
    have hcap : ∀ bdf ∈ (listed t m valid).map BdfFn.bdf, HasPcieCap (space t m bdf) := by
      intro bdf hbdf
      obtain ⟨f, hf, rfl⟩ := List.mem_map.mp hbdf
      exact (hlisted f hf).2.cap.resolve_left (hcpr f hf)
    have hfields : ((listed t m valid).map BdfFn.bdf).map bdfFields = listed t m valid := by
      rw [List.map_map]
      exact (List.map_congr_left fun f hf => (hlisted f hf).1.bdfFields_bdf).trans (List.map_id _)
    have hnodup : (listed t m valid).Nodup := (fns_nodup t).filter _
    have hpopulate : ∃ entries, valPciePopulateDeviceRootport t m onChip fuel
          ((listed t m valid).map BdfFn.bdf) = .ok entries ∧
        entries.map PcieDeviceAttr.bdf = (listed t m valid).map BdfFn.bdf ∧
        ∀ e ∈ entries, HasRootPort t m onChip fuel ((listed t m valid).map BdfFn.bdf) e := by
      refine mapM_ok fun bdf hbdf => ?_
      obtain ⟨status, rpBdf, hroot, hhas⟩ := getRootport_hasRootPort onChip hfuel hcap hbdf
      exact ⟨⟨bdf, rpBdf⟩, by rw [hroot], rfl, hhas⟩
    obtain ⟨entries, hentries, hbdfs, hall⟩ := hpopulate
    refine ⟨⟨(listed t m valid).map BdfFn.bdf, fun bdf hbdf => ?_, hcap⟩, entries, ?_, hbdfs, hfields,
      List.Nodup.of_map bdfFields (hfields.symm ▸ hnodup), hall⟩
    · obtain ⟨f, hf, rfl⟩ := List.mem_map.mp hbdf
      exact (hlisted f hf).1.bdf_lt
    · rw [valPcieCreateDeviceBdfTable, hscan, if_pos hroom]
      exact hentries

/-- A region with two buses. -/
def twoBuses : PcieInfoTable where
  block := [⟨0x40000000, 0, 0, 1, by decide⟩]
  disjoint := List.pairwise_singleton _ _
  nonempty := List.cons_ne_nil _ _

/-- The three functions of `threeFns` answer, at their addresses. -/
def threeMmio : Mmio := fun addr =>
  let bdf := ((addr >>> 12) &&& 0xffff).toUInt32
  let offset := (addr &&& 0xfff).toUInt32
  if offset = TYPE01_VIDR then if bdf ∈ [0, 0x8, 0x100] then 0x00ab13b5 else 0xffffffff
  else threeFns bdf offset

theorem threeMmio_cap : ∀ f ∈ twoBuses.fns, space twoBuses threeMmio f.bdf TYPE01_CPR = 0x40 ∧
    capLayout.cid (space twoBuses threeMmio f.bdf 0x40) = CID_PCIECS := by
  decide +kernel

theorem device_table_three_functions : ∃ (table : BdfTable (space twoBuses threeMmio))
    (entries : List PcieDeviceAttr),
      valPcieCreateDeviceBdfTable twoBuses threeMmio (fun _ => 0) (fun _ => false) 257
        = .ok entries ∧
      entries.map PcieDeviceAttr.bdf = table.bdfs := by
  have hm : Mapped twoBuses := by
    refine ⟨?_, ?_, ?_⟩
    · unfold twoBuses
      decide
    · unfold twoBuses
      decide
    · unfold twoBuses
      decide
  have hchains : ∀ f ∈ twoBuses.fns, ChainEnds twoBuses threeMmio f.bdf := by
    intro f hf
    obtain ⟨hcpr, hcid⟩ := threeMmio_cap f hf
    refine Or.inr (Or.inr (Or.inr (stops_of_stop ?_)))
    rw [hcpr, capStop, Bool.or_eq_true]
    exact Or.inr (beq_iff_eq.mpr hcid)
  have hmem : ∀ f ∈ listed twoBuses threeMmio fun _ => 0, f ∈ twoBuses.fns := fun f hf => by
    classical
    exact (List.mem_filter.mp hf).1
  have hroom : (listed twoBuses threeMmio fun _ => 0).length ≤ bdfTableEntries := by
    classical
    exact (List.length_filter_le _ _).trans (by decide +kernel)
  have hcpr : ∀ f ∈ listed twoBuses threeMmio fun _ => 0,
      space twoBuses threeMmio f.bdf TYPE01_CPR ≠ PCIE_UNKNOWN_RESPONSE := by
    intro f hf
    rw [(threeMmio_cap f (hmem f hf)).1]
    decide
  have hfuel : 257 > 256 := by decide
  obtain ⟨table, entries, hok, hbdfs, -⟩ :=
    (device_table_of_chains hm hfuel hchains).2.2.1 hroom hcpr
  exact ⟨table, entries, hok, hbdfs⟩

end Main

end RmmAcs.Pcie.Ecam
