/-
# Two searches for a root port

`val_pcie_get_rootport` and `val_pcie_get_root_port_bdf` (the latter through
`pal_pcie_get_root_port_bdf`) look for the root port above a function, in the table of all functions.
The first one goes on until it meets a root port of the segment whose bus range covers the function.
The second one leaves its loop behind the FIRST function that has a PCI Express capability, with
success if this is a covering root port and with an error if not; and it does not look at the segment.

All functions of the table have that capability, since `val_pcie_create_device_bdf_table` takes up no
others.  So the second search looks at the first entry and no further, and the two agree exactly if that
is enough (`rootport_searches_agree_iff`).
-/
import RmmAcs.Pcie.Bdf
import RmmAcs.Pcie.Termination

namespace RmmAcs.Pcie

open Lib

/-! ## 1. The kind of a function -/

def EP : UInt32 := (1 : UInt32) <<< (0b0000 : UInt32)
def RP : UInt32 := (1 : UInt32) <<< (0b0100 : UInt32)
def RCiEP : UInt32 := (1 : UInt32) <<< (0b1001 : UInt32)
def RCEC : UInt32 := (1 : UInt32) <<< (0b1010 : UInt32)
def iEP_RP : UInt32 := (1 : UInt32) <<< (0b1011 : UInt32)
def iEP_EP : UInt32 := (1 : UInt32) <<< (0b1100 : UInt32)

def CIDR_OFFSET : UInt32 := 0
def PCIECR_OFFSET : UInt32 := 2
def PCIECR_DPT_SHIFT : UInt32 := 4
def PCIECR_DPT_MASK : UInt32 := 0xf

/-- `TYPE1_PBN`, in the PAL `BUS_NUM_REG_OFFSET`. -/
def TYPE1_PBN : UInt32 := 0x18

/-- The device/port type, a bit for each. -/
def dpType (reg : UInt32) : UInt32 :=
  1 <<< ((reg >>> ((PCIECR_OFFSET - CIDR_OFFSET) * 8 + PCIECR_DPT_SHIFT)) &&& PCIECR_DPT_MASK)

/-- The secondary bus, with `SECBN_SHIFT` and `SECBN_MASK`. -/
def secBus (reg : UInt32) : UInt32 := (reg >>> 8) &&& 0xff

/-- The subordinate bus, with `SUBBN_SHIFT` and `SUBBN_MASK`. -/
def subBus (reg : UInt32) : UInt32 := (reg >>> 16) &&& 0xff

section Searches

-- the configuration spaces of the functions, by BDF, and which functions are on-chip
-- (`pal_pcie_is_onchip_peripheral`)
variable (space : UInt32 → UInt32 → UInt32) (onChip : UInt32 → Bool)

/-- `val_pcie_device_port_type`; `none` if the search for the capability is not over after so many
rounds, or gives no offset. -/
def valPcieDevicePortType (fuel : ℕ) (bdf : UInt32) : Option UInt32 :=
  match valPcieFindCapability ⟨true, space bdf⟩ PCIE_CAP CID_PCIECS fuel with
  | some (.returns _ (some pciecsBase)) =>
    let dp := dpType (space bdf (pciecsBase + CIDR_OFFSET))
    some (if onChip bdf then if dp = EP then iEP_EP else if dp = RP then iEP_RP else dp else dp)
  | _ => none

/-! ## 2. The searches -/

/-- The loop of `val_pcie_get_rootport`: what it returns, and `*rp_bdf`. -/
def rootportLoop (fuel : ℕ) (bdf : UInt32) : List UInt32 → Option (UInt32 × UInt32)
  | [] => some (1, 0)
  | rp :: rest => do
    let reg := space rp TYPE1_PBN
    let dp ← valPcieDevicePortType space onChip fuel rp
    if (dp = RP ∨ dp = iEP_RP) ∧ secBus reg ≤ bdfBus bdf ∧ subBus reg ≥ bdfBus bdf ∧
        bdfSeg rp = bdfSeg bdf then
      return (0, rp)
    else rootportLoop fuel bdf rest

/-- `val_pcie_get_rootport`. -/
def valPcieGetRootport (table : List UInt32) (fuel : ℕ) (bdf : UInt32) :
    Option (UInt32 × UInt32) := do
  let dp ← valPcieDevicePortType space onChip fuel bdf
  if dp = RP ∨ dp = iEP_RP then return (0, bdf)
  else if dp = RCiEP ∨ dp = RCEC then return (1, 0xffffffff)
  else rootportLoop space onChip fuel bdf table

/-- The fields of a BDF, packed again. -/
def repackBdf (bdf : UInt32) : UInt32 := createBdf (bdfSeg bdf) (bdfBus bdf) (bdfDev bdf) (bdfFunc bdf)

/-- The structure with the id in the loop of `pal_pcie_get_root_port_bdf`: what it returns, and the BDF
whose fields are then in `*Seg`, `*Bus`, `*Dev` and `*Func`. -/
def palRootPortAt (bdf entry offset : UInt32) : UInt32 × UInt32 :=
  let current := repackBdf entry
  let dp := dpType (space current (offset + CIDR_OFFSET))
  let reg := space current TYPE1_PBN
  if (dp = RP ∨ dp = iEP_RP) ∧ bdfBus bdf ≥ secBus reg ∧ bdfBus bdf ≤ subBus reg then (0, entry)
  else (2, bdf)

/-- The loop of `pal_pcie_get_root_port_bdf`, which goes on behind a function without the
capability. -/
def palRootPortLoop (fuel : ℕ) (bdf : UInt32) : List UInt32 → Option (UInt32 × UInt32)
  | [] => some (1, bdf)
  | entry :: rest =>
    let current := repackBdf entry
    match palChain (space current) capLayout CID_PCIECS
        (fun offset _ => some (palRootPortAt space bdf entry offset)) none fuel
        (space current TYPE01_CPR &&& 0xff) with
    | none => none
    | some none => palRootPortLoop fuel bdf rest
    | some (some r) => some r

/-- `val_pcie_get_root_port_bdf`: what it returns, and `*bdf`. -/
def valPcieGetRootPortBdf (table : List UInt32) (fuel : ℕ) (bdf : UInt32) :
    Option (UInt32 × UInt32) := do
  let (status, rp) ← palRootPortLoop space fuel bdf table
  if status ≠ 0 then return (status, bdf) else return (0, repackBdf rp)

end Searches

/-! ## 3. The table -/

/-- The search for the PCI Express capability is successful. -/
def HasPcieCap (read : UInt32 → UInt32) : Prop :=
  ∃ fuel base, valPcieFindCapability ⟨true, read⟩ PCIE_CAP CID_PCIECS fuel
    = some (.returns PCIE_SUCCESS (some base))

/-- The table of all functions: `val_pcie_create_device_bdf_table` takes up those with a PCI Express
capability. -/
structure BdfTable (space : UInt32 → UInt32 → UInt32) where
  bdfs : List UInt32
  small : ∀ bdf ∈ bdfs, bdf.toNat < 2 ^ 24
  cap : ∀ bdf ∈ bdfs, HasPcieCap (space bdf)

theorem repackBdf_eq {bdf : UInt32} (h : bdf.toNat < 2 ^ 24) : repackBdf bdf = bdf :=
  (createBdf_eq rfl rfl rfl rfl).trans (bdf_bdfFields h)

/-- A pointer has as many bits as its mask. -/
theorem nextCap_mem (read : UInt32 → UInt32) {l : Layout} {w : ℕ} (hmask : l.ncprMask.toNat = 2 ^ w - 1)
    (offset : UInt32) : nextCap read l offset ∈ (Finset.range (2 ^ w)).image UInt32.ofNat := by
  refine Finset.mem_image.mpr ⟨(nextCap read l offset).toNat, ?_, UInt32.ofNat_toNat⟩
  rw [Finset.mem_range, nextCap, Layout.next, UInt32.toNat_and, hmask, Nat.and_two_pow_sub_one_eq_mod]
  exact Nat.mod_lt _ (Nat.two_pow_pos w)

/-- A walk along a chain that ends does so within as many rounds as there are pointers, and one. -/
theorem walk_chain {read : UInt32 → UInt32} {l : Layout} {w : ℕ} (hmask : l.ncprMask.toNat = 2 ^ w - 1)
    {cid start b : UInt32} {fuel fuel' : ℕ}
    (h : walk (capStop read l cid) (nextCap read l) fuel start = some b) (hfuel : 2 ^ w < fuel') :
    walk (capStop read l cid) (nextCap read l) fuel' start = some b := by
  have hcard : ((Finset.range (2 ^ w)).image UInt32.ofNat).card ≤ 2 ^ w :=
    Finset.card_image_le.trans (Nat.le_of_eq (Finset.card_range _))
  exact walk_of_walk hcard (nextCap_mem read hmask) h hfuel

/-- **Where the capability is.**  Both walks find it at the same place, within 257 rounds. -/
theorem HasPcieCap.base {read : UInt32 → UInt32} (h : HasPcieCap read) :
    ∃ base, ∀ fuel > 256,
      valPcieFindCapability ⟨true, read⟩ PCIE_CAP CID_PCIECS fuel
        = some (.returns PCIE_SUCCESS (some base)) ∧
      ∀ {α : Type} (found : UInt32 → UInt32 → α) (missing : α),
        palChain read capLayout CID_PCIECS found missing fuel (read TYPE01_CPR &&& 0xff)
          = some (found base (read base)) := by
  obtain ⟨fuel, base, h⟩ := h
  have hret : (0 : UInt32) ≠ PCIE_NO_MAPPING := by decide
  simp only [valPcieFindCapability, if_true, valPcieReadCfg, if_neg hret] at h ⊢
  by_cases hones : read TYPE01_CPR = PCIE_UNKNOWN_RESPONSE
  · simp [hones] at h
  · simp only [hones, if_false, searchChain_eq_palChain, palChain_eq_walk] at h ⊢
    obtain ⟨offset, hwalk, hoffset⟩ := Option.map_eq_some_iff.mp h
    have h0 : offset ≠ 0 := by
      intro h0
      rw [if_pos h0] at hoffset
      cases hoffset
    rw [if_neg h0] at hoffset
    cases hoffset
    refine ⟨base, fun fuel' hfuel' => ?_⟩
    have hmask : capLayout.ncprMask.toNat = 2 ^ 8 - 1 := rfl
    rw [walk_chain hmask hwalk hfuel']
    refine ⟨?_, fun found missing => ?_⟩
    · rw [Option.map_some, if_neg h0]
    · rw [Option.map_some, if_neg h0]

section Agreement

variable {space : UInt32 → UInt32 → UInt32} {onChip : UInt32 → Bool}

/-- A root port whose bus range covers the bus of a function. -/
def Covers (space : UInt32 → UInt32 → UInt32) (onChip : UInt32 → Bool) (fuel : ℕ) (bdf rp : UInt32) :
    Prop :=
  (valPcieDevicePortType space onChip fuel rp = some RP ∨
    valPcieDevicePortType space onChip fuel rp = some iEP_RP) ∧
  secBus (space rp TYPE1_PBN) ≤ bdfBus bdf ∧ bdfBus bdf ≤ subBus (space rp TYPE1_PBN)

instance (fuel : ℕ) (bdf rp : UInt32) : Decidable (Covers space onChip fuel bdf rp) :=
  inferInstanceAs (Decidable (_ ∧ _))

/-- The kind of a function of the table, which being on-chip does not make or unmake a root port. -/
theorem devicePortType_of_cap (onChip : UInt32 → Bool) {bdf : UInt32} (h : HasPcieCap (space bdf)) :
    ∃ base, ∀ fuel > 256,
      (∃ dp, valPcieDevicePortType space onChip fuel bdf = some dp ∧
        (dp = RP ∨ dp = iEP_RP ↔
          dpType (space bdf (base + CIDR_OFFSET)) = RP ∨
            dpType (space bdf (base + CIDR_OFFSET)) = iEP_RP)) ∧
      ∀ {α : Type} (found : UInt32 → UInt32 → α) (missing : α),
        palChain (space bdf) capLayout CID_PCIECS found missing fuel (space bdf TYPE01_CPR &&& 0xff)
          = some (found base (space bdf base)) := by
  obtain ⟨base, hbase⟩ := h.base
  refine ⟨base, fun fuel hfuel => ⟨?_, (hbase fuel hfuel).2⟩⟩
  rw [valPcieDevicePortType, (hbase fuel hfuel).1]
  refine ⟨_, rfl, ?_⟩
  generalize dpType (space bdf (base + CIDR_OFFSET)) = dp
  cases onChip bdf with
  | false => exact Iff.rfl
  | true =>
    by_cases hep : dp = EP
    · subst hep
      decide
    · by_cases hrp : dp = RP
      · subst hrp
        decide
      · simp only [if_true, if_neg hep, if_neg hrp]

/-! ## 4. What each search gives -/

/-- The search of the VAL: the first root port of the segment that covers the bus. -/
theorem rootportLoop_eq {fuel : ℕ} (hfuel : fuel > 256) (bdf : UInt32) {l : List UInt32}
    (hcap : ∀ e ∈ l, HasPcieCap (space e)) :
    rootportLoop space onChip fuel bdf l
      = some (match l.find? fun rp => Covers space onChip fuel bdf rp ∧ bdfSeg rp = bdfSeg bdf with
        | some rp => (0, rp)
        | none => (1, 0)) := by
  induction l with
  | nil => rfl
  | cons rp rest ih =>
    obtain ⟨base, hbase⟩ := devicePortType_of_cap onChip (hcap rp (List.mem_cons_self ..))
    obtain ⟨⟨dp, hdp, -⟩, -⟩ := hbase fuel hfuel
    have hcovers : (Covers space onChip fuel bdf rp ∧ bdfSeg rp = bdfSeg bdf) ↔
        (dp = RP ∨ dp = iEP_RP) ∧ secBus (space rp TYPE1_PBN) ≤ bdfBus bdf ∧
          subBus (space rp TYPE1_PBN) ≥ bdfBus bdf ∧ bdfSeg rp = bdfSeg bdf := by
      rw [Covers, hdp, Option.some.injEq, Option.some.injEq, and_assoc, and_assoc]
    rw [rootportLoop, hdp]
    simp only [Option.bind_eq_bind, Option.bind_some, ← hcovers]
    by_cases h : Covers space onChip fuel bdf rp ∧ bdfSeg rp = bdfSeg bdf
    · rw [if_pos h, List.find?_cons_of_pos (by simpa using h)]
      rfl
    · rw [if_neg h, List.find?_cons_of_neg (by simpa using h)]
      exact ih fun e he => hcap e (List.mem_cons_of_mem _ he)

/-- The search of the PAL: the first function, or none. -/
theorem palRootPortLoop_eq (onChip : UInt32 → Bool) {fuel : ℕ} (hfuel : fuel > 256) (bdf : UInt32)
    {first : UInt32} (rest : List UInt32) (hsmall : first.toNat < 2 ^ 24) (hcap : HasPcieCap (space first)) :
    palRootPortLoop space fuel bdf (first :: rest)
      = some (if Covers space onChip fuel bdf first then (0, first) else (2, bdf)) := by
  obtain ⟨base, hbase⟩ := devicePortType_of_cap onChip hcap
  obtain ⟨⟨dp, hdp, hkind⟩, hchain⟩ := hbase fuel hfuel
  have hcovers : Covers space onChip fuel bdf first ↔
      (dpType (space first (base + CIDR_OFFSET)) = RP ∨
        dpType (space first (base + CIDR_OFFSET)) = iEP_RP) ∧
      bdfBus bdf ≥ secBus (space first TYPE1_PBN) ∧ bdfBus bdf ≤ subBus (space first TYPE1_PBN) := by
    rw [Covers, hdp, Option.some.injEq, Option.some.injEq, hkind]
  simp only [palRootPortLoop, repackBdf_eq hsmall, hchain, palRootPortAt, hcovers]

/-- The two searches agree on the function: both end, the one succeeds if the other does, and then
they report the same root port. -/
def Agree (space : UInt32 → UInt32 → UInt32) (onChip : UInt32 → Bool) (table : List UInt32) (fuel : ℕ)
    (bdf : UInt32) : Prop :=
  ∃ status rp status' rp', valPcieGetRootport space onChip table fuel bdf = some (status, rp) ∧
    valPcieGetRootPortBdf space table fuel bdf = some (status', rp') ∧
    (status = 0 ↔ status' = 0) ∧ (status = 0 → rp = rp')

theorem agree_iff {table : List UInt32} {fuel : ℕ} {bdf : UInt32} {r r' : UInt32 × UInt32}
    (h : valPcieGetRootport space onChip table fuel bdf = some r)
    (h' : valPcieGetRootPortBdf space table fuel bdf = some r') :
    Agree space onChip table fuel bdf ↔ (r.1 = 0 ↔ r'.1 = 0) ∧ (r.1 = 0 → r.2 = r'.2) := by
  constructor
  · rintro ⟨status, rp, status', rp', hr, hr', hagree⟩
    rw [h] at hr
    rw [h'] at hr'
    cases hr
    cases hr'
    exact hagree
  · exact fun hagree => ⟨r.1, r.2, r'.1, r'.2, h, h', hagree⟩

theorem valPcieGetRootPortBdf_eq (onChip : UInt32 → Bool) {fuel : ℕ} (hfuel : fuel > 256) (bdf : UInt32)
    {first : UInt32} (rest : List UInt32) (hsmall : first.toNat < 2 ^ 24)
    (hcap : HasPcieCap (space first)) :
    valPcieGetRootPortBdf space (first :: rest) fuel bdf
      = some (if Covers space onChip fuel bdf first then (0, first) else (2, bdf)) := by
  rw [valPcieGetRootPortBdf, palRootPortLoop_eq onChip hfuel bdf rest hsmall hcap]
  by_cases h : Covers space onChip fuel bdf first
  · simp only [if_pos h, Option.bind_eq_bind, Option.bind_some, ne_eq, not_true_eq_false, if_false,
      repackBdf_eq hsmall]
    rfl
  · simp only [if_neg h, Option.bind_eq_bind, Option.bind_some]
    rfl

theorem valPcieGetRootport_eq {table : List UInt32} {fuel : ℕ} {bdf : UInt32}
    (hep : valPcieDevicePortType space onChip fuel bdf = some EP) :
    valPcieGetRootport space onChip table fuel bdf = rootportLoop space onChip fuel bdf table := by
  have hnot : ¬ (EP = RP ∨ EP = iEP_RP) ∧ ¬ (EP = RCiEP ∨ EP = RCEC) := by decide
  rw [valPcieGetRootport, hep]
  simp only [Option.bind_eq_bind, Option.bind_some, if_neg hnot.1, if_neg hnot.2]

/-- **The two searches**: for an endpoint they agree if the first function of the table is a root port
of its segment that covers it, or if this is no covering root port, and no other of the segment is. -/
theorem rootport_searches_agree_iff (t : BdfTable space) {bdf : UInt32} (hmem : bdf ∈ t.bdfs)
    {fuel : ℕ} (hfuel : fuel > 256) (hep : valPcieDevicePortType space onChip fuel bdf = some EP) :
    Agree space onChip t.bdfs fuel bdf ↔
      (∃ first ∈ t.bdfs.head?, Covers space onChip fuel bdf first ∧ bdfSeg first = bdfSeg bdf) ∨
      (∀ first ∈ t.bdfs.head?, ¬ Covers space onChip fuel bdf first) ∧
        ∀ rp ∈ t.bdfs, ¬ (Covers space onChip fuel bdf rp ∧ bdfSeg rp = bdfSeg bdf) := by
  obtain ⟨bdfs, hsmall, hcap⟩ := t
  rcases bdfs with _ | ⟨first, rest⟩
  · cases hmem
  have h1 : (1 : UInt32) ≠ 0 := by decide
  have h2 : (2 : UInt32) ≠ 0 := by decide
  have hfirst : first ∈ first :: rest := List.mem_cons_self ..
  have hval := (valPcieGetRootport_eq hep).trans (rootportLoop_eq hfuel bdf hcap)
  have hpal := valPcieGetRootPortBdf_eq onChip hfuel bdf rest (hsmall first hfirst) (hcap first hfirst)
  rw [agree_iff hval hpal]
  simp only [List.head?_cons, Option.mem_def, Option.some.injEq, exists_eq_left', forall_eq']
  by_cases hcov : Covers space onChip fuel bdf first
  · rw [if_pos hcov]
    by_cases hseg : bdfSeg first = bdfSeg bdf
    · rw [List.find?_cons_of_pos (by simpa using ⟨hcov, hseg⟩)]
      exact iff_of_true ⟨Iff.rfl, fun _ => rfl⟩ (Or.inl ⟨hcov, hseg⟩)
    · -- what the VAL finds, if anything, is of another segment than the first function
      refine iff_of_false ?_ (by tauto)
      rintro ⟨hiff, hsame⟩
      cases hfind : (first :: rest).find?
          fun rp => Covers space onChip fuel bdf rp ∧ bdfSeg rp = bdfSeg bdf with
      | none =>
        rw [hfind] at hiff
        exact absurd (hiff.mpr rfl) h1
      | some rp =>
        have hrp := List.find?_some hfind
        rw [hfind] at hsame
        simp only [decide_eq_true_eq] at hrp
        have heq : rp = first := hsame rfl
        exact hseg (heq ▸ hrp.2)
  · rw [if_neg hcov]
    cases hfind : (first :: rest).find?
        fun rp => Covers space onChip fuel bdf rp ∧ bdfSeg rp = bdfSeg bdf with
    | none =>
      have hnone := List.find?_eq_none.mp hfind
      refine iff_of_true ⟨iff_of_false h1 h2, fun h => absurd h h1⟩ (Or.inr ⟨hcov, fun rp hrp => ?_⟩)
      simpa using hnone rp hrp
    | some rp =>
      have hrp := List.find?_some hfind
      simp only [decide_eq_true_eq] at hrp
      refine iff_of_false (fun h => absurd (h.1.mp rfl) h2) ?_
      rintro (⟨h, -⟩ | ⟨-, h⟩)
      · exact hcov h
      · exact h rp (List.mem_of_find?_eq_some hfind) hrp

end Agreement

/-- Root port 0:1.0 with bus 1 below it, endpoint 1:0.0, and an integrated endpoint 0:0.0. -/
def threeFns (bdf offset : UInt32) : UInt32 :=
  if offset = TYPE01_CPR then 0x40
  else if offset = 0x40 then
    if bdf = 0x8 then 0x00420010 else if bdf = 0x100 then 0x00020010 else 0x00920010
  else if offset = TYPE1_PBN ∧ bdf = 0x8 then 0x00010100
  else 0

theorem threeFns_cap : ∀ bdf ∈ [0, 0x8, 0x100], HasPcieCap (threeFns bdf) := by
  intro bdf hbdf
  refine ⟨1, 0x40, ?_⟩
  simp only [List.mem_cons, List.not_mem_nil, or_false] at hbdf
  rcases hbdf with rfl | rfl | rfl
  · rfl
  · rfl
  · rfl

/-- The table with the root port in front. -/
def rootPortFirst : BdfTable threeFns where
  bdfs := [0x8, 0x100]
  small := by simp
  cap := fun bdf hbdf => threeFns_cap bdf (List.mem_cons_of_mem _ hbdf)

/-- The table as the functions are numbered. -/
def integratedFirst : BdfTable threeFns where
  bdfs := [0, 0x8, 0x100]
  small := by simp
  cap := threeFns_cap

theorem rootport_searches_root_port_first :
    valPcieDevicePortType threeFns (fun _ => false) 257 0x100 = some EP ∧
      Agree threeFns (fun _ => false) rootPortFirst.bdfs 257 0x100 := by
  have hep : valPcieDevicePortType threeFns (fun _ => false) 257 0x100 = some EP := by decide +kernel
  refine ⟨hep, (rootport_searches_agree_iff rootPortFirst (by decide) (by decide) hep).mpr (Or.inl ?_)⟩
  exact ⟨0x8, rfl, by decide +kernel, by decide⟩

/-- The search of the PAL gives up at the integrated endpoint. -/
theorem rootport_searches_differ :
    valPcieGetRootport threeFns (fun _ => false) integratedFirst.bdfs 257 0x100 = some (0, 0x8) ∧
      valPcieGetRootPortBdf threeFns integratedFirst.bdfs 257 0x100 = some (2, 0x100) ∧
      ¬ Agree threeFns (fun _ => false) integratedFirst.bdfs 257 0x100 := by
  have hval : valPcieGetRootport threeFns (fun _ => false) integratedFirst.bdfs 257 0x100
      = some (0, 0x8) := by decide +kernel
  have hpal : valPcieGetRootPortBdf threeFns integratedFirst.bdfs 257 0x100 = some (2, 0x100) := by
    decide +kernel
  refine ⟨hval, hpal, ?_⟩
  rw [agree_iff hval hpal]
  decide

end RmmAcs.Pcie
