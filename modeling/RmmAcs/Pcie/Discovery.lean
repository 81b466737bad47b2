/-
# Which devices are discovered

`val_pcie_find_doe_capability` finds the next device that can be assigned: a function 0 that is an
endpoint below a root port, or an endpoint integrated into the root complex, with a DOE capability.
The caller keeps the number of entries still to be looked at; it starts with the number of all entries,
and the index of an entry is what is missing to that.

Called again and again this gives all of these devices, in the order of the table, but for two things
(`doe_discovery_iff`).  That an endpoint has no root port is kept as the root port 0, which IS a root
port if it is function 0 of device 0 of bus 0: the endpoints below that one are left out.  And the search
for the capability has to end, which it does only if the chain of the device does.

`da_init` asks for one device.  It takes a number of entries of 1 for the error that has the same
value, and finds nothing in a table of one entry.
-/
import RmmAcs.Pcie.RootPort

namespace RmmAcs.Pcie

open Lib

def DOE_CAP_ID : UInt32 := 0x2E

section Discovery

variable (space : UInt32 → UInt32 → UInt32) (onChip : UInt32 → Bool)

/-! ## 1. The table with its root ports -/

/-- `pcie_device_attr`: a function, and the root port above it. -/
structure DeviceEntry where
  bdf : UInt32
  rpBdf : UInt32
deriving DecidableEq

/-- The loop of `val_pcie_populate_device_rootport`: whatever the search returns, `rp_bdf` is kept. -/
def populateLoop (table : List UInt32) (fuel : ℕ) : List UInt32 → Option (List DeviceEntry)
  | [] => some []
  | bdf :: rest => do
    let (_, rpBdf) ← valPcieGetRootport space onChip table fuel bdf
    let devices ← populateLoop table fuel rest
    return ⟨bdf, rpBdf⟩ :: devices

/-- `val_pcie_populate_device_rootport`. -/
def valPciePopulateDeviceRootport (table : List UInt32) (fuel : ℕ) : Option (List DeviceEntry) :=
  populateLoop space onChip table fuel table

/-- `val_pcie_get_num_bdf`: `VAL_ERROR` is 1. -/
def valPcieGetNumBdf (devices : List DeviceEntry) : ℕ :=
  if devices.length = 0 then 1 else devices.length

/-! ## 2. The next device -/

/-- How a call of `val_pcie_find_doe_capability` ends: with `VAL_ERROR`, or with `*bdf` and
`*doe_cap_base`. -/
inductive DoeFound where
  | error
  | device (bdf doeCapBase : UInt32)
deriving DecidableEq

/-- One round: `*bdf` and `*doe_cap_base` if this is a device, `some none` to go on; `none` if a search
is not over. -/
def doeRound (fuel : ℕ) (e : DeviceEntry) : Option (Option (UInt32 × UInt32)) := do
  if bdfFunc e.bdf ≠ 0 then return none
  else
    let dp ← valPcieDevicePortType space onChip fuel e.bdf
    if dp ≠ EP ∧ dp ≠ RCiEP then return none
    else if dp = EP ∧ e.rpBdf = 0 then return none
    else
      match valPcieFindCapability ⟨true, space e.bdf⟩ PCIE_ECAP DOE_CAP_ID fuel with
      | some (.returns status base) =>
        if status = PCIE_CAP_NOT_FOUND then return none
        else return some (e.bdf, base.getD 0)
      | _ => none

/-- `while (*num_bdf != 0)`: how it ends, and what is left in `*num_bdf`. -/
def findDoeLoop (devices : List DeviceEntry) (fuel : ℕ) : ℕ → Option (DoeFound × ℕ)
  | 0 => some (.error, 0)
  | numBdf + 1 =>
    match devices[devices.length - (numBdf + 1)]? with
    | none => none
    | some e =>
      match doeRound space onChip fuel e with
      | none => none
      | some none => findDoeLoop devices fuel numBdf
      | some (some (bdf, base)) => some (.device bdf base, numBdf)

/-- `val_pcie_find_doe_capability`. -/
def valPcieFindDoeCapability (devices : List DeviceEntry) (fuel numBdf : ℕ) : Option (DoeFound × ℕ) :=
  if devices.length = 0 then some (.error, numBdf) else findDoeLoop space onChip devices fuel numBdf

/-- The devices found by calls with the same counter, until `VAL_ERROR`; `none` if that has not come
after so many calls. -/
def discover (devices : List DeviceEntry) (fuel : ℕ) : ℕ → ℕ → Option (List UInt32)
  | 0, _ => none
  | calls + 1, numBdf =>
    match valPcieFindDoeCapability space onChip devices fuel numBdf with
    | none => none
    | some (.error, _) => some []
    | some (.device bdf _, numBdf') => (discover devices fuel calls numBdf').map (bdf :: ·)

/-- How far `da_init` gets with its device. -/
inductive DaInit where
  | noBdf
  | noDevice
  | noRootport (bdf : UInt32)
  | device (bdf rpBdf : UInt32)
deriving DecidableEq

/-- `da_init`, from the number of entries to the root port. -/
def daInit (table : List UInt32) (devices : List DeviceEntry) (fuel : ℕ) : Option DaInit := do
  let numBdf := valPcieGetNumBdf devices
  if numBdf = 1 then return .noBdf
  else
    match ← valPcieFindDoeCapability space onChip devices fuel numBdf with
    | (.error, _) => return .noDevice
    | (.device bdf _, _) =>
      let (status, rpBdf) ← valPcieGetRootport space onChip table fuel bdf
      if status ≠ 0 then return .noRootport bdf else return .device bdf rpBdf

/-! ## 3. What is asked of the discovery -/

/-- The root port above a function: the first one of its segment that covers its bus. -/
def firstRootPort (table : List UInt32) (fuel : ℕ) (bdf : UInt32) : Option UInt32 :=
  table.find? fun rp => Covers space onChip fuel bdf rp ∧ bdfSeg rp = bdfSeg bdf

/-- The function has a DOE capability. -/
def HasDoe (bdf : UInt32) : Prop := Holds ⟨true, space bdf⟩ ecapLayout PCIE_ECAP_START DOE_CAP_ID

/-- **A device that can be assigned**: a function 0 that is an endpoint with a root port or an
integrated endpoint, and has a DOE capability. -/
def IsDoeDevice (table : List UInt32) (fuel : ℕ) (bdf : UInt32) : Prop :=
  bdfFunc bdf = 0 ∧
    (valPcieDevicePortType space onChip fuel bdf = some EP ∧
        (∃ rp ∈ table, Covers space onChip fuel bdf rp ∧ bdfSeg rp = bdfSeg bdf) ∨
      valPcieDevicePortType space onChip fuel bdf = some RCiEP) ∧
    HasDoe space bdf

/-- A function whose DOE capability is looked for. -/
def IsCandidate (table : List UInt32) (fuel : ℕ) (bdf : UInt32) : Prop :=
  bdfFunc bdf = 0 ∧
    (valPcieDevicePortType space onChip fuel bdf = some EP ∧
        (∃ rp, firstRootPort space onChip table fuel bdf = some rp ∧ rp ≠ 0) ∨
      valPcieDevicePortType space onChip fuel bdf = some RCiEP)

open Classical in
/-- The devices of a table. -/
noncomputable def doeDevices (table : List UInt32) (fuel : ℕ) : List UInt32 :=
  table.filter (IsDoeDevice space onChip table fuel)

/-- Calls with the same counter give the devices, each one once and in the order of the table, and then
`VAL_ERROR`. -/
def Exhaustive (table : List UInt32) (devices : List DeviceEntry) (fuel : ℕ) : Prop :=
  ∃ calls, discover space onChip devices fuel calls (valPcieGetNumBdf devices)
    = some (doeDevices space onChip table fuel)

/-- The table is such that all devices are discovered. -/
structure Discoverable (table : List UInt32) (fuel : ℕ) : Prop where
  /-- The search for the DOE capability ends. -/
  ends : ∀ bdf ∈ table, IsCandidate space onChip table fuel bdf →
    ChainStops (space bdf) ecapLayout DOE_CAP_ID PCIE_ECAP_START
  /-- No device has the root port 0. -/
  rootport : ∀ bdf ∈ table, IsDoeDevice space onChip table fuel bdf →
    valPcieDevicePortType space onChip fuel bdf = some EP →
    firstRootPort space onChip table fuel bdf ≠ some 0

end Discovery

/-! ## 4. One round -/

section Round

variable {space : UInt32 → UInt32 → UInt32} {onChip : UInt32 → Bool}

/-- The search for the DOE capability of a function. -/
theorem findDoe_eq {fuel : ℕ} (hfuel : fuel > 4096) (bdf : UInt32) :
    (ChainStops (space bdf) ecapLayout DOE_CAP_ID PCIE_ECAP_START ∧
      ∃ status base, valPcieFindCapability ⟨true, space bdf⟩ PCIE_ECAP DOE_CAP_ID fuel
          = some (.returns status base) ∧ (status ≠ PCIE_CAP_NOT_FOUND ↔ HasDoe space bdf)) ∨
    (¬ ChainStops (space bdf) ecapLayout DOE_CAP_ID PCIE_ECAP_START ∧
      valPcieFindCapability ⟨true, space bdf⟩ PCIE_ECAP DOE_CAP_ID fuel = none) := by
  have hkind : valPcieFindCapability ⟨true, space bdf⟩ PCIE_ECAP DOE_CAP_ID fuel
      = searchChain ⟨true, space bdf⟩ ecapLayout DOE_CAP_ID fuel PCIE_ECAP_START none := by
    rw [valPcieFindCapability, if_neg (by decide), if_pos rfl]
  rw [hkind]
  by_cases hstops : ChainStops (space bdf) ecapLayout DOE_CAP_ID PCIE_ECAP_START
  · refine Or.inl ⟨hstops, ?_⟩
    obtain ⟨fuel', b, hwalk⟩ := walk_ends_iff.mpr hstops
    have hmask : ecapLayout.ncprMask.toNat = 2 ^ 12 - 1 := rfl
    have hbounded := walk_chain hmask hwalk hfuel
    have hsearch : searchChain ⟨true, space bdf⟩ ecapLayout DOE_CAP_ID fuel PCIE_ECAP_START none = _ :=
      searchChain_eq_palChain ecapLayout DOE_CAP_ID fuel PCIE_ECAP_START none
    rw [palChain_eq_walk, hbounded, Option.map_some] at hsearch
    have hne : PCIE_SUCCESS ≠ PCIE_CAP_NOT_FOUND := by decide
    rcases searchChain_sound rfl fuel none hsearch with ⟨k, hk, hr⟩ | ⟨hno, hr⟩
    · exact ⟨PCIE_SUCCESS, some _, hsearch.trans (congrArg some hr), iff_of_true hne ⟨k, hk⟩⟩
    · exact ⟨PCIE_CAP_NOT_FOUND, none, hsearch.trans (congrArg some hr),
        iff_of_false (not_not.mpr rfl) hno⟩
  · refine Or.inr ⟨hstops, ?_⟩
    cases hsearch : searchChain ⟨true, space bdf⟩ ecapLayout DOE_CAP_ID fuel PCIE_ECAP_START none with
    | none => rfl
    | some r => exact absurd ((searchChain_ends_iff _ _ _ none).mp ⟨fuel, r, hsearch⟩) hstops

/-- An endpoint is listed with its root port, or with 0. -/
theorem getRootport_ep (t : BdfTable space) {fuel : ℕ} (hfuel : fuel > 256) {bdf : UInt32}
    (hep : valPcieDevicePortType space onChip fuel bdf = some EP) :
    valPcieGetRootport space onChip t.bdfs fuel bdf
      = some (match firstRootPort space onChip t.bdfs fuel bdf with
        | some rp => (0, rp)
        | none => (1, 0)) :=
  (valPcieGetRootport_eq hep).trans (rootportLoop_eq hfuel bdf t.cap)

theorem getRootport_rciep {table : List UInt32} {fuel : ℕ} {bdf : UInt32}
    (hdp : valPcieDevicePortType space onChip fuel bdf = some RCiEP) :
    valPcieGetRootport space onChip table fuel bdf = some (1, 0xffffffff) := by
  rw [valPcieGetRootport, hdp]
  rfl

theorem firstRootPort_isSome_iff {table : List UInt32} {fuel : ℕ} {bdf : UInt32} :
    (∃ rp, firstRootPort space onChip table fuel bdf = some rp) ↔
      ∃ rp ∈ table, Covers space onChip fuel bdf rp ∧ bdfSeg rp = bdfSeg bdf := by
  rw [← Option.isSome_iff_exists, firstRootPort, List.find?_isSome]
  simp only [decide_eq_true_eq]

theorem rpBdf_ne_zero_iff (t : BdfTable space) {fuel : ℕ} (hfuel : fuel > 256) {e : DeviceEntry}
    {status : UInt32}
    (hrp : valPcieGetRootport space onChip t.bdfs fuel e.bdf = some (status, e.rpBdf))
    (hep : valPcieDevicePortType space onChip fuel e.bdf = some EP) :
    e.rpBdf ≠ 0 ↔ ∃ rp, firstRootPort space onChip t.bdfs fuel e.bdf = some rp ∧ rp ≠ 0 := by
  rw [getRootport_ep t hfuel hep] at hrp
  cases hfirst : firstRootPort space onChip t.bdfs fuel e.bdf with
  | none =>
    rw [hfirst] at hrp
    have h0 : e.rpBdf = 0 := (Prod.mk.inj (Option.some.inj hrp)).2.symm
    simp [h0]
  | some rp =>
    rw [hfirst] at hrp
    have heq : e.rpBdf = rp := (Prod.mk.inj (Option.some.inj hrp)).2.symm
    simp [heq]

/-- The port type was read for the root port, so it can be read again. -/
theorem devicePortType_of_rootport {bdfs : List UInt32} {fuel : ℕ} {bdf : UInt32}
    {r : UInt32 × UInt32} (hrp : valPcieGetRootport space onChip bdfs fuel bdf = some r) :
    ∃ dp, valPcieDevicePortType space onChip fuel bdf = some dp := by
  rw [valPcieGetRootport] at hrp
  obtain ⟨dp, hdp, -⟩ := Option.bind_eq_some_iff.mp hrp
  exact ⟨dp, hdp⟩

/-- Of a candidate the round is the search for a DOE capability. -/
theorem doeRound_of_candidate (t : BdfTable space) {fuel : ℕ} (hfuel : fuel > 4096) {e : DeviceEntry}
    {status : UInt32}
    (hrp : valPcieGetRootport space onChip t.bdfs fuel e.bdf = some (status, e.rpBdf))
    (hcand : IsCandidate space onChip t.bdfs fuel e.bdf) :
    doeRound space onChip fuel e
      = match valPcieFindCapability ⟨true, space e.bdf⟩ PCIE_ECAP DOE_CAP_ID fuel with
        | some (.returns status base) =>
          if status = PCIE_CAP_NOT_FOUND then some none else some (some (e.bdf, base.getD 0))
        | _ => none := by
  obtain ⟨hfunc, hkind⟩ := hcand
  obtain ⟨dp, hdp⟩ := devicePortType_of_rootport hrp
  have hkinds : ¬ (dp ≠ EP ∧ dp ≠ RCiEP) ∧ ¬ (dp = EP ∧ e.rpBdf = 0) := by
    rcases hkind with ⟨hep, hrp0⟩ | hrciep
    · have hne := (rpBdf_ne_zero_iff t (by omega) hrp hep).mpr hrp0
      rw [hdp] at hep
      exact ⟨fun h => h.1 (Option.some.inj hep), fun h => hne h.2⟩
    · rw [hdp] at hrciep
      cases hrciep
      exact ⟨fun h => h.2 rfl, fun h => absurd h.1 (by decide)⟩
  rw [doeRound, if_neg (not_not.mpr hfunc), hdp]
  simp only [Option.bind_eq_bind, Option.bind_some, if_neg hkinds.1, if_neg hkinds.2]
  rfl

/-- What is no candidate is passed over. -/
theorem doeRound_of_not_candidate (t : BdfTable space) {fuel : ℕ} (hfuel : fuel > 4096)
    {e : DeviceEntry} {status : UInt32}
    (hrp : valPcieGetRootport space onChip t.bdfs fuel e.bdf = some (status, e.rpBdf))
    (hcand : ¬ IsCandidate space onChip t.bdfs fuel e.bdf) :
    doeRound space onChip fuel e = some none := by
  obtain ⟨dp, hdp⟩ := devicePortType_of_rootport hrp
  rw [doeRound]
  by_cases hfunc : bdfFunc e.bdf = 0
  · rw [if_neg (not_not.mpr hfunc), hdp]
    simp only [Option.bind_eq_bind, Option.bind_some]
    by_cases hkind : dp ≠ EP ∧ dp ≠ RCiEP
    · rw [if_pos hkind]
      rfl
    · rw [if_neg hkind]
      have hep : dp = EP := by
        by_contra hne
        have hrciep : dp = RCiEP := by tauto
        exact hcand ⟨hfunc, Or.inr (hdp.trans (congrArg some hrciep))⟩
      have hep' := hdp.trans (congrArg some hep)
      have hrp0 : e.rpBdf = 0 := by
        by_contra hne
        exact hcand ⟨hfunc, Or.inl ⟨hep', (rpBdf_ne_zero_iff t (by omega) hrp hep').mp hne⟩⟩
      rw [if_pos ⟨hep, hrp0⟩]
      rfl
  · rw [if_pos hfunc]
    rfl

/-- **One round**: a function that is no candidate is passed over; of a candidate the search has to
end, and then it is the device if it has a DOE capability. -/
theorem doeRound_cases (t : BdfTable space) {fuel : ℕ} (hfuel : fuel > 4096) {e : DeviceEntry}
    {status : UInt32}
    (hrp : valPcieGetRootport space onChip t.bdfs fuel e.bdf = some (status, e.rpBdf)) :
    (¬ IsCandidate space onChip t.bdfs fuel e.bdf ∧ doeRound space onChip fuel e = some none) ∨
    (IsCandidate space onChip t.bdfs fuel e.bdf ∧
      ¬ ChainStops (space e.bdf) ecapLayout DOE_CAP_ID PCIE_ECAP_START ∧
      doeRound space onChip fuel e = none) ∨
    (IsCandidate space onChip t.bdfs fuel e.bdf ∧
      ChainStops (space e.bdf) ecapLayout DOE_CAP_ID PCIE_ECAP_START ∧
      (¬ HasDoe space e.bdf ∧ doeRound space onChip fuel e = some none ∨
        HasDoe space e.bdf ∧ ∃ base, doeRound space onChip fuel e = some (some (e.bdf, base)))) := by
  by_cases hcand : IsCandidate space onChip t.bdfs fuel e.bdf
  · have hround := doeRound_of_candidate t hfuel hrp hcand
    rcases findDoe_eq hfuel e.bdf with ⟨hstops, st, base, hfind, hdoe⟩ | ⟨hstops, hfind⟩
    · refine Or.inr (Or.inr ⟨hcand, hstops, ?_⟩)
      rw [hround, hfind]
      by_cases hst : st = PCIE_CAP_NOT_FOUND
      · exact Or.inl ⟨fun h => hdoe.mpr h hst, if_pos hst⟩
      · exact Or.inr ⟨hdoe.mp hst, _, if_neg hst⟩
    · refine Or.inr (Or.inl ⟨hcand, hstops, ?_⟩)
      rw [hround, hfind]
  · exact Or.inl ⟨hcand, doeRound_of_not_candidate t hfuel hrp hcand⟩

end Round

/-! ## 5. All rounds -/

section Rounds

variable {space : UInt32 → UInt32 → UInt32} {onChip : UInt32 → Bool}

/-- The entries of the table are as `val_pcie_populate_device_rootport` leaves them. -/
def Populated (space : UInt32 → UInt32 → UInt32) (onChip : UInt32 → Bool) (table : List UInt32)
    (fuel : ℕ) (devices : List DeviceEntry) : Prop :=
  ∀ e ∈ devices, ∃ status, valPcieGetRootport space onChip table fuel e.bdf = some (status, e.rpBdf)

theorem getRootport_ends (onChip : UInt32 → Bool) (t : BdfTable space) {fuel : ℕ} (hfuel : fuel > 256) {bdf : UInt32}
    (hmem : bdf ∈ t.bdfs) : ∃ r, valPcieGetRootport space onChip t.bdfs fuel bdf = some r := by
  obtain ⟨base, hbase⟩ := devicePortType_of_cap onChip (t.cap bdf hmem)
  obtain ⟨⟨dp, hdp, -⟩, -⟩ := hbase fuel hfuel
  rw [valPcieGetRootport, hdp]
  simp only [Option.bind_eq_bind, Option.bind_some, rootportLoop_eq hfuel bdf t.cap]
  split
  · exact ⟨_, rfl⟩
  · split
    · exact ⟨_, rfl⟩
    · exact ⟨_, rfl⟩

theorem populateLoop_eq (onChip : UInt32 → Bool) (t : BdfTable space) {fuel : ℕ} (hfuel : fuel > 256) {l : List UInt32}
    (hl : ∀ bdf ∈ l, bdf ∈ t.bdfs) :
    ∃ devices, populateLoop space onChip t.bdfs fuel l = some devices ∧
      devices.map DeviceEntry.bdf = l ∧ Populated space onChip t.bdfs fuel devices := by
  induction l with
  | nil => exact ⟨[], rfl, rfl, fun e he => absurd he List.not_mem_nil⟩
  | cons bdf rest ih =>
    obtain ⟨devices, hdev, hmap, hpop⟩ := ih fun b hb => hl b (List.mem_cons_of_mem _ hb)
    obtain ⟨⟨status, rp⟩, hrp⟩ := getRootport_ends onChip t hfuel (hl bdf (List.mem_cons_self ..))
    refine ⟨⟨bdf, rp⟩ :: devices, ?_, by rw [List.map_cons, hmap], ?_⟩
    · rw [populateLoop, hrp, hdev]
      rfl
    · intro e he
      rcases List.mem_cons.mp he with rfl | he
      · exact ⟨status, hrp⟩
      · exact hpop e he

/-- One call looks at the next entry. -/
theorem findDoe_cons {devices rest : List DeviceEntry} {e : DeviceEntry}
    (h : e :: rest <:+ devices) (fuel : ℕ) :
    valPcieFindDoeCapability space onChip devices fuel (e :: rest).length =
      match doeRound space onChip fuel e with
      | none => none
      | some none => valPcieFindDoeCapability space onChip devices fuel rest.length
      | some (some (bdf, base)) => some (.device bdf base, rest.length) := by
  obtain ⟨before, rfl⟩ := h
  have hlen : (before ++ e :: rest).length ≠ 0 := by simp
  have hindex : (before ++ e :: rest)[(before ++ e :: rest).length - (rest.length + 1)]? = some e := by
    have hsub : (before ++ e :: rest).length - (rest.length + 1) = before.length := by
      simp only [List.length_append, List.length_cons]
      omega
    rw [hsub, List.getElem?_append_right (Nat.le_refl _), Nat.sub_self]
    rfl
  simp only [valPcieFindDoeCapability, if_neg hlen, List.length_cons, findDoeLoop]
  rw [hindex]

theorem findDoe_nil (devices : List DeviceEntry) (fuel : ℕ) :
    valPcieFindDoeCapability space onChip devices fuel 0 = some (.error, 0) := by
  rw [valPcieFindDoeCapability]
  split
  · rfl
  · rfl

/-- The calls from an entry on, by what its round gives. -/
theorem discover_cons {devices rest : List DeviceEntry} {e : DeviceEntry}
    (h : e :: rest <:+ devices) {fuel : ℕ} (xs : List UInt32) :
    (∃ calls, discover space onChip devices fuel calls (e :: rest).length = some xs) ↔
      match doeRound space onChip fuel e with
      | none => False
      | some none => ∃ calls, discover space onChip devices fuel calls rest.length = some xs
      | some (some (bdf, _)) =>
        ∃ ys, (∃ calls, discover space onChip devices fuel calls rest.length = some ys) ∧
          xs = bdf :: ys := by
  have hzero : ∀ n, discover space onChip devices fuel 0 n ≠ some xs := fun n hn => by cases hn
  have hcall : valPcieFindDoeCapability space onChip devices fuel (e :: rest).length = _ :=
    findDoe_cons h fuel
  rcases hround : doeRound space onChip fuel e with _ | _ | ⟨bdf, base⟩
  · rw [hround] at hcall
    constructor
    · rintro ⟨calls | calls, hcalls⟩
      · exact hzero _ hcalls
      · rw [discover, hcall] at hcalls
        cases hcalls
    · exact False.elim
  · rw [hround] at hcall
    refine exists_congr fun calls => ?_
    cases calls with
    | zero => exact iff_of_false (hzero _) (hzero _)
    | succ calls => rw [discover, discover, hcall]
  · rw [hround] at hcall
    constructor
    · rintro ⟨calls | calls, hcalls⟩
      · exact absurd hcalls (hzero _)
      · rw [discover, hcall] at hcalls
        obtain ⟨ys, hys, rfl⟩ := Option.map_eq_some_iff.mp hcalls
        exact ⟨ys, ⟨calls, hys⟩, rfl⟩
    · rintro ⟨ys, ⟨calls, hys⟩, rfl⟩
      refine ⟨calls + 1, ?_⟩
      rw [discover, hcall]
      exact congrArg (Option.map (bdf :: ·)) hys

open Classical in
/-- **All rounds**: the calls come to an end if the search of each candidate does, and have then found
the candidates with a DOE capability. -/
theorem discover_iff (t : BdfTable space) {fuel : ℕ} (hfuel : fuel > 4096)
    {devices : List DeviceEntry} (hpop : Populated space onChip t.bdfs fuel devices)
    {l : List DeviceEntry} (hl : l <:+ devices) (xs : List UInt32) :
    (∃ calls, discover space onChip devices fuel calls l.length = some xs) ↔
      (∀ bdf ∈ l.map DeviceEntry.bdf, IsCandidate space onChip t.bdfs fuel bdf →
        ChainStops (space bdf) ecapLayout DOE_CAP_ID PCIE_ECAP_START) ∧
      xs = (l.map DeviceEntry.bdf).filter fun bdf =>
        IsCandidate space onChip t.bdfs fuel bdf ∧ HasDoe space bdf := by
  induction l generalizing xs with
  | nil =>
    constructor
    · rintro ⟨calls, h⟩
      cases calls with
      | zero => cases h
      | succ calls =>
        rw [discover, List.length_nil, findDoe_nil] at h
        cases h
        exact ⟨fun bdf hbdf => absurd hbdf List.not_mem_nil, rfl⟩
    · rintro ⟨-, rfl⟩
      refine ⟨1, ?_⟩
      rw [discover, List.length_nil, findDoe_nil]
      rfl
  | cons e rest ih =>
    have hrest : rest <:+ devices := (List.suffix_cons e rest).trans hl
    obtain ⟨status, hrp⟩ := hpop e (hl.subset (List.mem_cons_self ..))
    rw [discover_cons hl, List.map_cons, List.forall_mem_cons]
    rcases doeRound_cases t hfuel hrp with ⟨hcand, hround⟩ | ⟨hcand, hstops, hround⟩ |
      ⟨hcand, hstops, ⟨hdoe, hround⟩ | ⟨hdoe, base, hround⟩⟩
    · rw [hround, List.filter_cons_of_neg (by simp [hcand]), ih hrest]
      simp [hcand]
    · rw [hround]
      simp [hcand, hstops]
    · rw [hround, List.filter_cons_of_neg (by simp [hdoe]), ih hrest]
      simp [hstops]
    · rw [hround, List.filter_cons_of_pos (by simp [hcand, hdoe])]
      simp only [ih hrest, hstops, implies_true, true_and]
      constructor
      · rintro ⟨ys, ⟨hends, rfl⟩, rfl⟩
        exact ⟨hends, rfl⟩
      · rintro ⟨hends, rfl⟩
        exact ⟨_, ⟨hends, rfl⟩, rfl⟩

/-- The candidates with a DOE capability are devices; the other way round they are unless their root
port is 0. -/
theorem isDoeDevice_iff {table : List UInt32} {fuel : ℕ} {bdf : UInt32} :
    (IsDoeDevice space onChip table fuel bdf ↔
      IsCandidate space onChip table fuel bdf ∧ HasDoe space bdf) ↔
    (IsDoeDevice space onChip table fuel bdf →
      valPcieDevicePortType space onChip fuel bdf = some EP →
      firstRootPort space onChip table fuel bdf ≠ some 0) := by
  constructor
  · intro hiff hdevice hep hzero
    obtain ⟨⟨-, ⟨-, rp, hrp, hne⟩ | hrciep⟩, -⟩ := hiff.mp hdevice
    · rw [hzero] at hrp
      exact hne (Option.some.inj hrp).symm
    · rw [hep] at hrciep
      exact absurd (Option.some.inj hrciep) (by decide)
  · intro hrootport
    constructor
    · rintro ⟨hfunc, ⟨hep, hcovers⟩ | hrciep, hdoe⟩
      · obtain ⟨rp, hrp⟩ := firstRootPort_isSome_iff.mpr hcovers
        refine ⟨⟨hfunc, Or.inl ⟨hep, rp, hrp, fun h0 => ?_⟩⟩, hdoe⟩
        rw [h0] at hrp
        exact hrootport ⟨hfunc, Or.inl ⟨hep, hcovers⟩, hdoe⟩ hep hrp
      · exact ⟨⟨hfunc, Or.inr hrciep⟩, hdoe⟩
    · rintro ⟨⟨hfunc, ⟨hep, rp, hrp, -⟩ | hrciep⟩, hdoe⟩
      · exact ⟨hfunc, Or.inl ⟨hep, firstRootPort_isSome_iff.mp ⟨rp, hrp⟩⟩, hdoe⟩
      · exact ⟨hfunc, Or.inr hrciep, hdoe⟩

theorem mem_doeDevices {table : List UInt32} {fuel : ℕ} {bdf : UInt32} :
    bdf ∈ doeDevices space onChip table fuel ↔
      bdf ∈ table ∧ IsDoeDevice space onChip table fuel bdf := by
  classical
  rw [doeDevices, List.mem_filter, decide_eq_true_eq]

theorem numBdf_eq {devices : List DeviceEntry} (h : devices ≠ []) :
    valPcieGetNumBdf devices = devices.length := by
  rw [valPcieGetNumBdf, if_neg fun h0 => h (List.length_eq_zero_iff.mp h0)]

open Classical in
theorem exhaustive_iff (t : BdfTable space) (hne : t.bdfs ≠ []) {fuel : ℕ} (hfuel : fuel > 4096)
    {devices : List DeviceEntry} (hmap : devices.map DeviceEntry.bdf = t.bdfs)
    (hpop : Populated space onChip t.bdfs fuel devices) :
    Exhaustive space onChip t.bdfs devices fuel ↔ Discoverable space onChip t.bdfs fuel := by
  have hdev : devices ≠ [] := by
    rintro rfl
    exact hne hmap.symm
  rw [Exhaustive, numBdf_eq hdev, discover_iff t hfuel hpop List.suffix_rfl, hmap]
  have hsame : (doeDevices space onChip t.bdfs fuel = t.bdfs.filter fun bdf =>
        IsCandidate space onChip t.bdfs fuel bdf ∧ HasDoe space bdf) ↔
      ∀ bdf ∈ t.bdfs, IsDoeDevice space onChip t.bdfs fuel bdf →
        valPcieDevicePortType space onChip fuel bdf = some EP →
        firstRootPort space onChip t.bdfs fuel bdf ≠ some 0 := by
    constructor
    · intro heq bdf hbdf
      rw [← isDoeDevice_iff]
      have hmem : bdf ∈ doeDevices space onChip t.bdfs fuel ↔ _ := mem_doeDevices
      rw [heq, List.mem_filter, decide_eq_true_eq] at hmem
      tauto
    · intro hrootport
      rw [doeDevices]
      refine List.filter_congr fun bdf hbdf => ?_
      rw [decide_eq_decide]
      exact isDoeDevice_iff.mpr (hrootport bdf hbdf)
  rw [hsame]
  exact ⟨fun h => ⟨h.1, h.2⟩, fun h => ⟨h.ends, h.rootport⟩⟩

/-- The first call gives the first of the devices the calls give. -/
theorem findDoe_of_discover {devices : List DeviceEntry} {fuel calls n : ℕ} {xs : List UInt32}
    (h : discover space onChip devices fuel calls n = some xs) :
    (xs = [] ∧ ∃ n', valPcieFindDoeCapability space onChip devices fuel n = some (.error, n')) ∨
    ∃ bdf ys base n', xs = bdf :: ys ∧
      valPcieFindDoeCapability space onChip devices fuel n = some (.device bdf base, n') := by
  cases calls with
  | zero => cases h
  | succ calls =>
    rw [discover] at h
    rcases hfind : valPcieFindDoeCapability space onChip devices fuel n with _ | ⟨_ | ⟨bdf, base⟩, n'⟩
    · rw [hfind] at h
      cases h
    · rw [hfind] at h
      cases h
      exact Or.inl ⟨rfl, n', rfl⟩
    · rw [hfind] at h
      obtain ⟨ys, -, rfl⟩ := Option.map_eq_some_iff.mp h
      exact Or.inr ⟨bdf, ys, base, n', rfl, rfl⟩

/-- The device `da_init` has found. -/
def DaInit.found : DaInit → Option UInt32
  | .noBdf => none
  | .noDevice => none
  | .noRootport bdf => some bdf
  | .device bdf _ => some bdf

/-- A table of one entry is taken for an error. -/
theorem daInit_single {table : List UInt32} {devices : List DeviceEntry} {fuel : ℕ}
    (h : devices.length = 1) : daInit space onChip table devices fuel = some .noBdf := by
  have hnum : valPcieGetNumBdf devices = 1 := by
    rw [valPcieGetNumBdf, h]
    rfl
  rw [daInit, if_pos hnum]
  rfl

/-- In any other table the first of the devices is found; it is accepted if it is not an integrated
endpoint, which has no root port. -/
theorem daInit_cons (t : BdfTable space) {devices : List DeviceEntry} {fuel : ℕ} (hfuel : fuel > 256)
    (hne : devices ≠ []) (h1 : devices.length ≠ 1)
    (hex : Exhaustive space onChip t.bdfs devices fuel) {bdf : UInt32} {rest : List UInt32}
    (hdevices : doeDevices space onChip t.bdfs fuel = bdf :: rest) :
    (valPcieDevicePortType space onChip fuel bdf = some RCiEP ∧
      daInit space onChip t.bdfs devices fuel = some (.noRootport bdf)) ∨
    (valPcieDevicePortType space onChip fuel bdf ≠ some RCiEP ∧
      ∃ rp, daInit space onChip t.bdfs devices fuel = some (.device bdf rp)) := by
  obtain ⟨calls, hcalls⟩ := hex
  have hnum : valPcieGetNumBdf devices ≠ 1 := by
    rw [numBdf_eq hne]
    exact h1
  have hbdf : bdf ∈ doeDevices space onChip t.bdfs fuel := by
    rw [hdevices]
    exact List.mem_cons_self ..
  obtain ⟨-, -, hkind, -⟩ := mem_doeDevices.mp hbdf
  rw [hdevices] at hcalls
  rcases findDoe_of_discover hcalls with ⟨hnil, -⟩ | ⟨bdf', ys, base, n', hcons, hfind⟩
  · cases hnil
  · cases hcons
    rw [daInit, if_neg hnum, hfind]
    simp only [Option.bind_eq_bind, Option.bind_some]
    rcases hkind with ⟨hep, hcovers⟩ | hrciep
    · obtain ⟨rp, hrp⟩ := firstRootPort_isSome_iff.mpr hcovers
      refine Or.inr ⟨?_, rp, ?_⟩
      · rw [hep]
        decide
      · rw [getRootport_ep t hfuel hep, hrp]
        rfl
    · refine Or.inl ⟨hrciep, ?_⟩
      rw [getRootport_rciep hrciep]
      rfl

/-! ## 6. The discovery -/

/-- Where the calls give all devices, `da_init` finds one unless the table has one entry. -/
theorem daInit_finds_iff (t : BdfTable space) {devices : List DeviceEntry} {fuel : ℕ}
    (hfuel : fuel > 256) (hne : devices ≠ []) (hlen : t.bdfs.length = devices.length)
    (hex : Exhaustive space onChip t.bdfs devices fuel) :
    (doeDevices space onChip t.bdfs fuel ≠ [] →
        ∃ r bdf, daInit space onChip t.bdfs devices fuel = some r ∧ r.found = some bdf) ↔
      (t.bdfs.length = 1 → doeDevices space onChip t.bdfs fuel = []) := by
  constructor
  · intro hfinds hone
    by_contra hsome
    obtain ⟨r, bdf, hr, hfound⟩ := hfinds hsome
    rw [daInit_single (hlen.symm.trans hone)] at hr
    cases hr
    cases hfound
  · intro hone hsome
    obtain ⟨bdf, rest, hcons⟩ := List.exists_cons_of_ne_nil hsome
    have h1 : devices.length ≠ 1 := fun h => hsome (hone (hlen.trans h))
    rcases daInit_cons t hfuel hne h1 hex hcons with ⟨-, hinit⟩ | ⟨-, rp, hinit⟩
    · exact ⟨_, bdf, hinit, rfl⟩
    · exact ⟨_, bdf, hinit, rfl⟩

/-- It goes on with the device if that is not an integrated endpoint. -/
theorem daInit_device_iff (t : BdfTable space) {devices : List DeviceEntry} {fuel : ℕ}
    (hfuel : fuel > 256) (hne : devices ≠ []) (hlen : t.bdfs.length = devices.length)
    (hex : Exhaustive space onChip t.bdfs devices fuel) :
    (doeDevices space onChip t.bdfs fuel ≠ [] →
        ∃ bdf rp, daInit space onChip t.bdfs devices fuel = some (.device bdf rp)) ↔
      (t.bdfs.length = 1 → doeDevices space onChip t.bdfs fuel = []) ∧
        ∀ bdf ∈ (doeDevices space onChip t.bdfs fuel).head?,
          valPcieDevicePortType space onChip fuel bdf ≠ some RCiEP := by
  constructor
  · intro hfinds
    have hone : t.bdfs.length = 1 → doeDevices space onChip t.bdfs fuel = [] := by
      refine (daInit_finds_iff t hfuel hne hlen hex).mp fun hsome => ?_
      obtain ⟨bdf, rp, hinit⟩ := hfinds hsome
      exact ⟨_, bdf, hinit, rfl⟩
    refine ⟨hone, fun bdf hbdf hrciep => ?_⟩
    obtain ⟨rest, hcons⟩ := List.head?_eq_some_iff.mp hbdf
    have hsome : doeDevices space onChip t.bdfs fuel ≠ [] := by
      rw [hcons]
      exact List.cons_ne_nil _ _
    have h1 : devices.length ≠ 1 := fun h => hsome (hone (hlen.trans h))
    obtain ⟨bdf', rp, hinit⟩ := hfinds hsome
    rcases daInit_cons t hfuel hne h1 hex hcons with ⟨-, hinit'⟩ | ⟨hnot, -⟩
    · rw [hinit] at hinit'
      cases hinit'
    · exact hnot hrciep
  · rintro ⟨hone, hhead⟩ hsome
    obtain ⟨bdf, rest, hcons⟩ := List.exists_cons_of_ne_nil hsome
    have h1 : devices.length ≠ 1 := fun h => hsome (hone (hlen.trans h))
    rcases daInit_cons t hfuel hne h1 hex hcons with ⟨hrciep, -⟩ | ⟨-, rp, hinit⟩
    · exact absurd hrciep (hhead bdf (by rw [hcons]; rfl))
    · exact ⟨bdf, rp, hinit⟩

end Rounds

/-- **Discovery of devices.**  Called again and again, `val_pcie_find_doe_capability` gives all devices
if the searches end and no device has the root port 0; and `da_init` then finds one if there is any,
unless the table has just one entry.  It goes on with it if it has a root port. -/
theorem doe_discovery_iff {space : UInt32 → UInt32 → UInt32} (onChip : UInt32 → Bool)
    (t : BdfTable space) (hne : t.bdfs ≠ []) {fuel : ℕ} (hfuel : fuel > 4096) :
    ∃ devices, valPciePopulateDeviceRootport space onChip t.bdfs fuel = some devices ∧
      (Exhaustive space onChip t.bdfs devices fuel ∧
          (doeDevices space onChip t.bdfs fuel ≠ [] →
            ∃ r bdf, daInit space onChip t.bdfs devices fuel = some r ∧ r.found = some bdf) ↔
        Discoverable space onChip t.bdfs fuel ∧
          (t.bdfs.length = 1 → doeDevices space onChip t.bdfs fuel = [])) ∧
      (Exhaustive space onChip t.bdfs devices fuel ∧
          (doeDevices space onChip t.bdfs fuel ≠ [] →
            ∃ bdf rp, daInit space onChip t.bdfs devices fuel = some (.device bdf rp)) ↔
        Discoverable space onChip t.bdfs fuel ∧
          (t.bdfs.length = 1 → doeDevices space onChip t.bdfs fuel = []) ∧
          ∀ bdf ∈ (doeDevices space onChip t.bdfs fuel).head?,
            valPcieDevicePortType space onChip fuel bdf ≠ some RCiEP) := by
  have hfuel' : fuel > 256 := by omega
  obtain ⟨devices, hdev, hmap, hpop⟩ := populateLoop_eq onChip t hfuel' fun _ h => h
  have hlen : t.bdfs.length = devices.length := by rw [← hmap, List.length_map]
  have hdne : devices ≠ [] := by
    rintro rfl
    exact hne hmap.symm
  refine ⟨devices, hdev, ?_, ?_⟩
  · rw [← exhaustive_iff t hne hfuel hmap hpop]
    exact and_congr_right fun hex => daInit_finds_iff t hfuel' hdne hlen hex
  · rw [← exhaustive_iff t hne hfuel hmap hpop]
    exact and_congr_right fun hex => daInit_device_iff t hfuel' hdne hlen hex

/-- Root ports 0:0.0 and 0:1.0 with buses 1 and 2 below them, endpoints 1:0.0 and 2:0.0, and the
integrated endpoint 0:2.0, all with a DOE capability. -/
def doeFns (bdf offset : UInt32) : UInt32 :=
  if offset = TYPE01_CPR then 0x40
  else if offset = 0x40 then
    if bdf = 0 ∨ bdf = 0x8 then 0x00420010 else if bdf = 0x10 then 0x00920010 else 0x00020010
  else if offset = TYPE1_PBN then
    if bdf = 0 then 0x00010100 else if bdf = 0x8 then 0x00020200 else 0
  else if offset = PCIE_ECAP_START then 0x2E
  else 0

theorem doeFns_cap : ∀ bdf ∈ [0, 0x8, 0x10, 0x100, 0x200], HasPcieCap (doeFns bdf) := by
  intro bdf hbdf
  refine ⟨1, 0x40, ?_⟩
  simp only [List.mem_cons, List.not_mem_nil, or_false] at hbdf
  rcases hbdf with rfl | rfl | rfl | rfl | rfl
  · rfl
  · rfl
  · rfl
  · rfl
  · rfl

theorem doeFns_ecap (bdf : UInt32) : doeFns bdf PCIE_ECAP_START = 0x2E := by
  rw [doeFns, if_neg (by decide), if_neg (by decide), if_neg (by decide), if_pos rfl]

theorem doeFns_hasDoe (bdf : UInt32) : HasDoe doeFns bdf := by
  have hid : ecapLayout.cid (doeFns bdf PCIE_ECAP_START) = DOE_CAP_ID := by
    rw [doeFns_ecap]
    rfl
  exact ⟨0, isFirst_zero (by decide) hid⟩

theorem doeFns_stops (bdf : UInt32) :
    ChainStops (doeFns bdf) ecapLayout DOE_CAP_ID PCIE_ECAP_START := by
  refine stops_of_stop ?_
  rw [capStop, doeFns_ecap]
  rfl

/-- Root port 0:1.0 and the endpoint below it. -/
def belowDeviceOne : BdfTable doeFns where
  bdfs := [0x8, 0x200]
  small := by simp
  cap := fun bdf hbdf => doeFns_cap bdf (by
    simp only [List.mem_cons, List.not_mem_nil, or_false] at hbdf ⊢
    tauto)

theorem belowDeviceOne_discoverable : Discoverable doeFns (fun _ => false) belowDeviceOne.bdfs 4097 where
  ends := fun bdf _ _ => doeFns_stops bdf
  rootport := fun bdf _ _ _ hzero => by
    have hmem := List.mem_of_find?_eq_some hzero
    exact absurd hmem (by decide)

theorem doe_discovery_below_device_one :
    belowDeviceOne.bdfs ≠ [] ∧ ∃ devices,
      valPciePopulateDeviceRootport doeFns (fun _ => false) belowDeviceOne.bdfs 4097 = some devices ∧
      Exhaustive doeFns (fun _ => false) belowDeviceOne.bdfs devices 4097 := by
  have hne : belowDeviceOne.bdfs ≠ [] := by decide
  have hfuel : 4097 > 4096 := Nat.lt_succ_self 4096
  obtain ⟨devices, hdev, hfinds, -⟩ := doe_discovery_iff (fun _ => false) belowDeviceOne hne hfuel
  refine ⟨hne, devices, hdev, (hfinds.mpr ⟨belowDeviceOne_discoverable, fun h => ?_⟩).1⟩
  exact absurd h (by decide)

/-- Root port 0:0.0 and the endpoint below it. -/
def belowDeviceZero : BdfTable doeFns where
  bdfs := [0, 0x100]
  small := by simp
  cap := fun bdf hbdf => doeFns_cap bdf (by
    simp only [List.mem_cons, List.not_mem_nil, or_false] at hbdf ⊢
    tauto)

/-- The integrated endpoint alone. -/
def onlyIntegrated : BdfTable doeFns where
  bdfs := [0x10]
  small := by simp
  cap := fun bdf hbdf => doeFns_cap bdf (by
    simp only [List.mem_cons, List.not_mem_nil, or_false] at hbdf ⊢
    tauto)

/-- The endpoint below root port 0 is not discovered; and `da_init` does not look for a device that is
the only function. -/
theorem doe_discovery_misses :
    (valPciePopulateDeviceRootport doeFns (fun _ => false) belowDeviceZero.bdfs 4097
        = some [⟨0, 0⟩, ⟨0x100, 0⟩] ∧
      ¬ Exhaustive doeFns (fun _ => false) belowDeviceZero.bdfs [⟨0, 0⟩, ⟨0x100, 0⟩] 4097) ∧
    valPciePopulateDeviceRootport doeFns (fun _ => false) onlyIntegrated.bdfs 4097
        = some [⟨0x10, 0xffffffff⟩] ∧
      doeDevices doeFns (fun _ => false) onlyIntegrated.bdfs 4097 ≠ [] ∧
      daInit doeFns (fun _ => false) onlyIntegrated.bdfs [⟨0x10, 0xffffffff⟩] 4097 = some .noBdf := by
  refine ⟨⟨by decide +kernel, ?_⟩, by decide +kernel, ?_, by decide +kernel⟩
  · have hdevice : 0x100 ∈ doeDevices doeFns (fun _ => false) belowDeviceZero.bdfs 4097 := by
      refine mem_doeDevices.mpr ⟨by decide, by decide, Or.inl ⟨by decide +kernel, 0, ?_⟩,
        doeFns_hasDoe _⟩
      decide +kernel
    rintro ⟨calls, hcalls⟩
    have hfirst : valPcieFindDoeCapability doeFns (fun _ => false) [⟨0, 0⟩, ⟨0x100, 0⟩] 4097
        (valPcieGetNumBdf [⟨0, 0⟩, ⟨0x100, 0⟩]) = some (.error, 0) := by decide +kernel
    rcases findDoe_of_discover hcalls with ⟨hnil, -⟩ | ⟨bdf, ys, base, n, -, hfind⟩
    · rw [hnil] at hdevice
      cases hdevice
    · rw [hfirst] at hfind
      cases hfind
  · have hdevice : 0x10 ∈ doeDevices doeFns (fun _ => false) onlyIntegrated.bdfs 4097 :=
      mem_doeDevices.mpr ⟨by decide, by decide, Or.inr (by decide +kernel), doeFns_hasDoe _⟩
    exact List.ne_nil_of_mem hdevice

end RmmAcs.Pcie
