/-
# The regions of a realm: `val_host_realm_setup` and its companions

A realm keeps two tables of what has been mapped into it, `granules[]` for memory and
`dev_granules[]` for the memory of devices.  Four functions append to the first: the images and the
shared region of `val_host_realm_setup`, `val_host_map_protected_data_to_realm` and
`val_host_map_ns_shared_region`; one appends to the second, `val_host_dev_mem_map`.

Only the LAST looks at the size of its table before it writes.  The others write at the count,
whatever it is, and count on: the 26th region of a realm is written behind the end of `granules[]`,
where `dev_granules_mapped_count` lies (`regions_overflow`).  As long as each call finds room for
what it may record, every write is in bounds, no region is overwritten, and the counts are right
(`regions_in_bounds`).
-/
import RmmAcs.Lib.Run
import RmmAcs.Realm.AuxMapping
import RmmAcs.Realm.Create
import RmmAcs.Realm.DevMem
import RmmAcs.Realm.Rec
import RmmAcs.Realm.Ripas

namespace RmmAcs.Realm

open RmmAcs Lib Rmm

/-! ## 1. Mapping in the auxiliary trees -/

/-- The variables of `val_host_aux_map_protected_data`, and the log. -/
structure AuxMapState where
  ipa : UInt64
  size : UInt64
  /-- `cmd_ret.x0`. -/
  x0 : UInt64
  log : Log
deriving DecidableEq, Repr

section Aux

variable (env : Env) (rd : UInt64)

/-- A wrapper whose status goes to `cmd_ret`. -/
def AuxMapState.rmi (c : Cmd) (s : AuxMapState) : AuxMapState :=
  let (x0, l) := env.rmi c s.log
  { s with x0 := x0, log := l }

/-- The missing tables, from the level of the error on. -/
def auxCreateMissing (index : UInt64) : Code AuxMapState Unit := fun s =>
  let (exit, l) := valHostCreateAuxRttLevels env rd s.ipa (rmiIndex s.x0) 3 pageSize index s.log
  (exit, { s with log := l })

/-- The body of the loop: one page. -/
def auxMapProtectedPage (index : UInt64) : Code AuxMapState Unit :=
  Code.block
    [Code.act fun s => s.rmi env (.rttAuxMapProtected rd s.ipa index),
      Code.guarded (fun s => rmiStatus s.x0 == rmiErrorRttAux)
        (Code.block
          [auxCreateMissing env rd index,
            Code.act fun s => s.rmi env (.rttAuxMapProtected rd s.ipa index)]),
      Code.guarded (fun s => s.x0 != 0) (Code.jump ()),
      Code.act fun s => { s with ipa := s.ipa + pageSize, size := s.size + pageSize }]

/-- The body of the rollback. -/
def auxUnmapProtectedPage (index : UInt64) : Code AuxMapState Unit :=
  Code.act fun s =>
    let s := s.rmi env (.rttAuxUnmapProtected rd s.ipa index)
    { s with size := s.size - pageSize, ipa := s.ipa - pageSize }

/-- `val_host_aux_map_protected_data`; `true` is `VAL_SUCCESS`. -/
def valHostAuxMapProtectedData (ipa index : UInt64) (l : Log) : Bool × Log :=
  if !addrIsAligned ipa pageSize then (false, l)
  else
    -- the loop is for one page
    match Code.whileLoop (fun s => s.size < pageSize) (auxMapProtectedPage env rd index) 1
        ⟨ipa, 0, 0, l⟩ with
    | (none, s) => (true, s.log)
    | (some (), s) =>
      (false, (Code.whileLoop (fun s => s.size > 0) (auxUnmapProtectedPage env rd index)
        (s.size / pageSize).toNat s).2.log)

/-- `val_host_aux_map_unprotected`. -/
def valHostAuxMapUnprotected (ipa rttMapSize rttAlignment index : UInt64) (l : Log) :
    Bool × Log :=
  if !addrIsAligned ipa rttMapSize then (false, l)
  else
    match mapLevel rttMapSize with
    | none => (false, l)
    | some level =>
      let (x0, l) := env.rmi (.rttAuxMapUnprotected rd ipa index) l
      if rmiStatus x0 = rmiErrorRttAux then
        match valHostCreateAuxRttLevels env rd ipa (rmiIndex x0) level rttAlignment index l with
        | (some (), l) => (false, l)
        | (none, l) =>
          let (x0, l) := env.rmi (.rttAuxMapUnprotected rd ipa index) l
          (x0 == 0, l)
      else (x0 == 0, l)

end Aux

/-! ## 2. Mapping unprotected memory -/

/-- `ATTR_NORMAL_WB`. -/
def attrNormalWb : UInt64 := (3 : UInt64) <<< 3

/-- `ATTR_STAGE2_AP_RW`. -/
def attrStage2ApRw : UInt64 := (3 : UInt64) <<< 6

/-- `RMI_UNPROTECTED_S2AP_RW`. -/
def rmiUnprotectedS2apRw : UInt64 := 3

/-- `val_pi_index_to_desc`. -/
def valPiIndexToDesc (piIndex : UInt64) : UInt64 :=
  ((piIndex &&& 1) <<< 6) ||| (((piIndex >>> 1) &&& 1) <<< 51)
    ||| (((piIndex >>> 2) &&& 1) <<< 53) ||| (((piIndex >>> 3) &&& 1) <<< 54)

section Unprotected

variable (env : Env)

/-- `val_host_rmm_supports_rtt_tree_single`: `RMI_PLANE_RTT_SINGLE` or `RMI_PLANE_RTT_AUX_SINGLE`. -/
def valHostRmmSupportsRttTreeSingle (l : Log) : Bool × Log :=
  let (r, l) := env.call (.rmi (.features 0)) l
  let rttTreeSingle := (r.x1 >>> 43) &&& 3
  (rttTreeSingle == 2 || rttTreeSingle == 1, l)

/-- The text that `val_host_map_unprotected` and `val_host_map_unprotected_attr` share.  They differ
in the descriptor and in the level from which tables are created: `createFrom` picks it from the
level of the error and the level of the walk.  Where the entry is assigned already, the status that
is looked at is that of RTT_READ_ENTRY. -/
def mapUnprotected (rd : UInt64) (createFrom : UInt64 → UInt64 → UInt64)
    (memDesc ipa rttMapSize rttAlignment : UInt64) (l : Log) : Bool × Log :=
  if !addrIsAligned ipa rttMapSize then (false, l)
  else
    match mapLevel rttMapSize with
    | none => (false, l)
    | some level =>
      let (ret, l) := env.rmi (.rttMapUnprotected rd ipa level memDesc) l
      if rmiStatus ret = rmiErrorRtt then
        let rttLevel := rmiIndex ret
        let (rtte, l) :=
          env.call (.rttReadEntry rd (valHostAddrAlignToLevel ipa rttLevel) rttLevel) l
        if rtte.x0 ≠ 0 then (false, l)
        else if rtte.x2 = rmiUnassigned then
          match valHostCreateRttLevels env rd ipa (createFrom rttLevel rtte.x1) level rttAlignment l
          with
          | (some (), l) => (false, l)
          | (none, l) =>
            let (ret, l) := env.rmi (.rttMapUnprotected rd ipa level memDesc) l
            (ret == 0, l)
        else (true, l)
      else (ret == 0, l)

/-- `val_host_map_unprotected`. -/
def valHostMapUnprotected (realm : HostRealm) (nsPa ipa rttMapSize rttAlignment : UInt64) (l : Log) :
    Bool × Log :=
  let rttTreePp := realm.flags1 &&& 1
  let (single, l) := if rttTreePp = 0 then valHostRmmSupportsRttTreeSingle env l else (false, l)
  let s2ap :=
    if single && realm.numAuxPlanes > 0 then valPiIndexToDesc rmiUnprotectedS2apRw
    else attrStage2ApRw
  mapUnprotected env realm.rd (fun _ walkLevel => walkLevel) (nsPa ||| attrNormalWb ||| s2ap) ipa
    rttMapSize rttAlignment l

/-- `val_host_map_unprotected_attr`. -/
def valHostMapUnprotectedAttr (realm : HostRealm)
    (nsPa ipa rttMapSize rttAlignment memAttr : UInt64) (l : Log) : Bool × Log :=
  mapUnprotected env realm.rd (fun rttLevel _ => rttLevel) (nsPa ||| memAttr) ipa rttMapSize
    rttAlignment l

end Unprotected

/-! ## 3. Regions -/

/-- A realm with the tables of what is mapped into it, and the log. -/
structure MappedRealm where
  realm : HostRealm
  /-- `granules[]` and `granules_mapped_count`. -/
  granules : RegionTable
  /-- `dev_granules[]` and `dev_granules_mapped_count`. -/
  devGranules : RegionTable
  log : Log

/-- How a function is left early: with `VAL_ERROR`, or not at all. -/
inductive Failure where
  | error
  | endless
deriving DecidableEq, Repr

/-- `VAL_MAX_GRANULES_MAP`. -/
def valMaxGranulesMap : ℕ := 25

/-- `PLATFORM_REALM_IMAGE_BASE`. -/
def platformRealmImageBase : UInt64 := 0x88000000 + 0x400000 / 2

/-- `PLATFORM_SHARED_REGION_SIZE`. -/
def platformSharedRegionSize : UInt64 := 0x100000

/-- `aux_ipa_base`: `VAL_PLANE1_IMAGE_BASE_IPA`, `VAL_PLANE2_IMAGE_BASE_IPA` and `VAL_RESERVED`. -/
def auxIpaBase : ℕ → UInt64
  | 0 => 0x600000
  | 1 => 0x800000
  | _ => 0xFFFFFFFFFFFFFFFF

/-- `val_data_create_ts`. -/
structure DataCreate where
  srcPa : UInt64
  targetPa : UInt64
  ipa : UInt64
  rttAlignment : UInt64
  size : UInt64
deriving DecidableEq, Repr

/-- The build option `RMM_V_1_1`, and what the build says of the shared region:
`val_get_shared_region_base_pa` and `VAL_NS_SHARED_REGION_IPA_OFFSET`. -/
structure Platform where
  rmmV11 : Bool
  sharedRegionBasePa : UInt64
  nsSharedRegionIpaOffset : UInt64

/-- The lowest unprotected IPA: `1ull << (ipa_width - 1)`. -/
def unprotectedBit (realm : HostRealm) : UInt64 := 1 <<< ((realm.s2sz &&& 0xff).toUInt64 - 1)

/-- `val_get_shared_region_base_ipa(realm->s2sz & 0xff)`. -/
def valGetSharedRegionBaseIpa (plat : Platform) (realm : HostRealm) : UInt64 :=
  plat.nsSharedRegionIpaOffset ||| unprotectedBit realm

/-- `val_get_ns_shared_region_base_ipa(realm->s2sz & 0xff, pa)`. -/
def valGetNsSharedRegionBaseIpa (realm : HostRealm) (pa : UInt64) : UInt64 :=
  pa ||| unprotectedBit realm

/-- `if (f(realm, ..)) return VAL_ERROR`, for an `f` that does not write to the realm. -/
def attempt (f : HostRealm → Log → Bool × Log) : Code MappedRealm Failure := fun s =>
  let (ok, l) := f s.realm s.log
  (if ok then none else some .error, { s with log := l })

/-- The same for an `f` that does. -/
def attemptOn (f : HostRealm → Log → Bool × HostRealm × Log) : Code MappedRealm Failure := fun s =>
  let (ok, realm, l) := f s.realm s.log
  (if ok then none else some .error, { s with realm := realm, log := l })

/-- The five assignments at the end of a function that maps a region. -/
def recordRegion (r : HostRealm → Region) : Code MappedRealm Failure :=
  Code.act fun s => { s with granules := s.granules.record (r s.realm) }

/-- `while (i < total) { body; i++; }`, for an `i` of 32 bits; after so many rounds it is taken to
be endless. -/
def pageLoop (total : HostRealm → UInt64) (body : UInt32 → Code MappedRealm Failure) :
    ℕ → UInt32 → Code MappedRealm Failure
  | 0, _ => Code.jump .endless
  | n + 1, i =>
    Code.guarded (fun s => i.toUInt64 < total s.realm)
      (Code.seq (body i) (pageLoop total body n (i + 1)))

/-- The auxiliary trees, if each plane has its own: `for (j = 0; j < num_aux_planes; j++)`. -/
def inEachPlane (f : HostRealm → UInt64 → Log → Bool × Log) : Code MappedRealm Failure :=
  Code.guarded (fun s => s.realm.treePerPlane)
    (Code.forTo (fun s => s.realm.numAuxPlanes.toNat) fun j =>
      attempt fun realm => f realm (UInt64.ofNat j + 1))

section Functions

variable (env : Env) (plat : Platform) (fuel : ℕ)

/-- The call of `val_host_ripas_init`. -/
def ripasInit (base top : HostRealm → UInt64) (rttAlignment : UInt64) :
    Code MappedRealm Failure := fun s =>
  match valHostRipasInit env s.realm.rd (base s.realm) (top s.realm) valRttMaxLevel rttAlignment fuel
      s.log with
  | some (true, l) => (none, { s with log := l })
  | some (false, l) => (some .error, { s with log := l })
  | none => (some .endless, s)

/-- A page of protected memory, in all trees. -/
def mapProtectedPage (pa : HostRealm → UInt64) (ipa src : UInt64) (i : UInt32) :
    Code MappedRealm Failure :=
  Code.block
    [attempt fun realm => valHostMapProtectedData env realm.rd (pa realm + pageOffset i)
        (ipa + pageOffset i) pageSize (src + pageOffset i),
      inEachPlane fun realm index =>
        valHostAuxMapProtectedData env realm.rd (ipa + pageOffset i) index]

/-- `val_host_image_map`. -/
def valHostImageMap (ipaBase : UInt64) (paBase : HostRealm → UInt64) : Code MappedRealm Failure :=
  Code.block
    [ripasInit env fuel (fun _ => ipaBase) (fun realm => ipaBase + realm.imagePaSize) pageSize,
      pageLoop (fun realm => realm.imagePaSize / pageSize)
        (mapProtectedPage env paBase ipaBase platformRealmImageBase) fuel 0,
      recordRegion fun realm => ⟨ipaBase, realm.imagePaSize, valRttMaxLevel, paBase realm⟩]

/-- `val_host_map_protected_data_to_realm`. -/
def valHostMapProtectedDataToRealm (d : DataCreate) : Code MappedRealm Failure :=
  Code.block
    [ripasInit env fuel (fun _ => d.ipa) (fun _ => d.ipa + d.size) d.rttAlignment,
      pageLoop (fun _ => d.size / pageSize)
        (mapProtectedPage env (fun _ => d.targetPa) d.ipa d.srcPa) fuel 0,
      recordRegion fun _ => ⟨d.ipa, d.size, valRttMaxLevel, d.targetPa⟩]

/-- A page of the shared region, in all trees. -/
def mapSharedPage (i : UInt32) : Code MappedRealm Failure :=
  Code.block
    [attempt fun realm => valHostMapUnprotected env realm (plat.sharedRegionBasePa + pageOffset i)
        (valGetSharedRegionBaseIpa plat realm + pageOffset i) pageSize pageSize,
      inEachPlane fun realm index => valHostAuxMapUnprotected env realm.rd
        (valGetSharedRegionBaseIpa plat realm + pageOffset i) pageSize pageSize index]

/-- `val_host_map_shared_region`. -/
def valHostMapSharedRegion : Code MappedRealm Failure :=
  Code.block
    [pageLoop (fun _ => platformSharedRegionSize / pageSize) (mapSharedPage env plat) fuel 0,
      recordRegion fun realm => ⟨valGetSharedRegionBaseIpa plat realm, platformSharedRegionSize,
        valRttMaxLevel, plat.sharedRegionBasePa⟩]

/-- `val_host_map_ns_shared_region`; where it is left early it returns 0, and else the index of the
region. -/
def valHostMapNsSharedRegion (size memAttr : UInt64) : Code MappedRealm Failure := fun s =>
  let (pa, l) := env.malloc pageSize size s.log
  let s := { s with log := l }
  if pa = 0 then (some .error, s)
  else
    Code.block
      [pageLoop (fun _ => size / pageSize)
          (fun i => attempt fun realm => valHostMapUnprotectedAttr env realm (pa + pageOffset i)
            (valGetNsSharedRegionBaseIpa realm pa + pageOffset i) pageSize pageSize memAttr) fuel 0,
        recordRegion fun realm =>
          ⟨valGetNsSharedRegionBaseIpa realm pa, size, valRttMaxLevel, pa⟩] s

/-- `val_host_realm_activate`. -/
def valHostRealmActivate (realm : HostRealm) (l : Log) : Bool × HostRealm × Log :=
  let (r, l) := env.call (.realmActivate realm.rd) l
  if r.x0 ≠ 0 then (false, realm, l) else (true, { realm with state := .active }, l)

/-- `val_host_realm_setup`. -/
def valHostRealmSetup (activate : Bool) : Code MappedRealm Failure :=
  Code.block
    [attemptOn (valHostRealmCreate env plat.rmmV11),
      attemptOn (valHostRecCreate env),
      valHostImageMap env fuel valPlane0ImageBaseIpa fun realm => realm.imagePaBase,
      Code.forTo (fun s => s.realm.numAuxPlanes.toNat) fun i =>
        valHostImageMap env fuel (auxIpaBase i) fun realm => realm.auxImagePaBase i,
      valHostMapSharedRegion env plat fuel,
      Code.guarded (fun _ => activate) (attemptOn (valHostRealmActivate env))]

/-- `val_host_dev_mem_map`, on the realm. -/
def devMemMap (vdev base top pa : UInt64) : Code MappedRealm Failure := fun s =>
  match valHostDevMemMap env s.realm.rd vdev base top pa fuel s.devGranules s.log with
  | some (true, t, l) => (none, { s with devGranules := t, log := l })
  | some (false, t, l) => (some .error, { s with devGranules := t, log := l })
  | none => (some .endless, s)

end Functions

/-! ## 4. Sequences of calls -/

/-- A call that may record regions. -/
inductive RegionCall where
  | setup (activate : Bool)
  | mapProtectedDataToRealm (d : DataCreate)
  | mapNsSharedRegion (size memAttr : UInt64)
  | devMemMap (vdev base top pa : UInt64)
deriving DecidableEq, Repr

namespace RegionCall

def exec (env : Env) (plat : Platform) (fuel : ℕ) : RegionCall → Code MappedRealm Failure
  | setup activate => valHostRealmSetup env plat fuel activate
  | mapProtectedDataToRealm d => valHostMapProtectedDataToRealm env fuel d
  | mapNsSharedRegion size memAttr => valHostMapNsSharedRegion env fuel size memAttr
  | devMemMap vdev base top pa => Realm.devMemMap env fuel vdev base top pa

/-- The regions of `granules[]` that a call records if it succeeds. -/
def regions (realm : HostRealm) : RegionCall → ℕ
  | setup _ => 2 + realm.numAuxPlanes.toNat
  | mapProtectedDataToRealm _ => 1
  | mapNsSharedRegion _ _ => 1
  | devMemMap _ _ _ _ => 0

/-- There is room for them. -/
def HasRoom (c : RegionCall) (s : MappedRealm) : Prop :=
  s.granules.count.toNat + c.regions s.realm ≤ valMaxGranulesMap

instance (c : RegionCall) (s : MappedRealm) : Decidable (c.HasRoom s) :=
  inferInstanceAs (Decidable (_ ≤ _))

/-- A call leads from `s` to `s'`, whether it succeeds or fails; one that does not return leads as
far as it has come. -/
def Step (env : Env) (plat : Platform) (s : MappedRealm) (c : RegionCall) (s' : MappedRealm) :
    Prop :=
  ∃ fuel, (c.exec env plat fuel s).2 = s'

end RegionCall

/-- **The tables are in order**: every write is in bounds, and the counts are the numbers of regions
recorded, none of which has been overwritten. -/
structure RegionsInBounds (s : MappedRealm) : Prop where
  granules : ∀ w ∈ s.granules.writes, w.1 < valMaxGranulesMap
  devGranules : ∀ w ∈ s.devGranules.writes, w.1 < valMaxDevGranulesMap.toNat
  count : s.granules.writes.length = s.granules.count.toNat
  devCount : s.devGranules.writes.length = s.devGranules.count.toNat
  nodup : (s.granules.writes.map Prod.fst).Nodup
  devNodup : (s.devGranules.writes.map Prod.fst).Nodup

/-- The writes so far filled the table from its start. -/
def RegionTable.Filled (t : RegionTable) : Prop :=
  t.writes.map Prod.fst = List.range t.count.toNat

section Filled

variable {t : RegionTable} {bound : ℕ}

theorem RegionTable.filled_empty : RegionTable.empty.Filled := rfl

theorem RegionTable.count_record (hbound : t.count.toNat < bound) (hle : bound ≤ 2 ^ 32)
    (r : Region) : (t.record r).count.toNat = t.count.toNat + 1 := by
  rw [record, UInt64.toNat_add]
  exact Nat.mod_eq_of_lt (lt_of_le_of_lt (Nat.add_le_add_right hbound.le _) (by
    have hone : (1 : UInt64).toNat = 1 := rfl
    omega))

theorem RegionTable.Filled.record (h : t.Filled) (hbound : t.count.toNat < bound)
    (hle : bound ≤ 2 ^ 32) (r : Region) : (t.record r).Filled := by
  rw [Filled, count_record hbound hle, List.range_succ, RegionTable.record, List.map_append, h]
  rfl

theorem RegionTable.Filled.length (h : t.Filled) : t.writes.length = t.count.toNat := by
  rw [← List.length_map, h, List.length_range]

theorem RegionTable.Filled.nodup (h : t.Filled) : (t.writes.map Prod.fst).Nodup := by
  rw [h]
  exact List.nodup_range

theorem RegionTable.Filled.lt (h : t.Filled) (hbound : t.count.toNat ≤ bound) :
    ∀ w ∈ t.writes, w.1 < bound := by
  intro w hw
  have hmem : w.1 ∈ List.range t.count.toNat := h ▸ List.mem_map_of_mem hw
  exact lt_of_lt_of_le (List.mem_range.mp hmem) hbound

end Filled

/-! ## 5. What the functions do to the tables -/

/-- `granules[]` is filled, with at most `c` regions, and `dev_granules[]` is as it was. -/
structure TablesUpTo (c : ℕ) (d : RegionTable) (s : MappedRealm) : Prop where
  filled : s.granules.Filled
  count : s.granules.count.toNat ≤ c
  devGranules : s.devGranules = d

/-- The same, with the number of planes. -/
def PlanesAt (planes : UInt8) (c : ℕ) (d : RegionTable) (s : MappedRealm) : Prop :=
  s.realm.numAuxPlanes = planes ∧ TablesUpTo c d s

theorem TablesUpTo.mono {c c' : ℕ} {d : RegionTable} {s : MappedRealm} (h : TablesUpTo c d s)
    (hle : c ≤ c') : TablesUpTo c' d s := ⟨h.filled, h.count.trans hle, h.devGranules⟩

section Keeps

variable {I : MappedRealm → Prop} {E : Failure → MappedRealm → Prop}

/-- What does not look at the log is kept by a function that writes to nothing else. -/
theorem attempt_keeps (hlog : ∀ s l, I s → I { s with log := l }) (hE : ∀ e s, I s → E e s)
    (f : HostRealm → Log → Bool × Log) : Code.Triple I (attempt f) I E := by
  intro s hs
  unfold attempt
  dsimp only
  split
  · exact hlog s _ hs
  · exact hE .error _ (hlog s _ hs)

theorem ripasInit_keeps (hlog : ∀ s l, I s → I { s with log := l }) (hE : ∀ e s, I s → E e s)
    (env : Env) (fuel : ℕ) (base top : HostRealm → UInt64) (rttAlignment : UInt64) :
    Code.Triple I (ripasInit env fuel base top rttAlignment) I E := by
  intro s hs
  unfold ripasInit
  split
  · exact hlog s _ hs
  · exact hE .error _ (hlog s _ hs)
  · exact hE .endless _ hs

/-- **The loop over the pages** keeps what its body keeps. -/
theorem pageLoop_keeps (hE : ∀ e s, I s → E e s) (total : HostRealm → UInt64)
    {body : UInt32 → Code MappedRealm Failure} (hbody : ∀ i, Code.Triple I (body i) I E) (n : ℕ)
    (i : UInt32) : Code.Triple I (pageLoop total body n i) I E := by
  induction n generalizing i with
  | zero => exact Code.triple_jump fun s hs => hE .endless s hs
  | succ n ih =>
    refine Code.Triple.guarded ?_ fun s hs _ => hs
    exact ((hbody i).conseq (fun s hs => hs.1) (fun _ hs => hs) fun _ _ hs => hs).seq (ih (i + 1))

theorem inEachPlane_keeps (hlog : ∀ s l, I s → I { s with log := l }) (hE : ∀ e s, I s → E e s)
    (f : HostRealm → UInt64 → Log → Bool × Log) : Code.Triple I (inEachPlane f) I E := by
  refine Code.Triple.guarded ?_ fun s hs _ => hs
  refine Code.triple_forTo fun N => ?_
  have hloop : Code.Triple I (Code.loop (fun j => attempt fun realm => f realm (UInt64.ofNat j + 1))
      N) I E := Code.triple_loop (I := fun _ => I) fun j _ => attempt_keeps hlog hE _
  exact hloop.conseq (fun s hs => hs.1.1) (fun _ hs => hs) fun _ _ hs => hs

end Keeps

section Regions

variable {planes : UInt8} {c : ℕ} {d : RegionTable} {s : MappedRealm}

theorem PlanesAt.log (h : PlanesAt planes c d s) (l : Log) :
    PlanesAt planes c d { s with log := l } := ⟨h.1, h.2.filled, h.2.count, h.2.devGranules⟩

/-- **A region is recorded**, where there is room for it. -/
theorem recordRegion_planesAt (hc : c < valMaxGranulesMap) (r : HostRealm → Region)
    {E : Failure → MappedRealm → Prop} :
    Code.Triple (PlanesAt planes c d) (recordRegion r) (PlanesAt planes (c + 1) d) E := by
  refine Code.triple_act ?_
  rintro s ⟨hplanes, hs⟩
  have hlt : s.granules.count.toNat < valMaxGranulesMap := lt_of_le_of_lt hs.count hc
  have hmax : valMaxGranulesMap ≤ 2 ^ 32 := by decide
  refine ⟨hplanes, hs.filled.record hlt hmax _, ?_, hs.devGranules⟩
  rw [RegionTable.count_record hlt hmax]
  exact Nat.succ_le_succ hs.count

variable (env : Env) (plat : Platform) (fuel : ℕ)

/-- In the middle of a call a failure leaves the tables as they are. -/
theorem PlanesAt.failed (hc : c < valMaxGranulesMap) :
    ∀ (_ : Failure) s, PlanesAt planes c d s → TablesUpTo valMaxGranulesMap d s :=
  fun _ _ hs => hs.2.mono hc.le

theorem mapProtectedPage_planesAt (hc : c < valMaxGranulesMap) (pa : HostRealm → UInt64)
    (ipa src : UInt64) (i : UInt32) :
    Code.Triple (PlanesAt planes c d) (mapProtectedPage env pa ipa src i) (PlanesAt planes c d)
      fun _ => TablesUpTo valMaxGranulesMap d :=
  (attempt_keeps (fun _ l hs => hs.log l) (PlanesAt.failed hc) _).cons
    ((inEachPlane_keeps (fun _ l hs => hs.log l) (PlanesAt.failed hc) _).cons Code.triple_nil)

/-- **An image** is one region. -/
theorem imageMap_planesAt (hc : c < valMaxGranulesMap) (ipaBase : UInt64)
    (paBase : HostRealm → UInt64) :
    Code.Triple (PlanesAt planes c d) (valHostImageMap env fuel ipaBase paBase)
      (PlanesAt planes (c + 1) d) fun _ => TablesUpTo valMaxGranulesMap d :=
  (ripasInit_keeps (fun _ l hs => hs.log l) (PlanesAt.failed hc) env fuel _ _ _).cons
    ((pageLoop_keeps (PlanesAt.failed hc) _
      (fun i => mapProtectedPage_planesAt env hc _ _ _ i) fuel 0).cons
      ((recordRegion_planesAt hc _).cons Code.triple_nil))

theorem mapProtectedDataToRealm_planesAt (hc : c < valMaxGranulesMap) (data : DataCreate) :
    Code.Triple (PlanesAt planes c d) (valHostMapProtectedDataToRealm env fuel data)
      (PlanesAt planes (c + 1) d) fun _ => TablesUpTo valMaxGranulesMap d :=
  (ripasInit_keeps (fun _ l hs => hs.log l) (PlanesAt.failed hc) env fuel _ _ _).cons
    ((pageLoop_keeps (PlanesAt.failed hc) _
      (fun i => mapProtectedPage_planesAt env hc _ _ _ i) fuel 0).cons
      ((recordRegion_planesAt hc _).cons Code.triple_nil))

theorem mapSharedRegion_planesAt (hc : c < valMaxGranulesMap) :
    Code.Triple (PlanesAt planes c d) (valHostMapSharedRegion env plat fuel)
      (PlanesAt planes (c + 1) d) fun _ => TablesUpTo valMaxGranulesMap d := by
  have hpage : ∀ i, Code.Triple (PlanesAt planes c d) (mapSharedPage env plat i)
      (PlanesAt planes c d) fun _ => TablesUpTo valMaxGranulesMap d := fun i =>
    (attempt_keeps (fun _ l hs => hs.log l) (PlanesAt.failed hc) _).cons
      ((inEachPlane_keeps (fun _ l hs => hs.log l) (PlanesAt.failed hc) _).cons Code.triple_nil)
  exact (pageLoop_keeps (PlanesAt.failed hc) _ hpage fuel 0).cons
    ((recordRegion_planesAt hc _).cons Code.triple_nil)

theorem mapNsSharedRegion_planesAt (hc : c < valMaxGranulesMap) (size memAttr : UInt64) :
    Code.Triple (PlanesAt planes c d) (valHostMapNsSharedRegion env fuel size memAttr)
      (PlanesAt planes (c + 1) d) fun _ => TablesUpTo valMaxGranulesMap d := by
  intro s hs
  unfold valHostMapNsSharedRegion
  dsimp only
  split
  · exact PlanesAt.failed hc .error _ (hs.log _)
  · refine Code.Triple.cons (R := PlanesAt planes c d) ?_
      ((recordRegion_planesAt hc _).cons Code.triple_nil) _ (hs.log _)
    exact pageLoop_keeps (PlanesAt.failed hc) _
      (fun i => attempt_keeps (fun _ l hs => hs.log l) (PlanesAt.failed hc) _) fuel 0

end Regions

/-! ## 6. Setting up a realm -/

section Planes

variable {env : Env} {realm realm' : HostRealm} {l l' : Log}

/-- The planes of a realm that is being created. -/
def CreateVars.HasPlanes (planes : UInt8) (v : CreateVars) : Prop := v.realm.numAuxPlanes = planes

def RecVars.HasPlanes (planes : UInt8) (v : RecVars) : Prop := v.realm.numAuxPlanes = planes

theorem realmCreateBody_planes (env : Env) (rmmV11 : Bool) (planes : UInt8) :
    Code.Keeps (fun s => CreateVars.HasPlanes planes s.vars) (realmCreateBody env rmmV11) := by
  have haux : ∀ i, Code.Keeps (fun s => CreateVars.HasPlanes planes s.vars)
      (delegateAuxRtts env i) := by
    intro i
    refine Code.keeps_block ?_
    simp only [List.forall_mem_cons, List.not_mem_nil, false_implies, implies_true, and_true]
    exact ⟨allocate_keeps env _ _ fun _ _ h => h, Code.keeps_forTo fun _ => command_keeps env _⟩
  refine Code.keeps_block ?_
  simp only [List.forall_mem_cons, List.not_mem_nil, false_implies, implies_true, and_true]
  exact ⟨assign_keeps fun _ h => h, allocate_keeps env _ _ fun _ _ h => h,
    Code.keeps_forTo fun _ => allocate_keeps env _ _ fun _ _ h => h,
    allocate_keeps env _ _ fun _ _ h => h, Code.keeps_forTo fun _ => command_keeps env _,
    (Code.keeps_forTo haux).guarded, allocate_keeps env _ _ fun _ _ h => h, command_keeps env _,
    allocate_keeps env _ _ fun _ _ h => h, store_keeps _, command_keeps env _,
    assign_keeps fun _ h => h⟩

theorem realmCreate_planes {rmmV11 : Bool}
    (h : valHostRealmCreate env rmmV11 realm l = (true, realm', l')) :
    realm'.numAuxPlanes = realm.numAuxPlanes := by
  have hbody := Code.exit_same_iff.mp
    (realmCreateBody_planes env rmmV11 realm.numAuxPlanes ⟨⟨realm, 0⟩, l⟩ rfl)
  unfold valHostRealmCreate at h
  split at h
  · rename_i s hs
    rw [hs] at hbody
    obtain rfl : s.vars.realm = realm' := by simpa using congrArg (fun r => r.2.1) h
    exact hbody
  · exact absurd h (by simp)

theorem recCreateBody_planes (env : Env) (planes : UInt8) :
    Code.Keeps (fun s => RecVars.HasPlanes planes s.vars) (recCreateBody env) := by
  have haux : ∀ i j, Code.Keeps (fun s => RecVars.HasPlanes planes s.vars)
      (createAux env i j) := by
    intro i j
    refine Code.keeps_block ?_
    simp only [List.forall_mem_cons, List.not_mem_nil, false_implies, implies_true, and_true]
    exact ⟨allocate_keeps env _ _ fun _ _ h => h, command_keeps env _, assign_keeps fun _ h => h⟩
  have hrec : ∀ i, Code.Keeps (fun s => RecVars.HasPlanes planes s.vars) (createRec env i) := by
    intro i
    refine Code.keeps_block ?_
    simp only [List.forall_mem_cons, List.not_mem_nil, false_implies, implies_true, and_true]
    exact ⟨allocate_keeps env _ _ fun _ _ h => h, allocate_keeps env _ _ fun _ _ h => h,
      command_keeps env _, Code.keeps_forTo (haux i), store_keeps _, command_keeps env _⟩
  have hjump : ∀ (b : Call RecVars → Bool) (p : RecPoint),
      Code.Keeps (fun s => RecVars.HasPlanes planes s.vars) (Code.guarded b (Code.jump p)) :=
    fun b p => Code.Keeps.guarded (Code.triple_jump fun _ h => h)
  refine Code.keeps_block ?_
  simp only [List.forall_mem_cons, List.not_mem_nil, false_implies, implies_true, and_true]
  exact ⟨hjump _ _, fun s hs => Code.exit_same_iff.mpr hs, hjump _ _,
    allocate_keeps env _ _ fun _ _ h => h, assign_keeps fun _ h => h, Code.keeps_forTo hrec⟩

theorem recCreate_planes (h : valHostRecCreate env realm l = (true, realm', l')) :
    realm'.numAuxPlanes = realm.numAuxPlanes := by
  have hbody := Code.exit_same_iff.mp
    (recCreateBody_planes env realm.numAuxPlanes ⟨.start realm, l⟩ rfl)
  unfold valHostRecCreate at h
  split at h
  · rename_i s hs
    rw [hs] at hbody
    obtain rfl : s.vars.realm = realm' := by simpa using congrArg (fun r => r.2.1) h
    exact hbody
  · split at h <;> exact absurd h (by simp)

theorem realmActivate_planes (h : valHostRealmActivate env realm l = (true, realm', l')) :
    realm'.numAuxPlanes = realm.numAuxPlanes := by
  unfold valHostRealmActivate at h
  dsimp only at h
  split at h
  · exact absurd h (by simp)
  · obtain ⟨rfl, -⟩ := by simpa using h
    rfl

end Planes

section Setup

variable {planes : UInt8} {c : ℕ} {d : RegionTable} {s : MappedRealm}

/-- A function that writes to the realm, but not to its number of planes. -/
theorem attemptOn_planesAt (hc : c ≤ valMaxGranulesMap)
    {f : HostRealm → Log → Bool × HostRealm × Log}
    (hf : ∀ realm l realm' l', f realm l = (true, realm', l') →
      realm'.numAuxPlanes = realm.numAuxPlanes) :
    Code.Triple (PlanesAt planes c d) (attemptOn f) (PlanesAt planes c d)
      fun _ => TablesUpTo valMaxGranulesMap d := by
  rintro s ⟨hplanes, hs⟩
  unfold attemptOn
  match hr : f s.realm s.log with
  | (true, realm', l') =>
    exact ⟨(hf _ _ _ _ hr).trans hplanes, hs.filled, hs.count, hs.devGranules⟩
  | (false, realm', l') => exact ⟨hs.filled, hs.count.trans hc, hs.devGranules⟩

/-- **The setup of a realm** records an image for each plane, and the shared region. -/
theorem realmSetup_planesAt (env : Env) (plat : Platform) (fuel : ℕ) (activate : Bool)
    (hc : c + (2 + planes.toNat) ≤ valMaxGranulesMap) :
    Code.Triple (PlanesAt planes c d) (valHostRealmSetup env plat fuel activate)
      (PlanesAt planes (c + (2 + planes.toNat)) d) fun _ => TablesUpTo valMaxGranulesMap d := by
  have himages : Code.Triple (PlanesAt planes (c + 1) d)
      (Code.forTo (fun s => s.realm.numAuxPlanes.toNat) fun i =>
        valHostImageMap env fuel (auxIpaBase i) fun realm => realm.auxImagePaBase i)
      (PlanesAt planes (c + 1 + planes.toNat) d) fun _ => TablesUpTo valMaxGranulesMap d := by
    refine Code.triple_forTo_of_eq (N := planes.toNat) (fun s hs => by rw [hs.1]) ?_
    refine Code.triple_loop (I := fun i => PlanesAt planes (c + 1 + i) d) fun i hi => ?_
    exact imageMap_planesAt env fuel (by omega) _ _
  have hactivate : Code.Triple (PlanesAt planes (c + 1 + planes.toNat + 1) d)
      (Code.guarded (fun _ => activate) (attemptOn (valHostRealmActivate env)))
      (PlanesAt planes (c + 1 + planes.toNat + 1) d) fun _ => TablesUpTo valMaxGranulesMap d := by
    refine Code.Triple.guarded ?_ fun s hs _ => hs
    exact (attemptOn_planesAt (by omega) fun _ _ _ _ => realmActivate_planes).conseq
      (fun _ hs => hs.1) (fun _ hs => hs) fun _ _ hs => hs
  have hcount : c + (2 + planes.toNat) = c + 1 + planes.toNat + 1 := by omega
  rw [hcount]
  exact (attemptOn_planesAt (by omega) fun _ _ _ _ => realmCreate_planes).cons <|
    (attemptOn_planesAt (by omega) fun _ _ _ _ => recCreate_planes).cons <|
    (imageMap_planesAt env fuel (by omega) _ _).cons <| himages.cons <|
    (mapSharedRegion_planesAt env plat fuel (by omega)).cons <| hactivate.cons Code.triple_nil

end Setup

/-! ## 7. Every sequence of calls -/

/-- What every call keeps: both tables are filled, and no further than their ends. -/
structure RegionInv (s : MappedRealm) : Prop where
  filled : s.granules.Filled
  count : s.granules.count.toNat ≤ valMaxGranulesMap
  devFilled : s.devGranules.Filled
  devCount : s.devGranules.count.toNat ≤ valMaxDevGranulesMap.toNat

theorem RegionInv.inBounds {s : MappedRealm} (h : RegionInv s) : RegionsInBounds s where
  granules := h.filled.lt h.count
  devGranules := h.devFilled.lt h.devCount
  count := h.filled.length
  devCount := h.devFilled.length
  nodup := h.filled.nodup
  devNodup := h.devFilled.nodup

theorem RegionInv.of_tables {s s' : MappedRealm} (h : RegionInv s)
    (h' : TablesUpTo valMaxGranulesMap s.devGranules s') : RegionInv s' where
  filled := h'.filled
  count := h'.count
  devFilled := h'.devGranules ▸ h.devFilled
  devCount := h'.devGranules ▸ h.devCount

/-- **The one function that looks**: device memory is recorded only where there is room. -/
theorem devMemMap_inv {env : Env} {rd vdev base top pa : UInt64} {fuel : ℕ} {t t' : RegionTable}
    {l l' : Log} {ok : Bool}
    (h : valHostDevMemMap env rd vdev base top pa fuel t l = some (ok, t', l')) (hfilled : t.Filled)
    (hcount : t.count.toNat ≤ valMaxDevGranulesMap.toNat) :
    t'.Filled ∧ t'.count.toNat ≤ valMaxDevGranulesMap.toNat := by
  have hsame : ∀ {l l' : Log} {ok ok' : Bool}, some (ok, t, l) = some (ok', t', l') →
      t'.Filled ∧ t'.count.toNat ≤ valMaxDevGranulesMap.toNat := by
    intro l l' ok ok' heq
    obtain ⟨-, rfl, -⟩ : ok = ok' ∧ t = t' ∧ l = l' := by simpa using heq
    exact ⟨hfilled, hcount⟩
  unfold valHostDevMemMap at h
  dsimp only at h
  split at h
  · exact hsame h
  split at h
  · exact hsame h
  rename_i hfull
  split at h
  · have hlt : t.count.toNat < valMaxDevGranulesMap.toNat :=
      UInt64.lt_iff_toNat_lt.mp (UInt64.not_le.mp hfull)
    have hmax : valMaxDevGranulesMap.toNat ≤ 2 ^ 32 := by decide
    obtain ⟨-, rfl, -⟩ := by simpa using h
    refine ⟨hfilled.record hlt hmax _, ?_⟩
    rw [RegionTable.count_record hlt hmax]
    exact hlt
  · exact hsame h
  · exact absurd h (by simp)

theorem devMemMap_regionInv {env : Env} {fuel : ℕ} {vdev base top pa : UInt64} {s : MappedRealm}
    (hs : RegionInv s) : RegionInv (devMemMap env fuel vdev base top pa s).2 := by
  unfold devMemMap
  split
  · rename_i t l h
    obtain ⟨hfilled, hcount⟩ := devMemMap_inv h hs.devFilled hs.devCount
    exact ⟨hs.filled, hs.count, hfilled, hcount⟩
  · rename_i t l h
    obtain ⟨hfilled, hcount⟩ := devMemMap_inv h hs.devFilled hs.devCount
    exact ⟨hs.filled, hs.count, hfilled, hcount⟩
  · exact hs

/-- **One call**, where there is room for what it records. -/
theorem RegionCall.Step.inv {env : Env} {plat : Platform} {s s' : MappedRealm} {c : RegionCall}
    (h : c.Step env plat s s') (hs : RegionInv s) (hroom : c.HasRoom s) : RegionInv s' := by
  obtain ⟨fuel, rfl⟩ := h
  have hat : PlanesAt s.realm.numAuxPlanes s.granules.count.toNat s.devGranules s :=
    ⟨rfl, hs.filled, le_refl _, rfl⟩
  -- a call that records `k` regions, however it is left
  have hcall : ∀ {p : Code MappedRealm Failure} {k : ℕ},
      Code.Triple (PlanesAt s.realm.numAuxPlanes s.granules.count.toNat s.devGranules) p
        (PlanesAt s.realm.numAuxPlanes (s.granules.count.toNat + k) s.devGranules)
        (fun _ => TablesUpTo valMaxGranulesMap s.devGranules) →
      s.granules.count.toNat + k ≤ valMaxGranulesMap → RegionInv (p s).2 := by
    intro p k hp hk
    refine hs.of_tables (Code.exit_same_iff.mp ((hp s hat).mono ?_ fun _ _ h => h))
    exact fun _ h => h.2.mono hk
  cases c with
  | setup activate => exact hcall (realmSetup_planesAt env plat fuel activate hroom) hroom
  | mapProtectedDataToRealm data =>
    exact hcall (mapProtectedDataToRealm_planesAt env fuel hroom data) hroom
  | mapNsSharedRegion size memAttr =>
    exact hcall (mapNsSharedRegion_planesAt env fuel hroom size memAttr) hroom
  | devMemMap vdev base top pa => exact devMemMap_regionInv hs

/-- **Where there is room, the tables stay in order.**  In every sequence of calls on a realm that
starts with empty tables, if each call finds room in `granules[]` for the regions it may record, then
in every state reached every write so far was in bounds and each count is the number of regions
recorded. -/
theorem regions_in_bounds {env : Env} {plat : Platform} {s s' : MappedRealm}
    {calls : List RegionCall} (hg : s.granules = .empty) (hd : s.devGranules = .empty)
    (h : Reach (fun s c s' => c.HasRoom s ∧ c.Step env plat s s') s calls s') :
    RegionsInBounds s' := by
  have hs : RegionInv s := by
    refine ⟨?_, ?_, ?_, ?_⟩
    · rw [hg]; exact RegionTable.filled_empty
    · rw [hg]; decide
    · rw [hd]; exact RegionTable.filled_empty
    · rw [hd]; decide
  exact (h.invariant hs fun s c s' hs hstep => hstep.2.inv hs hstep.1).inBounds

/-! ## 8. A realm with 26 regions -/

/-- The heap of the suite, and an RMM that accepts everything and initialises RIPAS in one go. -/
def acceptingEnv : Env :=
  heapEnv valHostMemAllocInit fun _ c =>
    match c with
    | .rttInitRipas _ _ top => ⟨0, top, 0⟩
    | _ => ⟨0, 0, 0⟩

/-- The shared region of the FVP target. -/
def fvp : Platform := ⟨true, 0x88400000, 0⟩

/-- A realm before its setup. -/
def unmapped : MappedRealm := ⟨.cleared, .empty, .empty, []⟩

/-- The calls, one after another, with so much fuel each. -/
def runCalls (env : Env) (plat : Platform) (fuel : ℕ) (calls : List RegionCall) (s : MappedRealm) :
    MappedRealm :=
  calls.foldl (fun s c => (c.exec env plat fuel s).2) s

theorem reach_runCalls (env : Env) (plat : Platform) (fuel : ℕ) (calls : List RegionCall)
    (s : MappedRealm) :
    Reach (fun s c s' => c.Step env plat s s') s calls (runCalls env plat fuel calls s) := by
  induction calls using List.reverseRecOn with
  | nil => exact .nil
  | append_singleton calls c ih =>
    rw [runCalls, List.foldl_append]
    exact ih.snoc ⟨fuel, rfl⟩

/-- A page of data, the `i`-th of its kind. -/
def dataPage (i : ℕ) : RegionCall :=
  .mapProtectedDataToRealm
    ⟨0x88a00000, pageAt 0x88b00000 i, pageAt 0x1000000 i, pageSize, pageSize⟩

theorem regions_in_bounds_one_page :
    ∃ s', Reach (fun s c s' => c.HasRoom s ∧ c.Step acceptingEnv fvp s s') unmapped
        [.setup true, dataPage 0] s' ∧
      s'.granules.count = 3 ∧ RegionsInBounds s' := by
  have hfirst : (RegionCall.setup true).HasRoom unmapped := by decide
  have hsecond : (dataPage 0).HasRoom (runCalls acceptingEnv fvp 600 [.setup true] unmapped) := by
    decide +kernel
  have hreach : Reach (fun s c s' => c.HasRoom s ∧ c.Step acceptingEnv fvp s s') unmapped
      [.setup true, dataPage 0] (runCalls acceptingEnv fvp 600 [.setup true, dataPage 0] unmapped) :=
    (Reach.nil.snoc ⟨hfirst, 600, rfl⟩).snoc ⟨hsecond, 600, rfl⟩
  exact ⟨_, hreach, by decide +kernel, regions_in_bounds rfl rfl hreach⟩

/-- A realm is set up, and 24 pages of data are mapped: every call succeeds, and the last region is
written behind the end of `granules[]`. -/
theorem regions_overflow :
    ∃ s', Reach (fun s c s' => c.Step acceptingEnv fvp s s') unmapped
        (.setup true :: (List.range 24).map dataPage) s' ∧
      s'.granules.writes.map Prod.fst = List.range 26 ∧ ¬ RegionsInBounds s' := by
  have hwrites : (runCalls acceptingEnv fvp 600 (.setup true :: (List.range 24).map dataPage)
      unmapped).granules.writes.map Prod.fst = List.range 26 := by decide +kernel
  refine ⟨_, reach_runCalls acceptingEnv fvp 600 _ unmapped, hwrites, fun h => ?_⟩
  have hmem : 25 ∈ (runCalls acceptingEnv fvp 600 (.setup true :: (List.range 24).map dataPage)
      unmapped).granules.writes.map Prod.fst := by
    rw [hwrites]
    decide
  obtain ⟨w, hw, hindex⟩ := List.mem_map.mp hmem
  have hlt := h.granules w hw
  rw [hindex] at hlt
  exact absurd hlt (by decide)

end RmmAcs.Realm
