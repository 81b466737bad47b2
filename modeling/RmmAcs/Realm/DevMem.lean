/-
# Device memory: `val_host_dev_mem_map`

The memory of a device is mapped page by page: the page is delegated, VDEV_MAP maps it, and where
a table is missing the tables are created and VDEV_MAP is tried again.  When all pages are mapped the
region is recorded, so that it can be unmapped with the device.

The pages are counted in 32 bits, and the offset of a page is computed in 32 bits too: page 2 ^ 20
has the offset of page 0.  A region of more than 4 GB would therefore map its first page twice --
if the RMM delegated a page twice, which it does not (`dev_mem_map_maps`).  What a FAILED call leaves
behind is another matter.  The rollback of a page starts with nothing to roll back, and there is none
of the pages before; a failed call has left nothing only if it had taken nothing
(`failed_dev_mem_map_leaves_nothing`).
-/
import RmmAcs.Realm.Map

namespace RmmAcs.Realm

open RmmAcs Lib Rmm

/-! ## 1. The regions of a realm -/

/-- `val_host_granules_mapped_ts`: a region that has been mapped. -/
structure Region where
  ipa : UInt64
  size : UInt64
  level : UInt64
  pa : UInt64
deriving DecidableEq, Repr

/-- A table of regions, `granules[]` or `dev_granules[]` of a realm, by its count and the writes
made into it.  What a write beyond the end of the table does to the rest of the structure is left
open. -/
structure RegionTable where
  count : UInt64
  writes : List (ℕ × Region)
deriving DecidableEq, Repr

/-- The table of a realm that has been cleared. -/
def RegionTable.empty : RegionTable := ⟨0, []⟩

/-- The five assignments with which a region is recorded. -/
def RegionTable.record (r : Region) (t : RegionTable) : RegionTable :=
  ⟨t.count + 1, t.writes ++ [(t.count.toNat, r)]⟩

/-- `VAL_MAX_DEV_GRANULES_MAP`. -/
def valMaxDevGranulesMap : UInt64 := 64

/-! ## 2. The functions -/

/-- The variables of `val_host_map_protected_dev_mem`, and the log. -/
structure DevState where
  phys : UInt64
  ipa : UInt64
  size : UInt64
  /-- `args.x0`. -/
  x0 : UInt64
  ret : UInt64
  /-- `rtte.walk_level` and `rtte.state`. -/
  walkLevel : UInt64
  state : UInt64
  log : Log
deriving DecidableEq, Repr

section Functions

variable (env : Env) (rd vdev : UInt64)

/-- `val_host_rmi_vdev_map`. -/
def vdevMap (level : UInt64) : Code DevState MapExit :=
  Code.act fun s =>
    let (r, l) := env.call (.vdevMap rd vdev s.ipa level s.phys) s.log
    { s with x0 := r.x0, log := l }

/-- `if (args.x0) ..` -/
def devExit (e : MapExit) : Code DevState MapExit :=
  Code.guarded (fun s => s.x0 != 0) (Code.jump e)

/-- The entry where the walk stopped. -/
def devReadEntry : Code DevState MapExit := fun s =>
  let rttLevel := rmiIndex s.x0
  let (r, l) := env.call (.rttReadEntry rd (valHostAddrAlignToLevel s.ipa rttLevel) rttLevel) s.log
  (if r.x0 ≠ 0 then some .ret else none,
    { s with ret := r.x0, walkLevel := r.x1, state := r.x2, log := l })

/-- The call of `val_host_create_rtt_levels`: the walk level is cut to 32 bits. -/
def devCreateMissing (mapLevel : UInt64) : Code DevState MapExit := fun s =>
  match valHostCreateRttLevels env rd s.ipa s.walkLevel.toUInt32.toUInt64 mapLevel pageSize s.log
  with
  | (some (), l) => (some .error, { s with ret := 1, log := l })
  | (none, l) => (none, { s with ret := 0, log := l })

/-- `Create missing RTT levels and retry data create again`. -/
def devRetry (mapLevel : UInt64) : Code DevState MapExit :=
  Code.block
    [devReadEntry env rd,
      Code.guarded (fun s => s.state == rmiUnassigned)
        (Code.block [devCreateMissing env rd mapLevel, vdevMap env rd vdev mapLevel])]

/-- The body of the loop: one page. -/
def devPage (mapLevel : UInt64) : Code DevState MapExit :=
  Code.block
    [Code.act fun s =>
        let (ret, l) := env.rmi (.granuleDelegate s.phys) s.log
        { s with x0 := ret, log := l },
      devExit .ret,
      vdevMap env rd vdev mapLevel,
      Code.guarded (fun s => rmiStatus s.x0 == rmiErrorRtt) (devRetry env rd vdev mapLevel),
      devExit .error,
      Code.act fun s => { s with
        phys := s.phys + pageSize, ipa := s.ipa + pageSize, size := s.size + pageSize }]

/-- The body of the rollback: the statuses are only logged. -/
def devUnmapPage (mapLevel : UInt64) : Code DevState MapExit :=
  Code.act fun s =>
    let l := (env.call (.vdevUnmap rd s.ipa mapLevel) s.log).2
    let (ret, l) := env.rmi (.granuleUndelegate s.phys) l
    { s with
      x0 := ret, phys := s.phys - pageSize, size := s.size - pageSize, ipa := s.ipa - pageSize,
      log := l }

/-- `val_host_map_protected_dev_mem`; `true` is `VAL_SUCCESS`. -/
def valHostMapProtectedDevMem (targetPa ipa rttMapSize : UInt64) (l : Log) : Bool × Log :=
  if !addrIsAligned ipa rttMapSize then (false, l)
  else
    match mapLevel rttMapSize with
    | none => (false, l)
    | some level =>
      match Code.whileLoop (fun s => s.size < rttMapSize) (devPage env rd vdev level)
          (rttMapSize / pageSize).toNat ⟨targetPa, ipa, 0, 0, 0, 0, 0, l⟩ with
      | (none, s) => (true, s.log)
      | (some .ret, s) => (false, s.log)
      | (some .error, s) =>
        (false, (Code.whileLoop (fun s => s.size > 0) (devUnmapPage env rd level)
          (s.size / pageSize).toNat s).2.log)

/-- `i * PAGE_SIZE`, for an `i` of 32 bits. -/
def pageOffset (i : UInt32) : UInt64 := (i * 0x1000).toUInt64

/-- `while (i < total_pages)`; `none` is a loop that has not ended after so many rounds. -/
def devMemLoop (base pa totalPages : UInt64) : ℕ → UInt32 → Log → Option (Bool × Log)
  | 0, _, _ => none
  | n + 1, i, l =>
    if i.toUInt64 < totalPages then
      match valHostMapProtectedDevMem env rd vdev (pa + pageOffset i) (base + pageOffset i) pageSize l
      with
      | (true, l) => devMemLoop base pa totalPages n (i + 1) l
      | (false, l) => some (false, l)
    else some (true, l)

/-- `val_host_dev_mem_map`; `t` is `realm->dev_granules`. -/
def valHostDevMemMap (devMemBase devMemTop devMemPa : UInt64) (fuel : ℕ) (t : RegionTable)
    (l : Log) : Option (Bool × RegionTable × Log) :=
  let regionSize := devMemTop - devMemBase
  let totalPages := regionSize / pageSize
  if regionSize = 0 ∨ regionSize % pageSize ≠ 0 then some (false, t, l)
  else if t.count ≥ valMaxDevGranulesMap then some (false, t, l)
  else
    match devMemLoop env rd vdev devMemBase devMemPa totalPages fuel 0 l with
    | some (true, l) => some (true, t.record ⟨devMemBase, regionSize, valRttMaxLevel, devMemPa⟩, l)
    | some (false, l) => some (false, t, l)
    | none => none

end Functions

/-! ## 3. What a call has mapped -/

/-- A VDEV_MAP, by its arguments. -/
structure DevMap where
  rd : UInt64
  vdev : UInt64
  ipa : UInt64
  level : UInt64
  pa : UInt64
deriving DecidableEq, Repr

/-- A VDEV_MAP that the RMM accepted. -/
def Event.devMapped : Event → Option DevMap
  | .smc (.vdevMap rd vdev ipa level pa) r => if r.x0 = 0 then some ⟨rd, vdev, ipa, level, pa⟩ else none
  | _ => none

/-- The mappings of device memory made over a stretch of the log. -/
def devMaps (seg : Log) : List DevMap := seg.filterMap Event.devMapped

/-- An IPA that the RMM unmapped. -/
def Event.devUnmapped : Event → Option UInt64
  | .smc (.vdevUnmap _ ipa _) r => if r.x0 = 0 then some ipa else none
  | _ => none

/-- The mappings that a stretch of the log leaves behind: those it made, less those it unmapped
afterwards. -/
def devLeft (seg : Log) : List DevMap :=
  seg.foldl (fun maps e => maps.filter (fun m => e.devUnmapped ≠ some m.ipa) ++ e.devMapped.toList) []

theorem devMaps_append (l l' : Log) : devMaps (l ++ l') = devMaps l ++ devMaps l' :=
  List.filterMap_append

/-! ## 4. A page -/

section Page

variable {env : Env} {rd vdev : UInt64} {l₀ L : Log} {a pa ipa : UInt64}

/-- **The rest of a page**, once its granule has been asked for, keeps what the commands that are
not followed keep and `val_host_create_rtt_levels` keeps; and where it fails `size` is still 0. -/
theorem devRest_keeps {I : Log → Prop} (env : Env) (rd vdev level : UInt64)
    (hcall : ∀ l e, I l → e.command = none → I (l ++ [e]))
    (hlevels : ∀ ipa w, Code.Triple I (valHostCreateRttLevels env rd ipa w level pageSize) I
      fun _ => I) :
    Code.Triple (fun s => I s.log ∧ s.size = 0)
      (Code.block
        [devExit .ret, vdevMap env rd vdev level,
          Code.guarded (fun s => rmiStatus s.x0 == rmiErrorRtt) (devRetry env rd vdev level),
          devExit .error,
          Code.act fun s => { s with
            phys := s.phys + pageSize, ipa := s.ipa + pageSize, size := s.size + pageSize }])
      (fun s => I s.log) fun _ s => I s.log ∧ s.size = 0 := by
  have hexit : ∀ e, Code.Triple (fun s => I s.log ∧ s.size = 0) (devExit e)
      (fun s => I s.log ∧ s.size = 0) fun _ s => I s.log ∧ s.size = 0 := fun e =>
    (Code.triple_jump fun _ h => h.1).guarded fun _ h _ => h
  have hmap : Code.Triple (fun s => I s.log ∧ s.size = 0) (vdevMap env rd vdev level)
      (fun s => I s.log ∧ s.size = 0) fun _ s => I s.log ∧ s.size = 0 :=
    Code.triple_act fun s hs => ⟨hcall _ _ hs.1 rfl, hs.2⟩
  have hcreate : Code.Triple (fun s => I s.log ∧ s.size = 0) (devCreateMissing env rd level)
      (fun s => I s.log ∧ s.size = 0) fun _ s => I s.log ∧ s.size = 0 := by
    rintro s ⟨hs, hsize⟩
    have hlog := Code.exit_same_iff.mp (hlevels s.ipa s.walkLevel.toUInt32.toUInt64 s.log hs)
    unfold devCreateMissing
    split
    · rename_i l hl
      rw [hl] at hlog
      exact ⟨hlog, hsize⟩
    · rename_i l hl
      rw [hl] at hlog
      exact ⟨hlog, hsize⟩
  have hread : Code.Triple (fun s => I s.log ∧ s.size = 0) (devReadEntry env rd)
      (fun s => I s.log ∧ s.size = 0) fun _ s => I s.log ∧ s.size = 0 := by
    rintro s ⟨hs, hsize⟩
    unfold devReadEntry
    dsimp only
    split
    · exact ⟨hcall _ _ hs rfl, hsize⟩
    · exact ⟨hcall _ _ hs rfl, hsize⟩
  refine (hexit .ret).cons (hmap.cons (Code.Triple.cons ?_ ((hexit .error).cons
    (Code.Triple.cons (Code.triple_act fun s hs => hs.1) Code.triple_nil))))
  refine Code.Triple.guarded ?_ fun s hs _ => hs
  refine Code.Triple.cons (hread.conseq (fun _ h => h.1) (fun _ h => h) fun _ _ h => h)
    (Code.Triple.cons ?_ Code.triple_nil)
  refine Code.Triple.guarded ?_ fun s hs _ => hs
  exact (hcreate.conseq (fun _ h => h.1) (fun _ h => h) fun _ _ h => h).cons
    (hmap.cons Code.triple_nil)

/-- **In the middle of a page**: its granule has been delegated, and these mappings made. -/
structure InPage (L : Log) (pa ipa : UInt64) (maps : List DevMap) (s : DevState) : Prop where
  phys : s.phys = pa
  addr : s.ipa = ipa
  log : ∃ seg, s.log = L ++ seg ∧ pa ∈ delegations seg ∧ devMaps seg = maps

theorem devMaps_vdevMap (rd vdev ipa level pa : UInt64) (r : SmcRet) :
    devMaps [.smc (.vdevMap rd vdev ipa level pa) r]
      = if r.x0 = 0 then [⟨rd, vdev, ipa, level, pa⟩] else [] := by
  by_cases h0 : r.x0 = 0 <;> simp [devMaps, Event.devMapped, h0]

/-- The page is mapped exactly if VDEV_MAP succeeds. -/
theorem vdevMap_inPage :
    Code.Triple (InPage L pa ipa []) (vdevMap env rd vdev 3)
      (fun s => InPage L pa ipa (if s.x0 = 0 then [⟨rd, vdev, ipa, 3, pa⟩] else []) s)
      fun _ _ => True := by
  refine Code.triple_act ?_
  rintro ⟨_, _, size, x0, ret, walkLevel, state, _⟩ ⟨rfl, rfl, seg, rfl, hdel, hmaps⟩
  refine ⟨rfl, rfl, _, List.append_assoc _ _ _, ?_, ?_⟩
  · rw [delegations_append]
    exact List.mem_append_left _ hdel
  · rw [devMaps_append, hmaps, List.nil_append]
    exact devMaps_vdevMap _ _ _ _ _ _

/-- What maps nothing. -/
theorem InPage.adds {maps : List DevMap} {s s' : DevState} (h : InPage L pa ipa maps s)
    (hadds : Adds (fun e => e.devMapped = none) s.log s'.log) (hphys : s'.phys = s.phys)
    (hipa : s'.ipa = s.ipa) : InPage L pa ipa maps s' := by
  obtain ⟨seg, hlog, hdel, hmaps⟩ := h.log
  obtain ⟨seg', hlog', hnone⟩ := hadds
  refine ⟨hphys.trans h.phys, hipa.trans h.addr, seg ++ seg', ?_, ?_, ?_⟩
  · rw [hlog', hlog, List.append_assoc]
  · rw [delegations_append]
    exact List.mem_append_left _ hdel
  · have hempty : devMaps seg' = [] := List.filterMap_eq_nil_iff.mpr hnone
    rw [devMaps_append, hempty, List.append_nil, hmaps]

theorem devCreateMissing_inPage (level : UInt64) :
    Code.Triple (InPage L pa ipa []) (devCreateMissing env rd level) (InPage L pa ipa [])
      fun _ _ => True := by
  intro s hs
  have hadds := Code.exit_same_iff.mp (createRttLevels_adds (P := fun e => e.devMapped = none)
    (fun _ _ _ => rfl) (fun _ _ => rfl) env rd s.ipa s.walkLevel.toUInt32.toUInt64 level pageSize
    s.log (Adds.refl _ s.log))
  unfold devCreateMissing
  split
  · trivial
  · rename_i l hl
    rw [hl] at hadds
    exact hs.adds hadds rfl rfl

theorem devReadEntry_inPage :
    Code.Triple (fun s => InPage L pa ipa [] s ∧ s.x0 ≠ 0) (devReadEntry env rd)
      (fun s => InPage L pa ipa [] s ∧ s.x0 ≠ 0) fun _ _ => True := by
  rintro s ⟨hs, hx0⟩
  unfold devReadEntry
  dsimp only
  split
  · trivial
  · exact ⟨hs.adds ((Adds.refl _ _).snoc rfl) rfl rfl, hx0⟩

/-- **A page that has been delegated**: if it falls through, it is mapped, once. -/
theorem devRest_maps (env : Env) (rd vdev : UInt64) :
    Code.Triple (InPage L pa ipa [])
      (Code.block
        [devExit .ret, vdevMap env rd vdev 3,
          Code.guarded (fun s => rmiStatus s.x0 == rmiErrorRtt) (devRetry env rd vdev 3),
          devExit .error,
          Code.act fun s => { s with
            phys := s.phys + pageSize, ipa := s.ipa + pageSize, size := s.size + pageSize }])
      (fun s => ∃ seg, s.log = L ++ seg ∧ pa ∈ delegations seg ∧
        devMaps seg = [⟨rd, vdev, ipa, 3, pa⟩])
      fun _ _ => True := by
  refine Code.Triple.cons (R := InPage L pa ipa []) ?_ (vdevMap_inPage.cons
    (Code.Triple.cons
      (R := fun s => InPage L pa ipa (if s.x0 = 0 then [⟨rd, vdev, ipa, 3, pa⟩] else []) s) ?_
      (Code.Triple.cons (R := InPage L pa ipa [⟨rd, vdev, ipa, 3, pa⟩]) ?_
        (Code.Triple.cons (Code.triple_act fun s hs => hs.log) Code.triple_nil))))
  · exact (Code.triple_jump fun _ _ => trivial).guarded fun _ h _ => h
  · refine Code.Triple.guarded ?_ fun s hs _ => hs
    refine Code.Triple.cons (R := fun s => InPage L pa ipa [] s ∧ s.x0 ≠ 0) ?_
      (Code.Triple.cons ?_ Code.triple_nil)
    · refine devReadEntry_inPage.conseq ?_ (fun _ h => h) fun _ _ h => h
      -- the status of a missing table is an error
      rintro s ⟨hs, hstatus⟩
      have hx0 : s.x0 ≠ 0 := by
        intro h0
        rw [h0] at hstatus
        exact absurd hstatus (by decide)
      rw [if_neg hx0] at hs
      exact ⟨hs, hx0⟩
    · refine Code.Triple.guarded ?_ fun s hs _ => by rw [if_neg hs.2]; exact hs.1
      exact ((devCreateMissing_inPage 3).conseq (fun _ h => h.1.1) (fun _ h => h)
        fun _ _ h => h).cons (vdevMap_inPage.cons Code.triple_nil)
  · refine Code.Triple.guarded (Code.triple_jump fun _ _ => trivial) fun s hs hx0 => ?_
    have h0 : s.x0 = 0 := by simpa using hx0
    rwa [if_pos h0] at hs

/-- The state in which a call for a page starts. -/
def DevState.start (pa ipa : UInt64) (L : Log) : DevState := ⟨pa, ipa, 0, 0, 0, 0, 0, L⟩

/-- The page, with its granule asked for. -/
def DevState.asked (env : Env) (pa ipa : UInt64) (L : Log) : DevState :=
  ⟨pa, ipa, 0, (env.rmi (.granuleDelegate pa) L).1, 0, 0, 0, (env.rmi (.granuleDelegate pa) L).2⟩

/-- What is left of a page once its granule has been asked for. -/
theorem devPage_eq (pa ipa : UInt64) (L : Log) :
    devPage env rd vdev 3 (.start pa ipa L)
      = Code.block
        [devExit .ret, vdevMap env rd vdev 3,
          Code.guarded (fun s => rmiStatus s.x0 == rmiErrorRtt) (devRetry env rd vdev 3),
          devExit .error,
          Code.act fun s => { s with
            phys := s.phys + pageSize, ipa := s.ipa + pageSize, size := s.size + pageSize }]
        (.asked env pa ipa L) := rfl

/-- **A call for one page is one page**: there is nothing to roll back. -/
theorem mapProtectedDevMem_page (halign : addrIsAligned ipa pageSize = true) (L : Log) :
    valHostMapProtectedDevMem env rd vdev pa ipa pageSize L
      = ((devPage env rd vdev 3 (.start pa ipa L)).1.isNone,
          (devPage env rd vdev 3 (.start pa ipa L)).2.log) := by
  have hsize := devRest_keeps (I := fun _ => True) env rd vdev 3 (fun _ _ _ _ => trivial)
    (fun _ _ _ _ => Code.exit_same_iff.mpr trivial) (.asked env pa ipa L) ⟨trivial, rfl⟩
  rw [← devPage_eq] at hsize
  have hloop : Code.whileLoop (fun s : DevState => s.size < pageSize) (devPage env rd vdev 3) 1
      (.start pa ipa L) = devPage env rd vdev 3 (.start pa ipa L) := by
    have hguard : decide ((DevState.start pa ipa L).size < pageSize) = true := by
      change decide ((0 : UInt64) < pageSize) = true
      decide
    rw [Code.whileLoop, Code.guarded, if_pos hguard, Code.seq]
    rcases devPage env rd vdev 3 (.start pa ipa L) with ⟨(_ | e), s⟩
    · rfl
    · rfl
  unfold valHostMapProtectedDevMem
  have hlevel : mapLevel pageSize = some 3 := by decide
  have hrounds : (pageSize / pageSize).toNat = 1 := by decide
  rw [halign, hlevel, hrounds]
  simp only [Bool.not_true, Bool.false_eq_true, if_false]
  change (match Code.whileLoop (fun s : DevState => s.size < pageSize) (devPage env rd vdev 3) 1
    (.start pa ipa L) with
      | (none, s) => (true, s.log)
      | (some .ret, s) => (false, s.log)
      | (some .error, s) =>
        (false, (Code.whileLoop (fun s : DevState => s.size > 0) (devUnmapPage env rd 3)
          (s.size / pageSize).toNat s).2.log)) = _
  rw [hloop]
  generalize devPage env rd vdev 3 (.start pa ipa L) = r at *
  obtain ⟨(_ | (_ | _)), s⟩ := r
  · rfl
  · rfl
  · have hzero : s.size = 0 := hsize.2
    simp only [hzero]
    rfl

/-- The delegation refused. -/
theorem mapProtectedDevMem_refused (halign : addrIsAligned ipa pageSize = true)
    (h0 : (env.rmi (.granuleDelegate pa) L).1 ≠ 0) :
    valHostMapProtectedDevMem env rd vdev pa ipa pageSize L
      = (false, (env.rmi (.granuleDelegate pa) L).2) := by
  have hexit : devExit .ret (.asked env pa ipa L) = (some .ret, .asked env pa ipa L) := by
    unfold devExit
    rw [Code.guarded, if_pos (by simpa [DevState.asked] using h0)]
    rfl
  rw [mapProtectedDevMem_page halign, devPage_eq, Code.block, Code.seq, hexit]
  rfl

/-- **The delegation accepted**: then the granule is held, and so is every granule held before. -/
theorem mapProtectedDevMem_holds (rd vdev : UInt64) (henv : env.Legal) (halign : addrIsAligned ipa pageSize = true)
    (h : Holds l₀ a (env.rmi (.granuleDelegate pa) L).2) :
    Holds l₀ a (valHostMapProtectedDevMem env rd vdev pa ipa pageSize L).2 := by
  have hkeeps := devRest_keeps (I := Holds l₀ a) env rd vdev 3 (fun _ _ hl he => hl.append he)
    (fun ipa w => valHostCreateRttLevels_holds henv rd ipa w 3 pageSize) (.asked env pa ipa L)
    ⟨h, rfl⟩
  rw [← devPage_eq] at hkeeps
  rw [mapProtectedDevMem_page halign]
  generalize devPage env rd vdev 3 (.start pa ipa L) = r at *
  obtain ⟨(_ | e), s⟩ := r
  · exact hkeeps
  · exact hkeeps.1

/-- **A page that succeeds** has been delegated and mapped, once. -/
theorem mapProtectedDevMem_maps {L' : Log}
    (h : valHostMapProtectedDevMem env rd vdev pa ipa pageSize L = (true, L')) :
    addrIsAligned ipa pageSize = true ∧ (env.rmi (.granuleDelegate pa) L).1 = 0 ∧
      ∃ seg, L' = L ++ seg ∧ pa ∈ delegations seg ∧ devMaps seg = [⟨rd, vdev, ipa, 3, pa⟩] := by
  have halign : addrIsAligned ipa pageSize = true := by
    by_contra hno
    unfold valHostMapProtectedDevMem at h
    rw [Bool.not_eq_true _ |>.mp hno] at h
    exact absurd (congrArg Prod.fst h) (by simp)
  have h0 : (env.rmi (.granuleDelegate pa) L).1 = 0 := by
    by_contra hno
    rw [mapProtectedDevMem_refused halign hno] at h
    exact absurd (congrArg Prod.fst h) (by simp)
  refine ⟨halign, h0, ?_⟩
  have hdel : Event.delegated (.smc (.rmi (.granuleDelegate pa)) (env.smc L (.rmi (.granuleDelegate pa))))
      = some pa := if_pos h0
  have hmaps := devRest_maps env rd vdev (.asked env pa ipa L)
    ⟨rfl, rfl, [.smc (.rmi (.granuleDelegate pa)) (env.smc L (.rmi (.granuleDelegate pa)))], rfl,
      List.mem_filterMap.mpr ⟨_, List.mem_singleton_self _, hdel⟩, rfl⟩
  rw [← devPage_eq] at hmaps
  rw [mapProtectedDevMem_page halign] at h
  obtain ⟨hnone, rfl⟩ := Prod.mk.inj h
  generalize devPage env rd vdev 3 (.start pa ipa L) = r at *
  obtain ⟨(_ | e), s⟩ := r
  · exact hmaps
  · exact absurd hnone (by simp)

end Page

/-! ## 5. The pages of a region -/

section Region

variable {env : Env} {rd vdev base pa totalPages : UInt64} {l l' L : Log}

/-- Page `k` of a region. -/
def devMapOf (rd vdev base pa : UInt64) (k : ℕ) : DevMap :=
  ⟨rd, vdev, base + UInt64.ofNat (4096 * k), 3, pa + UInt64.ofNat (4096 * k)⟩

theorem toNat_pageOffset (k : ℕ) : (pageOffset (UInt32.ofNat k)).toNat = 4096 * k % 2 ^ 32 := by
  have hpage : (0x1000 : UInt32).toNat = 4096 := rfl
  rw [pageOffset, UInt32.toNat_toUInt64, UInt32.toNat_mul, UInt32.toNat_ofNat', hpage, Nat.mod_mul_mod,
    Nat.mul_comm]

/-- The offsets are right for the first 2 ^ 20 pages. -/
theorem pageOffset_eq {k : ℕ} (h : k < 2 ^ 20) :
    pageOffset (UInt32.ofNat k) = UInt64.ofNat (4096 * k) := by
  refine UInt64.toNat_inj.mp ?_
  rw [toNat_pageOffset, UInt64.toNat_ofNat_of_lt' (by simp only [UInt64.size]; omega)]
  omega

/-- Then they start again. -/
theorem pageOffset_wraps : pageOffset (UInt32.ofNat (2 ^ 20)) = 0 := by decide

/-- With `k` pages mapped. -/
structure PagesMapped (rd vdev base pa : UInt64) (l : Log) (k : ℕ) (L : Log) : Prop where
  log : ∃ seg, L = l ++ seg ∧ devMaps seg = (List.range k).map (devMapOf rd vdev base pa) ∧
    ∀ j < k, pa + UInt64.ofNat (4096 * j) ∈ delegations seg
  first : 0 < k → Holds l pa L

theorem PagesMapped.zero (rd vdev base pa : UInt64) (l : Log) :
    PagesMapped rd vdev base pa l 0 l where
  log := ⟨[], by simp, rfl, fun j hj => absurd hj (Nat.not_lt_zero j)⟩
  first := fun h => absurd h (lt_irrefl 0)

/-- **One page more.** -/
theorem PagesMapped.succ {k : ℕ} (h : PagesMapped rd vdev base pa l k L) (henv : env.Legal)
    (hk : k < 2 ^ 20) {L' : Log}
    (hpage : valHostMapProtectedDevMem env rd vdev (pa + pageOffset (UInt32.ofNat k))
      (base + pageOffset (UInt32.ofNat k)) pageSize L = (true, L')) :
    PagesMapped rd vdev base pa l (k + 1) L' := by
  rw [pageOffset_eq hk] at hpage
  obtain ⟨halign, h0, seg', rfl, hdel', hmaps'⟩ := mapProtectedDevMem_maps hpage
  obtain ⟨seg, rfl, hmaps, hdel⟩ := h.log
  refine ⟨⟨seg ++ seg', by simp, ?_, ?_⟩, fun _ => ?_⟩
  · rw [devMaps_append, hmaps, hmaps', List.range_succ, List.map_append]
    rfl
  · intro j hj
    rw [delegations_append]
    rcases Nat.lt_or_ge j k with hlt | hge
    · exact List.mem_append_left _ (hdel j hlt)
    · obtain rfl : j = k := by omega
      exact List.mem_append_right _ hdel'
  · -- the first page is still held
    have hfirst : Holds l pa (env.rmi (.granuleDelegate (pa + UInt64.ofNat (4096 * k)))
        (l ++ seg)).2 := by
      rcases Nat.eq_zero_or_pos k with rfl | hpos
      · have hzero : pa + UInt64.ofNat (4096 * 0) = pa := by simp
        rw [hzero] at h0 ⊢
        exact (Holds.delegate h0).of_append
      · exact (h.first hpos).rmi env (by simp)
    have hkeeps := mapProtectedDevMem_holds rd vdev henv halign hfirst
    rw [hpage] at hkeeps
    exact hkeeps

theorem toNat_round {k : ℕ} (h : k < 2 ^ 32) : (UInt32.ofNat k).toUInt64.toNat = k := by
  rw [UInt32.toNat_toUInt64, UInt32.toNat_ofNat', Nat.mod_eq_of_lt h]

/-- **The loop**, if it succeeds, has mapped all pages, and they were no more than 2 ^ 20: the RMM
does not delegate the first page again. -/
theorem devMemLoop_maps (henv : env.Legal) {n k : ℕ} (hk : k ≤ 2 ^ 20) (hkt : k ≤ totalPages.toNat)
    (hL : PagesMapped rd vdev base pa l k L)
    (h : devMemLoop env rd vdev base pa totalPages n (UInt32.ofNat k) L = some (true, l')) :
    totalPages.toNat ≤ 2 ^ 20 ∧ PagesMapped rd vdev base pa l totalPages.toNat l' := by
  induction n generalizing k L with
  | zero => exact absurd h (by simp [devMemLoop])
  | succ n ih =>
    unfold devMemLoop at h
    split at h
    · rename_i hlt
      rw [UInt64.lt_iff_toNat_lt, toNat_round (by omega)] at hlt
      split at h
      · rename_i L' hpage
        rcases Nat.lt_or_ge k (2 ^ 20) with hk' | hk'
        · have hnext : UInt32.ofNat k + 1 = UInt32.ofNat (k + 1) := by
            rw [UInt32.ofNat_add]
            rfl
          rw [hnext] at h
          exact ih (by omega) (by omega) (hL.succ henv hk' hpage) h
        · -- page 2 ^ 20 is page 0 again
          obtain rfl : k = 2 ^ 20 := by omega
          obtain ⟨-, h0, -⟩ := mapProtectedDevMem_maps hpage
          rw [pageOffset_wraps, UInt64.add_zero] at h0
          exact absurd rfl ((hL.first (by decide)).ne_of_delegate henv h0)
      · exact absurd h (by simp)
    · rename_i hge
      obtain rfl := (Prod.mk.inj (Option.some.inj h)).2
      rw [UInt64.lt_iff_toNat_lt, toNat_round (by omega)] at hge
      obtain rfl : k = totalPages.toNat := by omega
      exact ⟨hk, hL⟩

/-- The pages of a region have different IPAs. -/
theorem devMapOf_ipa_inj {j k : ℕ} (hj : j < 2 ^ 20) (hk : k < 2 ^ 20)
    (h : (devMapOf rd vdev base pa j).ipa = (devMapOf rd vdev base pa k).ipa) : j = k := by
  have hoff : UInt64.ofNat (4096 * j) = UInt64.ofNat (4096 * k) := add_left_cancel h
  have hnat := congrArg UInt64.toNat hoff
  rw [UInt64.toNat_ofNat_of_lt' (by simp only [UInt64.size]; omega),
    UInt64.toNat_ofNat_of_lt' (by simp only [UInt64.size]; omega)] at hnat
  omega

/-- One of them is found by its IPA. -/
theorem devMapOf_filter {n k : ℕ} (hn : n ≤ 2 ^ 20) (hk : k < n) :
    ((List.range n).map (devMapOf rd vdev base pa)).filter
        (fun m => m.ipa = (devMapOf rd vdev base pa k).ipa)
      = [devMapOf rd vdev base pa k] := by
  have hfilter : (List.range n).filter
      (fun j => (devMapOf rd vdev base pa j).ipa = (devMapOf rd vdev base pa k).ipa) = [k] := by
    have hcongr : ∀ j ∈ List.range n, (decide ((devMapOf rd vdev base pa j).ipa
        = (devMapOf rd vdev base pa k).ipa)) = (j == k) := by
      intro j hj
      rw [List.mem_range] at hj
      have hiff : (devMapOf rd vdev base pa j).ipa = (devMapOf rd vdev base pa k).ipa ↔ j = k :=
        ⟨devMapOf_ipa_inj (by omega) (by omega), fun heq => by rw [heq]⟩
      rw [Bool.eq_iff_iff, decide_eq_true_iff, beq_iff_eq]
      exact hiff
    rw [List.filter_congr hcongr, List.filter_beq, List.count_eq_one_of_mem List.nodup_range
      (List.mem_range.mpr hk)]
    rfl
  rw [List.filter_map]
  exact congrArg (List.map (devMapOf rd vdev base pa)) hfilter

end Region

/-- **Device memory is mapped page by page.**  After `VAL_SUCCESS` exactly one VDEV_MAP has succeeded
at the IPA of each page, with the PA of this page, and there were no others; each of these PAs has
been delegated; and the region is recorded, once. -/
theorem dev_mem_map_maps {env : Env} (henv : env.Legal)
    {rd vdev devMemBase devMemTop devMemPa : UInt64} {fuel : ℕ} {t t' : RegionTable} {l l' : Log}
    (h : valHostDevMemMap env rd vdev devMemBase devMemTop devMemPa fuel t l = some (true, t', l')) :
    (∀ k < ((devMemTop - devMemBase) / pageSize).toNat,
        (devMaps (own l l')).filter (fun m => m.ipa = devMemBase + UInt64.ofNat (4096 * k))
            = [⟨rd, vdev, devMemBase + UInt64.ofNat (4096 * k), 3,
                devMemPa + UInt64.ofNat (4096 * k)⟩] ∧
          devMemPa + UInt64.ofNat (4096 * k) ∈ delegations (own l l')) ∧
      (devMaps (own l l')).length = ((devMemTop - devMemBase) / pageSize).toNat ∧
      t' = t.record ⟨devMemBase, devMemTop - devMemBase, valRttMaxLevel, devMemPa⟩ := by
  unfold valHostDevMemMap at h
  dsimp only at h
  split at h
  · exact absurd h (by simp)
  split at h
  · exact absurd h (by simp)
  split at h
  · rename_i L hloop
    obtain ⟨-, ht, rfl⟩ : true = true ∧ _ = t' ∧ L = l' := by simpa using h
    obtain ⟨hn, hmapped⟩ := devMemLoop_maps henv (Nat.zero_le _) (Nat.zero_le _)
      (PagesMapped.zero rd vdev devMemBase devMemPa l) hloop
    obtain ⟨seg, rfl, hmaps, hdel⟩ := hmapped.log
    rw [own_append, hmaps]
    refine ⟨fun k hk => ⟨devMapOf_filter hn hk, hdel k hk⟩, ?_, ht.symm⟩
    rw [List.length_map, List.length_range]
  · exact absurd h (by simp)
  · exact absurd h (by simp)

/-! ## 6. A call that fails -/

section Failure

variable {env : Env} {rd vdev base pa totalPages : UInt64} {l l' L : Log} {a ipa : UInt64}

/-- A granule held before a page is held after it. -/
theorem mapProtectedDevMem_keeps (henv : env.Legal) (h : Holds l a L) :
    Holds l a (valHostMapProtectedDevMem env rd vdev pa ipa pageSize L).2 := by
  cases halign : addrIsAligned ipa pageSize with
  | false =>
    unfold valHostMapProtectedDevMem
    rw [halign]
    exact h
  | true => exact mapProtectedDevMem_holds rd vdev henv halign (h.rmi env (by simp))

theorem devMemLoop_keeps (henv : env.Legal) {n : ℕ} {i : UInt32} (hL : Holds l a L) {ok : Bool}
    (h : devMemLoop env rd vdev base pa totalPages n i L = some (ok, l')) : Holds l a l' := by
  induction n generalizing i L with
  | zero => exact absurd h (by simp [devMemLoop])
  | succ n ih =>
    unfold devMemLoop at h
    split at h
    · have hpage : Holds l a (valHostMapProtectedDevMem env rd vdev (pa + pageOffset i)
          (base + pageOffset i) pageSize L).2 := mapProtectedDevMem_keeps henv hL
      split at h
      · rename_i L' hp
        rw [hp] at hpage
        exact ih hpage h
      · rename_i L' hp
        rw [hp] at hpage
        obtain rfl := (Prod.mk.inj (Option.some.inj h)).2
        exact hpage
    · obtain rfl := (Prod.mk.inj (Option.some.inj h)).2
      exact hL

/-- **Nothing is left behind**: of all that was delegated nothing is delegated, and of all that was
mapped nothing is mapped. -/
def LeavesNothing (seg : Log) : Prop := (held seg).delegated = [] ∧ devLeft seg = []

theorem leavesNothing_nil : LeavesNothing [] := ⟨rfl, rfl⟩

theorem leavesNothing_refused {r : SmcRet} (h0 : r.x0 ≠ 0) (a : UInt64) :
    LeavesNothing [.smc (.rmi (.granuleDelegate a)) r] := by
  have hsingle := held_rmi [] (.granuleDelegate a) r
  rw [List.nil_append, if_neg h0] at hsingle
  refine ⟨?_, rfl⟩
  rw [hsingle]
  rfl

/-- The first round decides. -/
theorem devMemLoop_fails (henv : env.Legal) (hpos : 0 < totalPages.toNat) {n : ℕ}
    (h : devMemLoop env rd vdev base pa totalPages n 0 l = some (false, l')) :
    LeavesNothing (own l l') ↔
      addrIsAligned base pageSize = false ∨ (env.smc l (.rmi (.granuleDelegate pa))).x0 ≠ 0 := by
  cases n with
  | zero => exact absurd h (by simp [devMemLoop])
  | succ n =>
    have hlt : (0 : UInt32).toUInt64 < totalPages := UInt64.lt_iff_toNat_lt.mpr hpos
    have hoff : pageOffset 0 = 0 := by decide
    unfold devMemLoop at h
    rw [if_pos hlt, hoff, UInt64.add_zero, UInt64.add_zero] at h
    cases halign : addrIsAligned base pageSize with
    | false =>
      have hpage : valHostMapProtectedDevMem env rd vdev pa base pageSize l = (false, l) := by
        unfold valHostMapProtectedDevMem
        rw [halign]
        rfl
      rw [hpage] at h
      obtain rfl : l = l' := by simpa using h
      refine iff_of_true ?_ (Or.inl rfl)
      rw [own, List.drop_length]
      exact leavesNothing_nil
    | true =>
      by_cases h0 : (env.rmi (.granuleDelegate pa) l).1 = 0
      · -- the first page is held to the end
        have hpage : Holds l pa (valHostMapProtectedDevMem env rd vdev pa base pageSize l).2 :=
          mapProtectedDevMem_holds rd vdev henv halign (Holds.delegate h0)
        have hheld : Holds l pa l' := by
          split at h
          · rename_i L hp
            rw [hp] at hpage
            exact devMemLoop_keeps henv hpage h
          · rename_i L hp
            rw [hp] at hpage
            obtain rfl := (Prod.mk.inj (Option.some.inj h)).2
            exact hpage
        refine iff_of_false (fun hleft => ?_) ?_
        · have hmem := hheld.mem_own
          rw [hleft.1] at hmem
          exact List.not_mem_nil hmem
        · rintro (hfalse | hne)
          · exact absurd hfalse (by decide)
          · exact hne h0
      · rw [mapProtectedDevMem_refused halign h0] at h
        obtain rfl : (env.rmi (.granuleDelegate pa) l).2 = l' := by simpa using h
        refine iff_of_true ?_ (Or.inr h0)
        have hown : own l (env.rmi (.granuleDelegate pa) l).2
            = [.smc (.rmi (.granuleDelegate pa)) (env.smc l (.rmi (.granuleDelegate pa)))] :=
          own_append l _
        rw [hown]
        exact leavesNothing_refused h0 pa

end Failure

/-- **A failed mapping of device memory leaves nothing behind only where it had taken nothing.**
After `VAL_ERROR` nothing is left exactly if the size was no multiple of a page or zero, or the table
of regions was full, or the base was no page, or the very first delegation was refused. -/
theorem failed_dev_mem_map_leaves_nothing {env : Env} (henv : env.Legal)
    {rd vdev devMemBase devMemTop devMemPa : UInt64} {fuel : ℕ} {t t' : RegionTable} {l l' : Log}
    (h : valHostDevMemMap env rd vdev devMemBase devMemTop devMemPa fuel t l
      = some (false, t', l')) :
    LeavesNothing (own l l') ↔
      devMemTop - devMemBase = 0 ∨ (devMemTop - devMemBase) % pageSize ≠ 0 ∨
        t.count ≥ valMaxDevGranulesMap ∨ addrIsAligned devMemBase pageSize = false ∨
        (env.smc l (.rmi (.granuleDelegate devMemPa))).x0 ≠ 0 := by
  have hnone : ∀ {l l' : Log}, some (false, t, l) = some (false, t', l') → LeavesNothing (own l l') := by
    intro l l' heq
    obtain ⟨-, rfl⟩ : t = t' ∧ l = l' := by simpa using heq
    rw [own, List.drop_length]
    exact leavesNothing_nil
  unfold valHostDevMemMap at h
  dsimp only at h
  split at h
  · rename_i hsize
    exact iff_of_true (hnone h) (by tauto)
  rename_i hsize
  split at h
  · rename_i hfull
    exact iff_of_true (hnone h) (Or.inr (Or.inr (Or.inl hfull)))
  rename_i hfull
  split at h
  · exact absurd h (by simp)
  · rename_i L hloop
    obtain ⟨-, rfl⟩ : t = t' ∧ L = l' := by simpa using h
    obtain ⟨hne, hmod⟩ := not_or.mp hsize
    have hpos : 0 < ((devMemTop - devMemBase) / pageSize).toNat := by
      have hsize : pageSize.toNat = 4096 := rfl
      have hne' : (devMemTop - devMemBase).toNat ≠ 0 := fun h0 =>
        hne (UInt64.toNat_inj.mp h0)
      have hmod' : (devMemTop - devMemBase).toNat % 4096 = 0 := by
        have hnat := congrArg UInt64.toNat (not_not.mp hmod)
        rw [UInt64.toNat_mod, hsize] at hnat
        exact hnat
      rw [UInt64.toNat_div, hsize]
      omega
    rw [devMemLoop_fails henv hpos hloop]
    tauto
  · exact absurd h (by simp)

/-! ## 7. Two pages -/

/-- A legal RMM that maps what it is asked to map, but for the pages it is made to refuse. -/
def devEnv (refuse : UInt64 → Bool) : Env :=
  heapEnv valHostMemAllocInit (faultyRmm (fun _ _ => false) fun c =>
    match c with
    | .vdevMap _ _ ipa _ _ => if refuse ipa then ⟨1, 0, 0⟩ else ⟨0, 0, 0⟩
    | _ => ⟨0, 0, 0⟩)

/-- A call that returns, by what it returns. -/
theorem returned_eq {α β : Type} {r : Option (Bool × α × β)} {b : Bool}
    (h : r.map Prod.fst = some b) : ∃ t l, r = some (b, t, l) := by
  obtain ⟨⟨b, t, l⟩, hr, rfl⟩ := Option.map_eq_some_iff.mp h
  exact ⟨t, l, hr⟩

theorem dev_mem_map_maps_two_pages :
    (devEnv fun _ => false).Legal ∧
      ∃ t' l', valHostDevMemMap (devEnv fun _ => false) 0x88500000 0x88600000 0x400000 0x402000
          0x50000000 3 .empty oneRealm = some (true, t', l') ∧
        (devMaps (own oneRealm l')).length = 2 ∧ t'.count = 1 := by
  have hlegal : (devEnv fun _ => false).Legal := faultyRmm_legal _ _ _
  obtain ⟨t', l', h⟩ := returned_eq (r := valHostDevMemMap (devEnv fun _ => false) 0x88500000
    0x88600000 0x400000 0x402000 0x50000000 3 .empty oneRealm) (b := true) (by decide +kernel)
  obtain ⟨-, hlen, rfl⟩ := dev_mem_map_maps hlegal h
  exact ⟨hlegal, _, l', h, hlen, rfl⟩

/-- The RMM refuses to map the second page: the first stays mapped, and both stay delegated. -/
theorem failed_dev_mem_map_keeps_pages :
    ∃ t' l', valHostDevMemMap (devEnv fun ipa => ipa = 0x401000) 0x88500000 0x88600000 0x400000
        0x402000 0x50000000 3 .empty oneRealm = some (false, t', l') ∧
      t'.count = 0 ∧ (held (own oneRealm l')).delegated = [0x50001000, 0x50000000] ∧
      devLeft (own oneRealm l') = [⟨0x88500000, 0x88600000, 0x400000, 3, 0x50000000⟩] ∧
      ¬ LeavesNothing (own oneRealm l') := by
  have hrun : valHostDevMemMap (devEnv fun ipa => ipa = 0x401000) 0x88500000 0x88600000 0x400000
      0x402000 0x50000000 3 .empty oneRealm = some (false, .empty, oneRealm ++
        [.smc (.rmi (.granuleDelegate 0x50000000)) ⟨0, 0, 0⟩,
          .smc (.vdevMap 0x88500000 0x88600000 0x400000 3 0x50000000) ⟨0, 0, 0⟩,
          .smc (.rmi (.granuleDelegate 0x50001000)) ⟨0, 0, 0⟩,
          .smc (.vdevMap 0x88500000 0x88600000 0x401000 3 0x50001000) ⟨1, 0, 0⟩]) := by
    decide +kernel
  refine ⟨_, _, hrun, rfl, by decide +kernel, by decide +kernel, fun h => ?_⟩
  exact absurd h.1 (by decide +kernel)

theorem failed_dev_mem_map_leaves_nothing_odd_size :
    (devEnv fun _ => false).Legal ∧
      ∃ t' l', valHostDevMemMap (devEnv fun _ => false) 0x88500000 0x88600000 0x400000 0x402800
          0x50000000 3 .empty oneRealm = some (false, t', l') ∧ LeavesNothing (own oneRealm l') := by
  have hlegal : (devEnv fun _ => false).Legal := faultyRmm_legal _ _ _
  obtain ⟨t', l', h⟩ := returned_eq (r := valHostDevMemMap (devEnv fun _ => false) 0x88500000
    0x88600000 0x400000 0x402800 0x50000000 3 .empty oneRealm) (b := false) (by decide +kernel)
  refine ⟨hlegal, t', l', h, (failed_dev_mem_map_leaves_nothing hlegal h).mpr ?_⟩
  exact Or.inr (Or.inl (by decide))

end RmmAcs.Realm
