/-
# Going through all functions of all regions

The table of the PCIe hierarchy lists the ECAM regions: each has a segment and the buses from a first
to a last.  `val_pcie_increment_bdf` goes from one function to the next, and from the last one of a
region on to the first of the next region; 0 says that there is no further one.

The region is not kept from step to step but looked up by the segment, from the END of the table.  So
where several regions have one segment it is always the last of them whose end counts, and what comes
behind it is what comes next.  The iteration is complete exactly if this makes no difference
(`bdf_iteration_complete_iff`): the regions of a segment stand one behind the other in the table, and
each starts with the bus behind the last one of the region before.  Further, segments and buses have to
fit into their eight bits, and no region but the first may start at the BDF that says it is over.
-/
import RmmAcs.Pcie.Bdf

namespace RmmAcs.Pcie

/-! ## 1. The table and the increment -/

/-- `PCIE_INFO_BLOCK`: a region has at least one bus. -/
structure PcieInfoBlock where
  ecamBase : UInt64
  segmentNum : UInt32
  startBusNum : UInt32
  endBusNum : UInt32
  start_le_end : startBusNum ≤ endBusNum

/-- Two regions have no bus in common. -/
def PcieInfoBlock.Disjoint (a b : PcieInfoBlock) : Prop :=
  a.segmentNum = b.segmentNum → a.endBusNum < b.startBusNum ∨ b.endBusNum < a.startBusNum

/-- `PCIE_INFO_TABLE` with at least one region: `num_entries` is the number of blocks. -/
structure PcieInfoTable where
  block : List PcieInfoBlock
  disjoint : block.Pairwise PcieInfoBlock.Disjoint
  nonempty : block ≠ []

/-- `PCIE_INFO_e` -/
inductive PcieInfo where
  | numEcam
  | ecam
  | startBus
  | endBus
  | segment
deriving DecidableEq, Repr

/-- `val_pcie_get_info`: 0 for an index beyond the table. -/
def valPcieGetInfo (t : PcieInfoTable) (type : PcieInfo) (index : ℕ) : ℕ :=
  match t.block[index]? with
  | none => 0
  | some b =>
    match type with
    | .numEcam => t.block.length
    | .ecam => b.ecamBase.toNat
    | .startBus => b.startBusNum.toNat
    | .endBus => b.endBusNum.toNat
    | .segment => b.segmentNum.toNat

/-- `while (ecam_cnt--)`: the last region of the segment. -/
def ecamIndex (t : PcieInfoTable) (seg : UInt32) : ℕ → Option ℕ
  | 0 => none
  | n + 1 => if seg.toNat = valPcieGetInfo t .segment n then some n else ecamIndex t seg n

def valPcieIncrementBdf (t : PcieInfoTable) (bdf : UInt32) : UInt32 :=
  let seg := bdfSeg bdf
  let bus := bdfBus bdf
  let dev := bdfDev bdf
  let func := bdfFunc bdf
  match ecamIndex t seg (valPcieGetInfo t .numEcam 0) with
  | none => 0
  | some index =>
    if func < PCIE_MAX_FUNC - 1 then createBdf seg bus dev (func + 1)
    else if dev < PCIE_MAX_DEV - 1 then createBdf seg bus (dev + 1) 0
    else if bus.toNat < valPcieGetInfo t .endBus index then createBdf seg (bus + 1) 0 0
    else if index + 1 < valPcieGetInfo t .numEcam 0 then
      createBdf (.ofNat (valPcieGetInfo t .segment (index + 1)))
        (.ofNat (valPcieGetInfo t .startBus (index + 1))) 0 0
    else 0

/-- The functions met on the way from a BDF, until 0 comes back; `none` if it has not after so many. -/
def visited (t : PcieInfoTable) : ℕ → UInt32 → Option (List UInt32)
  | 0, _ => none
  | fuel + 1, bdf =>
    let next := valPcieIncrementBdf t bdf
    if next = 0 then some [bdf] else (visited t fuel next).map (bdf :: ·)

/-! ## 2. All functions, in the order of the table -/

/-- The functions of a bus. -/
def busFns (seg bus : ℕ) : List BdfFn :=
  (List.range 32).flatMap fun dev => (List.range 8).map fun func => ⟨seg, bus, dev, func⟩

/-- The functions of a region. -/
def PcieInfoBlock.fns (b : PcieInfoBlock) : List BdfFn :=
  (List.range (b.endBusNum.toNat - b.startBusNum.toNat + 1)).flatMap fun i =>
    busFns b.segmentNum.toNat (b.startBusNum.toNat + i)

/-- The functions of all regions. -/
def PcieInfoTable.fns (t : PcieInfoTable) : List BdfFn := t.block.flatMap PcieInfoBlock.fns

/-- The first function of the first region. -/
def PcieInfoTable.first (t : PcieInfoTable) : UInt32 :=
  let b := t.block.head t.nonempty
  createBdf b.segmentNum b.startBusNum 0 0

/-- The iteration visits all functions, each one once and in the order of the table, and then returns
0. -/
def PcieInfoTable.Complete (t : PcieInfoTable) : Prop :=
  ∃ fuel bdfs, visited t fuel t.first = some bdfs ∧ bdfs.map bdfFields = t.fns ∧ bdfs.Nodup

/-- The regions are such that the iteration is complete. -/
structure PcieInfoTable.InOrder (t : PcieInfoTable) : Prop where
  /-- Segments and buses have eight bits. -/
  fits : ∀ b ∈ t.block, b.segmentNum.toNat < 256 ∧ b.endBusNum.toNat < 256
  /-- The region behind one whose segment comes once more continues it. -/
  continues : ∀ i k (hik : i < k) (hk : k < t.block.length),
    t.block[i].segmentNum = t.block[k].segmentNum →
    t.block[i + 1].segmentNum = t.block[i].segmentNum ∧
      t.block[i + 1].startBusNum.toNat = t.block[i].endBusNum.toNat + 1
  /-- 0 is the BDF of no region behind the first. -/
  not_zero : ∀ b ∈ t.block.tail, ¬ (b.segmentNum = 0 ∧ b.startBusNum = 0)

/-! ## 3. The iteration as a chain -/

section Table

variable (t : PcieInfoTable)

/-- One step of the iteration. -/
def Increments (v w : UInt32) : Prop := valPcieIncrementBdf t v = w ∧ w ≠ 0

/-- The same for functions. -/
def Follows (f g : BdfFn) : Prop := Increments t f.bdf g.bdf

theorem visited_eq_some_iff {fuel : ℕ} {v : UInt32} {vs : List UInt32} :
    visited t fuel v = some vs ↔ vs.length ≤ fuel ∧ vs.head? = some v ∧
      vs.IsChain (Increments t) ∧ ∀ w ∈ vs.getLast?, valPcieIncrementBdf t w = 0 := by
  induction fuel generalizing v vs with
  | zero =>
    simp only [visited, reduceCtorEq, Nat.le_zero, List.length_eq_zero_iff, false_iff]
    rintro ⟨rfl, hhead, -⟩
    cases hhead
  | succ fuel ih =>
    rw [visited]
    by_cases h0 : valPcieIncrementBdf t v = 0
    · rw [if_pos h0]
      constructor
      · intro h
        cases h
        exact ⟨by simp, rfl, .singleton v, by simpa using h0⟩
      · rintro ⟨-, hhead, hchain, -⟩
        rcases vs with _ | ⟨v', _ | ⟨w, vs⟩⟩
        · cases hhead
        · cases hhead
          rfl
        · -- a second function would have been 0
          cases hhead
          obtain ⟨hinc, hw⟩ := (List.isChain_cons_cons.mp hchain).1
          exact absurd (hinc.symm.trans h0) hw
    · rw [if_neg h0]
      simp only [Option.map_eq_some_iff]
      constructor
      · rintro ⟨ws, hws, rfl⟩
        obtain ⟨hlen, hhead, hchain, hlast⟩ := ih.mp hws
        rcases ws with _ | ⟨w, ws⟩
        · cases hhead
        · cases hhead
          exact ⟨Nat.succ_le_succ hlen, rfl, List.isChain_cons_cons.mpr ⟨⟨rfl, h0⟩, hchain⟩, hlast⟩
      · rintro ⟨hlen, hhead, hchain, hlast⟩
        rcases vs with _ | ⟨v', _ | ⟨w, vs⟩⟩
        · cases hhead
        · cases hhead
          exact absurd (hlast v rfl) h0
        · cases hhead
          obtain ⟨⟨rfl, -⟩, hrest⟩ := List.isChain_cons_cons.mp hchain
          exact ⟨_, ih.mpr ⟨Nat.le_of_succ_le_succ hlen, rfl, hrest, hlast⟩, rfl⟩

end Table

/-! ## 4. First and last functions -/

namespace PcieInfoBlock

/-- The first function of a region. -/
def firstFn (b : PcieInfoBlock) : BdfFn := ⟨b.segmentNum.toNat, b.startBusNum.toNat, 0, 0⟩

/-- The last function of a region. -/
def lastFn (b : PcieInfoBlock) : BdfFn := ⟨b.segmentNum.toNat, b.endBusNum.toNat, 31, 7⟩

theorem start_le (b : PcieInfoBlock) : b.startBusNum.toNat ≤ b.endBusNum.toNat := b.start_le_end

end PcieInfoBlock

theorem busFns_head (seg bus : ℕ) : (busFns seg bus).head? = some ⟨seg, bus, 0, 0⟩ := rfl

theorem busFns_last (seg bus : ℕ) : (busFns seg bus).getLast? = some ⟨seg, bus, 31, 7⟩ := by
  have h32 : List.range 32 = List.range 31 ++ [31] := rfl
  rw [busFns, h32, List.flatMap_append, List.flatMap_singleton, List.getLast?_append]
  rfl

theorem mem_busFns {seg bus : ℕ} {f : BdfFn} :
    f ∈ busFns seg bus ↔ f.seg = seg ∧ f.bus = bus ∧ f.dev < 32 ∧ f.func < 8 := by
  simp only [busFns, List.mem_flatMap, List.mem_map, List.mem_range]
  constructor
  · rintro ⟨dev, hdev, func, hfunc, rfl⟩
    exact ⟨rfl, rfl, hdev, hfunc⟩
  · rintro ⟨rfl, rfl, hdev, hfunc⟩
    exact ⟨f.dev, hdev, f.func, hfunc, rfl⟩

theorem mem_block_fns {b : PcieInfoBlock} {f : BdfFn} :
    f ∈ b.fns ↔ f.seg = b.segmentNum.toNat ∧
      (b.startBusNum.toNat ≤ f.bus ∧ f.bus ≤ b.endBusNum.toNat) ∧ f.dev < 32 ∧ f.func < 8 := by
  have hle := b.start_le
  simp only [PcieInfoBlock.fns, List.mem_flatMap, List.mem_range, mem_busFns]
  constructor
  · rintro ⟨i, hi, hseg, hbus, hdev, hfunc⟩
    exact ⟨hseg, by omega, hdev, hfunc⟩
  · rintro ⟨hseg, hbus, hdev, hfunc⟩
    exact ⟨f.bus - b.startBusNum.toNat, by omega, hseg, by omega, hdev, hfunc⟩

theorem block_fns_head (b : PcieInfoBlock) : b.fns.head? = some b.firstFn := by
  rw [PcieInfoBlock.fns, List.range_succ_eq_map, List.flatMap_cons, List.head?_append, busFns_head]
  rfl

theorem block_fns_last (b : PcieInfoBlock) : b.fns.getLast? = some b.lastFn := by
  have hle := b.start_le
  rw [PcieInfoBlock.fns, List.range_succ, List.flatMap_append, List.flatMap_singleton,
    List.getLast?_append, busFns_last, Nat.add_sub_cancel' hle]
  rfl

/-- Each function is listed once. -/
theorem busFns_nodup (seg bus : ℕ) : (busFns seg bus).Nodup := by
  rw [busFns, List.nodup_flatMap]
  refine ⟨fun dev _ => ?_, ?_⟩
  · exact List.nodup_range.map fun _ _ h => (BdfFn.mk.inj h).2.2.2
  · refine List.nodup_range.imp fun {dev dev'} hne => ?_
    rw [Function.onFun, List.disjoint_left]
    intro f hf hf'
    obtain ⟨_, -, rfl⟩ := List.mem_map.mp hf
    obtain ⟨_, -, heq⟩ := List.mem_map.mp hf'
    exact hne (BdfFn.mk.inj heq).2.2.1.symm

theorem block_fns_nodup (b : PcieInfoBlock) : b.fns.Nodup := by
  rw [PcieInfoBlock.fns, List.nodup_flatMap]
  refine ⟨fun i _ => busFns_nodup _ _, List.nodup_range.imp fun {i j} hne => ?_⟩
  rw [Function.onFun, List.disjoint_left]
  intro f hf hf'
  have hbus := (mem_busFns.mp hf).2.1
  have hbus' := (mem_busFns.mp hf').2.1
  omega

theorem fns_nodup (t : PcieInfoTable) : t.fns.Nodup := by
  rw [PcieInfoTable.fns, List.nodup_flatMap]
  refine ⟨fun b _ => block_fns_nodup b, t.disjoint.imp fun {a b} hdis => ?_⟩
  rw [Function.onFun, List.disjoint_left]
  intro f hf hf'
  obtain ⟨hseg, ⟨hlo, hhi⟩, -⟩ := mem_block_fns.mp hf
  obtain ⟨hseg', ⟨hlo', hhi'⟩, -⟩ := mem_block_fns.mp hf'
  rcases hdis (UInt32.toNat_inj.mp (hseg.symm.trans hseg')) with hlt | hlt
  · have hlt' := UInt32.lt_iff_toNat_lt.mp hlt
    omega
  · have hlt' := UInt32.lt_iff_toNat_lt.mp hlt
    omega

theorem firstFn_fits {b : PcieInfoBlock} (h : b.segmentNum.toNat < 256 ∧ b.endBusNum.toNat < 256) :
    b.firstFn.Fits :=
  ⟨h.1, Nat.lt_of_le_of_lt b.start_le h.2, Nat.succ_pos 31, Nat.succ_pos 7⟩

theorem lastFn_mem (b : PcieInfoBlock) : b.lastFn ∈ b.fns :=
  mem_block_fns.mpr ⟨rfl, ⟨b.start_le, Nat.le_refl _⟩, Nat.lt_succ_self 31, Nat.lt_succ_self 7⟩

/-- Segments and buses have eight bits if all functions fit. -/
theorem fns_fit_iff (t : PcieInfoTable) : (∀ f ∈ t.fns, f.Fits) ↔
    ∀ b ∈ t.block, b.segmentNum.toNat < 256 ∧ b.endBusNum.toNat < 256 := by
  constructor
  · intro h b hb
    have hfits := h b.lastFn (List.mem_flatMap.mpr ⟨b, hb, lastFn_mem b⟩)
    exact ⟨hfits.seg, hfits.bus⟩
  · intro h f hf
    obtain ⟨b, hb, hfb⟩ := List.mem_flatMap.mp hf
    obtain ⟨hseg, ⟨-, hhi⟩, hdev, hfunc⟩ := mem_block_fns.mp hfb
    obtain ⟨hs, he⟩ := h b hb
    exact ⟨by omega, by omega, hdev, hfunc⟩

/-! ## 5. Where a step leads -/

section Step

variable {t : PcieInfoTable}

theorem numEcam_eq (t : PcieInfoTable) : valPcieGetInfo t .numEcam 0 = t.block.length := by
  rcases t with ⟨_ | ⟨b, bs⟩, hdis, hne⟩
  · exact absurd rfl hne
  · rfl

theorem segment_eq {i : ℕ} (hi : i < t.block.length) :
    valPcieGetInfo t .segment i = t.block[i].segmentNum.toNat := by
  rw [valPcieGetInfo, List.getElem?_eq_getElem hi]

theorem startBus_eq {i : ℕ} (hi : i < t.block.length) :
    valPcieGetInfo t .startBus i = t.block[i].startBusNum.toNat := by
  rw [valPcieGetInfo, List.getElem?_eq_getElem hi]

theorem endBus_eq {i : ℕ} (hi : i < t.block.length) :
    valPcieGetInfo t .endBus i = t.block[i].endBusNum.toNat := by
  rw [valPcieGetInfo, List.getElem?_eq_getElem hi]

/-- `L` is the last region of a segment. -/
structure IsLast (t : PcieInfoTable) (seg : UInt32) (L : ℕ) : Prop where
  lt : L < t.block.length
  seg_eq : t.block[L].segmentNum = seg
  last : ∀ j (hj : j < t.block.length), t.block[j].segmentNum = seg → j ≤ L

/-- The lookup comes to the last region of a segment first. -/
theorem ecamIndex_of_mem (seg : UInt32) {n : ℕ} (hn : n ≤ t.block.length) {i : ℕ} (hi : i < n)
    (hseg : t.block[i].segmentNum = seg) :
    ∃ L, ecamIndex t seg n = some L ∧ ∃ hL : L < t.block.length,
      t.block[L].segmentNum = seg ∧
      ∀ j (hj : j < n), t.block[j].segmentNum = seg → j ≤ L := by
  induction n with
  | zero => exact absurd hi (Nat.not_lt_zero i)
  | succ n ih =>
    rw [ecamIndex, segment_eq hn]
    by_cases hlast : seg.toNat = t.block[n].segmentNum.toNat
    · rw [if_pos hlast]
      exact ⟨n, rfl, hn, (UInt32.toNat_inj.mp hlast).symm, fun j hj _ => Nat.le_of_lt_succ hj⟩
    · rw [if_neg hlast]
      have hne : t.block[n].segmentNum ≠ seg := fun h => hlast (by rw [h])
      have hin : i < n := by
        rcases Nat.lt_succ_iff_lt_or_eq.mp hi with hlt | rfl
        · exact hlt
        · exact absurd hseg hne
      obtain ⟨L, hL, hlt, hsegL, hmax⟩ := ih (Nat.le_of_succ_le hn) hin hseg
      refine ⟨L, hL, hlt, hsegL, fun j hj hsegj => ?_⟩
      rcases Nat.lt_succ_iff_lt_or_eq.mp hj with hlt' | rfl
      · exact hmax j hlt' hsegj
      · exact absurd hsegj hne

theorem exists_isLast {i : ℕ} (hi : i < t.block.length) :
    ∃ L, IsLast t t.block[i].segmentNum L ∧ i ≤ L := by
  obtain ⟨L, -, hlt, hseg, hmax⟩ := ecamIndex_of_mem _ (Nat.le_refl _) hi rfl
  exact ⟨L, ⟨hlt, hseg, hmax⟩, hmax i hi rfl⟩

theorem IsLast.ecamIndex_eq {seg : UInt32} {L : ℕ} (h : IsLast t seg L) :
    ecamIndex t seg (valPcieGetInfo t .numEcam 0) = some L := by
  obtain ⟨hlt, hseg, hlast⟩ := h
  rw [numEcam_eq]
  obtain ⟨L', hL', hlt', hseg', hmax⟩ := ecamIndex_of_mem seg (Nat.le_refl _) hlt hseg
  rw [hL', Nat.le_antisymm (hlast L' hlt' hseg') (hmax L hlt hseg)]

/-- **One step**: on to the next function, to the next device, to the next bus, or to the region behind
the last one of the segment. -/
theorem increment_bdf {f : BdfFn} (hf : f.Fits) {L : ℕ} (hL : IsLast t (.ofNat f.seg) L) :
    valPcieIncrementBdf t f.bdf =
      if f.func < 7 then BdfFn.bdf ⟨f.seg, f.bus, f.dev, f.func + 1⟩
      else if f.dev < 31 then BdfFn.bdf ⟨f.seg, f.bus, f.dev + 1, 0⟩
      else if f.bus < valPcieGetInfo t .endBus L then BdfFn.bdf ⟨f.seg, f.bus + 1, 0, 0⟩
      else if h : L + 1 < t.block.length then t.block[L + 1].firstFn.bdf
      else 0 := by
  obtain ⟨hs, hb, hd, hfn⟩ := BdfFn.mk.inj hf.bdfFields_bdf
  have hseg : bdfSeg f.bdf = .ofNat f.seg := by rw [← hs, UInt32.ofNat_toNat]
  have hbus := hf.bus
  have hdev := hf.dev
  have hfunc := hf.func
  have hfunc7 : (bdfFunc f.bdf < PCIE_MAX_FUNC - 1) ↔ f.func < 7 := by
    rw [UInt32.lt_iff_toNat_lt, hfn]
    rfl
  have hdev31 : (bdfDev f.bdf < PCIE_MAX_DEV - 1) ↔ f.dev < 31 := by
    rw [UInt32.lt_iff_toNat_lt, hd]
    rfl
  have hindex := hL.ecamIndex_eq
  rw [numEcam_eq] at hindex
  have succ : ∀ {x : UInt32} {n : ℕ}, x.toNat = n → n < 256 → (x + 1).toNat = n + 1 := by
    intro x n hx hn
    rw [UInt32.toNat_add, hx]
    exact Nat.mod_eq_of_lt (by change n + 1 < 4294967296; omega)
  simp only [valPcieIncrementBdf, hseg, hindex, hfunc7, hdev31, hb, numEcam_eq]
  rw [← hseg]
  split
  · exact createBdf_eq hs hb hd (succ hfn (by omega))
  · split
    · exact createBdf_eq hs hb (succ hd (by omega)) rfl
    · split
      · exact createBdf_eq hs (succ hb hbus) rfl rfl
      · split
        · next h =>
          rw [segment_eq h, startBus_eq h]
          rfl
        · rfl

/-- Every step leads to a BDF of 24 bits. -/
theorem increment_lt (hfits : ∀ b ∈ t.block, b.segmentNum.toNat < 256 ∧ b.endBusNum.toNat < 256)
    {f : BdfFn} (hf : f.Fits) {L : ℕ} (hL : IsLast t (.ofNat f.seg) L) :
    (valPcieIncrementBdf t f.bdf).toNat < 2 ^ 24 := by
  obtain ⟨hseg, hbus, hdev, hfunc⟩ := hf
  rw [increment_bdf ⟨hseg, hbus, hdev, hfunc⟩ hL, endBus_eq hL.lt]
  have hend := (hfits _ (List.getElem_mem hL.lt)).2
  split
  · exact BdfFn.Fits.bdf_lt ⟨hseg, hbus, hdev, by change f.func + 1 < 8; omega⟩
  · split
    · exact BdfFn.Fits.bdf_lt ⟨hseg, hbus, by change f.dev + 1 < 32; omega, Nat.succ_pos 7⟩
    · split
      · next hlt =>
        refine BdfFn.Fits.bdf_lt ⟨hseg, ?_, Nat.succ_pos 31, Nat.succ_pos 7⟩
        change f.bus + 1 < 256
        omega
      · split
        · next h =>
          exact (firstFn_fits (hfits _ (List.getElem_mem h))).bdf_lt
        · decide

/-- Each function belongs to a segment of the table. -/
theorem isLast_of_mem {f : BdfFn} (hf : f ∈ t.fns) : ∃ L, IsLast t (.ofNat f.seg) L := by
  obtain ⟨b, hb, hfb⟩ := List.mem_flatMap.mp hf
  obtain ⟨i, hi, rfl⟩ := List.mem_iff_getElem.mp hb
  obtain ⟨L, hL, -⟩ := exists_isLast hi
  rw [(mem_block_fns.mp hfb).1, UInt32.ofNat_toNat]
  exact ⟨L, hL⟩

end Step

/-! ## 6. What complete means, step by step -/

section Complete

variable {t : PcieInfoTable}

theorem fns_head (t : PcieInfoTable) : t.fns.head? = some (t.block.head t.nonempty).firstFn := by
  rcases t with ⟨_ | ⟨b, bs⟩, hdis, hne⟩
  · exact absurd rfl hne
  · rw [PcieInfoTable.fns, List.flatMap_cons, List.head?_append, block_fns_head]
    rfl

theorem first_eq (t : PcieInfoTable) : t.first = (t.block.head t.nonempty).firstFn.bdf :=
  createBdf_eq rfl rfl rfl rfl

theorem fns_last (t : PcieInfoTable) : t.fns.getLast? = some (t.block.getLast t.nonempty).lastFn := by
  have hsplit := List.dropLast_append_getLast t.nonempty
  rw [PcieInfoTable.fns]
  nth_rewrite 1 [← hsplit]
  rw [List.flatMap_append, List.flatMap_singleton, List.getLast?_append, block_fns_last]
  rfl

/-- BDFs that name the functions of a chain, one step from each to the next, are the BDFs of these
functions. -/
theorem eq_map_bdf (hfits : ∀ f ∈ t.fns, f.Fits) {vs : List UInt32} {fs : List BdfFn}
    (hmap : vs.map bdfFields = fs) (hsub : ∀ f ∈ fs, f ∈ t.fns) (hchain : vs.IsChain (Increments t))
    (hfirst : ∀ v ∈ vs.head?, v.toNat < 2 ^ 24) : vs = fs.map BdfFn.bdf := by
  induction vs generalizing fs with
  | nil =>
    subst hmap
    rfl
  | cons v vs ih =>
    subst hmap
    have hv : (bdfFields v).bdf = v := bdf_bdfFields (hfirst v rfl)
    rw [List.map_cons, List.map_cons, hv]
    have hrest : ∀ w ∈ vs.head?, w.toNat < 2 ^ 24 := by
      intro w hw
      rcases vs with _ | ⟨w', vs⟩
      · cases hw
      · cases hw
        have hmem := hsub (bdfFields v) (List.mem_cons_self ..)
        obtain ⟨L, hL⟩ := isLast_of_mem hmem
        have hstep := (List.isChain_cons_cons.mp hchain).1.1
        rw [← hstep, ← hv]
        exact increment_lt ((fns_fit_iff t).mp hfits) (hfits _ hmem) hL
    rw [← ih rfl (fun f hf => hsub f (List.mem_cons_of_mem _ hf)) hchain.tail hrest]

theorem complete_iff_chain : t.Complete ↔ (∀ f ∈ t.fns, f.Fits) ∧ t.fns.IsChain (Follows t) ∧
    valPcieIncrementBdf t (t.block.getLast t.nonempty).lastFn.bdf = 0 := by
  constructor
  · rintro ⟨fuel, vs, hvs, hmap, -⟩
    obtain ⟨-, hhead, hchain, hlast⟩ := (visited_eq_some_iff t).mp hvs
    have hfits : ∀ f ∈ t.fns, f.Fits := by
      intro f hf
      rw [← hmap] at hf
      obtain ⟨v, -, rfl⟩ := List.mem_map.mp hf
      exact bdfFields_fits v
    have hfirst : ∀ v ∈ vs.head?, v.toNat < 2 ^ 24 := by
      intro v hv
      rw [hhead] at hv
      cases hv
      rw [first_eq]
      refine (hfits _ ?_).bdf_lt
      exact List.mem_of_mem_head? (fns_head t)
    have heq := eq_map_bdf hfits hmap (fun _ h => h) hchain hfirst
    refine ⟨hfits, ?_, ?_⟩
    · rw [heq] at hchain
      exact (List.isChain_map BdfFn.bdf).mp hchain
    · refine hlast _ ?_
      rw [heq, List.getLast?_map, fns_last]
      rfl
  · rintro ⟨hfits, hchain, hlast⟩
    have hmap : (t.fns.map BdfFn.bdf).map bdfFields = t.fns := by
      rw [List.map_map]
      exact (List.map_congr_left fun f hf => (hfits f hf).bdfFields_bdf).trans (List.map_id _)
    refine ⟨(t.fns.map BdfFn.bdf).length, t.fns.map BdfFn.bdf, ?_, hmap, ?_⟩
    · refine (visited_eq_some_iff t).mpr ⟨Nat.le_refl _, ?_, (List.isChain_map BdfFn.bdf).mpr hchain, ?_⟩
      · rw [List.head?_map, fns_head, first_eq]
        rfl
      · intro w hw
        rw [List.getLast?_map, fns_last] at hw
        cases hw
        exact hlast
    · refine List.Nodup.of_map bdfFields ?_
      rw [hmap]
      exact fns_nodup t

/-! ## 7. Chains of functions -/

theorem bdf_ne_zero {f : BdfFn} (hf : f.Fits) (h : f.bus ≠ 0 ∨ f.dev ≠ 0 ∨ f.func ≠ 0) : f.bdf ≠ 0 := by
  intro h0
  have htoNat := hf.bdf_toNat
  rw [h0] at htoNat
  change 0 = _ at htoNat
  omega

/-- A chain of blocks: each block is one, and each leads on to the next. -/
theorem isChain_flatMap_iff {α β : Type} {R : β → β → Prop} {g : α → List β} (first last : α → β)
    (hfirst : ∀ a, (g a).head? = some (first a)) (hlast : ∀ a, (g a).getLast? = some (last a))
    {l : List α} : (l.flatMap g).IsChain R ↔
      (∀ a ∈ l, (g a).IsChain R) ∧ l.IsChain fun a b => R (last a) (first b) := by
  have hnil : [] ∉ l.map g := by
    intro hmem
    obtain ⟨a, -, ha⟩ := List.mem_map.mp hmem
    have hhead := hfirst a
    rw [ha] at hhead
    cases hhead
  rw [List.flatMap_def, List.isChain_flatten hnil, List.forall_mem_map, List.isChain_map]
  simp only [hfirst, hlast, Option.mem_def, Option.some.injEq, forall_eq']

/-- On a bus every step leads to the next function. -/
theorem busFns_chain {seg bus L : ℕ} (hseg : seg < 256) (hbus : bus < 256)
    (hL : IsLast t (.ofNat seg) L) : (busFns seg bus).IsChain (Follows t) := by
  rw [busFns, isChain_flatMap_iff (fun dev => ⟨seg, bus, dev, 0⟩) (fun dev => ⟨seg, bus, dev, 7⟩)
    (fun _ => rfl) (fun _ => rfl)]
  constructor
  · intro dev hdev
    have hdev' := List.mem_range.mp hdev
    rw [List.isChain_map, List.isChain_range]
    intro func hfunc
    have hfits : BdfFn.Fits ⟨seg, bus, dev, func⟩ := ⟨hseg, hbus, hdev', by change func < 8; omega⟩
    refine ⟨?_, bdf_ne_zero ⟨hseg, hbus, hdev', by change func + 1 < 8; omega⟩ ?_⟩
    · rw [increment_bdf hfits hL, if_pos (by change func < 7; omega)]
    · exact Or.inr (Or.inr (Nat.succ_ne_zero func))
  · rw [List.isChain_range]
    intro dev hdev
    have hfits : BdfFn.Fits ⟨seg, bus, dev, 7⟩ :=
      ⟨hseg, hbus, by change dev < 32; omega, Nat.lt_succ_self 7⟩
    refine ⟨?_, bdf_ne_zero ⟨hseg, hbus, by change dev + 1 < 32; omega, Nat.succ_pos 7⟩ ?_⟩
    · rw [increment_bdf hfits hL, if_neg (Nat.lt_irrefl 7), if_pos (by change dev < 31; omega)]
    · exact Or.inr (Or.inl (Nat.succ_ne_zero dev))

/-- All functions form a chain if the last function of each bus leads to the first one of the next, and
that of each region to the next region. -/
theorem fns_chain_iff (hfits : ∀ b ∈ t.block, b.segmentNum.toNat < 256 ∧ b.endBusNum.toNat < 256) :
    t.fns.IsChain (Follows t) ↔
      (∀ b ∈ t.block, ∀ i < b.endBusNum.toNat - b.startBusNum.toNat,
        Follows t ⟨b.segmentNum.toNat, b.startBusNum.toNat + i, 31, 7⟩
          ⟨b.segmentNum.toNat, b.startBusNum.toNat + i + 1, 0, 0⟩) ∧
      t.block.IsChain fun b c => Follows t b.lastFn c.firstFn := by
  rw [PcieInfoTable.fns, isChain_flatMap_iff _ _ block_fns_head block_fns_last]
  refine and_congr_left' (forall₂_congr fun b hb => ?_)
  have hle := b.start_le
  have hbfits := hfits b hb
  obtain ⟨i, hi, rfl⟩ := List.mem_iff_getElem.mp hb
  obtain ⟨L, hL, -⟩ := exists_isLast hi
  rw [PcieInfoBlock.fns, isChain_flatMap_iff _ _ (fun j => busFns_head _ _) (fun j => busFns_last _ _),
    List.isChain_range_succ]
  refine and_iff_right fun j hj => ?_
  have hj' := List.mem_range.mp hj
  exact busFns_chain hbfits.1 (by omega) (by rw [UInt32.ofNat_toNat]; exact hL)

/-- Where the last function of a bus leads. -/
theorem increment_end_of_bus {seg : UInt32} {bus L : ℕ} (hseg : seg.toNat < 256) (hbus : bus < 256)
    (hL : IsLast t seg L) :
    valPcieIncrementBdf t (BdfFn.bdf ⟨seg.toNat, bus, 31, 7⟩) =
      if bus < valPcieGetInfo t .endBus L then BdfFn.bdf ⟨seg.toNat, bus + 1, 0, 0⟩
      else if h : L + 1 < t.block.length then t.block[L + 1].firstFn.bdf
      else 0 := by
  have hfits : BdfFn.Fits ⟨seg.toNat, bus, 31, 7⟩ :=
    ⟨hseg, hbus, Nat.lt_succ_self 31, Nat.lt_succ_self 7⟩
  rw [increment_bdf hfits (by rw [UInt32.ofNat_toNat]; exact hL), if_neg (Nat.lt_irrefl 7),
    if_neg (Nat.lt_irrefl 31)]

/-! ## 8. Regions in order -/

/-- Of two regions of a segment the later one has the later buses. -/
theorem PcieInfoTable.InOrder.end_lt (h : t.InOrder) {i k : ℕ} (hik : i < k)
    (hk : k < t.block.length) (hseg : t.block[i].segmentNum = t.block[k].segmentNum) :
    t.block[i].endBusNum.toNat < t.block[k].endBusNum.toNat := by
  induction hd : k - i generalizing i with
  | zero => omega
  | succ d ih =>
    obtain ⟨hsame, hstart⟩ := h.continues i k hik hk hseg
    have hle := t.block[i + 1].start_le
    have hik' : i + 1 ≤ k := hik
    rcases Nat.lt_or_eq_of_le hik' with hlt | heq
    · have hrest := ih hlt (hsame.trans hseg) (by omega)
      omega
    · simp only [← heq]
      omega

/-- In order, the iteration goes from bus to bus of one region. -/
theorem PcieInfoTable.InOrder.bus_follows (h : t.InOrder) {b : PcieInfoBlock} (hb : b ∈ t.block)
    {j : ℕ} (hj : j < b.endBusNum.toNat - b.startBusNum.toNat) :
    Follows t ⟨b.segmentNum.toNat, b.startBusNum.toNat + j, 31, 7⟩
      ⟨b.segmentNum.toNat, b.startBusNum.toNat + j + 1, 0, 0⟩ := by
  obtain ⟨i, hi, rfl⟩ := List.mem_iff_getElem.mp hb
  obtain ⟨L, hL, hiL⟩ := exists_isLast hi
  obtain ⟨hsegfit, hbusfit⟩ := h.fits _ hb
  have hle : t.block[i].endBusNum.toNat ≤ valPcieGetInfo t .endBus L := by
    rw [endBus_eq hL.lt]
    rcases Nat.lt_or_eq_of_le hiL with hlt | rfl
    · exact Nat.le_of_lt (h.end_lt hlt hL.lt hL.seg_eq.symm)
    · exact Nat.le_refl _
  refine ⟨?_, bdf_ne_zero ⟨hsegfit, ?_, Nat.succ_pos 31, Nat.succ_pos 7⟩ (Or.inl (Nat.succ_ne_zero _))⟩
  · rw [increment_end_of_bus hsegfit (by omega) hL, if_pos (by omega)]
  · change t.block[i].startBusNum.toNat + j + 1 < 256
    omega

/-- In order, it goes from region to region. -/
theorem PcieInfoTable.InOrder.region_follows (h : t.InOrder) {i : ℕ} (hi : i + 1 < t.block.length) :
    Follows t t.block[i].lastFn t.block[i + 1].firstFn := by
  have hi' : i < t.block.length := Nat.lt_of_succ_lt hi
  obtain ⟨L, hL, hiL⟩ := exists_isLast hi'
  obtain ⟨hsegfit, hbusfit⟩ := h.fits _ (List.getElem_mem hi')
  have hfirst := firstFn_fits (h.fits _ (List.getElem_mem hi))
  rcases Nat.lt_or_eq_of_le hiL with hlt | rfl
  · obtain ⟨hsame, hstart⟩ := h.continues i L hlt hL.lt hL.seg_eq.symm
    have hnext : t.block[i + 1].firstFn
        = ⟨t.block[i].segmentNum.toNat, t.block[i].endBusNum.toNat + 1, 0, 0⟩ := by
      rw [PcieInfoBlock.firstFn, hsame, hstart]
    refine ⟨?_, bdf_ne_zero hfirst (Or.inl (by rw [hnext]; exact Nat.succ_ne_zero _))⟩
    rw [PcieInfoBlock.lastFn, increment_end_of_bus hsegfit hbusfit hL,
      if_pos (by rw [endBus_eq hL.lt]; exact h.end_lt hlt hL.lt hL.seg_eq.symm), hnext]
  · refine ⟨?_, fun h0 => ?_⟩
    · rw [PcieInfoBlock.lastFn, increment_end_of_bus hsegfit hbusfit hL,
        if_neg (by rw [endBus_eq hL.lt]; exact Nat.lt_irrefl _), dif_pos hi]
    · have htoNat := hfirst.bdf_toNat
      rw [h0] at htoNat
      change 0 = t.block[i + 1].segmentNum.toNat * 65536 + t.block[i + 1].startBusNum.toNat * 256
        + 0 * 8 + 0 at htoNat
      refine h.not_zero t.block[i + 1] ?_ ⟨UInt32.toNat_inj.mp ?_, UInt32.toNat_inj.mp ?_⟩
      · rw [← List.getElem_tail (l := t.block) (i := i) (h := by rw [List.length_tail]; omega)]
        exact List.getElem_mem _
      · change _ = 0
        omega
      · change _ = 0
        omega

/-- In order, it stops behind the last region. -/
theorem PcieInfoTable.InOrder.increment_last (h : t.InOrder) :
    valPcieIncrementBdf t (t.block.getLast t.nonempty).lastFn.bdf = 0 := by
  rw [List.getLast_eq_getElem]
  have hlen := List.length_pos_iff.mpr t.nonempty
  have hi : t.block.length - 1 < t.block.length := by omega
  obtain ⟨L, hL, hiL⟩ := exists_isLast hi
  obtain ⟨hsegfit, hbusfit⟩ := h.fits _ (List.getElem_mem hi)
  obtain rfl : L = t.block.length - 1 := by
    have hlt := hL.lt
    omega
  rw [PcieInfoBlock.lastFn, increment_end_of_bus hsegfit hbusfit hL,
    if_neg (by rw [endBus_eq hL.lt]; exact Nat.lt_irrefl _), dif_neg (by omega)]

theorem PcieInfoTable.InOrder.complete (h : t.InOrder) : t.Complete := by
  rw [complete_iff_chain]
  refine ⟨(fns_fit_iff t).mpr h.fits, (fns_chain_iff h.fits).mpr ⟨?_, ?_⟩, h.increment_last⟩
  · exact fun b hb j hj => h.bus_follows hb hj
  · rw [List.isChain_iff_getElem]
    exact fun i hi => h.region_follows hi

/-- The step behind the last bus of a region, where the segment comes once more. -/
theorem continues_of_follows
    (hfits : ∀ b ∈ t.block, b.segmentNum.toNat < 256 ∧ b.endBusNum.toNat < 256) {i k : ℕ}
    (hik : i < k) (hk : k < t.block.length) (hseg : t.block[i].segmentNum = t.block[k].segmentNum)
    (hfollows : Follows t t.block[i].lastFn t.block[i + 1].firstFn) :
    t.block[i + 1].segmentNum = t.block[i].segmentNum ∧
      t.block[i + 1].startBusNum.toNat = t.block[i].endBusNum.toNat + 1 := by
  have hi : i < t.block.length := Nat.lt_trans hik hk
  obtain ⟨hinc, hne⟩ := hfollows
  obtain ⟨L, hL, -⟩ := exists_isLast hi
  have hiL : i + 1 ≤ L := Nat.le_trans hik (hL.last k hk hseg.symm)
  obtain ⟨hsegfit, hbusfit⟩ := hfits _ (List.getElem_mem hi)
  have hendfit := (hfits _ (List.getElem_mem hL.lt)).2
  have hi1 : i + 1 < t.block.length := Nat.lt_of_le_of_lt hik hk
  have hfirst := firstFn_fits (hfits _ (List.getElem_mem hi1))
  rw [PcieInfoBlock.lastFn, increment_end_of_bus hsegfit hbusfit hL, endBus_eq hL.lt] at hinc
  split at hinc
  · next hlt =>
    have hfit : BdfFn.Fits ⟨t.block[i].segmentNum.toNat, t.block[i].endBusNum.toNat + 1, 0, 0⟩ :=
      ⟨hsegfit, by change _ + 1 < 256; omega, Nat.succ_pos 31, Nat.succ_pos 7⟩
    have heq := congrArg bdfFields hinc
    rw [hfit.bdfFields_bdf, hfirst.bdfFields_bdf] at heq
    obtain ⟨hs, hb, -⟩ := BdfFn.mk.inj heq
    exact ⟨UInt32.toNat_inj.mp hs.symm, hb.symm⟩
  · split at hinc
    · -- the region behind the last one of the segment would start where region `i + 1` does
      next h =>
      have hbeyond := firstFn_fits (hfits _ (List.getElem_mem h))
      have heq := congrArg bdfFields hinc
      rw [hbeyond.bdfFields_bdf, hfirst.bdfFields_bdf] at heq
      obtain ⟨hs, hb, -⟩ := BdfFn.mk.inj heq
      have hdis := List.pairwise_iff_getElem.mp t.disjoint (i + 1) (L + 1) (by omega) h (by omega)
      have hle := t.block[i + 1].start_le
      have hle' := t.block[L + 1].start_le
      rcases hdis (UInt32.toNat_inj.mp hs.symm) with hlt | hlt
      · have hlt' := UInt32.lt_iff_toNat_lt.mp hlt
        omega
      · have hlt' := UInt32.lt_iff_toNat_lt.mp hlt
        omega
    · exact absurd hinc.symm hne

theorem PcieInfoTable.Complete.inOrder (h : t.Complete) : t.InOrder := by
  obtain ⟨hfns, hchain, -⟩ := complete_iff_chain.mp h
  have hfits := (fns_fit_iff t).mp hfns
  have hregions := List.isChain_iff_getElem.mp ((fns_chain_iff hfits).mp hchain).2
  refine ⟨hfits, ?_, ?_⟩
  · intro i k hik hk hseg
    exact continues_of_follows hfits hik hk hseg (hregions i (Nat.lt_of_le_of_lt hik hk))
  · rintro b hb ⟨hs, hstart⟩
    obtain ⟨i, hi, rfl⟩ := List.mem_iff_getElem.mp hb
    rw [List.length_tail] at hi
    rw [List.getElem_tail] at hs hstart
    refine (hregions i (by omega)).2 ?_
    rw [PcieInfoBlock.firstFn, hs, hstart]
    decide

end Complete

/-- **BDF iteration**: it is complete exactly for the tables whose regions are in order. -/
theorem bdf_iteration_complete_iff (t : PcieInfoTable) : t.Complete ↔ t.InOrder :=
  ⟨PcieInfoTable.Complete.inOrder, PcieInfoTable.InOrder.complete⟩

/-- Two regions of segment 0, bus 0 and bus 2. -/
def twoRegions : PcieInfoTable where
  block := [⟨0x40000000, 0, 0, 0, by decide⟩, ⟨0x50000000, 0, 2, 2, by decide⟩]
  disjoint := by
    refine List.pairwise_pair.mpr fun _ => ?_
    decide
  nonempty := by decide

/-- Behind bus 0 comes bus 1, which no region has. -/
theorem bdf_iteration_leaves_regions :
    valPcieIncrementBdf twoRegions 0xFF = 0x100 ∧ ¬ twoRegions.Complete := by
  refine ⟨by decide, fun h => ?_⟩
  have hnext := (h.inOrder.continues 0 1 (by decide) (by decide) rfl).2
  exact absurd hnext (by decide)

end RmmAcs.Pcie
