/-
# The host heap: `val_host_alloc.c`

The host side of the suite has one heap, a bump pointer between `heap_base` and `heap_top`,
and two ways into it.  `mem_alloc` rounds the pointer up and takes exactly what it is asked
for; `val_host_mem_alloc` checks its arguments and asks `mem_alloc` for `alignment - 1` bytes
MORE than the caller wanted.  The granule tracker allocates its list nodes through the first,
everything else goes through the second, and nothing is ever given back.

The question of this file is what the two paths promise TOGETHER.  A page that is delegated
to the Realm world must not carry any other host data with it, so a page-aligned block has to
own every page it touches.  The padding `val_host_mem_alloc` adds at the END of a block is
what makes this true: the bump pointer moves at least `alignment - 1` bytes past the block,
hence past the end of its last page, whatever the next request is.
-/
import RmmAcs.Lib.Align

namespace RmmAcs

open Lib

/-! ## 1. The allocator -/

/-- `PLATFORM_HEAP_REGION_BASE` of the FVP target: image base, image size, shared region. -/
def platformHeapRegionBase : UInt64 := 0x88000000 + 0x400000 + 0x100000

/-- `PLATFORM_HEAP_REGION_SIZE`: the memory pool less the shared region. -/
def platformHeapRegionSize : UInt64 := 50 * 0x100000 - 0x100000

/-- `PAGE_SIZE`. -/
def pageSize : UInt64 := 0x1000

/-- The two file-level variables of the allocator. -/
structure HeapState where
  heapBase : UInt64
  heapTop : UInt64
deriving DecidableEq, Repr

/-- `ADDR_ALIGN(a, b)`. -/
def addrAlign (a b : UInt64) : UInt64 := (a + (b - 1)) &&& ~~~(b - 1)

/-- `mem_alloc`.  `0` is `NULL`. -/
def memAlloc (alignment size : UInt64) (h : HeapState) : UInt64 × HeapState :=
  let addr := addrAlign h.heapBase alignment
  let size := size + (addr - h.heapBase)
  if h.heapTop - h.heapBase < size then (0, h)
  else (addr, { h with heapBase := h.heapBase + size })

/-- `val_host_mem_alloc_init`. -/
def valHostMemAllocInit : HeapState where
  heapBase := platformHeapRegionBase
  heapTop := platformHeapRegionBase + platformHeapRegionSize

/-- `val_is_power_of_2`, on the 32 bits its argument is cut to. -/
def valIsPowerOf2 (n : UInt32) : Bool := n != 0 && (n &&& (n - 1)) == 0

/-- `val_host_mem_alloc`. -/
def valHostMemAlloc (alignment size : UInt64) (h : HeapState) : UInt64 × HeapState :=
  if size ≤ 0 then (0, h)
  else if !valIsPowerOf2 alignment.toUInt32 then (0, h)
  else memAlloc alignment (size + (alignment - 1)) h

/-! ## 2. What one allocation does -/

/-- A heap whose pointer has not passed its top, with enough address space above the top that
rounding by an alignment below `room` cannot wrap. -/
structure HeapState.Ok (room : ℕ) (h : HeapState) : Prop where
  base_le_top : h.heapBase.toNat ≤ h.heapTop.toNat
  top_room : h.heapTop.toNat + room < 2 ^ 64

/-- `MemAllocOk alignment size h addr h'`: the request returned `addr`, the rounded-up bump
pointer, and moved the pointer to the end of the block, inside the heap. -/
structure MemAllocOk (alignment size : UInt64) (h : HeapState) (addr : UInt64) (h' : HeapState) :
    Prop where
  addr_eq : addr.toNat = alignUp h.heapBase.toNat alignment.toNat
  base_eq : h'.heapBase.toNat = addr.toNat + size.toNat
  base_le : h'.heapBase.toNat ≤ h.heapTop.toNat
  top_eq : h'.heapTop = h.heapTop

/-- **`mem_alloc` in integers.**  A request is either refused, and then the heap is untouched,
or served as `MemAllocOk` says. -/
theorem memAlloc_cases {room k : ℕ} {alignment size : UInt64} {h : HeapState}
    (hok : h.Ok room) (hal : alignment.toNat = 2 ^ k)
    (hroom : alignment.toNat + size.toNat ≤ room) :
    memAlloc alignment size h = (0, h) ∨
      MemAllocOk alignment size h (memAlloc alignment size h).1 (memAlloc alignment size h).2 := by
  obtain ⟨hbt, htr⟩ := hok
  have hpos : 0 < alignment.toNat := by rw [hal]; exact Nat.two_pow_pos k
  have haddr : (addrAlign h.heapBase alignment).toNat
      = alignUp h.heapBase.toNat alignment.toNat :=
    toNat_mask_eq_alignUp hal (by omega)
  have hge := le_alignUp (a := h.heapBase.toNat) hpos
  have hle := alignUp_le h.heapBase.toNat alignment.toNat
  have hpad : (addrAlign h.heapBase alignment - h.heapBase).toNat
      = alignUp h.heapBase.toNat alignment.toNat - h.heapBase.toNat := by
    rw [UInt64.toNat_sub_of_le _ _ (by rw [UInt64.le_iff_toNat_le, haddr]; exact hge), haddr]
  have hsize : (size + (addrAlign h.heapBase alignment - h.heapBase)).toNat
      = size.toNat + (alignUp h.heapBase.toNat alignment.toNat - h.heapBase.toNat) := by
    rw [UInt64.toNat_add, hpad, Nat.mod_eq_of_lt (by omega)]
  have hfree : (h.heapTop - h.heapBase).toNat = h.heapTop.toNat - h.heapBase.toNat :=
    UInt64.toNat_sub_of_le _ _ (by rw [UInt64.le_iff_toNat_le]; exact hbt)
  unfold memAlloc
  dsimp only
  split
  · exact Or.inl rfl
  · rename_i hfit
    rw [UInt64.lt_iff_toNat_lt, hfree, hsize] at hfit
    have hnew : (h.heapBase + (size + (addrAlign h.heapBase alignment - h.heapBase))).toNat
        = h.heapBase.toNat
          + (size.toNat + (alignUp h.heapBase.toNat alignment.toNat - h.heapBase.toNat)) := by
      rw [UInt64.toNat_add, hsize, Nat.mod_eq_of_lt (by omega)]
    refine Or.inr ⟨haddr, ?_, ?_, rfl⟩
    · rw [hnew, haddr]
      omega
    · rw [hnew]
      omega

/-- `val_host_mem_alloc` refuses, or passes the padded request on to `mem_alloc`. -/
theorem valHostMemAlloc_cases (alignment size : UInt64) (h : HeapState) :
    valHostMemAlloc alignment size h = (0, h) ∨
      valHostMemAlloc alignment size h = memAlloc alignment (size + (alignment - 1)) h := by
  unfold valHostMemAlloc
  split
  · exact Or.inl rfl
  · split
    · exact Or.inl rfl
    · exact Or.inr rfl

/-! ## 3. Sequences of requests -/

/-- `sizeof(val_host_granule_ts)`: what the tracker asks for, as size and as alignment. -/
def sizeofGranule : UInt64 := 64

/-- A request on the heap: a host allocation, or a node of the granule tracker. -/
inductive AllocReq where
  | host (alignment size : UInt64)
  | node
deriving DecidableEq, Repr

/-- A block that was handed out, with the alignment and the size it was asked for. -/
structure Block where
  addr : UInt64
  size : UInt64
  alignment : UInt64
deriving DecidableEq, Repr

/-- The bytes of a block, as integers. -/
def Block.bytes (b : Block) : Set ℕ := {x | b.addr.toNat ≤ x ∧ x < b.addr.toNat + b.size.toNat}

/-- One request: the block, if there was one, and the heap after it. -/
def AllocReq.exec : AllocReq → HeapState → Option Block × HeapState
  | .host alignment size, h =>
    let r := valHostMemAlloc alignment size h
    (if r.1 = 0 then none else some ⟨r.1, size, alignment⟩, r.2)
  | .node, h =>
    let r := memAlloc sizeofGranule sizeofGranule h
    (if r.1 = 0 then none else some ⟨r.1, sizeofGranule, sizeofGranule⟩, r.2)

/-- The blocks handed out by a sequence of requests, in order, and the heap at its end. -/
def allocRun : List AllocReq → HeapState → List Block × HeapState
  | [], h => ([], h)
  | q :: qs, h =>
    let r := q.exec h
    let rest := allocRun qs r.2
    (r.1.toList ++ rest.1, rest.2)

/-- The requests the suite makes: a power-of-two alignment, and neither argument larger than
the whole heap.  A tracker node always qualifies. -/
def AllocReq.Fits : AllocReq → Prop
  | .host alignment size =>
    (∃ k, alignment.toNat = 2 ^ k) ∧ alignment ≤ platformHeapRegionSize ∧
      size ≤ platformHeapRegionSize
  | .node => True

/-- Two blocks share no byte, and if either was requested with page alignment they do not even
meet in a page. -/
def Separated (b c : Block) : Prop :=
  (∀ x ∈ b.bytes, x ∉ c.bytes) ∧
    (pageSize ≤ b.alignment ∨ pageSize ≤ c.alignment →
      ∀ x ∈ b.bytes, ∀ y ∈ c.bytes, x / pageSize.toNat ≠ y / pageSize.toNat)

/-- `b` ends below `n`; a page-aligned `b` is even at least `pageSize - 1` bytes below it. -/
def Block.EndsBelow (b : Block) (n : ℕ) : Prop :=
  b.addr.toNat + b.size.toNat ≤ n ∧
    (pageSize ≤ b.alignment → b.addr.toNat + b.size.toNat + (pageSize.toNat - 1) ≤ n)

/-- What holds of a block the moment it is handed out. -/
structure Block.Placed (b : Block) (h h' : HeapState) : Prop where
  pow : ∃ k, b.alignment.toNat = 2 ^ k
  dvd : b.alignment.toNat ∣ b.addr.toNat
  lower : h.heapBase.toNat ≤ b.addr.toNat
  below : b.EndsBelow h'.heapBase.toNat
  top : b.addr.toNat + b.size.toNat ≤ h.heapTop.toNat

/-- **Order separates.**  A block that ends below `n` is separated from any aligned block that
starts at `n` or later.  If it is the FIRST block that is page-aligned, its padding keeps the
second out of its last page; if it is the SECOND, its start is a page boundary. -/
theorem separated_of_endsBelow {b c : Block} {n : ℕ} (hb : b.EndsBelow n)
    (hn : n ≤ c.addr.toNat) (hpow : ∃ k, c.alignment.toNat = 2 ^ k)
    (hdvd : c.alignment.toNat ∣ c.addr.toNat) : Separated b c := by
  obtain ⟨hend, hpage⟩ := hb
  refine ⟨?_, ?_⟩
  · rintro x ⟨-, hx⟩ ⟨hx', -⟩
    omega
  · rintro hor x ⟨-, hx⟩ y ⟨hy, -⟩ heq
    have hps : pageSize.toNat = 4096 := rfl
    rw [hps] at heq hpage
    rcases hor with hl | hr
    · have := hpage hl
      omega
    · obtain ⟨k, hk⟩ := hpow
      rw [UInt64.le_iff_toNat_le, hps, hk] at hr
      have hk12 : 12 ≤ k := (Nat.pow_le_pow_iff_right (by omega : 1 < 2)).mp hr
      have hpd : 4096 ∣ c.addr.toNat := by
        rw [hk] at hdvd
        exact (Nat.pow_dvd_pow 2 hk12).trans hdvd
      omega

/-! ## 4. The invariant of a run -/

theorem heapSize_toNat : platformHeapRegionSize.toNat = 51380224 := rfl

/-- The address space left above the heap covers every request that fits. -/
theorem initHeap_ok : valHostMemAllocInit.Ok (2 ^ 32) := ⟨by decide, by decide⟩

/-- A served request keeps the heap well formed and only moves the pointer up. -/
theorem MemAllocOk.heap_ok {room k : ℕ} {alignment size addr : UInt64} {h h' : HeapState}
    (hm : MemAllocOk alignment size h addr h') (hok : h.Ok room)
    (hal : alignment.toNat = 2 ^ k) :
    h'.Ok room ∧ h'.heapTop = h.heapTop ∧ h.heapBase.toNat ≤ h'.heapBase.toNat := by
  have hpos : 0 < alignment.toNat := by rw [hal]; exact Nat.two_pow_pos k
  have hge := le_alignUp (a := h.heapBase.toNat) hpos
  have h1 := hm.addr_eq
  have h2 := hm.base_eq
  exact ⟨⟨by rw [hm.top_eq]; exact hm.base_le, by rw [hm.top_eq]; exact hok.top_room⟩,
    hm.top_eq, by omega⟩

/-- A served request of `size` bytes, of which the block uses `used`, places the block; the
rest is the padding a page-aligned block needs. -/
theorem MemAllocOk.placed {k : ℕ} {alignment size used addr : UInt64} {h h' : HeapState}
    (hm : MemAllocOk alignment size h addr h') (hal : alignment.toNat = 2 ^ k)
    (hused : used.toNat ≤ size.toNat)
    (hpad : pageSize ≤ alignment → used.toNat + (pageSize.toNat - 1) ≤ size.toNat) :
    Block.Placed ⟨addr, used, alignment⟩ h h' := by
  have hpos : 0 < alignment.toNat := by rw [hal]; exact Nat.two_pow_pos k
  have hge := le_alignUp (a := h.heapBase.toNat) hpos
  have h1 := hm.addr_eq
  have h2 := hm.base_eq
  have h3 := hm.base_le
  refine ⟨⟨k, hal⟩, ?_, ?_, ⟨?_, ?_⟩, ?_⟩
  · show alignment.toNat ∣ addr.toNat
    rw [h1]
    exact dvd_alignUp _ _
  · show h.heapBase.toNat ≤ addr.toNat
    omega
  · show addr.toNat + used.toNat ≤ _
    omega
  · intro hp
    have := hpad hp
    show addr.toNat + used.toNat + (pageSize.toNat - 1) ≤ _
    omega
  · show addr.toNat + used.toNat ≤ _
    omega

/-- **One request.**  A block that is handed out is placed between the old and the new bump
pointer; the pointer never moves down and the heap stays well formed. -/
theorem AllocReq.exec_spec {q : AllocReq} {h : HeapState} (hok : h.Ok (2 ^ 32)) (hq : q.Fits) :
    ((q.exec h).2.Ok (2 ^ 32) ∧ (q.exec h).2.heapTop = h.heapTop ∧
      h.heapBase.toNat ≤ (q.exec h).2.heapBase.toNat) ∧
      ∀ b, (q.exec h).1 = some b → b.Placed h (q.exec h).2 := by
  cases q with
  | host alignment size =>
    obtain ⟨⟨k, hk⟩, hal, hsz⟩ := hq
    rw [UInt64.le_iff_toNat_le, heapSize_toNat] at hal hsz
    have hpos : 0 < alignment.toNat := by rw [hk]; exact Nat.two_pow_pos k
    have hpred : (alignment - 1).toNat = alignment.toNat - 1 :=
      UInt64.toNat_sub_of_le _ _ (by rw [UInt64.le_iff_toNat_le]; exact hpos)
    have hsum : (size + (alignment - 1)).toNat = size.toNat + (alignment.toNat - 1) := by
      rw [UInt64.toNat_add, hpred, Nat.mod_eq_of_lt (by omega)]
    simp only [AllocReq.exec]
    rcases valHostMemAlloc_cases alignment size h with hr | hr
    · rw [hr]
      exact ⟨⟨hok, rfl, le_refl _⟩, fun b hb => by simp at hb⟩
    · rw [hr]
      rcases memAlloc_cases hok hk (by rw [hsum]; omega) with hm | hm
      · rw [hm]
        exact ⟨⟨hok, rfl, le_refl _⟩, fun b hb => by simp at hb⟩
      · refine ⟨hm.heap_ok hok hk, fun b hb => ?_⟩
        split at hb
        · exact absurd hb (by simp)
        · rw [← Option.some.inj hb]
          refine hm.placed hk (by rw [hsum]; omega) fun hp => ?_
          rw [UInt64.le_iff_toNat_le] at hp
          rw [hsum]
          omega
  | node =>
    have hk : sizeofGranule.toNat = 2 ^ 6 := rfl
    have hroom : sizeofGranule.toNat + sizeofGranule.toNat ≤ 2 ^ 32 := by decide
    simp only [AllocReq.exec]
    rcases memAlloc_cases hok hk hroom with hm | hm
    · rw [hm]
      exact ⟨⟨hok, rfl, le_refl _⟩, fun b hb => by simp at hb⟩
    · refine ⟨hm.heap_ok hok hk, fun b hb => ?_⟩
      split at hb
      · exact absurd hb (by simp)
      · rw [← Option.some.inj hb]
        exact hm.placed hk (le_refl _) fun hp => absurd hp (by decide)

/-- **A run of requests**, from any well-formed heap: every block is aligned, lies between the
bump pointer the run started with and the top, and later blocks are separated from earlier
ones.  The induction peels the FIRST request off: it ends below the pointer at which all the
others start. -/
theorem allocRun_spec : ∀ (qs : List AllocReq) (h : HeapState), h.Ok (2 ^ 32) →
    (∀ q ∈ qs, q.Fits) →
    (∀ b ∈ (allocRun qs h).1, (∃ k, b.alignment.toNat = 2 ^ k) ∧
        b.alignment.toNat ∣ b.addr.toNat ∧ h.heapBase.toNat ≤ b.addr.toNat ∧
        b.addr.toNat + b.size.toNat ≤ h.heapTop.toNat) ∧
      (allocRun qs h).1.Pairwise Separated
  | [], h, _, _ => by simp [allocRun]
  | q :: qs, h, hok, hq => by
    obtain ⟨⟨hok', htop, hmono⟩, hplaced⟩ := AllocReq.exec_spec hok (hq q List.mem_cons_self)
    obtain ⟨hin, hsep⟩ :=
      allocRun_spec qs (q.exec h).2 hok' fun r hr => hq r (List.mem_cons_of_mem _ hr)
    have hin' : ∀ b ∈ (allocRun qs (q.exec h).2).1, (∃ k, b.alignment.toNat = 2 ^ k) ∧
        b.alignment.toNat ∣ b.addr.toNat ∧ h.heapBase.toNat ≤ b.addr.toNat ∧
        b.addr.toNat + b.size.toNat ≤ h.heapTop.toNat := by
      intro b hb
      obtain ⟨hp, hd, hl, hu⟩ := hin b hb
      exact ⟨hp, hd, hmono.trans hl, htop ▸ hu⟩
    simp only [allocRun]
    cases hr : (q.exec h).1 with
    | none => exact ⟨hin', hsep⟩
    | some b =>
      have hb := hplaced b hr
      refine ⟨?_, ?_⟩
      · intro c hc
        rcases List.mem_cons.mp hc with rfl | hc
        · exact ⟨hb.pow, hb.dvd, hb.lower, hb.top⟩
        · exact hin' c hc
      · refine List.pairwise_cons.mpr ⟨fun c hc => ?_, hsep⟩
        obtain ⟨hp, hd, hl, -⟩ := hin c hc
        exact separated_of_endsBelow hb.below hl hp hd

/-! ## 5. Heap separation -/

/-- **Heap separation.**  Take any sequence of host allocations with power-of-two alignments,
interleaved in any order with node allocations of the granule tracker, on the freshly
initialised heap.  Every block that is handed out is aligned and inside the heap region, no
two blocks share a byte, and no page touched by a block requested with page alignment (or
more) holds a byte of any other block or node. -/
theorem heap_blocks_separated (qs : List AllocReq) (hq : ∀ q ∈ qs, q.Fits) :
    (∀ b ∈ (allocRun qs valHostMemAllocInit).1,
        b.alignment.toNat ∣ b.addr.toNat ∧
        platformHeapRegionBase.toNat ≤ b.addr.toNat ∧
        b.addr.toNat + b.size.toNat
          ≤ platformHeapRegionBase.toNat + platformHeapRegionSize.toNat) ∧
      (allocRun qs valHostMemAllocInit).1.Pairwise Separated := by
  obtain ⟨hin, hsep⟩ := allocRun_spec qs valHostMemAllocInit initHeap_ok hq
  refine ⟨fun b hb => ?_, hsep⟩
  obtain ⟨-, hd, hl, hu⟩ := hin b hb
  exact ⟨hd, hl, hu⟩

/-- Two tracker nodes, a page, an odd byte-aligned buffer, another page: all five are served,
and separated. -/
theorem heap_blocks_separated_mixed :
    (allocRun [.node, .host 4096 100, .host 1 3, .node, .host 4096 4096]
        valHostMemAllocInit).1.length = 5 ∧
      (allocRun [.node, .host 4096 100, .host 1 3, .node, .host 4096 4096]
        valHostMemAllocInit).1.Pairwise Separated := by
  refine ⟨by decide, (heap_blocks_separated _ ?_).2⟩
  intro q hq
  simp only [List.mem_cons, List.not_mem_nil, or_false] at hq
  rcases hq with rfl | rfl | rfl | rfl | rfl
  · trivial
  · exact ⟨⟨12, by decide⟩, by decide, by decide⟩
  · exact ⟨⟨0, by decide⟩, by decide, by decide⟩
  · trivial
  · exact ⟨⟨12, by decide⟩, by decide, by decide⟩

end RmmAcs
