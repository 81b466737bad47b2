/-
# The limits of the heap

`val_host_mem_alloc` should report that the heap is exhausted, whatever it is asked for.  What it
compares is a sum: the size, `alignment - 1`, and the padding up to the next aligned address,
against `heap_top - heap_base`.  All of these are 64-bit values and none of the additions is
checked, so a request near the end of the address space wraps around to a small one and is SERVED.
The test for a power of two looks at 32 bits of the alignment only, and `val_buffer_alloc_calloc`
multiplies before it asks.

Requests of this kind are not far-fetched: the length of a SESSION_SEND comes out of a register of
the Realm.  `exhaustion_reported_iff` says for which requests, on which heaps, the report is right.
-/
import RmmAcs.Alloc

namespace RmmAcs

open Lib

/-! ## 1. What a caller relies on -/

/-- `val_buffer_alloc_calloc`. -/
def valBufferAllocCalloc (n size : UInt64) (h : HeapState) : UInt64 × HeapState :=
  valHostMemAlloc pageSize (n * size) h

/-- An aligned block of so many bytes fits between `heap_base` and `heap_top`. -/
def HeapState.HasRoom (alignment size : ℕ) (h : HeapState) : Prop :=
  ∃ a, alignment ∣ a ∧ h.heapBase.toNat ≤ a ∧ a + size ≤ h.heapTop.toNat

/-- **Exhaustion is reported.**  Only a request that is in order and fits is served, and one that is
not served leaves the heap as it was. -/
structure ReportsExhaustion (alignment size : UInt64) (h : HeapState) : Prop where
  served : (valHostMemAlloc alignment size h).1 ≠ 0 →
    (∃ k, alignment.toNat = 2 ^ k) ∧ size ≠ 0 ∧ h.HasRoom alignment.toNat size.toNat
  refused : (valHostMemAlloc alignment size h).1 = 0 →
    (valHostMemAlloc alignment size h).2.heapBase = h.heapBase

/-- A block of `val_buffer_alloc_calloc` has `n * size` bytes, as integers, and lies in the heap. -/
def SpansProduct (n size : UInt64) (h : HeapState) : Prop :=
  (valBufferAllocCalloc n size h).1 ≠ 0 →
    h.heapBase.toNat ≤ (valBufferAllocCalloc n size h).1.toNat ∧
      (valBufferAllocCalloc n size h).1.toNat + n.toNat * size.toNat ≤ h.heapTop.toNat

/-! ## 2. The checks -/

/-- What `mem_alloc` compares with the free space, as it computes it. -/
def neededSpace (alignment size : UInt64) (h : HeapState) : UInt64 :=
  size + (alignment - 1) + (addrAlign h.heapBase alignment - h.heapBase)

/-- The request passes the checks. -/
def PassesChecks (alignment size : UInt64) (h : HeapState) : Prop :=
  size ≠ 0 ∧ valIsPowerOf2 alignment.toUInt32 = true ∧
    neededSpace alignment size h ≤ h.heapTop - h.heapBase

/-- Nothing wraps around: the alignment has 32 bits, the heap does not begin at `NULL` and has its
top above its base, rounding up stays in the address space, and so does the sum -- or the block fits
although the sum, which asks for more than the block, does not. -/
structure NothingWraps (alignment size : UInt64) (h : HeapState) : Prop where
  alignment_lt : alignment.toNat < 2 ^ 32
  base_pos : 0 < h.heapBase.toNat
  base_le : h.heapBase.toNat ≤ h.heapTop.toNat
  round : h.heapBase.toNat + (alignment.toNat - 1) < 2 ^ 64
  total : size.toNat + (alignment.toNat - 1)
        + (alignUp h.heapBase.toNat alignment.toNat - h.heapBase.toNat) < 2 ^ 64 ∨
      alignUp h.heapBase.toNat alignment.toNat + size.toNat ≤ h.heapTop.toNat

/-- The two functions in terms of the checks. -/
theorem valHostMemAlloc_of_passes {alignment size : UInt64} {h : HeapState}
    (hpass : PassesChecks alignment size h) :
    valHostMemAlloc alignment size h = (addrAlign h.heapBase alignment,
      { h with heapBase := h.heapBase + neededSpace alignment size h }) := by
  obtain ⟨hsize, hpow, hroom⟩ := hpass
  unfold neededSpace at hroom ⊢
  unfold valHostMemAlloc memAlloc
  have hnz : ¬ size ≤ 0 := by
    rw [UInt64.le_iff_toNat_le]
    intro hle
    exact hsize (UInt64.toNat_inj.mp (Nat.le_zero.mp hle))
  rw [if_neg hnz, hpow, if_neg (by decide)]
  dsimp only
  rw [if_neg (UInt64.not_lt.mpr hroom)]

theorem valHostMemAlloc_of_not_passes {alignment size : UInt64} {h : HeapState}
    (hpass : ¬ PassesChecks alignment size h) : valHostMemAlloc alignment size h = (0, h) := by
  unfold valHostMemAlloc memAlloc
  split
  · rfl
  rename_i hnz
  split
  · rfl
  rename_i hpow
  dsimp only
  split
  · rfl
  rename_i hroom
  refine absurd ⟨?_, by simpa using hpow, UInt64.not_lt.mp hroom⟩ hpass
  rintro rfl
  exact hnz (UInt64.le_refl 0)

/-- The test for a power of two, on 32 bits. -/
theorem valIsPowerOf2_iff {n : UInt32} : valIsPowerOf2 n = true ↔ ∃ k, n.toNat = 2 ^ k := by
  have hne : n ≠ 0 ↔ n.toNat ≠ 0 := not_congr UInt32.toNat_inj.symm
  unfold valIsPowerOf2
  rw [Bool.and_eq_true, bne_iff_ne, beq_iff_eq]
  constructor
  · rintro ⟨hn, hand⟩
    have hpred : (n - 1).toNat = n.toNat - 1 := by
      refine UInt32.toNat_sub_of_le _ _ ?_
      rw [UInt32.le_iff_toNat_le]
      exact Nat.one_le_iff_ne_zero.mpr (hne.mp hn)
    have hnat : n.toNat &&& (n.toNat - 1) = 0 := by
      rw [← hpred, ← UInt32.toNat_and, hand]
      rfl
    exact (Nat.and_sub_one_eq_zero_iff_isPowerOfTwo (hne.mp hn)).mp hnat
  · rintro ⟨k, hk⟩
    have hpos : n.toNat ≠ 0 := by
      rw [hk]
      exact (Nat.two_pow_pos k).ne'
    have hpred : (n - 1).toNat = n.toNat - 1 := by
      refine UInt32.toNat_sub_of_le _ _ ?_
      rw [UInt32.le_iff_toNat_le]
      exact Nat.one_le_iff_ne_zero.mpr hpos
    refine ⟨hne.mpr hpos, UInt32.toNat_inj.mp ?_⟩
    rw [UInt32.toNat_and, hpred]
    exact (Nat.and_sub_one_eq_zero_iff_isPowerOfTwo hpos).mpr ⟨k, hk⟩

/-- An alignment that passes is a power of two, if it has 32 bits. -/
theorem PassesChecks.alignment_pow {alignment size : UInt64} {h : HeapState}
    (hpass : PassesChecks alignment size h) (hlt : alignment.toNat < 2 ^ 32) :
    ∃ k, alignment.toNat = 2 ^ k := by
  obtain ⟨k, hk⟩ := valIsPowerOf2_iff.mp hpass.2.1
  rw [UInt64.toNat_toUInt32, Nat.mod_eq_of_lt hlt] at hk
  exact ⟨k, hk⟩

/-- And a power of two that passes has 32 bits. -/
theorem PassesChecks.alignment_lt {alignment size : UInt64} {h : HeapState}
    (hpass : PassesChecks alignment size h) {k : ℕ} (hk : alignment.toNat = 2 ^ k) :
    alignment.toNat < 2 ^ 32 := by
  obtain ⟨j, hj⟩ := valIsPowerOf2_iff.mp hpass.2.1
  rw [UInt64.toNat_toUInt32, hk] at hj
  by_contra hge
  have hk32 : 32 ≤ k := by
    rw [hk] at hge
    exact (Nat.pow_le_pow_iff_right (by decide : 1 < 2)).mp (not_lt.mp hge)
  rw [Nat.mod_eq_zero_of_dvd (Nat.pow_dvd_pow 2 hk32)] at hj
  exact absurd hj (Nat.two_pow_pos j).ne

/-! ## 3. Rounding up -/

section Round

variable {alignment : UInt64} {h : HeapState} {k : ℕ}

/-- A heap at `NULL`, or one so high that rounding up wraps, has no block to hand out. -/
theorem addrAlign_eq_zero_iff (hk : alignment.toNat = 2 ^ k) :
    addrAlign h.heapBase alignment = 0 ↔
      h.heapBase.toNat = 0 ∨ 2 ^ 64 ≤ h.heapBase.toNat + (alignment.toNat - 1) := by
  have hpos : 0 < alignment.toNat := by
    rw [hk]
    exact Nat.two_pow_pos k
  have hbase := h.heapBase.toNat_lt
  have halign := alignment.toNat_lt
  by_cases hwrap : h.heapBase.toNat + (alignment.toNat - 1) < 2 ^ 64
  · have haddr : (addrAlign h.heapBase alignment).toNat
        = alignUp h.heapBase.toNat alignment.toNat := toNat_mask_eq_alignUp hk hwrap
    have hzero : addrAlign h.heapBase alignment = 0
        ↔ alignUp h.heapBase.toNat alignment.toNat = 0 := by
      rw [← UInt64.toNat_inj, haddr]
      rfl
    rw [hzero]
    constructor
    · intro h0
      have hle := le_alignUp (a := h.heapBase.toNat) hpos
      exact Or.inl (by omega)
    · rintro (h0 | hge)
      · exact Nat.le_zero.mp (alignUp_le_of_dvd hpos h0.le (dvd_zero _))
      · omega
  · refine iff_of_true (UInt64.toNat_inj.mp ?_) (Or.inr (not_lt.mp hwrap))
    -- the sum has wrapped around to less than one unit
    have hsum : (h.heapBase + (alignment - 1)).toNat < 2 ^ k := by
      rw [UInt64.toNat_add, toNat_pred hk, ← hk]
      omega
    unfold addrAlign
    rw [toNat_mask_eq_alignDown _ hk, Nat.div_eq_of_lt hsum, Nat.zero_mul]
    rfl

/-- Otherwise the address is the rounded-up one. -/
theorem addrAlign_toNat (hk : alignment.toNat = 2 ^ k)
    (hne : addrAlign h.heapBase alignment ≠ 0) :
    (addrAlign h.heapBase alignment).toNat = alignUp h.heapBase.toNat alignment.toNat := by
  rw [Ne, addrAlign_eq_zero_iff hk, not_or, not_le] at hne
  exact toNat_mask_eq_alignUp hk hne.2

theorem hasRoom_iff (hpos : 0 < alignment.toNat) {size : ℕ} :
    h.HasRoom alignment.toNat size
      ↔ alignUp h.heapBase.toNat alignment.toNat + size ≤ h.heapTop.toNat := by
  constructor
  · rintro ⟨a, hdvd, hle, hend⟩
    have hleast := alignUp_le_of_dvd hpos hle hdvd
    omega
  · intro hend
    exact ⟨_, dvd_alignUp _ _, le_alignUp hpos, hend⟩

end Round

/-- **If nothing wraps, what passes fits.** -/
theorem NothingWraps.hasRoom {alignment size : UInt64} {h : HeapState}
    (hpass : PassesChecks alignment size h) (hok : NothingWraps alignment size h) :
    alignUp h.heapBase.toNat alignment.toNat + size.toNat ≤ h.heapTop.toNat := by
  obtain ⟨k, hk⟩ := hpass.alignment_pow hok.alignment_lt
  have hpos : 0 < alignment.toNat := by
    rw [hk]
    exact Nat.two_pow_pos k
  rcases hok.total with hlt | hfits
  · have haddr : (addrAlign h.heapBase alignment).toNat
        = alignUp h.heapBase.toNat alignment.toNat := toNat_mask_eq_alignUp hk hok.round
    have hge := le_alignUp (a := h.heapBase.toNat) hpos
    have hpad : (addrAlign h.heapBase alignment - h.heapBase).toNat
        = alignUp h.heapBase.toNat alignment.toNat - h.heapBase.toNat := by
      rw [UInt64.toNat_sub_of_le _ _ (by rw [UInt64.le_iff_toNat_le, haddr]; exact hge), haddr]
    have hneed : (neededSpace alignment size h).toNat = size.toNat + (alignment.toNat - 1)
        + (alignUp h.heapBase.toNat alignment.toNat - h.heapBase.toNat) := by
      unfold neededSpace
      rw [UInt64.toNat_add, UInt64.toNat_add, toNat_pred hk, hpad, Nat.mod_add_mod,
        Nat.mod_eq_of_lt hlt]
    have hfree : (h.heapTop - h.heapBase).toNat = h.heapTop.toNat - h.heapBase.toNat :=
      UInt64.toNat_sub_of_le _ _ (UInt64.le_iff_toNat_le.mpr hok.base_le)
    have hroom := UInt64.le_iff_toNat_le.mp hpass.2.2
    rw [hneed, hfree] at hroom
    have hbase := hok.base_le
    omega
  · exact hfits

/-! ## 4. When exhaustion is reported -/

/-- A request is reported rightly exactly if, should it pass the checks, nothing wraps around -- or
so much does that the address and the space needed are both zero. -/
theorem reportsExhaustion_iff (alignment size : UInt64) (h : HeapState) :
    ReportsExhaustion alignment size h ↔ (PassesChecks alignment size h →
      NothingWraps alignment size h ∨
        (addrAlign h.heapBase alignment = 0 ∧ neededSpace alignment size h = 0)) := by
  by_cases hpass : PassesChecks alignment size h
  · have hrun := valHostMemAlloc_of_passes hpass
    constructor
    · intro hrep _
      have hserved := hrep.served
      have hrefused := hrep.refused
      rw [hrun] at hserved hrefused
      by_cases haddr : addrAlign h.heapBase alignment = 0
      · have hbase := hrefused haddr
        refine Or.inr ⟨haddr, ?_⟩
        dsimp only at hbase
        exact UInt64.add_eq_left.mp hbase
      · obtain ⟨⟨k, hk⟩, -, hfits⟩ := hserved haddr
        have hpos : 0 < alignment.toNat := by
          rw [hk]
          exact Nat.two_pow_pos k
        rw [hasRoom_iff hpos] at hfits
        rw [addrAlign_eq_zero_iff hk, not_or, not_le] at haddr
        have hge := le_alignUp (a := h.heapBase.toNat) hpos
        exact Or.inl ⟨hpass.alignment_lt hk, Nat.pos_of_ne_zero haddr.1, by omega, haddr.2,
          Or.inr hfits⟩
    · intro hok
      rcases hok hpass with hok | ⟨haddr, hneed⟩
      · obtain ⟨k, hk⟩ := hpass.alignment_pow hok.alignment_lt
        have hpos : 0 < alignment.toNat := by
          rw [hk]
          exact Nat.two_pow_pos k
        refine ⟨fun _ => ⟨⟨k, hk⟩, hpass.1, (hasRoom_iff hpos).mpr (hok.hasRoom hpass)⟩, ?_⟩
        rw [hrun]
        intro h0
        have hbase := hok.base_pos
        have hround := hok.round
        rcases (addrAlign_eq_zero_iff hk).mp h0 with hz | hwrap
        · omega
        · omega
      · constructor
        · rw [hrun]
          exact fun hne => absurd haddr hne
        · rw [hrun, hneed]
          exact fun _ => UInt64.add_zero _
  · have hrun := valHostMemAlloc_of_not_passes hpass
    refine iff_of_true ⟨?_, ?_⟩ fun hp => absurd hp hpass
    · rw [hrun]
      exact fun hne => absurd rfl hne
    · rw [hrun]
      exact fun _ => rfl

/-- The same for `val_buffer_alloc_calloc`: the product must not wrap around either. -/
theorem spansProduct_iff (n size : UInt64) (h : HeapState) :
    SpansProduct n size h ↔ (PassesChecks pageSize (n * size) h →
      addrAlign h.heapBase pageSize = 0 ∨
        (n.toNat * size.toNat < 2 ^ 64 ∧ NothingWraps pageSize (n * size) h)) := by
  have hk : pageSize.toNat = 2 ^ 12 := rfl
  have hpos : 0 < pageSize.toNat := by decide
  have htop := h.heapTop.toNat_lt
  unfold SpansProduct valBufferAllocCalloc
  by_cases hpass : PassesChecks pageSize (n * size) h
  · rw [valHostMemAlloc_of_passes hpass]
    dsimp only
    by_cases haddr : addrAlign h.heapBase pageSize = 0
    · exact iff_of_true (fun hne => absurd haddr hne) fun _ => Or.inl haddr
    rw [addrAlign_toNat hk haddr]
    have hge := le_alignUp (a := h.heapBase.toNat) hpos
    constructor
    · intro hspans _
      obtain ⟨-, hend⟩ := hspans haddr
      have hprod : (n * size).toNat = n.toNat * size.toNat := by
        rw [UInt64.toNat_mul, Nat.mod_eq_of_lt (by omega)]
      rw [addrAlign_eq_zero_iff hk, not_or, not_le] at haddr
      refine Or.inr ⟨by omega, by decide, Nat.pos_of_ne_zero haddr.1, by omega, haddr.2,
        Or.inr ?_⟩
      rw [hprod]
      exact hend
    · intro hok _
      obtain ⟨hlt, hwraps⟩ := (hok hpass).resolve_left haddr
      have hfits := hwraps.hasRoom hpass
      rw [UInt64.toNat_mul, Nat.mod_eq_of_lt hlt] at hfits
      exact ⟨hge, hfits⟩
  · rw [valHostMemAlloc_of_not_passes hpass]
    exact iff_of_true (fun hne => absurd rfl hne) fun hp => absurd hp hpass

/-- **Heap exhaustion is reported exactly if nothing wraps around.**  For every heap and every
alignment, size and number of elements: `val_host_mem_alloc` reports rightly, and
`val_buffer_alloc_calloc` hands out what was asked for, if and only if a request that passes the
checks is one in which no addition, no multiplication and no cut to 32 bits loses anything. -/
theorem exhaustion_reported_iff (h : HeapState) (alignment size n m : UInt64) :
    (ReportsExhaustion alignment size h ↔ (PassesChecks alignment size h →
      NothingWraps alignment size h ∨
        (addrAlign h.heapBase alignment = 0 ∧ neededSpace alignment size h = 0))) ∧
    (SpansProduct n m h ↔ (PassesChecks pageSize (n * m) h →
      addrAlign h.heapBase pageSize = 0 ∨
        (n.toNat * m.toNat < 2 ^ 64 ∧ NothingWraps pageSize (n * m) h))) :=
  ⟨reportsExhaustion_iff alignment size h, spansProduct_iff n m h⟩

/-- The whole address space less a byte is served, on the fresh heap, and so are three elements of a
third of it. -/
theorem exhaustion_not_reported :
    ¬ ReportsExhaustion pageSize 0xFFFFFFFFFFFFFFFF valHostMemAllocInit ∧
      ¬ SpansProduct 3 6148914691236517206 valHostMemAllocInit := by
  have hblock : (valHostMemAlloc pageSize 0xFFFFFFFFFFFFFFFF valHostMemAllocInit).1 ≠ 0 := by
    decide
  have hcalloc : (valBufferAllocCalloc 3 6148914691236517206 valHostMemAllocInit).1 ≠ 0 := by
    decide
  constructor
  · intro hrep
    obtain ⟨-, -, a, -, hle, hend⟩ := hrep.served hblock
    have htop : valHostMemAllocInit.heapTop.toNat < 2 ^ 33 := by decide
    have hsize : (0xFFFFFFFFFFFFFFFF : UInt64).toNat = 2 ^ 64 - 1 := rfl
    omega
  · intro hspans
    obtain ⟨-, hend⟩ := hspans hcalloc
    have htop : valHostMemAllocInit.heapTop.toNat < 2 ^ 33 := by decide
    have hprod : (3 : UInt64).toNat * (6148914691236517206 : UInt64).toNat = 2 ^ 64 + 2 := rfl
    omega

end RmmAcs
