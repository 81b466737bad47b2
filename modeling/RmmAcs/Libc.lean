/-
# Byte memory and strings: the routines of `pal_libc.c` and `val_libc.c` the host uses

Host memory is a flat map from 64-bit addresses to bytes, and pointers wrap at the end of the
address space exactly as the C pointers do.  The loops are the source's own: one byte at a
time, upwards, a byte being read AFTER every earlier byte was written -- so an overlapping
`memcpy` does here what it does there.

`memmove` is the routine that may overlap.  One unsigned subtraction chooses the direction, and
either way no byte is read that the same loop has written (`memmove_copied`).
-/
import Mathlib

namespace RmmAcs

/-- Flat byte memory. -/
abbrev Mem := UInt64 → UInt8

/-- `memcpy`, byte by byte from the bottom. -/
def memcpy (dst src : UInt64) : ℕ → Mem → Mem
  | 0, m => m
  | n + 1, m => memcpy (dst + 1) (src + 1) n (Function.update m dst (m src))

/-- A pointer that comes down gets nearer, once round the address space if need be. -/
theorem toNat_pred_sub_lt {d stop : UInt64} (h : d ≠ stop) :
    (d - 1 - stop).toNat < (d - stop).toNat := by
  have hne : d - stop ≠ 0 := fun h0 => h (by simpa using UInt64.sub_eq_iff_eq_add.mp h0)
  have hone : 1 ≤ d - stop := by
    rw [UInt64.le_iff_toNat_le]
    exact Nat.one_le_iff_ne_zero.mpr fun h0 => hne (UInt64.toNat_inj.mp h0)
  have hcomm : d - 1 - stop = d - stop - 1 := by grind
  rw [hcomm, ← UInt64.lt_iff_toNat_lt]
  exact UInt64.sub_lt (by decide) hone

/-- `while (d != end) *--d = *--s;` -/
def copyBackwards (stop d s : UInt64) (m : Mem) : Mem :=
  if d = stop then m
  else copyBackwards stop (d - 1) (s - 1) (Function.update m (d - 1) (m (s - 1)))
termination_by (d - stop).toNat
decreasing_by exact toNat_pred_sub_lt ‹_›

/-- `memmove`: upwards if the destination does not start inside the source, else downwards.  It
returns `dst`. -/
def memmove (dst src len : UInt64) (m : Mem) : UInt64 × Mem :=
  if dst - src ≥ len then (dst, memcpy dst src len.toNat m)
  else (dst, copyBackwards dst (dst + len) (src + len) m)

/-- `memcmp`: the first difference, or `0`. -/
def memcmp (s1 s2 : UInt64) : ℕ → Mem → ℤ
  | 0, _ => 0
  | n + 1, m =>
    let d : ℤ := (m s1).toNat - (m s2).toNat
    if d ≠ 0 then d else memcmp (s1 + 1) (s2 + 1) n m

/-- Byte `idx % 4` of the little-endian word `0xabcdabcd`, the payload pattern of the RHI
handlers: `((uint8_t *)&pattern)[idx % sizeof(pattern)]`. -/
def patternByte (idx : ℕ) : UInt8 := if idx % 2 = 0 then 0xcd else 0xab

/-- `for (idx = 0; idx < len; idx++) dest[idx] = pattern[idx % 4];` -/
def fillPattern (dest : UInt64) (len : ℕ) (m : Mem) : Mem :=
  (List.range len).foldl (fun m idx => Function.update m (dest + UInt64.ofNat idx) (patternByte idx)) m

/-- The addresses of `n` bytes, upwards from `start`. -/
def bytesFrom (start : UInt64) (n : ℕ) : List UInt64 :=
  (List.range n).map fun i => start + UInt64.ofNat i

theorem mem_bytesFrom {start a : UInt64} {n : ℕ} :
    a ∈ bytesFrom start n ↔ ∃ i < n, start + UInt64.ofNat i = a := by
  simp [bytesFrom]

/-- One byte on. -/
theorem add_ofNat_succ (start : UInt64) (i : ℕ) :
    start + UInt64.ofNat (i + 1) = start + UInt64.ofNat i + 1 := by
  rw [UInt64.ofNat_add, ← UInt64.add_assoc]
  rfl

/-- Fewer than `2 ^ 64` bytes do not come round. -/
theorem add_ofNat_ne {start : UInt64} {i j : ℕ} (hi : i < 2 ^ 64) (hj : j < 2 ^ 64) (h : i ≠ j) :
    start + UInt64.ofNat i ≠ start + UInt64.ofNat j := by
  intro heq
  have hnat := congrArg UInt64.toNat ((UInt64.add_right_inj start).mp heq)
  rw [UInt64.toNat_ofNat', UInt64.toNat_ofNat', Nat.mod_eq_of_lt hi, Nat.mod_eq_of_lt hj] at hnat
  exact h hnat

/-- The first of them, and the rest. -/
theorem mem_bytesFrom_succ {start a : UInt64} {n : ℕ} :
    a ∈ bytesFrom start (n + 1) ↔ a = start ∨ a ∈ bytesFrom (start + 1) n := by
  have hsucc (i : ℕ) : start + UInt64.ofNat (i + 1) = start + 1 + UInt64.ofNat i := by
    rw [add_ofNat_succ, UInt64.add_assoc, UInt64.add_comm (UInt64.ofNat i), ← UInt64.add_assoc]
  rw [mem_bytesFrom, mem_bytesFrom]
  constructor
  · rintro ⟨i, hi, rfl⟩
    cases i with
    | zero => exact Or.inl (UInt64.add_zero start)
    | succ i => exact Or.inr ⟨i, by omega, (hsucc i).symm⟩
  · rintro (rfl | ⟨i, hi, rfl⟩)
    · exact ⟨0, by omega, UInt64.add_zero a⟩
    · exact ⟨i + 1, by omega, hsucc i⟩

section Writes

variable {dst : UInt64} {f : ℕ → UInt8} {m : Mem}

/-- Writing `n` bytes upwards from `dst`: what is written there afterwards. -/
theorem foldl_write_at {n i : ℕ} (hn : n ≤ 2 ^ 64) (hi : i < n) :
    (List.range n).foldl (fun m j => Function.update m (dst + UInt64.ofNat j) (f j)) m
      (dst + UInt64.ofNat i) = f i := by
  induction n with
  | zero => omega
  | succ n ih =>
    rw [List.range_succ, List.foldl_append, List.foldl_cons, List.foldl_nil]
    by_cases hin : i = n
    · rw [hin, Function.update_self]
    · have hne : dst + UInt64.ofNat i ≠ dst + UInt64.ofNat n :=
        add_ofNat_ne (by omega) (by omega) hin
      rw [Function.update_of_ne hne]
      exact ih (by omega) (by omega)

/-- Everything else is unchanged. -/
theorem foldl_write_of_ne {n : ℕ} {a : UInt64} (h : ∀ i < n, a ≠ dst + UInt64.ofNat i) :
    (List.range n).foldl (fun m j => Function.update m (dst + UInt64.ofNat j) (f j)) m a = m a := by
  induction n with
  | zero => rfl
  | succ n ih =>
    rw [List.range_succ, List.foldl_append, List.foldl_cons, List.foldl_nil,
      Function.update_of_ne (h n (Nat.lt_succ_self n))]
    exact ih fun i hi => h i (Nat.lt_succ_of_lt hi)

theorem fillPattern_of_notMem {n : ℕ} {a : UInt64} (h : a ∉ bytesFrom dst n) :
    fillPattern dst n m a = m a :=
  foldl_write_of_ne fun i hi heq => h (mem_bytesFrom.mpr ⟨i, hi, heq.symm⟩)

theorem memcpy_of_notMem {n : ℕ} {src a : UInt64} (h : a ∉ bytesFrom dst n) :
    memcpy dst src n m a = m a := by
  induction n generalizing dst src m with
  | zero => rfl
  | succ n ih =>
    obtain ⟨hne, hrest⟩ := not_or.mp (mt mem_bytesFrom_succ.mpr h)
    unfold memcpy
    rw [ih hrest, Function.update_of_ne hne]

end Writes

/-! ### Reads

Two memories that agree on what a routine reads, also agree on what it writes. -/

section Reads

variable {known : Set UInt64} {m m' : Mem}

/-- `memcpy` reads the source.  The source may overlap the destination: a byte that has been
overwritten by then is one the routine has written itself. -/
theorem memcpy_agree {n : ℕ} {dst src : UInt64} (hsrc : ∀ a ∈ bytesFrom src n, a ∈ known)
    (h : Set.EqOn m m' known) :
    Set.EqOn (memcpy dst src n m) (memcpy dst src n m')
      (known ∪ { a | a ∈ bytesFrom dst n }) := by
  induction n generalizing dst src m m' known with
  | zero => simpa [memcpy, bytesFrom] using h
  | succ n ih =>
    have hstep : Set.EqOn (Function.update m dst (m src)) (Function.update m' dst (m' src))
        (known ∪ {dst}) := by
      intro a ha
      by_cases had : a = dst
      · rw [had, Function.update_self, Function.update_self]
        exact h (hsrc src (mem_bytesFrom_succ.mpr (Or.inl rfl)))
      · rw [Function.update_of_ne had, Function.update_of_ne had]
        exact h (ha.resolve_right had)
    have hrest : ∀ a ∈ bytesFrom (src + 1) n, a ∈ known ∪ {dst} :=
      fun a ha => Or.inl (hsrc a (mem_bytesFrom_succ.mpr (Or.inr ha)))
    intro a ha
    refine ih hrest hstep ?_
    rcases ha with ha | ha
    · exact Or.inl (Or.inl ha)
    · rcases mem_bytesFrom_succ.mp ha with rfl | ha
      · exact Or.inl (Or.inr rfl)
      · exact Or.inr ha

/-- The pattern depends on nothing. -/
theorem fillPattern_agree {n : ℕ} {dst : UInt64} (h : Set.EqOn m m' known) :
    Set.EqOn (fillPattern dst n m) (fillPattern dst n m')
      (known ∪ { a | a ∈ bytesFrom dst n }) := by
  unfold fillPattern bytesFrom
  induction n with
  | zero => simpa using h
  | succ n ih =>
    intro a ha
    rw [List.range_succ, List.foldl_append, List.foldl_append, List.foldl_cons, List.foldl_nil,
      List.foldl_cons, List.foldl_nil]
    by_cases had : a = dst + UInt64.ofNat n
    · rw [had, Function.update_self, Function.update_self]
    · rw [Function.update_of_ne had, Function.update_of_ne had]
      refine ih ?_
      rcases ha with ha | ha
      · exact Or.inl ha
      · have ha' : a ∈ List.map (fun i => dst + UInt64.ofNat i) (List.range (n + 1)) := ha
        rw [List.range_succ, List.map_append, List.mem_append] at ha'
        exact Or.inr (ha'.resolve_right fun hn => had (by simpa using hn))

/-- `memcmp` reads its two arguments. -/
theorem memcmp_agree {n : ℕ} {s1 s2 : UInt64} (h1 : ∀ a ∈ bytesFrom s1 n, a ∈ known)
    (h2 : ∀ a ∈ bytesFrom s2 n, a ∈ known) (h : Set.EqOn m m' known) :
    memcmp s1 s2 n m = memcmp s1 s2 n m' := by
  induction n generalizing s1 s2 with
  | zero => rfl
  | succ n ih =>
    unfold memcmp
    rw [h (h1 s1 (mem_bytesFrom_succ.mpr (Or.inl rfl))),
      h (h2 s2 (mem_bytesFrom_succ.mpr (Or.inl rfl))),
      ih (fun a ha => h1 a (mem_bytesFrom_succ.mpr (Or.inr ha)))
        (fun a ha => h2 a (mem_bytesFrom_succ.mpr (Or.inr ha)))]

/-- Of equal bytes `memcmp` says so. -/
theorem memcmp_eq_zero {n : ℕ} {s1 s2 : UInt64}
    (h : ∀ i < n, m (s1 + UInt64.ofNat i) = m (s2 + UInt64.ofNat i)) : memcmp s1 s2 n m = 0 := by
  induction n generalizing s1 s2 with
  | zero => rfl
  | succ n ih =>
    have hsucc (a : UInt64) (i : ℕ) : a + 1 + UInt64.ofNat i = a + UInt64.ofNat (i + 1) := by
      rw [add_ofNat_succ, UInt64.add_assoc, UInt64.add_comm 1, ← UInt64.add_assoc]
    have hfirst : m s1 = m s2 := by
      have hstart (a : UInt64) : a + UInt64.ofNat 0 = a := UInt64.add_zero a
      rw [← hstart s1, ← hstart s2]
      exact h 0 (Nat.succ_pos n)
    unfold memcmp
    rw [hfirst, sub_self, if_neg (not_not.mpr rfl)]
    refine ih fun i hi => ?_
    rw [hsucc, hsucc]
    exact h (i + 1) (Nat.succ_lt_succ hi)

end Reads

/-! ### Overlap

A copy that overwrites its source is still right if it reads each byte before it writes there.  The
two loops go through the offsets in opposite orders; what they have in common is ONE step, and a
set of offsets that are done. -/

section Overlap

/-- The bytes at the offsets `done` have been copied, from the memory `m₀` there was before, and
nothing else has changed. -/
structure Copied (dst src : UInt64) (done : Set ℕ) (m₀ m : Mem) : Prop where
  copied : ∀ i ∈ done, m (dst + UInt64.ofNat i) = m₀ (src + UInt64.ofNat i)
  frame : ∀ a, (∀ i ∈ done, a ≠ dst + UInt64.ofNat i) → m a = m₀ a

variable {dst src : UInt64} {done : Set ℕ} {m₀ m : Mem}

theorem copied_empty (dst src : UInt64) (m : Mem) : Copied dst src ∅ m m :=
  ⟨fun _ hi => absurd hi (Set.notMem_empty _), fun _ _ => rfl⟩

/-- **One step** of either loop, at an offset whose source has not been written. -/
theorem Copied.step (h : Copied dst src done m₀ m) {k : ℕ}
    (hread : ∀ j ∈ done, src + UInt64.ofNat k ≠ dst + UInt64.ofNat j) :
    Copied dst src (insert k done) m₀
      (Function.update m (dst + UInt64.ofNat k) (m (src + UInt64.ofNat k))) := by
  have hbyte : m (src + UInt64.ofNat k) = m₀ (src + UInt64.ofNat k) := h.frame _ hread
  refine ⟨fun i hi => ?_, fun a ha => ?_⟩
  · by_cases heq : dst + UInt64.ofNat i = dst + UInt64.ofNat k
    · rw [heq, Function.update_self, hbyte, (UInt64.add_right_inj dst).mp heq]
    · rw [Function.update_of_ne heq]
      rcases Set.mem_insert_iff.mp hi with rfl | hi
      · exact absurd rfl heq
      · exact h.copied i hi
  · rw [Function.update_of_ne (ha k (Set.mem_insert k done))]
    exact h.frame a fun i hi => ha i (Set.mem_insert_of_mem k hi)

/-- Upwards, from the offset `k` on. -/
theorem memcpy_copied {k n : ℕ} (h : Copied dst src (Set.Iio k) m₀ m)
    (hread : ∀ i < k + n, ∀ j < i, src + UInt64.ofNat i ≠ dst + UInt64.ofNat j) :
    Copied dst src (Set.Iio (k + n)) m₀
      (memcpy (dst + UInt64.ofNat k) (src + UInt64.ofNat k) n m) := by
  induction n generalizing k m with
  | zero => exact h
  | succ n ih =>
    have hstep := h.step fun j hj => hread k (by omega) j hj
    have hdone : insert k (Set.Iio k) = Set.Iio (k + 1) := by
      ext i
      simp only [Set.mem_insert_iff, Set.mem_Iio]
      omega
    rw [hdone] at hstep
    have hlen : k + (n + 1) = k + 1 + n := by omega
    rw [hlen] at hread ⊢
    unfold memcpy
    rw [← add_ofNat_succ, ← add_ofNat_succ]
    exact ih hstep hread

/-- Downwards, from the offset `k` on: the loop ends at `dst`, since it starts less than once round
the address space above it. -/
theorem copyBackwards_copied {k n : ℕ} (hk : k < 2 ^ 64) (h : Copied dst src (Set.Ico k n) m₀ m)
    (hkn : k ≤ n)
    (hread : ∀ i < n, ∀ j, i < j → j < n → src + UInt64.ofNat i ≠ dst + UInt64.ofNat j) :
    Copied dst src (Set.Iio n) m₀
      (copyBackwards dst (dst + UInt64.ofNat k) (src + UInt64.ofNat k) m) := by
  have hzero (a : UInt64) : a + UInt64.ofNat 0 = a := UInt64.add_zero a
  induction k generalizing m with
  | zero =>
    have hdone : Set.Ico 0 n = Set.Iio n := by
      ext i
      simp
    rw [hdone] at h
    unfold copyBackwards
    rw [if_pos (hzero dst)]
    exact h
  | succ k ih =>
    have hne : dst + UInt64.ofNat (k + 1) ≠ dst := by
      have hne' := @add_ofNat_ne dst _ _ hk (by decide) (Nat.succ_ne_zero k)
      rwa [hzero dst] at hne'
    have hpred (a : UInt64) : a + UInt64.ofNat (k + 1) - 1 = a + UInt64.ofNat k := by
      rw [add_ofNat_succ, UInt64.add_sub_cancel]
    have hstep := h.step fun j hj => hread k (by omega) j (Nat.lt_of_succ_le hj.1) hj.2
    have hdone : insert k (Set.Ico (k + 1) n) = Set.Ico k n := by
      ext i
      simp only [Set.mem_insert_iff, Set.mem_Ico]
      omega
    rw [hdone] at hstep
    unfold copyBackwards
    rw [if_neg hne, hpred, hpred]
    exact ih (by omega) hstep (by omega)

/-- Within a range that does not wrap, addresses are numbers. -/
theorem toNat_add_ofNat {a : UInt64} {i : ℕ} (h : a.toNat + i < 2 ^ 64) :
    (a + UInt64.ofNat i).toNat = a.toNat + i := by
  rw [UInt64.toNat_add, UInt64.toNat_ofNat', Nat.mod_eq_of_lt (by omega : i < 2 ^ 64),
    Nat.mod_eq_of_lt h]

variable {len : UInt64}

/-- Two offsets at one address: the ranges do not wrap, so the numbers are equal too. -/
theorem toNat_add_eq_of_addr_eq (hsrc : src.toNat + len.toNat ≤ 2 ^ 64)
    (hdst : dst.toNat + len.toNat ≤ 2 ^ 64) {i j : ℕ} (hi : i < len.toNat) (hj : j < len.toNat)
    (h : src + UInt64.ofNat i = dst + UInt64.ofNat j) : src.toNat + i = dst.toNat + j := by
  have hnat := congrArg UInt64.toNat h
  rwa [toNat_add_ofNat (by omega), toNat_add_ofNat (by omega)] at hnat

/-- A destination none of whose bytes is still to be read by the upward loop. -/
theorem memcpy_copied_of_ahead {n : ℕ}
    (hread : ∀ i < n, ∀ j < i, src + UInt64.ofNat i ≠ dst + UInt64.ofNat j) (m : Mem) :
    Copied dst src (Set.Iio n) m (memcpy dst src n m) := by
  have hnone : Copied dst src (Set.Iio 0) m m := by
    have hempty : Set.Iio 0 = (∅ : Set ℕ) := by simp
    rw [hempty]
    exact copied_empty dst src m
  have hstart (a : UInt64) : a + UInt64.ofNat 0 = a := UInt64.add_zero a
  rw [← Nat.zero_add n] at hread
  have hloop := memcpy_copied hnone hread
  rwa [Nat.zero_add, hstart, hstart] at hloop

/-- A destination that starts `len` or more above the source, counted round the address space, is
one. -/
theorem memcpy_copied_of_far (hsrc : src.toNat + len.toNat ≤ 2 ^ 64)
    (hdst : dst.toNat + len.toNat ≤ 2 ^ 64) (hfar : len.toNat ≤ (dst - src).toNat) (m : Mem) :
    Copied dst src (Set.Iio len.toNat) m (memcpy dst src len.toNat m) := by
  have hdist : (dst - src).toNat = (2 ^ 64 - src.toNat + dst.toNat) % 2 ^ 64 := UInt64.toNat_sub _ _
  have hlt := src.toNat_lt
  refine memcpy_copied_of_ahead (fun i hi j hj heq => ?_) m
  have hnat := toNat_add_eq_of_addr_eq hsrc hdst (by omega) (by omega) heq
  omega

/-- One that starts less than that above the source is not below it, so the downward loop has written
nothing it is still to read. -/
theorem copyBackwards_copied_of_near (hsrc : src.toNat + len.toNat ≤ 2 ^ 64)
    (hdst : dst.toNat + len.toNat ≤ 2 ^ 64) (hnear : (dst - src).toNat < len.toNat) (m : Mem) :
    Copied dst src (Set.Iio len.toNat) m (copyBackwards dst (dst + len) (src + len) m) := by
  have hdist : (dst - src).toNat = (2 ^ 64 - src.toNat + dst.toNat) % 2 ^ 64 := UInt64.toNat_sub _ _
  have hlt := src.toNat_lt
  have hread : ∀ i < len.toNat, ∀ j, i < j → j < len.toNat →
      src + UInt64.ofNat i ≠ dst + UInt64.ofNat j := by
    intro i hi j hij hj heq
    have hnat := toNat_add_eq_of_addr_eq hsrc hdst hi hj heq
    omega
  have hnone : Copied dst src (Set.Ico len.toNat len.toNat) m m := by
    rw [Set.Ico_self]
    exact copied_empty dst src m
  have hloop := copyBackwards_copied len.toNat_lt hnone (le_refl _) hread
  rwa [UInt64.ofNat_toNat] at hloop

/-- **Either direction copies.**  The cases are those of the one unsigned subtraction. -/
theorem memmove_copied (hsrc : src.toNat + len.toNat ≤ 2 ^ 64)
    (hdst : dst.toNat + len.toNat ≤ 2 ^ 64) (m : Mem) :
    Copied dst src (Set.Iio len.toNat) m (memmove dst src len m).2 := by
  unfold memmove
  split
  · rename_i hup
    have hfar := UInt64.le_iff_toNat_le.mp hup
    exact memcpy_copied_of_far hsrc hdst hfar m
  · rename_i hdown
    have hnear := UInt64.lt_iff_toNat_lt.mp (UInt64.not_le.mp hdown)
    exact copyBackwards_copied_of_near hsrc hdst hnear m

/-- **`memmove`**, for ranges that do not wrap, however they overlap: the bytes of the destination are
those the source had before, and every other byte is unchanged. -/
theorem memmove_exact (hsrc : src.toNat + len.toNat ≤ 2 ^ 64)
    (hdst : dst.toNat + len.toNat ≤ 2 ^ 64) (m : Mem) :
    (∀ i < len.toNat,
      (memmove dst src len m).2 (dst + UInt64.ofNat i) = m (src + UInt64.ofNat i)) ∧
    ∀ a : UInt64, ¬ (dst.toNat ≤ a.toNat ∧ a.toNat < dst.toNat + len.toNat) →
      (memmove dst src len m).2 a = m a := by
  have h := memmove_copied hsrc hdst m
  refine ⟨h.copied, fun a ha => h.frame a fun i hi heq => ha ?_⟩
  have hi' : i < len.toNat := hi
  rw [heq, toNat_add_ofNat (by omega)]
  omega

end Overlap

/-- A byte is its address. -/
def addressBytes : Mem := fun a => a.toUInt8

/-- Three bytes moved one up, over two of their own. -/
theorem memmove_exact_one_up :
    (memmove 0x1001 0x1000 3 addressBytes).2 0x1003 = 0x02 ∧
      (memmove 0x1001 0x1000 3 addressBytes).2 0x1000 = 0x00 := by
  obtain ⟨hcopied, hframe⟩ :=
    memmove_exact (by decide : (0x1000 : UInt64).toNat + (3 : UInt64).toNat ≤ 2 ^ 64)
      (by decide : (0x1001 : UInt64).toNat + (3 : UInt64).toNat ≤ 2 ^ 64) addressBytes
  exact ⟨hcopied 2 (by decide), hframe 0x1000 (by decide)⟩

/-- `val_strcmp`: zero, or one at the first character of `str1` that is not the one of `str2`.
The loop ends with `str1`: a proper PREFIX compares equal. -/
def valStrcmp : List Char → List Char → ℕ
  | [], _ => 0
  | _ :: _, [] => 1
  | c :: cs, d :: ds => if c ≠ d then 1 else valStrcmp cs ds

/-- **What `val_strcmp` compares.** -/
theorem valStrcmp_eq_zero_iff (str1 str2 : List Char) :
    valStrcmp str1 str2 = 0 ↔ str1 <+: str2 := by
  induction str1, str2 using valStrcmp.induct with
  | case1 => simp [valStrcmp]
  | case2 => simp [valStrcmp]
  | case3 c cs d ds hne => simp [valStrcmp, List.cons_prefix_cons, hne]
  | case4 c cs d ds heq ih =>
    rw [valStrcmp, if_neg heq, ih, List.cons_prefix_cons]
    simp only [ne_eq, not_not] at heq
    simp [heq]

end RmmAcs
