/-
# The addresses of the BARs

The BARs of one pool should lie one behind the other, each at a multiple of its size.  What
`pal_pcie_program_bar_reg` adds to the start of the pool is the LARGER of the last size and the new
one, and this it does only if the last BAR was on the same bus.  On another bus it relies on the
bridges, which round the start up to the next megabyte on the way back.

This is not enough, in three ways.  A bridge whose bus has a single BAR of a pool has not moved the
start of that pool, so it does not round it up, and the next bus begins at the same address; nor
is anything rounded up between a function of a bus and a bridge behind it.  The start of a pool
need not be a multiple of a larger size.  And the size of a 64-bit BAR is kept in 32 bits.

`enumerate_places_bars` says exactly when the BARs are in their places all the same: when each of
them was programmed in a state in which this could not happen.
-/
import RmmAcs.Pcie.Buses

namespace RmmAcs.Pcie

/-! ## 1. BARs in their places -/

/-- The end of a BAR. -/
def Programmed.finish (e : Programmed) : ℕ := e.address + e.size

/-- Two BARs do not overlap. -/
def Programmed.Apart (b c : Programmed) : Prop := b.finish ≤ c.address ∨ c.finish ≤ b.address

instance (b c : Programmed) : Decidable (b.Apart c) := inferInstanceAs (Decidable (_ ∨ _))

/-- The BARs of one pool. -/
def ofKind (kind : PoolKind) (h : List Programmed) : List Programmed :=
  h.filter fun e => e.kind = kind

theorem ofKind_concat_self {kind : PoolKind} {h : List Programmed} {e : Programmed}
    (he : e.kind = kind) : ofKind kind (h ++ [e]) = ofKind kind h ++ [e] := by
  simp [ofKind, List.filter_append, he]

theorem ofKind_concat_of_ne {kind : PoolKind} {h : List Programmed} {e : Programmed}
    (he : e.kind ≠ kind) : ofKind kind (h ++ [e]) = ofKind kind h := by
  simp [ofKind, List.filter_append, he]

/-- **The BARs are in their places**: no two of one pool overlap, and each address is a multiple of
its BAR's size. -/
def BarsPlaced (h : List Programmed) : Prop :=
  ∀ kind, (ofKind kind h).Pairwise Programmed.Apart ∧ ∀ e ∈ ofKind kind h, e.size ∣ e.address

/-- When `e` is programmed, with `b` as the last BAR of its pool: the start of the pool is behind
`b`, or both are on one bus.  In the second case a `b` of 4 GB or more, whose size was lost, must
end before the address that `e` gets for its own size. -/
def Programmed.Clears (b e : Programmed) : Prop :=
  b.finish ≤ e.before.start ∨
    (b.bus = e.bus ∧ (b.size < 2 ^ 32 ∨ b.finish ≤ e.before.start + e.size))

/-- Each BAR was programmed with the start of its pool at a multiple of its size, and with the last
BAR of the pool out of the way. -/
def BarsClear (h : List Programmed) : Prop :=
  ∀ kind, (ofKind kind h).IsChain Programmed.Clears ∧
    ∀ e ∈ ofKind kind h, e.size ∣ e.before.start

/-! ## 2. What a pool has given away -/

/-- The size of a BAR. -/
def IsBarSize (n : ℕ) : Prop := ∃ k, 4 ≤ k ∧ n = 2 ^ k

/-- What `Pool.next` comes to. -/
structure Programmed.Fair (e : Programmed) : Prop where
  size : IsBarSize e.size
  before : e.before.size = 0 ∨ IsBarSize e.before.size
  address : e.address
    = e.before.start + if e.before.bus = e.bus then max e.before.size e.size else 0

/-- The pool is as the BAR `b` has left it, but for its start, which may have gone up. -/
structure Programmed.Left (b : Programmed) (p : Pool) : Prop where
  start : b.address ≤ p.start
  size : p.size = b.size % 2 ^ 32
  bus : p.bus = b.bus

/-- **A pool and the BARs it has given addresses to.** -/
structure Tracks (p : Pool) (l : List Programmed) : Prop where
  aligned : 16 ∣ p.start
  size : p.size = 0 ∨ IsBarSize p.size
  fair : ∀ e ∈ l, e.Fair
  chain : l.IsChain fun b e => b.Left e.before
  last : ∀ b ∈ l.getLast?, b.Left p

theorem IsBarSize.pos {n : ℕ} (h : IsBarSize n) : 0 < n := by
  obtain ⟨k, -, rfl⟩ := h
  exact Nat.two_pow_pos k

theorem IsBarSize.dvd_of_le {m n : ℕ} (hm : IsBarSize m) (hn : IsBarSize n) (hle : m ≤ n) :
    m ∣ n := by
  obtain ⟨j, -, rfl⟩ := hm
  obtain ⟨k, -, rfl⟩ := hn
  exact Nat.pow_dvd_pow 2 ((Nat.pow_le_pow_iff_right (by decide : 1 < 2)).mp hle)

theorem IsBarSize.sixteen_dvd {n : ℕ} (h : IsBarSize n) : 16 ∣ n := by
  obtain ⟨k, hk, rfl⟩ := h
  exact Nat.pow_dvd_pow 2 hk

/-- What is left of a size in 32 bits. -/
theorem IsBarSize.mod {n : ℕ} (h : IsBarSize n) : n % 2 ^ 32 = if n < 2 ^ 32 then n else 0 := by
  obtain ⟨k, -, rfl⟩ := h
  split
  · rename_i hlt
    exact Nat.mod_eq_of_lt hlt
  · rename_i hge
    have hk : 32 ≤ k := (Nat.pow_le_pow_iff_right (by decide : 1 < 2)).mp (not_lt.mp hge)
    exact Nat.mod_eq_zero_of_dvd (Nat.pow_dvd_pow 2 hk)

/-- The larger of the last size and the new one is a multiple of the new one. -/
theorem IsBarSize.dvd_max {m n : ℕ} (hm : m = 0 ∨ IsBarSize m) (hn : IsBarSize n) :
    n ∣ max m n := by
  rcases le_total m n with hle | hle
  · rw [max_eq_right hle]
  · rw [max_eq_left hle]
    rcases hm with rfl | hm
    · exact dvd_zero n
    · exact hn.dvd_of_le hm hle

namespace Programmed.Fair

variable {b e : Programmed}

theorem le (he : e.Fair) : e.before.start ≤ e.address := by
  rw [he.address]
  exact Nat.le_add_right _ _

theorem dvd_iff (he : e.Fair) : e.size ∣ e.address ↔ e.size ∣ e.before.start := by
  rw [he.address]
  refine Nat.dvd_add_left ?_
  split
  · exact IsBarSize.dvd_max he.before he.size
  · exact dvd_zero _

/-- The address comes in behind the last BAR exactly if that is out of the way. -/
theorem clears_iff (hb : b.Fair) (he : e.Fair) (hleft : b.Left e.before) :
    b.finish ≤ e.address ↔ b.Clears e := by
  have hmod := hb.size.mod
  have hstart := hleft.start
  have hpos := he.size.pos
  rw [he.address, Clears, hleft.bus, hleft.size, hmod]
  unfold finish
  split
  · split <;> omega
  · omega

end Programmed.Fair

/-- Two relations that agree on what follows one another. -/
theorem isChain_congr {α : Type} {P : α → Prop} {T R S : α → α → Prop} {l : List α}
    (hP : ∀ a ∈ l, P a) (hT : l.IsChain T)
    (h : ∀ a b, P a → P b → T a b → (R a b ↔ S a b)) : l.IsChain R ↔ l.IsChain S := by
  have hagree : ∀ (i : ℕ) (hi : i + 1 < l.length), R l[i] l[i + 1] ↔ S l[i] l[i + 1] :=
    fun i hi => h _ _ (hP _ (List.getElem_mem _)) (hP _ (List.getElem_mem _)) (hT.getElem i hi)
  rw [List.isChain_iff_getElem, List.isChain_iff_getElem]
  exact forall_congr' fun i => forall_congr' fun hi => hagree i hi

/-- Addresses only go up, so no two BARs overlap if none overlaps the one before it. -/
theorem Tracks.pairwise_iff {p : Pool} {l : List Programmed} (h : Tracks p l) :
    l.Pairwise Programmed.Apart ↔ l.IsChain fun b e => b.finish ≤ e.address := by
  constructor
  · intro hpair
    refine (isChain_congr h.fair h.chain fun b e hb he hleft => ?_).mp hpair.isChain
    have hle : b.address ≤ e.address := le_trans hleft.start he.le
    have hpos := he.size.pos
    unfold Programmed.Apart Programmed.finish
    omega
  · intro hchain
    let R : Programmed → Programmed → Prop := fun b e => b.finish ≤ e.address
    have : Trans R R R :=
      ⟨fun {_ c _} hbc hcd => le_trans hbc (le_trans (Nat.le_add_right c.address c.size) hcd)⟩
    exact (List.IsChain.pairwise (R := R) hchain).imp Or.inl

/-- **In one pool**: the BARs are in their places exactly if each was programmed in such a state. -/
theorem Tracks.placed_iff {p : Pool} {l : List Programmed} (h : Tracks p l) :
    (l.Pairwise Programmed.Apart ∧ ∀ e ∈ l, e.size ∣ e.address)
      ↔ l.IsChain Programmed.Clears ∧ ∀ e ∈ l, e.size ∣ e.before.start := by
  refine and_congr ?_ (forall₂_congr fun e he => (h.fair e he).dvd_iff)
  rw [h.pairwise_iff]
  exact isChain_congr h.fair h.chain fun b e hb he hleft => hb.clears_iff he hleft

/-- A further BAR. -/
theorem Tracks.snoc {e : Programmed} {l : List Programmed} (h : Tracks e.before l) (he : e.Fair) :
    Tracks { e.before with start := e.address, size := e.size % 2 ^ 32, bus := e.bus }
      (l ++ [e]) where
  aligned := by
    have hdvd := IsBarSize.dvd_max he.before he.size
    dsimp only
    rw [he.address]
    refine dvd_add h.aligned ?_
    split
    · exact dvd_trans he.size.sixteen_dvd hdvd
    · exact dvd_zero _
  size := by
    change e.size % 2 ^ 32 = 0 ∨ IsBarSize (e.size % 2 ^ 32)
    rw [he.size.mod]
    split
    · exact Or.inr he.size
    · exact Or.inl rfl
  fair := by
    intro e' he'
    rcases List.mem_append.mp he' with he' | he'
    · exact h.fair e' he'
    · obtain rfl := List.mem_singleton.mp he'
      exact he
  chain := by
    refine h.chain.append (List.isChain_singleton e) fun b hb e' he' => ?_
    obtain rfl := Option.some.inj he'
    exact h.last b hb
  last := by
    intro b hb
    rw [List.getLast?_concat] at hb
    obtain rfl := Option.some.inj hb
    exact ⟨le_refl _, rfl, rfl⟩

/-- The start goes up, and `max` does not matter. -/
theorem Tracks.raise {p q : Pool} {l : List Programmed} (h : Tracks p l) (hdvd : 16 ∣ q.start)
    (hle : p.start ≤ q.start) (hsize : q.size = p.size) (hbus : q.bus = p.bus) : Tracks q l where
  aligned := hdvd
  size := hsize ▸ h.size
  fair := h.fair
  chain := h.chain
  last := fun b hb =>
    ⟨le_trans (h.last b hb).start hle, hsize.trans (h.last b hb).size,
      hbus.trans (h.last b hb).bus⟩

/-! ## 3. The global variables -/

/-- Every pool and its BARs. -/
def Globals.Tracked (g : Globals) : Prop :=
  ∀ kind, Tracks (g.pools kind) (ofKind kind g.history)

/-- `np_bar_size` and its companions, in a function on this bus: the size of the last BAR of the
function is that of the last BAR of the pool. -/
def Globals.LastOn (bus : ℕ) (last : PoolKind → ℕ) (g : Globals) : Prop :=
  ∀ kind, last kind = 0 ∨ (last kind = (g.pools kind).size ∧ (g.pools kind).bus = bus)

theorem next_eq {p : Pool} {bus last barSize : ℕ}
    (hlast : last = 0 ∨ (last = p.size ∧ p.bus = bus)) :
    p.next bus last barSize = p.start + if p.bus = bus then max p.size barSize else 0 := by
  unfold Pool.next
  split_ifs <;> omega

section Place

variable {g : Globals} {bus offset barSize : ℕ} {last : PoolKind → ℕ} (kind : PoolKind)

/-- **A BAR takes its address.** -/
theorem Globals.Tracked.place (hg : g.Tracked) (hlast : g.LastOn bus last)
    (hsize : IsBarSize barSize) : (g.place kind bus offset (last kind) barSize).Tracked := by
  let e : Programmed := ⟨kind, bus, offset, barSize,
    (g.pools kind).next bus (last kind) barSize, g.pools kind, last kind⟩
  have hfair : e.Fair := ⟨hsize, (hg kind).size, next_eq (hlast kind)⟩
  have hhistory : (g.place kind bus offset (last kind) barSize).history = g.history ++ [e] := rfl
  intro k
  rw [hhistory]
  unfold Globals.place
  dsimp only
  by_cases hk : k = kind
  · rw [hk, Function.update_self, ofKind_concat_self (rfl : e.kind = kind)]
    exact Tracks.snoc (hg kind) hfair
  · rw [Function.update_of_ne hk, ofKind_concat_of_ne (Ne.symm hk)]
    exact hg k

theorem Globals.LastOn.place (hlast : g.LastOn bus last) :
    (g.place kind bus offset (last kind) barSize).LastOn bus
      (Function.update last kind (barSize % 2 ^ 32)) := by
  intro k
  unfold Globals.place
  dsimp only
  by_cases hk : k = kind
  · subst hk
    rw [Function.update_self, Function.update_self]
    exact Or.inr ⟨rfl, rfl⟩
  · rw [Function.update_of_ne hk, Function.update_of_ne hk]
    exact hlast k

/-- The start of a pool goes up. -/
theorem Globals.Tracked.raise (hg : g.Tracked) {start : ℕ} (hdvd : 16 ∣ start)
    (hle : (g.pools kind).start ≤ start) :
    Globals.Tracked
      { g with pools := Function.update g.pools kind { g.pools kind with start := start } } := by
  intro k
  dsimp only
  by_cases hk : k = kind
  · subst hk
    rw [Function.update_self]
    exact (hg k).raise hdvd hle rfl rfl
  · rw [Function.update_of_ne hk]
    exact hg k

end Place

theorem Globals.Tracked.setMax {g : Globals} (hg : g.Tracked) : g.setMax.Tracked :=
  fun kind => (hg kind).raise (hg kind).aligned (le_refl _) rfl rfl

theorem le_nextMegabyte (start : ℕ) : start ≤ nextMegabyte start := by
  unfold nextMegabyte barIncrement
  omega

theorem dvd_nextMegabyte (start : ℕ) : 16 ∣ nextMegabyte start := by
  unfold nextMegabyte barIncrement
  omega

section Leave

variable {σ : Type} {acc : Access σ} {g g' : Globals} {s s' : σ}

theorem resourceBase32_tracked (hg : g.Tracked) (kind : PoolKind) (offset base limit : ℕ) :
    (resourceBase32 acc kind offset base limit s g).2.Tracked := by
  unfold resourceBase32
  dsimp only
  split
  · refine hg.raise kind ?_ ?_
    · split
      · exact dvd_nextMegabyte _
      · exact (hg kind).aligned
    · split
      · exact le_nextMegabyte _
      · exact le_refl _
  · exact hg

theorem getResourceBase64_tracked (hg : g.Tracked) (base limit : ℕ) :
    (getResourceBase64 acc base limit s g).2.Tracked := by
  unfold getResourceBase64
  dsimp only
  split
  · refine hg.raise .p64 (dvd_nextMegabyte _) ?_
    split
    · exact le_trans (le_nextMegabyte _) (le_nextMegabyte _)
    · exact le_nextMegabyte _
  · exact hg

/-- **A bridge on the way back.** -/
theorem leaveBridge_tracked (hg : g.Tracked) {bus sub sec : ℕ} {base : PoolKind → ℕ}
    (h : leaveBridge acc bus sub sec base s g = some (s', g')) : g'.Tracked := by
  unfold leaveBridge palPcieRpProgramBar at h
  dsimp only at h
  obtain ⟨r, -, heq⟩ := Option.map_eq_some_iff.mp h
  obtain ⟨-, rfl⟩ := Prod.mk.inj heq
  exact getResourceBase64_tracked
    (resourceBase32_tracked (resourceBase32_tracked hg _ _ _ _) _ _ _ _) _ _

end Leave

/-! ## 4. The BARs of a function -/

/-- The bits that can be written in a BAR of `2 ^ k` bytes. -/
def sizeMask (k : ℕ) : UInt32 := ~~~(UInt32.ofNat (2 ^ k - 1))

def sizeMask64 (k : ℕ) : UInt64 := ~~~(UInt64.ofNat (2 ^ k - 1))

/-- A register without a BAR. -/
def BarReg.IsAbsent (r : BarReg) : Prop := r.mask = 0 ∧ r.low = 0

/-- A 32-bit memory BAR; bit 3 says that it is prefetchable. -/
def BarReg.IsMem32 (r : BarReg) : Prop :=
  (∃ k, 4 ≤ k ∧ k < 32 ∧ r.mask = sizeMask k) ∧ (r.low = 0 ∨ r.low = 8)

/-- An I/O BAR.  The smallest have four bytes; the program takes them for BARs of 16. -/
def BarReg.IsIo (r : BarReg) : Prop := (∃ k, 2 ≤ k ∧ k < 32 ∧ r.mask = sizeMask k) ∧ r.low = 1

/-- A 64-bit memory BAR, of two registers. -/
def BarReg.IsMem64 (r r' : BarReg) : Prop :=
  (∃ k, 4 ≤ k ∧ k < 64 ∧ r.mask = (sizeMask64 k).toUInt32 ∧
    r'.mask = (sizeMask64 k >>> 32).toUInt32) ∧ (r.low = 4 ∨ r.low = 12) ∧ r'.low = 0

/-- **The BARs of a Type 0 function**, from a register on: each has a power of two as its size. -/
inductive BarsFrom (bars : ℕ → BarReg) : ℕ → Prop
  | done : BarsFrom bars 6
  | absent {i : ℕ} : (bars i).IsAbsent → BarsFrom bars (i + 1) → BarsFrom bars i
  | mem32 {i : ℕ} : (bars i).IsMem32 → BarsFrom bars (i + 1) → BarsFrom bars i
  | io {i : ℕ} : (bars i).IsIo → BarsFrom bars (i + 1) → BarsFrom bars i
  | mem64 {i : ℕ} : (bars i).IsMem64 (bars (i + 1)) → BarsFrom bars (i + 2) → BarsFrom bars i

/-- A Type 0 function has such BARs. -/
def Fn.PowerOfTwoBars (f : Fn) : Prop := Fn.headerType f.header = 0 → BarsFrom f.bars 0

theorem BarsFrom.le {bars : ℕ → BarReg} {i : ℕ} (h : BarsFrom bars i) : i ≤ 6 := by
  induction h with
  | done => exact le_refl 6
  | absent _ _ ih | mem32 _ _ ih | io _ _ ih | mem64 _ _ ih => omega

/-- What a BAR answers when all ones are written. -/
def BarReg.ones (r : BarReg) : UInt32 := (0xFFFFFFF0 &&& r.mask) ||| r.low

/-- What the two registers of a 64-bit BAR answer. -/
def BarReg.ones64 (r r' : BarReg) : UInt64 :=
  let lower := r.ones &&& barMask
  let upper := (0xFFFFFFFF &&& r'.mask) ||| r'.low
  lower.toUInt64 ||| (upper.toUInt64 <<< 32)

namespace BarReg

variable {r r' : BarReg}

theorem and_or_distrib_right (a b c : UInt32) : (a ||| b) &&& c = (a &&& c) ||| (b &&& c) :=
  UInt32.toBitVec_inj.mp BitVec.and_or_distrib_right

/-- The bit that says memory or I/O. -/
theorem isMemSpace_read (hmask : r.mask &&& 1 = 0) : isMemSpace r.read = isMemSpace r.low := by
  unfold isMemSpace read
  rw [and_or_distrib_right, UInt32.and_assoc, hmask, UInt32.and_zero, UInt32.zero_or]

/-- The bit that says 64-bit. -/
theorem is64Bit_read (hmask : r.value >>> 2 &&& (r.mask >>> 2 &&& 1) = 0) :
    is64Bit r.read = is64Bit r.low := by
  unfold is64Bit read
  rw [UInt32.shiftRight_or, UInt32.shiftRight_and, and_or_distrib_right, UInt32.and_assoc, hmask,
    UInt32.zero_or]

/-- The fixed bits of a memory BAR. -/
theorem reads_low (h1 : r.mask &&& 1 = 0) (h2 : r.mask >>> 2 &&& 1 = 0) :
    isMemSpace r.read = isMemSpace r.low ∧ is64Bit r.read = is64Bit r.low :=
  ⟨isMemSpace_read h1, is64Bit_read (by rw [h2, UInt32.and_zero])⟩

theorem IsAbsent.reads (h : r.IsAbsent) :
    isMemSpace r.read = true ∧ is64Bit r.read = false ∧ size32 r.ones = 0 := by
  obtain ⟨hmask, hlow⟩ := h
  obtain ⟨h1, h2⟩ := reads_low (r := r) (by rw [hmask]; rfl) (by rw [hmask]; rfl)
  rw [h1, h2, ones, hmask, hlow]
  decide +kernel

theorem sizeMask_low : ∀ k < 32, 4 ≤ k → sizeMask k &&& 1 = 0 ∧ sizeMask k >>> 2 &&& 1 = 0 := by
  decide +kernel

/-- The size of a memory BAR, as the program finds it. -/
theorem size32_sizeMask : ∀ k < 32, 4 ≤ k → size32 ((0xFFFFFFF0 &&& sizeMask k) ||| 0) = 2 ^ k ∧
    size32 ((0xFFFFFFF0 &&& sizeMask k) ||| 8) = 2 ^ k := by
  decide +kernel

theorem IsMem32.reads (h : r.IsMem32) :
    isMemSpace r.read = true ∧ is64Bit r.read = false ∧ IsBarSize (size32 r.ones) := by
  obtain ⟨⟨k, hk, hk', hmask⟩, hlow⟩ := h
  obtain ⟨hbit, hbit'⟩ := sizeMask_low k hk' hk
  obtain ⟨hsize, hsize'⟩ := size32_sizeMask k hk' hk
  obtain ⟨h1, h2⟩ := reads_low (r := r) (by rw [hmask, hbit]) (by rw [hmask, hbit'])
  rw [h1, h2, ones, hmask]
  rcases hlow with hlow | hlow
  · rw [hlow, hsize]
    exact ⟨by decide, by decide, k, hk, rfl⟩
  · rw [hlow, hsize']
    exact ⟨by decide, by decide, k, hk, rfl⟩

theorem sizeMask_even : ∀ k < 32, 2 ≤ k → sizeMask k &&& 1 = 0 := by
  decide +kernel

/-- Four bits of what an I/O BAR answers are not looked at. -/
theorem size32_sizeMask_io : ∀ k < 32, size32 ((0xFFFFFFF0 &&& sizeMask k) ||| 1) = 2 ^ max k 4 := by
  decide +kernel

theorem IsIo.reads (h : r.IsIo) : isMemSpace r.read = false ∧ IsBarSize (size32 r.ones) := by
  obtain ⟨⟨k, hk, hk', hmask⟩, hlow⟩ := h
  have h1 : isMemSpace r.read = isMemSpace r.low :=
    isMemSpace_read (by rw [hmask, sizeMask_even k hk' hk])
  rw [h1, ones, hmask, hlow, size32_sizeMask_io k hk']
  exact ⟨by decide, _, le_max_right k 4, rfl⟩

/-- A start address has its four lowest bits clear, so bit 2 of an I/O BAR is clear. -/
theorem IsIo.is64Bit_start (h : r.IsIo) {start : ℕ} (hstart : 16 ∣ start)
    (hvalue : r.value = UInt32.ofNat start) : is64Bit r.read = false := by
  have hbits : r.value >>> 2 &&& 1 = 0 := by
    refine UInt32.toNat_inj.mp ?_
    rw [hvalue, UInt32.toNat_and, UInt32.toNat_shiftRight, UInt32.toNat_ofNat']
    have h1 : (1 : UInt32).toNat = 2 ^ 1 - 1 := rfl
    have h2 : (2 : UInt32).toNat % 32 = 2 := rfl
    rw [h1, h2, Nat.and_two_pow_sub_one_eq_mod, Nat.shiftRight_eq_div_pow]
    change start % 2 ^ 32 / 2 ^ 2 % 2 ^ 1 = 0
    omega
  have hread : is64Bit r.read = is64Bit r.low := by
    refine is64Bit_read ?_
    rw [UInt32.and_comm (r.mask >>> 2), ← UInt32.and_assoc, hbits, UInt32.zero_and]
  rw [hread, h.2]
  decide

theorem sizeMask64_low : ∀ k < 64, 4 ≤ k →
    (sizeMask64 k).toUInt32 &&& 1 = 0 ∧ (sizeMask64 k).toUInt32 >>> 2 &&& 1 = 0 := by
  decide +kernel

theorem size64_sizeMask64 : ∀ k < 64, 4 ≤ k →
    size64 (ones64 ⟨(sizeMask64 k).toUInt32, 4, 0⟩ ⟨(sizeMask64 k >>> 32).toUInt32, 0, 0⟩) = 2 ^ k ∧
    size64 (ones64 ⟨(sizeMask64 k).toUInt32, 12, 0⟩ ⟨(sizeMask64 k >>> 32).toUInt32, 0, 0⟩)
      = 2 ^ k := by
  decide +kernel

theorem IsMem64.reads (h : r.IsMem64 r') :
    isMemSpace r.read = true ∧ is64Bit r.read = true ∧ IsBarSize (size64 (r.ones64 r')) := by
  obtain ⟨⟨k, hk, hk', hmask, hmask'⟩, hlow, hlow'⟩ := h
  obtain ⟨hbit, hbit'⟩ := sizeMask64_low k hk' hk
  obtain ⟨hsize, hsize'⟩ := size64_sizeMask64 k hk' hk
  obtain ⟨h1, h2⟩ := reads_low (r := r) (by rw [hmask, hbit]) (by rw [hmask, hbit'])
  unfold ones64 ones at hsize hsize' ⊢
  rw [h1, h2, hmask, hmask', hlow']
  rcases hlow with hlow | hlow
  · rw [hlow, hsize]
    exact ⟨by decide, by decide, k, hk, rfl⟩
  · rw [hlow, hsize']
    exact ⟨by decide, by decide, k, hk, rfl⟩

end BarReg

/-! ## 5. One function -/

/-- The header, and what its BARs are. -/
structure Fn.SameBars (f f' : Fn) : Prop where
  header : f'.header = f.header
  mask : ∀ i, (f'.bars i).mask = (f.bars i).mask
  low : ∀ i, (f'.bars i).low = (f.bars i).low

theorem Fn.SameBars.refl (f : Fn) : f.SameBars f := ⟨rfl, fun _ => rfl, fun _ => rfl⟩

theorem Fn.SameBars.trans {f f' f'' : Fn} (h : f.SameBars f') (h' : f'.SameBars f'') :
    f.SameBars f'' :=
  ⟨h'.header.trans h.header, fun i => (h'.mask i).trans (h.mask i),
    fun i => (h'.low i).trans (h.low i)⟩

theorem Fn.sameBars_writeBar (f : Fn) (i : ℕ) (v : UInt32) : f.SameBars (f.writeBar i v) := by
  have hbar : ∀ j, ((f.writeBar i v).bars j).mask = (f.bars j).mask ∧
      ((f.writeBar i v).bars j).low = (f.bars j).low := by
    intro j
    unfold Fn.writeBar
    by_cases hj : j = i
    · rw [hj]
      dsimp only
      rw [Function.update_self]
      exact ⟨rfl, rfl⟩
    · dsimp only
      rw [Function.update_of_ne hj]
      exact ⟨rfl, rfl⟩
  exact ⟨rfl, fun j => (hbar j).1, fun j => (hbar j).2⟩

theorem Fn.sameBars_write (f : Fn) (offset : ℕ) (v : UInt32) : f.SameBars (f.write offset v) := by
  unfold Fn.write
  split
  all_goals first
    | exact Fn.sameBars_writeBar f _ v
    | exact ⟨rfl, fun _ => rfl, fun _ => rfl⟩

section Registers

variable {f f' : Fn} {i : ℕ}

theorem Fn.SameBars.isAbsent (h : f.SameBars f') (hr : (f.bars i).IsAbsent) :
    (f'.bars i).IsAbsent :=
  ⟨(h.mask i).trans hr.1, (h.low i).trans hr.2⟩

theorem Fn.SameBars.isMem32 (h : f.SameBars f') (hr : (f.bars i).IsMem32) :
    (f'.bars i).IsMem32 := by
  unfold BarReg.IsMem32
  rw [h.mask, h.low]
  exact hr

theorem Fn.SameBars.isIo (h : f.SameBars f') (hr : (f.bars i).IsIo) : (f'.bars i).IsIo := by
  unfold BarReg.IsIo
  rw [h.mask, h.low]
  exact hr

theorem Fn.SameBars.isMem64 (h : f.SameBars f') (hr : (f.bars i).IsMem64 (f.bars (i + 1))) :
    (f'.bars i).IsMem64 (f'.bars (i + 1)) := by
  unfold BarReg.IsMem64
  rw [h.mask, h.mask, h.low, h.low]
  exact hr

/-- The offset of a BAR. -/
theorem Fn.read_bar (hf : f.isType1 = false) (hi : i < 6) :
    f.read (0x10 + 4 * i) = (f.bars i).read := by
  unfold Fn.read
  rw [hf]
  interval_cases i <;> rfl

theorem Fn.write_bar (hf : f.isType1 = false) (hi : i < 6) (v : UInt32) :
    f.write (0x10 + 4 * i) v = f.writeBar i v := by
  unfold Fn.write
  rw [hf]
  interval_cases i <;> rfl

theorem Fn.writeBar_self (f : Fn) (i : ℕ) (v : UInt32) :
    (f.writeBar i v).bars i = { f.bars i with value := v } := Function.update_self i _ f.bars

theorem Fn.writeBar_of_ne (f : Fn) {i j : ℕ} (h : j ≠ i) (v : UInt32) :
    (f.writeBar i v).bars j = f.bars j := Function.update_of_ne h _ f.bars

theorem probe32_bar (hf : f.isType1 = false) (hi : i < 6) :
    probe32 Fn.access (0x10 + 4 * i) f = ((f.bars i).ones, f.writeBar i 0xFFFFFFF0) := by
  have htype : (f.writeBar i 0xFFFFFFF0).isType1 = false := hf
  unfold probe32 Fn.access
  dsimp only
  rw [Fn.write_bar hf hi, Fn.read_bar htype hi, Fn.writeBar_self]
  rfl

theorem probe64_bar (hf : f.isType1 = false) (hi : i + 1 < 6) :
    (probe64 Fn.access (0x10 + 4 * i) f).1 = (f.bars i).ones64 (f.bars (i + 1)) := by
  have hnext : 0x10 + 4 * i + 4 = 0x10 + 4 * (i + 1) := by omega
  have hlt : i < 6 := by omega
  have hne : i + 1 ≠ i := by omega
  have htype : (f.writeBar i 0xFFFFFFF0).isType1 = false := hf
  have htype' : ((f.writeBar i 0xFFFFFFF0).writeBar (i + 1) 0xFFFFFFFF).isType1 = false := hf
  unfold probe64 Fn.access
  dsimp only
  rw [hnext, Fn.write_bar hf hlt, Fn.write_bar htype hi, Fn.read_bar htype' hlt,
    Fn.read_bar htype' hi, Fn.writeBar_self, Fn.writeBar_of_ne _ hne.symm, Fn.writeBar_self,
    Fn.writeBar_of_ne _ hne]
  rfl

end Registers

section Rounds

variable {f : Fn} {bus i : ℕ} {st : BarState Fn}

/-- The loop comes to register `i` of the function `f`. -/
structure AtBar (f : Fn) (bus i : ℕ) (st : BarState Fn) : Prop where
  offset : st.offset = 0x10 + 4 * i
  bars : f.SameBars st.cfg
  tracked : st.g.Tracked
  lastOn : st.g.LastOn bus st.last

/-- All a round does to the registers keeps what the BARs are. -/
theorem AtBar.next (h : AtBar f bus i st) {j : ℕ} {st' : BarState Fn}
    (hround : barRound Fn.access bus st = st') (hoffset : st'.offset = 0x10 + 4 * j)
    (htracked : st'.g.Tracked) (hlast : st'.g.LastOn bus st'.last) : AtBar f bus j st' where
  offset := hoffset
  bars := by
    rw [← hround]
    exact barRound_keeps (fun offset v s hs => hs.trans (Fn.sameBars_write s offset v)) bus h.bars
  tracked := htracked
  lastOn := hlast

theorem AtBar.isType1 (h : AtBar f bus i st) (hf : Fn.headerType f.header = 0) :
    st.cfg.isType1 = false := by
  unfold Fn.isType1
  rw [h.bars.header, hf]
  rfl

/-- Which BAR is at hand. -/
theorem AtBar.round (h : AtBar f bus i st) (hf : Fn.headerType f.header = 0) (hi : i < 6) :
    barRound Fn.access bus st = if isMemSpace (st.cfg.bars i).read then
      if is64Bit (st.cfg.bars i).read then programBar64 Fn.access bus st
      else programBar32 Fn.access bus st
    else programBarIo Fn.access bus st := by
  have hread : Fn.access.read st.offset st.cfg = (st.cfg.bars i).read := by
    rw [h.offset]
    exact Fn.read_bar (h.isType1 hf) hi
  unfold barRound
  rw [hread]

theorem AtBar.probe32 (h : AtBar f bus i st) (hf : Fn.headerType f.header = 0) (hi : i < 6) :
    Pcie.probe32 Fn.access st.offset st.cfg
      = ((st.cfg.bars i).ones, st.cfg.writeBar i 0xFFFFFFF0) := by
  rw [h.offset]
  exact probe32_bar (h.isType1 hf) hi

theorem AtBar.absent (h : AtBar f bus i st) (hf : Fn.headerType f.header = 0) (hi : i < 6)
    (hr : (f.bars i).IsAbsent) : AtBar f bus (i + 1) (barRound Fn.access bus st) := by
  obtain ⟨hmem, h64, hsize⟩ := (h.bars.isAbsent hr).reads
  have hround : barRound Fn.access bus st
      = (st.withCfg (st.cfg.writeBar i 0xFFFFFFF0)).moveOn 4 := by
    rw [h.round hf hi, hmem, h64, if_pos rfl, if_neg (by decide), programBar32, h.probe32 hf hi]
    dsimp only
    rw [if_pos hsize]
  rw [hround]
  refine h.next hround ?_ h.tracked h.lastOn
  have hoffset := h.offset
  change st.offset + 4 = 0x10 + 4 * (i + 1)
  omega

theorem AtBar.mem32 (h : AtBar f bus i st) (hf : Fn.headerType f.header = 0) (hi : i < 6)
    (hr : (f.bars i).IsMem32) : AtBar f bus (i + 1) (barRound Fn.access bus st) := by
  obtain ⟨hmem, h64, hsize⟩ := (h.bars.isMem32 hr).reads
  have hpos := hsize.pos
  have hround : barRound Fn.access bus st = programBar32 Fn.access bus st := by
    rw [h.round hf hi, hmem, h64, if_pos rfl, if_neg (by decide)]
  rw [hround]
  have hoffset := h.offset
  unfold programBar32 at hround ⊢
  rw [h.probe32 hf hi] at hround ⊢
  dsimp only at hround ⊢
  rw [if_neg (by omega)] at hround ⊢
  refine h.next hround ?_ (h.tracked.place .p h.lastOn hsize) (h.lastOn.place .p)
  change st.offset + 4 = 0x10 + 4 * (i + 1)
  omega

theorem AtBar.mem64 (h : AtBar f bus i st) (hf : Fn.headerType f.header = 0) (hi : i + 1 < 6)
    (hr : (f.bars i).IsMem64 (f.bars (i + 1))) :
    AtBar f bus (i + 2) (barRound Fn.access bus st) := by
  obtain ⟨hmem, h64, hsize⟩ := (h.bars.isMem64 hr).reads
  have hpos := hsize.pos
  have hround : barRound Fn.access bus st = programBar64 Fn.access bus st := by
    rw [h.round hf (by omega), hmem, h64, if_pos rfl, if_pos rfl]
  have hprobe : (probe64 Fn.access st.offset st.cfg).1
      = (st.cfg.bars i).ones64 (st.cfg.bars (i + 1)) := by
    rw [h.offset]
    exact probe64_bar (h.isType1 hf) hi
  rw [hround]
  have hoffset := h.offset
  unfold programBar64 at hround ⊢
  dsimp only at hround ⊢
  rw [hprobe, if_neg (by omega)] at hround ⊢
  refine h.next hround ?_ (h.tracked.place .p64 h.lastOn hsize) (h.lastOn.place .p64)
  change st.offset + 8 = 0x10 + 4 * (i + 2)
  omega

/-- An I/O BAR is never taken for the lower half of a 64-bit BAR. -/
theorem writeBarIo_bar (hoffset : st.offset = 0x10 + 4 * i) (htype : st.cfg.isType1 = false)
    (hi : i < 6) (hio : (st.cfg.bars i).IsIo) {start : ℕ} (hstart : 16 ∣ start) :
    writeBarIo Fn.access start st
      = (st.withCfg (st.cfg.writeBar i (UInt32.ofNat start))).moveOn 4 := by
  have hwrite : Fn.access.write st.offset (UInt32.ofNat start) st.cfg
      = st.cfg.writeBar i (UInt32.ofNat start) := by
    rw [hoffset]
    exact Fn.write_bar htype hi _
  have hread : Fn.access.read st.offset (st.cfg.writeBar i (UInt32.ofNat start))
      = BarReg.read { st.cfg.bars i with value := UInt32.ofNat start } := by
    rw [hoffset, ← Fn.writeBar_self]
    exact Fn.read_bar htype hi
  have hbit : is64Bit (BarReg.read { st.cfg.bars i with value := UInt32.ofNat start }) = false :=
    BarReg.IsIo.is64Bit_start hio hstart rfl
  unfold writeBarIo
  dsimp only
  rw [hwrite, hread, hbit, if_neg (by decide)]

theorem AtBar.io (h : AtBar f bus i st) (hf : Fn.headerType f.header = 0) (hi : i < 6)
    (hr : (f.bars i).IsIo) : AtBar f bus (i + 1) (barRound Fn.access bus st) := by
  have hio := h.bars.isIo hr
  obtain ⟨hmem, hsize⟩ := hio.reads
  have hpos := hsize.pos
  have htracked : Globals.Tracked
      (st.g.place .np bus st.offset (st.last .np) (size32 (st.cfg.bars i).ones)) :=
    h.tracked.place .np h.lastOn hsize
  -- the state once the BAR has its address
  let st₁ := ((st.withCfg (st.cfg.writeBar i 0xFFFFFFF0)).place .np bus
    (size32 (st.cfg.bars i).ones)).2
  have hround : barRound Fn.access bus st = writeBarIo Fn.access (st₁.g.pools .np).start st₁ := by
    rw [h.round hf hi, hmem, if_neg (by decide), programBarIo, h.probe32 hf hi]
    dsimp only
    rw [if_neg (by omega)]
    rfl
  have hoffset : st₁.offset = 0x10 + 4 * i := h.offset
  have hio' : (st₁.cfg.bars i).IsIo := by
    have hbar : st₁.cfg.bars i = { st.cfg.bars i with value := 0xFFFFFFF0 } :=
      Fn.writeBar_self st.cfg i _
    rw [hbar]
    exact hio
  have hround' := hround.trans
    (writeBarIo_bar hoffset (h.isType1 hf) hi hio' (htracked .np).aligned)
  rw [hround']
  refine h.next hround' ?_ htracked (h.lastOn.place .np)
  change st₁.offset + 4 = 0x10 + 4 * (i + 1)
  omega

/-- **The loop over the BARs.** -/
theorem barLoop_tracked (hf : Fn.headerType f.header = 0) (hbars : BarsFrom f.bars i) {n : ℕ}
    {st' : BarState Fn} (h : AtBar f bus i st) (hloop : barLoop Fn.access bus n st = some st') :
    st'.g.Tracked := by
  have hround : ∀ {st : BarState Fn} {n : ℕ}, st.offset ≤ 0x24 →
      barLoop Fn.access bus n st = some st' →
      ∃ m, barLoop Fn.access bus m (barRound Fn.access bus st) = some st' := by
    intro st n hle hloop
    cases n with
    | zero => exact absurd hloop (by simp [barLoop, hle])
    | succ n => exact ⟨n, by rw [barLoop, if_pos hle] at hloop; exact hloop⟩
  induction hbars generalizing st n with
  | done =>
    have hoffset := h.offset
    have hend : ¬ st.offset ≤ 0x24 := by omega
    cases n with
    | zero =>
      rw [barLoop, if_neg hend] at hloop
      exact Option.some.inj hloop ▸ h.tracked
    | succ n =>
      rw [barLoop, if_neg hend] at hloop
      exact Option.some.inj hloop ▸ h.tracked
  | absent hr hrest ih =>
    have hle := hrest.le
    have hoffset := h.offset
    obtain ⟨m, hm⟩ := hround (by omega) hloop
    exact ih (h.absent hf (by omega) hr) hm
  | mem32 hr hrest ih =>
    have hle := hrest.le
    have hoffset := h.offset
    obtain ⟨m, hm⟩ := hround (by omega) hloop
    exact ih (h.mem32 hf (by omega) hr) hm
  | io hr hrest ih =>
    have hle := hrest.le
    have hoffset := h.offset
    obtain ⟨m, hm⟩ := hround (by omega) hloop
    exact ih (h.io hf (by omega) hr) hm
  | mem64 hr hrest ih =>
    have hle := hrest.le
    have hoffset := h.offset
    obtain ⟨m, hm⟩ := hround (by omega) hloop
    exact ih (h.mem64 hf (by omega) hr) hm

/-- **A function**: its BARs get their addresses. -/
theorem palPcieProgramBarReg_tracked {g g' : Globals} {f' : Fn} (hf : f.PowerOfTwoBars)
    (htype : Fn.headerType f.header = 0) (hg : g.Tracked)
    (h : palPcieProgramBarReg Fn.access bus f g = some (f', g')) : g'.Tracked := by
  obtain ⟨st, hst, heq⟩ := Option.map_eq_some_iff.mp h
  obtain ⟨-, rfl⟩ := Prod.mk.inj heq
  have hstart : AtBar f bus 0 ⟨f, g, 0x10, fun _ => 0⟩ :=
    ⟨rfl, .refl f, hg, fun _ => Or.inl rfl⟩
  exact (barLoop_tracked htype (hf htype) hstart hst).setMax

end Rounds

/-! ## 6. The enumeration -/

theorem throughout_tracked : Throughout Fn.PowerOfTwoBars Globals.Tracked :=
  ⟨palPcieProgramBarReg_tracked, fun hg h => leaveBridge_tracked hg h⟩

/-- A hierarchy with its ECAM block, as the enumeration finds it. -/
structure IsHierarchy (fuel : ℕ) (ecam : Ecam) (t : Bus) : Prop where
  wf : t.Wf 0
  unprogrammed : t.Unprogrammed
  fits : ecam.startBus + t.bridgeCount ≤ ecam.endBus
  bars : t.AllDevices Fn.PowerOfTwoBars
  depth : t.depth < fuel

theorem enumerate_tracked {fuel : ℕ} {blocks : List (Ecam × Bus)} {g : Globals}
    (h : ∀ b ∈ blocks, IsHierarchy fuel b.1 b.2) (hg : g.Tracked) :
    ∃ ts g', palPcieEnumerate fuel blocks g = some (ts, g') ∧ g'.Tracked := by
  induction blocks generalizing g with
  | nil => exact ⟨[], g, rfl, hg⟩
  | cons b blocks ih =>
    obtain ⟨ecam, t⟩ := b
    have hb := h (ecam, t) List.mem_cons_self
    obtain ⟨sub, t', g₁, hrun, -, hg₁⟩ := enumerateDevice_numbers throughout_tracked hb.wf
      hb.unprogrammed hb.fits hb.bars hg hb.depth
    obtain ⟨ts, g', hrest, hg'⟩ := ih (fun b' hb' => h b' (List.mem_cons_of_mem _ hb')) hg₁
    refine ⟨palClearPriBus ecam t' :: ts, g', ?_, hg'⟩
    rw [palPcieEnumerate, hrun]
    dsimp only
    rw [hrest]
    rfl

theorem Globals.tracked_init : Globals.init.Tracked := by
  have htracks : ∀ p : Pool, 16 ∣ p.start → p.size = 0 → Tracks p [] := fun p hdvd hsize =>
    ⟨hdvd, Or.inl hsize, fun _ he => absurd he List.not_mem_nil, List.isChain_nil,
      fun _ hb => absurd hb (by simp)⟩
  intro kind
  cases kind with
  | np => exact htracks _ (by decide) rfl
  | p => exact htracks _ (by decide) rfl
  | p64 => exact htracks _ (by decide) rfl

/-- **The BARs are in their places exactly if each was programmed in a state that allows it.**  For
all hierarchies and all choices of BARs with powers of two as their sizes, `pal_pcie_enumerate`
returns, and then the BARs of each pool are apart and aligned if and only if every one of them was
programmed with the start of its pool at a multiple of its size and the last BAR of the pool out of
the way.  Addresses are numbers here: the hierarchies are taken to fit into the pools, so that no
start address wraps around at 2 ^ 32 (2 ^ 64 for the 64-bit BARs). -/
theorem enumerate_places_bars {fuel : ℕ} {blocks : List (Ecam × Bus)}
    (h : ∀ b ∈ blocks, IsHierarchy fuel b.1 b.2) :
    ∃ ts g', palPcieEnumerate fuel blocks .init = some (ts, g') ∧
      (BarsPlaced g'.history ↔ BarsClear g'.history) := by
  obtain ⟨ts, g', hrun, hg'⟩ := enumerate_tracked h Globals.tracked_init
  exact ⟨ts, g', hrun, forall_congr' fun kind => (hg' kind).placed_iff⟩

/-! ## 7. Two root ports -/

/-- A card with a BAR of 4 KB and one of 64 KB. -/
def twoBarFn : Fn := endpointFn [(0xFFFFF000, 0), (0xFFFF0000, 0)]

/-- A card with one BAR of 4 KB. -/
def cardFn : Fn := endpointFn [(0xFFFFF000, 0)]

theorem twoBarFn_powerOfTwoBars : twoBarFn.PowerOfTwoBars := by
  intro _
  have habsent : ∀ i, 2 ≤ i → (twoBarFn.bars i).IsAbsent := by
    intro i hi
    obtain ⟨j, rfl⟩ : ∃ j, i = j + 2 := ⟨i - 2, by omega⟩
    exact ⟨rfl, rfl⟩
  have hsmall : (twoBarFn.bars 0).IsMem32 :=
    ⟨⟨12, by decide, by decide, by decide +kernel⟩, Or.inl rfl⟩
  have hlarge : (twoBarFn.bars 1).IsMem32 :=
    ⟨⟨16, by decide, by decide, by decide +kernel⟩, Or.inl rfl⟩
  exact .mem32 hsmall (.mem32 hlarge (.absent (habsent 2 (by decide))
    (.absent (habsent 3 (by decide)) (.absent (habsent 4 (by decide))
      (.absent (habsent 5 (by decide)) .done)))))

theorem cardFn_powerOfTwoBars : cardFn.PowerOfTwoBars := by
  intro _
  have habsent : ∀ i, 1 ≤ i → (cardFn.bars i).IsAbsent := by
    intro i hi
    obtain ⟨j, rfl⟩ : ∃ j, i = j + 1 := ⟨i - 1, by omega⟩
    exact ⟨rfl, rfl⟩
  have hcard : (cardFn.bars 0).IsMem32 :=
    ⟨⟨12, by decide, by decide, by decide +kernel⟩, Or.inl rfl⟩
  exact .mem32 hcard (.absent (habsent 1 (by decide)) (.absent (habsent 2 (by decide))
    (.absent (habsent 3 (by decide)) (.absent (habsent 4 (by decide))
      (.absent (habsent 5 (by decide)) .done)))))

/-- A root port with a card below it, and two of them. -/
def onePort : Bus := .bridge 8 bridgeFn (.device 0 twoBarFn .empty) .empty

def twoPorts : Bus :=
  .bridge 8 bridgeFn (.device 0 cardFn .empty)
    (.bridge 16 bridgeFn (.device 0 cardFn .empty) .empty)

theorem onePort_isHierarchy : IsHierarchy 2 fvpEcam onePort where
  wf := ⟨by decide, by decide, bridgeFn_isBridge, bridgeFn_barsFit,
    ⟨by decide, by decide, endpointFn_not_isBridge _, trivial⟩, trivial⟩
  unprogrammed := ⟨by decide, by decide, trivial, trivial⟩
  fits := by decide
  bars := ⟨⟨twoBarFn_powerOfTwoBars, trivial⟩, trivial⟩
  depth := by decide

theorem twoPorts_isHierarchy : IsHierarchy 2 fvpEcam twoPorts where
  wf := ⟨by decide, by decide, bridgeFn_isBridge, bridgeFn_barsFit,
    ⟨by decide, by decide, endpointFn_not_isBridge _, trivial⟩,
    ⟨by decide, by decide, bridgeFn_isBridge, bridgeFn_barsFit,
      ⟨by decide, by decide, endpointFn_not_isBridge _, trivial⟩, trivial⟩⟩
  unprogrammed := ⟨by decide, by decide, trivial, by decide, by decide, trivial, trivial⟩
  fits := by decide
  bars := ⟨⟨cardFn_powerOfTwoBars, trivial⟩, ⟨cardFn_powerOfTwoBars, trivial⟩, trivial⟩
  depth := by decide

theorem enumerate_places_two_sizes :
    IsHierarchy 2 fvpEcam onePort ∧ ∃ ts g',
      palPcieEnumerate 2 [(fvpEcam, onePort)] .init = some (ts, g') ∧
        g'.history.map (fun e => (e.size, e.address)) =
          [(0x1000, 0x50600000), (0x10000, 0x50610000)] ∧
        (BarsPlaced g'.history ↔ BarsClear g'.history) := by
  obtain ⟨ts, g', hrun, hiff⟩ := @enumerate_places_bars 2 [(fvpEcam, onePort)]
    (List.forall_mem_singleton.mpr onePort_isHierarchy)
  have hhistory : (palPcieEnumerate 2 [(fvpEcam, onePort)] .init).map
      (fun r => r.2.history.map fun e => (e.size, e.address))
        = some [(0x1000, 0x50600000), (0x10000, 0x50610000)] := by decide +kernel
  rw [hrun] at hhistory
  exact ⟨onePort_isHierarchy, ts, g', hrun, Option.some.inj hhistory, hiff⟩

/-- The first root port has not moved the start of the pool, so the second card gets the address of
the first. -/
theorem enumerate_overlaps_bars :
    IsHierarchy 2 fvpEcam twoPorts ∧ ∃ ts g',
      palPcieEnumerate 2 [(fvpEcam, twoPorts)] .init = some (ts, g') ∧
        ¬ BarsPlaced g'.history := by
  obtain ⟨ts, g', hrun, -⟩ := @enumerate_tracked 2 [(fvpEcam, twoPorts)] .init
    (List.forall_mem_singleton.mpr twoPorts_isHierarchy) Globals.tracked_init
  have hhistory : (palPcieEnumerate 2 [(fvpEcam, twoPorts)] .init).map (fun r => r.2.history)
      = some [⟨.p, 1, 0x10, 0x1000, 0x50600000, ⟨0x50600000, 0, 0, 0⟩, 0⟩,
          ⟨.p, 2, 0x10, 0x1000, 0x50600000, ⟨0x50600000, 0x50600000, 0x1000, 1⟩, 0⟩] := by
    decide +kernel
  rw [hrun] at hhistory
  refine ⟨twoPorts_isHierarchy, ts, g', hrun, fun hplaced => ?_⟩
  have hapart := (hplaced .p).1
  have hlist : g'.history = _ := Option.some.inj hhistory
  rw [hlist] at hapart
  exact absurd hapart (by decide)

end RmmAcs.Pcie
