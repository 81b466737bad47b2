/-
# The numbers of the buses

`pal_pcie_enumerate_device` numbers the buses in the order in which it comes to them: a bus before
the buses below it, and all of those before the next bridge of the bus above.  So the numbers below
a bridge are consecutive, and its range `[secondary, subordinate]` is exactly theirs.

While the walk is below a bridge, the bridge and all the bridges above it have 0xFF as their
subordinate bus, so that accesses to numbers not yet given get through.  A `Cursor` says what an
access finds in the middle of the walk: on the bus of the walk, from the current slot on, and on the
numbers that are still free, it finds what is left to be visited.  `scan_numbers` carries it through
the tree.
-/
import RmmAcs.Pcie.Access

namespace RmmAcs.Pcie

/-! ## 1. Hierarchies -/

/-- A function that the enumeration takes for a bridge. -/
structure Fn.IsBridge (f : Fn) : Prop where
  vendor : f.vendorId ≠ 0
  present : f.vendorId ≠ 0xFFFFFFFF
  notHost : isHostBridge f.classCode = false
  type1 : Fn.headerType f.header = 1

/-- A Type 1 header has two BAR registers: a 64-bit BAR needs both. -/
def Fn.BarsFit (f : Fn) : Prop := is64Bit (f.readBar 1) = true → is64Bit (f.readBar 0) = true

namespace Bus

/-- **A hierarchy**: the slots of a bus ascend from `lo`, there are 256 of them, and the bridges are
the nodes with a bus below them.  Everything else is a Type 0 function, a host bridge, or something
the enumeration passes over. -/
def Wf : ℕ → Bus → Prop
  | _, empty => True
  | lo, device s f rest => lo ≤ s ∧ s < 256 ∧ ¬ f.IsBridge ∧ rest.Wf (s + 1)
  | lo, bridge s f below rest =>
    lo ≤ s ∧ s < 256 ∧ f.IsBridge ∧ f.BarsFit ∧ below.Wf 0 ∧ rest.Wf (s + 1)

/-- No bridge has been programmed yet. -/
def Unprogrammed : Bus → Prop
  | empty => True
  | device _ _ rest => rest.Unprogrammed
  | bridge _ f below rest => f.sec = 0 ∧ f.sub = 0 ∧ below.Unprogrammed ∧ rest.Unprogrammed

/-- The number of bridges, at any depth. -/
def bridgeCount : Bus → ℕ
  | empty => 0
  | device _ _ rest => rest.bridgeCount
  | bridge _ _ below rest => 1 + below.bridgeCount + rest.bridgeCount

/-- How many buses there are above one another. -/
def depth : Bus → ℕ
  | empty => 0
  | device _ _ rest => rest.depth
  | bridge _ _ below rest => max (below.depth + 1) rest.depth

/-- The numbers of the buses below, by the secondary bus numbers. -/
def numbers : Bus → List ℕ
  | empty => []
  | device _ _ rest => rest.numbers
  | bridge _ f below rest => f.sec :: (below.numbers ++ rest.numbers)

/-- The bridges at any depth, with the buses below them. -/
def bridges : Bus → List (Fn × Bus)
  | empty => []
  | device _ _ rest => rest.bridges
  | bridge _ f below rest => (f, below) :: (below.bridges ++ rest.bridges)

/-- The bridges on the bus itself. -/
def ports : Bus → List Fn
  | empty => []
  | device _ _ rest => rest.ports
  | bridge _ f _ rest => f :: rest.ports

/-- All functions but the bridges. -/
def AllDevices (Q : Fn → Prop) : Bus → Prop
  | empty => True
  | device _ f rest => Q f ∧ rest.AllDevices Q
  | bridge _ _ below rest => below.AllDevices Q ∧ rest.AllDevices Q

/-- The same functions in the same places. -/
def SameHierarchy : Bus → Bus → Prop
  | empty, empty => True
  | device s f rest, device s' f' rest' =>
    s' = s ∧ f'.vendorId = f.vendorId ∧ f'.classCode = f.classCode ∧ f'.header = f.header ∧
      rest.SameHierarchy rest'
  | bridge s f below rest, bridge s' f' below' rest' =>
    s' = s ∧ f'.vendorId = f.vendorId ∧ f'.classCode = f.classCode ∧ f'.header = f.header ∧
      below.SameHierarchy below' ∧ rest.SameHierarchy rest'
  | _, _ => False

end Bus

/-- **The buses are numbered.**  The numbers are all different and in the ECAM; an access to the
secondary bus number of a bridge finds the bus below it; the subordinate bus number is the largest
number below; the range of a bridge holds exactly the numbers below it; on every bus the ranges of
the bridges come one after the other; and the range of a bridge holds those of the bridges below. -/
structure BusesNumbered (ecam : Ecam) (t t' : Bus) : Prop where
  same : t.SameHierarchy t'
  unique : (ecam.startBus :: t'.numbers).Nodup
  inEcam : ∀ x ∈ t'.numbers, ecam.startBus < x ∧ x ≤ ecam.endBus
  below : ∀ b ∈ t'.bridges, ∀ slot, t'.lookup ecam.startBus b.1.sec slot = b.2.find slot
  largest : ∀ b ∈ t'.bridges,
    b.1.sub ∈ b.1.sec :: b.2.numbers ∧ ∀ x ∈ b.1.sec :: b.2.numbers, x ≤ b.1.sub
  exact : ∀ b ∈ t'.bridges, ∀ x, (b.1.sec ≤ x ∧ x ≤ b.1.sub) ↔ x ∈ b.1.sec :: b.2.numbers
  siblings : ∀ u ∈ t' :: t'.bridges.map Prod.snd, u.ports.Pairwise fun f g => f.sub < g.sec
  nested : ∀ b ∈ t'.bridges, ∀ f ∈ b.2.ports, b.1.sec < f.sec ∧ f.sub ≤ b.1.sub

/-! ## 2. The registers -/

/-- The bus number register, as the numbers that are in it. -/
theorem busNumRegCfg_toNat {sub sec pri : ℕ} (hsub : sub < 256) (hsec : sec < 256)
    (hpri : pri < 256) : (busNumRegCfg sub sec pri).toNat = sub * 65536 + sec * 256 + pri := by
  have hlow : sec <<< 8 ||| pri = sec * 256 + pri := by
    rw [← Nat.shiftLeft_add_eq_or_of_lt (by simpa using hpri), Nat.shiftLeft_eq]
  have hor : sub <<< 16 ||| sec <<< 8 ||| pri = sub * 65536 + sec * 256 + pri := by
    rw [Nat.or_assoc, hlow, ← Nat.shiftLeft_add_eq_or_of_lt (by omega), Nat.shiftLeft_eq]
    omega
  rw [busNumRegCfg, hor]
  exact UInt32.toNat_ofNat_of_lt' (by
    change _ < 4294967296
    omega)

theorem Fn.sec_eq {f : Fn} {sub sec pri : ℕ} (h : f.busNum = busNumRegCfg sub sec pri)
    (hsub : sub < 256) (hsec : sec < 256) (hpri : pri < 256) : f.sec = sec := by
  have hreg := busNumRegCfg_toNat hsub hsec hpri
  rw [Fn.sec, h, UInt32.toNat_and, UInt32.toNat_shiftRight, hreg]
  have hmask : (0xFF : UInt32).toNat = 2 ^ 8 - 1 := rfl
  have hshift : (8 : UInt32).toNat % 32 = 8 := rfl
  rw [hmask, hshift, Nat.and_two_pow_sub_one_eq_mod, Nat.shiftRight_eq_div_pow]
  omega

theorem Fn.sub_eq {f : Fn} {sub sec pri : ℕ} (h : f.busNum = busNumRegCfg sub sec pri)
    (hsub : sub < 256) (hsec : sec < 256) (hpri : pri < 256) : f.sub = sub := by
  have hreg := busNumRegCfg_toNat hsub hsec hpri
  rw [Fn.sub, h, UInt32.toNat_and, UInt32.toNat_shiftRight, hreg]
  have hmask : (0xFF : UInt32).toNat = 2 ^ 8 - 1 := rfl
  have hshift : (16 : UInt32).toNat % 32 = 16 := rfl
  rw [hmask, hshift, Nat.and_two_pow_sub_one_eq_mod, Nat.shiftRight_eq_div_pow]
  omega

/-- What identifies a function. -/
structure Fn.SameIds (f f' : Fn) : Prop where
  vendorId : f'.vendorId = f.vendorId
  classCode : f'.classCode = f.classCode
  header : f'.header = f.header

namespace Fn

variable {f f' : Fn} {offset : ℕ} {v : UInt32}

theorem SameIds.refl (f : Fn) : f.SameIds f := ⟨rfl, rfl, rfl⟩

theorem SameIds.trans {f'' : Fn} (h : f.SameIds f') (h' : f'.SameIds f'') : f.SameIds f'' :=
  ⟨h'.vendorId.trans h.vendorId, h'.classCode.trans h.classCode, h'.header.trans h.header⟩

theorem SameIds.isType1 (h : f.SameIds f') : f'.isType1 = f.isType1 := by
  rw [Fn.isType1, Fn.isType1, h.header]

/-- The registers that identify a function cannot be written. -/
theorem sameIds_write (f : Fn) (offset : ℕ) (v : UInt32) : f.SameIds (f.write offset v) := by
  unfold Fn.write
  split <;> exact ⟨rfl, rfl, rfl⟩

/-- The bus numbers of a bridge are in one register. -/
theorem write_busNum (h : offset ≠ 0x18) : (f.write offset v).busNum = f.busNum := by
  unfold Fn.write
  split <;> first | rfl | exact absurd rfl h

theorem write_busNum_self (h : f.isType1 = true) : (f.write 0x18 v).busNum = v := by
  unfold Fn.write
  rw [h]
  rfl

theorem SameIds.isBridge (h : f.SameIds f') (hf : f.IsBridge) : f'.IsBridge :=
  ⟨h.vendorId ▸ hf.vendor, h.vendorId ▸ hf.present, h.classCode ▸ hf.notHost, h.header ▸ hf.type1⟩

theorem IsBridge.isType1 (hf : f.IsBridge) : f.isType1 = true := by
  rw [Fn.isType1, hf.type1]
  rfl

end Fn

/-! ## 3. What happens to a bridge -/

section Bridge

variable {f f' f'' : Fn} {g g' : Globals}

/-- A bridge keeps its identity, its BARs and its bus numbers. -/
structure Fn.Kept (f f' : Fn) : Prop where
  ids : f.SameIds f'
  bars : f'.bars = f.bars
  busNum : f'.busNum = f.busNum

theorem Fn.Kept.refl (f : Fn) : f.Kept f := ⟨.refl f, rfl, rfl⟩

theorem Fn.Kept.trans (h : f.Kept f') (h' : f'.Kept f'') : f.Kept f'' :=
  ⟨h.ids.trans h'.ids, h'.bars.trans h.bars, h'.busNum.trans h.busNum⟩

theorem Fn.write_bars (hf : f.isType1 = true) {offset : ℕ} (h0 : offset ≠ 0x10)
    (h1 : offset ≠ 0x14) (v : UInt32) : (f.write offset v).bars = f.bars := by
  unfold Fn.write
  split
  all_goals first | rfl | exact absurd rfl h0 | exact absurd rfl h1 | simp_all

/-- The command register and the windows. -/
theorem Fn.Kept.write (h : f.Kept f') (hf : f.IsBridge) {offset : ℕ}
    (hne : offset ≠ 0x10 ∧ offset ≠ 0x14 ∧ offset ≠ 0x18) (v : UInt32) :
    f.Kept (f'.write offset v) := by
  have htype : f'.isType1 = true := h.ids.isType1.trans hf.isType1
  exact h.trans ⟨Fn.sameIds_write f' offset v, Fn.write_bars htype hne.1 hne.2.1 v,
    Fn.write_busNum hne.2.2⟩

/-- The bus numbers are written. -/
theorem Fn.write_renumbers (hf : f.IsBridge) (v : UInt32) :
    f.SameIds (f.write 0x18 v) ∧ (f.write 0x18 v).bars = f.bars ∧ (f.write 0x18 v).busNum = v :=
  ⟨Fn.sameIds_write f 0x18 v, Fn.write_bars hf.isType1 (by decide) (by decide) v,
    Fn.write_busNum_self hf.isType1⟩

/-- **On the way down**: the bridge has its secondary bus, and 0xFF. -/
theorem enterBridge_fn (hf : f.IsBridge) (bus sec : ℕ) (g : Globals) :
    f.SameIds (enterBridge Fn.access bus sec g f) ∧
      (enterBridge Fn.access bus sec g f).bars = f.bars ∧
      (enterBridge Fn.access bus sec g f).busNum = busNumRegCfg 0xFF sec bus := by
  have hfirst : f.Kept (f.write 0x4 (f.read 0x4 ||| 7)) := (Fn.Kept.refl f).write hf (by decide) _
  obtain ⟨hids, hbars, hbus⟩ := Fn.write_renumbers (hfirst.ids.isBridge hf)
    (busNumRegCfg 0xFF sec bus)
  have hbridge := hids.isBridge (hfirst.ids.isBridge hf)
  have hwindows : ∀ {b : Fn}, b.IsBridge → ∀ v w, b.Kept ((b.write 0x20 v).write 0x24 w) :=
    fun hb v w => ((Fn.Kept.refl _).write hb (by decide) v).write hb (by decide) w
  have hrest := hwindows hbridge ((UInt32.ofNat (g.pools .np).start >>> 16) &&& 0xFFF0)
    ((UInt32.ofNat (g.pools .p).start >>> 16) &&& 0xFFF0)
  exact ⟨(hfirst.ids.trans hids).trans hrest.ids, (hrest.bars.trans hbars).trans hfirst.bars,
    hrest.busNum.trans hbus⟩

theorem resourceBase32_fn (hf : f.IsBridge) (kind : PoolKind) (offset : ℕ)
    (hne : offset ≠ 0x10 ∧ offset ≠ 0x14 ∧ offset ≠ 0x18) (base limit : ℕ) (g : Globals) :
    f.Kept (resourceBase32 Fn.access kind offset base limit f g).1 := by
  unfold resourceBase32
  dsimp only
  split
  · exact (Fn.Kept.refl f).write hf hne _
  · exact .refl f

theorem getResourceBase32_fn (hf : f.IsBridge) (pBase npBase pLimit npLimit : ℕ) (g : Globals) :
    f.Kept (getResourceBase32 Fn.access pBase npBase pLimit npLimit f g).1 := by
  have hnp := resourceBase32_fn hf .np 0x20 (by decide) npBase npLimit g
  have hp := resourceBase32_fn (hnp.ids.isBridge hf) .p 0x24 (by decide) pBase pLimit
    (resourceBase32 Fn.access .np 0x20 npBase npLimit f g).2
  exact hnp.trans hp

theorem getResourceBase64_fn (hf : f.IsBridge) (base limit : ℕ) (g : Globals) :
    f.Kept (getResourceBase64 Fn.access base limit f g).1 := by
  unfold getResourceBase64
  dsimp only
  split
  · exact (((Fn.Kept.refl f).write hf (by decide) _).write hf (by decide) _).write hf (by decide) _
  · exact .refl f

/-- Identity and bus numbers. -/
def Fn.KeptIds (f f' : Fn) : Prop := f.SameIds f' ∧ f'.busNum = f.busNum

theorem Fn.KeptIds.write (h : f.KeptIds f') {offset : ℕ} (hne : offset ≠ 0x18) (v : UInt32) :
    f.KeptIds (f'.write offset v) :=
  ⟨h.1.trans (Fn.sameIds_write f' offset v), (Fn.write_busNum hne).trans h.2⟩

/-- One BAR of a bridge, where it does not reach into the bus numbers. -/
theorem rpBarRound_fn (f : Fn) (rpBar32 : UInt32) {offset : ℕ} (rpBar64 : UInt64)
    (hne : offset ≠ 0x18) (h64 : is64Bit (f.read offset) = true → offset + 4 ≠ 0x18) :
    f.KeptIds (rpBarRound Fn.access (f, rpBar32, offset) rpBar64).1 := by
  have hself : f.KeptIds f := ⟨.refl f, rfl⟩
  unfold rpBarRound
  dsimp only
  split
  · rename_i hbit
    have hprobe := (hself.write hne 0xFFFFFFF0).write (h64 hbit) 0xFFFFFFFF
    split
    · exact hprobe
    · exact (hprobe.write hne _).write (h64 hbit) _
  · have hprobe := hself.write hne 0xFFFFFFF0
    split
    · exact hprobe
    · exact hprobe.write hne _

/-- What the first BAR does to the second, if it is a 32-bit BAR. -/
theorem rpBarRound_second {f : Fn} (h64 : is64Bit (f.readBar 0) = false) (rpBar32 : UInt32)
    (rpBar64 : UInt64) :
    (rpBarRound Fn.access (f, rpBar32, 0x10) rpBar64).2.2 = 0x14 ∧
      (rpBarRound Fn.access (f, rpBar32, 0x10) rpBar64).1.readBar 1 = f.readBar 1 := by
  have hread : Fn.access.read 0x10 f = f.readBar 0 := rfl
  have hwrite : ∀ (f : Fn) v, (f.writeBar 0 v).readBar 1 = f.readBar 1 := by
    intro f v
    have hbar : (f.writeBar 0 v).bars 1 = f.bars 1 := by simp [Fn.writeBar]
    rw [Fn.readBar, hbar, Fn.readBar]
  unfold rpBarRound
  dsimp only
  rw [hread, h64]
  simp only [Bool.false_eq_true, if_false]
  split
  · exact ⟨rfl, hwrite f _⟩
  · exact ⟨rfl, (hwrite (f.writeBar 0 _) _).trans (hwrite f _)⟩

theorem rpBarRound_both {f : Fn} (h64 : is64Bit (f.readBar 0) = true) (rpBar32 : UInt32)
    (rpBar64 : UInt64) : (rpBarRound Fn.access (f, rpBar32, 0x10) rpBar64).2.2 = 0x18 := by
  have hread : Fn.access.read 0x10 f = f.readBar 0 := rfl
  unfold rpBarRound
  dsimp only
  rw [hread, if_pos h64]
  split <;> rfl

/-- **The BARs of a bridge** are beside its bus numbers. -/
theorem rpProgramBar_fn (hfit : f.BarsFit) {f' : Fn}
    (h : palPcieRpProgramBar Fn.access f g = some (f', g')) : f.KeptIds f' := by
  obtain ⟨⟨f₁, rp⟩, hloop, heq⟩ := Option.map_eq_some_iff.mp h
  obtain ⟨rfl, -⟩ := Prod.mk.inj heq
  have hfirst : f.KeptIds (rpBarRound Fn.access (f, g.rpBar32, 0x10) g.rpBar64).1 :=
    rpBarRound_fn f _ _ (by decide) fun _ => by decide
  rw [rpBarLoop, if_pos (by norm_num), rpBarLoop] at hloop
  cases h64 : is64Bit (f.readBar 0) with
  | true =>
    rw [rpBarRound_both h64, if_neg (by norm_num)] at hloop
    obtain ⟨rfl, -⟩ := Prod.mk.inj (Option.some.inj hloop)
    exact hfirst
  | false =>
    obtain ⟨hoffset, hbar⟩ := rpBarRound_second h64 g.rpBar32 g.rpBar64
    generalize hr : rpBarRound Fn.access (f, g.rpBar32, 0x10) g.rpBar64 = r at *
    obtain ⟨f₂, rp₂, offset⟩ := r
    obtain rfl : offset = 0x14 := hoffset
    have hsecond : f₂.KeptIds (rpBarRound Fn.access (f₂, rp₂, 0x14) g.rpBar64).1 := by
      refine rpBarRound_fn f₂ _ _ (by decide) fun hbit => ?_
      -- the second BAR is no 64-bit BAR, since the first is none
      have hread : f₂.read 0x14 = f.readBar 1 := hbar
      rw [hread] at hbit
      exact absurd (hfit hbit) (by simp [h64])
    rw [if_pos (by norm_num), rpBarLoop] at hloop
    split at hloop
    · exact absurd hloop (by simp)
    · obtain ⟨rfl, -⟩ := Prod.mk.inj (Option.some.inj hloop)
      exact ⟨hfirst.1.trans hsecond.1, hsecond.2.trans hfirst.2⟩

/-- **On the way up**: the bridge has its numbers. -/
theorem leaveBridge_fn (hf : f.IsBridge) (hfit : f.BarsFit) {bus sub sec : ℕ}
    {base : PoolKind → ℕ} (h : leaveBridge Fn.access bus sub sec base f g = some (f', g')) :
    f.SameIds f' ∧ f'.busNum = busNumRegCfg sub sec bus := by
  obtain ⟨hids, hbars, hbus⟩ := Fn.write_renumbers hf (busNumRegCfg sub sec bus)
  have hbridge := hids.isBridge hf
  unfold leaveBridge at h
  dsimp only at h
  set f₁ := f.write 0x18 (busNumRegCfg sub sec bus)
  set r := getResourceBase32 Fn.access (base .p) (base .np) (g.pools .p).max (g.pools .np).max f₁ g
  have h32 : f₁.Kept r.1 := getResourceBase32_fn hbridge _ _ _ _ g
  set q := getResourceBase64 Fn.access (base .p64) (r.2.pools .p64).max r.1 r.2
  have h64 : r.1.Kept q.1 := getResourceBase64_fn (h32.ids.isBridge hbridge) _ _ r.2
  have hkept := h32.trans h64
  have hfit' : q.1.BarsFit := by
    unfold Fn.BarsFit Fn.readBar at hfit ⊢
    rw [hkept.bars, hbars]
    exact hfit
  obtain ⟨hids', hbus'⟩ := rpProgramBar_fn hfit' h
  exact ⟨(hids.trans hkept.ids).trans hids', (hbus'.trans hkept.busNum).trans hbus⟩

end Bridge

/-! ## 4. The cursor -/

/-- **In the middle of the walk**, on the bus `bus`: what is left to be visited goes into `plug`.
Accesses to the bus, from the slot `lo` on, and to the numbers from `next` on find it there. -/
structure Cursor (root bus lo next : ℕ) (plug : Bus → Bus) : Prop where
  find : ∀ t slot, lo ≤ slot → (plug t).lookup root bus slot = t.find slot
  update : ∀ t slot g, lo ≤ slot → (plug t).modify root bus slot g = plug (t.update slot g)
  findBelow : ∀ t x slot, next ≤ x → x ≤ 255 → (plug t).lookup root x slot = t.findBelow x slot
  updateBelow : ∀ t x slot g, next ≤ x → x ≤ 255 →
    (plug t).modify root x slot g = plug (t.updateBelow x slot g)

section Cursor

variable {root bus lo next s : ℕ} {plug : Bus → Bus} {f : Fn} {below rest : Bus}

theorem Cursor.start (root : ℕ) : Cursor root root 0 (root + 1) id where
  find := fun _ _ _ => if_pos rfl
  update := fun _ _ _ _ => if_pos rfl
  findBelow := fun _ x _ hx _ => if_neg (by omega)
  updateBelow := fun _ x _ _ hx _ => if_neg (by omega)

/-- Past a function. -/
theorem Cursor.device (h : Cursor root bus lo next plug) (hs : lo ≤ s) (f : Fn) :
    Cursor root bus (s + 1) next fun t => plug (.device s f t) where
  find := by
    intro t slot hslot
    rw [h.find _ slot (by omega), Bus.find, if_neg (by omega)]
  update := by
    intro t slot g hslot
    rw [h.update _ slot g (by omega), Bus.update, if_neg (by omega)]
  findBelow := fun t x slot hx hx' => h.findBelow _ x slot hx hx'
  updateBelow := fun t x slot g hx hx' => h.updateBelow _ x slot g hx hx'

/-- Past a bridge: its range is taken. -/
theorem Cursor.bridge (h : Cursor root bus lo next plug) (hs : lo ≤ s) (below : Bus) {next' : ℕ}
    (hnext : next ≤ next') (hsub : f.sub < next') :
    Cursor root bus (s + 1) next' fun t => plug (.bridge s f below t) where
  find := by
    intro t slot hslot
    rw [h.find _ slot (by omega), Bus.find, if_neg (by omega)]
  update := by
    intro t slot g hslot
    rw [h.update _ slot g (by omega), Bus.update, if_neg (by omega)]
  findBelow := by
    intro t x slot hx hx'
    have hclaims : ¬ f.Claims x := fun hc => by
      have := hc.2
      omega
    rw [h.findBelow _ x slot (hnext.trans hx) hx', Bus.findBelow, if_neg hclaims]
  updateBelow := by
    intro t x slot g hx hx'
    have hclaims : ¬ f.Claims x := fun hc => by
      have := hc.2
      omega
    rw [h.updateBelow _ x slot g (hnext.trans hx) hx', Bus.updateBelow, if_neg hclaims]

theorem Bus.Unprogrammed.quiet {t : Bus} (h : t.Unprogrammed) {x : ℕ} (hx : 0 < x) : t.Quiet x := by
  induction t with
  | empty => trivial
  | device s f rest ih => exact ih h
  | bridge s f below rest _ ih =>
    refine ⟨fun hc => ?_, ih h.2.2.2⟩
    have hle := hc.2
    rw [h.2.1] at hle
    omega

/-- **Down into a bridge**, which has the next number and 0xFF. -/
theorem Cursor.enter (h : Cursor root bus lo next plug) (hsec : f.sec = next) (hsub : f.sub = 255)
    (hpos : 0 < next) (hnext : next ≤ 255) (hrest : rest.Unprogrammed) :
    Cursor root next 0 (next + 1) fun t => plug (.bridge s f t rest) := by
  have hclaims : ∀ x, next ≤ x → x ≤ 255 → f.Claims x := fun x hx hx' =>
    ⟨hsec.trans_le hx, hx'.trans_eq hsub.symm⟩
  refine ⟨?_, ?_, ?_, ?_⟩
  · intro t slot _
    rw [h.findBelow _ next slot (le_refl _) hnext, Bus.findBelow,
      if_pos (hclaims next (le_refl _) hnext), if_pos (hrest.quiet hpos), if_pos hsec.symm]
  · intro t slot g _
    rw [h.updateBelow _ next slot g (le_refl _) hnext, Bus.updateBelow,
      if_pos (hclaims next (le_refl _) hnext), if_pos (hrest.quiet hpos), if_pos hsec.symm]
  · intro t x slot hx hx'
    rw [h.findBelow _ x slot (by omega) hx', Bus.findBelow, if_pos (hclaims x (by omega) hx'),
      if_pos (hrest.quiet (by omega)), if_neg (by omega)]
  · intro t x slot g hx hx'
    rw [h.updateBelow _ x slot g (by omega) hx', Bus.updateBelow,
      if_pos (hclaims x (by omega) hx'), if_pos (hrest.quiet (by omega)), if_neg (by omega)]

/-- The function at the cursor, through the configuration space. -/
theorem Cursor.sim_device (h : Cursor root bus lo next plug) (hs : lo ≤ s) (rest : Bus) :
    Fn.access.Sim (palPciCfg root bus s) fun f => plug (.device s f rest) where
  read := by
    intro offset f
    have hfind : (plug (.device s f rest)).lookup root bus s = some f := by
      rw [h.find _ s hs, Bus.find, if_pos rfl]
    simp only [palPciCfg, hfind, Fn.access]
  write := by
    intro offset v f
    simp only [palPciCfg, Fn.access]
    rw [h.update _ s _ hs, Bus.update, if_pos rfl]

theorem Cursor.sim_bridge (h : Cursor root bus lo next plug) (hs : lo ≤ s) (below rest : Bus) :
    Fn.access.Sim (palPciCfg root bus s) fun f => plug (.bridge s f below rest) where
  read := by
    intro offset f
    have hfind : (plug (.bridge s f below rest)).lookup root bus s = some f := by
      rw [h.find _ s hs, Bus.find, if_pos rfl]
    simp only [palPciCfg, hfind, Fn.access]
  write := by
    intro offset v f
    simp only [palPciCfg, Fn.access]
    rw [h.update _ s _ hs, Bus.update, if_pos rfl]

end Cursor

/-! ## 5. One slot -/

/-- **Numbered in order.**  From `next` on, the buses below a bus with the number `pri` have been
numbered up to `next'`: a bus before the buses below it, and those before the bridges to its right. -/
inductive Numbers : ℕ → ℕ → Bus → Bus → ℕ → Prop where
  | empty (pri next : ℕ) : Numbers pri next .empty .empty next
  | device {pri next next' s : ℕ} {f f' : Fn} {rest rest' : Bus} :
      f.SameIds f' → Numbers pri next rest rest' next' →
      Numbers pri next (.device s f rest) (.device s f' rest') next'
  | bridge {pri next mid next' s : ℕ} {f f' : Fn} {below below' rest rest' : Bus} :
      f.SameIds f' → f'.busNum = busNumRegCfg (mid - 1) next pri →
      Numbers next (next + 1) below below' mid → Numbers pri mid rest rest' next' →
      Numbers pri next (.bridge s f below rest) (.bridge s f' below' rest') next'

section Slot

variable {ecam : Ecam} {rec : ℕ → ℕ → Bus → Globals → Option (ℕ × Bus × Globals)}
  {bus lo next s slot : ℕ} {plug : Bus → Bus} {f : Fn} {below below' rest : Bus} {st : Scan}

/-- An empty slot. -/
theorem scanSlot_absent (h : st.tree.lookup ecam.startBus bus slot = none) :
    scanSlot ecam rec bus st slot = some st := by
  have hread : (palPciCfg ecam.startBus bus slot).read 0 st.tree = 0xFFFFFFFF := by
    simp only [palPciCfg, h]
  unfold scanSlot
  dsimp only
  rw [hread, if_pos (Or.inr rfl)]

/-- Empty slots, one after the other. -/
theorem scan_absent {i n : ℕ}
    (h : ∀ slot, i ≤ slot → slot < i + n → st.tree.lookup ecam.startBus bus slot = none) :
    (List.range' i n).foldlM (scanSlot ecam rec bus) st = some st := by
  induction n generalizing i with
  | zero => rfl
  | succ n ih =>
    rw [List.range'_succ, List.foldlM_cons, scanSlot_absent (h i (le_refl _) (by omega))]
    exact ih fun slot hle hlt => h slot (by omega) (by omega)

variable (rec) in
/-- **A slot without a bridge.** -/
theorem scanSlot_device (hcur : Cursor ecam.startBus bus lo next plug) (hs : lo ≤ s)
    (hf : ¬ f.IsBridge) (htree : st.tree = plug (.device s f rest)) (hsub : st.sub = st.sec - 1) :
    ∃ st' f', scanSlot ecam rec bus st s = some st' ∧ st'.tree = plug (.device s f' rest) ∧
      f.SameIds f' ∧ st'.sec = st.sec ∧ st'.sub = st.sec - 1 ∧
      (st'.g = st.g ∨ (Fn.headerType f.header = 0 ∧
        palPcieProgramBarReg Fn.access bus f st.g = some (f', st'.g))) := by
  have hsim := hcur.sim_device hs rest
  have hread : ∀ offset, (palPciCfg ecam.startBus bus s).read offset st.tree = f.read offset := by
    intro offset
    rw [htree]
    exact hsim.read offset f
  have hpass : ∃ st' f', some st = some st' ∧ st'.tree = plug (.device s f' rest) ∧ f.SameIds f' ∧
      st'.sec = st.sec ∧ st'.sub = st.sec - 1 ∧
      (st'.g = st.g ∨ (Fn.headerType f.header = 0 ∧
        palPcieProgramBarReg Fn.access bus f st.g = some (f', st'.g))) :=
    ⟨st, f, rfl, htree, .refl f, rfl, hsub, Or.inl rfl⟩
  unfold scanSlot
  simp only [hread]
  split
  · exact hpass
  rename_i hvendor
  split
  · exact hpass
  rename_i hhost
  split
  · -- only a bridge gets here
    rename_i htype
    obtain ⟨h0, h1⟩ := not_or.mp hvendor
    exact absurd ⟨h0, h1, Bool.eq_false_of_not_eq_true hhost, htype⟩ hf
  split
  · rename_i htype
    obtain ⟨f', g', hprog⟩ := palPcieProgramBarReg_ends Fn.access bus f st.g
    have hids : f.SameIds f' := palPcieProgramBarReg_keeps (I := fun f' => f.SameIds f')
      (fun offset v f' h => h.trans (Fn.sameIds_write f' offset v)) (.refl f) hprog
    rw [htree, palPcieProgramBarReg_sim hsim, hprog]
    exact ⟨_, f', rfl, rfl, hids, rfl, rfl, Or.inr ⟨htype, rfl⟩⟩
  · exact hpass

/-- **A slot with a bridge**, once the bus below it has been enumerated. -/
theorem scanSlot_bridge (hcur : Cursor ecam.startBus bus lo next plug) (hs : lo ≤ s)
    (hf : f.IsBridge) (hfit : f.BarsFit) (htree : st.tree = plug (.bridge s f below rest))
    {sub : ℕ} {g' : Globals}
    (hrec : rec st.sec (st.sec + 1)
      (plug (.bridge s (enterBridge Fn.access bus st.sec st.g f) below rest)) st.g
        = some (sub, plug (.bridge s (enterBridge Fn.access bus st.sec st.g f) below' rest), g')) :
    ∃ st' f', scanSlot ecam rec bus st s = some st' ∧
      st'.tree = plug (.bridge s f' below' rest) ∧ f.SameIds f' ∧
      f'.busNum = busNumRegCfg sub st.sec bus ∧ st'.sec = sub + 1 ∧ st'.sub = sub ∧
      ∃ f₁, leaveBridge Fn.access bus sub st.sec st.base f₁ g' = some (f', st'.g) := by
  have hsim := hcur.sim_bridge hs below rest
  have hread : ∀ offset, (palPciCfg ecam.startBus bus s).read offset st.tree = f.read offset := by
    intro offset
    rw [htree]
    exact hsim.read offset f
  obtain ⟨hids, hbars, -⟩ := enterBridge_fn hf bus st.sec st.g
  have henter : enterBridge (palPciCfg ecam.startBus bus s) bus st.sec st.g st.tree
      = plug (.bridge s (enterBridge Fn.access bus st.sec st.g f) below rest) := by
    rw [htree]
    exact enterBridge_sim hsim bus st.sec st.g f
  have hbridge := hids.isBridge hf
  have hvendor : ¬ (f.read 0 = 0 ∨ f.read 0 = 0xFFFFFFFF) := not_or.mpr ⟨hf.vendor, hf.present⟩
  have hhost : ¬ isHostBridge (f.read 0x8) = true := by
    have hclass : f.read 0x8 = f.classCode := rfl
    rw [hclass, hf.notHost]
    simp
  have htype : Fn.headerType (f.read 0xC) = 1 := hf.type1
  have hfit' : (enterBridge Fn.access bus st.sec st.g f).BarsFit := by
    unfold Fn.BarsFit Fn.readBar at hfit ⊢
    rw [hbars]
    exact hfit
  set f₁ := enterBridge Fn.access bus st.sec st.g f
  obtain ⟨f', g'', hleave⟩ : ∃ f' g'', leaveBridge Fn.access bus sub st.sec st.base f₁ g'
      = some (f', g'') := palPcieRpProgramBar_ends Fn.access _ _
  obtain ⟨hids', hbus'⟩ := leaveBridge_fn hbridge hfit' hleave
  have hsim' := hcur.sim_bridge hs below' rest
  unfold scanSlot
  simp only [hread]
  rw [if_neg hvendor, if_neg hhost, if_pos htype, henter, hrec]
  dsimp only
  rw [leaveBridge_sim hsim', hleave]
  exact ⟨_, f', rfl, rfl, hids.trans hids', hbus', rfl, rfl, f₁, hleave⟩

end Slot

/-! ## 6. The walk -/

section Walk

variable {ecam : Ecam} {Q : Fn → Prop} {J : Globals → Prop}

/-- What holds of the global variables throughout, if the functions of the hierarchy meet `Q`. -/
structure Throughout (Q : Fn → Prop) (J : Globals → Prop) : Prop where
  programs : ∀ {bus f g f' g'}, Q f → Fn.headerType f.header = 0 → J g →
    palPcieProgramBarReg Fn.access bus f g = some (f', g') → J g'
  leaves : ∀ {bus sub sec base f g f' g'}, J g →
    leaveBridge Fn.access bus sub sec base f g = some (f', g') → J g'

theorem slots_eq : slots = List.range' 0 256 := by decide +kernel

theorem Bus.find_of_lt {t : Bus} {lo slot : ℕ} (h : t.Wf lo) (hslot : slot < lo) :
    t.find slot = none := by
  induction t generalizing lo with
  | empty => rfl
  | device s f rest ih =>
    obtain ⟨hs, -, -, hrest⟩ := h
    rw [Bus.find, if_neg (by omega)]
    exact ih hrest (by omega)
  | bridge s f below rest _ ih =>
    obtain ⟨hs, -, -, -, -, hrest⟩ := h
    rw [Bus.find, if_neg (by omega)]
    exact ih hrest (by omega)

/-- The slots below all functions that are left are empty. -/
theorem scan_before {rec : ℕ → ℕ → Bus → Globals → Option (ℕ × Bus × Globals)}
    {bus lo next s : ℕ} {plug : Bus → Bus} {t : Bus} {st : Scan}
    (hcur : Cursor ecam.startBus bus lo next plug) (hwf : t.Wf s) (htree : st.tree = plug t) :
    (List.range' lo (s - lo)).foldlM (scanSlot ecam rec bus) st = some st := by
  refine scan_absent fun slot hle hlt => ?_
  rw [htree, hcur.find t slot hle]
  exact Bus.find_of_lt hwf (by omega)

theorem Numbers.next_eq {pri next next' : ℕ} {t t' : Bus} (h : Numbers pri next t t' next') :
    next' = next + t.bridgeCount := by
  induction h with
  | empty => rfl
  | device _ _ ih => exact ih
  | bridge _ _ _ _ ih ih' =>
    rw [ih', ih, Bus.bridgeCount]
    omega

/-- The slots up to the next function, that function, and the others. -/
theorem range'_split {lo s : ℕ} (hlo : lo ≤ s) (hs : s < 256) :
    List.range' lo (256 - lo)
      = List.range' lo (s - lo) ++ (s :: List.range' (s + 1) (256 - (s + 1))) := by
  have hlen : 256 - lo = (s - lo) + (256 - s) := by omega
  have hrest : 256 - s = (256 - (s + 1)) + 1 := by omega
  rw [hlen, ← List.range'_append_1, Nat.add_sub_cancel' hlo, hrest, List.range'_succ]

/-- **The walk numbers the buses.**  From the cursor on it goes through what is left of the bus, and
it ends with the buses below numbered in order, `sec_bus` the next number and `sub_bus` the last.
What holds throughout holds at the end. -/
theorem scan_numbers (hJ : Throughout Q J) (t : Bus) :
    ∀ (st : Scan) {bus lo next fuel : ℕ} {plug : Bus → Bus},
      Cursor ecam.startBus bus lo next plug → t.Wf lo → t.Unprogrammed →
      0 < next → bus < next → next + t.bridgeCount ≤ ecam.endBus + 1 → t.depth ≤ fuel →
      st.tree = plug t → st.sec = next → st.sub = next - 1 → t.AllDevices Q → J st.g →
      ∃ st' t' next', (List.range' lo (256 - lo)).foldlM
          (scanSlot ecam (palPcieEnumerateDevice ecam fuel) bus) st = some st' ∧
        st'.tree = plug t' ∧ Numbers bus next t t' next' ∧ st'.sec = next' ∧
        st'.sub = next' - 1 ∧ J st'.g := by
  induction t with
  | empty =>
    intro st bus lo next fuel plug hcur _ _ _ _ _ _ htree hsec hsub _ hst
    exact ⟨st, .empty, next, scan_before hcur (t := .empty) trivial htree, htree, .empty _ _, hsec,
      hsub, hst⟩
  | device s f rest ih =>
    intro st bus lo next fuel plug hcur hwf hun hpos hbus hfit hfuel htree hsec hsub hQ hst
    obtain ⟨hlo, hs, hf, hrest⟩ := hwf
    have hskip : (List.range' lo (s - lo)).foldlM
        (scanSlot ecam (palPcieEnumerateDevice ecam fuel) bus) st = some st :=
      scan_before (t := .device s f rest) hcur ⟨le_refl s, hs, hf, hrest⟩ htree
    obtain ⟨st₁, f', hslot, htree₁, hids, hsec₁, hsub₁, hg⟩ :=
      scanSlot_device (palPcieEnumerateDevice ecam fuel) hcur hlo hf htree
        (by rw [hsub, hsec])
    have hst₁ : J st₁.g := by
      rcases hg with hg | ⟨htype, hg⟩
      · rw [hg]
        exact hst
      · exact hJ.programs hQ.1 htype hst hg
    obtain ⟨st', rest', next', hscan, htree', hnum, hsec', hsub', hst'⟩ :=
      ih st₁ (hcur.device hlo f') hrest hun hpos hbus hfit hfuel htree₁ (hsec₁.trans hsec)
        (by rw [hsub₁, hsec]) hQ.2 hst₁
    refine ⟨st', .device s f' rest', next', ?_, htree', .device hids hnum, hsec', hsub', hst'⟩
    rw [range'_split hlo hs, List.foldlM_append, hskip]
    exact (congrArg (· >>= _) hslot).trans hscan
  | bridge s f below rest ihb ihr =>
    intro st bus lo next fuel plug hcur hwf hun hpos hbus hfit hfuel htree hsec hsub hQ hst
    obtain ⟨hlo, hs, hf, hbars, hbelow, hrest⟩ := hwf
    obtain ⟨-, -, hunb, hunr⟩ := hun
    rw [Bus.bridgeCount] at hfit
    rw [Bus.depth] at hfuel
    have hend := ecam.end_le
    have hskip : (List.range' lo (s - lo)).foldlM
        (scanSlot ecam (palPcieEnumerateDevice ecam fuel) bus) st = some st :=
      scan_before (t := .bridge s f below rest) hcur ⟨le_refl s, hs, hf, hbars, hbelow, hrest⟩ htree
    -- the call for the bus below
    obtain ⟨n, rfl⟩ : ∃ n, fuel = n + 1 := ⟨fuel - 1, by omega⟩
    obtain ⟨hids₁, -, hnum₁⟩ := enterBridge_fn hf bus st.sec st.g
    set f₁ := enterBridge Fn.access bus st.sec st.g f with hf₁
    have hsec₁ : f₁.sec = next := (Fn.sec_eq hnum₁ (by omega) (by omega) (by omega)).trans hsec
    have hsub₁ : f₁.sub = 255 := Fn.sub_eq hnum₁ (by omega) (by omega) (by omega)
    obtain ⟨stb, below', mid, hscanb, htreeb, hnumb, hsecb, hsubb, hstb⟩ :=
      ihb ⟨next + 1, next, st.g.starts, plug (.bridge s f₁ below rest), st.g⟩
        (hcur.enter hsec₁ hsub₁ hpos (by omega) hunr) hbelow hunb (by omega) (by omega) (by omega)
        (by omega : below.depth ≤ n) rfl rfl rfl hQ.1 hst
    have hmid := hnumb.next_eq
    have hrec : palPcieEnumerateDevice ecam (n + 1) st.sec (st.sec + 1)
        (plug (.bridge s f₁ below rest)) st.g
          = some (mid - 1, plug (.bridge s f₁ below' rest), stb.g) := by
      rw [hsec, palPcieEnumerateDevice, if_neg (by omega), slots_eq]
      rw [hscanb, Option.map_some, hsubb, htreeb]
    obtain ⟨st₁, f', hslot, htree₁, hids, hnum, hsec₂, hsub₂, f₂, hleave⟩ :=
      scanSlot_bridge hcur hlo hf hbars htree hrec
    have hnext : mid - 1 + 1 = mid := by omega
    rw [hsec] at hnum
    have hsub' : f'.sub = mid - 1 := Fn.sub_eq hnum (by omega) (by omega) (by omega)
    obtain ⟨st', rest', next', hscan, htree', hnumr, hsec', hsub'', hst'⟩ :=
      ihr st₁ (hcur.bridge hlo below' (by omega : next ≤ mid) (by omega)) hrest hunr (by omega)
        (by omega) (by omega) (by omega : rest.depth ≤ n + 1) htree₁ (by omega) (by omega) hQ.2
        (hJ.leaves hstb hleave)
    refine ⟨st', .bridge s f' below' rest', next', ?_, htree',
      .bridge hids hnum hnumb hnumr, hsec', hsub'', hst'⟩
    rw [range'_split hlo hs, List.foldlM_append, hskip]
    exact (congrArg (· >>= _) hslot).trans hscan

end Walk

/-! ## 7. What the numbers say -/

namespace Numbers

variable {pri next next' : ℕ} {t t' : Bus}

theorem sameHierarchy (h : Numbers pri next t t' next') : t.SameHierarchy t' := by
  induction h with
  | empty => trivial
  | device hids _ ih => exact ⟨rfl, hids.vendorId, hids.classCode, hids.header, ih⟩
  | bridge hids _ _ _ ihb ihr => exact ⟨rfl, hids.vendorId, hids.classCode, hids.header, ihb, ihr⟩

theorem le (h : Numbers pri next t t' next') : next ≤ next' := by
  rw [h.next_eq]
  exact Nat.le_add_right _ _

/-- The numbers of a bridge, read back. -/
theorem reads {mid : ℕ} {f' : Fn} {below below' : Bus}
    (hnum : f'.busNum = busNumRegCfg (mid - 1) next pri)
    (hbelow : Numbers next (next + 1) below below' mid) (hpri : pri < next) (hmid : mid ≤ 256) :
    f'.sec = next ∧ f'.sub = mid - 1 := by
  have hle := hbelow.le
  exact ⟨Fn.sec_eq hnum (by omega) (by omega) (by omega),
    Fn.sub_eq hnum (by omega) (by omega) (by omega)⟩

/-- **The numbers below a bus are consecutive.** -/
theorem numbers_eq (h : Numbers pri next t t' next') (hpri : pri < next) (hmax : next' ≤ 256) :
    t'.numbers = List.range' next (next' - next) := by
  induction h with
  | empty => simp [Bus.numbers]
  | device _ _ ih => exact ih hpri hmax
  | @bridge pri next mid next' s f f' below below' rest rest' hids hnum hb hr ihb ihr =>
    have hlb := hb.le
    have hlr := hr.le
    obtain ⟨hsec, -⟩ := reads hnum hb hpri (by omega)
    have hlen : next' - next = (mid - (next + 1)) + (next' - mid) + 1 := by omega
    have hmid : mid = next + 1 + (mid - (next + 1)) := by omega
    rw [Bus.numbers, hsec, ihb (by omega) (by omega), ihr (by omega) hmax, hlen, List.range'_succ,
      ← List.range'_append_1, ← hmid]

/-- **Below a bridge** the buses are numbered as below the root. -/
theorem below_bridge (h : Numbers pri next t t' next') (hpri : pri < next) (hmax : next' ≤ 256) :
    ∀ b ∈ t'.bridges, next ≤ b.1.sec ∧ b.1.sec ≤ b.1.sub ∧ b.1.sub < next' ∧
      ∃ u, Numbers b.1.sec (b.1.sec + 1) u b.2 (b.1.sub + 1) := by
  induction h with
  | empty => exact fun b hb => absurd hb List.not_mem_nil
  | device _ _ ih => exact ih hpri hmax
  | @bridge pri next mid next' s f f' below below' rest rest' hids hnum hb hr ihb ihr =>
    have hlb := hb.le
    have hlr := hr.le
    obtain ⟨hsec, hsub⟩ := reads hnum hb hpri (by omega)
    intro b hmem
    rcases List.mem_cons.mp hmem with rfl | hmem
    · have hle : f'.sec ≤ f'.sub := by omega
      have hlt : f'.sub < next' := by omega
      refine ⟨hsec.ge, hle, hlt, below, ?_⟩
      have hmid : mid - 1 + 1 = mid := by omega
      simpa only [hsec, hsub, hmid] using hb
    · rcases List.mem_append.mp hmem with hmem | hmem
      · obtain ⟨h1, h2, h3, h4⟩ := ihb (by omega) (by omega) b hmem
        exact ⟨by omega, h2, by omega, h4⟩
      · obtain ⟨h1, h2, h3, h4⟩ := ihr (by omega) hmax b hmem
        exact ⟨by omega, h2, h3, h4⟩

/-- The bridges on a bus. -/
theorem ports_mem (h : Numbers pri next t t' next') (hpri : pri < next) (hmax : next' ≤ 256) :
    ∀ f ∈ t'.ports, next ≤ f.sec ∧ f.sub < next' := by
  induction h with
  | empty => exact fun f hf => absurd hf List.not_mem_nil
  | device _ _ ih => exact ih hpri hmax
  | @bridge pri next mid next' s f f' below below' rest rest' hids hnum hb hr ihb ihr =>
    have hlb := hb.le
    have hlr := hr.le
    obtain ⟨hsec, hsub⟩ := reads hnum hb hpri (by omega)
    intro p hp
    rcases List.mem_cons.mp hp with rfl | hp
    · exact ⟨hsec.ge, by omega⟩
    · obtain ⟨h1, h2⟩ := ihr (by omega) hmax p hp
      exact ⟨by omega, h2⟩

/-- Their ranges come one after the other. -/
theorem ports_pairwise (h : Numbers pri next t t' next') (hpri : pri < next) (hmax : next' ≤ 256) :
    t'.ports.Pairwise fun f g => f.sub < g.sec := by
  induction h with
  | empty => exact List.Pairwise.nil
  | device _ _ ih => exact ih hpri hmax
  | @bridge pri next mid next' s f f' below below' rest rest' hids hnum hb hr ihb ihr =>
    have hlb := hb.le
    have hlr := hr.le
    obtain ⟨-, hsub⟩ := reads hnum hb hpri (by omega)
    refine List.Pairwise.cons (fun g hg => ?_) (ihr (by omega) hmax)
    have hsec := (hr.ports_mem (by omega) hmax g hg).1
    omega

/-- No bridge takes a number before the first or after the last. -/
theorem quiet (h : Numbers pri next t t' next') (hpri : pri < next) (hmax : next' ≤ 256) {x : ℕ}
    (hx : x < next) : t'.Quiet x := by
  induction h with
  | empty => trivial
  | device _ _ ih => exact ih hpri hmax hx
  | @bridge pri next mid next' s f f' below below' rest rest' hids hnum hb hr ihb ihr =>
    have hlb := hb.le
    have hlr := hr.le
    obtain ⟨hsec, -⟩ := reads hnum hb hpri (by omega)
    refine ⟨fun hc => ?_, ihr (by omega) hmax (by omega)⟩
    have hle := hc.1
    omega

/-- **An access to a secondary bus number** finds the bus below the bridge. -/
theorem findBelow_sec (h : Numbers pri next t t' next') (hpri : pri < next) (hmax : next' ≤ 256) :
    ∀ b ∈ t'.bridges, ∀ slot, t'.findBelow b.1.sec slot = b.2.find slot := by
  induction h with
  | empty => exact fun b hb => absurd hb List.not_mem_nil
  | device _ _ ih => exact ih hpri hmax
  | @bridge pri next mid next' s f f' below below' rest rest' hids hnum hb hr ihb ihr =>
    have hlb := hb.le
    have hlr := hr.le
    obtain ⟨hsec, hsub⟩ := reads hnum hb hpri (by omega)
    intro b hmem slot
    have hquiet : ∀ x, x < mid → rest'.Quiet x := fun x hx => hr.quiet (by omega) hmax hx
    rcases List.mem_cons.mp hmem with rfl | hmem
    · have hclaims : f'.Claims f'.sec := ⟨le_refl _, by omega⟩
      dsimp only
      rw [Bus.findBelow, if_pos hclaims, if_pos (hquiet _ (by omega)), if_pos rfl]
    · rcases List.mem_append.mp hmem with hmem | hmem
      · obtain ⟨h1, h2, h3, -⟩ := hb.below_bridge (by omega) (by omega) b hmem
        have hclaims : f'.Claims b.1.sec := ⟨by omega, by omega⟩
        rw [Bus.findBelow, if_pos hclaims, if_pos (hquiet _ (by omega)), if_neg (by omega)]
        exact ihb (by omega) (by omega) b hmem slot
      · obtain ⟨h1, -, -, -⟩ := hr.below_bridge (by omega) hmax b hmem
        have hclaims : ¬ f'.Claims b.1.sec := fun hc => by
          have hle := hc.2
          omega
        rw [Bus.findBelow, if_neg hclaims]
        exact ihr (by omega) hmax b hmem slot

end Numbers

/-- The root bus and all that is below it. -/
theorem Numbers.busesNumbered {ecam : Ecam} {t t' : Bus} {next' : ℕ}
    (h : Numbers ecam.startBus (ecam.startBus + 1) t t' next') (hnext : next' ≤ ecam.endBus + 1) :
    BusesNumbered ecam t t' := by
  have hend := ecam.end_le
  have hmax : next' ≤ 256 := by omega
  have hlt : ecam.startBus < ecam.startBus + 1 := Nat.lt_succ_self _
  have hnumbers := h.numbers_eq hlt hmax
  have hle := h.le
  -- what is below a bridge, as a range
  have hbelow : ∀ b ∈ t'.bridges, b.1.sec :: b.2.numbers
      = List.range' b.1.sec (b.1.sub - b.1.sec + 1) := by
    intro b hb
    obtain ⟨h1, h2, h3, u, hu⟩ := h.below_bridge hlt hmax b hb
    rw [hu.numbers_eq (Nat.lt_succ_self _) (by omega), List.range'_succ]
    congr 2
    omega
  refine ⟨h.sameHierarchy, ?_, ?_, ?_, ?_, ?_, ?_, ?_⟩
  · rw [hnumbers]
    have hcons : ecam.startBus :: List.range' (ecam.startBus + 1) (next' - (ecam.startBus + 1))
        = List.range' ecam.startBus (next' - (ecam.startBus + 1) + 1) := List.range'_succ.symm
    rw [hcons]
    exact List.nodup_range'
  · intro x hx
    rw [hnumbers, List.mem_range'_1] at hx
    omega
  · intro b hb slot
    obtain ⟨h1, -, -, -⟩ := h.below_bridge hlt hmax b hb
    rw [Bus.lookup, if_neg (by omega)]
    exact h.findBelow_sec hlt hmax b hb slot
  · intro b hb
    obtain ⟨h1, h2, h3, -⟩ := h.below_bridge hlt hmax b hb
    rw [hbelow b hb]
    refine ⟨List.mem_range'_1.mpr (by omega), fun x hx => ?_⟩
    rw [List.mem_range'_1] at hx
    omega
  · intro b hb x
    obtain ⟨h1, h2, h3, -⟩ := h.below_bridge hlt hmax b hb
    rw [hbelow b hb, List.mem_range'_1]
    omega
  · intro u hu
    rcases List.mem_cons.mp hu with rfl | hu
    · exact h.ports_pairwise hlt hmax
    · obtain ⟨b, hb, rfl⟩ := List.mem_map.mp hu
      obtain ⟨h1, h2, h3, u, hu⟩ := h.below_bridge hlt hmax b hb
      exact hu.ports_pairwise (Nat.lt_succ_self _) (by omega)
  · intro b hb f hf
    obtain ⟨h1, h2, h3, u, hu⟩ := h.below_bridge hlt hmax b hb
    obtain ⟨h4, h5⟩ := hu.ports_mem (Nat.lt_succ_self _) (by omega) f hf
    omega

/-- The whole walk, from the root bus. -/
theorem enumerateDevice_numbers {ecam : Ecam} {Q : Fn → Prop} {J : Globals → Prop}
    (hJ : Throughout Q J) {t : Bus} (hwf : t.Wf 0) (hun : t.Unprogrammed)
    (hfit : ecam.startBus + t.bridgeCount ≤ ecam.endBus) (hQ : t.AllDevices Q) {g : Globals}
    (hg : J g) {fuel : ℕ} (hfuel : t.depth < fuel) :
    ∃ sub t' g', palPcieEnumerateDevice ecam fuel ecam.startBus (ecam.startBus + 1) t g
        = some (sub, t', g') ∧ BusesNumbered ecam t t' ∧ J g' := by
  obtain ⟨n, rfl⟩ : ∃ n, fuel = n + 1 := ⟨fuel - 1, by omega⟩
  obtain ⟨st', t', next', hscan, htree, hnum, -, -, hst⟩ :=
    scan_numbers hJ t ⟨ecam.startBus + 1, ecam.startBus, g.starts, t, g⟩
      (Cursor.start ecam.startBus) hwf hun (by omega) (by omega) (by omega)
      (by omega : t.depth ≤ n) rfl rfl rfl hQ hg
  have hnext := hnum.next_eq
  refine ⟨st'.sub, t', st'.g, ?_, hnum.busesNumbered (by omega), hst⟩
  have hstart := ecam.start_le
  rw [palPcieEnumerateDevice, if_neg (by omega), slots_eq, hscan, Option.map_some, htree]
  rfl

theorem Bus.allDevices_true (t : Bus) : t.AllDevices fun _ => True := by
  induction t with
  | empty => trivial
  | device _ _ _ ih => exact ⟨trivial, ih⟩
  | bridge _ _ _ _ ihb ihr => exact ⟨ihb, ihr⟩

/-- **The enumeration numbers the buses.**  For every hierarchy with no bridge programmed yet, if the
numbers of the ECAM suffice for its buses, `pal_pcie_enumerate_device` returns, and the buses are
numbered. -/
theorem enumerate_numbers_buses {ecam : Ecam} {t : Bus} (hwf : t.Wf 0) (hun : t.Unprogrammed)
    (hfit : ecam.startBus + t.bridgeCount ≤ ecam.endBus) (g : Globals) {fuel : ℕ}
    (hfuel : t.depth < fuel) :
    ∃ sub t' g', palPcieEnumerateDevice ecam fuel ecam.startBus (ecam.startBus + 1) t g
        = some (sub, t', g') ∧ BusesNumbered ecam t t' := by
  have hJ : Throughout (fun _ => True) fun _ => True := ⟨fun _ _ _ _ => trivial, fun _ _ => trivial⟩
  obtain ⟨sub, t', g', h, hnum, -⟩ :=
    enumerateDevice_numbers hJ hwf hun hfit t.allDevices_true trivial hfuel (g := g)
  exact ⟨sub, t', g', h, hnum⟩

/-! ## 8. A hierarchy of four buses -/

/-- A network card with these BARs, by mask and fixed bits. -/
def endpointFn (bars : List (UInt32 × UInt32)) : Fn where
  vendorId := 0x13b5
  command := 0
  classCode := 0x02000000
  header := 0
  bars := fun i => ⟨(bars.getD i (0, 0)).1, (bars.getD i (0, 0)).2, 0⟩
  busNum := 0
  npWindow := 0
  pWindow := 0
  pUpperBase := 0
  pUpperLimit := 0

/-- A bridge without BARs of its own. -/
def bridgeFn : Fn where
  vendorId := 0x13b5
  command := 0
  classCode := 0x06040000
  header := 0x00010000
  bars := fun _ => ⟨0, 0, 0⟩
  busNum := 0
  npWindow := 0
  pWindow := 0
  pUpperBase := 0
  pUpperLimit := 0

theorem bridgeFn_isBridge : bridgeFn.IsBridge := ⟨by decide, by decide, by decide, by decide⟩

theorem bridgeFn_barsFit : bridgeFn.BarsFit := by
  unfold Fn.BarsFit
  decide

theorem endpointFn_not_isBridge (bars : List (UInt32 × UInt32)) :
    ¬ (endpointFn bars).IsBridge := by
  intro h
  have hheader : (endpointFn bars).header = 0 := rfl
  have htype := h.type1
  rw [hheader] at htype
  exact absurd htype (by decide)

/-- The ECAM of the FVP target. -/
def fvpEcam : Ecam := ⟨0, 0xFF, by decide, by decide⟩

/-- Two root ports; below the first a card and a bridge to another card. -/
def fourBuses : Bus :=
  .bridge 8 bridgeFn
    (.device 0 (endpointFn []) (.bridge 8 bridgeFn (.device 0 (endpointFn []) .empty) .empty))
    (.device 9 (endpointFn []) (.bridge 16 bridgeFn .empty .empty))

theorem enumerate_numbers_four_buses :
    fourBuses.Wf 0 ∧ fourBuses.Unprogrammed ∧ ∃ sub t' g',
      palPcieEnumerateDevice fvpEcam 3 0 1 fourBuses .init = some (sub, t', g') ∧
        t'.numbers = [1, 2, 3] ∧ BusesNumbered fvpEcam fourBuses t' := by
  have hcard := endpointFn_not_isBridge []
  have hwf : fourBuses.Wf 0 :=
    ⟨by decide, by decide, bridgeFn_isBridge, bridgeFn_barsFit,
      ⟨by decide, by decide, hcard, by decide, by decide, bridgeFn_isBridge, bridgeFn_barsFit,
        ⟨by decide, by decide, hcard, trivial⟩, trivial⟩,
      ⟨by decide, by decide, hcard, by decide, by decide, bridgeFn_isBridge, bridgeFn_barsFit,
        trivial, trivial⟩⟩
  have hun : fourBuses.Unprogrammed :=
    ⟨by decide, by decide, ⟨by decide, by decide, trivial, trivial⟩,
      ⟨by decide, by decide, trivial, trivial⟩⟩
  obtain ⟨sub, t', g', hrun, hnum⟩ := @enumerate_numbers_buses fvpEcam fourBuses hwf hun (by decide)
    .init 3 (by decide)
  have hnumbers : (palPcieEnumerateDevice fvpEcam 3 0 1 fourBuses .init).map (fun r => r.2.1.numbers)
      = some [1, 2, 3] := by decide +kernel
  have hrun' : palPcieEnumerateDevice fvpEcam 3 0 1 fourBuses .init = some (sub, t', g') := hrun
  rw [hrun'] at hnumbers
  exact ⟨hwf, hun, sub, t', g', hrun', Option.some.inj hnumbers, hnum⟩

end RmmAcs.Pcie
