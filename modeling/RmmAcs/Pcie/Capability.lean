/-
# The search for a capability

The capabilities of a function are structures in its configuration space, each with an id and the
offset of the next one; the chain starts at the pointer in register `0x34`, and the extended one at
`0x100`.  `val_pcie_find_capability` follows the chain until it meets the id, or a next pointer of
zero.

Three things get in the way.  A function that does not answer reads as all ones; the search in the
configuration space notices that and returns what the READ returned, and that is `PCIE_SUCCESS`.  The
search in the extended space does not look at what the read returned, so that nothing is in
`reg_value` if there is no mapping.  And a chain that comes back to itself is followed forever.
-/
import Mathlib

namespace RmmAcs.Pcie

/-! ## 1. `val_pcie_find_capability` -/

def PCIE_SUCCESS : UInt32 := 0
def PCIE_NO_MAPPING : UInt32 := 0x10000001
def PCIE_CAP_NOT_FOUND : UInt32 := 0x10000010
def PCIE_UNKNOWN_RESPONSE : UInt32 := 0xFFFFFFFF

def PCIE_CAP : UInt32 := 1
def PCIE_ECAP : UInt32 := 2

def TYPE01_CPR : UInt32 := 0x34
def PCIE_ECAP_START : UInt32 := 0x100

/-- The configuration space of a function, and whether there is a mapping for it. -/
structure CfgSpace where
  mapped : Bool
  read : UInt32 → UInt32

/-- `val_pcie_read_cfg`: what it returns, and what is then in `*data`.  Where there is no mapping
that is what was there before. -/
def valPcieReadCfg (cfg : CfgSpace) (offset : UInt32) (data : Option UInt32) :
    UInt32 × Option UInt32 :=
  if cfg.mapped then (0, some (cfg.read offset)) else (PCIE_NO_MAPPING, data)

/-- How a structure is read: its id, and the offset of the next one. -/
structure Layout where
  cidMask : UInt32
  ncprShift : UInt32
  ncprMask : UInt32

def Layout.cid (l : Layout) (reg : UInt32) : UInt32 := reg &&& l.cidMask

def Layout.next (l : Layout) (reg : UInt32) : UInt32 := (reg >>> l.ncprShift) &&& l.ncprMask

/-- `PCIE_CIDR_MASK`, `PCIE_NCPR_SHIFT` and `PCIE_NCPR_MASK`. -/
def capLayout : Layout := ⟨0xff, 8, 0xff⟩

/-- `PCIE_ECAP_CIDR_MASK`, `PCIE_ECAP_NCPR_SHIFT` and `PCIE_ECAP_NCPR_MASK`. -/
def ecapLayout : Layout := ⟨0xffff, 20, 0xfff⟩

/-- How a call ends: it returns, with what it has stored to `*cid_offset` if anything, or it uses
`reg_value` with nothing in it. -/
inductive Found where
  | returns (ret : UInt32) (cidOffset : Option UInt32)
  | uninitialised
deriving DecidableEq

/-- `while (next_cap_offset)`; `none` if it is not over after `fuel` rounds. -/
def searchChain (cfg : CfgSpace) (l : Layout) (cid : UInt32) :
    ℕ → UInt32 → Option UInt32 → Option Found
  | 0, _, _ => none
  | fuel + 1, next, reg =>
    if next = 0 then some (.returns PCIE_CAP_NOT_FOUND none)
    else
      match (valPcieReadCfg cfg next reg).2 with
      | none => some .uninitialised
      | some reg =>
        if l.cid reg = cid then some (.returns PCIE_SUCCESS (some next))
        else searchChain cfg l cid fuel (l.next reg) (some reg)

/-- `val_pcie_find_capability`. -/
def valPcieFindCapability (cfg : CfgSpace) (cidType cid : UInt32) (fuel : ℕ) : Option Found :=
  if cidType = PCIE_CAP then
    match valPcieReadCfg cfg TYPE01_CPR none with
    | (ret, reg) =>
      if ret = PCIE_NO_MAPPING then some (.returns ret none)
      else
        match reg with
        | none => some .uninitialised
        | some reg =>
          if reg = PCIE_UNKNOWN_RESPONSE then some (.returns ret none)
          else searchChain cfg capLayout cid fuel (reg &&& 0xff) (some reg)
  else if cidType = PCIE_ECAP then searchChain cfg ecapLayout cid fuel PCIE_ECAP_START none
  else some (.returns PCIE_CAP_NOT_FOUND none)

/-! ## 2. The chain, and what is asked of the search -/

/-- The two kinds of capability. -/
inductive CapKind where
  | cap
  | ecap
deriving DecidableEq

namespace CapKind

def cidType : CapKind → UInt32
  | cap => PCIE_CAP
  | ecap => PCIE_ECAP

def layout : CapKind → Layout
  | cap => capLayout
  | ecap => ecapLayout

/-- Where the chain of a function starts. -/
def start (cfg : CfgSpace) : CapKind → UInt32
  | cap => cfg.read TYPE01_CPR &&& 0xff
  | ecap => PCIE_ECAP_START

end CapKind

/-- The offset of the `k`-th structure from an offset on, as the next pointers have it. -/
def node (cfg : CfgSpace) (l : Layout) (start : UInt32) (k : ℕ) : UInt32 :=
  (fun offset => l.next (cfg.read offset))^[k] start

/-- The `k`-th structure is on the chain, and is the first one with this id. -/
structure IsFirst (cfg : CfgSpace) (l : Layout) (start cid : UInt32) (k : ℕ) : Prop where
  on : ∀ j ≤ k, node cfg l start j ≠ 0
  id : l.cid (cfg.read (node cfg l start k)) = cid
  first : ∀ j < k, l.cid (cfg.read (node cfg l start j)) ≠ cid

/-- The chain has a structure with this id. -/
def Holds (cfg : CfgSpace) (l : Layout) (start cid : UInt32) : Prop :=
  ∃ k, IsFirst cfg l start cid k

/-- The chain has an end. -/
def Ends (cfg : CfgSpace) (l : Layout) (start : UInt32) : Prop := ∃ k, node cfg l start k = 0

/-- The function does not respond. -/
def Silent (cfg : CfgSpace) : Prop := cfg.mapped = false ∨ ∀ offset, cfg.read offset = 0xFFFFFFFF

/-- A call ends so, after some number of rounds. -/
def EndsWith (cfg : CfgSpace) (kind : CapKind) (cid : UInt32) (r : Found) : Prop :=
  ∃ fuel, valPcieFindCapability cfg kind.cidType cid fuel = some r

/-- **What is asked of the search**: it uses no variable with nothing in it; `PCIE_SUCCESS` means
that `*cid_offset` is the first structure of the chain with the id; and it returns another status if
the function does not respond, or the chain has no structure with the id. -/
structure Sound (cfg : CfgSpace) (kind : CapKind) (cid : UInt32) : Prop where
  defined : ¬ EndsWith cfg kind cid .uninitialised
  success : ∀ cidOffset, EndsWith cfg kind cid (.returns PCIE_SUCCESS cidOffset) →
    ∃ k, IsFirst cfg kind.layout (kind.start cfg) cid k ∧
      cidOffset = some (node cfg kind.layout (kind.start cfg) k)
  failure : Silent cfg ∨ ¬ Holds cfg kind.layout (kind.start cfg) cid →
    ∃ ret cidOffset, EndsWith cfg kind cid (.returns ret cidOffset) ∧ ret ≠ PCIE_SUCCESS

/-! ## 3. The loop -/

section Loop

variable {cfg : CfgSpace} {l : Layout} {cid start : UInt32}

theorem node_succ (cfg : CfgSpace) (l : Layout) (start : UInt32) (k : ℕ) :
    node cfg l start (k + 1) = node cfg l (l.next (cfg.read start)) k :=
  Function.iterate_succ_apply _ _ _

theorem isFirst_zero (h0 : start ≠ 0) (hid : l.cid (cfg.read start) = cid) :
    IsFirst cfg l start cid 0 where
  on j hj := by
    rw [Nat.le_zero.mp hj]
    exact h0
  id := hid
  first j hj := absurd hj (Nat.not_lt_zero j)

/-- A structure with another id is passed over. -/
theorem isFirst_succ_iff (h0 : start ≠ 0) (hid : l.cid (cfg.read start) ≠ cid) (k : ℕ) :
    IsFirst cfg l start cid (k + 1) ↔ IsFirst cfg l (l.next (cfg.read start)) cid k := by
  constructor
  · intro h
    refine ⟨fun j hj => ?_, ?_, fun j hj => ?_⟩
    · rw [← node_succ]
      exact h.on (j + 1) (by omega)
    · rw [← node_succ]
      exact h.id
    · rw [← node_succ]
      exact h.first (j + 1) (by omega)
  · intro h
    refine ⟨fun j hj => ?_, ?_, fun j hj => ?_⟩
    · cases j with
      | zero => exact h0
      | succ j =>
        rw [node_succ]
        exact h.on j (by omega)
    · rw [node_succ]
      exact h.id
    · cases j with
      | zero => exact hid
      | succ j =>
        rw [node_succ]
        exact h.first j (by omega)

/-- One structure of the chain. -/
theorem searchChain_step (hmap : cfg.mapped = true) (fuel : ℕ) (reg : Option UInt32) :
    searchChain cfg l cid (fuel + 1) start reg =
      if start = 0 then some (.returns PCIE_CAP_NOT_FOUND none)
      else if l.cid (cfg.read start) = cid then some (.returns PCIE_SUCCESS (some start))
      else searchChain cfg l cid fuel (l.next (cfg.read start)) (some (cfg.read start)) := by
  simp [searchChain, valPcieReadCfg, hmap]

/-- **What the search ends with** is the first structure with the id, or that there is none. -/
theorem searchChain_sound (hmap : cfg.mapped = true) (fuel : ℕ) (reg : Option UInt32) {r : Found}
    (h : searchChain cfg l cid fuel start reg = some r) :
    (∃ k, IsFirst cfg l start cid k ∧ r = .returns PCIE_SUCCESS (some (node cfg l start k))) ∨
      (¬ Holds cfg l start cid ∧ r = .returns PCIE_CAP_NOT_FOUND none) := by
  induction fuel generalizing start reg with
  | zero => cases h
  | succ fuel ih =>
    rw [searchChain_step hmap] at h
    split at h
    · rename_i h0
      cases h
      refine .inr ⟨fun ⟨k, hk⟩ => ?_, rfl⟩
      exact hk.on 0 (Nat.zero_le _) h0
    · rename_i h0
      split at h
      · rename_i hid
        cases h
        exact .inl ⟨0, isFirst_zero h0 hid, rfl⟩
      · rename_i hid
        rcases ih _ h with ⟨k, hk, rfl⟩ | ⟨hno, rfl⟩
        · exact .inl ⟨k + 1, (isFirst_succ_iff h0 hid k).mpr hk, by rw [node_succ]⟩
        · refine .inr ⟨fun ⟨k, hk⟩ => ?_, rfl⟩
          cases k with
          | zero => exact hid hk.id
          | succ k => exact hno ⟨k, (isFirst_succ_iff h0 hid k).mp hk⟩

/-- The search is over at the end of the chain at the latest. -/
theorem searchChain_of_end (hmap : cfg.mapped = true) (cid : UInt32) {k : ℕ}
    (h : node cfg l start k = 0) (reg : Option UInt32) : ∃ r, searchChain cfg l cid (k + 1) start reg = some r := by
  induction k generalizing start reg with
  | zero =>
    have h0 : start = 0 := h
    exact ⟨_, by rw [searchChain_step hmap, if_pos h0]⟩
  | succ k ih =>
    rw [searchChain_step hmap]
    split
    · exact ⟨_, rfl⟩
    · split
      · exact ⟨_, rfl⟩
      · rw [node_succ] at h
        exact ih h _

/-- Where the search is over without the id, the chain has an end. -/
theorem ends_of_searchChain (hmap : cfg.mapped = true) (fuel : ℕ) (reg : Option UInt32) {r : Found}
    (h : searchChain cfg l cid fuel start reg = some r) (hno : ¬ Holds cfg l start cid) :
    Ends cfg l start := by
  induction fuel generalizing start reg with
  | zero => cases h
  | succ fuel ih =>
    rw [searchChain_step hmap] at h
    split at h
    · rename_i h0
      exact ⟨0, h0⟩
    · rename_i h0
      split at h
      · rename_i hid
        exact absurd ⟨0, isFirst_zero h0 hid⟩ hno
      · rename_i hid
        obtain ⟨k, hk⟩ := ih _ h fun ⟨k, hk⟩ => hno ⟨k + 1, (isFirst_succ_iff h0 hid k).mpr hk⟩
        exact ⟨k + 1, by rw [node_succ, hk]⟩

end Loop

/-! ## 4. When the search is sound -/

/-- The search goes through the chain of its kind. -/
structure Walks (cfg : CfgSpace) (kind : CapKind) (cid : UInt32) : Prop where
  mapped : cfg.mapped = true
  answers : ¬ Silent cfg
  walk : ∃ reg, ∀ fuel, valPcieFindCapability cfg kind.cidType cid fuel =
    searchChain cfg kind.layout cid fuel (kind.start cfg) reg

/-- **A search through the chain** is sound exactly if the chain has the id or an end. -/
theorem Walks.sound_iff {cfg : CfgSpace} {kind : CapKind} {cid : UInt32} (h : Walks cfg kind cid) :
    Sound cfg kind cid ↔
      Holds cfg kind.layout (kind.start cfg) cid ∨ Ends cfg kind.layout (kind.start cfg) := by
  obtain ⟨hmap, hanswers, reg, hwalk⟩ := h
  have hend : ∀ r, EndsWith cfg kind cid r ↔
      ∃ fuel, searchChain cfg kind.layout cid fuel (kind.start cfg) reg = some r := by
    intro r
    exact exists_congr fun fuel => by rw [hwalk]
  constructor
  · intro hs
    by_cases hholds : Holds cfg kind.layout (kind.start cfg) cid
    · exact .inl hholds
    · obtain ⟨ret, cidOffset, hret, -⟩ := hs.failure (.inr hholds)
      obtain ⟨fuel, hfuel⟩ := (hend _).mp hret
      exact .inr (ends_of_searchChain hmap fuel reg hfuel hholds)
  · intro hchain
    refine ⟨fun hun => ?_, fun cidOffset hok => ?_, fun hfail => ?_⟩
    · obtain ⟨fuel, hfuel⟩ := (hend _).mp hun
      rcases searchChain_sound hmap fuel reg hfuel with ⟨k, -, hr⟩ | ⟨-, hr⟩
      · cases hr
      · cases hr
    · obtain ⟨fuel, hfuel⟩ := (hend _).mp hok
      rcases searchChain_sound hmap fuel reg hfuel with ⟨k, hk, hr⟩ | ⟨-, hr⟩
      · cases hr
        exact ⟨k, hk, rfl⟩
      · cases hr
    · have hno := hfail.resolve_left hanswers
      obtain ⟨k, hk⟩ := hchain.resolve_left hno
      obtain ⟨r, hr⟩ := searchChain_of_end hmap cid hk reg
      rcases searchChain_sound hmap _ reg hr with ⟨k', hk', -⟩ | ⟨-, rfl⟩
      · exact absurd ⟨k', hk'⟩ hno
      · exact ⟨_, _, (hend _).mpr ⟨_, hr⟩, by decide⟩

theorem walks_cap {cfg : CfgSpace} (hmap : cfg.mapped = true)
    (hcpr : cfg.read TYPE01_CPR ≠ 0xFFFFFFFF) (cid : UInt32) : Walks cfg .cap cid := by
  refine ⟨hmap, ?_, some (cfg.read TYPE01_CPR), fun fuel => ?_⟩
  · rintro (hun | hones)
    · rw [hmap] at hun
      cases hun
    · exact hcpr (hones _)
  · have hret : (0 : UInt32) ≠ PCIE_NO_MAPPING := by decide
    have hcpr' : cfg.read TYPE01_CPR ≠ PCIE_UNKNOWN_RESPONSE := hcpr
    simp only [valPcieFindCapability, CapKind.cidType, if_true, valPcieReadCfg, hmap, if_neg hret,
      if_neg hcpr']
    rfl

theorem walks_ecap {cfg : CfgSpace} (hmap : cfg.mapped = true)
    (hones : ∃ offset, cfg.read offset ≠ 0xFFFFFFFF) (cid : UInt32) : Walks cfg .ecap cid := by
  refine ⟨hmap, ?_, none, fun fuel => ?_⟩
  · rintro (hun | hall)
    · rw [hmap] at hun
      cases hun
    · obtain ⟨offset, hne⟩ := hones
      exact hne (hall offset)
  · have hne : PCIE_ECAP ≠ PCIE_CAP := by decide
    simp only [valPcieFindCapability, CapKind.cidType, if_neg hne, if_true]
    rfl

/-- Without a mapping the first search says so. -/
theorem sound_cap_unmapped {cfg : CfgSpace} (hmap : cfg.mapped = false) (cid : UInt32) :
    Sound cfg .cap cid := by
  have hrun : ∀ fuel, valPcieFindCapability cfg (CapKind.cap).cidType cid fuel =
      some (.returns PCIE_NO_MAPPING none) := by
    intro fuel
    simp [valPcieFindCapability, CapKind.cidType, valPcieReadCfg, hmap]
  refine ⟨?_, ?_, fun _ => ⟨_, _, ⟨0, hrun 0⟩, by decide⟩⟩
  · rintro ⟨fuel, h⟩
    rw [hrun] at h
    cases h
  · rintro cidOffset ⟨fuel, h⟩
    rw [hrun] at h
    exact absurd h (by simp [PCIE_NO_MAPPING, PCIE_SUCCESS])

/-- A function that does not answer: the first search SUCCEEDS. -/
theorem not_sound_cap_silent {cfg : CfgSpace} (hmap : cfg.mapped = true)
    (hcpr : cfg.read TYPE01_CPR = 0xFFFFFFFF) (cid : UInt32) : ¬ Sound cfg .cap cid := by
  intro hs
  have hrun : valPcieFindCapability cfg (CapKind.cap).cidType cid 0 =
      some (.returns PCIE_SUCCESS none) := by
    have hret : (0 : UInt32) ≠ PCIE_NO_MAPPING := by decide
    have hcpr' : cfg.read TYPE01_CPR = PCIE_UNKNOWN_RESPONSE := hcpr
    simp only [valPcieFindCapability, CapKind.cidType, if_true, valPcieReadCfg, hmap, if_neg hret,
      if_pos hcpr']
    rfl
  obtain ⟨k, -, hk⟩ := hs.success none ⟨0, hrun⟩
  cases hk

theorem not_sound_ecap_unmapped {cfg : CfgSpace} (hmap : cfg.mapped = false) (cid : UInt32) :
    ¬ Sound cfg .ecap cid := by
  intro hs
  refine hs.defined ⟨1, ?_⟩
  have hne : PCIE_ECAP ≠ PCIE_CAP := by decide
  have hstart : PCIE_ECAP_START ≠ 0 := by decide
  simp [valPcieFindCapability, CapKind.cidType, hne, searchChain, hstart, valPcieReadCfg, hmap]

/-- A function that does not answer has an extended chain that goes on forever, or ids of all
ones. -/
theorem not_sound_ecap_silent {cfg : CfgSpace} (hmap : cfg.mapped = true)
    (hones : ∀ offset, cfg.read offset = 0xFFFFFFFF) (cid : UInt32) : ¬ Sound cfg .ecap cid := by
  intro hs
  obtain ⟨ret, cidOffset, ⟨fuel, hrun⟩, hret⟩ := hs.failure (.inl (.inr hones))
  have hne : PCIE_ECAP ≠ PCIE_CAP := by decide
  simp only [valPcieFindCapability, CapKind.cidType, if_neg hne, if_true] at hrun
  rcases searchChain_sound hmap fuel none hrun with ⟨k, -, hr⟩ | ⟨hno, -⟩
  · cases hr
    exact hret rfl
  · obtain ⟨k, hk⟩ := ends_of_searchChain hmap fuel none hrun hno
    have hnode : node cfg ecapLayout PCIE_ECAP_START k ≠ 0 := by
      cases k with
      | zero => exact (by decide : PCIE_ECAP_START ≠ 0)
      | succ k =>
        have hlast : node cfg ecapLayout PCIE_ECAP_START (k + 1) =
            ecapLayout.next (cfg.read (node cfg ecapLayout PCIE_ECAP_START k)) :=
          Function.iterate_succ_apply' _ _ _
        rw [hlast, hones]
        decide
    exact hnode hk

/-- **When the search for a capability is sound.**  In the configuration space: exactly if there is
no mapping, or the capabilities pointer is not all ones and the chain has the id or an end.  In the
extended one: exactly if there is a mapping, not everything reads as all ones, and the chain has the
id or an end. -/
theorem find_capability_sound_iff (cfg : CfgSpace) (kind : CapKind) (cid : UInt32) :
    Sound cfg kind cid ↔
      match kind with
      | .cap => cfg.mapped = false ∨ cfg.read TYPE01_CPR ≠ 0xFFFFFFFF ∧
          (Holds cfg capLayout (cfg.read TYPE01_CPR &&& 0xff) cid ∨
            Ends cfg capLayout (cfg.read TYPE01_CPR &&& 0xff))
      | .ecap => cfg.mapped = true ∧ (∃ offset, cfg.read offset ≠ 0xFFFFFFFF) ∧
          (Holds cfg ecapLayout PCIE_ECAP_START cid ∨ Ends cfg ecapLayout PCIE_ECAP_START) := by
  cases kind with
  | cap =>
    cases hmap : cfg.mapped with
    | false => exact iff_of_true (sound_cap_unmapped hmap cid) (.inl rfl)
    | true =>
      simp only [reduceCtorEq, false_or]
      by_cases hcpr : cfg.read TYPE01_CPR = 0xFFFFFFFF
      · exact iff_of_false (not_sound_cap_silent hmap hcpr cid) fun h => h.1 hcpr
      · exact (walks_cap hmap hcpr cid).sound_iff.trans (and_iff_right hcpr).symm
  | ecap =>
    cases hmap : cfg.mapped with
    | false => exact iff_of_false (not_sound_ecap_unmapped hmap cid) fun h => nomatch h.1
    | true =>
      simp only [true_and]
      by_cases hones : ∃ offset, cfg.read offset ≠ 0xFFFFFFFF
      · exact (walks_ecap hmap hones cid).sound_iff.trans (and_iff_right hones).symm
      · refine iff_of_false (not_sound_ecap_silent hmap (fun offset => ?_) cid) fun h => hones h.1
        by_contra hne
        exact hones ⟨offset, hne⟩

/-- A function that does not respond: `PCIE_SUCCESS`, and nothing in `*cid_offset`. -/
theorem find_capability_silent :
    ¬ Sound ⟨true, fun _ => 0xFFFFFFFF⟩ .cap 0x10 ∧
      valPcieFindCapability ⟨true, fun _ => 0xFFFFFFFF⟩ PCIE_CAP 0x10 1 =
        some (.returns PCIE_SUCCESS none) := by
  refine ⟨fun hs => ?_, by decide⟩
  have hrun : valPcieFindCapability ⟨true, fun _ => 0xFFFFFFFF⟩ (CapKind.cap).cidType 0x10 1 =
      some (.returns PCIE_SUCCESS none) := by decide
  obtain ⟨k, -, hk⟩ := hs.success none ⟨1, hrun⟩
  cases hk

end RmmAcs.Pcie
