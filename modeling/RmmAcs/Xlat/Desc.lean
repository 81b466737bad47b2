/-
# Descriptors

A descriptor of the translation tables (`xlat_tables_v2`) has a type in its two lowest bits, an
address in the bits 12 to 47, and attributes in the others.  `xlat_desc` builds one from the
attributes of a region, and `xlat_get_mem_attributes_internal` reads the attributes back.

What is read back is not what was written.  Most of it is on purpose: the shareability is not read,
device and writable memory is never executable, and a realm reads as non-secure.  The access flag is
not: `MT_AF_CLEAR` asks for a descriptor WITHOUT the flag, and is reported for a descriptor WITH it.
So whoever writes back what was read turns the flag around, on every page and every time
(`mem_attributes_read_back`).
-/
import Mathlib

namespace RmmAcs.Xlat

/-! ## 1. Constants -/

def INVALID_DESC : UInt64 := 0x0
def BLOCK_DESC : UInt64 := 0x1
def TABLE_DESC : UInt64 := 0x3
def PAGE_DESC : UInt64 := 0x3
def DESC_MASK : UInt64 := 0x3
def TABLE_ADDR_MASK : UInt64 := 0x0000FFFFFFFFF000

def PAGE_SIZE : ℕ := 4096
def PAGE_SIZE_SHIFT : ℕ := 12
def XLAT_TABLE_LEVEL_MAX : ℕ := 3
def XLAT_TABLE_ENTRIES_SHIFT : ℕ := 9
def XLAT_TABLE_ENTRIES : ℕ := 512
def MIN_LVL_BLOCK_DESC : ℕ := 1

/-- `XLAT_ADDR_SHIFT` -/
def xlatAddrShift (level : ℕ) : ℕ :=
  PAGE_SIZE_SHIFT + (XLAT_TABLE_LEVEL_MAX - level) * XLAT_TABLE_ENTRIES_SHIFT

/-- `XLAT_BLOCK_SIZE` -/
def xlatBlockSize (level : ℕ) : ℕ := 1 <<< xlatAddrShift level

/-- `XLAT_BLOCK_MASK` -/
def xlatBlockMask (level : ℕ) : ℕ := xlatBlockSize level - 1

/-- `LOWER_ATTRS` -/
def lowerAttrs (x : UInt64) : UInt64 := (x &&& 0xfff) <<< 2

/-- `UPPER_ATTRS` -/
def upperAttrs (x : UInt64) : UInt64 := (x &&& 0x7) <<< 52

def XN : UInt64 := (1 : UInt64) <<< 2
def UXN : UInt64 := (1 : UInt64) <<< 2
def PXN : UInt64 := (1 : UInt64) <<< 1
def ACCESS_FLAG : UInt64 := (1 : UInt64) <<< 8
def NSH : UInt64 := (0x0 : UInt64) <<< 6
def OSH : UInt64 := (0x2 : UInt64) <<< 6
def ISH : UInt64 := (0x3 : UInt64) <<< 6
def AP_RO : UInt64 := (0x1 : UInt64) <<< 5
def AP_RW : UInt64 := (0x0 : UInt64) <<< 5
def AP_ACCESS_UNPRIVILEGED : UInt64 := (0x1 : UInt64) <<< 4
def AP_NO_ACCESS_UNPRIVILEGED : UInt64 := (0x0 : UInt64) <<< 4
def AP_ONE_VA_RANGE_RES1 : UInt64 := (0x1 : UInt64) <<< 4
def NS : UInt64 := (0x1 : UInt64) <<< 3
def EL3_S1_NSE : UInt64 := (0x1 : UInt64) <<< 9
def ATTR_IWBWA_OWBWA_NTR_INDEX : UInt64 := 0x0
def ATTR_DEV_INDEX : UInt64 := 0x1
def ATTR_NON_CACHEABLE_INDEX : UInt64 := 0x2
def ATTR_INDEX_MASK : UInt64 := 0x3

def ATTR_INDEX_SHIFT : UInt64 := 2
def NS_SHIFT : UInt64 := 5
def AP1_SHIFT : UInt64 := 6
def AP2_SHIFT : UInt64 := 7
def ACCESS_FLAG_SHIFT : UInt64 := 10
def AP2_RW : UInt64 := 0
def AP1_ACCESS_UNPRIVILEGED : UInt64 := 1

def MT_TYPE_MASK : UInt32 := 0x7
def MT_DEVICE : UInt32 := 0
def MT_NON_CACHEABLE : UInt32 := 1
def MT_MEMORY : UInt32 := 2
def MT_RW : UInt32 := (1 : UInt32) <<< 3
def MT_PAS_MASK : UInt32 := (3 : UInt32) <<< 4
def MT_NS : UInt32 := (1 : UInt32) <<< 4
def MT_ROOT : UInt32 := (2 : UInt32) <<< 4
def MT_REALM : UInt32 := (3 : UInt32) <<< 4
def MT_EXECUTE_NEVER : UInt32 := (1 : UInt32) <<< 6
def MT_USER : UInt32 := (1 : UInt32) <<< 7
def MT_SHAREABILITY_MASK : UInt32 := (3 : UInt32) <<< 8
def MT_SHAREABILITY_OSH : UInt32 := (2 : UInt32) <<< 8
def MT_SHAREABILITY_NSH : UInt32 := (3 : UInt32) <<< 8
def MT_AF_CLEAR : UInt32 := (1 : UInt32) <<< 10

/-- `EL1_EL0_REGIME`, `EL2_REGIME` and `EL3_REGIME`. -/
inductive Regime where
  | el1El0
  | el2
  | el3
deriving DecidableEq, Repr

/-! ## 2. From attributes to a descriptor, and back -/

def xlatArchGetPas (attr : UInt32) : UInt64 :=
  let pas := attr &&& MT_PAS_MASK
  if pas = MT_REALM then lowerAttrs (EL3_S1_NSE ||| NS)
  else if pas = MT_ROOT then lowerAttrs EL3_S1_NSE
  else if pas = MT_NS then lowerAttrs NS
  else 0

def xlatArchRegimeGetXnDesc : Regime → UInt64
  | .el1El0 => upperAttrs UXN ||| upperAttrs PXN
  | .el2 | .el3 => upperAttrs XN

/-- `xlat_desc`; `none` where an assertion fails. -/
def xlatDesc (regime : Regime) (attr : UInt32) (addrPa level : ℕ) : Option UInt64 :=
  if addrPa &&& xlatBlockMask level ≠ 0 then none
  else
    let desc := UInt64.ofNat addrPa
    let desc := desc ||| if level = XLAT_TABLE_LEVEL_MAX then PAGE_DESC else BLOCK_DESC
    let desc := if attr &&& MT_AF_CLEAR = 0 then desc ||| lowerAttrs ACCESS_FLAG else desc
    let desc := desc ||| xlatArchGetPas attr
    let desc := desc ||| if attr &&& MT_RW ≠ 0 then lowerAttrs AP_RW else lowerAttrs AP_RO
    let desc :=
      if regime = .el1El0 then
        if attr &&& MT_USER ≠ 0 then desc ||| lowerAttrs AP_ACCESS_UNPRIVILEGED
        else desc ||| lowerAttrs AP_NO_ACCESS_UNPRIVILEGED
      else desc ||| lowerAttrs AP_ONE_VA_RANGE_RES1
    let memType := attr &&& MT_TYPE_MASK
    if memType = MT_DEVICE then
      some (desc ||| lowerAttrs (ATTR_DEV_INDEX ||| OSH) ||| xlatArchRegimeGetXnDesc regime)
    else
      let desc :=
        if attr &&& MT_RW ≠ 0 ∨ attr &&& MT_EXECUTE_NEVER ≠ 0 then
          desc ||| xlatArchRegimeGetXnDesc regime
        else desc
      let shareabilityType := attr &&& MT_SHAREABILITY_MASK
      if memType = MT_MEMORY then
        let desc := desc ||| lowerAttrs ATTR_IWBWA_OWBWA_NTR_INDEX
        if shareabilityType = MT_SHAREABILITY_NSH then some (desc ||| lowerAttrs NSH)
        else if shareabilityType = MT_SHAREABILITY_OSH then some (desc ||| lowerAttrs OSH)
        else some (desc ||| lowerAttrs ISH)
      else if memType = MT_NON_CACHEABLE then
        some (desc ||| lowerAttrs (ATTR_NON_CACHEABLE_INDEX ||| OSH))
      else none

/-- The memory type of `xlat_get_mem_attributes_internal`. -/
def readMemType (desc : UInt64) : Option UInt32 :=
  let attrIndex := (desc >>> ATTR_INDEX_SHIFT) &&& ATTR_INDEX_MASK
  if attrIndex = ATTR_IWBWA_OWBWA_NTR_INDEX then some MT_MEMORY
  else if attrIndex = ATTR_NON_CACHEABLE_INDEX then some MT_NON_CACHEABLE
  else if attrIndex = ATTR_DEV_INDEX then some MT_DEVICE
  else none

/-- Its `MT_EXECUTE_NEVER`, or 0. -/
def readXn (regime : Regime) (desc : UInt64) : Option UInt32 :=
  let xnMask := xlatArchRegimeGetXnDesc regime
  if desc &&& xnMask = xnMask then some MT_EXECUTE_NEVER
  else if desc &&& xnMask = 0 then some 0
  else none

/-- What `xlat_get_mem_attributes_internal` makes of a descriptor; `none` where an assertion fails. -/
def memAttributes (regime : Regime) (desc : UInt64) : Option UInt32 := do
  let memType ← readMemType desc
  let xn ← readXn regime desc
  return memType
    ||| (if (desc >>> AP2_SHIFT) &&& 1 = AP2_RW then MT_RW else 0)
    ||| (if regime = .el1El0 ∧ (desc >>> AP1_SHIFT) &&& 1 = AP1_ACCESS_UNPRIVILEGED then MT_USER
      else 0)
    ||| (if (desc >>> NS_SHIFT) &&& 1 = 1 then MT_NS else 0)
    ||| xn
    ||| (if (desc >>> ACCESS_FLAG_SHIFT) &&& 1 ≠ 0 then MT_AF_CLEAR else 0)

/-! ## 3. The bits of a descriptor -/

/-- The access flag. -/
def accessBits (attr : UInt32) : UInt64 :=
  if attr &&& MT_AF_CLEAR = 0 then lowerAttrs ACCESS_FLAG else 0

/-- Read-only or not. -/
def apBits (attr : UInt32) : UInt64 :=
  if attr &&& MT_RW ≠ 0 then lowerAttrs AP_RW else lowerAttrs AP_RO

/-- Unprivileged access. -/
def unprivBits (regime : Regime) (attr : UInt32) : UInt64 :=
  if regime = .el1El0 then
    if attr &&& MT_USER ≠ 0 then lowerAttrs AP_ACCESS_UNPRIVILEGED
    else lowerAttrs AP_NO_ACCESS_UNPRIVILEGED
  else lowerAttrs AP_ONE_VA_RANGE_RES1

/-- Execution. -/
def xnBits (regime : Regime) (attr : UInt32) : UInt64 :=
  if attr &&& MT_TYPE_MASK = MT_DEVICE ∨ attr &&& MT_RW ≠ 0 ∨ attr &&& MT_EXECUTE_NEVER ≠ 0 then
    xlatArchRegimeGetXnDesc regime
  else 0

/-- Memory type and shareability. -/
def memBits (attr : UInt32) : UInt64 :=
  if attr &&& MT_TYPE_MASK = MT_DEVICE then lowerAttrs (ATTR_DEV_INDEX ||| OSH)
  else if attr &&& MT_TYPE_MASK = MT_MEMORY then
    lowerAttrs ATTR_IWBWA_OWBWA_NTR_INDEX |||
      if attr &&& MT_SHAREABILITY_MASK = MT_SHAREABILITY_NSH then lowerAttrs NSH
      else if attr &&& MT_SHAREABILITY_MASK = MT_SHAREABILITY_OSH then lowerAttrs OSH
      else lowerAttrs ISH
  else lowerAttrs (ATTR_NON_CACHEABLE_INDEX ||| OSH)

/-- The attributes of a descriptor: all bits but those of its type and its address. -/
def descAttrs (regime : Regime) (attr : UInt32) : UInt64 :=
  accessBits attr ||| xlatArchGetPas attr ||| apBits attr ||| unprivBits regime attr
    ||| xnBits regime attr ||| memBits attr

/-- The type of a block or a page. -/
def leafType (level : ℕ) : UInt64 := if level = XLAT_TABLE_LEVEL_MAX then PAGE_DESC else BLOCK_DESC

/-- The memory types there are. -/
def TypeValid (attr : UInt32) : Prop :=
  attr &&& MT_TYPE_MASK = MT_DEVICE ∨ attr &&& MT_TYPE_MASK = MT_MEMORY ∨
    attr &&& MT_TYPE_MASK = MT_NON_CACHEABLE

instance (attr : UInt32) : Decidable (TypeValid attr) := inferInstanceAs (Decidable (_ ∨ _))

theorem xlatBlockSize_eq (level : ℕ) : xlatBlockSize level = 2 ^ xlatAddrShift level := by
  rw [xlatBlockSize, Nat.one_shiftLeft]

theorem and_xlatBlockMask (n level : ℕ) : n &&& xlatBlockMask level = n % xlatBlockSize level := by
  rw [xlatBlockMask, xlatBlockSize_eq, Nat.and_two_pow_sub_one_eq_mod]

theorem ite_or_eq {c : Prop} [Decidable c] (a b : UInt64) :
    (if c then a ||| b else a) = a ||| if c then b else 0 := by
  by_cases h : c
  · rw [if_pos h, if_pos h]
  · rw [if_neg h, if_neg h, UInt64.or_zero]

theorem ite_or_or {c : Prop} [Decidable c] (a b b' : UInt64) :
    (if c then a ||| b else a ||| b') = a ||| if c then b else b' := by
  by_cases h : c
  · rw [if_pos h, if_pos h]
  · rw [if_neg h, if_neg h]

/-- **A descriptor** is an address, a type and attributes. -/
theorem xlatDesc_eq (regime : Regime) (attr : UInt32) (addrPa level : ℕ) :
    xlatDesc regime attr addrPa level = if addrPa % xlatBlockSize level = 0 ∧ TypeValid attr then
      some (UInt64.ofNat addrPa ||| leafType level ||| descAttrs regime attr) else none := by
  rw [xlatDesc, and_xlatBlockMask]
  by_cases haligned : addrPa % xlatBlockSize level = 0
  · -- the bits in the order of the definition above, which is not quite that of the code
    have hpush : ∀ {c : Prop} [Decidable c] (x y : UInt64),
        (if c then some x else some y) = some (if c then x else y) := by
      intro c _ x y
      exact (apply_ite some c x y).symm
    simp only [haligned, true_and, TypeValid, descAttrs, accessBits, apBits, unprivBits, xnBits, memBits,
      leafType, ne_eq, not_true_eq_false, if_false, ite_or_eq, ite_or_or]
    by_cases hdev : attr &&& MT_TYPE_MASK = MT_DEVICE
    · simp only [hdev, true_or, if_true, UInt64.or_assoc]
      rw [UInt64.or_comm (lowerAttrs (ATTR_DEV_INDEX ||| OSH))]
    · by_cases hmem : attr &&& MT_TYPE_MASK = MT_MEMORY
      · have hne : MT_MEMORY ≠ MT_DEVICE := by decide
        simp only [hmem, hne, false_or, true_or, if_true, if_false, hpush, ite_or_or, UInt64.or_assoc]
      · by_cases hnc : attr &&& MT_TYPE_MASK = MT_NON_CACHEABLE
        · have hne : MT_NON_CACHEABLE ≠ MT_DEVICE := by decide
          have hne' : MT_NON_CACHEABLE ≠ MT_MEMORY := by decide
          simp only [hnc, hne, hne', false_or, or_true, if_true, if_false, UInt64.or_assoc]
        · simp only [hdev, hmem, hnc, or_self, if_false]
  · simp only [haligned, not_false_eq_true, ne_eq, if_true, false_and, if_false]

section Bits

theorem or_and (a b c : UInt64) : (a ||| b) &&& c = (a &&& c) ||| (b &&& c) := by
  rw [← UInt64.toBitVec_inj]
  ext i
  simp only [UInt64.toBitVec_and, UInt64.toBitVec_or, BitVec.getElem_and, BitVec.getElem_or]
  exact Bool.and_or_distrib_right ..

/-- A field, by a mask at its own place. -/
theorem shiftRight_and_eq (x : UInt64) {k m mask : UInt64} (h : mask >>> k = m) :
    (x >>> k) &&& m = (x &&& mask) >>> k := by
  rw [UInt64.shiftRight_and, h]

/-- An address of a page has no bits outside its mask. -/
theorem addr_and_mask {pa : ℕ} (haligned : pa % PAGE_SIZE = 0) (hlt : pa < 2 ^ 48) :
    UInt64.ofNat pa &&& TABLE_ADDR_MASK = UInt64.ofNat pa := by
  obtain ⟨q, rfl⟩ := Nat.dvd_of_mod_eq_zero haligned
  have hsmall : PAGE_SIZE * q < 2 ^ 64 := Nat.lt_trans hlt (by decide)
  have hmask : TABLE_ADDR_MASK.toNat = (2 ^ 36 - 1) <<< 12 := rfl
  have hpage : PAGE_SIZE * q = q <<< 12 := by
    rw [Nat.shiftLeft_eq, Nat.mul_comm]
    rfl
  have hq : q < 2 ^ 36 := by
    unfold PAGE_SIZE at hlt
    omega
  rw [← UInt64.toNat_inj, UInt64.toNat_and, UInt64.toNat_ofNat_of_lt' hsmall, hmask, hpage,
    ← Nat.shiftLeft_and_distrib, Nat.and_two_pow_sub_one_of_lt_two_pow hq]

/-- All bits of the first are bits of the second. -/
def Within (a own : UInt64) : Prop := a &&& own = a

instance (a own : UInt64) : Decidable (Within a own) := inferInstanceAs (Decidable (_ = _))

theorem Within.and_eq_zero {a own mask : UInt64} (h : Within a own) (hmask : own &&& mask = 0) :
    a &&& mask = 0 := by
  have hself : a &&& own = a := h
  rw [← hself, UInt64.and_assoc, hmask, UInt64.and_zero]

theorem Within.and_eq_self {a own mask : UInt64} (h : Within a own) (hmask : own &&& mask = own) :
    a &&& mask = a := by
  have hself : a &&& own = a := h
  rw [← hself, UInt64.and_assoc, hmask]

variable (regime : Regime) (attr : UInt32)

theorem leafType_within (level : ℕ) : Within (leafType level) DESC_MASK := by
  unfold leafType
  split_ifs <;> decide

theorem accessBits_within : Within (accessBits attr) 0x400 := by
  unfold accessBits
  split_ifs <;> decide

theorem pasBits_within : Within (xlatArchGetPas attr) 0x820 := by
  unfold xlatArchGetPas
  dsimp only
  split_ifs <;> decide

theorem apBits_within : Within (apBits attr) 0x80 := by
  unfold apBits
  split_ifs <;> decide

theorem unprivBits_within : Within (unprivBits regime attr) 0x40 := by
  unfold unprivBits
  split_ifs <;> decide

theorem xnBits_within : Within (xnBits regime attr) 0x60000000000000 := by
  unfold xnBits
  split_ifs
  · cases regime <;> decide
  · decide

theorem memBits_within : Within (memBits attr) 0x31C := by
  unfold memBits
  split_ifs <;> decide

/-- **The parts do not overlap**, so that a mask which meets one part alone gives that one. -/
theorem descAttrs_and (mask : UInt64) : descAttrs regime attr &&& mask =
    (accessBits attr &&& mask) ||| (xlatArchGetPas attr &&& mask) ||| (apBits attr &&& mask)
      ||| (unprivBits regime attr &&& mask) ||| (xnBits regime attr &&& mask)
      ||| (memBits attr &&& mask) := by
  simp only [descAttrs, or_and]

theorem descAttrs_within : Within (descAttrs regime attr) 0x60000000000FFC := by
  rw [Within, descAttrs_and, (accessBits_within attr).and_eq_self (by decide),
    (pasBits_within attr).and_eq_self (by decide), (apBits_within attr).and_eq_self (by decide),
    (unprivBits_within regime attr).and_eq_self (by decide),
    (xnBits_within regime attr).and_eq_self (by decide),
    (memBits_within attr).and_eq_self (by decide), descAttrs]

theorem descAttrs_and_eq_zero {mask : UInt64}
    (hmask : (0x60000000000FFC : UInt64) &&& mask = 0) : descAttrs regime attr &&& mask = 0 :=
  (descAttrs_within regime attr).and_eq_zero hmask

variable {pa : ℕ} {level : ℕ}

/-- A mask for attributes. -/
theorem desc_and (haligned : pa % PAGE_SIZE = 0) (hlt : pa < 2 ^ 48) {mask : UInt64}
    (haddr : TABLE_ADDR_MASK &&& mask = 0) (htype : DESC_MASK &&& mask = 0) :
    (UInt64.ofNat pa ||| leafType level ||| descAttrs regime attr) &&& mask
      = descAttrs regime attr &&& mask := by
  have hpa : Within (UInt64.ofNat pa) TABLE_ADDR_MASK := addr_and_mask haligned hlt
  rw [or_and, or_and, hpa.and_eq_zero haddr, (leafType_within level).and_eq_zero htype,
    UInt64.zero_or, UInt64.zero_or]

/-- The type of a descriptor of the code. -/
theorem desc_type (haligned : pa % PAGE_SIZE = 0) (hlt : pa < 2 ^ 48) :
    (UInt64.ofNat pa ||| leafType level ||| descAttrs regime attr) &&& DESC_MASK
      = leafType level := by
  have hpa : Within (UInt64.ofNat pa) TABLE_ADDR_MASK := addr_and_mask haligned hlt
  rw [or_and, or_and, hpa.and_eq_zero (by decide), (leafType_within level).and_eq_self (by decide),
    descAttrs_and_eq_zero regime attr (by decide), UInt64.or_zero, UInt64.zero_or]

/-- The address of a descriptor of the code. -/
theorem desc_addr (haligned : pa % PAGE_SIZE = 0) (hlt : pa < 2 ^ 48) :
    (UInt64.ofNat pa ||| leafType level ||| descAttrs regime attr) &&& TABLE_ADDR_MASK
      = UInt64.ofNat pa := by
  rw [or_and, or_and, addr_and_mask haligned hlt, (leafType_within level).and_eq_zero (by decide),
    descAttrs_and_eq_zero regime attr (by decide), UInt64.or_zero, UInt64.or_zero]

end Bits

/-! ## 4. Reading back -/

section ReadBack

variable (regime : Regime) (attr : UInt32)

/-- **What is read back**: memory type and access as they were written, unprivileged access where there
is one, a realm as non-secure, execution as the code allows it, and the access flag the other way
round. -/
def readBack : UInt32 :=
  (attr &&& MT_TYPE_MASK) ||| (attr &&& MT_RW)
    ||| (if regime = .el1El0 then attr &&& MT_USER else 0)
    ||| (if attr &&& MT_PAS_MASK = MT_REALM ∨ attr &&& MT_PAS_MASK = MT_NS then MT_NS else 0)
    ||| (if attr &&& MT_TYPE_MASK = MT_DEVICE ∨ attr &&& MT_RW ≠ 0 ∨ attr &&& MT_EXECUTE_NEVER ≠ 0 then
      MT_EXECUTE_NEVER else 0)
    ||| ((attr &&& MT_AF_CLEAR) ^^^ MT_AF_CLEAR)

theorem attrIndex_eq : (descAttrs regime attr &&& 0xC) >>> ATTR_INDEX_SHIFT =
    if attr &&& MT_TYPE_MASK = MT_DEVICE then ATTR_DEV_INDEX
    else if attr &&& MT_TYPE_MASK = MT_MEMORY then ATTR_IWBWA_OWBWA_NTR_INDEX
    else ATTR_NON_CACHEABLE_INDEX := by
  rw [descAttrs_and, (accessBits_within attr).and_eq_zero (by decide),
    (pasBits_within attr).and_eq_zero (by decide), (apBits_within attr).and_eq_zero (by decide),
    (unprivBits_within regime attr).and_eq_zero (by decide),
    (xnBits_within regime attr).and_eq_zero (by decide)]
  unfold memBits
  split_ifs <;> decide

theorem ap2Bit_eq : (descAttrs regime attr &&& 0x80) >>> AP2_SHIFT =
    if attr &&& MT_RW ≠ 0 then AP2_RW else 1 := by
  rw [descAttrs_and, (accessBits_within attr).and_eq_zero (by decide),
    (pasBits_within attr).and_eq_zero (by decide), (memBits_within attr).and_eq_zero (by decide),
    (unprivBits_within regime attr).and_eq_zero (by decide),
    (xnBits_within regime attr).and_eq_zero (by decide)]
  unfold apBits
  split_ifs <;> decide

theorem ap1Bit_eq : (descAttrs .el1El0 attr &&& 0x40) >>> AP1_SHIFT =
    if attr &&& MT_USER ≠ 0 then AP1_ACCESS_UNPRIVILEGED else 0 := by
  rw [descAttrs_and, (accessBits_within attr).and_eq_zero (by decide),
    (pasBits_within attr).and_eq_zero (by decide), (memBits_within attr).and_eq_zero (by decide),
    (apBits_within attr).and_eq_zero (by decide), (xnBits_within .el1El0 attr).and_eq_zero (by decide)]
  rw [unprivBits, if_pos rfl]
  split_ifs <;> decide

theorem nsBit_eq : (descAttrs regime attr &&& 0x20) >>> NS_SHIFT =
    if attr &&& MT_PAS_MASK = MT_REALM ∨ attr &&& MT_PAS_MASK = MT_NS then 1 else 0 := by
  rw [descAttrs_and, (accessBits_within attr).and_eq_zero (by decide),
    (unprivBits_within regime attr).and_eq_zero (by decide),
    (memBits_within attr).and_eq_zero (by decide), (apBits_within attr).and_eq_zero (by decide),
    (xnBits_within regime attr).and_eq_zero (by decide)]
  unfold xlatArchGetPas
  dsimp only
  by_cases hrealm : attr &&& MT_PAS_MASK = MT_REALM
  · rw [if_pos hrealm, if_pos (Or.inl hrealm)]
    decide
  · by_cases hroot : attr &&& MT_PAS_MASK = MT_ROOT
    · rw [if_neg hrealm, if_pos hroot, if_neg (by rw [hroot]; decide)]
      decide
    · by_cases hns : attr &&& MT_PAS_MASK = MT_NS
      · rw [if_neg hrealm, if_neg hroot, if_pos hns, if_pos (Or.inr hns)]
        decide
      · rw [if_neg hrealm, if_neg hroot, if_neg hns, if_neg (not_or.mpr ⟨hrealm, hns⟩)]
        decide

theorem xn_eq : descAttrs regime attr &&& xlatArchRegimeGetXnDesc regime =
    if attr &&& MT_TYPE_MASK = MT_DEVICE ∨ attr &&& MT_RW ≠ 0 ∨ attr &&& MT_EXECUTE_NEVER ≠ 0 then
      xlatArchRegimeGetXnDesc regime else 0 := by
  have hmask : Within (xlatArchRegimeGetXnDesc regime) 0x60000000000000 := by
    cases regime <;> decide
  have hother : ∀ {a own : UInt64}, Within a own → own &&& 0x60000000000000 = 0 →
      a &&& xlatArchRegimeGetXnDesc regime = 0 := by
    intro a own ha hown
    have hself : xlatArchRegimeGetXnDesc regime &&& 0x60000000000000 = _ := hmask
    rw [← hself, UInt64.and_comm (xlatArchRegimeGetXnDesc regime),
      ← UInt64.and_assoc, ha.and_eq_zero hown, UInt64.zero_and]
  rw [descAttrs_and, hother (accessBits_within attr) (by decide),
    hother (pasBits_within attr) (by decide), hother (apBits_within attr) (by decide),
    hother (unprivBits_within regime attr) (by decide), hother (memBits_within attr) (by decide)]
  unfold xnBits
  split_ifs
  · cases regime <;> decide
  · rw [UInt64.zero_and]
    decide

theorem accessFlag_eq : (descAttrs regime attr &&& 0x400) >>> ACCESS_FLAG_SHIFT =
    if attr &&& MT_AF_CLEAR = 0 then 1 else 0 := by
  rw [descAttrs_and, (apBits_within attr).and_eq_zero (by decide),
    (pasBits_within attr).and_eq_zero (by decide), (memBits_within attr).and_eq_zero (by decide),
    (unprivBits_within regime attr).and_eq_zero (by decide),
    (xnBits_within regime attr).and_eq_zero (by decide)]
  unfold accessBits
  split_ifs <;> decide

/-- A mask of one bit. -/
theorem and_bit (attr : UInt32) {mask : UInt32} {i : ℕ} (hmask : mask.toNat = 2 ^ i) :
    attr &&& mask = 0 ∨ attr &&& mask = mask := by
  rw [← UInt32.toNat_inj, ← UInt32.toNat_inj, UInt32.toNat_and, hmask, Nat.and_two_pow]
  cases attr.toNat.testBit i with
  | true => exact Or.inr (Nat.one_mul _)
  | false => exact Or.inl (Nat.zero_mul _)

/-- **Reading back.** -/
theorem memAttributes_desc {pa level : ℕ} (haligned : pa % PAGE_SIZE = 0) (hlt : pa < 2 ^ 48)
    (htype : TypeValid attr) :
    memAttributes regime (UInt64.ofNat pa ||| leafType level ||| descAttrs regime attr)
      = some (readBack regime attr) := by
  have hfield : ∀ (mask : UInt64) {k m : UInt64}, mask >>> k = m → TABLE_ADDR_MASK &&& mask = 0 →
      DESC_MASK &&& mask = 0 →
      ((UInt64.ofNat pa ||| leafType level ||| descAttrs regime attr) >>> k) &&& m
        = (descAttrs regime attr &&& mask) >>> k := by
    intro mask k m hmask haddr htype
    rw [shiftRight_and_eq _ hmask, desc_and regime attr haligned hlt haddr htype]
  have hxn : (UInt64.ofNat pa ||| leafType level ||| descAttrs regime attr)
      &&& xlatArchRegimeGetXnDesc regime = if attr &&& MT_TYPE_MASK = MT_DEVICE ∨
        attr &&& MT_RW ≠ 0 ∨ attr &&& MT_EXECUTE_NEVER ≠ 0 then xlatArchRegimeGetXnDesc regime
      else 0 := by
    rw [desc_and regime attr haligned hlt (by cases regime <;> decide) (by cases regime <;> decide),
      xn_eq]
  have hxn0 : xlatArchRegimeGetXnDesc regime ≠ 0 := by cases regime <;> decide
  have hrw : (if (if attr &&& MT_RW ≠ 0 then AP2_RW else 1) = AP2_RW then MT_RW else 0)
      = attr &&& MT_RW := by
    rcases and_bit attr (show MT_RW.toNat = 2 ^ 3 from rfl) with h | h
    · rw [h]
      rfl
    · rw [h]
      rfl
  have huser : (if regime = .el1El0 ∧
        (descAttrs regime attr &&& 0x40) >>> AP1_SHIFT = AP1_ACCESS_UNPRIVILEGED then MT_USER else 0)
      = if regime = .el1El0 then attr &&& MT_USER else 0 := by
    by_cases hregime : regime = .el1El0
    · rw [hregime, ap1Bit_eq, if_pos rfl]
      rcases and_bit attr (show MT_USER.toNat = 2 ^ 7 from rfl) with h | h
      · rw [h]
        rfl
      · rw [h]
        rfl
    · rw [if_neg hregime, if_neg fun h => hregime h.1]
  have hns : (if (if attr &&& MT_PAS_MASK = MT_REALM ∨ attr &&& MT_PAS_MASK = MT_NS then
        (1 : UInt64) else 0) = 1 then MT_NS else 0)
      = if attr &&& MT_PAS_MASK = MT_REALM ∨ attr &&& MT_PAS_MASK = MT_NS then MT_NS else 0 := by
    by_cases h : attr &&& MT_PAS_MASK = MT_REALM ∨ attr &&& MT_PAS_MASK = MT_NS
    · rw [if_pos h, if_pos h, if_pos rfl]
    · rw [if_neg h, if_neg h, if_neg (by decide)]
  have haf : (if (if attr &&& MT_AF_CLEAR = 0 then (1 : UInt64) else 0) ≠ 0 then MT_AF_CLEAR else 0)
      = (attr &&& MT_AF_CLEAR) ^^^ MT_AF_CLEAR := by
    rcases and_bit attr (show MT_AF_CLEAR.toNat = 2 ^ 10 from rfl) with h | h
    · rw [h]
      rfl
    · rw [h]
      rfl
  have hmem : readMemType (UInt64.ofNat pa ||| leafType level ||| descAttrs regime attr)
      = some (attr &&& MT_TYPE_MASK) := by
    rw [readMemType, hfield 0xC (by decide) (by decide) (by decide), attrIndex_eq]
    rcases htype with h | h | h
    · rw [h]
      rfl
    · rw [h]
      rfl
    · rw [h]
      rfl
  have hxnRead : readXn regime (UInt64.ofNat pa ||| leafType level ||| descAttrs regime attr)
      = some (if attr &&& MT_TYPE_MASK = MT_DEVICE ∨ attr &&& MT_RW ≠ 0 ∨
        attr &&& MT_EXECUTE_NEVER ≠ 0 then MT_EXECUTE_NEVER else 0) := by
    simp only [readXn, hxn]
    by_cases h : attr &&& MT_TYPE_MASK = MT_DEVICE ∨ attr &&& MT_RW ≠ 0 ∨ attr &&& MT_EXECUTE_NEVER ≠ 0
    · rw [if_pos h, if_pos rfl, if_pos h]
    · rw [if_neg h, if_neg hxn0.symm, if_pos rfl, if_neg h]
  rw [memAttributes, hmem, hxnRead, hfield 0x80 (by decide) (by decide) (by decide), ap2Bit_eq, hrw,
    hfield 0x40 (by decide) (by decide) (by decide), huser,
    hfield 0x20 (by decide) (by decide) (by decide), nsBit_eq, hns,
    hfield 0x400 (by decide) (by decide) (by decide), accessFlag_eq, haf]
  rfl

/-! ## 5. Writing back -/

theorem or_and32 (a b c : UInt32) : (a ||| b) &&& c = (a &&& c) ||| (b &&& c) := by
  rw [← UInt32.toBitVec_inj]
  ext i
  simp only [UInt32.toBitVec_and, UInt32.toBitVec_or, BitVec.getElem_and, BitVec.getElem_or]
  exact Bool.and_or_distrib_right ..

/-- A mask over what is read back meets each part on its own. -/
theorem readBack_and (mask : UInt32) : readBack regime attr &&& mask =
    (attr &&& (MT_TYPE_MASK &&& mask)) ||| (attr &&& (MT_RW &&& mask))
      ||| (if regime = .el1El0 then attr &&& (MT_USER &&& mask) else 0)
      ||| (if attr &&& MT_PAS_MASK = MT_REALM ∨ attr &&& MT_PAS_MASK = MT_NS then MT_NS &&& mask else 0)
      ||| (if attr &&& MT_TYPE_MASK = MT_DEVICE ∨ attr &&& MT_RW ≠ 0 ∨ attr &&& MT_EXECUTE_NEVER ≠ 0 then
        MT_EXECUTE_NEVER &&& mask else 0)
      ||| (((attr &&& MT_AF_CLEAR) ^^^ MT_AF_CLEAR) &&& mask) := by
  simp only [readBack, or_and32, UInt32.and_assoc, apply_ite (· &&& mask), UInt32.zero_and]

theorem af_within : (attr &&& MT_AF_CLEAR) ^^^ MT_AF_CLEAR = 0 ∨
    (attr &&& MT_AF_CLEAR) ^^^ MT_AF_CLEAR = MT_AF_CLEAR := by
  rcases and_bit attr (show MT_AF_CLEAR.toNat = 2 ^ 10 from rfl) with h | h
  · rw [h]
    exact Or.inr rfl
  · rw [h]
    exact Or.inl rfl

theorem readBack_and_low {mask : UInt32} (haf : MT_AF_CLEAR &&& mask = 0) :
    ((attr &&& MT_AF_CLEAR) ^^^ MT_AF_CLEAR) &&& mask = 0 := by
  rcases af_within attr with h | h
  · rw [h, UInt32.zero_and]
  · rw [h, haf]

theorem readBack_type : readBack regime attr &&& MT_TYPE_MASK = attr &&& MT_TYPE_MASK := by
  have htype : MT_TYPE_MASK &&& MT_TYPE_MASK = MT_TYPE_MASK := rfl
  have hrw : MT_RW &&& MT_TYPE_MASK = 0 := rfl
  have huser : MT_USER &&& MT_TYPE_MASK = 0 := rfl
  have hns : MT_NS &&& MT_TYPE_MASK = 0 := rfl
  have hxn : MT_EXECUTE_NEVER &&& MT_TYPE_MASK = 0 := rfl
  simp only [readBack_and, readBack_and_low attr (show MT_AF_CLEAR &&& MT_TYPE_MASK = 0 from rfl),
    htype, hrw, huser, hns, hxn, UInt32.and_zero, UInt32.or_zero, ite_self]

theorem readBack_rw : readBack regime attr &&& MT_RW = attr &&& MT_RW := by
  have htype : MT_TYPE_MASK &&& MT_RW = 0 := rfl
  have hrw : MT_RW &&& MT_RW = MT_RW := rfl
  have huser : MT_USER &&& MT_RW = 0 := rfl
  have hns : MT_NS &&& MT_RW = 0 := rfl
  have hxn : MT_EXECUTE_NEVER &&& MT_RW = 0 := rfl
  simp only [readBack_and, readBack_and_low attr (show MT_AF_CLEAR &&& MT_RW = 0 from rfl),
    htype, hrw, huser, hns, hxn, UInt32.and_zero, UInt32.or_zero, UInt32.zero_or, ite_self]

theorem readBack_user : readBack .el1El0 attr &&& MT_USER = attr &&& MT_USER := by
  have htype : MT_TYPE_MASK &&& MT_USER = 0 := rfl
  have hrw : MT_RW &&& MT_USER = 0 := rfl
  have huser : MT_USER &&& MT_USER = MT_USER := rfl
  have hns : MT_NS &&& MT_USER = 0 := rfl
  have hxn : MT_EXECUTE_NEVER &&& MT_USER = 0 := rfl
  simp only [readBack_and, readBack_and_low attr (show MT_AF_CLEAR &&& MT_USER = 0 from rfl),
    htype, hrw, huser, hns, hxn, UInt32.and_zero, UInt32.or_zero, UInt32.zero_or, ite_self, if_true]

theorem readBack_pas : readBack regime attr &&& MT_PAS_MASK =
    if attr &&& MT_PAS_MASK = MT_REALM ∨ attr &&& MT_PAS_MASK = MT_NS then MT_NS else 0 := by
  have htype : MT_TYPE_MASK &&& MT_PAS_MASK = 0 := rfl
  have hrw : MT_RW &&& MT_PAS_MASK = 0 := rfl
  have huser : MT_USER &&& MT_PAS_MASK = 0 := rfl
  have hns : MT_NS &&& MT_PAS_MASK = MT_NS := rfl
  have hxn : MT_EXECUTE_NEVER &&& MT_PAS_MASK = 0 := rfl
  simp only [readBack_and, readBack_and_low attr (show MT_AF_CLEAR &&& MT_PAS_MASK = 0 from rfl),
    htype, hrw, huser, hns, hxn, UInt32.and_zero, UInt32.or_zero, UInt32.zero_or, ite_self]

theorem readBack_xn : readBack regime attr &&& MT_EXECUTE_NEVER =
    if attr &&& MT_TYPE_MASK = MT_DEVICE ∨ attr &&& MT_RW ≠ 0 ∨ attr &&& MT_EXECUTE_NEVER ≠ 0 then
      MT_EXECUTE_NEVER else 0 := by
  have htype : MT_TYPE_MASK &&& MT_EXECUTE_NEVER = 0 := rfl
  have hrw : MT_RW &&& MT_EXECUTE_NEVER = 0 := rfl
  have huser : MT_USER &&& MT_EXECUTE_NEVER = 0 := rfl
  have hns : MT_NS &&& MT_EXECUTE_NEVER = 0 := rfl
  have hxn : MT_EXECUTE_NEVER &&& MT_EXECUTE_NEVER = MT_EXECUTE_NEVER := rfl
  simp only [readBack_and, readBack_and_low attr (show MT_AF_CLEAR &&& MT_EXECUTE_NEVER = 0 from rfl),
    htype, hrw, huser, hns, hxn, UInt32.and_zero, UInt32.or_zero, UInt32.zero_or, ite_self]

theorem readBack_af : readBack regime attr &&& MT_AF_CLEAR =
    (attr &&& MT_AF_CLEAR) ^^^ MT_AF_CLEAR := by
  have htype : MT_TYPE_MASK &&& MT_AF_CLEAR = 0 := rfl
  have hrw : MT_RW &&& MT_AF_CLEAR = 0 := rfl
  have huser : MT_USER &&& MT_AF_CLEAR = 0 := rfl
  have hns : MT_NS &&& MT_AF_CLEAR = 0 := rfl
  have hxn : MT_EXECUTE_NEVER &&& MT_AF_CLEAR = 0 := rfl
  simp only [readBack_and, htype, hrw, huser, hns, hxn, UInt32.and_zero, UInt32.or_zero,
    UInt32.zero_or, ite_self]
  rcases af_within attr with h | h
  · rw [h]
    rfl
  · rw [h]
    rfl

/-- All bits but the access flag, the shareability and the second one of the address space. -/
def KEPT_BITS : UInt64 := ~~~0xF00

theorem descAttrs_readBack :
    descAttrs regime (readBack regime attr) &&& KEPT_BITS = descAttrs regime attr &&& KEPT_BITS := by
  have hap : apBits (readBack regime attr) = apBits attr := by
    rw [apBits, readBack_rw, apBits]
  have hunpriv : unprivBits regime (readBack regime attr) = unprivBits regime attr := by
    by_cases hregime : regime = .el1El0
    · rw [hregime, unprivBits, readBack_user, unprivBits]
    · rw [unprivBits, unprivBits, if_neg hregime, if_neg hregime]
  have hxn : xnBits regime (readBack regime attr) = xnBits regime attr := by
    rw [xnBits, readBack_type, readBack_rw, readBack_xn, xnBits]
    by_cases h : attr &&& MT_TYPE_MASK = MT_DEVICE ∨ attr &&& MT_RW ≠ 0 ∨ attr &&& MT_EXECUTE_NEVER ≠ 0
    · rw [if_pos h, if_pos h, if_pos (Or.inr (Or.inr (by decide)))]
    · rw [if_neg h, if_neg h, if_neg]
      rintro (hdev | hrw | h0)
      · exact h (Or.inl hdev)
      · exact h (Or.inr (Or.inl hrw))
      · exact h0 rfl
  have hpas : xlatArchGetPas (readBack regime attr) &&& KEPT_BITS = xlatArchGetPas attr &&& KEPT_BITS := by
    simp only [xlatArchGetPas, readBack_pas]
    by_cases hrealm : attr &&& MT_PAS_MASK = MT_REALM
    · rw [if_pos (Or.inl hrealm), hrealm]
      decide
    by_cases hns : attr &&& MT_PAS_MASK = MT_NS
    · rw [if_pos (Or.inr hns), hns]
    have h0 : ¬ (0 : UInt32) = MT_REALM ∧ ¬ (0 : UInt32) = MT_ROOT ∧ ¬ (0 : UInt32) = MT_NS := by
      decide
    rw [if_neg (not_or.mpr ⟨hrealm, hns⟩), if_neg h0.1, if_neg h0.2.1, if_neg h0.2.2, if_neg hrealm,
      if_neg hns]
    split_ifs <;> decide
  have hmem : memBits (readBack regime attr) &&& KEPT_BITS = memBits attr &&& KEPT_BITS := by
    simp only [memBits, readBack_type]
    split_ifs <;> decide
  rw [descAttrs_and, descAttrs_and, hap, hunpriv, hxn, hpas, hmem,
    (accessBits_within _).and_eq_zero (by decide), (accessBits_within attr).and_eq_zero (by decide)]

theorem pageSize_dvd_blockSize (level : ℕ) : PAGE_SIZE ∣ xlatBlockSize level := by
  have hpage : PAGE_SIZE = 2 ^ PAGE_SIZE_SHIFT := rfl
  rw [xlatBlockSize_eq, hpage]
  exact pow_dvd_pow 2 (Nat.le_add_right ..)

/-- **A descriptor is not read back as it was written.**  Whoever writes back what was read gets a
descriptor with the same address and type, and the same attributes but for the shareability and the
second bit of the address space; and the access flag is the opposite one. -/
theorem mem_attributes_read_back {pa level : ℕ} {desc : UInt64} (hlt : pa < 2 ^ 48)
    (hdesc : xlatDesc regime attr pa level = some desc) :
    memAttributes regime desc = some (readBack regime attr) ∧
      ∃ desc', xlatDesc regime (readBack regime attr) pa level = some desc' ∧
        desc' &&& KEPT_BITS = desc &&& KEPT_BITS ∧
        (desc' >>> ACCESS_FLAG_SHIFT) &&& 1 ≠ (desc >>> ACCESS_FLAG_SHIFT) &&& 1 := by
  rw [xlatDesc_eq] at hdesc ⊢
  split_ifs at hdesc with h
  obtain ⟨hblock, htype⟩ := h
  cases hdesc
  have haligned : pa % PAGE_SIZE = 0 :=
    Nat.mod_eq_zero_of_dvd ((pageSize_dvd_blockSize level).trans (Nat.dvd_of_mod_eq_zero hblock))
  have hflag : ∀ attr, ((UInt64.ofNat pa ||| leafType level ||| descAttrs regime attr)
      >>> ACCESS_FLAG_SHIFT) &&& 1 = if attr &&& MT_AF_CLEAR = 0 then 1 else 0 := by
    intro attr
    rw [shiftRight_and_eq _ (show (0x400 : UInt64) >>> ACCESS_FLAG_SHIFT = 1 from by decide),
      desc_and regime attr haligned hlt (by decide) (by decide), accessFlag_eq]
  have hvalid : TypeValid (readBack regime attr) := by
    simp only [TypeValid, readBack_type]
    exact htype
  refine ⟨memAttributes_desc regime attr haligned hlt htype, _, if_pos ⟨hblock, hvalid⟩, ?_, ?_⟩
  · rw [or_and, or_and _ (descAttrs regime attr), descAttrs_readBack]
  · rw [hflag, hflag, readBack_af]
    rcases and_bit attr (show MT_AF_CLEAR.toNat = 2 ^ 10 from rfl) with h | h
    · rw [h]
      decide
    · rw [h]
      decide

/-- A page of code, at 2 GB. -/
theorem mem_attributes_read_back_code : ∃ desc, xlatDesc .el2 MT_MEMORY 0x80000000 3 = some desc ∧
    memAttributes .el2 desc = some (MT_MEMORY ||| MT_AF_CLEAR) := by
  have hdesc : xlatDesc .el2 MT_MEMORY 0x80000000 3 = some 0x800007C3 := by decide +kernel
  exact ⟨_, hdesc, (mem_attributes_read_back .el2 MT_MEMORY (by decide) hdesc).1⟩

end ReadBack

end RmmAcs.Xlat
