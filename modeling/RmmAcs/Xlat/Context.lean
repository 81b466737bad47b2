/-
# Contexts: `xlat_ctx_t`

A context has the regions that are to be mapped, sorted by their ends, and the tables.  Static regions
are added before the tables are initialised, and may lie in one another; dynamic regions are added and
removed afterwards, and share no address with any other.

The model follows the library with `PLAT_XLAT_TABLES_DYNAMIC`.  Numbers are those of the source, which
has 64 bits for addresses and sizes: what can wrap around there does so here.  Caches and TLBs are not
modelled, nor the assertions about the processor (that the MMU is off, and which sizes it supports).
-/
import RmmAcs.Xlat.Tables

namespace RmmAcs.Xlat

def MT_DYNAMIC : UInt64 := (1 : UInt64) <<< 31
def EPERM : ℤ := 1
def ENOMEM : ℤ := 12
def EINVAL : ℤ := 22
def ERANGE : ℤ := 34
def L0_XLAT_ADDRESS_SHIFT : ℕ := 39
def L1_XLAT_ADDRESS_SHIFT : ℕ := 30
def L2_XLAT_ADDRESS_SHIFT : ℕ := 21
def MAX_VIRT_ADDR_SPACE_SIZE : ℕ := 2 ^ 48

/-- `GET_XLAT_TABLE_LEVEL_BASE` -/
def getXlatTableLevelBase (virtAddrSpaceSz : ℕ) : ℕ :=
  if virtAddrSpaceSz > 2 ^ L0_XLAT_ADDRESS_SHIFT then 0
  else if virtAddrSpaceSz > 2 ^ L1_XLAT_ADDRESS_SHIFT then 1
  else if virtAddrSpaceSz > 2 ^ L2_XLAT_ADDRESS_SHIFT then 2
  else 3

/-- `XLAT_TABLE_IDX` -/
def xlatTableIdx (virtualAddr level : ℕ) : ℕ := (virtualAddr >>> xlatAddrShift level) &&& 0x1FF

/-- `xlat_ctx_t`: `mmap` has the entries before the first of size 0. -/
structure Ctx (n : ℕ) where
  layout : Layout n
  paMaxAddress : ℕ
  vaMaxAddress : ℕ
  mmapNum : ℕ
  mmap : List MmapRegion
  tables : Tables n
  maxPa : ℕ
  maxVa : ℕ
  initialized : Bool

/-! ## 1. The array of regions -/

/-- `base + size - 1` in 64 bits. -/
def endAddr (base size : ℕ) : ℕ := (base + size + (2 ^ 64 - 1)) % 2 ^ 64

/-- `a - b` in 64 bits. -/
def sub64 (a b : ℕ) : ℕ := (a + (2 ^ 64 - b)) % 2 ^ 64

/-- The loop of `mmap_add_region_check` finds fault with a region of the array. -/
def overlapError (mm cursor : MmapRegion) : Bool :=
  let endPa := endAddr mm.basePa mm.size
  let endVa := endAddr mm.baseVa mm.size
  let cursorEndVa := endAddr cursor.baseVa cursor.size
  let fullyOverlappedVa := (mm.baseVa ≥ cursor.baseVa && endVa ≤ cursorEndVa) ||
    (cursor.baseVa ≥ mm.baseVa && cursorEndVa ≤ endVa)
  if fullyOverlappedVa then
    mm.attr &&& MT_DYNAMIC != 0 || cursor.attr &&& MT_DYNAMIC != 0 ||
      sub64 cursor.baseVa cursor.basePa != sub64 mm.baseVa mm.basePa ||
      (mm.baseVa == cursor.baseVa && mm.size == cursor.size)
  else
    let cursorEndPa := endAddr cursor.basePa cursor.size
    let separatedPa := endPa < cursor.basePa || mm.basePa > cursorEndPa
    let separatedVa := endVa < cursor.baseVa || mm.baseVa > cursorEndVa
    !separatedVa || !separatedPa

section Array

variable {n : ℕ} (ctx : Ctx n) (mm : MmapRegion)

/-- `mmap_add_region_check` -/
def mmapAddRegionCheck : ℤ :=
  if mm.basePa % PAGE_SIZE ≠ 0 ∨ mm.baseVa % PAGE_SIZE ≠ 0 ∨ mm.size % PAGE_SIZE ≠ 0 then -EINVAL
  else if mm.granularity ≠ xlatBlockSize 1 ∧ mm.granularity ≠ xlatBlockSize 2 ∧
      mm.granularity ≠ xlatBlockSize 3 then -EINVAL
  else if mm.basePa > endAddr mm.basePa mm.size ∨ mm.baseVa > endAddr mm.baseVa mm.size then -ERANGE
  else if endAddr mm.baseVa mm.size > ctx.vaMaxAddress then -ERANGE
  else if endAddr mm.basePa mm.size > ctx.paMaxAddress then -ERANGE
  else if (ctx.mmap[ctx.mmapNum - 1]?).isSome then -ENOMEM
  else if ctx.mmap.any (overlapError mm) then -EPERM
  else 0

/-- A region takes its place: behind those that end before it, and the smaller ones that end with it. -/
def insertRegion (mmap : List MmapRegion) : List MmapRegion :=
  let endVa := endAddr mm.baseVa mm.size
  let before := mmap.takeWhile fun cursor => endAddr cursor.baseVa cursor.size < endVa
  let rest := mmap.dropWhile fun cursor => endAddr cursor.baseVa cursor.size < endVa
  let smaller := fun cursor : MmapRegion =>
    endAddr cursor.baseVa cursor.size == endVa && cursor.size < mm.size
  before ++ rest.takeWhile smaller ++ mm :: rest.dropWhile smaller

/-- What the two functions that add a region do to the array and to `max_pa` and `max_va`. -/
def Ctx.addToMmap : Ctx n :=
  { ctx with
    mmap := insertRegion mm ctx.mmap
    maxPa := if endAddr mm.basePa mm.size > ctx.maxPa then endAddr mm.basePa mm.size else ctx.maxPa
    maxVa := if endAddr mm.baseVa mm.size > ctx.maxVa then endAddr mm.baseVa mm.size else ctx.maxVa }

/-- `mmap_add_region_ctx`; `none` where an assertion fails. -/
def mmapAddRegionCtx : Option (Ctx n) :=
  if mm.size = 0 then some ctx
  else if mmapAddRegionCheck ctx mm ≠ 0 then none
  else some (ctx.addToMmap mm)

/-- `mmap_add_ctx`, for the regions before the first of granularity 0. -/
def mmapAddCtx (mms : List MmapRegion) : Option (Ctx n) := mms.foldlM mmapAddRegionCtx ctx

end Array

/-! ## 2. Initialisation -/

/-- Tables that have been zeroed. -/
def Tables.zero (n : ℕ) : Tables n := ⟨fun _ _ => INVALID_DESC, fun _ => 0⟩

section Regions

variable {n : ℕ}

/-- A call of `xlat_tables_map_region` for the base table. -/
def Ctx.mapRegion (ctx : Ctx n) (mm : MmapRegion) (s : Tables n) : Option (ℕ × Tables n) :=
  xlatTablesMapRegion ctx.layout mm (XLAT_TABLE_LEVEL_MAX - ctx.layout.baseLevel) 0 none
    ctx.layout.baseTableEntries s

/-- A call of `xlat_tables_unmap_region` for the base table. -/
def Ctx.unmapRegion (ctx : Ctx n) (mm : MmapRegion) (s : Tables n) : Option (Tables n) :=
  xlatTablesUnmapRegion ctx.layout mm (XLAT_TABLE_LEVEL_MAX - ctx.layout.baseLevel) 0 none
    ctx.layout.baseTableEntries s

/-- The loop of `init_xlat_tables_ctx`.  A region for which there are too few tables is mapped as far as
they go: the report of it is commented out. -/
def Ctx.mapAll (ctx : Ctx n) (mmap : List MmapRegion) (s : Tables n) : Option (Tables n) :=
  match mmap with
  | [] => some s
  | mm :: mmap => do
    let (_, s) ← ctx.mapRegion mm s
    ctx.mapAll mmap s

/-- `init_xlat_tables_ctx` -/
def initXlatTablesCtx (ctx : Ctx n) : Option (Ctx n) := do
  guard (ctx.vaMaxAddress ≤ MAX_VIRT_ADDR_SPACE_SIZE - 1 ∧
    (ctx.vaMaxAddress + 1) &&& ctx.vaMaxAddress = 0)
  let s ← ctx.mapAll ctx.mmap (Tables.zero n)
  guard (ctx.maxVa ≤ ctx.vaMaxAddress ∧ ctx.maxPa ≤ ctx.paMaxAddress)
  return { ctx with tables := s, initialized := true }

/-! ## 3. Dynamic regions -/

/-- `mm->attr |= MT_DYNAMIC` -/
def MmapRegion.toDynamic (mm : MmapRegion) : MmapRegion := { mm with attr := mm.attr ||| MT_DYNAMIC }

theorem MmapRegion.toDynamic_size (mm : MmapRegion) : mm.toDynamic.size = mm.size := rfl

/-- `unmap_mm`: what has been mapped of a region. -/
def unmapMm (mm : MmapRegion) (endVa : ℕ) : MmapRegion := ⟨0, mm.baseVa, endVa - mm.baseVa, 0, 0⟩

/-- What `mmap_add_dynamic_region_ctx` does with the tables.  Where they run out, the region is taken out
of the array again; and out of the tables, if the address returned is behind its first one. -/
def Ctx.mapDynamicRegion (ctx : Ctx n) (mm : MmapRegion) : Option (ℤ × Ctx n) := do
  let (endVa, s) ← ctx.mapRegion mm ctx.tables
  if endVa ≠ mm.endVa then
    if mm.baseVa ≥ endVa then return (-ENOMEM, { ctx with tables := s })
    else
      let s ← ctx.unmapRegion (unmapMm mm endVa) s
      return (-ENOMEM, { ctx with tables := s })
  else return (0, { ctx.addToMmap mm with tables := s })

/-- `mmap_add_dynamic_region_ctx` -/
def mmapAddDynamicRegionCtx (ctx : Ctx n) (mm : MmapRegion) : Option (ℤ × Ctx n) :=
  if mm.size = 0 then some (0, ctx)
  else if mmapAddRegionCheck ctx mm.toDynamic ≠ 0 then
    some (mmapAddRegionCheck ctx mm.toDynamic, ctx)
  else if ctx.initialized then ctx.mapDynamicRegion mm.toDynamic
  else some (0, ctx.addToMmap mm.toDynamic)

/-- The greatest end of a region, or 0. -/
def maxEnd (endOf : MmapRegion → ℕ) (mmap : List MmapRegion) : ℕ :=
  mmap.foldl (fun m mm => if endOf mm > m then endOf mm else m) 0

/-- A region is taken out of the array. -/
def Ctx.removeFromMmap (ctx : Ctx n) (mm : MmapRegion) (mmap : List MmapRegion) : Ctx n :=
  { ctx with
    mmap := mmap
    maxVa := if endAddr mm.baseVa mm.size = ctx.maxVa then
      maxEnd (fun mm => endAddr mm.baseVa mm.size) mmap else ctx.maxVa
    maxPa := if endAddr mm.basePa mm.size = ctx.maxPa then
      maxEnd (fun mm => endAddr mm.basePa mm.size) mmap else ctx.maxPa }

/-- `mmap_remove_dynamic_region_ctx` -/
def mmapRemoveDynamicRegionCtx (ctx : Ctx n) (baseVa size : ℕ) : Option (ℤ × Ctx n) :=
  let here := fun mm : MmapRegion => mm.baseVa == baseVa && mm.size == size
  match ctx.mmap.find? here with
  | none => some (-EINVAL, ctx)
  | some mm =>
    if mm.attr &&& MT_DYNAMIC = 0 then some (-EPERM, ctx)
    else
      (if ctx.initialized then ctx.unmapRegion mm ctx.tables else some ctx.tables).map fun s =>
        (0, { ctx.removeFromMmap mm (ctx.mmap.eraseP here) with tables := s })

/-! ## 4. Walking the tables -/

/-- `find_xlat_table_entry`, from a table whose entries have the level `3 - depth`: the table, the index
and the level of the entry, if there is one.  The outer `none` is a failed assertion. -/
def findXlatTableEntry (c : Layout n) (s : Tables n) (va : ℕ) :
    (depth : ℕ) → TableRef n → (entries : ℕ) → Option (Option (TableRef n × ℕ × ℕ))
  | depth, table, entries =>
    let level := XLAT_TABLE_LEVEL_MAX - depth
    let idx := xlatTableIdx va level
    if idx ≥ entries then some none
    else
      let desc := s.desc table idx
      let descType := desc &&& DESC_MASK
      if descType = INVALID_DESC then some none
      else match depth with
        | 0 => if descType = PAGE_DESC then some (some (table, idx, level)) else none
        | depth + 1 =>
          if descType = BLOCK_DESC then some (some (table, idx, level))
          else if descType = TABLE_DESC then do
            let i ← subtable c desc
            findXlatTableEntry c s va depth (some i) XLAT_TABLE_ENTRIES
          else none

/-- A walk from the base table. -/
def Ctx.walk (ctx : Ctx n) (s : Tables n) (va : ℕ) : Option (Option (TableRef n × ℕ × ℕ)) :=
  findXlatTableEntry ctx.layout s va
    (XLAT_TABLE_LEVEL_MAX - getXlatTableLevelBase (ctx.vaMaxAddress + 1)) none
    ctx.layout.baseTableEntries

/-- `xlat_get_mem_attributes_ctx`: the attributes, if the address is mapped. -/
def xlatGetMemAttributesCtx (ctx : Ctx n) (baseVa : ℕ) : Option (ℤ × Option UInt32) := do
  guard ctx.initialized
  match ← ctx.walk ctx.tables baseVa with
  | none => return (-EINVAL, none)
  | some (table, idx, _) =>
    let attr ← memAttributes ctx.layout.regime (ctx.tables.desc table idx)
    return (0, some attr)

/-- The first loop of `xlat_change_mem_attributes_ctx`, with so many pages left. -/
def Ctx.checkPages (ctx : Ctx n) (attr : UInt32) : ℕ → ℕ → Option Bool
  | 0, _ => some true
  | count + 1, va => do
    match ← ctx.walk ctx.tables va with
    | none => return false
    | some (table, idx, level) =>
      let desc := ctx.tables.desc table idx
      if desc &&& DESC_MASK ≠ PAGE_DESC ∨ level ≠ XLAT_TABLE_LEVEL_MAX then return false
      else if (desc >>> ATTR_INDEX_SHIFT) &&& ATTR_INDEX_MASK = ATTR_DEV_INDEX ∧
          attr &&& MT_EXECUTE_NEVER = 0 then return false
      else ctx.checkPages attr count (va + PAGE_SIZE)

/-- Its second loop. -/
def Ctx.changePages (ctx : Ctx n) (attr : UInt32) : ℕ → ℕ → Tables n → Option (Tables n)
  | 0, _, s => some s
  | count + 1, va, s => do
    let (table, idx, level) ← (← ctx.walk s va)
    let desc := s.desc table idx
    let _ ← memAttributes ctx.layout.regime desc
    let desc ← xlatDesc ctx.layout.regime attr (desc &&& TABLE_ADDR_MASK).toNat level
    ctx.changePages attr count (va + PAGE_SIZE) (s.set table idx desc)

/-- `xlat_change_mem_attributes_ctx`.  Its loops count pages in an `unsigned int`, which never reaches a
`pages_count` of 2^32: then the first one goes through all the 2^52 pages of 64 bits over and over, until
one fails. -/
def xlatChangeMemAttributesCtx (ctx : Ctx n) (baseVa size : ℕ) (attr : UInt32) :
    Option (ℤ × Ctx n) := do
  guard ctx.initialized
  if baseVa % PAGE_SIZE ≠ 0 then return (-EINVAL, ctx)
  else if size = 0 then return (-EINVAL, ctx)
  else if size % PAGE_SIZE ≠ 0 then return (-EINVAL, ctx)
  else if attr &&& MT_EXECUTE_NEVER = 0 ∧ attr &&& MT_RW ≠ 0 then return (-EINVAL, ctx)
  else
    let pagesCount := size / PAGE_SIZE
    if ← ctx.checkPages attr (if pagesCount < 2 ^ 32 then pagesCount else 2 ^ 52) baseVa then
      guard (pagesCount < 2 ^ 32)
      let s ← ctx.changePages attr pagesCount baseVa ctx.tables
      return (0, { ctx with tables := s })
    else return (-EINVAL, ctx)

/-- The functions of the library that change a context. -/
inductive Call where
  | addRegion (mm : MmapRegion)
  | addDynamicRegion (mm : MmapRegion)
  | removeDynamicRegion (baseVa size : ℕ)
  | initTables
  | changeMemAttributes (baseVa size : ℕ) (attr : UInt32)

/-- What a call returns; 0 where it returns nothing. -/
def Call.run (ctx : Ctx n) : Call → Option (ℤ × Ctx n)
  | .addRegion mm => (mmapAddRegionCtx ctx mm).map (0, ·)
  | .addDynamicRegion mm => mmapAddDynamicRegionCtx ctx mm
  | .removeDynamicRegion baseVa size => mmapRemoveDynamicRegionCtx ctx baseVa size
  | .initTables => (initXlatTablesCtx ctx).map (0, ·)
  | .changeMemAttributes baseVa size attr => xlatChangeMemAttributesCtx ctx baseVa size attr

/-- Sizes have 64 bits. -/
def Call.Typed : Call → Prop
  | .addRegion mm | .addDynamicRegion mm => mm.size < 2 ^ 64
  | _ => True

/-- Calls one after the other. -/
def runCalls (ctx : Ctx n) : List Call → Option (Ctx n)
  | [] => some ctx
  | call :: calls => do
    let (_, ctx) ← call.run ctx
    runCalls ctx calls

/-! ## 5. What the tables say -/

/-- The bits of a descriptor that are not its type and not its address. -/
def ATTR_BITS : UInt64 := ~~~(TABLE_ADDR_MASK ||| DESC_MASK)

/-- **The translation of an address**: a physical address, and the attributes of its descriptor. -/
def Ctx.translate (ctx : Ctx n) (va : ℕ) : Option (ℕ × UInt64) := do
  let (table, idx, level) ← (← ctx.walk ctx.tables va)
  let desc := ctx.tables.desc table idx
  let addr := (desc &&& TABLE_ADDR_MASK).toNat
  return (addr / xlatBlockSize level * xlatBlockSize level + va % xlatBlockSize level,
    desc &&& ATTR_BITS)

end Regions

end RmmAcs.Xlat
