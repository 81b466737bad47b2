/-
# The translation tables in memory: `xlat_tables_core.c`

A context has a base table and a fixed number of finer tables, each with a count of the regions that
have been mapped through it.  A table with the count 0 is free.  `xlat_tables_map_region` and
`xlat_tables_unmap_region` go through the entries of a table that meet a region, write leaves or take
them away, and call themselves for the finer tables; a table whose count comes down to 0 is taken out
of the table above it.

A table is named by its place in the array, and the base table by none; a descriptor holds its address.
Virtual and physical addresses are numbers: the checks of `mmap_add_region_check` see to it that all
that is computed from a region fits into 48 bits.
-/
import RmmAcs.Xlat.Desc

namespace RmmAcs.Xlat

/-! ## 1. The tables -/

/-- `mmap_region_t` -/
structure MmapRegion where
  basePa : ℕ
  baseVa : ℕ
  size : ℕ
  attr : UInt64
  granularity : ℕ
deriving DecidableEq, Repr

/-- What of `xlat_ctx_t` is set up once: the regime, the base table's level and entries, and where the
tables are, at distinct addresses of pages. -/
structure Layout (n : ℕ) where
  regime : Regime
  baseLevel : ℕ
  baseTableEntries : ℕ
  addr : Fin n → UInt64
  addr_within : ∀ i, Within (addr i) TABLE_ADDR_MASK
  addr_injective : Function.Injective addr

/-- A table: one of the array, or the base table. -/
abbrev TableRef (n : ℕ) := Option (Fin n)

/-- The tables, and `tables_mapped_regions`. -/
structure Tables (n : ℕ) where
  desc : TableRef n → ℕ → UInt64
  mappedRegions : Fin n → ℤ

section Access

variable {n : ℕ} (c : Layout n)

/-- `table_base[table_idx] = desc` -/
def Tables.set (s : Tables n) (table : TableRef n) (idx : ℕ) (d : UInt64) : Tables n :=
  { s with desc := Function.update s.desc table (Function.update (s.desc table) idx d) }

section Set

variable {n : ℕ} (s : Tables n) (table : TableRef n) (idx : ℕ) (d : UInt64)

theorem Tables.set_desc : (s.set table idx d).desc =
    Function.update s.desc table (Function.update (s.desc table) idx d) := rfl

theorem Tables.set_same : (s.set table idx d).desc table idx = d := by
  rw [Tables.set_desc, Function.update_self, Function.update_self]

theorem Tables.set_idx {j : ℕ} (h : j ≠ idx) : (s.set table idx d).desc table j = s.desc table j := by
  rw [Tables.set_desc, Function.update_self, Function.update_of_ne h]

theorem Tables.set_table {t : TableRef n} (h : t ≠ table) : (s.set table idx d).desc t = s.desc t :=
  Function.update_of_ne h _ _

end Set

/-- The table a descriptor points to, if there is one at its address. -/
def subtable (d : UInt64) : Option (Fin n) :=
  (List.finRange n).find? fun i => c.addr i = d &&& TABLE_ADDR_MASK

def xlatTableGetEmpty (s : Tables n) : Option (Fin n) :=
  (List.finRange n).find? fun i => s.mappedRegions i = 0

/-- `xlat_table_inc_regions_count`; the base table has no count. -/
def xlatTableIncRegionsCount (s : Tables n) : TableRef n → Option (Tables n)
  | none => none
  | some i =>
    some { s with mappedRegions := Function.update s.mappedRegions i (s.mappedRegions i + 1) }

/-- `xlat_table_dec_regions_count` -/
def xlatTableDecRegionsCount (s : Tables n) : TableRef n → Option (Tables n)
  | none => none
  | some i =>
    some { s with mappedRegions := Function.update s.mappedRegions i (s.mappedRegions i - 1) }

def xlatTableIsEmpty (s : Tables n) (i : Fin n) : Bool := s.mappedRegions i == 0

theorem xlatTableDecRegionsCount_some {s s' : Tables n} {i : Fin n}
    (h : xlatTableDecRegionsCount s (some i) = some s') :
    s'.desc = s.desc ∧ s'.mappedRegions i = s.mappedRegions i - 1 ∧
      ∀ k, k ≠ i → s'.mappedRegions k = s.mappedRegions k := by
  cases h
  exact ⟨rfl, Function.update_self .., fun k hk => Function.update_of_ne hk _ _⟩

theorem xlatTableGetEmpty_some {s : Tables n} {i : Fin n} (h : xlatTableGetEmpty s = some i) :
    s.mappedRegions i = 0 := by
  have hsome := List.find?_some h
  exact of_decide_eq_true hsome

end Access

/-! ## 2. Actions -/

/-- `action_t` -/
inductive Action where
  | none
  | writeBlockEntry
  | createNewTable
  | recurseIntoTable
deriving DecidableEq, Repr

/-- The last address of a region. -/
def MmapRegion.endVa (mm : MmapRegion) : ℕ := mm.baseVa + mm.size - 1

/-- `xlat_tables_find_start_va` -/
def xlatTablesFindStartVa (mm : MmapRegion) (tableBaseVa level : ℕ) : ℕ :=
  if mm.baseVa > tableBaseVa then mm.baseVa - (mm.baseVa &&& xlatBlockMask level) else tableBaseVa

def xlatTablesVaToIndex (tableBaseVa va level : ℕ) : ℕ := (va - tableBaseVa) >>> xlatAddrShift level

/-- `xlat_tables_map_region_action`; `none` where an assertion fails. -/
def xlatTablesMapRegionAction (mm : MmapRegion) (descType : UInt64)
    (destPa tableEntryBaseVa level : ℕ) : Option Action :=
  let tableEntryEndVa := tableEntryBaseVa + xlatBlockSize level - 1
  if mm.baseVa ≤ tableEntryBaseVa ∧ mm.endVa ≥ tableEntryEndVa then
    if level = 3 then
      if descType = PAGE_DESC then some .none
      else if descType = INVALID_DESC then some .writeBlockEntry
      else none
    else if descType = TABLE_DESC then some .recurseIntoTable
    else if descType = INVALID_DESC then
      if destPa &&& xlatBlockMask level ≠ 0 ∨ level < MIN_LVL_BLOCK_DESC ∨
          mm.granularity < xlatBlockSize level then some .createNewTable
      else some .writeBlockEntry
    else if descType = BLOCK_DESC then some .none
    else none
  else if mm.baseVa ≤ tableEntryEndVa ∨ mm.endVa ≥ tableEntryBaseVa then
    if level < 3 then
      if descType = INVALID_DESC then some .createNewTable
      else if descType = TABLE_DESC then some .recurseIntoTable
      else none
    else none
  else some .none

/-- `xlat_tables_unmap_region_action` -/
def xlatTablesUnmapRegionAction (mm : MmapRegion) (tableIdxVa tableIdxEndVa level : ℕ)
    (descType : UInt64) : Option Action :=
  if mm.baseVa ≤ tableIdxVa ∧ mm.endVa ≥ tableIdxEndVa then
    if level = 3 then if descType = PAGE_DESC then some .writeBlockEntry else none
    else if descType = TABLE_DESC then some .recurseIntoTable
    else if descType = BLOCK_DESC then some .writeBlockEntry
    else none
  else if mm.baseVa ≤ tableIdxEndVa ∨ mm.endVa ≥ tableIdxVa then
    if level < 3 ∧ descType = TABLE_DESC then some .recurseIntoTable else none
  else some .none

/-! ## 3. Loops over the entries of a table -/

/-- `while (table_idx < table_entries)`, with so many entries left.  A step may return from the
function; else the loop ends with the table, or with the region. -/
def entryLoop {σ : Type} (blockSize endVa : ℕ) (step : ℕ → ℕ → σ → Option (Option ℕ × σ)) :
    ℕ → ℕ → ℕ → σ → Option (ℕ × σ)
  | 0, _, va, s => some (va - 1, s)
  | left + 1, idx, va, s => do
    let (ret, s) ← step idx va s
    match ret with
    | some end_ => return (end_, s)
    | none =>
      if endVa ≤ va + blockSize then return (va + blockSize - 1, s)
      else entryLoop blockSize endVa step left (idx + 1) (va + blockSize) s

/-- **The rule of the loop**: what each step keeps, or makes of it when it returns. -/
theorem entryLoop_rule {σ : Type} {blockSize endVa entries : ℕ}
    {step : ℕ → ℕ → σ → Option (Option ℕ × σ)} (I : ℕ → ℕ → σ → Prop) (Post : ℕ → σ → Prop)
    (hstep : ∀ idx va s, idx < entries → va < endVa → I idx va s → ∃ ret s',
      step idx va s = some (ret, s') ∧ (∀ e, ret = some e → Post e s') ∧
        (ret = none → I (idx + 1) (va + blockSize) s'))
    (hend : ∀ va s, I entries va s → Post (va - 1) s)
    (hstop : ∀ idx va s, idx ≤ entries → endVa ≤ va → I idx va s → Post (va - 1) s) {left idx va : ℕ}
    {s : σ} (hleft : idx + left = entries) (hva : va < endVa) (h : I idx va s) :
    ∃ e s', entryLoop blockSize endVa step left idx va s = some (e, s') ∧ Post e s' := by
  induction left generalizing idx va s with
  | zero =>
    obtain rfl : idx = entries := hleft
    exact ⟨_, _, rfl, hend va s h⟩
  | succ left ih =>
    obtain ⟨ret, s', hret, hsome, hnone⟩ := hstep idx va s (by omega) hva h
    rw [entryLoop, hret]
    cases ret with
    | some e => exact ⟨e, s', rfl, hsome e rfl⟩
    | none =>
      have hI := hnone rfl
      simp only [Option.bind_eq_bind, Option.bind_some]
      by_cases hle : endVa ≤ va + blockSize
      · rw [if_pos hle]
        exact ⟨_, _, rfl, hstop (idx + 1) _ _ (by omega) hle hI⟩
      · rw [if_neg hle]
        exact ih (by omega) (Nat.lt_of_not_le hle) hI

/-! ## 4. Mapping and unmapping -/

section Regions

variable {n : ℕ} (c : Layout n) (mm : MmapRegion)

/-- The body of the loop of `xlat_tables_map_region`; `rec` is the function itself. -/
def mapEntry (rec : ℕ → TableRef n → Tables n → Option (ℕ × Tables n)) (level : ℕ)
    (table : TableRef n) (idx va : ℕ) (s : Tables n) : Option (Option ℕ × Tables n) := do
  let d := s.desc table idx
  let tableIdxPa := mm.basePa + va - mm.baseVa
  match ← xlatTablesMapRegionAction mm (d &&& DESC_MASK) tableIdxPa va level with
  | .writeBlockEntry =>
    let d ← xlatDesc c.regime mm.attr.toUInt32 tableIdxPa level
    return (none, s.set table idx d)
  | .createNewTable =>
    match xlatTableGetEmpty s with
    | none => return (some va, s)
    | some i =>
      let (endVa, s) ← rec va (some i) (s.set table idx (TABLE_DESC ||| c.addr i))
      return (if endVa ≠ va + xlatBlockSize level - 1 then some endVa else none, s)
  | .recurseIntoTable =>
    let i ← subtable c d
    let (endVa, s) ← rec va (some i) s
    return (if endVa ≠ va + xlatBlockSize level - 1 then some endVa else none, s)
  | .none => return (none, s)

/-- `xlat_tables_map_region` for a table whose entries have the level `3 - depth`. -/
def xlatTablesMapRegion : (depth tableBaseVa : ℕ) → TableRef n → (tableEntries : ℕ) → Tables n →
    Option (ℕ × Tables n)
  | depth, tableBaseVa, table, tableEntries, s => do
    let level := XLAT_TABLE_LEVEL_MAX - depth
    let va := xlatTablesFindStartVa mm tableBaseVa level
    let idx := xlatTablesVaToIndex tableBaseVa va level
    let s ← if level > c.baseLevel then xlatTableIncRegionsCount s table else some s
    entryLoop (xlatBlockSize level) mm.endVa
      (mapEntry c mm (fun va table s =>
        match depth with
        | 0 => none
        | depth + 1 => xlatTablesMapRegion depth va table XLAT_TABLE_ENTRIES s) level table)
      (tableEntries - idx) idx va s

/-- The body of the loop of `xlat_tables_unmap_region`. -/
def unmapEntry (rec : ℕ → TableRef n → Tables n → Option (Tables n)) (level : ℕ)
    (table : TableRef n) (idx va : ℕ) (s : Tables n) : Option (Option ℕ × Tables n) := do
  let d := s.desc table idx
  match ← xlatTablesUnmapRegionAction mm va (va + xlatBlockSize level - 1) level (d &&& DESC_MASK) with
  | .writeBlockEntry => return (none, s.set table idx INVALID_DESC)
  | .recurseIntoTable =>
    let i ← subtable c d
    let s ← rec va (some i) s
    return (none, if xlatTableIsEmpty s i then s.set table idx INVALID_DESC else s)
  | .createNewTable => none
  | .none => return (none, s)

/-- `xlat_tables_unmap_region` -/
def xlatTablesUnmapRegion : (depth tableBaseVa : ℕ) → TableRef n → (tableEntries : ℕ) → Tables n →
    Option (Tables n)
  | depth, tableBaseVa, table, tableEntries, s => do
    let level := XLAT_TABLE_LEVEL_MAX - depth
    let va := xlatTablesFindStartVa mm tableBaseVa level
    let idx := xlatTablesVaToIndex tableBaseVa va level
    let (_, s) ← entryLoop (xlatBlockSize level) mm.endVa
      (unmapEntry c mm (fun va table s =>
        match depth with
        | 0 => none
        | depth + 1 => xlatTablesUnmapRegion depth va table XLAT_TABLE_ENTRIES s) level table)
      (tableEntries - idx) idx va s
    if level > c.baseLevel then xlatTableDecRegionsCount s table else some s

end Regions

end RmmAcs.Xlat
