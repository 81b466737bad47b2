/-
# The builders of tables

There are three of them.  `val_host_create_rtt_levels` and its auxiliary sibling compute the span of
a table by shifts and cut an IPA by a mask; `create_mapping` has the spans as products and cuts by
dividing and multiplying.  All three are to create the same tables at the same places, one for each
level below the one where the walk stopped (`rtt_builders_agree`).

Next to them stands `val_host_addr_align_to_level`, with which every retry computes the entry it
looks at.  It cuts the IPA at BOTH ends, at the low end by the level and at the high end by
`IPA_WIDTH_DEFAULT`, whatever width the realm has.  So it agrees with the others for an IPA of 40
bits and for no other (`level_alignment_agrees_iff`).
-/
import RmmAcs.Realm.Walk

namespace RmmAcs.Realm

open RmmAcs Lib Rmm

/-! ## 1. Alignment to a level -/

/-- **The two alignments agree exactly on the IPAs of 40 bits.** -/
theorem level_alignment_agrees_iff {level : ℕ} (hlevel : level ≤ 3) (ipa : UInt64) :
    valHostAddrAlignToLevel ipa (UInt64.ofNat level)
        = addrAlignDown ipa (valHostRttLevelMapsize (UInt64.ofNat level)) ↔
      ipa.toNat < 2 ^ 40 := by
  have hsize : (valHostRttLevelMapsize (UInt64.ofNat level)).toNat = 2 ^ entryShift level := by
    interval_cases level <;> decide
  have hdown : (addrAlignDown ipa (valHostRttLevelMapsize (UInt64.ofNat level))).toNat
      = ipa.toNat / 2 ^ entryShift level * 2 ^ entryShift level := by
    rw [addrAlignDown, toNat_mask_eq_alignDown ipa hsize]
  rw [← UInt64.toNat_inj, toNat_valHostAddrAlignToLevel hlevel, hdown]
  constructor
  · intro heq
    -- what is cut off at the high end is a multiple of every span
    by_contra hge
    have hspan : entryShift level < 40 := by unfold entryShift; omega
    have hmod : ipa.toNat % 2 ^ 40 < 2 ^ 40 := Nat.mod_lt _ (by decide)
    have hle : ipa.toNat % 2 ^ 40 / 2 ^ entryShift level * 2 ^ entryShift level < 2 ^ 40 :=
      lt_of_le_of_lt (Nat.div_mul_le_self _ _) hmod
    have hdvd : 2 ^ entryShift level ∣ 2 ^ 40 := Nat.pow_dvd_pow 2 hspan.le
    have hge' : 2 ^ 40 ≤ ipa.toNat / 2 ^ entryShift level * 2 ^ entryShift level := by
      calc 2 ^ 40 = 2 ^ 40 / 2 ^ entryShift level * 2 ^ entryShift level :=
            (Nat.div_mul_cancel hdvd).symm
        _ ≤ ipa.toNat / 2 ^ entryShift level * 2 ^ entryShift level :=
            Nat.mul_le_mul_right _ (Nat.div_le_div_right (by omega))
    omega
  · intro hlt
    rw [Nat.mod_eq_of_lt hlt]

theorem level_alignment_agrees_below :
    valHostAddrAlignToLevel 0xFFFFFFF000 2 = addrAlignDown 0xFFFFFFF000 (valHostRttLevelMapsize 2) :=
  (level_alignment_agrees_iff (by decide : 2 ≤ 3) 0xFFFFFFF000).mpr (by decide)

/-- An IPA of a realm with 48 bits, at level 3. -/
theorem level_alignment_differs_above :
    (0x10000001000 : UInt64).toNat < 2 ^ 48 ∧
      valHostAddrAlignToLevel 0x10000001000 3 ≠
        addrAlignDown 0x10000001000 (valHostRttLevelMapsize 3) := by decide

/-! ## 2. The other builders -/

/-- `VAL_ERROR`, as the functions that return an address have it. -/
def valError : UInt64 := 1

/-- `L3_SIZE`, .., `L0_SIZE`. -/
def l3Size : UInt64 := pageSize

def l2Size : UInt64 := 512 * l3Size

def l1Size : UInt64 := 512 * l2Size

def l0Size : UInt64 := 512 * l1Size

section Builders

variable (env : Env) (rd : UInt64)

/-- `val_host_delegate_granule`: a granule, or `VAL_ERROR`. -/
def valHostDelegateGranule (l : Log) : UInt64 × Log :=
  let (gran, l) := env.malloc pageSize pageSize l
  if gran = 0 then (valError, l)
  else
    let (ret, l) := env.rmi (.granuleDelegate gran) l
    if ret ≠ 0 then (valError, l) else (gran, l)

/-- The part of `create_mapping` for one level; `size` is the span of the entry above. -/
def createMappingLevel (ipa size level : UInt64) : Code Log Unit := fun l =>
  let (rtt, l) := valHostDelegateGranule env l
  if rtt = valError then (some (), l)
  else
    let ipaAligned := ipa / size * size
    let (ret, l) := env.rmi (.rttCreate rd rtt ipaAligned level) l
    if ret ≠ 0 then (some (), l) else (none, l)

/-- The last part of `create_mapping`. -/
def createMappingRipas (ipa : UInt64) : Code Log Unit := fun l =>
  let ipaAligned := ipa / l3Size * l3Size
  let (r, l) := env.call (.rttInitRipas rd ipaAligned (ipaAligned + pageSize)) l
  if r.x0 ≠ 0 then (some (), l) else (none, l)

/-- `create_mapping`; `some ()` is `VAL_ERROR`. -/
def createMapping (ipa : UInt64) (ripasInit : Bool) : Code Log Unit := fun l =>
  let (r, l) := env.call (.rttReadEntry rd ipa 3) l
  if r.x0 ≠ 0 then (some (), l)
  else
    let level := r.x1
    Code.block
      [Code.guarded (fun _ => level < 1) (createMappingLevel env rd ipa l0Size 1),
        Code.guarded (fun _ => level < 2) (createMappingLevel env rd ipa l1Size 2),
        Code.guarded (fun _ => level < 3) (createMappingLevel env rd ipa l2Size 3),
        Code.guarded (fun _ => ripasInit) (createMappingRipas env rd ipa)] l

/-- One round of `val_host_create_aux_rtt_levels`. -/
def createAuxRttLevel (ipa rttAlignment index level : UInt64) : Code Log Unit := fun l =>
  let (rtt, l) := env.malloc rttAlignment pageSize l
  if rtt = 0 then (some (), l)
  else
    let (ret, l) := env.rmi (.granuleDelegate rtt) l
    if ret ≠ 0 then (some (), l)
    else
      let rttIpa := addrAlignDown ipa (valHostRttLevelMapsize (level - 1))
      let (ret, l) := env.rmi (.rttAuxCreate rd rtt rttIpa level index) l
      if ret ≠ 0 then (some (), (env.rmi (.granuleUndelegate rtt) l).2)
      else (none, l)

/-- `val_host_create_aux_rtt_levels`. -/
def valHostCreateAuxRttLevels (ipa rttLevel rttMaxLevel rttAlignment index : UInt64) :
    Code Log Unit := fun l =>
  if rttLevel > rttMaxLevel then (some (), l)
  else
    Code.loop
      (fun i => createAuxRttLevel env rd ipa rttAlignment index (rttLevel + UInt64.ofNat i + 1))
      (rttMaxLevel - rttLevel).toNat l

end Builders

/-! ## 3. The tables they create -/

/-- The tables a call asked for, by level and IPA. -/
def rttTable : Cmd → Option (UInt64 × UInt64)
  | .rttCreate _ _ ipa level => some (level, ipa)
  | _ => none

def rttAuxTable : Cmd → Option (UInt64 × UInt64)
  | .rttAuxCreate _ _ ipa level _ => some (level, ipa)
  | _ => none

def tablesAsked (table : Cmd → Option (UInt64 × UInt64)) (seg : Log) : List (UInt64 × UInt64) :=
  (trace seg).filterMap fun e => table e.1

/-- One table for each level below `w`, down to `level`, each at the base of an entry of the level
above it. -/
def tablesBelow (ipa : UInt64) (w level : ℕ) : List (UInt64 × UInt64) :=
  (List.range' (w + 1) (level - w)).map fun k => (UInt64.ofNat k, entryBase (k - 1) ipa)

/-- **Everything succeeds**: every command, and every allocation of a page. -/
structure Env.Obliging (env : Env) : Prop where
  smc : ∀ l c, (env.smc l c).x0 = 0
  alloc : ∀ l, env.alloc l pageSize pageSize ≠ 0 ∧ 4096 ∣ (env.alloc l pageSize pageSize).toNat

/-- Since `l` the tables `asked` have been asked for. -/
def Asked (table : Cmd → Option (UInt64 × UInt64)) (l : Log) (asked : List (UInt64 × UInt64))
    (L : Log) : Prop :=
  ∃ seg, L = l ++ seg ∧ tablesAsked table seg = asked

section Asked

variable {env : Env} {table : Cmd → Option (UInt64 × UInt64)} {l L : Log} {ipa rd : UInt64}
  {asked : List (UInt64 × UInt64)}

theorem Asked.append (h : Asked table l asked L) {e : Event} (he : e.command = none) :
    Asked table l asked (L ++ [e]) := by
  obtain ⟨seg, rfl, hasked⟩ := h
  refine ⟨seg ++ [e], by simp, ?_⟩
  rw [tablesAsked, trace_append_other seg he]
  exact hasked

theorem Asked.rmi (h : Asked table l asked L) (env : Env) (c : Cmd) :
    Asked table l (asked ++ (table c).toList) (env.rmi c L).2 := by
  obtain ⟨seg, rfl, hasked⟩ := h
  refine ⟨seg ++ [.smc (.rmi c) (env.smc (l ++ seg) (.rmi c))], by simp [Env.rmi, Env.call], ?_⟩
  have htrace : trace [Event.smc (.rmi c) (env.smc (l ++ seg) (.rmi c))]
      = [(c, env.smc (l ++ seg) (.rmi c))] := rfl
  rw [tablesAsked, trace_append, htrace, List.filterMap_append, ← hasked]
  cases hc : table c with
  | none => simp [tablesAsked, hc]
  | some x => simp [tablesAsked, hc]

theorem Asked.own (h : Asked table l asked L) : tablesAsked table (Realm.own l L) = asked := by
  obtain ⟨seg, rfl, hasked⟩ := h
  rw [own_append, hasked]

theorem tablesBelow_self (ipa : UInt64) (w : ℕ) : tablesBelow ipa w w = [] := by
  simp [tablesBelow]

theorem tablesBelow_succ (ipa : UInt64) {w level : ℕ} (h : w ≤ level) :
    tablesBelow ipa w (level + 1)
      = tablesBelow ipa w level ++ [(UInt64.ofNat (level + 1), entryBase level ipa)] := by
  have hlen : level + 1 - w = level - w + 1 := by omega
  have hlast : w + 1 + 1 * (level - w) = level + 1 := by omega
  rw [tablesBelow, hlen, List.range'_concat, List.map_append, hlast]
  rfl

theorem Env.Obliging.rmi (henv : env.Obliging) (c : Cmd) (L : Log) : (env.rmi c L).1 = 0 :=
  henv.smc L (.rmi c)

theorem Env.Obliging.malloc (henv : env.Obliging) (L : Log) :
    (env.malloc pageSize pageSize L).1 ≠ 0 ∧ (env.malloc pageSize pageSize L).1 ≠ valError := by
  obtain ⟨h0, hdvd⟩ := henv.alloc L
  refine ⟨h0, fun h1 => ?_⟩
  have h1' : env.alloc L pageSize pageSize = valError := h1
  rw [h1'] at hdvd
  exact absurd hdvd (by decide)

/-- **One table of `val_host_create_rtt_levels`.** -/
theorem createRttLevel_asks (henv : env.Obliging) (rd ipa : UInt64) {w level : ℕ} (hw : w ≤ level)
    (hlevel : level < 3) :
    Code.Triple (Asked rttTable l (tablesBelow ipa w level))
      (createRttLevel env rd ipa pageSize (UInt64.ofNat (level + 1)))
      (Asked rttTable l (tablesBelow ipa w (level + 1))) fun _ _ => False := by
  intro L hL
  unfold createRttLevel
  dsimp only
  rw [ofNat_level_pred, addrAlignDown_eq_entryBase hlevel, if_neg (henv.malloc L).1,
    if_neg (not_not.mpr (henv.rmi _ _)), if_neg (not_not.mpr (henv.rmi _ _)), tablesBelow_succ ipa hw]
  have hmalloc : Asked rttTable l (tablesBelow ipa w level)
      (env.malloc pageSize pageSize L).2 := hL.append rfl
  have hdone := (hmalloc.rmi env (.granuleDelegate (env.malloc pageSize pageSize L).1)).rmi env
    (.rttCreate rd (env.malloc pageSize pageSize L).1 (entryBase level ipa)
      (UInt64.ofNat (level + 1)))
  simp only [rttTable, Option.toList_none, List.append_nil, Option.toList_some] at hdone
  exact hdone

/-- **One table of `val_host_create_aux_rtt_levels`.** -/
theorem createAuxRttLevel_asks (henv : env.Obliging) (rd ipa index : UInt64) {w level : ℕ}
    (hw : w ≤ level) (hlevel : level < 3) :
    Code.Triple (Asked rttAuxTable l (tablesBelow ipa w level))
      (createAuxRttLevel env rd ipa pageSize index (UInt64.ofNat (level + 1)))
      (Asked rttAuxTable l (tablesBelow ipa w (level + 1))) fun _ _ => False := by
  intro L hL
  unfold createAuxRttLevel
  dsimp only
  rw [ofNat_level_pred, addrAlignDown_eq_entryBase hlevel, if_neg (henv.malloc L).1,
    if_neg (not_not.mpr (henv.rmi _ _)), if_neg (not_not.mpr (henv.rmi _ _)), tablesBelow_succ ipa hw]
  have hmalloc : Asked rttAuxTable l (tablesBelow ipa w level)
      (env.malloc pageSize pageSize L).2 := hL.append rfl
  have hdone := (hmalloc.rmi env (.granuleDelegate (env.malloc pageSize pageSize L).1)).rmi env
    (.rttAuxCreate rd (env.malloc pageSize pageSize L).1 (entryBase level ipa)
      (UInt64.ofNat (level + 1)) index)
  simp only [rttAuxTable, Option.toList_none, List.append_nil, Option.toList_some] at hdone
  exact hdone

/-- The span of an entry as a product, and cutting by division. -/
theorem div_mul_eq_entryBase (ipa : UInt64) {size : UInt64} {level : ℕ}
    (hsize : size.toNat = 2 ^ entryShift level) : ipa / size * size = entryBase level ipa := by
  refine UInt64.toNat_inj.mp ?_
  rw [toNat_entryBase, UInt64.toNat_mul, UInt64.toNat_div, hsize]
  exact Nat.mod_eq_of_lt (lt_of_le_of_lt (Nat.div_mul_le_self _ _) ipa.toNat_lt)

/-- **One table of `create_mapping`.** -/
theorem createMappingLevel_asks (henv : env.Obliging) (rd ipa : UInt64) {size : UInt64}
    {w level : ℕ} (hsize : size.toNat = 2 ^ entryShift level) (hw : w ≤ level) :
    Code.Triple (Asked rttTable l (tablesBelow ipa w level))
      (createMappingLevel env rd ipa size (UInt64.ofNat (level + 1)))
      (Asked rttTable l (tablesBelow ipa w (level + 1))) fun _ _ => False := by
  intro L hL
  obtain ⟨h0, h1⟩ := henv.malloc L
  have hgran : valHostDelegateGranule env L = ((env.malloc pageSize pageSize L).1,
      (env.rmi (.granuleDelegate (env.malloc pageSize pageSize L).1)
        (env.malloc pageSize pageSize L).2).2) := by
    unfold valHostDelegateGranule
    dsimp only
    rw [if_neg h0, if_neg (not_not.mpr (henv.rmi _ _))]
  unfold createMappingLevel
  rw [hgran]
  dsimp only
  rw [if_neg h1, div_mul_eq_entryBase ipa hsize, if_neg (not_not.mpr (henv.rmi _ _)),
    tablesBelow_succ ipa hw]
  have hmalloc : Asked rttTable l (tablesBelow ipa w level)
      (env.malloc pageSize pageSize L).2 := hL.append rfl
  have hdone := (hmalloc.rmi env (.granuleDelegate (env.malloc pageSize pageSize L).1)).rmi env
    (.rttCreate rd (env.malloc pageSize pageSize L).1 (entryBase level ipa)
      (UInt64.ofNat (level + 1)))
  simp only [rttTable, Option.toList_none, List.append_nil, Option.toList_some] at hdone
  exact hdone

/-- One of the three guarded parts of `create_mapping`. -/
theorem guardedLevel_asks (henv : env.Obliging) (rd ipa : UInt64) {size : UInt64} {w level : ℕ}
    (hsize : size.toNat = 2 ^ entryShift level) (hw : w ≤ 3) (hlevel : level < 3) :
    Code.Triple (Asked rttTable l (tablesBelow ipa w (max w level)))
      (Code.guarded (fun _ => UInt64.ofNat w < UInt64.ofNat (level + 1))
        (createMappingLevel env rd ipa size (UInt64.ofNat (level + 1))))
      (Asked rttTable l (tablesBelow ipa w (max w (level + 1)))) fun _ _ => False := by
  have hguard : UInt64.ofNat w < UInt64.ofNat (level + 1) ↔ w ≤ level := by
    rw [UInt64.lt_iff_toNat_lt, ofNat_toNat_of_le hw, ofNat_toNat_of_le (by omega)]
    omega
  refine Code.Triple.guarded ?_ ?_
  · rintro L ⟨hL, hlt⟩
    have hle : w ≤ level := hguard.mp (by simpa using hlt)
    rw [max_eq_right hle] at hL
    rw [max_eq_right (by omega)]
    exact createMappingLevel_asks henv rd ipa hsize hle L hL
  · intro L hL hno
    have hlt : level < w := by
      by_contra hge
      exact absurd (hguard.mpr (by omega)) (by simpa using hno)
    rw [max_eq_left (by omega)] at hL ⊢
    exact hL

theorem createMapping_asks (henv : env.Obliging) (rd ipa : UInt64) {w : ℕ} (hw : w ≤ 3)
    (hread : (env.smc l (.rttReadEntry rd ipa 3)).x1 = UInt64.ofNat w) :
    Code.Exit (Asked rttTable l (tablesBelow ipa w 3)) (fun _ _ => False)
      (createMapping env rd ipa false l) := by
  have hfirst : Asked rttTable l (tablesBelow ipa w (max w 0))
      (env.call (.rttReadEntry rd ipa 3) l).2 := by
    rw [Nat.max_zero, tablesBelow_self]
    exact Asked.append ⟨[], by simp, rfl⟩ rfl
  have hok : (env.call (.rttReadEntry rd ipa 3) l).1.x0 = 0 := henv.smc l _
  have hread' : (env.call (.rttReadEntry rd ipa 3) l).1.x1 = UInt64.ofNat w := hread
  have hlast : max w 3 = 3 := max_eq_right hw
  unfold createMapping
  dsimp only
  rw [if_neg (not_not.mpr hok), hread']
  have h0 : l0Size.toNat = 2 ^ entryShift 0 := by decide
  have h1 : l1Size.toNat = 2 ^ entryShift 1 := by decide
  have h2 : l2Size.toNat = 2 ^ entryShift 2 := by decide
  have hblock := ((guardedLevel_asks henv rd ipa h0 hw (by decide)).cons
    ((guardedLevel_asks henv rd ipa h1 hw (by decide)).cons
    ((guardedLevel_asks henv rd ipa h2 hw (by decide)).cons (Code.Triple.cons (p := Code.guarded (fun _ => false)
      (createMappingRipas env rd ipa)) (Code.Triple.guarded (fun s hs => absurd hs.2 (by decide))
      fun s hs _ => hs) Code.triple_nil)))) _ hfirst
  rw [hlast] at hblock
  exact hblock

/-- **The three builders create the same tables**: for an IPA whose walk stops at level `w`, one
table for each level from `w + 1` to 3, in this order, each at the base of the entry of the level
above that covers the IPA. -/
theorem rtt_builders_agree (henv : env.Obliging) (rd ipa index : UInt64) {w : ℕ} (hw : w ≤ 3)
    {l : Log} (hread : (env.smc l (.rttReadEntry rd ipa 3)).x1 = UInt64.ofNat w) :
    ((valHostCreateRttLevels env rd ipa (UInt64.ofNat w) 3 pageSize l).1 = none ∧
        tablesAsked rttTable
            (own l (valHostCreateRttLevels env rd ipa (UInt64.ofNat w) 3 pageSize l).2)
          = tablesBelow ipa w 3) ∧
      ((createMapping env rd ipa false l).1 = none ∧
        tablesAsked rttTable (own l (createMapping env rd ipa false l).2) = tablesBelow ipa w 3) ∧
      (valHostCreateAuxRttLevels env rd ipa (UInt64.ofNat w) 3 pageSize index l).1 = none ∧
        tablesAsked rttAuxTable
            (own l (valHostCreateAuxRttLevels env rd ipa (UInt64.ofNat w) 3 pageSize index l).2)
          = tablesBelow ipa w 3 := by
  obtain ⟨hle, hrounds⟩ := levels_rounds hw
  have hnone : ∀ table, Asked table l (tablesBelow ipa w w) l := fun table => by
    rw [tablesBelow_self]
    exact ⟨[], by simp, rfl⟩
  refine ⟨?_, ?_, ?_⟩
  · have hexit := valHostCreateRttLevels_triple (I := fun level => Asked rttTable l
      (tablesBelow ipa w level)) hw (fun level => createRttLevel_asks henv rd ipa) l (hnone rttTable)
    exact ⟨hexit.fst_eq_none, hexit.falls.own⟩
  · have hexit := createMapping_asks henv rd ipa hw hread
    exact ⟨hexit.fst_eq_none, hexit.falls.own⟩
  · unfold valHostCreateAuxRttLevels
    rw [if_neg hle, hrounds]
    have hexit := levels_triple (I := fun level => Asked rttAuxTable l (tablesBelow ipa w level)) hw
      (fun level => createAuxRttLevel_asks henv rd ipa index) l (hnone rttAuxTable)
    exact ⟨hexit.fst_eq_none, hexit.falls.own⟩

end Asked

/-- An environment in which everything succeeds and every walk stops at level 1. -/
def obliging : Env where
  smc := fun _ _ => ⟨0, 1, 0⟩
  alloc := fun _ _ _ => 0x88500000

theorem rtt_builders_agree_from_level_one :
    tablesAsked rttTable (own [] (createMapping obliging 0x88600000 0x40201000 false []).2)
      = [(2, 0x40000000), (3, 0x40200000)] := by
  have henv : obliging.Obliging :=  by
    refine ⟨fun _ _ => rfl, fun _ => ?_⟩
    change (0x88500000 : UInt64) ≠ 0 ∧ 4096 ∣ (0x88500000 : UInt64).toNat
    decide
  have hagree := rtt_builders_agree henv 0x88600000 0x40201000 1 (w := 1) (by decide) (l := []) rfl
  exact hagree.2.1.2.trans (by decide)

end RmmAcs.Realm
