/-
# The RTT walk, as the RMM's specification has it

Where `val_host_map_protected_data` succeeds depends on the tables a realm has.  This file is the
other half of that: the walk of a realm's tables, and an RMM that answers the commands of the
mapping from it (`SpecRmm`).  Nothing here is translated from the host; the tables are those that
the accepted commands have made and not ended.

A table of level `k` covers one entry of a table of level `k - 1`, and the tables of the starting
level cover everything.  A walk goes down as long as there is a table for the IPA.  DATA_CREATE
needs the walk to come down to level 3, and says otherwise where it stopped; RTT_CREATE needs it
to come down to the level above the new table; RTT_READ_ENTRY reports where it stops and what it
finds there.  RTT_INIT_RIPAS does at most the one level 3 table it comes down to.
-/
import RmmAcs.Realm.Map

namespace RmmAcs.Realm

open RmmAcs Lib Rmm

/-! ## 1. Tables -/

/-- An entry of a table of this level covers `2 ^ entryShift level` bytes. -/
def entryShift (level : ℕ) : ℕ := 39 - 9 * level

/-- The base of the entry of this level that covers an IPA. -/
def entryBase (level : ℕ) (ipa : UInt64) : UInt64 :=
  UInt64.ofNat (ipa.toNat / 2 ^ entryShift level * 2 ^ entryShift level)

/-- A table of a realm, by its level and the base of what it covers. -/
def isTable (rd base level : UInt64) : Obj → Bool
  | .rtt rd' base' level' _ => rd == rd' && base == base' && level == level'
  | _ => false

/-- The key of a table. -/
theorem clash_rtt (rd base level pa : UInt64) (o : Obj) :
    Obj.clash (.rtt rd base level pa) o = isTable rd base level o := by cases o <;> rfl

/-- The realm has a table of this level for this IPA. -/
def hasTable (R : RmmState) (rd : UInt64) (level : ℕ) (ipa : UInt64) : Bool :=
  R.objs.any (isTable rd (entryBase (level - 1) ipa) (UInt64.ofNat level))

/-- The walk from the starting level comes down to this level. -/
def Reaches (R : RmmState) (rd : UInt64) (start : ℕ) (ipa : UInt64) (level : ℕ) : Prop :=
  start ≤ level ∧ ∀ k ∈ Finset.Ioc start level, hasTable R rd k ipa = true

instance (R : RmmState) (rd : UInt64) (start : ℕ) (ipa : UInt64) :
    DecidablePred (Reaches R rd start ipa) := fun _ => inferInstanceAs (Decidable (_ ∧ _))

/-- The level at which a walk down to `limit` stops. -/
def walkLevel (R : RmmState) (rd : UInt64) (start : ℕ) (ipa : UInt64) (limit : ℕ) : ℕ :=
  Nat.findGreatest (Reaches R rd start ipa) limit

/-- Memory of the realm that is mapped within the entry at `base`. -/
def isMapped (rd base : UInt64) (shift : ℕ) : Obj → Bool
  | .data rd' ipa _ => rd == rd' && base.toNat ≤ ipa.toNat && ipa.toNat < base.toNat + 2 ^ shift
  | .unprotected rd' ipa _ =>
    rd == rd' && base.toNat ≤ ipa.toNat && ipa.toNat < base.toNat + 2 ^ shift
  | _ => false

/-- Something is mapped within the entry of this level for this IPA. -/
def assigned (R : RmmState) (rd : UInt64) (level : ℕ) (ipa : UInt64) : Bool :=
  R.objs.any (isMapped rd (entryBase level ipa) (entryShift level))

/-- `RMI_ASSIGNED`. -/
def rmiAssigned : UInt64 := 1

/-- `RMI_TABLE`. -/
def rmiTable : UInt64 := 2

/-- The state of the entry of this level for this IPA. -/
def entryState (R : RmmState) (rd : UInt64) (level : ℕ) (ipa : UInt64) : UInt64 :=
  if level < 3 ∧ hasTable R rd (level + 1) ipa = true then rmiTable
  else if assigned R rd level ipa = true then rmiAssigned
  else rmiUnassigned

/-! ## 2. The RMM -/

/-- The arguments of a DATA_CREATE are in order: the granule can be made a data granule at this
IPA, the IPA is a page of the protected half, the source is a page the host may read. -/
def DataOk (R : RmmState) (rd : UInt64) (width : ℕ) (data ipa src : UInt64) : Prop :=
  R.CanMake (.data rd ipa data) ∧ 4096 ∣ ipa.toNat ∧ ipa.toNat < 2 ^ (width - 1) ∧
    4096 ∣ src.toNat ∧ src ∉ R.delegated

/-- The arguments of an RTT_CREATE are in order, and the walk finds an empty entry above. -/
def RttOk (R : RmmState) (rd : UInt64) (start width : ℕ) (rtt ipa : UInt64) (level : ℕ) : Prop :=
  R.CanMake (.rtt rd ipa (UInt64.ofNat level) rtt) ∧ start < level ∧ level ≤ 3 ∧
    entryBase (level - 1) ipa = ipa ∧ ipa.toNat < 2 ^ width ∧
    Reaches R rd start ipa (level - 1) ∧ entryState R rd (level - 1) ipa = rmiUnassigned

instance (R : RmmState) (rd : UInt64) (width : ℕ) (data ipa src : UInt64) :
    Decidable (DataOk R rd width data ipa src) := inferInstanceAs (Decidable (_ ∧ _))

instance (R : RmmState) (rd : UInt64) (start width : ℕ) (rtt ipa : UInt64) (level : ℕ) :
    Decidable (RttOk R rd start width rtt ipa level) := inferInstanceAs (Decidable (_ ∧ _))

/-- `RMI_ERROR_RTT` with the level at which a walk stopped. -/
def rttError (level : ℕ) : UInt64 := rmiErrorRtt ||| (UInt64.ofNat level <<< 8)

/-- **An RMM that follows its specification**, for a realm with this starting level and IPA width,
on a machine with this delegable memory. -/
structure SpecRmm (env : Env) (rd : UInt64) (start width : ℕ) (ram : UInt64 → Prop) : Prop where
  legal : env.Legal
  delegate : ∀ l a, ram a → 4096 ∣ a.toNat → a ∉ (replay (trace l)).delegated →
    (env.smc l (.rmi (.granuleDelegate a))).x0 = 0
  dataCreate : ∀ l data ipa src, DataOk (replay (trace l)) rd width data ipa src →
    (env.smc l (.rmi (.dataCreate rd data ipa src rmiNoMeasureContent))).x0
      = if walkLevel (replay (trace l)) rd start ipa 3 = 3 then 0
        else rttError (walkLevel (replay (trace l)) rd start ipa 3)
  dataCreate_table : ∀ l data ipa src flags,
    (env.smc l (.rmi (.dataCreate rd data ipa src flags))).x0 = 0 →
      walkLevel (replay (trace l)) rd start ipa 3 = 3
  rttCreate : ∀ l rtt ipa level, RttOk (replay (trace l)) rd start width rtt ipa level →
    (env.smc l (.rmi (.rttCreate rd rtt ipa (UInt64.ofNat level)))).x0 = 0
  readEntry : ∀ l ipa level, start ≤ level → level ≤ 3 → entryBase level ipa = ipa →
    ipa.toNat < 2 ^ width →
    env.smc l (.rttReadEntry rd ipa (UInt64.ofNat level))
      = ⟨0, UInt64.ofNat (walkLevel (replay (trace l)) rd start ipa level),
          entryState (replay (trace l)) rd (walkLevel (replay (trace l)) rd start ipa level) ipa⟩

/-- Such an RMM, for the realm `rd`; the other commands it accepts if they are legal. -/
def referenceRmm (rd : UInt64) (start width : ℕ) (l : Log) : Smc → SmcRet
  | .rmi (.dataCreate rd' data ipa src flags) =>
    let R := replay (trace l)
    if rd' = rd then
      if DataOk R rd width data ipa src then
        if walkLevel R rd start ipa 3 = 3 then ⟨0, 0, 0⟩
        else ⟨rttError (walkLevel R rd start ipa 3), 0, 0⟩
      else ⟨1, 0, 0⟩
    else if R.Legal (.dataCreate rd' data ipa src flags) then ⟨0, 0, 0⟩ else ⟨1, 0, 0⟩
  | .rmi (.rttCreate rd' rtt ipa level) =>
    let R := replay (trace l)
    if rd' = rd then
      if RttOk R rd start width rtt ipa level.toNat then ⟨0, 0, 0⟩ else ⟨1, 0, 0⟩
    else if R.Legal (.rttCreate rd' rtt ipa level) then ⟨0, 0, 0⟩ else ⟨1, 0, 0⟩
  | .rmi c => if (replay (trace l)).Legal c then ⟨0, 0, 0⟩ else ⟨1, 0, 0⟩
  | .rttReadEntry _ ipa level =>
    let R := replay (trace l)
    ⟨0, UInt64.ofNat (walkLevel R rd start ipa level.toNat),
      entryState R rd (walkLevel R rd start ipa level.toNat) ipa⟩
  | .rttInitRipas _ base top =>
    let R := replay (trace l)
    if walkLevel R rd start base 3 = 3 then
      ⟨0, UInt64.ofNat (min top.toNat ((entryBase 2 base).toNat + 2 ^ entryShift 2)), 0⟩
    else ⟨rttError (walkLevel R rd start base 3), 0, 0⟩
  | _ => ⟨0, 0, 0⟩

/-! ## 3. Walks -/

section Walks

variable {R R' : RmmState} {rd ipa ipa' : UInt64} {start limit level : ℕ}

theorem walkLevel_le : walkLevel R rd start ipa limit ≤ limit := Nat.findGreatest_le limit

theorem reaches_start : Reaches R rd start ipa start := ⟨le_refl start, by simp⟩

theorem reaches_walkLevel (h : start ≤ limit) :
    Reaches R rd start ipa (walkLevel R rd start ipa limit) :=
  Nat.findGreatest_spec (P := Reaches R rd start ipa) h reaches_start

theorem walkLevel_eq_iff (h : start ≤ limit) :
    walkLevel R rd start ipa limit = limit ↔ Reaches R rd start ipa limit := by
  constructor
  · intro heq
    have hreach : Reaches R rd start ipa (walkLevel R rd start ipa limit) := reaches_walkLevel h
    rwa [heq] at hreach
  · intro hreach
    exact le_antisymm walkLevel_le (Nat.le_findGreatest (le_refl limit) hreach)

/-- Where a walk stops short there is no further table. -/
theorem hasTable_of_stop (h : start ≤ limit) (hlt : walkLevel R rd start ipa limit < limit) :
    hasTable R rd (walkLevel R rd start ipa limit + 1) ipa = false := by
  by_contra hno
  have hreach : Reaches R rd start ipa (walkLevel R rd start ipa limit) := reaches_walkLevel h
  have hnext : Reaches R rd start ipa (walkLevel R rd start ipa limit + 1) := by
    refine ⟨Nat.le_succ_of_le hreach.1, fun k hk => ?_⟩
    rw [Finset.mem_Ioc] at hk
    rcases Nat.lt_or_ge k (walkLevel R rd start ipa limit + 1) with hk' | hk'
    · exact hreach.2 k (Finset.mem_Ioc.mpr ⟨hk.1, by omega⟩)
    · obtain rfl : k = walkLevel R rd start ipa limit + 1 := le_antisymm hk.2 hk'
      simpa using hno
  have hle := Nat.le_findGreatest hlt hnext
  have hself : walkLevel R rd start ipa limit
      = Nat.findGreatest (Reaches R rd start ipa) limit := rfl
  omega

/-- The walk only looks at the tables. -/
theorem walkLevel_congr (h : ∀ k, start < k → k ≤ limit →
    hasTable R' rd k ipa' = hasTable R rd k ipa) :
    walkLevel R' rd start ipa' limit = walkLevel R rd start ipa limit := by
  have hiff : ∀ k ≤ limit, (Reaches R' rd start ipa' k ↔ Reaches R rd start ipa k) := by
    intro k hk
    refine and_congr_right fun _ => forall₂_congr fun m hm => ?_
    rw [Finset.mem_Ioc] at hm
    rw [h m hm.1 (by omega)]
  refine le_antisymm ?_ ?_
  · rcases Nat.eq_zero_or_pos (walkLevel R' rd start ipa' limit) with h0 | hpos
    · omega
    · exact Nat.le_findGreatest walkLevel_le ((hiff _ walkLevel_le).mp
        (Nat.findGreatest_of_ne_zero rfl (Nat.pos_iff_ne_zero.mp hpos)))
  · rcases Nat.eq_zero_or_pos (walkLevel R rd start ipa limit) with h0 | hpos
    · omega
    · exact Nat.le_findGreatest walkLevel_le ((hiff _ walkLevel_le).mpr
        (Nat.findGreatest_of_ne_zero rfl (Nat.pos_iff_ne_zero.mp hpos)))

/-- Each table hangs below another. -/
def Rooted (R : RmmState) (rd : UInt64) (start : ℕ) (ipa : UInt64) : Prop :=
  ∀ k, start < k → k < 3 → hasTable R rd (k + 1) ipa = true → hasTable R rd k ipa = true

/-- In a rooted tree there is nothing below where the walk stops. -/
theorem Rooted.hasTable_below (htree : Rooted R rd start ipa) (hstart : start ≤ 3) {k : ℕ}
    (hk : walkLevel R rd start ipa 3 < k) (hk3 : k ≤ 3) : hasTable R rd k ipa = false := by
  have hstop : hasTable R rd (walkLevel R rd start ipa 3 + 1) ipa = false :=
    hasTable_of_stop hstart (by omega)
  have hreach : start ≤ walkLevel R rd start ipa 3 := (reaches_walkLevel hstart).1
  generalize walkLevel R rd start ipa 3 = w at *
  obtain ⟨d, rfl⟩ : ∃ d, k = w + 1 + d := ⟨k - (w + 1), by omega⟩
  induction d with
  | zero => exact hstop
  | succ d ih =>
    by_contra hno
    have hup := htree (w + 1 + d) (by omega) (by omega) (by simpa [Nat.add_assoc] using hno)
    rw [ih (by omega) (by omega)] at hup
    exact absurd hup (by decide)

end Walks

/-! ## 4. The host's arithmetic -/

section Arithmetic

theorem toNat_entryBase (level : ℕ) (ipa : UInt64) :
    (entryBase level ipa).toNat = ipa.toNat / 2 ^ entryShift level * 2 ^ entryShift level := by
  refine UInt64.toNat_ofNat_of_lt' ?_
  exact lt_of_le_of_lt (Nat.div_mul_le_self _ _) ipa.toNat_lt

/-- Rounding twice, first to the finer unit. -/
theorem div_mul_div_mul {x a b : ℕ} (h : a ∣ b) : x / a * a / b * b = x / b * b := by
  obtain ⟨c, rfl⟩ := h
  rcases Nat.eq_zero_or_pos a with rfl | ha
  · simp
  · rw [← Nat.div_div_eq_div_mul, ← Nat.div_div_eq_div_mul, Nat.mul_div_cancel _ ha]

/-- The entries above see an entry's base as they see the IPA. -/
theorem entryBase_entryBase {k level : ℕ} (h : k ≤ level) (ipa : UInt64) :
    entryBase k (entryBase level ipa) = entryBase k ipa := by
  refine UInt64.toNat_inj.mp ?_
  rw [toNat_entryBase, toNat_entryBase, toNat_entryBase]
  exact div_mul_div_mul (Nat.pow_dvd_pow 2 (by unfold entryShift; omega))

/-- **`val_host_create_rtt_levels` names the base of the entry above.** -/
theorem addrAlignDown_eq_entryBase {level : ℕ} (h : level < 3) (ipa : UInt64) :
    addrAlignDown ipa (valHostRttLevelMapsize (UInt64.ofNat level)) = entryBase level ipa := by
  have hsize : (valHostRttLevelMapsize (UInt64.ofNat level)).toNat = 2 ^ entryShift level := by
    interval_cases level <;> decide
  refine UInt64.toNat_inj.mp ?_
  rw [addrAlignDown, toNat_mask_eq_alignDown ipa hsize, toNat_entryBase]

/-- **`val_host_addr_align_to_level` cuts the IPA to 40 bits**, and rounds it down to its entry. -/
theorem toNat_valHostAddrAlignToLevel {level : ℕ} (h : level ≤ 3) (ipa : UInt64) :
    (valHostAddrAlignToLevel ipa (UInt64.ofNat level)).toNat
      = ipa.toNat % 2 ^ 40 / 2 ^ entryShift level * 2 ^ entryShift level := by
  obtain ⟨b, hb, hmask⟩ : ∃ b : UInt64, b.toNat = 2 ^ entryShift level ∧
      valBitMaskUll (ipaWidthDefault - 1)
        ((valRttMaxLevel - UInt64.ofNat level) * 9 + 12) = (2 ^ 40 - 1) &&& ~~~(b - 1) := by
    interval_cases level
    · exact ⟨2 ^ 39, by decide, by decide⟩
    · exact ⟨2 ^ 30, by decide, by decide⟩
    · exact ⟨2 ^ 21, by decide, by decide⟩
    · exact ⟨2 ^ 12, by decide, by decide⟩
  have hlow : (ipa &&& (2 ^ 40 - 1)).toNat = ipa.toNat % 2 ^ 40 := by
    rw [UInt64.toNat_and]
    exact Nat.and_two_pow_sub_one_eq_mod ipa.toNat 40
  unfold valHostAddrAlignToLevel
  dsimp only
  rw [hmask, ← UInt64.and_assoc, toNat_mask_eq_alignDown _ hb, hlow]

theorem valHostAddrAlignToLevel_le {level : ℕ} (h : level ≤ 3) (ipa : UInt64) :
    (valHostAddrAlignToLevel ipa (UInt64.ofNat level)).toNat ≤ ipa.toNat := by
  rw [toNat_valHostAddrAlignToLevel h]
  exact le_trans (Nat.div_mul_le_self _ _) (Nat.mod_le _ _)

theorem entryBase_valHostAddrAlignToLevel {level : ℕ} (h : level ≤ 3) (ipa : UInt64) :
    entryBase level (valHostAddrAlignToLevel ipa (UInt64.ofNat level))
      = valHostAddrAlignToLevel ipa (UInt64.ofNat level) := by
  refine UInt64.toNat_inj.mp ?_
  rw [toNat_entryBase, toNat_valHostAddrAlignToLevel h, Nat.mul_div_cancel _ (Nat.two_pow_pos _)]

/-- Below 40 bits it is the base of the entry. -/
theorem valHostAddrAlignToLevel_eq_entryBase {level : ℕ} (h : level ≤ 3) {ipa : UInt64}
    (hipa : ipa.toNat < 2 ^ 40) :
    valHostAddrAlignToLevel ipa (UInt64.ofNat level) = entryBase level ipa := by
  refine UInt64.toNat_inj.mp ?_
  rw [toNat_valHostAddrAlignToLevel h, toNat_entryBase, Nat.mod_eq_of_lt hipa]

/-- The status and the index of an RTT error. -/
theorem rttError_fields {level : ℕ} (h : level ≤ 3) :
    rttError level ≠ 0 ∧ rmiStatus (rttError level) = rmiErrorRtt ∧
      rmiIndex (rttError level) = UInt64.ofNat level := by
  interval_cases level <;> decide

/-- The levels of the loops. -/
theorem ofNat_level (w i : ℕ) : UInt64.ofNat w + UInt64.ofNat i + 1 = UInt64.ofNat (w + i + 1) := by
  rw [UInt64.ofNat_add, UInt64.ofNat_add]
  rfl

theorem ofNat_level_pred (level : ℕ) : UInt64.ofNat (level + 1) - 1 = UInt64.ofNat level := by
  rw [UInt64.ofNat_add]
  exact add_sub_cancel_right _ _

/-- The rounds of the loops. -/
theorem levels_rounds {w : ℕ} (hw : w ≤ 3) :
    ¬ UInt64.ofNat w > 3 ∧ (3 - UInt64.ofNat w).toNat = 3 - w := by
  interval_cases w <;> decide

/-- **A loop over the levels from `w` to 3**: an invariant that knows the level. -/
theorem levels_triple {w : ℕ} (hw : w ≤ 3) {body : UInt64 → Code Log Unit} {I : ℕ → Log → Prop}
    {E : Unit → Log → Prop}
    (hbody : ∀ level, w ≤ level → level < 3 →
      Code.Triple (I level) (body (UInt64.ofNat (level + 1))) (I (level + 1)) E) :
    Code.Triple (I w) (Code.loop (fun i => body (UInt64.ofNat w + UInt64.ofNat i + 1)) (3 - w))
      (I 3) E := by
  have hloop : Code.Triple (I (w + 0))
      (Code.loop (fun i => body (UInt64.ofNat w + UInt64.ofNat i + 1)) (3 - w))
      (I (w + (3 - w))) E := by
    refine Code.triple_loop (I := fun i => I (w + i)) fun i hi => ?_
    rw [ofNat_level]
    exact hbody (w + i) (by omega) (by omega)
  have hsum : w + (3 - w) = 3 := by omega
  rw [hsum] at hloop
  exact hloop

/-- **`val_host_create_rtt_levels`**, level by level. -/
theorem valHostCreateRttLevels_triple {env : Env} {rd ipa rttAlignment : UInt64} {w : ℕ} (hw : w ≤ 3)
    {I : ℕ → Log → Prop} {E : Unit → Log → Prop}
    (hlevel : ∀ level, w ≤ level → level < 3 → Code.Triple (I level)
      (createRttLevel env rd ipa rttAlignment (UInt64.ofNat (level + 1))) (I (level + 1)) E) :
    Code.Triple (I w) (valHostCreateRttLevels env rd ipa (UInt64.ofNat w) 3 rttAlignment) (I 3)
      E := by
  obtain ⟨hle, hrounds⟩ := levels_rounds hw
  intro L hL
  unfold valHostCreateRttLevels
  rw [if_neg hle, hrounds]
  exact levels_triple hw hlevel L hL

end Arithmetic

/-! ## 5. An RMM that follows it -/

theorem ofNat_toNat_of_le {level : ℕ} (h : level ≤ 3) : (UInt64.ofNat level).toNat = level := by
  interval_cases level <;> rfl

/-- **The reference RMM follows the specification**, with all memory delegable. -/
theorem referenceRmm_spec (heap : HeapState) (rd : UInt64) (start width : ℕ) :
    SpecRmm (heapEnv heap (referenceRmm rd start width)) rd start width fun _ => True where
  legal := by
    intro l c h0
    have hsmc : (referenceRmm rd start width l (.rmi c)).x0 = 0 := h0
    cases c with
    | dataCreate rd' data ipa src flags =>
      simp only [referenceRmm] at hsmc
      split at hsmc
      · rename_i hrd
        split at hsmc
        · rename_i hok
          rw [hrd]
          exact hok.1
        · exact absurd hsmc (by decide)
      · split at hsmc
        · assumption
        · exact absurd hsmc (by decide)
    | rttCreate rd' rtt ipa level =>
      simp only [referenceRmm] at hsmc
      split at hsmc
      · rename_i hrd
        split at hsmc
        · rename_i hok
          rw [hrd]
          have hmake := hok.1
          rw [UInt64.ofNat_toNat] at hmake
          exact hmake
        · exact absurd hsmc (by decide)
      · split at hsmc
        · assumption
        · exact absurd hsmc (by decide)
    | _ =>
      simp only [referenceRmm] at hsmc
      split at hsmc
      · assumption
      · exact absurd hsmc (by decide)
  delegate := by
    intro l a _ ha hfresh
    have hlegal : (replay (trace l)).Legal (.granuleDelegate a) := ⟨ha, hfresh⟩
    change (referenceRmm rd start width l (.rmi (.granuleDelegate a))).x0 = 0
    simp only [referenceRmm, if_pos hlegal]
  dataCreate := by
    intro l data ipa src hok
    change (referenceRmm rd start width l (.rmi (.dataCreate rd data ipa src _))).x0 = _
    simp only [referenceRmm, if_pos hok, if_true]
    split <;> rfl
  dataCreate_table := by
    intro l data ipa src flags h0
    have hsmc : (referenceRmm rd start width l (.rmi (.dataCreate rd data ipa src flags))).x0 = 0 :=
      h0
    simp only [referenceRmm, if_true] at hsmc
    split at hsmc
    · split at hsmc
      · assumption
      · exact absurd hsmc (rttError_fields walkLevel_le).1
    · exact absurd hsmc (by decide)
  rttCreate := by
    intro l rtt ipa level hok
    change (referenceRmm rd start width l (.rmi (.rttCreate rd rtt ipa (UInt64.ofNat level)))).x0 = 0
    simp only [referenceRmm, if_true, ofNat_toNat_of_le hok.2.2.1, if_pos hok]
  readEntry := by
    intro l ipa level _ hlevel _ _
    change referenceRmm rd start width l (.rttReadEntry rd ipa (UInt64.ofNat level)) = _
    simp only [referenceRmm, ofNat_toNat_of_le hlevel]

/-- The suite's heap, and an RMM that follows its specification. -/
def specEnv : Env := heapEnv valHostMemAllocInit (referenceRmm 0x88500000 1 40)

end RmmAcs.Realm
