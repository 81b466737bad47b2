/-
# Tables of an auxiliary tree: `val_host_create_aux_mapping`

The tables that lead to an IPA in an auxiliary tree are created without reading the tree first.
The function tries the LAST table: if that is accepted the others were there; if not, the error
says where the walk stopped, and the tables are created from there down, the first of them with
the granule the RMM did not take.

One answer is read without looking closely.  An error of level 2 means that the table of level 3
could not be created below level 2, and the function takes it that the table is there already.
It may be that the entry of level 2 is a block (RTT_AUX_FOLD makes one): then there is no table of
level 3, none is created, and the function returns `VAL_SUCCESS` (`aux_mapping_created_iff`).
-/
import RmmAcs.Realm.Tables

namespace RmmAcs.Realm

open RmmAcs Lib Rmm

/-! ## 1. The function -/

/-- `RMI_ERROR_INPUT`. -/
def rmiErrorInput : UInt64 := 1

/-- `RMI_ERROR_RTT_AUX`. -/
def rmiErrorRttAux : UInt64 := 7

/-- The variables of the loop, and the log. -/
structure AuxState where
  rtt : UInt64
  /-- `cmd_ret.x0`. -/
  x0 : UInt64
  level : UInt64
  log : Log
deriving DecidableEq, Repr

section Function

variable (env : Env) (rd : UInt64)

/-- One round of the loop of `val_host_create_aux_mapping`. -/
def createAuxMappingLevel (ipa index : UInt64) : Code AuxState Unit :=
  Code.block
    [Code.guarded (fun s => s.x0 = 0) fun s =>
        let (rtt, l) := valHostDelegateGranule env s.log
        (if rtt = valError then some () else none, { s with rtt := rtt, log := l }),
      fun s =>
        let rttIpa := addrAlignDown ipa (valHostRttLevelMapsize (s.level - 1))
        let (x0, l) := env.rmi (.rttAuxCreate rd s.rtt rttIpa s.level index) s.log
        (if x0 ≠ 0 then some () else none, { s with x0 := x0, log := l }),
      Code.act fun s => { s with level := s.level + 1 }]

/-- `val_host_create_aux_mapping`; `some ()` is `VAL_ERROR`. -/
def valHostCreateAuxMapping (ipa index : UInt64) : Code Log Unit := fun l =>
  let (rtt, l) := valHostDelegateGranule env l
  if rtt = valError then (some (), l)
  else
    let rttIpa := addrAlignDown ipa (valHostRttLevelMapsize (valRttMaxLevel - 1))
    let (x0, l) := env.rmi (.rttAuxCreate rd rtt rttIpa valRttMaxLevel index) l
    if rmiStatus x0 = 0 then (none, l)
    else if rmiStatus x0 = rmiErrorInput then (some (), l)
    else
      let level := rmiIndex x0 + 1
      if level = valRttMaxLevel then (none, l)
      else
        -- one round for each level that is left
        let (exit, s) := Code.whileLoop (fun s => s.level ≤ valRttMaxLevel)
          (createAuxMappingLevel env rd ipa index) (valRttMaxLevel + 1 - level).toNat
          ⟨rtt, x0, level, l⟩
        (exit, s.log)

end Function

/-! ## 2. The auxiliary tree -/

/-- A table of an auxiliary tree, by its level and the base of what it covers. -/
def isAuxTable (rd index base level : UInt64) : Obj → Bool
  | .rttAux rd' base' level' index' _ =>
    rd == rd' && base == base' && level == level' && index == index'
  | _ => false

/-- The auxiliary tree has a table of this level for this IPA. -/
def hasAuxTable (R : RmmState) (rd index : UInt64) (level : ℕ) (ipa : UInt64) : Bool :=
  R.objs.any (isAuxTable rd index (entryBase (level - 1) ipa) (UInt64.ofNat level))

/-- The walk from the starting level comes down to this level. -/
def AuxReaches (R : RmmState) (rd index : UInt64) (start : ℕ) (ipa : UInt64) (level : ℕ) : Prop :=
  start ≤ level ∧ ∀ k ∈ Finset.Ioc start level, hasAuxTable R rd index k ipa = true

/-- A walk down to `limit` stops at this level. -/
def AuxStops (R : RmmState) (rd index : UInt64) (start : ℕ) (ipa : UInt64) (limit level : ℕ) :
    Prop :=
  AuxReaches R rd index start ipa level ∧ level ≤ limit ∧
    (level < limit → hasAuxTable R rd index (level + 1) ipa = false)

/-- `RMI_ERROR_RTT_AUX` with the level at which a walk stopped. -/
def rttAuxError (level : ℕ) : UInt64 := rmiErrorRttAux ||| (UInt64.ofNat level <<< 8)

/-- The walk stops above this level on an entry that is not assigned.  `assigned` says, after a
history, whether the entry of a level for an IPA is mapped as a block. -/
def AuxOpen (assigned : Trace → ℕ → UInt64 → Bool) (tr : Trace) (rd index : UInt64) (start : ℕ)
    (ipa : UInt64) (level : ℕ) : Prop :=
  start < level ∧ AuxReaches (replay tr) rd index start ipa (level - 1) ∧
    hasAuxTable (replay tr) rd index level ipa = false ∧ assigned tr (level - 1) ipa = false

/-- **RTT_AUX_CREATE as its specification has it**, for a realm whose auxiliary tree `index` starts
at this level.  It makes a table where the entry above is open, and nowhere else; if its arguments
are in order and the entry is not open, the error says where the walk stopped.  (A walk may go down
as far as the level above the new table, or further.) -/
structure SpecAux (env : Env) (rd index : UInt64) (start : ℕ)
    (assigned : Trace → ℕ → UInt64 → Bool) : Prop where
  legal : env.Legal
  accepted : ∀ l rtt ipa level, level ≤ 3 →
    (env.smc l (.rmi (.rttAuxCreate rd rtt ipa (UInt64.ofNat level) index))).x0 = 0 →
      AuxOpen assigned (trace l) rd index start ipa level
  refused : ∀ l rtt ipa level, level ≤ 3 →
    (env.smc l (.rmi (.rttAuxCreate rd rtt ipa (UInt64.ofNat level) index))).x0 ≠ 0 →
      rmiStatus (env.smc l (.rmi (.rttAuxCreate rd rtt ipa (UInt64.ofNat level) index))).x0
          = rmiErrorInput ∨
        ¬ AuxOpen assigned (trace l) rd index start ipa level ∧
          ∃ limit w, level - 1 ≤ limit ∧ limit ≤ 3 ∧
            AuxStops (replay (trace l)) rd index start ipa limit w ∧
            (env.smc l (.rmi (.rttAuxCreate rd rtt ipa (UInt64.ofNat level) index))).x0
              = rttAuxError w
  delegate : ∀ tr a r, assigned (tr ++ [(.granuleDelegate a, r)]) = assigned tr

/-! ## 3. Walks of the auxiliary tree -/

section Walks

variable {R R' : RmmState} {rd index ipa : UInt64} {start limit v w k : ℕ}

theorem hasAuxTable_entryBase (h : k ≤ 3) :
    hasAuxTable R rd index k (entryBase 2 ipa) = hasAuxTable R rd index k ipa := by
  rw [hasAuxTable, hasAuxTable, entryBase_entryBase (by omega)]

/-- The base of its level 2 entry stands for an IPA down to level 3. -/
theorem auxReaches_entryBase (h : w ≤ 3) :
    AuxReaches R rd index start (entryBase 2 ipa) w ↔ AuxReaches R rd index start ipa w := by
  refine and_congr_right fun _ => forall₂_congr fun k hk => ?_
  rw [hasAuxTable_entryBase (le_trans (Finset.mem_Ioc.mp hk).2 h)]

theorem auxStops_entryBase (h : limit ≤ 3) :
    AuxStops R rd index start (entryBase 2 ipa) limit w ↔ AuxStops R rd index start ipa limit w := by
  unfold AuxStops
  constructor
  · rintro ⟨hreach, hle, hstop⟩
    refine ⟨(auxReaches_entryBase (by omega)).mp hreach, hle, fun hlt => ?_⟩
    rw [← hasAuxTable_entryBase (by omega)]
    exact hstop hlt
  · rintro ⟨hreach, hle, hstop⟩
    refine ⟨(auxReaches_entryBase (by omega)).mpr hreach, hle, fun hlt => ?_⟩
    rw [hasAuxTable_entryBase (by omega)]
    exact hstop hlt

theorem AuxReaches.hasAuxTable (h : AuxReaches R rd index start ipa w) (hk : start < k)
    (hkw : k ≤ w) : Realm.hasAuxTable R rd index k ipa = true :=
  h.2 k (Finset.mem_Ioc.mpr ⟨hk, hkw⟩)

/-- One more table. -/
theorem AuxReaches.succ (h : AuxReaches R rd index start ipa w)
    (hnext : Realm.hasAuxTable R rd index (w + 1) ipa = true) :
    AuxReaches R rd index start ipa (w + 1) := by
  refine ⟨Nat.le_succ_of_le h.1, fun k hk => ?_⟩
  rw [Finset.mem_Ioc] at hk
  rcases Nat.lt_or_ge w k with hlt | hge
  · obtain rfl : k = w + 1 := by omega
    exact hnext
  · exact h.hasAuxTable hk.1 hge

/-- A walk does not stop above what it can reach. -/
theorem AuxStops.le_of_reaches (h : AuxStops R rd index start ipa limit w)
    (hreach : AuxReaches R rd index start ipa v) (hv : v ≤ limit) : v ≤ w := by
  by_contra hlt
  have hnone := h.2.2 (by omega)
  have hsome := hreach.hasAuxTable (k := w + 1) (Nat.lt_succ_of_le h.1.1) (by omega)
  rw [hnone] at hsome
  exact absurd hsome (by decide)

theorem hasAuxTable_iff : Realm.hasAuxTable R rd index k ipa = true ↔
    ∃ pa, Obj.rttAux rd (entryBase (k - 1) ipa) (UInt64.ofNat k) index pa ∈ R.objs := by
  rw [Realm.hasAuxTable, List.any_eq_true]
  constructor
  · rintro ⟨o, ho, htable⟩
    cases o with
    | rttAux rd' ipa' level' index' pa =>
      simp only [isAuxTable, Bool.and_eq_true, beq_iff_eq] at htable
      obtain ⟨⟨⟨rfl, rfl⟩, rfl⟩, rfl⟩ := htable
      exact ⟨pa, ho⟩
    | _ => exact absurd htable (by simp [isAuxTable])
  · rintro ⟨pa, ho⟩
    exact ⟨_, ho, by simp [isAuxTable]⟩

theorem hasAuxTable_congr (h : R'.objs = R.objs) :
    Realm.hasAuxTable R' rd index k ipa = Realm.hasAuxTable R rd index k ipa := by
  rw [Realm.hasAuxTable, Realm.hasAuxTable, h]

theorem auxReaches_congr (h : R'.objs = R.objs) :
    AuxReaches R' rd index start ipa w ↔ AuxReaches R rd index start ipa w := by
  refine and_congr_right fun _ => forall₂_congr fun k _ => ?_
  rw [hasAuxTable_congr h]

theorem rttAuxError_fields (h : w ≤ 3) :
    rttAuxError w ≠ 0 ∧ rmiStatus (rttAuxError w) = rmiErrorRttAux ∧
      rmiIndex (rttAuxError w) = UInt64.ofNat w := by
  interval_cases w <;> decide

end Walks

/-! ## 4. The tables a call creates -/

/-- An RTT_AUX_CREATE the RMM accepted: the granule, and the table by level and IPA. -/
def Event.auxCreated : Event → Option (UInt64 × UInt64 × UInt64)
  | .smc (.rmi (.rttAuxCreate _ rtt ipa level _)) r =>
    if r.x0 = 0 then some (rtt, level, ipa) else none
  | _ => none

/-- The tables created over a stretch of the log. -/
def auxCreates (seg : Log) : List (UInt64 × UInt64 × UInt64) := seg.filterMap Event.auxCreated

/-- **What the function is for**: afterwards there is a table at every level down to 3; those that
were created are the ones below some level, in order, each at the base of the entry above it; and
no granule was used twice. -/
structure AuxMapped (rd index : UInt64) (start : ℕ) (ipa : UInt64) (l l' : Log) : Prop where
  tables : ∀ k, start < k → k ≤ 3 → hasAuxTable (replay (trace l')) rd index k ipa = true
  creates : ∃ w ≤ 3, (auxCreates (own l l')).map Prod.snd = tablesBelow ipa w 3
  granules : ((auxCreates (own l l')).map Prod.fst).Nodup

/-- The entry of level 2 is a block: the walk comes down to it, there is no table below it, and it
is assigned. -/
def AuxBlocked (assigned : Trace → ℕ → UInt64 → Bool) (tr : Trace) (rd index : UInt64) (start : ℕ)
    (ipa : UInt64) : Prop :=
  AuxReaches (replay tr) rd index start ipa 2 ∧ hasAuxTable (replay tr) rd index 3 ipa = false ∧
    assigned tr 2 (entryBase 2 ipa) = true

/-- Since `l` the tables from `w + 1` to `k` have been created, and all that was there and all that
was created is there. -/
structure AuxMade (rd index ipa : UInt64) (l : Log) (w k : ℕ) (L : Log) : Prop where
  grown : ∃ seg, L = l ++ seg
  creates : (auxCreates (own l L)).map Prod.snd = tablesBelow ipa w k
  granules : ((auxCreates (own l L)).map Prod.fst).Nodup
  live : ∀ c ∈ auxCreates (own l L),
    Obj.rttAux rd c.2.2 c.2.1 index c.1 ∈ (replay (trace L)).objs
  kept : ∀ o ∈ (replay (trace l)).objs, o ∈ (replay (trace L)).objs

section Made

variable {env : Env} {rd index ipa : UInt64} {l L : Log} {w k : ℕ}

theorem AuxMade.refl (rd index ipa : UInt64) (l : Log) (w : ℕ) : AuxMade rd index ipa l w w l where
  grown := ⟨[], by simp⟩
  creates := by
    rw [tablesBelow_self]
    simp [own, auxCreates]
  granules := by simp [own, auxCreates]
  live := fun c hc => absurd hc (by simp [own, auxCreates])
  kept := fun o ho => ho

/-- An event that creates no table and ends nothing. -/
theorem AuxMade.idle (h : AuxMade rd index ipa l w k L) {e : Event} (he : e.auxCreated = none)
    (hobjs : (replay (trace (L ++ [e]))).objs = (replay (trace L)).objs) :
    AuxMade rd index ipa l w k (L ++ [e]) := by
  have hcreates : auxCreates (own l (L ++ [e])) = auxCreates (own l L) := by
    rw [own_snoc h.grown, auxCreates, List.filterMap_append, List.filterMap_cons_none he,
      List.filterMap_nil, List.append_nil, auxCreates]
  refine ⟨?_, ?_, ?_, ?_, ?_⟩
  · obtain ⟨seg, rfl⟩ := h.grown
    exact ⟨seg ++ [e], by simp⟩
  · rw [hcreates]
    exact h.creates
  · rw [hcreates]
    exact h.granules
  · rw [hcreates, hobjs]
    exact h.live
  · rw [hobjs]
    exact h.kept

/-- A granule delegated, or not. -/
theorem AuxMade.delegateGranule (h : AuxMade rd index ipa l w k L) (env : Env) :
    AuxMade rd index ipa l w k (valHostDelegateGranule env L).2 := by
  have hmalloc : AuxMade rd index ipa l w k (env.malloc pageSize pageSize L).2 := by
    refine h.idle rfl ?_
    rw [trace_append_other L rfl]
  have hdel : AuxMade rd index ipa l w k (env.rmi (.granuleDelegate
      (env.malloc pageSize pageSize L).1) (env.malloc pageSize pageSize L).2).2 := by
    refine hmalloc.idle rfl ((objs_rmi env (.granuleDelegate _) _).trans ?_)
    split
    · exact RmmState.apply_objs_of_idle rfl fun _ => rfl
    · rfl
  unfold valHostDelegateGranule
  dsimp only
  split
  · exact hmalloc
  · split
    · exact hdel
    · exact hdel

/-- A table refused. -/
theorem AuxMade.refused (h : AuxMade rd index ipa l w k L) {c : Cmd}
    (hc : (env.rmi c L).1 ≠ 0) : AuxMade rd index ipa l w k (env.rmi c L).2 := by
  refine h.idle ?_ ((objs_rmi env c L).trans (if_neg hc))
  cases c with
  | rttAuxCreate rd rtt ipa level index => exact if_neg hc
  | _ => rfl

/-- **A table created**: the next one, from a granule that is in use by no other. -/
theorem AuxMade.create (h : AuxMade rd index ipa l w k L) (henv : env.Legal) (hwk : w ≤ k)
    {rtt : UInt64} (hc : (env.rmi (.rttAuxCreate rd rtt (entryBase k ipa) (UInt64.ofNat (k + 1))
      index) L).1 = 0) :
    AuxMade rd index ipa l w (k + 1) (env.rmi (.rttAuxCreate rd rtt (entryBase k ipa)
      (UInt64.ofNat (k + 1)) index) L).2 := by
  have hlegal := henv L _ hc
  have hmem : ∀ o, o ∈ (replay (trace (env.rmi (.rttAuxCreate rd rtt (entryBase k ipa)
      (UInt64.ofNat (k + 1)) index) L).2)).objs ↔ o ∈ (replay (trace L)).objs ∨
        o = .rttAux rd (entryBase k ipa) (UInt64.ofNat (k + 1)) index rtt := by
    intro o
    rw [objs_rmi, if_pos hc, RmmState.mem_apply_objs]
    simp [Cmd.kills, Cmd.makes, eq_comm]
  have hcreates : auxCreates (own l (env.rmi (.rttAuxCreate rd rtt (entryBase k ipa)
      (UInt64.ofNat (k + 1)) index) L).2)
        = auxCreates (own l L) ++ [(rtt, UInt64.ofNat (k + 1), entryBase k ipa)] := by
    have hev : Event.auxCreated (.smc (.rmi (.rttAuxCreate rd rtt (entryBase k ipa)
        (UInt64.ofNat (k + 1)) index)) (env.smc L (.rmi (.rttAuxCreate rd rtt (entryBase k ipa)
          (UInt64.ofNat (k + 1)) index))))
        = some (rtt, UInt64.ofNat (k + 1), entryBase k ipa) := if_pos hc
    have hown := own_snoc h.grown (.smc (.rmi (.rttAuxCreate rd rtt (entryBase k ipa)
        (UInt64.ofNat (k + 1)) index)) (env.smc L (.rmi (.rttAuxCreate rd rtt (entryBase k ipa)
          (UInt64.ofNat (k + 1)) index))))
    refine (congrArg auxCreates hown).trans ?_
    rw [auxCreates, List.filterMap_append, List.filterMap_cons_some hev, List.filterMap_nil,
      auxCreates]
  refine ⟨?_, ?_, ?_, ?_, ?_⟩
  · obtain ⟨seg, rfl⟩ := h.grown
    exact ⟨_, List.append_assoc l seg _⟩
  · rw [hcreates, List.map_append, h.creates, tablesBelow_succ ipa hwk]
    rfl
  · rw [hcreates, List.map_append, List.nodup_append]
    refine ⟨h.granules, List.nodup_singleton _, ?_⟩
    -- a granule used before is in use
    rintro a ha b hb rfl
    obtain ⟨c, hc', rfl⟩ := List.mem_map.mp ha
    have hb' : c.1 = rtt := by simpa using hb
    exact (hlegal.1 rtt rfl).2 _ (h.live c hc') (congrArg some hb')
  · intro c hc'
    rw [hmem]
    rw [hcreates, List.mem_append, List.mem_singleton] at hc'
    rcases hc' with hold | rfl
    · exact Or.inl (h.live c hold)
    · exact Or.inr rfl
  · intro o ho
    rw [hmem]
    exact Or.inl (h.kept o ho)

/-- With all tables made, the walk comes down to level 3. -/
theorem AuxMade.mapped {start : ℕ} (h : AuxMade rd index ipa l w 3 L) (hw : w ≤ 3)
    (hreach : AuxReaches (replay (trace l)) rd index start ipa w) :
    AuxMapped rd index start ipa l L where
  tables := by
    intro k hk hk3
    rw [hasAuxTable_iff]
    rcases Nat.lt_or_ge w k with hlt | hge
    · -- one of those created
      have hmem : (UInt64.ofNat k, entryBase (k - 1) ipa) ∈ tablesBelow ipa w 3 :=
        List.mem_map.mpr ⟨k, List.mem_range'_1.mpr ⟨by omega, by omega⟩, rfl⟩
      rw [← h.creates] at hmem
      obtain ⟨c, hc, heq⟩ := List.mem_map.mp hmem
      have hlive := h.live c hc
      rw [heq] at hlive
      exact ⟨c.1, hlive⟩
    · -- one of those there before
      obtain ⟨pa, hpa⟩ := hasAuxTable_iff.mp (hreach.hasAuxTable hk hge)
      exact ⟨pa, h.kept _ hpa⟩
  creates := ⟨w, hw, h.creates⟩
  granules := h.granules

/-- The granule comes first, and the auxiliary tree does not see it. -/
theorem delegateGranule_trace (env : Env) (L : Log) :
    trace (valHostDelegateGranule env L).2 = trace L ∨
      ∃ a r, trace (valHostDelegateGranule env L).2 = trace L ++ [(.granuleDelegate a, r)] := by
  have hmalloc : trace (env.malloc pageSize pageSize L).2 = trace L := trace_append_other L rfl
  have hdel : trace (env.rmi (.granuleDelegate (env.malloc pageSize pageSize L).1)
      (env.malloc pageSize pageSize L).2).2 = trace L ++ [(.granuleDelegate
        (env.malloc pageSize pageSize L).1, env.smc (env.malloc pageSize pageSize L).2
          (.rmi (.granuleDelegate (env.malloc pageSize pageSize L).1)))] := by
    rw [trace_call_rmi, hmalloc]
  unfold valHostDelegateGranule
  dsimp only
  split
  · exact Or.inl hmalloc
  · split
    · exact Or.inr ⟨_, _, hdel⟩
    · exact Or.inr ⟨_, _, hdel⟩

theorem delegateGranule_objs (env : Env) (L : Log) :
    (replay (trace (valHostDelegateGranule env L).2)).objs = (replay (trace L)).objs := by
  rcases delegateGranule_trace env L with h | ⟨a, r, h⟩
  · rw [h]
  · rw [h, replay_snoc]
    split
    · exact RmmState.apply_objs_of_idle rfl fun _ => rfl
    · rfl

/-- **One round of the loop** makes one table, or leaves with `VAL_ERROR`. -/
theorem createAuxMappingLevel_makes (henv : env.Legal) (hwk : w ≤ k) (hk : k < 3) :
    Code.Triple
      (fun s => s.level = UInt64.ofNat (k + 1) ∧ AuxMade rd index ipa l w k s.log)
      (createAuxMappingLevel env rd ipa index)
      (fun s => s.level = UInt64.ofNat (k + 1 + 1) ∧ AuxMade rd index ipa l w (k + 1) s.log)
      fun _ _ => True := by
  refine Code.Triple.cons (R := fun s => s.level = UInt64.ofNat (k + 1) ∧
    AuxMade rd index ipa l w k s.log) ?_ (Code.Triple.cons (R := fun s =>
      s.level = UInt64.ofNat (k + 1) ∧ AuxMade rd index ipa l w (k + 1) s.log) ?_
      (Code.Triple.cons ?_ Code.triple_nil))
  · refine Code.Triple.guarded ?_ fun s hs _ => hs
    rintro s ⟨⟨hlevel, hmade⟩, -⟩
    dsimp only
    split
    · trivial
    · exact ⟨hlevel, hmade.delegateGranule env⟩
  · rintro s ⟨hlevel, hmade⟩
    dsimp only
    rw [hlevel, ofNat_level_pred, addrAlignDown_eq_entryBase hk]
    split
    · trivial
    · rename_i hret
      exact ⟨rfl, hmade.create henv hwk (not_not.mp hret)⟩
  · refine Code.triple_act ?_
    rintro s ⟨hlevel, hmade⟩
    refine ⟨?_, hmade⟩
    dsimp only
    rw [hlevel, UInt64.ofNat_add (k + 1) 1]
    rfl

/-- **The loop** makes the tables that are left. -/
theorem createAuxMappingLoop_makes (henv : env.Legal) (hw : w ≤ 3) {s : AuxState}
    (hlevel : s.level = UInt64.ofNat (w + 1)) (hmade : AuxMade rd index ipa l w w s.log) :
    Code.Exit (fun s => AuxMade rd index ipa l w 3 s.log) (fun _ _ => True)
      (Code.whileLoop (fun s => s.level ≤ valRttMaxLevel) (createAuxMappingLevel env rd ipa index)
        (valRttMaxLevel + 1 - UInt64.ofNat (w + 1)).toNat s) := by
  have hrounds : (valRttMaxLevel + 1 - UInt64.ofNat (w + 1)).toNat = 3 - w := by
    interval_cases w <;> rfl
  rw [hrounds]
  have hloop : Code.Triple
      (fun s => s.level = UInt64.ofNat (w + 0 + 1) ∧ AuxMade rd index ipa l w (w + 0) s.log)
      (Code.whileLoop (fun s => s.level ≤ valRttMaxLevel) (createAuxMappingLevel env rd ipa index)
        (3 - w))
      (fun s => (s.level = UInt64.ofNat (w + (3 - w) + 1) ∧
        AuxMade rd index ipa l w (w + (3 - w)) s.log) ∧ decide (s.level ≤ valRttMaxLevel) = false)
      fun _ _ => True := by
    refine Code.triple_whileLoop (I := fun i (s : AuxState) => s.level = UInt64.ofNat (w + i + 1) ∧
      AuxMade rd index ipa l w (w + i) s.log) ?_ ?_
    · rintro i hi s ⟨hs, -⟩
      rw [hs]
      have hnat : (UInt64.ofNat (w + i + 1)).toNat = w + i + 1 :=
        UInt64.toNat_ofNat_of_lt' (lt_of_le_of_lt (by omega : w + i + 1 ≤ 4) (by decide))
      have hmax : valRttMaxLevel.toNat = 3 := rfl
      refine decide_eq_decide.mpr ?_
      rw [UInt64.le_iff_toNat_le, hnat, hmax]
      omega
    · intro i hi
      exact createAuxMappingLevel_makes henv (by omega) (by omega)
  refine (hloop s ⟨hlevel, hmade⟩).mono (fun s hs => ?_) fun _ _ _ => trivial
  have hsum : w + (3 - w) = 3 := by omega
  rw [hsum] at hs
  exact hs.1.2

end Made

/-! ## 5. Success -/

section Success

variable {env : Env} {rd index ipa : UInt64} {start : ℕ} {assigned : Trace → ℕ → UInt64 → Bool}
  {l l' : Log}

/-- What the auxiliary tree is when its last table is tried is what it was before. -/
theorem SpecAux.assigned_delegateGranule (henv : SpecAux env rd index start assigned) (l : Log) :
    assigned (trace (valHostDelegateGranule env l).2) = assigned (trace l) := by
  rcases delegateGranule_trace env l with h | ⟨a, r, h⟩
  · rw [h]
  · rw [h, henv.delegate]

/-- The first attempt, by its answer: the walk stopped above level 3 and the table was created;
or the arguments were bad; or the entry was not open, and the error says where the walk stopped. -/
theorem SpecAux.first (henv : SpecAux env rd index start assigned) (ipa rtt : UInt64) (l : Log) :
    let r := (env.rmi (.rttAuxCreate rd rtt (entryBase 2 ipa) 3 index)
      (valHostDelegateGranule env l).2).1
    (r = 0 ∧ AuxReaches (replay (trace l)) rd index start ipa 2 ∧
        assigned (trace l) 2 (entryBase 2 ipa) = false) ∨
      (r ≠ 0 ∧ rmiStatus r = rmiErrorInput) ∨
      ¬ (AuxReaches (replay (trace l)) rd index start ipa 2 ∧
          hasAuxTable (replay (trace l)) rd index 3 ipa = false ∧
          assigned (trace l) 2 (entryBase 2 ipa) = false) ∧
        ∃ limit w, 2 ≤ limit ∧ limit ≤ 3 ∧
          AuxStops (replay (trace l)) rd index start ipa limit w ∧ r = rttAuxError w := by
  intro r
  have hobjs := delegateGranule_objs env l
  have hopen : AuxOpen assigned (trace (valHostDelegateGranule env l).2) rd index start
      (entryBase 2 ipa) 3 ↔ AuxReaches (replay (trace l)) rd index start ipa 2 ∧
        hasAuxTable (replay (trace l)) rd index 3 ipa = false ∧
        assigned (trace l) 2 (entryBase 2 ipa) = false := by
    unfold AuxOpen
    rw [henv.assigned_delegateGranule, auxReaches_congr hobjs, hasAuxTable_congr hobjs,
      hasAuxTable_entryBase (le_refl 3), auxReaches_entryBase (by omega)]
    refine ⟨fun h => h.2, fun h => ⟨Nat.lt_succ_of_le h.1.1, h⟩⟩
  by_cases hr : r = 0
  · obtain ⟨hreach, -, hfree⟩ := hopen.mp (henv.accepted _ rtt _ 3 (le_refl 3) hr)
    exact Or.inl ⟨hr, hreach, hfree⟩
  · rcases henv.refused (valHostDelegateGranule env l).2 rtt (entryBase 2 ipa) 3 (le_refl 3) hr with
      hinput | ⟨hno, limit, w, hlim, hlim3, hstop, herr⟩
    · exact Or.inr (Or.inl ⟨hr, hinput⟩)
    · refine Or.inr (Or.inr ⟨fun h => hno (hopen.mpr h), limit, w, hlim, hlim3, ?_, herr⟩)
      have hstop' := (auxStops_entryBase hlim3).mp hstop
      refine ⟨(auxReaches_congr hobjs).mp hstop'.1, hstop'.2.1, fun hlt => ?_⟩
      rw [← hasAuxTable_congr hobjs]
      exact hstop'.2.2 hlt

/-- The three ways to `VAL_SUCCESS`. -/
theorem valHostCreateAuxMapping_success
    (hret : valHostCreateAuxMapping env rd ipa index l = (none, l')) :
    ∃ rtt L, valHostDelegateGranule env l = (rtt, L) ∧
      let r := env.rmi (.rttAuxCreate rd rtt (entryBase 2 ipa) 3 index) L
      (rmiStatus r.1 = 0 ∧ l' = r.2) ∨
        rmiStatus r.1 ≠ 0 ∧ rmiStatus r.1 ≠ rmiErrorInput ∧
          ((rmiIndex r.1 + 1 = 3 ∧ l' = r.2) ∨
            rmiIndex r.1 + 1 ≠ 3 ∧ ∃ s, l' = s.log ∧
              Code.whileLoop (fun s => s.level ≤ valRttMaxLevel)
                (createAuxMappingLevel env rd ipa index)
                (valRttMaxLevel + 1 - (rmiIndex r.1 + 1)).toNat ⟨rtt, r.1, rmiIndex r.1 + 1, r.2⟩
              = (none, s)) := by
  have hbase : addrAlignDown ipa (valHostRttLevelMapsize (valRttMaxLevel - 1)) = entryBase 2 ipa :=
    addrAlignDown_eq_entryBase (by decide : 2 < 3) ipa
  refine ⟨(valHostDelegateGranule env l).1, (valHostDelegateGranule env l).2, rfl, ?_⟩
  unfold valHostCreateAuxMapping at hret
  simp only [hbase] at hret
  intro r
  split at hret
  · exact absurd (congrArg Prod.fst hret) (by simp)
  split at hret
  · rename_i h0
    exact Or.inl ⟨h0, (congrArg Prod.snd hret).symm⟩
  rename_i h0
  split at hret
  · exact absurd (congrArg Prod.fst hret) (by simp)
  rename_i hinput
  refine Or.inr ⟨h0, hinput, ?_⟩
  split at hret
  · rename_i hlevel
    exact Or.inl ⟨hlevel, (congrArg Prod.snd hret).symm⟩
  · rename_i hlevel
    refine Or.inr ⟨hlevel, _, (congrArg Prod.snd hret).symm, ?_⟩
    exact Prod.ext (Prod.mk.inj hret).1 rfl

/-- **`val_host_create_aux_mapping` does what it is for, if it returns `VAL_SUCCESS`, exactly where
the entry of level 2 is not a block.** -/
theorem aux_mapping_created_iff (henv : SpecAux env rd index start assigned)
    (hret : valHostCreateAuxMapping env rd ipa index l = (none, l')) :
    AuxMapped rd index start ipa l l' ↔
      ¬ AuxBlocked assigned (trace l) rd index start ipa := by
  obtain ⟨rtt, L, hgran, hcases⟩ := valHostCreateAuxMapping_success hret
  have hfirst := henv.first ipa rtt l
  have hmade : ∀ w, AuxMade rd index ipa l w w L := fun w => by
    have h := (AuxMade.refl rd index ipa l w).delegateGranule env
    rw [hgran] at h
    exact h
  have hobjs := delegateGranule_objs env l
  rw [hgran] at hfirst hobjs
  dsimp only at hfirst hcases hobjs
  generalize hr : (env.rmi (.rttAuxCreate rd rtt (entryBase 2 ipa) 3 index) L).1 = r at *
  rcases hfirst with ⟨h0, hreach, hfree⟩ | ⟨-, hinput⟩ | ⟨hno, limit, w, hlim, hlim3, hstop, herr⟩
  · -- the table of level 3 was the only one missing
    have hl' : l' = (env.rmi (.rttAuxCreate rd rtt (entryBase 2 ipa) 3 index) L).2 := by
      rcases hcases with h | h
      · exact h.2
      · exact absurd (by rw [h0]; rfl) h.1
    refine iff_of_true ?_ fun hblocked => ?_
    · rw [hl']
      exact ((hmade 2).create henv.legal (le_refl 2) (hr.trans h0)).mapped (by decide) hreach
    · rw [hblocked.2.2] at hfree
      exact absurd hfree (by decide)
  · rcases hcases with h | h
    · rw [hinput] at h
      exact absurd h.1 (by decide)
    · exact absurd hinput h.2.1
  · -- the error tells the level
    have hw : w ≤ 3 := le_trans hstop.2.1 hlim3
    obtain ⟨hne, hstatus, hindex⟩ := rttAuxError_fields hw
    have hrefused : ∀ k, AuxMade rd index ipa l k k
        (env.rmi (.rttAuxCreate rd rtt (entryBase 2 ipa) 3 index) L).2 := fun k =>
      (hmade k).refused (by rw [hr, herr]; exact hne)
    rcases hcases with ⟨h, -⟩ | ⟨-, -, ⟨hlevel, hl'⟩ | ⟨hlevel, s, hl', hloop⟩⟩
    · rw [herr, hstatus] at h
      exact absurd h (by decide)
    · -- level 2: the table is there, or the entry is a block
      have hw2 : w = 2 := by
        rw [herr, hindex] at hlevel
        interval_cases w <;> first | rfl | exact absurd hlevel (by decide)
      rw [hw2] at hstop
      rw [hl']
      constructor
      · rintro hmapped ⟨-, hnone, -⟩
        have hsome := hmapped.tables 3 (Nat.lt_succ_of_le hstop.1.1) (le_refl 3)
        rw [hasAuxTable_congr (R := replay (trace L)), hasAuxTable_congr hobjs, hnone] at hsome
        · exact absurd hsome (by decide)
        · rw [objs_rmi, if_neg (by rw [hr, herr]; exact hne)]
      · intro hfree
        have htable : hasAuxTable (replay (trace l)) rd index 3 ipa = true := by
          by_contra hnone
          rw [Bool.not_eq_true] at hnone
          refine hfree ⟨hstop.1, hnone, ?_⟩
          by_contra hopen
          rw [Bool.not_eq_true] at hopen
          exact hno ⟨hstop.1, hnone, hopen⟩
        exact (hrefused 3).mapped (le_refl 3) (hstop.1.succ htable)
    · -- another level: the loop creates what is missing from there
      have hreach : AuxReaches (replay (trace l)) rd index start ipa w := hstop.1
      refine iff_of_true ?_ fun hblocked => ?_
      · have hexit := createAuxMappingLoop_makes henv.legal hw (s := ⟨rtt, r, rmiIndex r + 1,
          (env.rmi (.rttAuxCreate rd rtt (entryBase 2 ipa) 3 index) L).2⟩)
          (by dsimp only; rw [herr, hindex, UInt64.ofNat_add]; rfl) (hrefused w)
        have hidx : UInt64.ofNat (w + 1) = rmiIndex r + 1 := by
          rw [herr, hindex, UInt64.ofNat_add]
          rfl
        rw [hidx, hloop] at hexit
        have hall : AuxMade rd index ipa l w 3 s.log := hexit
        rw [hl']
        exact hall.mapped hw hreach
      · -- at a block the error is of level 2
        have hge : 2 ≤ w := hstop.le_of_reaches hblocked.1 hlim
        have hlt : w < 3 := by
          by_contra h3
          obtain rfl : w = 3 := by omega
          have hsome := hreach.hasAuxTable (k := 3) (Nat.lt_succ_of_le hblocked.1.1) (le_refl 3)
          rw [hblocked.2.1] at hsome
          exact absurd hsome (by decide)
        obtain rfl : w = 2 := by omega
        rw [herr, hindex] at hlevel
        exact hlevel (by decide)

end Success

/-! ## 6. An RMM that follows the specification -/

instance (R : RmmState) (rd index : UInt64) (start : ℕ) (ipa : UInt64) :
    DecidablePred (AuxReaches R rd index start ipa) :=
  fun _ => inferInstanceAs (Decidable (_ ∧ _))

instance (assigned : Trace → ℕ → UInt64 → Bool) (tr : Trace) (rd index : UInt64) (start : ℕ)
    (ipa : UInt64) (level : ℕ) : Decidable (AuxOpen assigned tr rd index start ipa level) :=
  inferInstanceAs (Decidable (_ ∧ _ ∧ _ ∧ _))

/-- The IPAs a history leaves mapped in an auxiliary tree. -/
def auxMappings (rd index : UInt64) (tr : Trace) : List UInt64 :=
  (accepted tr).foldl (fun mapped c =>
    match c with
    | .rttAuxMapProtected rd' ipa index' => if rd' = rd ∧ index' = index then ipa :: mapped else mapped
    | .rttAuxMapUnprotected rd' ipa index' =>
      if rd' = rd ∧ index' = index then ipa :: mapped else mapped
    | .rttAuxUnmapProtected rd' ipa index' =>
      if rd' = rd ∧ index' = index then mapped.filter (· ≠ ipa) else mapped
    | .rttAuxUnmapUnprotected rd' ipa index' =>
      if rd' = rd ∧ index' = index then mapped.filter (· ≠ ipa) else mapped
    | _ => mapped) []

/-- Something is mapped within the entry of this level for this IPA. -/
def auxAssigned (rd index : UInt64) (tr : Trace) (level : ℕ) (ipa : UInt64) : Bool :=
  (auxMappings rd index tr).any fun mapped => entryBase level mapped == entryBase level ipa

/-- Such an RMM, for one auxiliary tree of the realm `rd`; the other commands it accepts if they
are legal. -/
def auxRmm (rd index : UInt64) (start : ℕ) (l : Log) : Smc → SmcRet
  | .rmi (.rttAuxCreate rd' rtt ipa level index') =>
    let R := replay (trace l)
    if R.Legal (.rttAuxCreate rd' rtt ipa level index') ∧ start < level.toNat then
      if AuxOpen (auxAssigned rd index) (trace l) rd index start ipa level.toNat then ⟨0, 0, 0⟩
      else
        ⟨rttAuxError (Nat.findGreatest (AuxReaches R rd index start ipa) (level.toNat - 1)), 0, 0⟩
    else ⟨rmiErrorInput, 0, 0⟩
  | .rmi c => if (replay (trace l)).Legal c then ⟨0, 0, 0⟩ else ⟨rmiErrorInput, 0, 0⟩
  | _ => ⟨0, 0, 0⟩

/-- With a new page for every request. -/
def auxEnv (rd index : UInt64) (start : ℕ) : Env where
  smc := auxRmm rd index start
  alloc := fun l _ _ => UInt64.ofNat (0x88500000 + 4096 * l.length)

theorem findGreatest_auxStops {R : RmmState} {rd index : UInt64} {start : ℕ} (ipa : UInt64)
    {limit : ℕ} (h : start ≤ limit) :
    AuxStops R rd index start ipa limit (Nat.findGreatest (AuxReaches R rd index start ipa) limit) := by
  have hstart : AuxReaches R rd index start ipa start := ⟨le_refl start, by simp⟩
  have hreach : AuxReaches R rd index start ipa
      (Nat.findGreatest (AuxReaches R rd index start ipa) limit) :=
    Nat.findGreatest_spec h hstart
  refine ⟨hreach, Nat.findGreatest_le limit, fun hlt => ?_⟩
  by_contra hnext
  have hle := Nat.le_findGreatest hlt (hreach.succ (by simpa using hnext))
  exact Nat.not_succ_le_self _ hle

theorem auxEnv_spec (rd index : UInt64) (start : ℕ) :
    SpecAux (auxEnv rd index start) rd index start (auxAssigned rd index) where
  legal := by
    intro l c h0
    have hsmc : (auxRmm rd index start l (.rmi c)).x0 = 0 := h0
    cases c with
    | rttAuxCreate rd' rtt ipa level index' =>
      simp only [auxRmm] at hsmc
      split at hsmc
      · rename_i hok
        exact hok.1
      · exact absurd hsmc (by decide)
    | _ =>
      simp only [auxRmm] at hsmc
      split at hsmc
      · assumption
      · exact absurd hsmc (by decide)
  accepted := by
    intro l rtt ipa level hlevel h0
    have hsmc : (auxRmm rd index start l
        (.rmi (.rttAuxCreate rd rtt ipa (UInt64.ofNat level) index))).x0 = 0 := h0
    simp only [auxRmm, ofNat_toNat_of_le hlevel] at hsmc
    split at hsmc
    · split at hsmc
      · assumption
      · exact absurd hsmc (rttAuxError_fields (le_trans (Nat.findGreatest_le _) (by omega))).1
    · exact absurd hsmc (by decide)
  refused := by
    intro l rtt ipa level hlevel h0
    have hsmc : (auxRmm rd index start l
        (.rmi (.rttAuxCreate rd rtt ipa (UInt64.ofNat level) index))).x0 ≠ 0 := h0
    change rmiStatus (auxRmm rd index start l
        (.rmi (.rttAuxCreate rd rtt ipa (UInt64.ofNat level) index))).x0 = rmiErrorInput ∨
      _ ∧ ∃ limit w, level - 1 ≤ limit ∧ limit ≤ 3 ∧ _ ∧ (auxRmm rd index start l
        (.rmi (.rttAuxCreate rd rtt ipa (UInt64.ofNat level) index))).x0 = rttAuxError w
    simp only [auxRmm, ofNat_toNat_of_le hlevel] at hsmc ⊢
    split at hsmc
    · rename_i hok
      rw [if_pos hok]
      split at hsmc
      · exact absurd rfl hsmc
      · rename_i hclosed
        rw [if_neg hclosed]
        exact Or.inr ⟨hclosed, level - 1, _, le_refl _, by omega,
          findGreatest_auxStops ipa (by omega), rfl⟩
    · rename_i hbad
      rw [if_neg hbad]
      exact Or.inl rfl
  delegate := by
    intro tr a r
    funext level ipa
    rw [auxAssigned, auxAssigned, auxMappings, auxMappings, accepted_snoc]
    split
    · rw [List.foldl_append]
      rfl
    · rfl

/-- A realm, and its auxiliary tree 1 with nothing below its starting level. -/
def auxTreeEmpty : Log :=
  issue (auxEnv 0x88000000 1 1) [.granuleDelegate 0x88000000, .realmCreate 0x88000000 0]

theorem aux_mapping_created_two_levels :
    AuxMapped 0x88000000 1 1 0x40201000 auxTreeEmpty
      (valHostCreateAuxMapping (auxEnv 0x88000000 1 1) 0x88000000 0x40201000 1 auxTreeEmpty).2 := by
  have hret : (valHostCreateAuxMapping (auxEnv 0x88000000 1 1) 0x88000000 0x40201000 1
      auxTreeEmpty).1 = none := by decide +kernel
  have hrun : valHostCreateAuxMapping (auxEnv 0x88000000 1 1) 0x88000000 0x40201000 1 auxTreeEmpty
      = (none, (valHostCreateAuxMapping (auxEnv 0x88000000 1 1) 0x88000000 0x40201000 1
          auxTreeEmpty).2) := by
    rw [← hret]
  refine (aux_mapping_created_iff (auxEnv_spec 0x88000000 1 1) hrun).mpr fun h => ?_
  exact absurd h.1 (by decide +kernel)

/-- The realm has a page at IPA 0x40201000, mapped in the auxiliary tree as well, and the table of
level 3 has been folded. -/
def auxTreeFolded : Log :=
  issue (auxEnv 0x88000000 1 1) [.granuleDelegate 0x88000000, .realmCreate 0x88000000 0,
    .granuleDelegate 0x88001000, .rttAuxCreate 0x88000000 0x88001000 0x40000000 2 1,
    .granuleDelegate 0x88002000, .rttAuxCreate 0x88000000 0x88002000 0x40200000 3 1,
    .granuleDelegate 0x88003000, .dataCreateUnknown 0x88000000 0x88003000 0x40201000,
    .rttAuxMapProtected 0x88000000 0x40201000 1, .rttAuxFold 0x88000000 0x40200000 3 1]

/-- There the function returns `VAL_SUCCESS`, and there is no table of level 3. -/
theorem aux_mapping_of_block :
    SpecAux (auxEnv 0x88000000 1 1) 0x88000000 1 1 (auxAssigned 0x88000000 1) ∧
      (accepted (trace auxTreeFolded)).length = 10 ∧
      (valHostCreateAuxMapping (auxEnv 0x88000000 1 1) 0x88000000 0x40201000 1 auxTreeFolded).1
        = none ∧
      ¬ AuxMapped 0x88000000 1 1 0x40201000 auxTreeFolded
        (valHostCreateAuxMapping (auxEnv 0x88000000 1 1) 0x88000000 0x40201000 1 auxTreeFolded).2 := by
  refine ⟨auxEnv_spec 0x88000000 1 1, by decide +kernel, by decide +kernel, fun h => ?_⟩
  exact absurd (h.tables 3 (by decide) (by decide)) (by decide +kernel)

end RmmAcs.Realm
