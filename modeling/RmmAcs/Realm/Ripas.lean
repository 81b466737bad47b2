/-
# Initialising RIPAS: `val_host_ripas_init`

RTT_INIT_RIPAS does as much of `[base, top)` as lies in ONE level 3 table and answers where it
stopped; if there is no such table it says where the walk stopped.  The function calls it until it
stops at `top`, and creates the tables that are missing.

Two things go wrong.  The loop does not move `base`: where a call stops short of `top` it is made
again as it was, and it stops there again.  And `continue` in a `do .. while` goes to the TEST, so
after the tables have been created the loop looks at the `out_top` of the call that failed.  If
neither happens the function ends, after at most two calls of RTT_INIT_RIPAS, and what it says is so
(`ripas_init_covers_iff`).
-/
import RmmAcs.Realm.Tables

namespace RmmAcs.Realm

open RmmAcs Lib Rmm

/-! ## 1. The function -/

section Function

variable (env : Env) (rd base top rttLevel rttAlignment : UInt64)

/-- One round: the body of the `do`, and the test.  `none` is another round, `some true` is
`VAL_SUCCESS`. -/
def ripasRound (l : Log) : Option Bool × Log :=
  let (r, l) := env.call (.rttInitRipas rd base top) l
  let rttLevel1 := rmiIndex r.x0
  if rmiStatus r.x0 = rmiErrorRtt ∧ rttLevel1 < valRttMaxLevel then
    let (rtte, l) :=
      env.call (.rttReadEntry rd (valHostAddrAlignToLevel base rttLevel1) rttLevel1) l
    if rtte.x0 ≠ 0 then (some false, l)
    else if rtte.x2 = rmiUnassigned then
      let (ret, l) := valHostCreateRttLevels env rd base rtte.x1 rttLevel rttAlignment l
      if ret ≠ none then (some false, l)
      -- `continue`
      else (if r.x1 ≠ top then none else some true, l)
    else (some false, l)
  else if r.x0 ≠ 0 then (some false, l)
  else (if r.x1 ≠ top then none else some true, l)

/-- `val_host_ripas_init`; `none` is a call that has not returned after so many rounds. -/
def valHostRipasInit : ℕ → Log → Option (Bool × Log)
  | 0, _ => none
  | n + 1, l =>
    match ripasRound env rd base top rttLevel rttAlignment l with
    | (none, l) => valHostRipasInit n l
    | (some ok, l) => some (ok, l)

end Function

/-! ## 2. What is asked of it -/

/-- **RTT_INIT_RIPAS as its specification has it**, for a realm whose tree starts at this level: a
call that succeeds has done a non-empty part of the range, from its base on, within one level 3
table; an error of a missing table says where the walk stopped.  RTT_READ_ENTRY walks no further
than it is asked to. -/
structure SpecRipas (env : Env) (rd base top : UInt64) (start : ℕ) : Prop where
  success : ∀ l, (env.smc l (.rttInitRipas rd base top)).x0 = 0 →
    base.toNat < (env.smc l (.rttInitRipas rd base top)).x1.toNat ∧
      (env.smc l (.rttInitRipas rd base top)).x1.toNat
        ≤ min top.toNat ((entryBase 2 base).toNat + 2 ^ entryShift 2)
  missing : ∀ l, rmiStatus (env.smc l (.rttInitRipas rd base top)).x0 = rmiErrorRtt →
    rmiIndex (env.smc l (.rttInitRipas rd base top)).x0
      = UInt64.ofNat (walkLevel (replay (trace l)) rd start base 3)
  readEntry : ∀ l ipa level, (env.smc l (.rttReadEntry rd ipa level)).x0 = 0 →
    (env.smc l (.rttReadEntry rd ipa level)).x1.toNat ≤ level.toNat

/-- A range that an RTT_INIT_RIPAS has done. -/
def Event.ripasDone : Event → Option (ℕ × ℕ)
  | .smc (.rttInitRipas _ base _) r => if r.x0 = 0 then some (base.toNat, r.x1.toNat) else none
  | _ => none

/-- Every address of the range has been done over a stretch of the log. -/
def RipasCovered (base top : UInt64) (seg : Log) : Prop :=
  ∀ x, base.toNat ≤ x → x < top.toNat → ∃ r ∈ seg.filterMap Event.ripasDone, r.1 ≤ x ∧ x < r.2

/-- **What the function is for**: it returns, and `VAL_SUCCESS` means that the range has been
done. -/
structure RipasInitialises (env : Env) (rd base top rttAlignment : UInt64) (l : Log) : Prop where
  returns : ∃ fuel, (valHostRipasInit env rd base top valRttMaxLevel rttAlignment fuel l).isSome
  covers : ∀ fuel l', valHostRipasInit env rd base top valRttMaxLevel rttAlignment fuel l
    = some (true, l') → RipasCovered base top (own l l')

/-- The loop comes from `l` to `l'`. -/
inductive RipasComes (env : Env) (rd base top rttAlignment : UInt64) (l : Log) : Log → Prop where
  | first : RipasComes env rd base top rttAlignment l l
  | again {l₁ l₂ : Log} : RipasComes env rd base top rttAlignment l l₁ →
      ripasRound env rd base top valRttMaxLevel rttAlignment l₁ = (none, l₂) →
      RipasComes env rd base top rttAlignment l l₂

/-- **When all is well.**  Wherever the loop comes, an RTT_INIT_RIPAS that succeeds stops at `top`,
and one that fails for a missing table does not answer `top`, if the tables can be created. -/
def RipasInOneCall (env : Env) (rd base top rttAlignment : UInt64) (l : Log) : Prop :=
  ∀ l₁, RipasComes env rd base top rttAlignment l l₁ →
    ((env.smc l₁ (.rttInitRipas rd base top)).x0 = 0 →
      (env.smc l₁ (.rttInitRipas rd base top)).x1 = top) ∧
    ((env.smc l₁ (.rttInitRipas rd base top)).x0 ≠ 0 →
      (env.smc l₁ (.rttInitRipas rd base top)).x1 = top →
      (ripasRound env rd base top valRttMaxLevel rttAlignment l₁).1 = some false)

/-- The call made again right after it has succeeded is answered as before. -/
def RipasSteady (env : Env) (rd base top : UInt64) : Prop :=
  ∀ l, (env.smc l (.rttInitRipas rd base top)).x0 = 0 →
    env.smc (env.call (.rttInitRipas rd base top) l).2 (.rttInitRipas rd base top)
      = env.smc l (.rttInitRipas rd base top)

/-! ## 3. The tables -/

section Tables

variable {env : Env} {rd base ipa rttAlignment : UInt64} {start w : ℕ} {P : Event → Prop}
  {l L : Log}

theorem hasTable_of_mem {R : RmmState} {k : ℕ} {pa : UInt64}
    (h : Obj.rtt rd (entryBase (k - 1) ipa) (UInt64.ofNat k) pa ∈ R.objs) :
    hasTable R rd k ipa = true :=
  List.any_eq_true.mpr ⟨_, h, by simp [isTable]⟩

theorem hasTable_mono {R R' : RmmState} {k : ℕ} (h : ∀ o ∈ R.objs, o ∈ R'.objs)
    (ht : hasTable R rd k ipa = true) : hasTable R' rd k ipa = true := by
  obtain ⟨o, ho, htable⟩ := List.any_eq_true.mp ht
  exact List.any_eq_true.mpr ⟨o, h o ho, htable⟩

/-- The tables below the starting level and down to `m` are there. -/
def TablesTo (rd ipa : UInt64) (start m : ℕ) (L : Log) : Prop :=
  ∀ k, start < k → k ≤ m → hasTable (replay (trace L)) rd k ipa = true

/-- **One round of `val_host_create_rtt_levels`** that succeeds adds the next table. -/
theorem createRttLevel_tables {level : ℕ} (hlevel : level < 3) :
    Code.Triple (TablesTo rd ipa start level)
      (createRttLevel env rd ipa rttAlignment (UInt64.ofNat (level + 1)))
      (TablesTo rd ipa start (level + 1)) fun _ _ => True := by
  intro L hL
  unfold createRttLevel
  dsimp only
  rw [ofNat_level_pred, addrAlignDown_eq_entryBase hlevel]
  split
  · trivial
  split
  · trivial
  split
  · trivial
  · rename_i hcreate
    -- what was there stays, and the new table is there
    have hobjs : ∀ o, o ∈ (replay (trace L)).objs →
        o ∈ (replay (trace (env.rmi (.granuleDelegate (env.malloc rttAlignment pageSize L).1)
          (env.malloc rttAlignment pageSize L).2).2)).objs := by
      intro o ho
      have hmalloc : trace (env.malloc rttAlignment pageSize L).2 = trace L :=
        trace_append_other L rfl
      rw [objs_rmi, hmalloc]
      split
      · rw [RmmState.apply_objs_of_idle rfl fun _ => rfl]
        exact ho
      · exact ho
    intro k hk hkm
    rcases Nat.lt_or_ge level k with hlt | hge
    · obtain rfl : k = level + 1 := by omega
      refine @hasTable_of_mem _ _ _ _ (env.malloc rttAlignment pageSize L).1 ?_
      rw [objs_rmi, if_pos (not_not.mp hcreate)]
      exact RmmState.mem_apply_objs.mpr (Or.inr rfl)
    · refine hasTable_mono (fun o ho => ?_) (hL k hk hge)
      rw [objs_rmi, if_pos (not_not.mp hcreate)]
      exact RmmState.mem_apply_objs.mpr (Or.inl ⟨hobjs o ho, rfl⟩)

/-- **`val_host_create_rtt_levels`** that succeeds has all the tables. -/
theorem createRttLevels_tables (env : Env) (rttAlignment : UInt64) (hw : w ≤ 3) :
    Code.Triple (TablesTo rd ipa start w)
      (valHostCreateRttLevels env rd ipa (UInt64.ofNat w) 3 rttAlignment)
      (TablesTo rd ipa start 3) fun _ _ => True :=
  valHostCreateRttLevels_triple hw fun _ _ hlevel => createRttLevel_tables hlevel

end Tables

/-! ## 4. A round -/

section Round

variable {env : Env} {rd base top rttAlignment : UInt64} {start : ℕ} {l l' L : Log}

/-- A round in which RTT_INIT_RIPAS failed, and the missing tables were created. -/
structure TablesMade (env : Env) (rd base top rttAlignment : UInt64) (l l' : Log) : Prop where
  status : rmiStatus (env.smc l (.rttInitRipas rd base top)).x0 = rmiErrorRtt
  level : rmiIndex (env.smc l (.rttInitRipas rd base top)).x0 < valRttMaxLevel
  made : ∃ ipa rttLevel1 rtte,
    rttLevel1 = rmiIndex (env.smc l (.rttInitRipas rd base top)).x0 ∧
    rtte = env.smc (env.call (.rttInitRipas rd base top) l).2 (.rttReadEntry rd ipa rttLevel1) ∧
    rtte.x0 = 0 ∧
    valHostCreateRttLevels env rd base rtte.x1 valRttMaxLevel rttAlignment
      (env.call (.rttReadEntry rd ipa rttLevel1) (env.call (.rttInitRipas rd base top) l).2).2
        = (none, l')

/-- **The three kinds of a round**: the call succeeded; the tables were created; `VAL_ERROR`. -/
theorem ripasRound_cases (env : Env) (rd base top rttAlignment : UInt64) (l : Log) :
    let r := env.smc l (.rttInitRipas rd base top)
    let test := if r.x1 ≠ top then none else some true
    (r.x0 = 0 ∧ ripasRound env rd base top valRttMaxLevel rttAlignment l
        = (test, (env.call (.rttInitRipas rd base top) l).2)) ∨
      (r.x0 ≠ 0 ∧ ∃ l', TablesMade env rd base top rttAlignment l l' ∧
        ripasRound env rd base top valRttMaxLevel rttAlignment l = (test, l')) ∨
      (r.x0 ≠ 0 ∧ (ripasRound env rd base top valRttMaxLevel rttAlignment l).1 = some false) := by
  intro r test
  by_cases hmiss : rmiStatus r.x0 = rmiErrorRtt ∧ rmiIndex r.x0 < valRttMaxLevel
  · have hr : r.x0 ≠ 0 := by
      intro h0
      rw [h0] at hmiss
      exact absurd hmiss.1 (by decide)
    refine Or.inr ?_
    generalize hround : ripasRound env rd base top valRttMaxLevel rttAlignment l = res
    unfold ripasRound at hround
    dsimp only at hround
    have hmiss' : rmiStatus (env.call (.rttInitRipas rd base top) l).1.x0 = rmiErrorRtt ∧
      rmiIndex (env.call (.rttInitRipas rd base top) l).1.x0 < valRttMaxLevel := hmiss
    rw [if_pos hmiss'] at hround
    split at hround
    · subst hround
      exact Or.inr ⟨hr, rfl⟩
    rename_i hread
    split at hround
    · split at hround
      · subst hround
        exact Or.inr ⟨hr, rfl⟩
      · rename_i hmade
        subst hround
        refine Or.inl ⟨hr, _, ⟨hmiss.1, hmiss.2, _, _, _, rfl, rfl, not_not.mp hread, ?_⟩, rfl⟩
        exact Prod.ext (not_not.mp hmade) rfl
    · subst hround
      exact Or.inr ⟨hr, rfl⟩
  · have hmiss' : ¬ (rmiStatus (env.call (.rttInitRipas rd base top) l).1.x0 = rmiErrorRtt ∧
      rmiIndex (env.call (.rttInitRipas rd base top) l).1.x0 < valRttMaxLevel) := hmiss
    unfold ripasRound
    dsimp only
    rw [if_neg hmiss']
    by_cases h0 : r.x0 = 0
    · have h0' : (env.call (.rttInitRipas rd base top) l).1.x0 = 0 := h0
      rw [if_neg (not_not.mpr h0')]
      exact Or.inl ⟨h0, rfl⟩
    · have h0' : (env.call (.rttInitRipas rd base top) l).1.x0 ≠ 0 := h0
      rw [if_pos h0']
      exact Or.inr (Or.inr ⟨h0, rfl⟩)

/-- **The tables are created once**: then the walk comes down to level 3. -/
theorem TablesMade.walkLevel (h : TablesMade env rd base top rttAlignment l l')
    (hspec : SpecRipas env rd base top start) (hstart : start ≤ 3) :
    Realm.walkLevel (replay (trace l')) rd start base 3 = 3 := by
  obtain ⟨ipa, rttLevel1, rtte, hlevel1, hrtte, hread, hmade⟩ := h.made
  have hindex := hspec.missing l h.status
  have hw : Realm.walkLevel (replay (trace l)) rd start base 3 ≤ 3 := walkLevel_le
  -- the entry was read no deeper than the walk had come
  have hle : rtte.x1.toNat ≤ Realm.walkLevel (replay (trace l)) rd start base 3 := by
    have hle := hspec.readEntry (env.call (.rttInitRipas rd base top) l).2 ipa rttLevel1
      (hrtte ▸ hread)
    rw [← hrtte, hlevel1, hindex, ofNat_toNat_of_le hw] at hle
    exact hle
  have htrace : trace (env.call (.rttReadEntry rd ipa rttLevel1)
      (env.call (.rttInitRipas rd base top) l).2).2 = trace l := by
    have h₁ : trace (env.call (.rttInitRipas rd base top) l).2 = trace l := trace_append_other l rfl
    rw [← h₁]
    exact trace_append_other _ rfl
  have hreach : Reaches (replay (trace l)) rd start base
      (Realm.walkLevel (replay (trace l)) rd start base 3) := reaches_walkLevel hstart
  have hbefore : TablesTo rd base start rtte.x1.toNat (env.call (.rttReadEntry rd ipa rttLevel1)
      (env.call (.rttInitRipas rd base top) l).2).2 := by
    intro k hk hkm
    rw [htrace]
    exact hreach.2 k (Finset.mem_Ioc.mpr ⟨hk, le_trans hkm hle⟩)
  have hafter := createRttLevels_tables env rttAlignment (le_trans hle hw) _ hbefore
  rw [UInt64.ofNat_toNat] at hafter
  have hafter' : TablesTo rd base start 3 l' := by
    change Code.Exit _ _ (valHostCreateRttLevels env rd base rtte.x1 valRttMaxLevel rttAlignment
      _) at hafter
    rw [hmade] at hafter
    exact hafter
  rw [walkLevel_eq_iff hstart]
  exact ⟨hstart, fun k hk => hafter' k (Finset.mem_Ioc.mp hk).1 (Finset.mem_Ioc.mp hk).2⟩

/-- With the walk at level 3 no table is missing. -/
theorem not_tablesMade (hspec : SpecRipas env rd base top start)
    (hwalk : Realm.walkLevel (replay (trace l)) rd start base 3 = 3) :
    ¬ TablesMade env rd base top rttAlignment l l' := by
  intro h
  have hlt := h.level
  rw [hspec.missing l h.status, hwalk] at hlt
  exact absurd hlt (by decide)

end Round

/-! ## 5. Runs -/

section Runs

variable {env : Env} {rd base top rttAlignment : UInt64} {start : ℕ} {l l' L : Log}

theorem valHostRipasInit_again {n : ℕ}
    (h : ripasRound env rd base top valRttMaxLevel rttAlignment l = (none, L)) :
    valHostRipasInit env rd base top valRttMaxLevel rttAlignment (n + 1) l
      = valHostRipasInit env rd base top valRttMaxLevel rttAlignment n L := by
  rw [valHostRipasInit, h]

theorem valHostRipasInit_return {n : ℕ} {ok : Bool}
    (h : ripasRound env rd base top valRttMaxLevel rttAlignment l = (some ok, L)) :
    valHostRipasInit env rd base top valRttMaxLevel rttAlignment (n + 1) l = some (ok, L) := by
  rw [valHostRipasInit, h]

/-- Where the loop comes, it goes on as it does from there. -/
theorem RipasComes.run (h : RipasComes env rd base top rttAlignment l L) :
    ∃ k, ∀ n, valHostRipasInit env rd base top valRttMaxLevel rttAlignment (k + n) l
      = valHostRipasInit env rd base top valRttMaxLevel rttAlignment n L := by
  induction h with
  | first => exact ⟨0, fun n => by rw [Nat.zero_add]⟩
  | again _ hround ih =>
    obtain ⟨k, hk⟩ := ih
    refine ⟨k + 1, fun n => ?_⟩
    rw [Nat.add_assoc, Nat.add_comm 1 n, hk, valHostRipasInit_again hround]

/-- More rounds do no harm. -/
theorem valHostRipasInit_mono {n : ℕ} {r : Bool × Log}
    (h : valHostRipasInit env rd base top valRttMaxLevel rttAlignment n l = some r) (m : ℕ) :
    valHostRipasInit env rd base top valRttMaxLevel rttAlignment (n + m) l = some r := by
  induction n generalizing l with
  | zero => exact absurd h (by simp [valHostRipasInit])
  | succ n ih =>
    rw [Nat.add_right_comm]
    cases hround : ripasRound env rd base top valRttMaxLevel rttAlignment l with
    | mk exit L =>
      cases exit with
      | none =>
        rw [valHostRipasInit_again hround] at h ⊢
        exact ih h
      | some ok =>
        rw [valHostRipasInit_return hround] at h ⊢
        exact h

/-- A call that stops short of `top` is made again for ever. -/
theorem ripas_never_returns (hsteady : RipasSteady env rd base top)
    (h0 : (env.smc l (.rttInitRipas rd base top)).x0 = 0)
    (hshort : (env.smc l (.rttInitRipas rd base top)).x1 ≠ top) (n : ℕ) :
    valHostRipasInit env rd base top valRttMaxLevel rttAlignment n l = none := by
  induction n generalizing l with
  | zero => rfl
  | succ n ih =>
    rcases ripasRound_cases env rd base top rttAlignment l with ⟨-, hround⟩ | ⟨hne, -⟩ | ⟨hne, -⟩
    · rw [if_pos hshort] at hround
      rw [valHostRipasInit_again hround]
      refine ih ?_ ?_
      · rw [hsteady l h0]
        exact h0
      · rw [hsteady l h0]
        exact hshort
    · exact absurd h0 hne
    · exact absurd h0 hne

/-- What the RTT_INIT_RIPAS of an event has done ends below `top`. -/
def Event.RipasShort (top : UInt64) (e : Event) : Prop := ∀ r ∈ e.ripasDone, r.2 < top.toNat

/-- A round that created tables has initialised nothing. -/
theorem TablesMade.adds (h : TablesMade env rd base top rttAlignment l l') :
    Adds (fun e => e.ripasDone = none) l l' := by
  obtain ⟨ipa, rttLevel1, rtte, -, -, -, hmade⟩ := h.made
  have hne : (env.smc l (.rttInitRipas rd base top)).x0 ≠ 0 := by
    intro h0
    have hstatus := h.status
    rw [h0] at hstatus
    exact absurd hstatus (by decide)
  have hcall : Adds (fun e => e.ripasDone = none) l (env.call (.rttInitRipas rd base top) l).2 :=
    (Adds.refl _ l).snoc (if_neg hne)
  have hread := hcall.call env (c := .rttReadEntry rd ipa rttLevel1) fun _ => rfl
  have hexit := createRttLevels_adds (P := fun e => e.ripasDone = none) (fun _ _ _ => rfl)
    (fun _ _ => rfl) env rd base rtte.x1 valRttMaxLevel rttAlignment _ hread
  rw [hmade] at hexit
  exact hexit

theorem TablesMade.short (h : TablesMade env rd base top rttAlignment l l') :
    Adds (Event.RipasShort top) l l' := by
  refine h.adds.mono fun e he r hr => ?_
  rw [he] at hr
  exact absurd hr (by simp)

theorem ripasDone_of_success (h0 : (env.smc l (.rttInitRipas rd base top)).x0 = 0) :
    Event.ripasDone (.smc (.rttInitRipas rd base top) (env.smc l (.rttInitRipas rd base top)))
      = some (base.toNat, (env.smc l (.rttInitRipas rd base top)).x1.toNat) := if_pos h0

/-- As long as the loop goes on, `top` has not been reached. -/
theorem RipasComes.short (h : RipasComes env rd base top rttAlignment l L)
    (hspec : SpecRipas env rd base top start) : Adds (Event.RipasShort top) l L := by
  induction h with
  | first => exact Adds.refl _ l
  | @again l₁ l₂ _ hround ih =>
    refine ih.trans ?_
    rcases ripasRound_cases env rd base top rttAlignment l₁ with
      ⟨h0, hcase⟩ | ⟨-, l', hmade, hcase⟩ | ⟨-, hcase⟩
    · rw [hround] at hcase
      obtain ⟨htest, rfl⟩ := Prod.mk.inj hcase
      refine (Adds.refl _ _).snoc ?_
      have hshort : (env.smc l₁ (.rttInitRipas rd base top)).x1 ≠ top := by
        by_contra heq
        rw [if_neg (not_not.mpr heq)] at htest
        exact absurd htest (by simp)
      intro r hr
      rw [ripasDone_of_success h0] at hr
      rw [← Option.some.inj hr]
      refine lt_of_le_of_ne ?_ fun heq => hshort (UInt64.toNat_inj.mp heq)
      exact le_trans (hspec.success _ h0).2 (min_le_left _ _)
    · rw [hround] at hcase
      obtain ⟨-, rfl⟩ := Prod.mk.inj hcase
      exact hmade.short
    · rw [hround] at hcase
      exact absurd hcase (by simp)

/-- What ends below `top` does not cover the range. -/
theorem not_covered_of_short (hlt : base.toNat < top.toNat) (h : Adds (Event.RipasShort top) l L) :
    ¬ RipasCovered base top (own l L) := by
  intro hcov
  obtain ⟨seg, rfl, hseg⟩ := h
  rw [own_append] at hcov
  obtain ⟨r, hr, -, hlast⟩ := hcov (top.toNat - 1) (by omega) (by omega)
  obtain ⟨e, he, hdone⟩ := List.mem_filterMap.mp hr
  have hend := hseg e he r hdone
  omega

/-- **A run that ends with a call that reached `top`** has covered the range. -/
theorem ripasInit_covers (hall : RipasInOneCall env rd base top rttAlignment l)
    (hspec : SpecRipas env rd base top start) {n : ℕ}
    (hcomes : RipasComes env rd base top rttAlignment l L)
    (h : valHostRipasInit env rd base top valRttMaxLevel rttAlignment n L = some (true, l')) :
    RipasCovered base top (own l l') := by
  induction n generalizing L with
  | zero => exact absurd h (by simp [valHostRipasInit])
  | succ n ih =>
    cases hround : ripasRound env rd base top valRttMaxLevel rttAlignment L with
    | mk exit L' =>
      cases exit with
      | none =>
        rw [valHostRipasInit_again hround] at h
        exact ih (hcomes.again hround) h
      | some ok =>
        rw [valHostRipasInit_return hround] at h
        obtain ⟨rfl, rfl⟩ := Prod.mk.inj (Option.some.inj h)
        obtain ⟨hfull, hnone⟩ := hall L hcomes
        rcases ripasRound_cases env rd base top rttAlignment L with
          ⟨h0, hcase⟩ | ⟨hne, l₂, -, hcase⟩ | ⟨hne, hcase⟩
        · -- the last call has done it all
          rw [hround] at hcase
          obtain ⟨-, rfl⟩ := Prod.mk.inj hcase
          obtain ⟨seg, rfl, -⟩ := hcomes.short hspec
          have hown : own l (env.call (.rttInitRipas rd base top) (l ++ seg)).2
              = seg ++ [.smc (.rttInitRipas rd base top)
                (env.smc (l ++ seg) (.rttInitRipas rd base top))] := by
            rw [← own_append l (seg ++ _), ← List.append_assoc]
            rfl
          rw [hown]
          intro x hx hxt
          refine ⟨(base.toNat, top.toNat), List.mem_filterMap.mpr ⟨_, List.mem_append_right _
            List.mem_cons_self, ?_⟩, hx, hxt⟩
          rw [ripasDone_of_success h0, hfull h0]
        · -- the test of a call that failed
          rw [hround] at hcase
          have htop : (env.smc L (.rttInitRipas rd base top)).x1 = top := by
            by_contra hne'
            rw [if_pos hne'] at hcase
            exact absurd (Prod.mk.inj hcase).1 (by simp)
          have hfalse := hnone hne htop
          rw [hround] at hfalse
          exact absurd hfalse (by simp)
        · rw [hround] at hcase
          exact absurd hcase (by simp)

/-- **If all is well, two rounds are enough.** -/
theorem ripasInit_returns (hall : RipasInOneCall env rd base top rttAlignment l)
    (hspec : SpecRipas env rd base top start) (hstart : start ≤ 3) :
    (valHostRipasInit env rd base top valRttMaxLevel rttAlignment 2 l).isSome := by
  have hlast : ∀ {L n}, RipasComes env rd base top rttAlignment l L →
      (∀ L', ¬ TablesMade env rd base top rttAlignment L L') →
      (valHostRipasInit env rd base top valRttMaxLevel rttAlignment (n + 1) L).isSome := by
    intro L n hcomes hno
    rcases ripasRound_cases env rd base top rttAlignment L with
      ⟨h0, hcase⟩ | ⟨-, l', hmade, -⟩ | ⟨-, hcase⟩
    · rw [(hall L hcomes).1 h0, if_neg (not_not.mpr rfl)] at hcase
      rw [valHostRipasInit_return hcase]
      rfl
    · exact absurd hmade (hno l')
    · rw [valHostRipasInit_return (Prod.ext hcase rfl)]
      rfl
  rcases ripasRound_cases env rd base top rttAlignment l with
    ⟨h0, -⟩ | ⟨hne, l', hmade, hcase⟩ | ⟨-, hcase⟩
  · refine hlast .first fun L' hmade => ?_
    have hstatus := hmade.status
    rw [h0] at hstatus
    exact absurd hstatus (by decide)
  · by_cases htop : (env.smc l (.rttInitRipas rd base top)).x1 = top
    · have hfalse := (hall l .first).2 hne htop
      rw [valHostRipasInit_return (Prod.ext hfalse rfl)]
      rfl
    · rw [if_pos htop] at hcase
      rw [valHostRipasInit_again hcase]
      exact hlast (RipasComes.first.again hcase) fun L' =>
        not_tablesMade hspec (hmade.walkLevel hspec hstart)
  · rw [valHostRipasInit_return (Prod.ext hcase rfl)]
    rfl

/-- **When `val_host_ripas_init` returns and has done what it says.**  It does if no call stops
short of `top` and no failed one answers `top`; and for an RMM that answers a call the same way
when it is made again, only then. -/
theorem ripas_init_covers_iff (hspec : SpecRipas env rd base top start) (hstart : start ≤ 3)
    (hlt : base.toNat < top.toNat) (l : Log) :
    (RipasInOneCall env rd base top rttAlignment l →
        RipasInitialises env rd base top rttAlignment l) ∧
      (RipasSteady env rd base top → RipasInitialises env rd base top rttAlignment l →
        RipasInOneCall env rd base top rttAlignment l) := by
  constructor
  · intro hall
    exact ⟨⟨2, ripasInit_returns hall hspec hstart⟩, fun fuel l' h =>
      ripasInit_covers hall hspec .first h⟩
  · intro hsteady hok L hcomes
    obtain ⟨k, hk⟩ := hcomes.run
    constructor
    · intro h0
      by_contra hshort
      obtain ⟨n, hn⟩ := hok.returns
      obtain ⟨r, hr⟩ := Option.isSome_iff_exists.mp hn
      have hrun := valHostRipasInit_mono hr k
      rw [Nat.add_comm, hk, ripas_never_returns hsteady h0 hshort] at hrun
      exact absurd hrun (by simp)
    · intro hne htop
      rcases ripasRound_cases env rd base top rttAlignment L with
        ⟨h0, -⟩ | ⟨-, l', hmade, hcase⟩ | ⟨-, hcase⟩
      · exact absurd h0 hne
      · -- the function would return `VAL_SUCCESS` with nothing done up to `top`
        rw [if_neg (not_not.mpr htop)] at hcase
        have hrun := hk 1
        rw [valHostRipasInit_return hcase] at hrun
        exact absurd (hok.covers _ _ hrun)
          (not_covered_of_short hlt ((hcomes.short hspec).trans hmade.short))
      · exact hcase

end Runs

/-! ## 6. Inside one table, and across -/

section Reference

variable {rd base top rttAlignment : UInt64} {start width : ℕ} {heap : HeapState}

/-- The answers of the reference RMM. -/
theorem referenceRmm_initRipas (l : Log) :
    (heapEnv heap (referenceRmm rd start width)).smc l (.rttInitRipas rd base top)
      = if walkLevel (replay (trace l)) rd start base 3 = 3 then
          ⟨0, UInt64.ofNat (min top.toNat ((entryBase 2 base).toNat + 2 ^ entryShift 2)), 0⟩
        else ⟨rttError (walkLevel (replay (trace l)) rd start base 3), 0, 0⟩ := rfl

theorem toNat_min_top (top : UInt64) (n : ℕ) :
    (UInt64.ofNat (min top.toNat n)).toNat = min top.toNat n :=
  UInt64.toNat_ofNat_of_lt' (lt_of_le_of_lt (min_le_left _ _) top.toNat_lt)

theorem referenceRmm_ripas (hlt : base.toNat < top.toNat) :
    SpecRipas (heapEnv heap (referenceRmm rd start width)) rd base top start where
  success := by
    intro l h0
    rw [referenceRmm_initRipas] at h0 ⊢
    split at h0
    · rename_i hwalk
      rw [if_pos hwalk, toNat_min_top]
      refine ⟨lt_min hlt ?_, le_refl _⟩
      rw [toNat_entryBase]
      exact Nat.lt_div_mul_add (Nat.two_pow_pos _)
    · exact absurd h0 (rttError_fields walkLevel_le).1
  missing := by
    intro l hstatus
    rw [referenceRmm_initRipas] at hstatus ⊢
    split at hstatus
    · have hzero : rmiStatus 0 = rmiErrorRtt := hstatus
      exact absurd hzero (by decide)
    · rename_i hwalk
      rw [if_neg hwalk]
      exact (rttError_fields walkLevel_le).2.2
  readEntry := by
    intro l ipa level _
    have hle : walkLevel (replay (trace l)) rd start ipa level.toNat ≤ level.toNat := walkLevel_le
    have hnat : (UInt64.ofNat (walkLevel (replay (trace l)) rd start ipa level.toNat)).toNat
        = walkLevel (replay (trace l)) rd start ipa level.toNat :=
      UInt64.toNat_ofNat_of_lt' (lt_of_le_of_lt hle level.toNat_lt)
    exact le_of_eq_of_le hnat hle

theorem referenceRmm_steady :
    RipasSteady (heapEnv heap (referenceRmm rd start width)) rd base top := by
  intro l _
  have htrace : trace ((heapEnv heap (referenceRmm rd start width)).call
      (.rttInitRipas rd base top) l).2 = trace l := trace_append_other l rfl
  rw [referenceRmm_initRipas, referenceRmm_initRipas, htrace]

/-- **Inside one table** every call of the reference RMM that succeeds stops at `top`. -/
theorem referenceRmm_inOneCall (hlt : base.toNat < top.toNat)
    (hin : top.toNat ≤ (entryBase 2 base).toNat + 2 ^ entryShift 2) (l : Log) :
    RipasInOneCall (heapEnv heap (referenceRmm rd start width)) rd base top rttAlignment l := by
  intro L _
  rw [referenceRmm_initRipas]
  split
  · refine ⟨fun _ => ?_, fun hne => absurd rfl hne⟩
    rw [min_eq_left hin, UInt64.ofNat_toNat]
  · refine ⟨fun h0 => absurd h0 (rttError_fields walkLevel_le).1, fun _ htop => ?_⟩
    rw [← htop] at hlt
    exact absurd hlt (Nat.not_lt_zero _)

end Reference

/-- A realm with nothing below its starting level. -/
def ripasRealm : Log :=
  issue specEnv [.granuleDelegate 0x88500000, .realmCreate 0x88500000 0]

theorem ripas_init_covers_one_table :
    RipasInitialises specEnv 0x88500000 0x1000 0x200000 pageSize ripasRealm :=
  (ripas_init_covers_iff (referenceRmm_ripas (by decide)) (by decide : 1 ≤ 3) (by decide) _).1
    (referenceRmm_inOneCall (by decide) (by decide) _)

/-- A realm with level 3 tables for its first four megabytes. -/
def ripasTables : Log :=
  issue specEnv [.granuleDelegate 0x88500000, .realmCreate 0x88500000 0,
    .granuleDelegate 0x88501000, .rttCreate 0x88500000 0x88501000 0 2,
    .granuleDelegate 0x88502000, .rttCreate 0x88500000 0x88502000 0 3,
    .granuleDelegate 0x88503000, .rttCreate 0x88500000 0x88503000 0x200000 3]

/-- **Across two tables** the function does not return: two pages, one on either side. -/
theorem ripas_init_across_tables :
    SpecRipas specEnv 0x88500000 0x1FF000 0x201000 1 ∧
      (accepted (trace ripasTables)).length = 8 ∧
      (∀ fuel, valHostRipasInit specEnv 0x88500000 0x1FF000 0x201000 valRttMaxLevel pageSize fuel
        ripasTables = none) ∧
      ¬ RipasInitialises specEnv 0x88500000 0x1FF000 0x201000 pageSize ripasTables := by
  have hnever : ∀ fuel, valHostRipasInit specEnv 0x88500000 0x1FF000 0x201000 valRttMaxLevel
      pageSize fuel ripasTables = none :=
    ripas_never_returns referenceRmm_steady (by decide +kernel) (by decide +kernel)
  refine ⟨referenceRmm_ripas (by decide), by decide +kernel, hnever, fun h => ?_⟩
  obtain ⟨fuel, hsome⟩ := h.returns
  rw [hnever] at hsome
  exact absurd hsome (by simp)

end RmmAcs.Realm
