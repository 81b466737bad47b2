/-
# Mapping protected memory: `val_host_map_protected_data` and its sibling

A protected range is mapped page by page: delegate the page, create the data granule at its IPA,
and where the RMM answers that a table is missing, create the missing tables and try again.  When
something fails the function is to take back what it has done so far.

The two functions, with and without contents, are one text but for the command that creates the
data granule, so they are one definition with that command as a parameter.  The question of this
file is what a FAILED call leaves behind.  The rollback starts at the page that failed and counts
down to page 1: page 0 is never given back, and two of the failures do not reach the rollback at
all.  Hence a failed call has rolled back only if it had nothing to roll back
(`failed_map_rolled_back`).
-/
import RmmAcs.Lib.Goto
import RmmAcs.Realm.Env

namespace RmmAcs.Realm

open RmmAcs Lib Rmm

/-! ## 1. Levels and alignment -/

/-- `ADDR_IS_ALIGNED(a, b)`. -/
def addrIsAligned (a b : UInt64) : Bool := (a &&& (b - 1)) == 0

/-- `ADDR_ALIGN_DOWN(a, b)`. -/
def addrAlignDown (a b : UInt64) : UInt64 := a &&& ~~~(b - 1)

/-- `VAL_RTT_MAX_LEVEL`. -/
def valRttMaxLevel : UInt64 := 3

/-- `VAL_RTT_LEVEL_SHIFT(level)`. -/
def valRttLevelShift (level : UInt64) : UInt64 := (12 - 3) * (4 - level) + 3

/-- `VAL_RTT_L2_BLOCK_SIZE`. -/
def valRttL2BlockSize : UInt64 := 1 <<< valRttLevelShift 2

/-- `val_host_rtt_level_mapsize`. -/
def valHostRttLevelMapsize (rttLevel : UInt64) : UInt64 :=
  if rttLevel > valRttMaxLevel then pageSize else 1 <<< valRttLevelShift rttLevel

/-- `IPA_WIDTH_DEFAULT` of the FVP target. -/
def ipaWidthDefault : UInt64 := 40

/-- `VAL_BIT_MASK_ULL(msb, lsb)`. -/
def valBitMaskUll (msb lsb : UInt64) : UInt64 :=
  ((~~~(0 : UInt64)) >>> (63 - msb)) &&& ((~~~(0 : UInt64)) <<< lsb)

/-- `val_host_addr_align_to_level`. -/
def valHostAddrAlignToLevel (addr level : UInt64) : UInt64 :=
  let levels := valRttMaxLevel - level
  let lsb := levels * 9 + 12
  let msb := ipaWidthDefault - 1
  addr &&& valBitMaskUll msb lsb

/-- `RMI_STATUS(ret)`. -/
def rmiStatus (ret : UInt64) : UInt64 := ret &&& 0xFF

/-- `RMI_INDEX(ret)`. -/
def rmiIndex (ret : UInt64) : UInt64 := (ret >>> 8) &&& 0xFF

/-- `RMI_ERROR_RTT`. -/
def rmiErrorRtt : UInt64 := 4

/-- `RMI_UNASSIGNED`. -/
def rmiUnassigned : UInt64 := 0

/-! ## 2. The functions -/

/-- One round of `val_host_create_rtt_levels`: the table of a level, `some ()` for `VAL_ERROR`.
The granule of a table that could be delegated but not created is undelegated again. -/
def createRttLevel (env : Env) (rd ipa rttAlignment level : UInt64) : Code Log Unit := fun l =>
  let (rtt, l) := env.malloc rttAlignment pageSize l
  if rtt = 0 then (some (), l)
  else
    let (ret, l) := env.rmi (.granuleDelegate rtt) l
    if ret ≠ 0 then (some (), l)
    else
      let rttIpa := addrAlignDown ipa (valHostRttLevelMapsize (level - 1))
      let (ret, l) := env.rmi (.rttCreate rd rtt rttIpa level) l
      if ret ≠ 0 then (some (), (env.rmi (.granuleUndelegate rtt) l).2)
      else (none, l)

/-- `val_host_create_rtt_levels`. -/
def valHostCreateRttLevels (env : Env) (rd ipa rttLevel rttMaxLevel rttAlignment : UInt64) :
    Code Log Unit := fun l =>
  if rttLevel > rttMaxLevel then (some (), l)
  else
    -- `rtt_level++ < rtt_max_level`: the body sees the level already counted up
    Code.loop (fun i => createRttLevel env rd ipa rttAlignment (rttLevel + UInt64.ofNat i + 1))
      (rttMaxLevel - rttLevel).toNat l

/-- The variables of the loop, and the log. -/
structure MapState where
  phys : UInt64
  ipa : UInt64
  srcPa : UInt64
  size : UInt64
  ret : UInt64
  /-- `rtte.walk_level` and `rtte.state`. -/
  walkLevel : UInt64
  state : UInt64
  log : Log
deriving DecidableEq, Repr

/-- How the loop is left: `return VAL_ERROR`, or `goto error`. -/
inductive MapExit where
  | ret
  | error
deriving DecidableEq, Repr

namespace MapState

/-- A wrapper whose status goes to `ret`. -/
def rmi (env : Env) (c : Cmd) (s : MapState) : MapState :=
  let (ret, l) := env.rmi c s.log
  { s with ret := ret, log := l }

/-- `val_host_rmi_rtt_read_entry`. -/
def readEntry (env : Env) (rd ipa level : UInt64) (s : MapState) : MapState :=
  let (r, l) := env.call (.rttReadEntry rd ipa level) s.log
  { s with ret := r.x0, walkLevel := r.x1, state := r.x2, log := l }

/-- The next page. -/
def advance (s : MapState) : MapState :=
  { s with
    phys := s.phys + pageSize, srcPa := s.srcPa + pageSize, ipa := s.ipa + pageSize,
    size := s.size + pageSize }

/-- The page before. -/
def retreat (s : MapState) : MapState :=
  { s with phys := s.phys - pageSize, size := s.size - pageSize, ipa := s.ipa - pageSize }

@[simp] theorem advance_log (s : MapState) : s.advance.log = s.log := by simp only [advance]

theorem advance_srcPa (s : MapState) : s.advance.srcPa = s.srcPa + pageSize := by
  simp only [advance]

@[simp] theorem retreat_log (s : MapState) : s.retreat.log = s.log := by simp only [retreat]

end MapState

section Functions

variable (env : Env) (rd : UInt64) (create : MapState → Cmd)

/-- `if (ret) goto ..` -/
def exitOnError (e : MapExit) : Code MapState MapExit :=
  Code.guarded (fun s => s.ret != 0) (Code.jump e)

/-- The call of `val_host_create_rtt_levels`: the walk level is cut to 32 bits. -/
def createMissing (mapLevel : UInt64) : Code MapState MapExit := fun s =>
  match valHostCreateRttLevels env rd s.ipa s.walkLevel.toUInt32.toUInt64 mapLevel pageSize s.log
  with
  | (some (), l) => (some .error, { s with ret := 1, log := l })
  | (none, l) => (none, { s with ret := 0, log := l })

/-- `Create missing RTT levels and retry data create again`. -/
def retry (mapLevel : UInt64) : Code MapState MapExit :=
  Code.block
    [Code.act fun s =>
        s.readEntry env rd (valHostAddrAlignToLevel s.ipa (rmiIndex s.ret)) (rmiIndex s.ret),
      exitOnError .ret,
      Code.guarded (fun s => s.state == rmiUnassigned)
        (Code.block [createMissing env rd mapLevel, Code.act fun s => s.rmi env (create s)])]

/-- The body of the loop: one page. -/
def mapPage (mapLevel : UInt64) : Code MapState MapExit :=
  Code.block
    [Code.act fun s => s.rmi env (.granuleDelegate s.phys),
      exitOnError .ret,
      Code.act fun s => s.rmi env (create s),
      Code.guarded (fun s => rmiStatus s.ret == rmiErrorRtt) (retry env rd create mapLevel),
      exitOnError .error,
      Code.act MapState.advance]

/-- The body of the rollback: the statuses are only logged. -/
def unmapPage : Code MapState MapExit :=
  Code.act fun s => ((s.rmi env (.dataDestroy rd s.ipa)).rmi env (.granuleUndelegate s.phys)).retreat

/-- `error:` -/
def rollback : Code MapState MapExit := fun s =>
  Code.whileLoop (fun s => s.size > 0) (unmapPage env rd) (s.size / pageSize).toNat s

/-- The level of a mapping of this size, if there is one. -/
def mapLevel (rttMapSize : UInt64) : Option UInt64 :=
  if rttMapSize = pageSize then some 3
  else if rttMapSize = valRttL2BlockSize then some 2
  else none

/-- What the two functions below have in common; `true` is `VAL_SUCCESS`. -/
def mapProtected (targetPa ipa rttMapSize srcPa : UInt64) (l : Log) : Bool × Log :=
  if !addrIsAligned ipa rttMapSize then (false, l)
  else
    match mapLevel rttMapSize with
    | none => (false, l)
    | some level =>
      match Code.whileLoop (fun s => s.size < rttMapSize) (mapPage env rd create level)
          (rttMapSize / pageSize).toNat ⟨targetPa, ipa, srcPa, 0, 0, 0, 0, l⟩ with
      | (none, s) => (true, s.log)
      | (some .ret, s) => (false, s.log)
      | (some .error, s) => (false, (rollback env rd s).2.log)

/-- `RMI_NO_MEASURE_CONTENT`. -/
def rmiNoMeasureContent : UInt64 := 0

/-- `val_host_map_protected_data`. -/
def valHostMapProtectedData (targetPa ipa rttMapSize srcPa : UInt64) : Log → Bool × Log :=
  mapProtected env rd (fun s => .dataCreate rd s.phys s.ipa s.srcPa rmiNoMeasureContent)
    targetPa ipa rttMapSize srcPa

/-- `val_host_map_protected_data_unknown`: no source, and so no contents. -/
def valHostMapProtectedDataUnknown (targetPa ipa rttMapSize : UInt64) : Log → Bool × Log :=
  mapProtected env rd (fun s => .dataCreateUnknown rd s.phys s.ipa) targetPa ipa rttMapSize 0

end Functions

/-! ## 3. What a failed call holds on to -/

section Rollback

variable {env : Env} {rd : UInt64} {create : MapState → Cmd} {l₀ : Log} {a : UInt64}

/-- Creating tables gives back only granules it delegated itself, so no granule held before. -/
theorem createRttLevel_holds (henv : env.Legal) (rd ipa rttAlignment level : UInt64) :
    Code.Triple (Holds l₀ a) (createRttLevel env rd ipa rttAlignment level) (Holds l₀ a)
      fun _ => Holds l₀ a := by
  intro l hl
  unfold createRttLevel
  dsimp only
  have h₁ := hl.malloc env rttAlignment pageSize
  split
  · exact h₁
  · have h₂ := h₁.rmi env (c := .granuleDelegate (env.malloc rttAlignment pageSize l).1) (by simp)
    split
    · exact h₂
    · rename_i hdel
      have hne := h₁.ne_of_delegate henv (not_not.mp hdel)
      split
      · exact (h₂.rmi env (by simp)).rmi env (by simpa using hne)
      · exact h₂.rmi env (by simp)

theorem valHostCreateRttLevels_holds (henv : env.Legal)
    (rd ipa rttLevel rttMaxLevel rttAlignment : UInt64) :
    Code.Triple (Holds l₀ a) (valHostCreateRttLevels env rd ipa rttLevel rttMaxLevel rttAlignment)
      (Holds l₀ a) fun _ => Holds l₀ a := by
  intro l hl
  unfold valHostCreateRttLevels
  split
  · exact hl
  · exact Code.triple_loop (fun i _ => createRttLevel_holds henv rd ipa rttAlignment _) l hl

/-- All `val_host_create_rtt_levels` adds to the log are requests for memory and commands. -/
theorem createRttLevels_adds {P : Event → Prop} {l : Log}
    (hP : ∀ alignment size addr, P (.alloc alignment size addr))
    (hP' : ∀ c r, P (.smc (.rmi c) r)) (env : Env) (rd ipa rttLevel rttMaxLevel rttAlignment : UInt64) :
    Code.Triple (Adds P l) (valHostCreateRttLevels env rd ipa rttLevel rttMaxLevel rttAlignment)
      (Adds P l) fun _ => Adds P l := by
  intro L hL
  unfold valHostCreateRttLevels
  split
  · exact hL
  refine Code.triple_loop (I := fun _ => Adds P l) (fun i _ L hL => ?_) L hL
  have hmalloc := hL.malloc env rttAlignment pageSize (hP _ _)
  have hdel := hmalloc.rmi env (hP' (.granuleDelegate (env.malloc rttAlignment pageSize L).1))
  unfold createRttLevel
  dsimp only
  split
  · exact hmalloc
  split
  · exact hdel
  split
  · exact (hdel.rmi env (hP' _)).rmi env (hP' _)
  · exact hdel.rmi env (hP' _)

/-- The variables in round `k`. -/
structure MapState.At (targetPa ipa : UInt64) (k : ℕ) (s : MapState) : Prop where
  phys : s.phys = targetPa + UInt64.ofNat (4096 * k)
  ipa : s.ipa = ipa + UInt64.ofNat (4096 * k)
  size : s.size = UInt64.ofNat (4096 * k)

theorem MapState.At.advance {targetPa ipa : UInt64} {k : ℕ} {s : MapState}
    (h : s.At targetPa ipa k) : s.advance.At targetPa ipa (k + 1) := by
  have hk : UInt64.ofNat (4096 * (k + 1)) = UInt64.ofNat (4096 * k) + pageSize := by
    rw [Nat.mul_add, UInt64.ofNat_add]
    rfl
  refine ⟨?_, ?_, ?_⟩
  · rw [hk, ← add_assoc, ← h.phys]
    rfl
  · rw [hk, ← add_assoc, ← h.ipa]
    rfl
  · rw [hk, ← h.size]
    rfl

theorem MapState.At.retreat {targetPa ipa : UInt64} {k : ℕ} {s : MapState}
    (h : s.At targetPa ipa (k + 1)) : s.retreat.At targetPa ipa k := by
  have hk : UInt64.ofNat (4096 * (k + 1)) = UInt64.ofNat (4096 * k) + pageSize := by
    rw [Nat.mul_add, UInt64.ofNat_add]
    rfl
  refine ⟨?_, ?_, ?_⟩
  · change s.phys - pageSize = _
    rw [h.phys, hk, ← add_assoc, add_sub_cancel_right]
  · change s.ipa - pageSize = _
    rw [h.ipa, hk, ← add_assoc, add_sub_cancel_right]
  · change s.size - pageSize = _
    rw [h.size, hk, add_sub_cancel_right]

/-- In round `k`, with the granule at `a` held. -/
def HeldAt (l₀ : Log) (a targetPa ipa : UInt64) (k : ℕ) (s : MapState) : Prop :=
  s.At targetPa ipa k ∧ Holds l₀ a s.log

variable {targetPa ipa : UInt64} {k : ℕ}

theorem HeldAt.rmi {s : MapState} (h : HeldAt l₀ a targetPa ipa k s) (env : Env) {c : Cmd}
    (hc : c ≠ .granuleUndelegate a) : HeldAt l₀ a targetPa ipa k (s.rmi env c) :=
  ⟨⟨h.1.phys, h.1.ipa, h.1.size⟩, h.2.rmi env hc⟩

theorem exitOnError_triple {P : MapState → Prop} (e : MapExit) :
    Code.Triple P (exitOnError e) P fun _ => P :=
  (Code.triple_jump fun _ h => h.1).guarded fun _ h _ => h

theorem createMissing_held (henv : env.Legal) (level : UInt64) :
    Code.Triple (HeldAt l₀ a targetPa ipa k) (createMissing env rd level)
      (HeldAt l₀ a targetPa ipa k) fun _ => HeldAt l₀ a targetPa ipa k := by
  intro s hs
  have hlog : Code.Exit (Holds l₀ a) (fun _ => Holds l₀ a) (valHostCreateRttLevels env rd s.ipa
      s.walkLevel.toUInt32.toUInt64 level pageSize s.log) :=
    valHostCreateRttLevels_holds henv _ _ _ _ _ s.log hs.2
  unfold createMissing
  split
  · rename_i l hl
    rw [hl] at hlog
    exact ⟨⟨hs.1.phys, hs.1.ipa, hs.1.size⟩, hlog⟩
  · rename_i l hl
    rw [hl] at hlog
    exact ⟨⟨hs.1.phys, hs.1.ipa, hs.1.size⟩, hlog⟩

theorem retry_held (henv : env.Legal) (hcreate : ∀ s, create s ≠ .granuleUndelegate a)
    (level : UInt64) :
    Code.Triple (HeldAt l₀ a targetPa ipa k) (retry env rd create level)
      (HeldAt l₀ a targetPa ipa k) fun _ => HeldAt l₀ a targetPa ipa k := by
  refine Code.Triple.cons (R := HeldAt l₀ a targetPa ipa k) (Code.triple_act ?_)
    ((exitOnError_triple .ret).cons (Code.Triple.cons ?_ Code.triple_nil))
  · exact fun s hs => ⟨⟨hs.1.phys, hs.1.ipa, hs.1.size⟩, hs.2.append rfl⟩
  · refine Code.Triple.guarded ?_ fun s hs _ => hs
    refine Code.Triple.cons ((createMissing_held henv level).conseq (fun _ h => h.1)
      (fun _ h => h) fun _ _ h => h) (Code.Triple.cons (Code.triple_act ?_) Code.triple_nil)
    exact fun s hs => hs.rmi env (hcreate s)

/-- **The rest of a page**, once its granule has been asked for: what is held stays held, however
the page ends. -/
theorem mapPage_rest_held (henv : env.Legal) (hcreate : ∀ s, create s ≠ .granuleUndelegate a)
    (level : UInt64) :
    Code.Triple (HeldAt l₀ a targetPa ipa k)
      (Code.block
        [exitOnError .ret, Code.act fun s => s.rmi env (create s),
          Code.guarded (fun s => rmiStatus s.ret == rmiErrorRtt) (retry env rd create level),
          exitOnError .error, Code.act MapState.advance])
      (HeldAt l₀ a targetPa ipa (k + 1)) fun _ => HeldAt l₀ a targetPa ipa k := by
  refine (exitOnError_triple .ret).cons (Code.Triple.cons (R := HeldAt l₀ a targetPa ipa k)
    (Code.triple_act fun s hs => hs.rmi env (hcreate s)) (Code.Triple.cons ?_
      ((exitOnError_triple .error).cons (Code.Triple.cons (Code.triple_act ?_) Code.triple_nil))))
  · exact ((retry_held henv hcreate level).conseq (fun _ h => h.1) (fun _ h => h)
      fun _ _ h => h).guarded fun _ h _ => h
  · intro s hs
    refine ⟨hs.1.advance, ?_⟩
    rw [MapState.advance_log]
    exact hs.2

/-- **A page**, after a first page whose granule the RMM delegated. -/
theorem mapPage_held (rd : UInt64) (henv : env.Legal) (hcreate : ∀ s, create s ≠ .granuleUndelegate targetPa)
    (hfirst : (env.smc l₀ (.rmi (.granuleDelegate targetPa))).x0 = 0) (level : UInt64) (k : ℕ) :
    Code.Triple
      (fun s => s.At targetPa ipa k ∧
        if k = 0 then s.log = l₀ else Holds l₀ targetPa s.log)
      (mapPage env rd create level)
      (fun s => s.At targetPa ipa (k + 1) ∧
        if k + 1 = 0 then s.log = l₀ else Holds l₀ targetPa s.log)
      fun _ => HeldAt l₀ targetPa targetPa ipa k := by
  refine Code.Triple.cons (R := HeldAt l₀ targetPa targetPa ipa k) (Code.triple_act ?_)
    ((mapPage_rest_held henv hcreate level).conseq (fun _ h => h) (fun s hs => ?_) fun _ _ h => h)
  · rintro s ⟨hat, hlog⟩
    refine ⟨⟨hat.phys, hat.ipa, hat.size⟩, ?_⟩
    by_cases hk : k = 0
    · -- the first page: nothing is held yet, and `phys` is `target_pa`
      rw [if_pos hk] at hlog
      have hphys : s.phys = targetPa := by rw [hat.phys, hk]; simp
      rw [hphys]
      change Holds l₀ targetPa (env.rmi _ s.log).2
      rw [hlog]
      exact Holds.delegate hfirst
    · rw [if_neg hk] at hlog
      exact hlog.rmi env (by simp)
  · rw [if_neg (Nat.succ_ne_zero k)]
    exact hs

theorem toNat_offset {k : ℕ} (hk : k ≤ 512) : (UInt64.ofNat (4096 * k)).toNat = 4096 * k :=
  UInt64.toNat_ofNat_of_lt' (by simp only [UInt64.size]; omega)

/-- The pages are told apart by their offsets. -/
theorem offset_ne {k : ℕ} (h0 : 0 < k) (hk : k ≤ 512) (a : UInt64) :
    a + UInt64.ofNat (4096 * k) ≠ a := by
  intro h
  have hz : UInt64.ofNat (4096 * k) = 0 := by simpa using h
  have hz' := congrArg UInt64.toNat hz
  rw [toNat_offset hk, UInt64.toNat_zero] at hz'
  omega

/-- **The rollback never reaches page 0**: it undelegates the pages `k`, .., 1. -/
theorem rollback_held {k : ℕ} (hk : k ≤ 512) {s : MapState}
    (hs : HeldAt l₀ targetPa targetPa ipa k s) :
    Holds l₀ targetPa (rollback env rd s).2.log := by
  have htri : Code.Triple (HeldAt l₀ targetPa targetPa ipa (k - 0))
      (Code.whileLoop (fun s => s.size > 0) (unmapPage env rd) k)
      (fun s => HeldAt l₀ targetPa targetPa ipa (k - k) s ∧ decide (s.size > 0) = false)
      fun (_ : MapExit) _ => False := by
    refine Code.triple_whileLoop (I := fun i => HeldAt l₀ targetPa targetPa ipa (k - i)) ?_ ?_
    · intro i hi s hs
      rw [hs.1.size]
      by_cases hlt : i < k
      · simp only [hlt, decide_true, decide_eq_true_eq, gt_iff_lt, UInt64.lt_iff_toNat_lt]
        rw [toNat_offset (by omega), UInt64.toNat_zero]
        omega
      · have hik : k - i = 0 := by omega
        simp [hik, hlt]
    · intro i hi
      refine Code.triple_act fun s hs => ?_
      have hsucc : k - i = k - (i + 1) + 1 := by omega
      have hne : s.phys ≠ targetPa := by
        rw [hs.1.phys]
        exact offset_ne (by omega) (by omega) _
      have hpage := (hs.rmi env (c := .dataDestroy rd s.ipa) (by simp)).rmi env
        (c := .granuleUndelegate s.phys) (by simpa using hne)
      rw [hsucc] at hpage
      refine ⟨hpage.1.retreat, ?_⟩
      rw [MapState.retreat_log]
      exact hpage.2
  have hrounds : (s.size / pageSize).toNat = k := by
    have hpage : pageSize.toNat = 4096 := rfl
    rw [hs.1.size, UInt64.toNat_div, toNat_offset hk, hpage]
    omega
  unfold rollback
  rw [hrounds]
  exact (htri s hs).falls.1.2

/-- The two sizes that have a level, and the pages they make. -/
theorem mapLevel_pages {rttMapSize : UInt64}
    (h : rttMapSize = pageSize ∨ rttMapSize = valRttL2BlockSize) :
    ∃ level n, mapLevel rttMapSize = some level ∧ 0 < n ∧ n ≤ 512 ∧
      rttMapSize.toNat = 4096 * n ∧ (rttMapSize / pageSize).toNat = n := by
  rcases h with rfl | rfl
  · exact ⟨3, 1, by decide, by decide, by decide, by decide, by decide⟩
  · exact ⟨2, 512, by decide, by decide, by decide, by decide, by decide⟩

theorem size_guard {rttMapSize : UInt64} {n i : ℕ} (hn : n ≤ 512)
    (hsize : rttMapSize.toNat = 4096 * n) (hi : i ≤ n) {s : MapState}
    (hs : s.At targetPa ipa i) : decide (s.size < rttMapSize) = decide (i < n) := by
  rw [decide_eq_decide, hs.size, UInt64.lt_iff_toNat_lt, toNat_offset (by omega), hsize]
  omega

/-- **A failed call holds on to its first page**, if the RMM delegated it. -/
theorem mapProtected_holds (henv : env.Legal) (hcreate : ∀ s, create s ≠ .granuleUndelegate targetPa)
    {rttMapSize srcPa : UInt64} (hsize : rttMapSize = pageSize ∨ rttMapSize = valRttL2BlockSize)
    (halign : addrIsAligned ipa rttMapSize = true)
    (hfirst : (env.smc l₀ (.rmi (.granuleDelegate targetPa))).x0 = 0) {l' : Log}
    (h : mapProtected env rd create targetPa ipa rttMapSize srcPa l₀ = (false, l')) :
    Holds l₀ targetPa l' := by
  obtain ⟨level, n, hlevel, -, hn, hbytes, hrounds⟩ := mapLevel_pages hsize
  have htri := Code.triple_whileLoop (b := fun s => s.size < rttMapSize) (n := n)
    (I := fun k s => s.At targetPa ipa k ∧ if k = 0 then s.log = l₀ else Holds l₀ targetPa s.log)
    (E := fun _ s => ∃ k ≤ 512, HeldAt l₀ targetPa targetPa ipa k s)
    (fun i hi s hs => size_guard hn hbytes hi hs.1)
    (fun i hi => (mapPage_held rd henv hcreate hfirst level i).conseq (fun _ h => h) (fun _ h => h)
      fun _ _ h => ⟨i, by omega, h⟩)
  have hstart := htri ⟨targetPa, ipa, srcPa, 0, 0, 0, 0, l₀⟩ ⟨⟨by simp, by simp, by simp⟩, rfl⟩
  unfold mapProtected at h
  rw [halign, hlevel, hrounds] at h
  simp only [Bool.not_true, Bool.false_eq_true, if_false] at h
  match hr : Code.whileLoop (fun s => s.size < rttMapSize) (mapPage env rd create level) n
      ⟨targetPa, ipa, srcPa, 0, 0, 0, 0, l₀⟩ with
  | (none, s) =>
    rw [hr] at h
    exact absurd h (by simp)
  | (some .ret, s) =>
    rw [hr] at h hstart
    obtain ⟨k, -, hs⟩ := hstart
    obtain rfl := (Prod.mk.inj h).2
    exact hs.2
  | (some .error, s) =>
    rw [hr] at h hstart
    obtain ⟨k, hk, hs⟩ := hstart
    obtain rfl := (Prod.mk.inj h).2
    exact rollback_held hk hs

/-- Where the first delegation is refused the call ends with it. -/
theorem mapProtected_refused {rttMapSize srcPa : UInt64}
    (hsize : rttMapSize = pageSize ∨ rttMapSize = valRttL2BlockSize)
    (halign : addrIsAligned ipa rttMapSize = true)
    (hfirst : (env.smc l₀ (.rmi (.granuleDelegate targetPa))).x0 ≠ 0) :
    mapProtected env rd create targetPa ipa rttMapSize srcPa l₀
      = (false, (env.rmi (.granuleDelegate targetPa) l₀).2) := by
  obtain ⟨level, n, hlevel, hpos, hn, hbytes, hrounds⟩ := mapLevel_pages hsize
  obtain ⟨m, rfl⟩ := Nat.exists_eq_succ_of_ne_zero (Nat.pos_iff_ne_zero.mp hpos)
  let s₀ : MapState := ⟨targetPa, ipa, srcPa, 0, 0, 0, 0, l₀⟩
  have hguard : decide (s₀.size < rttMapSize) = true := by
    have h0 : s₀.At targetPa ipa 0 := ⟨by simp [s₀], by simp [s₀], by simp [s₀]⟩
    rw [size_guard hn hbytes (Nat.zero_le _) h0]
    simp
  have hret : (s₀.rmi env (.granuleDelegate s₀.phys)).ret ≠ 0 := hfirst
  have hpage : mapPage env rd create level s₀
      = (some .ret, s₀.rmi env (.granuleDelegate s₀.phys)) := by
    simp [mapPage, Code.block, Code.seq, Code.act, exitOnError, Code.guarded, Code.jump, hret]
  have hloop : Code.whileLoop (fun s => s.size < rttMapSize) (mapPage env rd create level) (m + 1)
      s₀ = (some .ret, s₀.rmi env (.granuleDelegate s₀.phys)) := by
    rw [Code.whileLoop, Code.guarded, if_pos hguard, Code.seq, hpage]
  unfold mapProtected
  rw [halign, hlevel, hrounds]
  simp only [Bool.not_true, Bool.false_eq_true, if_false]
  rw [hloop]
  rfl

/-- What a failed call is to have done: each page of the range that it delegated is undelegated
again, and each IPA of the range that it mapped is unmapped again. -/
def RolledBack (rd targetPa ipa rttMapSize : UInt64) (seg : Log) : Prop :=
  ∀ k < (rttMapSize / pageSize).toNat,
    targetPa + UInt64.ofNat (4096 * k) ∉ (held seg).delegated ∧
      ∀ pa, Obj.data rd (ipa + UInt64.ofNat (4096 * k)) pa ∉ (held seg).objs

/-- **A failed call has rolled back exactly if it had nothing to roll back.** -/
theorem mapProtected_rolledBack (henv : env.Legal)
    (hcreate : ∀ s, create s ≠ .granuleUndelegate targetPa) {rttMapSize srcPa : UInt64}
    (hsize : rttMapSize = pageSize ∨ rttMapSize = valRttL2BlockSize) {l' : Log}
    (h : mapProtected env rd create targetPa ipa rttMapSize srcPa l₀ = (false, l')) :
    RolledBack rd targetPa ipa rttMapSize (own l₀ l') ↔
      addrIsAligned ipa rttMapSize = false ∨
        (env.smc l₀ (.rmi (.granuleDelegate targetPa))).x0 ≠ 0 := by
  obtain ⟨level, n, hlevel, hpos, hn, hbytes, hrounds⟩ := mapLevel_pages hsize
  constructor
  · intro hback
    by_contra hno
    rw [not_or, Bool.not_eq_false, not_not] at hno
    have hheld := (mapProtected_holds henv hcreate hsize hno.1 hno.2 h).mem_own
    refine (hback 0 (by rw [hrounds]; exact hpos)).1 ?_
    simpa using hheld
  · intro hcond k _
    -- in both cases the call has changed nothing
    have hnone : held (own l₀ l') = .init := by
      cases halign : addrIsAligned ipa rttMapSize with
      | false =>
        unfold mapProtected at h
        rw [halign] at h
        obtain rfl := (Prod.mk.inj h).2
        simp [own, held, replay]
      | true =>
        have hfirst := hcond.resolve_left (by rw [halign]; decide)
        rw [mapProtected_refused hsize halign hfirst] at h
        obtain rfl := (Prod.mk.inj h).2
        have hsingle := held_rmi [] (.granuleDelegate targetPa)
          (env.smc l₀ (.rmi (.granuleDelegate targetPa)))
        rw [List.nil_append, if_neg hfirst] at hsingle
        simp only [Env.rmi, Env.call, own_append]
        exact hsingle
    rw [hnone]
    exact ⟨List.not_mem_nil, fun _ => List.not_mem_nil⟩

end Rollback

/-- **A failed mapping is rolled back only where it had taken nothing.**  Whatever the RMM or the
allocator makes fail: after `VAL_ERROR` the range is as before exactly if the IPA was not aligned,
or the very first delegation was refused.  In every other failure page 0 stays delegated. -/
theorem failed_map_rolled_back {env : Env} (henv : env.Legal)
    {rd targetPa ipa rttMapSize srcPa : UInt64}
    (hsize : rttMapSize = pageSize ∨ rttMapSize = valRttL2BlockSize) {l l' : Log}
    (h : valHostMapProtectedData env rd targetPa ipa rttMapSize srcPa l = (false, l') ∨
      valHostMapProtectedDataUnknown env rd targetPa ipa rttMapSize l = (false, l')) :
    RolledBack rd targetPa ipa rttMapSize (own l l') ↔
      addrIsAligned ipa rttMapSize = false ∨
        (env.smc l (.rmi (.granuleDelegate targetPa))).x0 ≠ 0 := by
  rcases h with h | h
  · exact mapProtected_rolledBack henv (fun _ => by simp) hsize h
  · exact mapProtected_rolledBack henv (fun _ => by simp) hsize h

/-! ## 4. A mapping that fails on its second page -/

/-- A history with one realm, whose RD is at the start of the heap. -/
def oneRealm : Log :=
  [.smc (.rmi (.granuleDelegate 0x88500000)) ⟨0, 0, 0⟩,
    .smc (.rmi (.realmCreate 0x88500000 0x88501000)) ⟨0, 0, 0⟩]

/-- The RMM refuses to create the data granule of the second page, and nothing else. -/
def refusingSecond : Env :=
  heapEnv valHostMemAllocInit
    (faultyRmm (fun _ c => c = .dataCreate 0x88500000 0x88801000 0x401000 0x88A01000 0)
      fun _ => ⟨1, 0, 0⟩)

/-- The first page is left behind, delegated and mapped. -/
theorem failed_map_keeps_first_page :
    ∃ l', valHostMapProtectedData refusingSecond 0x88500000 0x88800000 0x400000 valRttL2BlockSize
        0x88A00000 oneRealm = (false, l') ∧
      ¬ RolledBack 0x88500000 0x88800000 0x400000 valRttL2BlockSize (own oneRealm l') ∧
      .data 0x88500000 0x400000 0x88800000 ∈ (held (own oneRealm l')).objs := by
  refine ⟨(valHostMapProtectedData refusingSecond 0x88500000 0x88800000 0x400000 valRttL2BlockSize
    0x88A00000 oneRealm).2, ?_, ?_, ?_⟩
  · exact Prod.ext (by decide +kernel) rfl
  · intro h
    exact absurd (h 0 (by decide +kernel)).1 (by decide +kernel)
  · decide +kernel

theorem failed_map_rolled_back_second_page :
    refusingSecond.Legal ∧
      ¬ RolledBack 0x88500000 0x88800000 0x400000 valRttL2BlockSize
        (own oneRealm (valHostMapProtectedData refusingSecond 0x88500000 0x88800000 0x400000
          valRttL2BlockSize 0x88A00000 oneRealm).2) := by
  have hlegal : refusingSecond.Legal := faultyRmm_legal _ _ _
  refine ⟨hlegal, ?_⟩
  rw [failed_map_rolled_back hlegal (Or.inr rfl) (Or.inl (Prod.ext (by decide +kernel) rfl))]
  decide +kernel

end RmmAcs.Realm
