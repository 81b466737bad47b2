/-
# What the realm functions do to a log

A realm function has no other way to act than through its environment: it asks for memory, it
issues a command, and it writes the parameter pages that the RMM reads.  `Env.Extends` says so of two
logs, and every function keeps it on every way out, whether it succeeds, fails half-way, or takes
back what it has done.

This is what puts the functions on the host: their log is a run of wrappers and allocations,
whichever branches they have taken (`OnHost.lean`).
-/
import RmmAcs.Realm.PrepSequence
import RmmAcs.Realm.S2ap
import RmmAcs.Realm.Setup

namespace RmmAcs.Realm

open RmmAcs Lib Rmm

/-! ## 1. Questions and answers -/

/-- `L` comes from `l` by questions that the environment has answered, and by parameter pages. -/
inductive Env.Extends (env : Env) (l : Log) : Log → Prop where
  | refl : env.Extends l l
  | call {L : Log} (h : env.Extends l L) (c : Smc) : env.Extends l (env.call c L).2
  | malloc {L : Log} (h : env.Extends l L) (alignment size : UInt64) :
      env.Extends l (env.malloc alignment size L).2
  | realmParams {L : Log} (h : env.Extends l L) (ptr : UInt64) (params : RealmParams) :
      env.Extends l (L ++ [.realmParams ptr params])
  | recParams {L : Log} (h : env.Extends l L) (ptr : UInt64) (params : RecParams) :
      env.Extends l (L ++ [.recParams ptr params])

section Functions

variable {env : Env} {l L : Log}

theorem Env.Extends.rmi (h : env.Extends l L) (c : Cmd) : env.Extends l (env.rmi c L).2 := h.call (.rmi c)

/-! ## 2. Tables -/

theorem createRttLevel_extends (rd ipa rttAlignment level : UInt64) :
    Code.Keeps (env.Extends l) (createRttLevel env rd ipa rttAlignment level) := by
  intro L hL
  have hmalloc := hL.malloc rttAlignment pageSize
  have hdel := hmalloc.rmi (.granuleDelegate (env.malloc rttAlignment pageSize L).1)
  unfold createRttLevel
  dsimp only
  split
  · exact hmalloc
  split
  · exact hdel
  split
  · exact (hdel.rmi _).rmi _
  · exact hdel.rmi _

theorem createRttLevels_extends (rd ipa rttLevel rttMaxLevel rttAlignment : UInt64) :
    Code.Keeps (env.Extends l)
      (valHostCreateRttLevels env rd ipa rttLevel rttMaxLevel rttAlignment) := by
  intro L hL
  unfold valHostCreateRttLevels
  split
  · exact hL
  · exact Code.triple_loop (I := fun _ => env.Extends l)
      (fun _ _ => createRttLevel_extends rd ipa rttAlignment _) L hL

theorem createAuxRttLevel_extends (rd ipa rttAlignment index level : UInt64) :
    Code.Keeps (env.Extends l) (createAuxRttLevel env rd ipa rttAlignment index level) := by
  intro L hL
  have hmalloc := hL.malloc rttAlignment pageSize
  have hdel := hmalloc.rmi (.granuleDelegate (env.malloc rttAlignment pageSize L).1)
  unfold createAuxRttLevel
  dsimp only
  split
  · exact hmalloc
  split
  · exact hdel
  split
  · exact (hdel.rmi _).rmi _
  · exact hdel.rmi _

theorem createAuxRttLevels_extends (rd ipa rttLevel rttMaxLevel rttAlignment index : UInt64) :
    Code.Keeps (env.Extends l)
      (valHostCreateAuxRttLevels env rd ipa rttLevel rttMaxLevel rttAlignment index) := by
  intro L hL
  unfold valHostCreateAuxRttLevels
  split
  · exact hL
  · exact Code.triple_loop (I := fun _ => env.Extends l)
      (fun _ _ => createAuxRttLevel_extends rd ipa rttAlignment index _) L hL

theorem delegateGranule_extends (hL : env.Extends l L) : env.Extends l (valHostDelegateGranule env L).2 := by
  have hmalloc := hL.malloc pageSize pageSize
  unfold valHostDelegateGranule
  dsimp only
  split
  · exact hmalloc
  · split
    · exact hmalloc.rmi _
    · exact hmalloc.rmi _

theorem createMappingLevel_extends (rd ipa size level : UInt64) :
    Code.Keeps (env.Extends l) (createMappingLevel env rd ipa size level) := by
  intro L hL
  have hdel := delegateGranule_extends hL
  unfold createMappingLevel
  dsimp only
  split
  · exact hdel
  · split
    · exact hdel.rmi _
    · exact hdel.rmi _

theorem createMappingRipas_extends (rd ipa : UInt64) :
    Code.Keeps (env.Extends l) (createMappingRipas env rd ipa) := by
  intro L hL
  unfold createMappingRipas
  dsimp only
  split
  · exact hL.call _
  · exact hL.call _

theorem createMapping_extends (rd ipa : UInt64) (ripasInit : Bool) :
    Code.Keeps (env.Extends l) (createMapping env rd ipa ripasInit) := by
  intro L hL
  unfold createMapping
  dsimp only
  split
  · exact hL.call _
  · refine Code.keeps_block ?_ _ (hL.call _)
    simp only [List.forall_mem_cons, List.not_mem_nil, false_implies, implies_true, and_true]
    exact ⟨(createMappingLevel_extends rd ipa l0Size 1).guarded,
      (createMappingLevel_extends rd ipa l1Size 2).guarded,
      (createMappingLevel_extends rd ipa l2Size 3).guarded, (createMappingRipas_extends rd ipa).guarded⟩

theorem createAuxMappingLevel_extends (rd ipa index : UInt64) :
    Code.Keeps (fun s => env.Extends l s.log) (createAuxMappingLevel env rd ipa index) := by
  refine Code.keeps_block ?_
  simp only [List.forall_mem_cons, List.not_mem_nil, false_implies, implies_true, and_true]
  refine ⟨Code.Keeps.guarded ?_, ?_, fun s hs => hs⟩
  · exact fun s hs => Code.exit_same_iff.mpr (delegateGranule_extends hs)
  · exact fun s hs => Code.exit_same_iff.mpr (Env.Extends.rmi hs _)

theorem createAuxMapping_extends (rd ipa index : UInt64) :
    Code.Keeps (env.Extends l) (valHostCreateAuxMapping env rd ipa index) := by
  intro L hL
  have hdel := delegateGranule_extends hL
  unfold valHostCreateAuxMapping
  dsimp only
  split
  · exact hdel
  have hcreate := hdel.rmi (.rttAuxCreate rd (valHostDelegateGranule env L).1
    (addrAlignDown ipa (valHostRttLevelMapsize (valRttMaxLevel - 1))) valRttMaxLevel index)
  split
  · exact hcreate
  split
  · exact hcreate
  split
  · exact hcreate
  · refine Code.exit_same_iff.mpr ((Code.exit_same_iff
      (P := fun s : AuxState => env.Extends l s.log)).mp
      (Code.triple_whileLoop_inv (createAuxMappingLevel_extends rd ipa index) _ _ ?_))
    exact hcreate

end Functions

/-! ## 3. Data -/

section Data

variable {env : Env} {l L : Log}

theorem createMissing_extends (rd mapLevel : UInt64) :
    Code.Keeps (fun s => env.Extends l s.log) (createMissing env rd mapLevel) := by
  intro s hs
  have h := createRttLevels_extends rd s.ipa s.walkLevel.toUInt32.toUInt64 mapLevel pageSize s.log hs
  unfold createMissing
  split
  · rename_i hcreate
    rw [hcreate] at h
    exact h
  · rename_i hcreate
    rw [hcreate] at h
    exact h

theorem exitOnError_extends (e : MapExit) :
    Code.Keeps (fun s => env.Extends l s.log) (exitOnError e) :=
  Code.Keeps.guarded (Code.triple_jump fun _ hs => hs)

theorem retry_extends (rd : UInt64) (create : MapState → Cmd) (mapLevel : UInt64) :
    Code.Keeps (fun s => env.Extends l s.log) (retry env rd create mapLevel) := by
  refine Code.keeps_block ?_
  simp only [List.forall_mem_cons, List.not_mem_nil, false_implies, implies_true, and_true]
  refine ⟨fun s hs => Env.Extends.call hs _, exitOnError_extends .ret, Code.Keeps.guarded ?_⟩
  refine Code.keeps_block ?_
  simp only [List.forall_mem_cons, List.not_mem_nil, false_implies, implies_true, and_true]
  exact ⟨createMissing_extends rd mapLevel, fun s hs => Env.Extends.rmi hs _⟩

theorem mapPage_extends (rd : UInt64) (create : MapState → Cmd) (mapLevel : UInt64) :
    Code.Keeps (fun s => env.Extends l s.log) (mapPage env rd create mapLevel) := by
  refine Code.keeps_block ?_
  simp only [List.forall_mem_cons, List.not_mem_nil, false_implies, implies_true, and_true]
  exact ⟨fun s hs => Env.Extends.rmi hs _, exitOnError_extends .ret, fun s hs => Env.Extends.rmi hs _,
    (retry_extends rd create mapLevel).guarded, exitOnError_extends .error,
    Code.triple_act fun s hs => by rwa [MapState.advance_log]⟩

theorem unmapPage_extends (rd : UInt64) :
    Code.Keeps (fun s => env.Extends l s.log) (unmapPage env rd) :=
  Code.triple_act fun s hs => by
    rw [MapState.retreat_log]
    exact (Env.Extends.rmi hs (.dataDestroy rd s.ipa)).rmi _

theorem mapProtected_extends (rd : UInt64) (create : MapState → Cmd)
    (targetPa ipa rttMapSize srcPa : UInt64) (hL : env.Extends l L) :
    env.Extends l (mapProtected env rd create targetPa ipa rttMapSize srcPa L).2 := by
  unfold mapProtected
  split
  · exact hL
  split
  · exact hL
  rename_i level _
  have h := Code.exit_same_iff.mp (Code.triple_whileLoop_inv (b := fun s => s.size < rttMapSize)
    (mapPage_extends rd create level) (rttMapSize / pageSize).toNat
    ⟨targetPa, ipa, srcPa, 0, 0, 0, 0, L⟩ hL)
  split
  · rename_i hloop
    rwa [hloop] at h
  · rename_i hloop
    rwa [hloop] at h
  · rename_i hloop
    rw [hloop] at h
    exact Code.exit_same_iff.mp (Code.triple_whileLoop_inv (unmapPage_extends rd) _ _ h)

theorem auxCreateMissing_extends (rd index : UInt64) :
    Code.Keeps (fun s => env.Extends l s.log) (auxCreateMissing env rd index) :=
  fun s hs => Code.exit_same_iff.mpr (Code.exit_same_iff.mp
    (createAuxRttLevels_extends rd s.ipa (rmiIndex s.x0) 3 pageSize index s.log hs))

theorem auxMapProtectedPage_extends (rd index : UInt64) :
    Code.Keeps (fun s => env.Extends l s.log) (auxMapProtectedPage env rd index) := by
  refine Code.keeps_block ?_
  simp only [List.forall_mem_cons, List.not_mem_nil, false_implies, implies_true, and_true]
  refine ⟨fun s hs => Env.Extends.rmi hs _, Code.Keeps.guarded (Code.keeps_block ?_),
    Code.Keeps.guarded (Code.triple_jump fun _ hs => hs), fun s hs => hs⟩
  simp only [List.forall_mem_cons, List.not_mem_nil, false_implies, implies_true, and_true]
  exact ⟨auxCreateMissing_extends rd index, fun s hs => Env.Extends.rmi hs _⟩

theorem auxMapProtectedData_extends (rd ipa index : UInt64) (hL : env.Extends l L) :
    env.Extends l (valHostAuxMapProtectedData env rd ipa index L).2 := by
  unfold valHostAuxMapProtectedData
  split
  · exact hL
  have h := Code.exit_same_iff.mp (Code.triple_whileLoop_inv
    (b := fun s : AuxMapState => s.size < pageSize) (auxMapProtectedPage_extends rd index) 1
    ⟨ipa, 0, 0, L⟩ hL)
  have hback : Code.Keeps (fun s => env.Extends l s.log) (auxUnmapProtectedPage env rd index) :=
    fun s hs => Env.Extends.rmi hs _
  split
  · rename_i hloop
    rwa [hloop] at h
  · rename_i hloop
    rw [hloop] at h
    exact Code.exit_same_iff.mp (Code.triple_whileLoop_inv hback _ _ h)

theorem auxMapUnprotected_extends (rd ipa rttMapSize rttAlignment index : UInt64)
    (hL : env.Extends l L) :
    env.Extends l (valHostAuxMapUnprotected env rd ipa rttMapSize rttAlignment index L).2 := by
  have hmap := hL.rmi (.rttAuxMapUnprotected rd ipa index)
  unfold valHostAuxMapUnprotected
  split
  · exact hL
  split
  · exact hL
  dsimp only
  split
  · rename_i level _ _
    have h := Code.exit_same_iff.mp (createAuxRttLevels_extends rd ipa
      (rmiIndex (env.rmi (.rttAuxMapUnprotected rd ipa index) L).1) level rttAlignment index _ hmap)
    split
    · rename_i hcreate
      rwa [hcreate] at h
    · rename_i hcreate
      rw [hcreate] at h
      exact h.rmi _
  · exact hmap

theorem mapUnprotected_extends (rd : UInt64) (createFrom : UInt64 → UInt64 → UInt64)
    (memDesc ipa rttMapSize rttAlignment : UInt64) (hL : env.Extends l L) :
    env.Extends l (mapUnprotected env rd createFrom memDesc ipa rttMapSize rttAlignment L).2 := by
  unfold mapUnprotected
  split
  · exact hL
  split
  · exact hL
  rename_i level _
  have hmap := hL.rmi (.rttMapUnprotected rd ipa level memDesc)
  dsimp only
  split
  · set r := env.rmi (.rttMapUnprotected rd ipa level memDesc) L
    have hread := hmap.call
      (.rttReadEntry rd (valHostAddrAlignToLevel ipa (rmiIndex r.1)) (rmiIndex r.1))
    set e := env.call (.rttReadEntry rd (valHostAddrAlignToLevel ipa (rmiIndex r.1)) (rmiIndex r.1))
      r.2
    have h := Code.exit_same_iff.mp (createRttLevels_extends rd ipa
      (createFrom (rmiIndex r.1) e.1.x1) level rttAlignment e.2 hread)
    split
    · exact hread
    split
    · split
      · rename_i hcreate
        rwa [hcreate] at h
      · rename_i hcreate
        rw [hcreate] at h
        exact h.rmi _
    · exact hread
  · exact hmap

theorem valHostMapUnprotected_extends (realm : HostRealm) (nsPa ipa rttMapSize rttAlignment : UInt64)
    (hL : env.Extends l L) :
    env.Extends l (valHostMapUnprotected env realm nsPa ipa rttMapSize rttAlignment L).2 := by
  unfold valHostMapUnprotected
  dsimp only
  split
  · exact mapUnprotected_extends _ _ _ _ _ _ (hL.call _)
  · exact mapUnprotected_extends _ _ _ _ _ _ hL

end Data

/-! ## 4. Realms and RECs -/

section Realms

variable {env : Env} {l L : Log} {τ ℓ : Type}

/-- The kinds of statements. -/
theorem allocate_extends (alignment size : τ → UInt64) (set : UInt64 → τ → τ) (fail : ℓ) :
    Code.Keeps (fun s => env.Extends l s.log) (allocate env alignment size set fail) :=
  fun _ hs => Code.exit_same_iff.mpr (Env.Extends.malloc hs _ _)

theorem command_extends (c : τ → Cmd) (fail : ℓ) :
    Code.Keeps (fun s => env.Extends l s.log) (command env c fail) :=
  fun _ hs => Code.exit_same_iff.mpr (Env.Extends.rmi hs _)

theorem undelegate_extends (addr : τ → UInt64) :
    Code.Keeps (fun s => env.Extends l s.log) (undelegate env addr : Code (Call τ) ℓ) :=
  fun _ hs => Env.Extends.rmi hs _

theorem assign_extends (f : τ → τ) :
    Code.Keeps (fun s => env.Extends l s.log) (assign f : Code (Call τ) ℓ) := fun _ hs => hs

theorem realmCreateBody_extends (rmmV11 : Bool) :
    Code.Keeps (fun s => env.Extends l s.log) (realmCreateBody env rmmV11) := by
  have haux : ∀ i, Code.Keeps (fun s => env.Extends l s.log) (delegateAuxRtts env i) := by
    intro i
    refine Code.keeps_block ?_
    simp only [List.forall_mem_cons, List.not_mem_nil, false_implies, implies_true, and_true]
    exact ⟨allocate_extends _ _ _ _, Code.keeps_forTo fun _ => command_extends _ _⟩
  refine Code.keeps_block ?_
  simp only [List.forall_mem_cons, List.not_mem_nil, false_implies, implies_true, and_true]
  exact ⟨assign_extends _, allocate_extends _ _ _ _, Code.keeps_forTo fun _ => allocate_extends _ _ _ _,
    allocate_extends _ _ _ _, Code.keeps_forTo fun _ => command_extends _ _,
    (Code.keeps_forTo haux).guarded, allocate_extends _ _ _ _, command_extends _ _,
    allocate_extends _ _ _ _, fun s hs => Env.Extends.realmParams hs _ _, command_extends _ _,
    assign_extends _⟩

/-- The cleanup undelegates, from whichever point it is reached. -/
theorem realmCreateCleanup_extends (p : CreatePoint) :
    Code.Keeps (fun s => env.Extends l s.log) (realmCreateCleanup env p) := by
  have hrd : Code.Keeps (fun s => env.Extends l s.log) (undelegateRd env) := undelegate_extends _
  have hrtt : Code.Keeps (fun s => env.Extends l s.log) (undelegateRtt env) := by
    refine Code.keeps_block ?_
    simp only [List.forall_mem_cons, List.not_mem_nil, false_implies, implies_true, and_true]
    exact ⟨undelegate_extends _, (Code.keeps_forTo fun _ => undelegate_extends _).guarded, hrd⟩
  cases p with
  | rtt | rttDelegate | auxRtt | auxRttDelegate => exact hrd
  | params | realmCreate => exact hrtt
  | image | auxImage | rd | rdDelegate => exact Code.triple_skip

theorem realmCreate_extends (rmmV11 : Bool) (realm : HostRealm) (hL : env.Extends l L) :
    env.Extends l (valHostRealmCreate env rmmV11 realm L).2.2 := by
  have h := Code.exit_same_iff.mp (realmCreateBody_extends rmmV11 ⟨⟨realm, 0⟩, L⟩ hL)
  unfold valHostRealmCreate
  split
  · rename_i hbody
    rwa [hbody] at h
  · rename_i p s hbody
    rw [hbody] at h
    exact Code.exit_same_iff.mp (realmCreateCleanup_extends p s h)

theorem recCreateBody_extends : Code.Keeps (fun s => env.Extends l s.log) (recCreateBody env) := by
  have haux : ∀ i j, Code.Keeps (fun s => env.Extends l s.log) (createAux env i j) := by
    intro i j
    refine Code.keeps_block ?_
    simp only [List.forall_mem_cons, List.not_mem_nil, false_implies, implies_true, and_true]
    exact ⟨allocate_extends _ _ _ _, command_extends _ _, assign_extends _⟩
  have hrec : ∀ i, Code.Keeps (fun s => env.Extends l s.log) (createRec env i) := by
    intro i
    refine Code.keeps_block ?_
    simp only [List.forall_mem_cons, List.not_mem_nil, false_implies, implies_true, and_true]
    exact ⟨allocate_extends _ _ _ _, allocate_extends _ _ _ _, command_extends _ _,
      Code.keeps_forTo (haux i), fun s hs => Env.Extends.recParams hs _ _, command_extends _ _⟩
  have hjump : ∀ (b : Call RecVars → Bool) (p : RecPoint),
      Code.Keeps (fun s => env.Extends l s.log) (Code.guarded b (Code.jump p)) :=
    fun b p => Code.Keeps.guarded (Code.triple_jump fun _ h => h)
  refine Code.keeps_block ?_
  simp only [List.forall_mem_cons, List.not_mem_nil, false_implies, implies_true, and_true]
  exact ⟨hjump _ _, fun s hs => Code.exit_same_iff.mpr (Env.Extends.call hs _), hjump _ _,
    allocate_extends _ _ _ _, assign_extends _, Code.keeps_forTo hrec⟩

theorem freeRecParams_extends (i : ℕ) :
    Code.Keeps (fun s => env.Extends l s.log) (freeRecParams env i) := by
  induction i with
  | zero => exact Code.triple_skip
  | succ i ih =>
    refine Code.Triple.seq (Code.keeps_block ?_) ih
    simp only [List.forall_mem_cons, List.not_mem_nil, false_implies, implies_true, and_true]
    exact ⟨undelegate_extends _, Code.keeps_forTo fun _ => undelegate_extends _⟩

theorem recCreate_extends (realm : HostRealm) (hL : env.Extends l L) :
    env.Extends l (valHostRecCreate env realm L).2.2 := by
  have h := Code.exit_same_iff.mp (recCreateBody_extends ⟨.start realm, L⟩ hL)
  unfold valHostRecCreate
  split
  · rename_i hbody
    rwa [hbody] at h
  · rename_i p s hbody
    rw [hbody] at h
    split
    · exact h
    · rename_i i _
      exact Code.exit_same_iff.mp (freeRecParams_extends i s h)

theorem realmActivate_extends (realm : HostRealm) (hL : env.Extends l L) :
    env.Extends l (valHostRealmActivate env realm L).2.2 := by
  unfold valHostRealmActivate
  dsimp only
  split
  · exact hL.call _
  · exact hL.call _

end Realms

/-! ## 5. Ranges -/

section Ranges

variable {env : Env} {l L : Log}

theorem ripasRound_extends (rd base top rttLevel rttAlignment : UInt64) (hL : env.Extends l L) :
    env.Extends l (ripasRound env rd base top rttLevel rttAlignment L).2 := by
  have hinit := hL.call (.rttInitRipas rd base top)
  unfold ripasRound
  dsimp only
  split
  · set level := rmiIndex (env.call (.rttInitRipas rd base top) L).1.x0
    have hread := hinit.call (.rttReadEntry rd (valHostAddrAlignToLevel base level) level)
    split
    · exact hread
    split
    · have hcreate := Code.exit_same_iff.mp (createRttLevels_extends rd base
        (env.call (.rttReadEntry rd (valHostAddrAlignToLevel base level) level)
          (env.call (.rttInitRipas rd base top) L).2).1.x1 rttLevel rttAlignment _ hread)
      split
      · exact hcreate
      · split
        · exact hcreate
        · exact hcreate
    · exact hread
  · split
    · exact hinit
    · split
      · exact hinit
      · exact hinit

theorem ripasInit_extends (rd base top rttLevel rttAlignment : UInt64) {ok : Bool} {L' : Log} :
    ∀ (fuel : ℕ) (L : Log), env.Extends l L →
      valHostRipasInit env rd base top rttLevel rttAlignment fuel L = some (ok, L') →
      env.Extends l L'
  | 0, _, _, h => absurd h (by simp [valHostRipasInit])
  | fuel + 1, L, hL, h => by
    have hround := ripasRound_extends rd base top rttLevel rttAlignment hL
    unfold valHostRipasInit at h
    split at h
    · rename_i hr
      rw [hr] at hround
      exact ripasInit_extends rd base top rttLevel rttAlignment fuel _ hround h
    · rename_i hr
      rw [hr] at hround
      obtain ⟨-, rfl⟩ := Prod.mk.inj (Option.some.inj h)
      exact hround

theorem recEnter_extends (exits : Log → RecExit) (recPa runPtr : UInt64) {ret : UInt64} {L' : Log} :
    ∀ (fuel : ℕ) (L : Log), env.Extends l L →
      valHostRmiRecEnter env exits recPa runPtr fuel L = some (ret, L') → env.Extends l L'
  | 0, _, _, h => absurd h (by simp [valHostRmiRecEnter])
  | fuel + 1, L, hL, h => by
    have henter := hL.call (.recEnter recPa runPtr)
    unfold valHostRmiRecEnter at h
    dsimp only at h
    split at h
    · exact recEnter_extends exits recPa runPtr fuel _ henter h
    · obtain ⟨-, rfl⟩ := Prod.mk.inj (Option.some.inj h)
      exact henter

theorem createAuxMappings_extends (realm : HostRealm) (ipa : UInt64) :
    Code.Keeps (env.Extends l) (createAuxMappings env realm ipa) :=
  Code.triple_loop (I := fun _ => env.Extends l) fun _ _ => createAuxMapping_extends realm.rd ipa _

theorem s2apLoop_extends (realm : HostRealm) (top : UInt64) {ok : Bool} {L' : Log} :
    ∀ (fuel : ℕ) (base : UInt64) (L : Log), env.Extends l L →
      s2apLoop env realm top fuel base L = some (ok, L') → env.Extends l L'
  | 0, _, _, _, h => absurd h (by simp [s2apLoop])
  | fuel + 1, base, L, hL, h => by
    have hset := hL.call (.rttSetS2ap realm.rd (realm.recPa 0) base top)
    have hmap := Code.exit_same_iff.mp (createMapping_extends realm.rd base false _ hset)
    have haux := Code.exit_same_iff.mp (createAuxMappings_extends realm base _ hset)
    unfold s2apLoop at h
    dsimp only at h
    split at h
    · obtain ⟨-, rfl⟩ := Prod.mk.inj (Option.some.inj h)
      exact hL
    split at h
    · split at h
      · exact s2apLoop_extends realm top fuel base _ hmap h
      · obtain ⟨-, rfl⟩ := Prod.mk.inj (Option.some.inj h)
        exact hmap
    split at h
    · split at h
      · exact s2apLoop_extends realm top fuel base _ haux h
      · obtain ⟨-, rfl⟩ := Prod.mk.inj (Option.some.inj h)
        exact haux
    split at h
    · obtain ⟨-, rfl⟩ := Prod.mk.inj (Option.some.inj h)
      exact hset
    · exact s2apLoop_extends realm top fuel _ _ hset h

theorem setS2ap_extends (exits : Log → RecExit) (realm : HostRealm) (n : ℕ) {ok : Bool} {L' : Log} :
    ∀ (fuel : ℕ) (L : Log), env.Extends l L →
      valHostSetS2ap env exits realm n fuel L = some (ok, L') → env.Extends l L'
  | 0, _, _, h => absurd h (by simp [valHostSetS2ap])
  | fuel + 1, L, hL, h => by
    unfold valHostSetS2ap at h
    split at h
    · obtain ⟨-, rfl⟩ := Prod.mk.inj (Option.some.inj h)
      exact hL
    split at h
    · rename_i hloop
      have hloop' := s2apLoop_extends realm _ n _ L hL hloop
      split at h
      · rename_i henter
        have henter' := recEnter_extends exits _ _ n _ hloop' henter
        split at h
        · obtain ⟨-, rfl⟩ := Prod.mk.inj (Option.some.inj h)
          exact henter'
        · exact setS2ap_extends exits realm n fuel _ henter' h
      · exact absurd h (by simp)
    · exact s2apLoop_extends realm _ n _ L hL h

end Ranges

/-! ## 6. Device memory and regions -/

section Regions

variable {env : Env} {l L : Log}

theorem devPage_extends (rd vdev mapLevel : UInt64) :
    Code.Keeps (fun s => env.Extends l s.log) (devPage env rd vdev mapLevel) := by
  have hexit : ∀ e, Code.Keeps (fun s => env.Extends l s.log) (devExit e) :=
    fun e => Code.Keeps.guarded (Code.triple_jump fun _ hs => hs)
  have hmap : Code.Keeps (fun s => env.Extends l s.log) (vdevMap env rd vdev mapLevel) :=
    fun s hs => Env.Extends.call hs _
  have hcreate : Code.Keeps (fun s => env.Extends l s.log) (devCreateMissing env rd mapLevel) := by
    intro s hs
    have h := createRttLevels_extends rd s.ipa s.walkLevel.toUInt32.toUInt64 mapLevel pageSize s.log hs
    unfold devCreateMissing
    split
    · rename_i hc
      rw [hc] at h
      exact h
    · rename_i hc
      rw [hc] at h
      exact h
  have hretry : Code.Keeps (fun s => env.Extends l s.log) (devRetry env rd vdev mapLevel) := by
    refine Code.keeps_block ?_
    simp only [List.forall_mem_cons, List.not_mem_nil, false_implies, implies_true, and_true]
    refine ⟨fun s hs => Code.exit_same_iff.mpr (Env.Extends.call hs _), Code.Keeps.guarded ?_⟩
    refine Code.keeps_block ?_
    simp only [List.forall_mem_cons, List.not_mem_nil, false_implies, implies_true, and_true]
    exact ⟨hcreate, hmap⟩
  refine Code.keeps_block ?_
  simp only [List.forall_mem_cons, List.not_mem_nil, false_implies, implies_true, and_true]
  exact ⟨fun s hs => Env.Extends.rmi hs _, hexit .ret, hmap, hretry.guarded, hexit .error,
    fun s hs => hs⟩

theorem devUnmapPage_extends (rd mapLevel : UInt64) :
    Code.Keeps (fun s => env.Extends l s.log) (devUnmapPage env rd mapLevel) :=
  fun s hs => (Env.Extends.call hs (.vdevUnmap rd s.ipa mapLevel)).rmi _

theorem mapProtectedDevMem_extends (rd vdev targetPa ipa rttMapSize : UInt64) (hL : env.Extends l L) :
    env.Extends l (valHostMapProtectedDevMem env rd vdev targetPa ipa rttMapSize L).2 := by
  unfold valHostMapProtectedDevMem
  split
  · exact hL
  split
  · exact hL
  rename_i level _
  have h := Code.exit_same_iff.mp (Code.triple_whileLoop_inv
    (b := fun s : DevState => s.size < rttMapSize) (devPage_extends rd vdev level)
    (rttMapSize / pageSize).toNat ⟨targetPa, ipa, 0, 0, 0, 0, 0, L⟩ hL)
  split
  · rename_i hloop
    rwa [hloop] at h
  · rename_i hloop
    rwa [hloop] at h
  · rename_i hloop
    rw [hloop] at h
    exact Code.exit_same_iff.mp (Code.triple_whileLoop_inv (devUnmapPage_extends rd level) _ _ h)

theorem devMemLoop_extends (rd vdev base pa totalPages : UInt64) {ok : Bool} {L' : Log} :
    ∀ (fuel : ℕ) (i : UInt32) (L : Log), env.Extends l L →
      devMemLoop env rd vdev base pa totalPages fuel i L = some (ok, L') → env.Extends l L'
  | 0, _, _, _, h => absurd h (by simp [devMemLoop])
  | fuel + 1, i, L, hL, h => by
    have hpage := mapProtectedDevMem_extends rd vdev (pa + pageOffset i) (base + pageOffset i) pageSize hL
    unfold devMemLoop at h
    split at h
    · split at h
      · rename_i hp
        rw [hp] at hpage
        exact devMemLoop_extends rd vdev base pa totalPages fuel (i + 1) _ hpage h
      · rename_i hp
        rw [hp] at hpage
        obtain ⟨-, rfl⟩ := Prod.mk.inj (Option.some.inj h)
        exact hpage
    · obtain ⟨-, rfl⟩ := Prod.mk.inj (Option.some.inj h)
      exact hL

theorem devMemMap_extends (rd vdev devMemBase devMemTop devMemPa : UInt64) (fuel : ℕ)
    {t t' : RegionTable} {ok : Bool} {L' : Log} (hL : env.Extends l L)
    (h : valHostDevMemMap env rd vdev devMemBase devMemTop devMemPa fuel t L = some (ok, t', L')) :
    env.Extends l L' := by
  unfold valHostDevMemMap at h
  dsimp only at h
  split at h
  · obtain ⟨-, h⟩ := Prod.mk.inj (Option.some.inj h)
    obtain ⟨-, rfl⟩ := Prod.mk.inj h
    exact hL
  split at h
  · obtain ⟨-, h⟩ := Prod.mk.inj (Option.some.inj h)
    obtain ⟨-, rfl⟩ := Prod.mk.inj h
    exact hL
  split at h
  · rename_i hloop
    obtain ⟨-, h⟩ := Prod.mk.inj (Option.some.inj h)
    obtain ⟨-, rfl⟩ := Prod.mk.inj h
    exact devMemLoop_extends _ _ _ _ _ _ _ _ hL hloop
  · rename_i hloop
    obtain ⟨-, h⟩ := Prod.mk.inj (Option.some.inj h)
    obtain ⟨-, rfl⟩ := Prod.mk.inj h
    exact devMemLoop_extends _ _ _ _ _ _ _ _ hL hloop
  · exact absurd h (by simp)

theorem attempt_extends {f : HostRealm → Log → Bool × Log}
    (hf : ∀ realm L, env.Extends l L → env.Extends l (f realm L).2) :
    Code.Keeps (fun s => env.Extends l s.log) (attempt f) :=
  fun s hs => Code.exit_same_iff.mpr (hf s.realm s.log hs)

theorem attemptOn_extends {f : HostRealm → Log → Bool × HostRealm × Log}
    (hf : ∀ realm L, env.Extends l L → env.Extends l (f realm L).2.2) :
    Code.Keeps (fun s => env.Extends l s.log) (attemptOn f) :=
  fun s hs => Code.exit_same_iff.mpr (hf s.realm s.log hs)

theorem recordRegion_extends (r : HostRealm → Region) :
    Code.Keeps (fun s => env.Extends l s.log) (recordRegion r) := fun _ hs => hs

theorem pageLoop_extends (total : HostRealm → UInt64) {body : UInt32 → Code MappedRealm Failure}
    (hbody : ∀ i, Code.Keeps (fun s => env.Extends l s.log) (body i)) (n : ℕ) (i : UInt32) :
    Code.Keeps (fun s => env.Extends l s.log) (pageLoop total body n i) :=
  pageLoop_keeps (fun _ _ hs => hs) total hbody n i

theorem inEachPlane_extends {f : HostRealm → UInt64 → Log → Bool × Log}
    (hf : ∀ realm index L, env.Extends l L → env.Extends l (f realm index L).2) :
    Code.Keeps (fun s => env.Extends l s.log) (inEachPlane f) :=
  Code.Keeps.guarded (Code.keeps_forTo fun _ => attempt_extends fun realm => hf realm _)

theorem ripasInit_region_extends (fuel : ℕ) (base top : HostRealm → UInt64) (rttAlignment : UInt64) :
    Code.Keeps (fun s => env.Extends l s.log) (ripasInit env fuel base top rttAlignment) := by
  intro s hs
  unfold ripasInit
  split
  · rename_i hr
    exact ripasInit_extends _ _ _ _ _ _ _ hs hr
  · rename_i hr
    exact ripasInit_extends _ _ _ _ _ _ _ hs hr
  · exact hs

theorem mapProtectedPage_extends (pa : HostRealm → UInt64) (ipa src : UInt64) (i : UInt32) :
    Code.Keeps (fun s => env.Extends l s.log) (mapProtectedPage env pa ipa src i) := by
  refine Code.keeps_block ?_
  simp only [List.forall_mem_cons, List.not_mem_nil, false_implies, implies_true, and_true]
  exact ⟨attempt_extends fun realm _ h => mapProtected_extends realm.rd _ _ _ _ _ h,
    inEachPlane_extends fun realm index _ h => auxMapProtectedData_extends realm.rd _ index h⟩

theorem imageMap_extends (fuel : ℕ) (ipaBase : UInt64) (paBase : HostRealm → UInt64) :
    Code.Keeps (fun s => env.Extends l s.log) (valHostImageMap env fuel ipaBase paBase) := by
  refine Code.keeps_block ?_
  simp only [List.forall_mem_cons, List.not_mem_nil, false_implies, implies_true, and_true]
  exact ⟨ripasInit_region_extends fuel _ _ _,
    pageLoop_extends _ (fun i => mapProtectedPage_extends _ _ _ i) fuel 0, recordRegion_extends _⟩

theorem mapProtectedDataToRealm_extends (fuel : ℕ) (d : DataCreate) :
    Code.Keeps (fun s => env.Extends l s.log) (valHostMapProtectedDataToRealm env fuel d) := by
  refine Code.keeps_block ?_
  simp only [List.forall_mem_cons, List.not_mem_nil, false_implies, implies_true, and_true]
  exact ⟨ripasInit_region_extends fuel _ _ _,
    pageLoop_extends _ (fun i => mapProtectedPage_extends _ _ _ i) fuel 0, recordRegion_extends _⟩

theorem mapSharedRegion_extends (plat : Platform) (fuel : ℕ) :
    Code.Keeps (fun s => env.Extends l s.log) (valHostMapSharedRegion env plat fuel) := by
  have hpage : ∀ i, Code.Keeps (fun s => env.Extends l s.log) (mapSharedPage env plat i) := by
    intro i
    refine Code.keeps_block ?_
    simp only [List.forall_mem_cons, List.not_mem_nil, false_implies, implies_true, and_true]
    exact ⟨attempt_extends fun realm _ h => valHostMapUnprotected_extends realm _ _ _ _ h,
      inEachPlane_extends fun realm index _ h => auxMapUnprotected_extends realm.rd _ _ _ index h⟩
  refine Code.keeps_block ?_
  simp only [List.forall_mem_cons, List.not_mem_nil, false_implies, implies_true, and_true]
  exact ⟨pageLoop_extends _ hpage fuel 0, recordRegion_extends _⟩

theorem mapNsSharedRegion_extends (fuel : ℕ) (size memAttr : UInt64) :
    Code.Keeps (fun s => env.Extends l s.log) (valHostMapNsSharedRegion env fuel size memAttr) := by
  intro s hs
  have hmalloc := Env.Extends.malloc hs pageSize size
  unfold valHostMapNsSharedRegion
  dsimp only
  split
  · exact hmalloc
  · refine Code.keeps_block ?_ _ hmalloc
    simp only [List.forall_mem_cons, List.not_mem_nil, false_implies, implies_true, and_true]
    exact ⟨pageLoop_extends _ (fun i => attempt_extends fun realm _ h =>
      mapUnprotected_extends realm.rd _ _ _ _ _ h) fuel 0, recordRegion_extends _⟩

theorem realmSetup_extends (plat : Platform) (fuel : ℕ) (activate : Bool) :
    Code.Keeps (fun s => env.Extends l s.log) (valHostRealmSetup env plat fuel activate) := by
  refine Code.keeps_block ?_
  simp only [List.forall_mem_cons, List.not_mem_nil, false_implies, implies_true, and_true]
  exact ⟨attemptOn_extends fun realm _ h => realmCreate_extends plat.rmmV11 realm h,
    attemptOn_extends fun realm _ h => recCreate_extends realm h, imageMap_extends fuel _ _,
    Code.keeps_forTo fun _ => imageMap_extends fuel _ _, mapSharedRegion_extends plat fuel,
    (attemptOn_extends fun realm _ h => realmActivate_extends realm h).guarded⟩

theorem devMemMap_region_extends (fuel : ℕ) (vdev base top pa : UInt64) :
    Code.Keeps (fun s => env.Extends l s.log) (devMemMap env fuel vdev base top pa) := by
  intro s hs
  unfold devMemMap
  split
  · rename_i hr
    exact devMemMap_extends _ _ _ _ _ _ hs hr
  · rename_i hr
    exact devMemMap_extends _ _ _ _ _ _ hs hr
  · exact hs

end Regions

/-! ## 7. The sequences of the tests -/

section Sequences

variable {env : Env} {l L : Log}

theorem undelegateGranule_extends (hL : env.Extends l L) :
    env.Extends l (valHostUndelegateGranule env L).2 := by
  unfold valHostUndelegateGranule
  dsimp only
  split
  · exact hL.malloc _ _
  · exact hL.malloc _ _

theorem assignRam_extends (rd ipa : UInt64) (hL : env.Extends l L) :
    env.Extends l (assignRam env rd ipa L).2 := by
  have hmap := Code.exit_same_iff.mp (createMapping_extends rd ipa true L hL)
  have hdata : env.Extends l (gDelegatedPrepSequence env (createMapping env rd ipa true L).2).2 :=
    delegateGranule_extends hmap
  have hsrc : env.Extends l (gUndelegatedPrepSequence env
      (gDelegatedPrepSequence env (createMapping env rd ipa true L).2).2).2 :=
    undelegateGranule_extends hdata
  unfold assignRam
  dsimp only
  split
  · exact hmap
  split
  · exact hdata
  split
  · exact hsrc
  · split
    · exact hsrc.rmi _
    · exact hsrc.rmi _

theorem gDataPrepSequence_extends (rd ipa : UInt64) (hL : env.Extends l L) :
    env.Extends l (gDataPrepSequence env rd ipa L).2 := by
  have h := assignRam_extends rd ipa hL
  unfold gDataPrepSequence
  split
  · rename_i hr
    rwa [hr] at h
  · rename_i hr
    rwa [hr] at h

theorem assignedRamPrepSequence_extends (rd : UInt64) (hL : env.Extends l L) :
    env.Extends l (ipaProtectedAssignedRamPrepSequence env rd L).2 := by
  have h := assignRam_extends rd ipaAddrProtectedAssignedRam hL
  unfold ipaProtectedAssignedRamPrepSequence
  split
  · rename_i hr
    rwa [hr] at h
  · rename_i hr
    rwa [hr] at h

theorem assignedEmptyPrepSequence_extends (rd : UInt64) (hL : env.Extends l L) :
    env.Extends l (ipaProtectedAssignedEmptyPrepSequence env rd L).2 := by
  have hmap := Code.exit_same_iff.mp
    (createMapping_extends rd ipaAddrProtectedAssignedEmpty false L hL)
  have hdata : env.Extends l (gDelegatedPrepSequence env
      (createMapping env rd ipaAddrProtectedAssignedEmpty false L).2).2 := delegateGranule_extends hmap
  unfold ipaProtectedAssignedEmptyPrepSequence
  dsimp only
  split
  · exact hmap
  split
  · exact hdata
  · split
    · exact hdata.rmi _
    · exact hdata.rmi _

theorem destroyedPrepSequence_extends (rd : UInt64) (hL : env.Extends l L) :
    env.Extends l (ipaProtectedDestroyedPrepSequence env rd L).2 := by
  have h := assignRam_extends rd ipaAddrDestroyed hL
  unfold ipaProtectedDestroyedPrepSequence
  split
  · rename_i hr
    rwa [hr] at h
  · rename_i hr
    rw [hr] at h
    dsimp only
    split
    · exact h.rmi _
    · exact h.rmi _

end Sequences

end RmmAcs.Realm
