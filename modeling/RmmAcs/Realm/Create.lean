/-
# Creating a realm: `val_host_realm_create`

The function allocates the images, allocates and delegates the starting RTTs, those of the
auxiliary planes if each plane has a tree of its own, and the RD, and creates the realm.  Where
something fails it jumps to one of six labels that fall through each other:

  free_params, undelegate_rtt, free_rtt, undelegate_rd, free_rd, free_par.

The question is whether a call that fails has undelegated exactly what it had delegated.  The
cleanup undelegates the FIRST page of each block of starting RTTs, so a realm with several of
them keeps the others; half-way failures jump behind `undelegate_rtt` and keep all of them; and
the failures before the RD is allocated undelegate `realm->rd` with whatever the structure held on
entry.  Which points are left, `ReleasesAt` says, and `failed_realm_create_releases` that it is
exactly those.
-/
import RmmAcs.Realm.Steps

namespace RmmAcs.Realm

open RmmAcs Lib Rmm

/-! ## 1. The function -/

/-- `PLATFORM_REALM_IMAGE_SIZE`. -/
def platformRealmImageSize : UInt64 := 0x400000 / 2

/-- `VAL_REALM_FLAG_RTT_TREE_PP`. -/
def valRealmFlagRttTreePp : UInt64 := 1

/-- The points at which the function can fail; `i` counts planes, or the pages of the first block
of RTTs, and `j` the pages of the block of a plane. -/
inductive CreatePoint where
  | image
  | auxImage (i : ℕ)
  | rtt
  | rttDelegate (i : ℕ)
  | auxRtt (i : ℕ)
  | auxRttDelegate (i j : ℕ)
  | rd
  | rdDelegate
  | params
  | realmCreate
deriving DecidableEq, Repr

/-- The variables of the function. -/
structure CreateVars where
  realm : HostRealm
  params : UInt64

namespace CreateVars

/-- The first two assignments. -/
def reset (v : CreateVars) : CreateVars :=
  { v with realm := { v.realm with imagePaSize := platformRealmImageSize, state := .null } }

def setImage (a : UInt64) (v : CreateVars) : CreateVars :=
  { v with realm := { v.realm with imagePaBase := a } }

def setAuxImage (i : ℕ) (a : UInt64) (v : CreateVars) : CreateVars :=
  { v with realm := { v.realm with auxImagePaBase := Function.update v.realm.auxImagePaBase i a } }

def setRtt (a : UInt64) (v : CreateVars) : CreateVars :=
  { v with realm := { v.realm with rttL0Addr := a } }

def setAuxRtt (i : ℕ) (a : UInt64) (v : CreateVars) : CreateVars :=
  { v with realm := { v.realm with rttAuxL0Addr := Function.update v.realm.rttAuxL0Addr i a } }

def setRd (a : UInt64) (v : CreateVars) : CreateVars :=
  { v with realm := { v.realm with rd := a } }

def setParams (a : UInt64) (v : CreateVars) : CreateVars := { v with params := a }

def setNew (v : CreateVars) : CreateVars := { v with realm := { v.realm with state := .new } }

/-- `PAGE_SIZE`, as an argument. -/
def page (_ : CreateVars) : UInt64 := pageSize

/-- `realm->num_s2_sl_rtts * PAGE_SIZE`, a product of 32-bit numbers. -/
def rttBytes (v : CreateVars) : UInt64 := (v.realm.numS2SlRtts * 0x1000).toUInt64

end CreateVars

/-- The number of starting RTTs of a tree. -/
def HostRealm.rtts (realm : HostRealm) : ℕ := realm.numS2SlRtts.toNat

/-- `VAL_EXTRACT_BITS(realm->flags1, 0, 0) && realm->num_aux_planes > 0`. -/
def HostRealm.treePerPlane (realm : HostRealm) : Bool :=
  (realm.flags1 &&& 1) != 0 && realm.numAuxPlanes > 0

/-- Page `i` of the block at `a`. -/
def pageAt (a : UInt64) (i : ℕ) : UInt64 := a + UInt64.ofNat i * pageSize

/-- The parameter page.  `rmmV11` is the build option `RMM_V_1_1`. -/
def HostRealm.params (rmmV11 : Bool) (realm : HostRealm) : RealmParams where
  flags := realm.flags
  flags1 :=
    if rmmV11 && realm.numAuxPlanes == 0 then realm.flags1 ||| valRealmFlagRttTreePp
    else realm.flags1
  pmuNumCtrs := realm.pmuNumCtrs.toUInt32
  s2sz := realm.s2sz.toUInt32
  rttBase := realm.rttL0Addr
  hashAlgo := realm.hashAlgo
  rttLevelStart := realm.s2StartingLevel
  rttNumStart := realm.numS2SlRtts
  vmid := realm.vmid
  auxVmid := (List.range realm.numAuxPlanes.toNat).map fun i => realm.vmid + UInt16.ofNat i + 1
  numAuxPlanes := realm.numAuxPlanes
  auxRttBase := (List.range realm.numAuxPlanes.toNat).map realm.rttAuxL0Addr
  numBps := realm.numBps.toUInt32 + 1
  numWps := realm.numWps.toUInt32 + 1
  mecid := realm.mecid
  rpv := realm.rpv

section Functions

open CreateVars

variable (env : Env) (rmmV11 : Bool)

/-- The starting RTTs of one auxiliary plane. -/
def delegateAuxRtts (i : ℕ) : Code (Call CreateVars) CreatePoint :=
  Code.block
    [allocate env rttBytes rttBytes (setAuxRtt i) (.auxRtt i),
      Code.forTo (fun s => s.vars.realm.rtts) fun j =>
        command env (fun v => .granuleDelegate (pageAt (v.realm.rttAuxL0Addr i) j))
          (.auxRttDelegate i j)]

/-- The function down to the first label. -/
def realmCreateBody : Code (Call CreateVars) CreatePoint :=
  Code.block
    [assign reset,
      allocate env page (fun v => v.realm.imagePaSize) setImage .image,
      Code.forTo (fun s => s.vars.realm.numAuxPlanes.toNat) fun i =>
        allocate env page (fun v => v.realm.imagePaSize) (setAuxImage i) (.auxImage i),
      allocate env rttBytes rttBytes setRtt .rtt,
      Code.forTo (fun s => s.vars.realm.rtts) fun i =>
        command env (fun v => .granuleDelegate (pageAt v.realm.rttL0Addr i)) (.rttDelegate i),
      Code.guarded (fun s => s.vars.realm.treePerPlane)
        (Code.forTo (fun s => s.vars.realm.numAuxPlanes.toNat) (delegateAuxRtts env)),
      allocate env page page setRd .rd,
      command env (fun v => .granuleDelegate v.realm.rd) .rdDelegate,
      allocate env page page setParams .params,
      store fun v => .realmParams v.params (v.realm.params rmmV11),
      command env (fun v => .realmCreate v.realm.rd v.params) .realmCreate,
      assign setNew]

/-- `undelegate_rd:` and what follows it; the labels after it only free memory. -/
def undelegateRd : Code (Call CreateVars) CreatePoint := undelegate env fun v => v.realm.rd

/-- `undelegate_rtt:` and what follows it.  Only the first page of each block is undelegated. -/
def undelegateRtt : Code (Call CreateVars) CreatePoint :=
  Code.block
    [undelegate env fun v => v.realm.rttL0Addr,
      Code.guarded (fun s => s.vars.realm.treePerPlane)
        (Code.forTo (fun s => s.vars.realm.numAuxPlanes.toNat) fun i =>
          undelegate env fun v => v.realm.rttAuxL0Addr i),
      undelegateRd env]

/-- Where each point jumps: `return`, `undelegate_rd`, `free_rtt` (which frees memory and falls
through to `undelegate_rd`), `free_par`, `free_rd`, `undelegate_rtt`, `free_params` (which frees
memory and falls through to `undelegate_rtt`). -/
def realmCreateCleanup : CreatePoint → Code (Call CreateVars) CreatePoint
  | .image => Code.skip
  | .auxImage _ => Code.skip
  | .rtt => undelegateRd env
  | .rttDelegate _ => undelegateRd env
  | .auxRtt _ => undelegateRd env
  | .auxRttDelegate _ _ => undelegateRd env
  | .rd => Code.skip
  | .rdDelegate => Code.skip
  | .params => undelegateRtt env
  | .realmCreate => undelegateRtt env

/-- The point at which the RMM or the allocator lets a call fail, if they do. -/
def realmCreateFailsAt (realm : HostRealm) (l : Log) : Option CreatePoint :=
  (realmCreateBody env rmmV11 ⟨⟨realm, 0⟩, l⟩).1

/-- `val_host_realm_create`; `true` is `VAL_SUCCESS`. -/
def valHostRealmCreate (realm : HostRealm) (l : Log) : Bool × HostRealm × Log :=
  match realmCreateBody env rmmV11 ⟨⟨realm, 0⟩, l⟩ with
  | (none, s) => (true, s.vars.realm, s.log)
  | (some p, s) =>
    let s := (realmCreateCleanup env p s).2
    (false, s.vars.realm, s.log)

end Functions

/-! ## 2. Delegating, and giving back -/

/-- A call has delegated the granules `D` and done nothing else to the RMM: each was free before,
and they come on top of what was there on entry. -/
structure Building (l₀ : Log) (D : List UInt64) (seg : Log) : Prop where
  delegations : delegations seg = D
  undelegations : undelegations seg = []
  held : (held seg).delegated = D.reverse
  nodup : D.Nodup
  fresh : ∀ a ∈ D, a ∉ (replay (trace l₀)).delegated
  total : (replay (trace (l₀ ++ seg))).delegated = D.reverse ++ (replay (trace l₀)).delegated
  objs : (replay (trace (l₀ ++ seg))).objs = (replay (trace l₀)).objs

section Building

variable {l₀ seg : Log} {D : List UInt64}

theorem Building.nil (l₀ : Log) : Building l₀ [] [] where
  delegations := rfl
  undelegations := rfl
  held := rfl
  nodup := List.nodup_nil
  fresh := fun _ h => absurd h List.not_mem_nil
  total := by simp
  objs := by simp

/-- An event that changes nothing at the RMM, and is no delegation or undelegation. -/
theorem Building.append (h : Building l₀ D seg) {e : Event} (he : e.command = none) :
    Building l₀ D (seg ++ [e]) := by
  have hdel : e.delegated = none := by
    cases e with
    | smc c r => cases c <;> first | rfl | exact absurd he (by simp [Event.command])
    | _ => rfl
  have hund : e.undelegated = none := by
    cases e with
    | smc c r => cases c <;> first | rfl | exact absurd he (by simp [Event.command])
    | _ => rfl
  refine ⟨?_, ?_, ?_, h.nodup, h.fresh, ?_, ?_⟩
  · rw [delegations_append, h.delegations]
    simp [Realm.delegations, hdel]
  · rw [undelegations_append, h.undelegations]
    simp [Realm.undelegations, hund]
  · rw [held_append_other seg he, h.held]
  · rw [replay_append_other l₀ seg he, h.total]
  · rw [replay_append_other l₀ seg he, h.objs]

/-- A command that is refused, and is no undelegation. -/
theorem Building.refused (h : Building l₀ D seg) {c : Cmd} (hc : ∀ a, c ≠ .granuleUndelegate a)
    {r : SmcRet} (h0 : r.x0 ≠ 0) : Building l₀ D (seg ++ [.smc (.rmi c) r]) := by
  have hdel : Event.delegated (.smc (.rmi c) r) = none := by
    cases c <;> simp [Event.delegated, h0]
  have hund : Event.undelegated (.smc (.rmi c) r) = none := by
    cases c <;> first | rfl | exact absurd rfl (hc _)
  refine ⟨?_, ?_, ?_, h.nodup, h.fresh, ?_, ?_⟩
  · rw [delegations_append, h.delegations]
    simp [Realm.delegations, hdel]
  · rw [undelegations_append, h.undelegations]
    simp [Realm.undelegations, hund]
  · rw [held_rmi, if_neg h0, h.held]
  · rw [replay_append_rmi, if_neg h0, h.total]
  · rw [replay_append_rmi, if_neg h0, h.objs]

/-- **A delegation**: a legal RMM accepts only a granule that is not yet delegated. -/
theorem Building.delegate (h : Building l₀ D seg) {a : UInt64} {r : SmcRet} (h0 : r.x0 = 0)
    (hlegal : (replay (trace (l₀ ++ seg))).Legal (.granuleDelegate a)) :
    Building l₀ (D ++ [a]) (seg ++ [.smc (.rmi (.granuleDelegate a)) r]) := by
  have hnew : a ∉ D.reverse ++ (replay (trace l₀)).delegated := by
    rw [← h.total]
    exact hlegal.2
  rw [List.mem_append, not_or, List.mem_reverse] at hnew
  refine ⟨?_, ?_, ?_, ?_, ?_, ?_, ?_⟩
  · rw [delegations_append, h.delegations]
    simp [Realm.delegations, Event.delegated, h0]
  · rw [undelegations_append, h.undelegations]
    rfl
  · rw [held_rmi, if_pos h0, List.reverse_append]
    simp [RmmState.apply, h.held]
  · exact List.nodup_append.mpr ⟨h.nodup, List.nodup_singleton a, fun x hx y hy hxy =>
      hnew.1 (List.mem_singleton.mp hy ▸ hxy ▸ hx)⟩
  · intro x hx
    rcases List.mem_append.mp hx with hx | hx
    · exact h.fresh x hx
    · rw [List.mem_singleton.mp hx]
      exact hnew.2
  · rw [replay_append_rmi, if_pos h0, List.reverse_append]
    change a :: (replay (trace (l₀ ++ seg))).delegated = _
    rw [h.total]
    rfl
  · rw [replay_append_rmi, if_pos h0, RmmState.apply_objs_of_idle rfl fun _ => rfl]
    exact h.objs

end Building

/-- After a cleanup that asked for the undelegations `U`: of the granules `D` exactly those are
still held that it did not ask for. -/
structure Cleaned (l₀ : Log) (D U : List UInt64) (seg : Log) : Prop where
  delegations : delegations seg = D
  undelegations : undelegations seg = U
  held : ∀ a ∈ D, a ∈ (held seg).delegated ↔ a ∉ U
  total : ∀ a ∈ D, a ∉ U → a ∈ (replay (trace (l₀ ++ seg))).delegated
  objs : (replay (trace (l₀ ++ seg))).objs = (replay (trace l₀)).objs

/-- `val_host_mem_alloc` has nothing to hand out for a request of no bytes. -/
def Env.RefusesEmpty (env : Env) : Prop := ∀ l alignment, env.alloc l alignment 0 = 0

/-- An RMM that gives back every delegated granule that nothing uses. -/
def Env.Undelegates (env : Env) : Prop :=
  ∀ l a, a ∈ (replay (trace l)).delegated → (replay (trace l)).Unused a →
    (env.smc l (.rmi (.granuleUndelegate a))).x0 = 0

section Cleaned

variable {env : Env} {l₀ seg : Log} {D U : List UInt64}

theorem Building.cleaned (h : Building l₀ D seg) : Cleaned l₀ D [] seg where
  delegations := h.delegations
  undelegations := h.undelegations
  held := by
    intro a ha
    rw [h.held, List.mem_reverse]
    simpa using ha
  total := by
    intro a ha _
    rw [h.total, List.mem_append, List.mem_reverse]
    exact Or.inl ha
  objs := h.objs

/-- **One undelegation** of the cleanup.  A granule of `D` is used by nothing: no object was made
since it was delegated, and none used it before. -/
theorem Cleaned.undelegate (h : Cleaned l₀ D U seg) (hund : env.Undelegates)
    (hwf : (replay (trace l₀)).Wf) (hfresh : ∀ a ∈ D, a ∉ (replay (trace l₀)).delegated)
    (a : UInt64) :
    Cleaned l₀ D (U ++ [a])
      (seg ++ [.smc (.rmi (.granuleUndelegate a))
        (env.smc (l₀ ++ seg) (.rmi (.granuleUndelegate a)))]) := by
  have haccept : a ∈ D → a ∉ U →
      (env.smc (l₀ ++ seg) (.rmi (.granuleUndelegate a))).x0 = 0 := by
    intro ha hU
    refine hund _ _ (h.total a ha hU) ?_
    intro o ho hpa
    rw [h.objs] at ho
    exact hfresh a ha (hwf.pa_delegated o ho a hpa)
  refine ⟨?_, ?_, ?_, ?_, ?_⟩
  · rw [delegations_append, h.delegations]
    simp [Realm.delegations, Event.delegated]
  · rw [undelegations_append, h.undelegations]
    rfl
  · intro x hx
    rw [held_rmi, List.mem_append, not_or, List.mem_singleton, ← h.held x hx]
    split
    · simp [RmmState.apply]
    · rename_i h0
      refine ⟨fun hheld => ⟨hheld, ?_⟩, And.left⟩
      -- a granule of `D` that is still held would have been given back
      rintro rfl
      exact h0 (haccept hx ((h.held x hx).mp hheld))
  · intro x hx hU
    rw [List.mem_append, not_or, List.mem_singleton] at hU
    have hold := h.total x hx hU.1
    rw [replay_append_rmi]
    split
    · exact List.mem_filter.mpr ⟨hold, by simpa using hU.2⟩
    · exact hold
  · rw [replay_append_rmi, ← h.objs]
    split
    · exact RmmState.apply_objs_of_idle rfl fun _ => rfl
    · rfl

end Cleaned

/-! ## 3. The granules taken at each point -/

/-- The first `n` pages of the block at `a`. -/
def pages (a : UInt64) (n : ℕ) : List UInt64 := (List.range n).map (pageAt a)

/-- The blocks of the first `i` auxiliary planes. -/
def auxPages (realm : HostRealm) (i : ℕ) : List UInt64 :=
  (List.range i).flatMap fun k => pages (realm.rttAuxL0Addr k) realm.rtts

/-- The planes that have a tree of their own. -/
def HostRealm.trees (realm : HostRealm) : ℕ :=
  if realm.treePerPlane then realm.numAuxPlanes.toNat else 0

/-- All starting RTTs. -/
def allRtts (realm : HostRealm) : List UInt64 :=
  pages realm.rttL0Addr realm.rtts ++ auxPages realm realm.trees

/-- What a call that fails has delegated by then. -/
def granulesAt (realm : HostRealm) : CreatePoint → List UInt64
  | .image => []
  | .auxImage _ => []
  | .rtt => []
  | .rttDelegate i => pages realm.rttL0Addr i
  | .auxRtt i => pages realm.rttL0Addr realm.rtts ++ auxPages realm i
  | .auxRttDelegate i j =>
    pages realm.rttL0Addr realm.rtts ++ auxPages realm i ++ pages (realm.rttAuxL0Addr i) j
  | .rd => allRtts realm
  | .rdDelegate => allRtts realm
  | .params => allRtts realm ++ [realm.rd]
  | .realmCreate => allRtts realm ++ [realm.rd]

/-- The indices of a point are within the loops; behind the first block there are RTTs. -/
def CreatePoint.InRange (realm : HostRealm) : CreatePoint → Prop
  | .image => True
  | .auxImage _ => True
  | .rtt => True
  | .rttDelegate i => i < realm.rtts
  | .auxRtt i => i < realm.trees ∧ 0 < realm.rtts
  | .auxRttDelegate i j => i < realm.trees ∧ j < realm.rtts
  | _ => 0 < realm.rtts

/-- What the function leaves alone of the realm structure. -/
structure Config (realm realm' : HostRealm) : Prop where
  rtts : realm'.numS2SlRtts = realm.numS2SlRtts
  planes : realm'.numAuxPlanes = realm.numAuxPlanes
  flags1 : realm'.flags1 = realm.flags1

theorem pages_succ (a : UInt64) (n : ℕ) : pages a (n + 1) = pages a n ++ [pageAt a n] := by
  simp [pages, List.range_succ]

theorem auxPages_succ (realm : HostRealm) (i : ℕ) :
    auxPages realm (i + 1) = auxPages realm i ++ pages (realm.rttAuxL0Addr i) realm.rtts := by
  simp [auxPages, List.range_succ]

/-- The blocks of earlier planes do not move. -/
theorem auxPages_setAuxRtt (v : CreateVars) (i : ℕ) (a : UInt64) :
    auxPages (v.setAuxRtt i a).realm i = auxPages v.realm i := by
  unfold auxPages
  refine List.flatMap_congr fun k hk => ?_
  have hne : k ≠ i := Nat.ne_of_lt (List.mem_range.mp hk)
  simp [CreateVars.setAuxRtt, Function.update_of_ne hne, HostRealm.rtts]

/-- The points whose cleanup meets `realm->rd` as it was on entry. -/
def CreatePoint.stale : CreatePoint → Bool
  | .rtt => true
  | .rttDelegate _ => true
  | .auxRtt _ => true
  | .auxRttDelegate _ _ => true
  | _ => false

/-- In the middle of a call for `realm`, before the RD is allocated; `K` is what the call has
found out by then. -/
structure Midway (realm : HostRealm) (l₀ : Log) (K : Prop) (D : HostRealm → List UInt64)
    (v : CreateVars) (seg : Log) : Prop where
  known : K
  config : Config realm v.realm
  rd : v.realm.rd = realm.rd
  building : Building l₀ (D v.realm) seg

/-- At the point where a call for `realm` fails. -/
structure FailedAt (realm : HostRealm) (l₀ : Log) (p : CreatePoint) (v : CreateVars) (seg : Log) :
    Prop where
  config : Config realm v.realm
  inRange : p.InRange v.realm
  rd : p.stale = true → v.realm.rd = realm.rd
  building : Building l₀ (granulesAt v.realm p) seg

/-- After the RD is allocated: `realm->rd` is its address. -/
structure Late (realm : HostRealm) (l₀ : Log) (D : HostRealm → List UInt64) (v : CreateVars)
    (seg : Log) : Prop where
  rtts_pos : 0 < v.realm.rtts
  config : Config realm v.realm
  building : Building l₀ (D v.realm) seg

theorem Config.rtts_eq {realm realm' : HostRealm} (h : Config realm realm') :
    realm'.rtts = realm.rtts := by
  rw [HostRealm.rtts, HostRealm.rtts, h.rtts]

theorem Config.treePerPlane_eq {realm realm' : HostRealm} (h : Config realm realm') :
    realm'.treePerPlane = realm.treePerPlane := by
  rw [HostRealm.treePerPlane, HostRealm.treePerPlane, h.flags1, h.planes]

theorem Config.trees_eq {realm realm' : HostRealm} (h : Config realm realm') :
    realm'.trees = realm.trees := by
  rw [HostRealm.trees, HostRealm.trees, h.treePerPlane_eq, h.planes]

section Body

open CreateVars

variable {env : Env} {realm : HostRealm} {l₀ : Log} {K : Prop}

/-- A run of delegations over the pages of a block. -/
theorem delegatePages_triple (henv : env.Legal) (D : HostRealm → List UInt64)
    (base : HostRealm → UInt64) (fail : ℕ → CreatePoint) (n : ℕ)
    (hat : K → ∀ i < n, ∀ v : CreateVars, Config realm v.realm →
      (fail i).InRange v.realm ∧ granulesAt v.realm (fail i) = D v.realm ++ pages (base v.realm) i) :
    Code.Triple (Since l₀ (Midway realm l₀ K D))
      (Code.loop
        (fun i => command env (fun v => .granuleDelegate (pageAt (base v.realm) i)) (fail i)) n)
      (Since l₀ (Midway realm l₀ K fun r => D r ++ pages (base r) n))
      fun p => Since l₀ (FailedAt realm l₀ p) := by
  refine (Code.triple_loop
    (I := fun i => Since l₀ (Midway realm l₀ K fun r => D r ++ pages (base r) i))
    fun i hi => command_triple ?_ ?_).conseq ?_ (fun _ h => h) fun _ _ h => h
  · intro v seg h h0
    refine ⟨h.known, h.config, h.rd, ?_⟩
    rw [pages_succ, ← List.append_assoc]
    exact h.building.delegate h0 (henv _ _ h0)
  · intro v seg r h h0
    obtain ⟨hrange, hgranules⟩ := hat h.known i hi v h.config
    refine ⟨h.config, hrange, fun _ => h.rd, ?_⟩
    rw [hgranules]
    exact h.building.refused (by simp) h0
  · refine fun s hs => hs.mono fun v seg h => ⟨h.known, h.config, h.rd, ?_⟩
    simpa [pages] using h.building

/-- The starting RTTs of one auxiliary plane. -/
theorem delegateAuxRtts_triple (henv : env.Legal) {i : ℕ} (hi : i < realm.trees) :
    Code.Triple
      (Since l₀ (Midway realm l₀ (0 < realm.rtts) fun r => pages r.rttL0Addr r.rtts ++ auxPages r i))
      (delegateAuxRtts env i)
      (Since l₀ (Midway realm l₀ (0 < realm.rtts) fun r => pages r.rttL0Addr r.rtts ++ auxPages r (i + 1)))
      fun p => Since l₀ (FailedAt realm l₀ p) := by
  refine (allocate_triple
    (Q := Midway realm l₀ (0 < realm.rtts) fun r => pages r.rttL0Addr r.rtts ++ auxPages r i) ?_ ?_).cons
    (Code.Triple.cons ?_ Code.triple_nil)
  · intro v seg a h _ _
    refine ⟨h.known, ⟨h.config.rtts, h.config.planes, h.config.flags1⟩, h.rd, ?_⟩
    rw [auxPages_setAuxRtt]
    exact h.building.append rfl
  · intro v seg h
    have hconfig : Config realm (v.setAuxRtt i 0).realm :=
      ⟨h.config.rtts, h.config.planes, h.config.flags1⟩
    refine ⟨hconfig, ?_, fun _ => h.rd, ?_⟩
    · refine ⟨?_, ?_⟩
      · rw [hconfig.trees_eq]
        exact hi
      · rw [hconfig.rtts_eq]
        exact h.known
    · rw [granulesAt, auxPages_setAuxRtt]
      exact h.building.append rfl
  · refine Code.triple_forTo_of_eq (N := realm.rtts) ?_ ?_
    · rintro s ⟨seg, -, h⟩
      exact h.config.rtts_eq
    · refine (delegatePages_triple henv (fun r => pages r.rttL0Addr r.rtts ++ auxPages r i)
        (fun r => r.rttAuxL0Addr i) (fun j => .auxRttDelegate i j) realm.rtts ?_).conseq
        (fun _ h => h) ?_ fun _ _ h => h
      · intro _ j hj v hconfig
        refine ⟨⟨?_, ?_⟩, rfl⟩
        · rw [hconfig.trees_eq]
          exact hi
        · rw [hconfig.rtts_eq]
          exact hj
      · refine fun s hs => hs.mono fun v seg h => ⟨h.known, h.config, h.rd, ?_⟩
        have hb := h.building
        rw [← h.config.rtts_eq] at hb
        rw [auxPages_succ, ← List.append_assoc]
        exact hb

/-- The starting RTTs of all auxiliary planes, if they have trees of their own. -/
theorem delegateAllAuxRtts_triple (henv : env.Legal) :
    Code.Triple (Since l₀ (Midway realm l₀ (0 < realm.rtts) fun r => pages r.rttL0Addr r.rtts))
      (Code.guarded (fun s => s.vars.realm.treePerPlane)
        (Code.forTo (fun s => s.vars.realm.numAuxPlanes.toNat) (delegateAuxRtts env)))
      (Since l₀ (Midway realm l₀ (0 < realm.rtts) allRtts)) fun p => Since l₀ (FailedAt realm l₀ p) := by
  have hzero : ∀ {v seg}, Midway realm l₀ (0 < realm.rtts) (fun r => pages r.rttL0Addr r.rtts) v seg →
      Midway realm l₀ (0 < realm.rtts) (fun r => pages r.rttL0Addr r.rtts ++ auxPages r 0) v seg := by
    intro v seg h
    refine ⟨h.known, h.config, h.rd, ?_⟩
    simpa [auxPages] using h.building
  have hall : ∀ {v seg} {N : ℕ}, N = realm.trees →
      Midway realm l₀ (0 < realm.rtts) (fun r => pages r.rttL0Addr r.rtts ++ auxPages r N) v seg →
      Midway realm l₀ (0 < realm.rtts) allRtts v seg := by
    rintro v seg _ rfl h
    refine ⟨h.known, h.config, h.rd, ?_⟩
    rw [allRtts, h.config.trees_eq]
    exact h.building
  refine Code.Triple.guarded ?_ ?_
  · by_cases htree : realm.treePerPlane = true
    · have htrees : realm.trees = realm.numAuxPlanes.toNat := by rw [HostRealm.trees, if_pos htree]
      refine Code.triple_forTo_of_eq (N := realm.trees) ?_ ?_
      · rintro s ⟨⟨seg, -, h⟩, -⟩
        rw [h.config.planes, htrees]
      · refine (Code.triple_loop
          (I := fun i => Since l₀ (Midway realm l₀ (0 < realm.rtts) fun r =>
            pages r.rttL0Addr r.rtts ++ auxPages r i))
          fun i hi => delegateAuxRtts_triple henv hi).conseq ?_ ?_ fun _ _ h => h
        · exact fun s hs => hs.1.mono fun _ _ h => hzero h
        · exact fun s hs => hs.mono fun _ _ h => hall rfl h
    · rintro s ⟨⟨seg, -, h⟩, hs⟩
      exact absurd (h.config.treePerPlane_eq ▸ hs) htree
  · intro s hs hno
    refine hs.mono fun v seg h => ?_
    obtain ⟨seg', -, h'⟩ := hs
    have htrees : realm.trees = 0 := by
      rw [HostRealm.trees, if_neg]
      rw [← h'.config.treePerPlane_eq, hno]
      decide
    exact hall htrees.symm (hzero h)

/-- A block of no bytes means no RTTs. -/
theorem rtts_pos_of_alloc (hempty : env.RefusesEmpty) {v : CreateVars} {l : Log} {alignment : UInt64}
    (h : env.alloc l alignment v.rttBytes ≠ 0) : 0 < v.realm.rtts := by
  refine Nat.pos_of_ne_zero fun h0 => h ?_
  have hn : v.realm.numS2SlRtts = 0 := UInt32.toNat_inj.mp h0
  have hbytes : v.rttBytes = 0 := by
    rw [rttBytes, hn]
    rfl
  rw [hbytes]
  exact hempty l alignment

/-- **The body**: what a call has delegated when it jumps. -/
theorem realmCreateBody_triple (henv : env.Legal) (hempty : env.RefusesEmpty) (rmmV11 : Bool) :
    Code.Triple (Since l₀ (Midway realm l₀ True fun _ => [])) (realmCreateBody env rmmV11)
      (Since l₀ fun _ _ => True) fun p => Since l₀ (FailedAt realm l₀ p) := by
  refine (assign_triple (Q := Midway realm l₀ True fun _ => []) ?_).cons
    ((allocate_triple (Q := Midway realm l₀ True fun _ => []) ?_ ?_).cons
    ((Code.triple_forTo fun N => (Code.triple_loop
      (I := fun _ => Since l₀ (Midway realm l₀ True fun _ => []))
        fun i _ => allocate_triple ?_ ?_).conseq (fun _ h => h.1) (fun _ h => h)
          fun _ _ h => h).cons
    ((allocate_triple (Q := Midway realm l₀ (0 < realm.rtts) fun _ => []) ?_ ?_).cons
    (Code.Triple.cons
      (R := Since l₀ (Midway realm l₀ (0 < realm.rtts) fun r => pages r.rttL0Addr r.rtts)) ?_
    ((delegateAllAuxRtts_triple henv).cons
    ((allocate_triple (Q := Late realm l₀ allRtts) ?_ ?_).cons
    ((command_triple (Q := Late realm l₀ fun r => allRtts r ++ [r.rd]) ?_ ?_).cons
    ((allocate_triple (Q := Late realm l₀ fun r => allRtts r ++ [r.rd]) ?_ ?_).cons
    ((store_triple (Q := Late realm l₀ fun r => allRtts r ++ [r.rd]) ?_).cons
    ((command_triple (Q := fun _ _ => True) ?_ ?_).cons
    ((assign_triple ?_).cons Code.triple_nil)))))))))))
  -- the images
  · exact fun v seg h =>
      ⟨trivial, ⟨h.config.rtts, h.config.planes, h.config.flags1⟩, h.rd, h.building⟩
  · exact fun v seg a h _ _ =>
      ⟨trivial, ⟨h.config.rtts, h.config.planes, h.config.flags1⟩, h.rd, h.building.append rfl⟩
  · exact fun v seg h =>
      ⟨⟨h.config.rtts, h.config.planes, h.config.flags1⟩, trivial, fun _ => h.rd,
        h.building.append rfl⟩
  · exact fun v seg a h _ _ =>
      ⟨trivial, ⟨h.config.rtts, h.config.planes, h.config.flags1⟩, h.rd, h.building.append rfl⟩
  · exact fun v seg h =>
      ⟨⟨h.config.rtts, h.config.planes, h.config.flags1⟩, trivial, fun _ => h.rd,
        h.building.append rfl⟩
  -- the starting RTTs
  · intro v seg a h ha h0
    refine ⟨?_, ⟨h.config.rtts, h.config.planes, h.config.flags1⟩, h.rd, h.building.append rfl⟩
    rw [← h.config.rtts_eq]
    exact rtts_pos_of_alloc hempty (ha ▸ h0)
  · exact fun v seg h =>
      ⟨⟨h.config.rtts, h.config.planes, h.config.flags1⟩, trivial, fun _ => h.rd,
        h.building.append rfl⟩
  · refine Code.triple_forTo_of_eq (N := realm.rtts) ?_ ?_
    · rintro s ⟨seg, -, h⟩
      exact h.config.rtts_eq
    · refine (delegatePages_triple henv (fun _ => []) (fun r => r.rttL0Addr) (fun i => .rttDelegate i)
        realm.rtts ?_).conseq (fun _ h => h) ?_ fun _ _ h => h
      · intro _ i hi v hconfig
        refine ⟨?_, rfl⟩
        change i < v.realm.rtts
        rw [hconfig.rtts_eq]
        exact hi
      · refine fun s hs => hs.mono fun v seg h => ⟨h.known, h.config, h.rd, ?_⟩
        rw [h.config.rtts_eq]
        exact h.building
  -- the RD
  · intro v seg a h _ _
    have hpos : 0 < v.realm.rtts := by
      rw [h.config.rtts_eq]
      exact h.known
    exact ⟨hpos, ⟨h.config.rtts, h.config.planes, h.config.flags1⟩, h.building.append rfl⟩
  · intro v seg h
    have hpos : 0 < v.realm.rtts := by
      rw [h.config.rtts_eq]
      exact h.known
    exact ⟨⟨h.config.rtts, h.config.planes, h.config.flags1⟩, hpos,
      fun hno => absurd hno (by decide), h.building.append rfl⟩
  · exact fun v seg h h0 => ⟨h.rtts_pos, h.config, h.building.delegate h0 (henv _ _ h0)⟩
  · exact fun v seg r h h0 =>
      ⟨h.config, h.rtts_pos, fun hno => absurd hno (by decide), h.building.refused (by simp) h0⟩
  -- the parameters and the realm
  · exact fun v seg a h _ _ =>
      ⟨h.rtts_pos, ⟨h.config.rtts, h.config.planes, h.config.flags1⟩, h.building.append rfl⟩
  · exact fun v seg h =>
      ⟨⟨h.config.rtts, h.config.planes, h.config.flags1⟩, h.rtts_pos,
        fun hno => absurd hno (by decide), h.building.append rfl⟩
  · exact fun v seg h => ⟨h.rtts_pos, h.config, h.building.append rfl⟩
  · exact fun _ _ _ _ => trivial
  · exact fun v seg r h h0 =>
      ⟨h.config, h.rtts_pos, fun hno => absurd hno (by decide), h.building.refused (by simp) h0⟩
  · exact fun _ _ _ => trivial

end Body

/-! ## 4. The cleanup -/

/-- The undelegations the cleanup of a point asks for. -/
def undelegatedAt (realm : HostRealm) : CreatePoint → List UInt64
  | .image => []
  | .auxImage _ => []
  | .rtt => [realm.rd]
  | .rttDelegate _ => [realm.rd]
  | .auxRtt _ => [realm.rd]
  | .auxRttDelegate _ _ => [realm.rd]
  | .rd => []
  | .rdDelegate => []
  | .params => realm.rttL0Addr :: (List.range realm.trees).map realm.rttAuxL0Addr ++ [realm.rd]
  | .realmCreate => realm.rttL0Addr :: (List.range realm.trees).map realm.rttAuxL0Addr ++ [realm.rd]

section Cleanup

variable {env : Env} {l₀ : Log} {D U : List UInt64} {v₀ : CreateVars}

/-- In the middle of a cleanup, which changes no variable. -/
def Cleaning (l₀ : Log) (v₀ : CreateVars) (D U : List UInt64) (v : CreateVars) (seg : Log) : Prop :=
  v = v₀ ∧ Cleaned l₀ D U seg

theorem undelegate_cleaning (hund : env.Undelegates) (hwf : (replay (trace l₀)).Wf)
    (hfresh : ∀ a ∈ D, a ∉ (replay (trace l₀)).delegated) (addr : CreateVars → UInt64) :
    Code.Triple (Since l₀ (Cleaning l₀ v₀ D U)) (undelegate env addr)
      (Since l₀ (Cleaning l₀ v₀ D (U ++ [addr v₀]))) fun (_ : CreatePoint) _ => False := by
  refine (undelegate_triple (E := fun _ _ _ => False) ?_).conseq (fun _ h => h) (fun _ h => h)
    fun _ _ ⟨_, _, h⟩ => h
  rintro v seg ⟨rfl, h⟩
  exact ⟨rfl, h.undelegate hund hwf hfresh _⟩

theorem undelegateRd_cleaning (hund : env.Undelegates) (hwf : (replay (trace l₀)).Wf)
    (hfresh : ∀ a ∈ D, a ∉ (replay (trace l₀)).delegated) :
    Code.Triple (Since l₀ (Cleaning l₀ v₀ D [])) (undelegateRd env)
      (Since l₀ (Cleaning l₀ v₀ D [v₀.realm.rd])) fun _ _ => False :=
  undelegate_cleaning hund hwf hfresh fun v => v.realm.rd

theorem undelegateRtt_cleaning (hund : env.Undelegates) (hwf : (replay (trace l₀)).Wf)
    (hfresh : ∀ a ∈ D, a ∉ (replay (trace l₀)).delegated) :
    Code.Triple (Since l₀ (Cleaning l₀ v₀ D [])) (undelegateRtt env)
      (Since l₀ (Cleaning l₀ v₀ D (undelegatedAt v₀.realm .params))) fun _ _ => False := by
  let first (i : ℕ) : List UInt64 :=
    v₀.realm.rttL0Addr :: (List.range i).map v₀.realm.rttAuxL0Addr
  refine (undelegate_cleaning hund hwf hfresh _).cons
    (Code.Triple.cons (R := Since l₀ (Cleaning l₀ v₀ D (first v₀.realm.trees)))
      (Code.Triple.guarded ?_ ?_)
      ((undelegate_cleaning hund hwf hfresh _).cons Code.triple_nil))
  · by_cases htree : v₀.realm.treePerPlane = true
    · refine Code.triple_forTo_of_eq (N := v₀.realm.trees) ?_ ?_
      · rintro s ⟨⟨seg, -, hv, -⟩, -⟩
        rw [hv, HostRealm.trees, if_pos htree]
      · refine (Code.triple_loop (I := fun i => Since l₀ (Cleaning l₀ v₀ D (first i)))
          fun i _ => (undelegate_cleaning hund hwf hfresh _).conseq (fun _ h => h) ?_
            fun _ _ h => h).conseq (fun _ h => h.1) (fun _ h => h) fun _ _ h => h
        have hsucc : first (i + 1) = first i ++ [v₀.realm.rttAuxL0Addr i] := by
          simp [first, List.range_succ]
        rw [hsucc]
        exact fun _ h => h
    · rintro s ⟨⟨seg, -, hv, -⟩, hs⟩
      exact absurd (hv ▸ hs) htree
  · rintro s hs hno
    refine hs.mono fun v seg h => ?_
    obtain ⟨_, -, hv, -⟩ := hs
    have htrees : v₀.realm.trees = 0 := by
      rw [HostRealm.trees, if_neg]
      rw [← hv, hno]
      decide
    rw [htrees]
    exact h

/-- **The cleanup of a point** asks for exactly the undelegations of `undelegatedAt`. -/
theorem realmCreateCleanup_cleaning (hund : env.Undelegates) (hwf : (replay (trace l₀)).Wf)
    (hfresh : ∀ a ∈ D, a ∉ (replay (trace l₀)).delegated) (p : CreatePoint) :
    Code.Triple (Since l₀ (Cleaning l₀ v₀ D [])) (realmCreateCleanup env p)
      (Since l₀ (Cleaning l₀ v₀ D (undelegatedAt v₀.realm p))) fun _ _ => False := by
  cases p with
  | image => exact Code.triple_skip
  | auxImage i => exact Code.triple_skip
  | rtt => exact undelegateRd_cleaning hund hwf hfresh
  | rttDelegate i => exact undelegateRd_cleaning hund hwf hfresh
  | auxRtt i => exact undelegateRd_cleaning hund hwf hfresh
  | auxRttDelegate i j => exact undelegateRd_cleaning hund hwf hfresh
  | rd => exact Code.triple_skip
  | rdDelegate => exact Code.triple_skip
  | params => exact undelegateRtt_cleaning hund hwf hfresh
  | realmCreate => exact undelegateRtt_cleaning hund hwf hfresh

end Cleanup

/-! ## 5. Failed calls -/

/-- What a failed call is to have done: every granule it delegated is undelegated, and no other
undelegation was asked for. -/
structure Released (seg : Log) : Prop where
  granules : ∀ a ∈ delegations seg, a ∉ (held seg).delegated
  others : ∀ a ∈ undelegations seg, a ∈ delegations seg

theorem Cleaned.released_iff {l₀ seg : Log} {D U : List UInt64} (h : Cleaned l₀ D U seg) :
    Released seg ↔ D ⊆ U ∧ U ⊆ D := by
  constructor
  · rintro ⟨hgranules, hothers⟩
    rw [h.delegations] at hgranules hothers
    rw [h.undelegations] at hothers
    refine ⟨fun a ha => ?_, fun a ha => hothers a ha⟩
    by_contra hU
    exact hgranules a ha ((h.held a ha).mpr hU)
  · rintro ⟨hDU, hUD⟩
    refine ⟨?_, ?_⟩
    · intro a ha hheld
      rw [h.delegations] at ha
      exact (h.held a ha).mp hheld (hDU ha)
    · intro a ha
      rw [h.undelegations] at ha
      rw [h.delegations]
      exact hUD ha

/-- **The points at which a failed call has released what it took.**  `realm` is the structure on
entry, `rttL0` the block the allocator handed out for the starting RTTs.  Before any RTT is
allocated nothing was taken.  With all RTTs and the RD delegated, the cleanup is complete if each
tree has one starting RTT.  In between it is only if the one granule taken happens to be the
granule that `realm->rd` names on entry. -/
def ReleasesAt (realm : HostRealm) (rttL0 : UInt64) : CreatePoint → Prop
  | .image => True
  | .auxImage _ => True
  | .rtt => False
  | .rttDelegate i => i = 1 ∧ realm.rd = rttL0
  | .auxRtt i => i = 0 ∧ realm.rtts = 1 ∧ realm.rd = rttL0
  | .auxRttDelegate i j => i = 0 ∧ j = 0 ∧ realm.rtts = 1 ∧ realm.rd = rttL0
  | .rd => False
  | .rdDelegate => False
  | .params => realm.rtts = 1
  | .realmCreate => realm.rtts = 1

section Lists

theorem length_pages (a : UInt64) (n : ℕ) : (pages a n).length = n := by simp [pages]

theorem length_auxPages (realm : HostRealm) (i : ℕ) :
    (auxPages realm i).length = i * realm.rtts := by
  induction i with
  | zero => simp [auxPages]
  | succ i ih => rw [auxPages_succ, List.length_append, ih, length_pages, Nat.succ_mul]

theorem pageAt_zero (a : UInt64) : pageAt a 0 = a := by simp [pageAt]

theorem pages_one (a : UInt64) : pages a 1 = [a] := by simp [pages, pageAt]

/-- One undelegation gives back a list without repetitions exactly if it is that one granule. -/
theorem subset_singleton_iff {D : List UInt64} (hD : D.Nodup) (r : UInt64) :
    D ⊆ [r] ∧ [r] ⊆ D ↔ D = [r] := by
  constructor
  · rintro ⟨hDr, hrD⟩
    have hle : D.length ≤ 1 := (List.subperm_of_subset hD hDr).length_le
    have hmem : r ∈ D := hrD List.mem_cons_self
    cases D with
    | nil => exact absurd hmem List.not_mem_nil
    | cons a D =>
      rw [List.length_cons] at hle
      obtain rfl : D = [] := List.length_eq_zero_iff.mp (by omega)
      rw [List.mem_singleton.mp hmem]
  · rintro rfl
    exact ⟨fun _ h => h, fun _ h => h⟩

theorem mem_auxPages {realm : HostRealm} {k i : ℕ} (hk : k < i) (hpos : 0 < realm.rtts) :
    realm.rttAuxL0Addr k ∈ auxPages realm i := by
  refine List.mem_flatMap.mpr ⟨k, List.mem_range.mpr hk, ?_⟩
  exact List.mem_map.mpr ⟨0, List.mem_range.mpr hpos, pageAt_zero _⟩

/-- With everything delegated: the first pages are all the pages exactly if blocks have one. -/
theorem allRtts_released_iff {realm : HostRealm} (hpos : 0 < realm.rtts)
    (hnodup : (allRtts realm ++ [realm.rd]).Nodup) :
    allRtts realm ++ [realm.rd] ⊆ undelegatedAt realm .params ∧
      undelegatedAt realm .params ⊆ allRtts realm ++ [realm.rd] ↔ realm.rtts = 1 := by
  constructor
  · rintro ⟨hDU, -⟩
    by_contra hone
    obtain ⟨m, hm⟩ : ∃ m, realm.rtts = m + 2 := ⟨realm.rtts - 2, by omega⟩
    -- the second page of the first block
    obtain ⟨rest, hpages⟩ : ∃ rest, pages realm.rttL0Addr realm.rtts
        = realm.rttL0Addr :: pageAt realm.rttL0Addr 1 :: rest := by
      rw [hm, pages, List.range_succ_eq_map, List.range_succ_eq_map]
      simp [pageAt_zero]
    rw [allRtts, hpages] at hDU hnodup
    simp only [List.cons_append, List.nodup_cons, List.mem_cons, not_or] at hnodup
    obtain ⟨⟨hne, -⟩, hsecond, -⟩ := hnodup
    have hmem : pageAt realm.rttL0Addr 1 ∈ undelegatedAt realm .params := hDU (by simp)
    rw [undelegatedAt, List.cons_append, List.mem_cons, List.mem_append, List.mem_map,
      List.mem_singleton] at hmem
    rcases hmem with h | ⟨k, hk, h⟩ | h
    · exact hne h.symm
    · refine hsecond ?_
      rw [← h]
      simp [mem_auxPages (List.mem_range.mp hk) hpos]
    · exact hsecond (by rw [h]; simp)
  · intro hone
    have heq : allRtts realm ++ [realm.rd] = undelegatedAt realm .params := by
      simp only [allRtts, auxPages, hone, pages_one, undelegatedAt]
      rw [← List.map_eq_flatMap]
      simp
    rw [heq]
    exact ⟨fun _ h => h, fun _ h => h⟩

/-- **What is taken is what is given back** exactly at the points of `ReleasesAt`. -/
theorem granulesAt_eq_undelegatedAt_iff {realm realm' : HostRealm} {p : CreatePoint}
    (hconfig : Config realm realm') (hrange : p.InRange realm')
    (hrd : p.stale = true → realm'.rd = realm.rd) (hnodup : (granulesAt realm' p).Nodup) :
    granulesAt realm' p ⊆ undelegatedAt realm' p ∧ undelegatedAt realm' p ⊆ granulesAt realm' p ↔
      ReleasesAt realm realm'.rttL0Addr p := by
  have hrtts := hconfig.rtts_eq
  have hnonempty : 0 < realm'.rtts → ¬ allRtts realm' ⊆ [] := by
    intro hpos hsub
    have hlen := congrArg List.length (List.subset_nil.mp hsub)
    rw [allRtts, List.length_append, length_pages, List.length_nil] at hlen
    omega
  cases p with
  | image => simp [granulesAt, undelegatedAt, ReleasesAt]
  | auxImage i => simp [granulesAt, undelegatedAt, ReleasesAt]
  | rtt => simp [granulesAt, undelegatedAt, ReleasesAt]
  | rttDelegate i =>
    rw [undelegatedAt, subset_singleton_iff hnodup, granulesAt, ReleasesAt, hrd rfl]
    constructor
    · intro h
      obtain rfl : i = 1 := by simpa [length_pages] using congrArg List.length h
      rw [pages_one] at h
      exact ⟨rfl, (List.cons.inj h).1.symm⟩
    · rintro ⟨rfl, h⟩
      rw [pages_one, h]
  | auxRtt i =>
    rw [undelegatedAt, subset_singleton_iff hnodup, granulesAt, ReleasesAt, hrd rfl]
    constructor
    · intro h
      have hlen := congrArg List.length h
      rw [List.length_append, length_pages, length_auxPages, List.length_singleton] at hlen
      have hone : realm'.rtts = 1 := by have := hrange.2; omega
      obtain rfl : i = 0 := by rw [hone] at hlen; omega
      rw [hone, pages_one] at h
      exact ⟨rfl, hrtts ▸ hone, (List.cons.inj h).1.symm⟩
    · rintro ⟨rfl, hone, h⟩
      rw [hrtts, hone, pages_one, h]
      simp [auxPages]
  | auxRttDelegate i j =>
    rw [undelegatedAt, subset_singleton_iff hnodup, granulesAt, ReleasesAt, hrd rfl]
    constructor
    · intro h
      have hlen := congrArg List.length h
      rw [List.length_append, List.length_append, length_pages, length_pages, length_auxPages,
        List.length_singleton] at hlen
      have hj : j < realm'.rtts := hrange.2
      have hone : realm'.rtts = 1 := by omega
      obtain rfl : j = 0 := by omega
      obtain rfl : i = 0 := by rw [hone] at hlen; omega
      rw [hone, pages_one] at h
      exact ⟨rfl, rfl, hrtts ▸ hone, (List.cons.inj h).1.symm⟩
    · rintro ⟨rfl, rfl, hone, h⟩
      rw [hrtts, hone, pages_one, h]
      simp [auxPages, pages]
  | rd => exact ⟨fun h => hnonempty hrange h.1, False.elim⟩
  | rdDelegate => exact ⟨fun h => hnonempty hrange h.1, False.elim⟩
  | params =>
    rw [ReleasesAt, ← hrtts]
    exact allRtts_released_iff hrange hnodup
  | realmCreate =>
    rw [ReleasesAt, ← hrtts]
    exact allRtts_released_iff hrange hnodup

end Lists

/-- **A failed call has released what it took exactly at the points of `ReleasesAt`.** -/
theorem failed_realm_create_releases {env : Env} (henv : env.Legal) (hempty : env.RefusesEmpty)
    (hund : env.Undelegates) {rmmV11 : Bool} {realm realm' : HostRealm} {l l' : Log}
    (hl : LegalTrace (trace l))
    (h : valHostRealmCreate env rmmV11 realm l = (false, realm', l')) :
    Released (own l l') ↔
      ∃ p, realmCreateFailsAt env rmmV11 realm l = some p ∧
        ReleasesAt realm realm'.rttL0Addr p := by
  have hbody : Code.Exit (Since l fun _ _ => True) (fun p => Since l (FailedAt realm l p))
      (realmCreateBody env rmmV11 ⟨⟨realm, 0⟩, l⟩) :=
    realmCreateBody_triple henv hempty rmmV11 _
      ⟨[], by simp, trivial, ⟨rfl, rfl, rfl⟩, rfl, .nil l⟩
  unfold realmCreateFailsAt
  unfold valHostRealmCreate at h
  match hr : realmCreateBody env rmmV11 ⟨⟨realm, 0⟩, l⟩ with
  | (none, s) =>
    rw [hr] at h
    exact absurd h (by simp)
  | (some p, s) =>
    rw [hr] at h hbody
    obtain ⟨seg, hlog, hfailed⟩ := hbody
    obtain ⟨seg', hlog', hvars, hcleaned⟩ :=
      (realmCreateCleanup_cleaning hund hl.wf hfailed.building.fresh p s
        ⟨seg, hlog, rfl, hfailed.building.cleaned⟩).falls
    obtain ⟨hrealm, hl'⟩ := Prod.mk.inj (Prod.mk.inj h).2
    simp only [Option.some.injEq, exists_eq_left']
    rw [← hl', hlog', own_append, hcleaned.released_iff, ← hrealm, hvars]
    exact granulesAt_eq_undelegatedAt_iff hfailed.config hfailed.inRange hfailed.rd
      hfailed.building.nodup

/-! ## 6. A realm with two starting RTTs -/

theorem heapEnv_refusesEmpty (heap : HeapState) (smc : Log → Smc → SmcRet) :
    (heapEnv heap smc).RefusesEmpty := by
  intro l alignment
  simp [heapEnv, valHostMemAlloc]

theorem faultyRmm_undelegates (heap : HeapState) {refuse : Trace → Cmd → Bool}
    (asked : Smc → SmcRet) (hrefuse : ∀ tr a, refuse tr (.granuleUndelegate a) = false) :
    (heapEnv heap (faultyRmm refuse asked)).Undelegates := by
  intro l a ha hunused
  have hlegal : refuse (trace l) (.granuleUndelegate a) = false ∧
      (replay (trace l)).Legal (.granuleUndelegate a) := ⟨hrefuse _ a, ha, hunused⟩
  simp only [heapEnv, faultyRmm, if_pos hlegal]

/-- A realm whose tree starts with two concatenated RTTs. -/
def twoRtts : HostRealm := { HostRealm.cleared with numS2SlRtts := 2 }

/-- The RMM refuses to create a realm. -/
def refusingRealm : Env :=
  heapEnv valHostMemAllocInit
    (faultyRmm
      (fun _ c =>
        match c with
        | .realmCreate _ _ => true
        | _ => false)
      fun _ => ⟨1, 0, 0⟩)

/-- The second RTT is left behind. -/
theorem failed_realm_create_keeps_second_rtt :
    ∃ realm' l', valHostRealmCreate refusingRealm false twoRtts [] = (false, realm', l') ∧
      ¬ Released (own [] l') ∧ (held (own [] l')).delegated = [realm'.rttL0Addr + 0x1000] := by
  have hheld : (held (own [] (valHostRealmCreate refusingRealm false twoRtts []).2.2)).delegated
      = [(valHostRealmCreate refusingRealm false twoRtts []).2.1.rttL0Addr + 0x1000] := by
    decide +kernel
  refine ⟨_, _, failed_eq (by decide +kernel), fun h => ?_, hheld⟩
  refine h.granules _ ?_ (hheld ▸ List.mem_cons_self)
  decide +kernel

theorem failed_realm_create_releases_two_rtts :
    refusingRealm.Legal ∧ refusingRealm.RefusesEmpty ∧ refusingRealm.Undelegates ∧
      ¬ Released (own [] (valHostRealmCreate refusingRealm false twoRtts []).2.2) := by
  have hlegal : refusingRealm.Legal := faultyRmm_legal _ _ _
  have hempty : refusingRealm.RefusesEmpty := heapEnv_refusesEmpty _ _
  have hund : refusingRealm.Undelegates := faultyRmm_undelegates _ _ fun _ _ => rfl
  have hnil : LegalTrace (trace []) := legalTrace_nil
  refine ⟨hlegal, hempty, hund, ?_⟩
  rw [failed_realm_create_releases hlegal hempty hund hnil (failed_eq (by decide +kernel))]
  have hpoint : realmCreateFailsAt refusingRealm false twoRtts [] = some .realmCreate := by
    decide +kernel
  simp only [hpoint, Option.some.injEq, exists_eq_left', ReleasesAt]
  decide

end RmmAcs.Realm
