/-
# The realm functions on the host

The realm functions are modelled over an environment, the granule tracker under the wrappers of
`val_host_rmi.c`.  In the suite they are one program: each command a realm function issues goes
through its wrapper, which tells the tracker, and the memory it asks for comes from the heap that
the tracker's nodes come from.  Here the two models are put together.

A realm function that is called on a host runs in the environment which that host answers for, and
its log, replayed through the wrappers and the heap, is what the call does to the host.  Every log
of a realm function can be replayed so, and gives the history it has seen (`after_trace`).

So what is known of the tracker along runs of wrappers holds along runs of realm functions.  They
fail in many places and leave granules behind; but the tracker has a node for every one of them,
and the cleanup at the end of the test gives them back.
-/
import RmmAcs.Realm.Extends
import RmmAcs.Tracker.Cleanup

namespace RmmAcs.Realm

open RmmAcs Lib Rmm
open RmmAcs.Granules (Host Act Fault Kept valHostRmi valHostPostamble)

/-! ## 1. A host that answers -/

/-- The other side of a test: the RMM and its answers to the commands the tracker does not follow,
what it writes to the run pages, and the build. -/
structure Suite where
  rmm : Monitor
  asked : Host → Log → Smc → SmcRet
  exits : Host → Log → RecExit
  plat : Platform

/-- What an event is to the host: a call of a wrapper, or a request for memory. -/
def Event.act : Event → Option Act
  | .smc (.rmi c) _ => some (.call c)
  | .alloc alignment size _ => some (.alloc (.host alignment size))
  | _ => none

namespace Suite

variable (S : Suite)

/-- What an event does to the host. -/
def take (e : Event) (s : Host) : Except Fault Host :=
  match e.act with
  | some a => a.exec S.rmm S.plat.rmmV11 s
  | none => .ok s

/-- The host after the events of a log, or the fault that it died of. -/
def after (h : Host) (l : Log) : Except Fault Host := l.foldlM (fun s e => S.take e s) h

/-- The environment of a call on `h`: a command is answered by its wrapper, a request for memory by
the heap.  What a dead host answers does not matter. -/
def env (h : Host) : Env where
  smc := fun l c =>
    match c, S.after h l with
    | .rmi c, .ok s =>
      match valHostRmi S.rmm c s with
      | .ok (r, _) => r
      | .error _ => ⟨1, 0, 0⟩
    | .rmi _, .error _ => ⟨1, 0, 0⟩
    | c, _ => S.asked h l c
  alloc := fun l alignment size =>
    match S.after h l with
    | .ok s => (valHostMemAlloc alignment size s.tracker.heap).1
    | .error _ => 0

end Suite

/-- A call of a realm function, or of one of the sequences of the tests. -/
inductive RealmCall where
  | realmCreate (realm : HostRealm)
  | recCreate (realm : HostRealm)
  | realmActivate (realm : HostRealm)
  | createRttLevels (rd ipa rttLevel rttMaxLevel rttAlignment : UInt64)
  | createAuxRttLevels (rd ipa rttLevel rttMaxLevel rttAlignment index : UInt64)
  | createMapping (rd ipa : UInt64) (ripasInit : Bool)
  | createAuxMapping (rd ipa index : UInt64)
  | delegateGranule
  | mapProtectedData (rd targetPa ipa rttMapSize srcPa : UInt64)
  | mapProtectedDataUnknown (rd targetPa ipa rttMapSize : UInt64)
  | mapProtectedDevMem (rd vdev targetPa ipa rttMapSize : UInt64)
  | mapUnprotected (realm : HostRealm) (nsPa ipa rttMapSize rttAlignment : UInt64)
  | mapUnprotectedAttr (realm : HostRealm) (nsPa ipa rttMapSize rttAlignment memAttr : UInt64)
  | auxMapProtectedData (rd ipa index : UInt64)
  | auxMapUnprotected (rd ipa rttMapSize rttAlignment index : UInt64)
  | ripasInit (rd base top rttLevel rttAlignment : UInt64)
  | setS2ap (realm : HostRealm)
  | region (c : RegionCall) (realm : HostRealm) (granules devGranules : RegionTable)
  | dataPrep (rd ipa : UInt64)
  | assignedRamPrep (rd : UInt64)
  | assignedEmptyPrep (rd : UInt64)
  | destroyedPrep (rd : UInt64)

/-- The log of a call on `h`; `none` is a call that has not returned after so many rounds. -/
def RealmCall.run (S : Suite) (h : Host) (fuel : ℕ) : RealmCall → Option Log
  | realmCreate realm => some (valHostRealmCreate (S.env h) S.plat.rmmV11 realm []).2.2
  | recCreate realm => some (valHostRecCreate (S.env h) realm []).2.2
  | realmActivate realm => some (valHostRealmActivate (S.env h) realm []).2.2
  | createRttLevels rd ipa rttLevel rttMaxLevel rttAlignment =>
    some (valHostCreateRttLevels (S.env h) rd ipa rttLevel rttMaxLevel rttAlignment []).2
  | createAuxRttLevels rd ipa rttLevel rttMaxLevel rttAlignment index =>
    some (valHostCreateAuxRttLevels (S.env h) rd ipa rttLevel rttMaxLevel rttAlignment index []).2
  | createMapping rd ipa ripas => some (Realm.createMapping (S.env h) rd ipa ripas []).2
  | createAuxMapping rd ipa index => some (valHostCreateAuxMapping (S.env h) rd ipa index []).2
  | delegateGranule => some (valHostDelegateGranule (S.env h) []).2
  | mapProtectedData rd targetPa ipa rttMapSize srcPa =>
    some (valHostMapProtectedData (S.env h) rd targetPa ipa rttMapSize srcPa []).2
  | mapProtectedDataUnknown rd targetPa ipa rttMapSize =>
    some (valHostMapProtectedDataUnknown (S.env h) rd targetPa ipa rttMapSize []).2
  | mapProtectedDevMem rd vdev targetPa ipa rttMapSize =>
    some (valHostMapProtectedDevMem (S.env h) rd vdev targetPa ipa rttMapSize []).2
  | mapUnprotected realm nsPa ipa rttMapSize rttAlignment =>
    some (valHostMapUnprotected (S.env h) realm nsPa ipa rttMapSize rttAlignment []).2
  | mapUnprotectedAttr realm nsPa ipa rttMapSize rttAlignment memAttr =>
    some (valHostMapUnprotectedAttr (S.env h) realm nsPa ipa rttMapSize rttAlignment memAttr []).2
  | auxMapProtectedData rd ipa index =>
    some (valHostAuxMapProtectedData (S.env h) rd ipa index []).2
  | auxMapUnprotected rd ipa rttMapSize rttAlignment index =>
    some (valHostAuxMapUnprotected (S.env h) rd ipa rttMapSize rttAlignment index []).2
  | ripasInit rd base top rttLevel rttAlignment =>
    (valHostRipasInit (S.env h) rd base top rttLevel rttAlignment fuel []).map Prod.snd
  | setS2ap realm => (valHostSetS2ap (S.env h) (S.exits h) realm fuel fuel []).map Prod.snd
  | region c realm granules devGranules =>
    some (c.exec (S.env h) S.plat fuel ⟨realm, granules, devGranules, []⟩).2.log
  | dataPrep rd ipa => some (gDataPrepSequence (S.env h) rd ipa []).2
  | assignedRamPrep rd => some (ipaProtectedAssignedRamPrepSequence (S.env h) rd []).2
  | assignedEmptyPrep rd => some (ipaProtectedAssignedEmptyPrepSequence (S.env h) rd []).2
  | destroyedPrep rd => some (ipaProtectedDestroyedPrepSequence (S.env h) rd []).2

/-- What a test does: an act on the host, or a call of a realm function. -/
inductive TestAct where
  | act (a : Act)
  | realm (c : RealmCall)

namespace Suite

variable (S : Suite) (allowed : Host → Act → Prop)

/-- Each act of the log, on the host as it then is, is allowed, and each request for memory fits. -/
def Allows (h : Host) (l : Log) : Prop :=
  ∀ pre e post a s, l = pre ++ e :: post → e.act = some a → S.after h pre = .ok s →
    a.Fits ∧ allowed s a

/-- A step of a test. -/
def Step (h : Host) : TestAct → Host → Prop
  | .act a, h' => Granules.Step S.rmm S.plat.rmmV11 allowed h a h'
  | .realm c, h' =>
    ∃ fuel l, c.run S h fuel = some l ∧ S.Allows allowed h l ∧ S.after h l = .ok h'

/-- `h` is reached by a test, over some memory and some heap. -/
def Reachable (h : Host) : Prop :=
  ∃ mem heap acts, HeapState.Ok (2 ^ 32) heap ∧
    Reach (S.Step allowed) (Host.start mem heap) acts h

end Suite

/-! ## 2. Every log can be replayed -/

/-- **A realm function only asks.** -/
theorem RealmCall.run_extends {S : Suite} {h : Host} {fuel : ℕ} {l : Log} {c : RealmCall}
    (hrun : c.run S h fuel = some l) : (S.env h).Extends [] l := by
  have hstart : (S.env h).Extends [] [] := .refl
  cases c with
  | ripasInit rd base top rttLevel rttAlignment =>
    obtain ⟨⟨ok, l'⟩, hr, rfl⟩ := Option.map_eq_some_iff.mp hrun
    exact ripasInit_extends rd base top rttLevel rttAlignment fuel [] hstart hr
  | setS2ap realm =>
    obtain ⟨⟨ok, l'⟩, hr, rfl⟩ := Option.map_eq_some_iff.mp hrun
    exact setS2ap_extends (S.exits h) realm fuel fuel [] hstart hr
  | region c realm granules devGranules =>
    obtain rfl := Option.some.inj hrun
    have hs : (S.env h).Extends [] (MappedRealm.mk realm granules devGranules []).log := hstart
    cases c with
    | setup activate => exact Code.exit_same_iff.mp (realmSetup_extends S.plat fuel activate _ hs)
    | mapProtectedDataToRealm d =>
      exact Code.exit_same_iff.mp (mapProtectedDataToRealm_extends fuel d _ hs)
    | mapNsSharedRegion size memAttr =>
      exact Code.exit_same_iff.mp (mapNsSharedRegion_extends fuel size memAttr _ hs)
    | devMemMap vdev base top pa =>
      exact Code.exit_same_iff.mp (devMemMap_region_extends fuel vdev base top pa _ hs)
  | realmCreate realm => exact Option.some.inj hrun ▸ realmCreate_extends _ realm hstart
  | recCreate realm => exact Option.some.inj hrun ▸ recCreate_extends realm hstart
  | realmActivate realm => exact Option.some.inj hrun ▸ realmActivate_extends realm hstart
  | createRttLevels rd ipa rttLevel rttMaxLevel rttAlignment =>
    exact Option.some.inj hrun ▸ Code.exit_same_iff.mp
      (createRttLevels_extends rd ipa rttLevel rttMaxLevel rttAlignment [] hstart)
  | createAuxRttLevels rd ipa rttLevel rttMaxLevel rttAlignment index =>
    exact Option.some.inj hrun ▸ Code.exit_same_iff.mp
      (createAuxRttLevels_extends rd ipa rttLevel rttMaxLevel rttAlignment index [] hstart)
  | createMapping rd ipa ripas =>
    exact Option.some.inj hrun ▸ Code.exit_same_iff.mp
      (createMapping_extends rd ipa ripas [] hstart)
  | createAuxMapping rd ipa index =>
    exact Option.some.inj hrun ▸ Code.exit_same_iff.mp
      (createAuxMapping_extends rd ipa index [] hstart)
  | delegateGranule => exact Option.some.inj hrun ▸ delegateGranule_extends hstart
  | mapProtectedData rd targetPa ipa rttMapSize srcPa =>
    exact Option.some.inj hrun ▸ mapProtected_extends rd _ targetPa ipa rttMapSize srcPa hstart
  | mapProtectedDataUnknown rd targetPa ipa rttMapSize =>
    exact Option.some.inj hrun ▸ mapProtected_extends rd _ targetPa ipa rttMapSize 0 hstart
  | mapProtectedDevMem rd vdev targetPa ipa rttMapSize =>
    exact Option.some.inj hrun ▸ mapProtectedDevMem_extends rd vdev targetPa ipa rttMapSize hstart
  | mapUnprotected realm nsPa ipa rttMapSize rttAlignment =>
    exact Option.some.inj hrun ▸
      valHostMapUnprotected_extends realm nsPa ipa rttMapSize rttAlignment hstart
  | mapUnprotectedAttr realm nsPa ipa rttMapSize rttAlignment memAttr =>
    exact Option.some.inj hrun ▸ mapUnprotected_extends realm.rd _ _ ipa rttMapSize _ hstart
  | auxMapProtectedData rd ipa index =>
    exact Option.some.inj hrun ▸ auxMapProtectedData_extends rd ipa index hstart
  | auxMapUnprotected rd ipa rttMapSize rttAlignment index =>
    exact Option.some.inj hrun ▸ auxMapUnprotected_extends rd ipa rttMapSize _ index hstart
  | dataPrep rd ipa => exact Option.some.inj hrun ▸ gDataPrepSequence_extends rd ipa hstart
  | assignedRamPrep rd => exact Option.some.inj hrun ▸ assignedRamPrepSequence_extends rd hstart
  | assignedEmptyPrep rd => exact Option.some.inj hrun ▸ assignedEmptyPrepSequence_extends rd hstart
  | destroyedPrep rd => exact Option.some.inj hrun ▸ destroyedPrepSequence_extends rd hstart

section Replay

variable {S : Suite} {h h' : Host} {l : Log}

theorem Suite.after_snoc (S : Suite) (h : Host) (l : Log) (e : Event) :
    S.after h (l ++ [e]) = S.after h l >>= S.take e := by
  rw [after, after, List.foldlM_append]
  simp only [List.foldlM_cons, List.foldlM_nil, bind_pure]

/-- A host that is alive was alive before. -/
theorem Suite.after_snoc_ok {e : Event} (hok : S.after h (l ++ [e]) = .ok h') :
    ∃ s, S.after h l = .ok s ∧ S.take e s = .ok h' := by
  rw [S.after_snoc] at hok
  cases hs : S.after h l with
  | error e =>
    rw [hs] at hok
    cases hok
  | ok s =>
    rw [hs] at hok
    exact ⟨s, rfl, hok⟩

/-- **The log of a call is the history of its replay**: what the function was told is what the
wrappers return. -/
theorem after_trace (hext : (S.env h).Extends [] l) (hok : S.after h l = .ok h') :
    h'.trace = h.trace ++ trace l := by
  induction hext generalizing h' with
  | refl =>
    obtain rfl : h = h' := Except.ok.inj hok
    rw [trace_nil, List.append_nil]
  | call _ c ih =>
    rename_i L _
    obtain ⟨s, hs, ht⟩ := Suite.after_snoc_ok hok
    cases c with
    | rmi c =>
      obtain ⟨r, hc⟩ := Granules.map_snd_ok ht
      obtain ⟨-, htrace⟩ := valHostRmi_trace hc
      have hanswer : (S.env h).smc L (.rmi c) = r := by simp only [Suite.env, hs, hc]
      rw [htrace, ih hs, Env.call, hanswer, trace_append, List.append_assoc]
      rfl
    | _ =>
      obtain rfl : s = h' := Except.ok.inj ht
      rw [ih hs, Env.call, trace_append_other _ rfl]
  | malloc _ alignment size ih =>
    obtain ⟨s, hs, ht⟩ := Suite.after_snoc_ok hok
    obtain rfl := Except.ok.inj ht
    rw [Env.malloc, trace_append_other _ rfl, ← ih hs]
  | realmParams _ ptr params ih =>
    obtain ⟨s, hs, ht⟩ := Suite.after_snoc_ok hok
    obtain rfl : s = h' := Except.ok.inj ht
    rw [ih hs, trace_append_other _ rfl]
  | recParams _ ptr params ih =>
    obtain ⟨s, hs, ht⟩ := Suite.after_snoc_ok hok
    obtain rfl : s = h' := Except.ok.inj ht
    rw [ih hs, trace_append_other _ rfl]

variable {allowed : Host → Act → Prop}

theorem Suite.Allows.of_snoc {e : Event} (hall : S.Allows allowed h (l ++ [e])) :
    S.Allows allowed h l := by
  rintro pre e' post a s rfl ha hs
  exact hall pre e' (post ++ [e]) a s (by simp) ha hs

/-- **The replay is a run of the host.** -/
theorem reach_of_after (hall : S.Allows allowed h l) (hok : S.after h l = .ok h') :
    Reach (Granules.Step S.rmm S.plat.rmmV11 allowed) h (l.filterMap Event.act) h' := by
  induction l using List.reverseRecOn generalizing h' with
  | nil =>
    obtain rfl : h = h' := Except.ok.inj hok
    exact .nil
  | append_singleton l e ih =>
    obtain ⟨s, hs, ht⟩ := Suite.after_snoc_ok hok
    have hrun := ih hall.of_snoc hs
    cases ha : e.act with
    | none =>
      rw [Suite.take, ha] at ht
      obtain rfl : s = h' := Except.ok.inj ht
      rwa [List.filterMap_append, List.filterMap_cons_none ha, List.filterMap_nil, List.append_nil]
    | some a =>
      rw [Suite.take, ha] at ht
      obtain ⟨hfits, hin⟩ := hall l e [] a s rfl ha hs
      rw [List.filterMap_append, List.filterMap_cons_some ha, List.filterMap_nil]
      exact hrun.snoc ⟨hfits, hin, ht⟩

/-- **Tests refine to runs of wrappers**: every test that calls realm functions is a run of the
wrappers and the heap alone. -/
theorem Suite.Reachable.wrappers (hreach : S.Reachable allowed h) :
    Granules.Reachable S.rmm S.plat.rmmV11 allowed h := by
  obtain ⟨mem, heap, tacts, hheap, hrun⟩ := hreach
  suffices hacts : ∃ acts, Reach (Granules.Step S.rmm S.plat.rmmV11 allowed)
      (Host.start mem heap) acts h by
    obtain ⟨acts, hacts⟩ := hacts
    exact ⟨mem, heap, acts, hheap, hacts⟩
  refine hrun.invariant (I := fun s => ∃ acts, Reach (Granules.Step S.rmm S.plat.rmmV11 allowed)
    (Host.start mem heap) acts s) ⟨[], .nil⟩ ?_
  rintro s a s' ⟨acts, hacts⟩ hstep
  cases a with
  | act a => exact ⟨_, hacts.snoc hstep⟩
  | realm c =>
    obtain ⟨fuel, l, -, hall, hok⟩ := hstep
    exact ⟨_, hacts.trans (reach_of_after hall hok)⟩

end Replay

/-! ## 3. Realm functions do not break the tracker -/

/-- The tracker is tidy, and the RMM has no tables but the ones the cleanup looks for. -/
structure Tame (U : UInt64 → Prop) (planes : Prop) (A : Granules.Lists) (R : RmmState) : Prop where
  tidy : Granules.Tidy U A R
  known : ∀ o ∈ R.objs, Granules.Known planes o

theorem stable_tame (U : UInt64 → Prop) (planes : Prop) :
    Granules.Stable (Tame U planes) fun A _ c =>
      Granules.Fitting U A c ∧ ∀ o, c.makes = some o → Granules.Known planes o where
  enter := fun rd ht => ⟨(Granules.stable_tidy U).enter rd ht.tidy, ht.known⟩
  effect := fun hrep hw hl ht hok he => by
    refine ⟨ht.tidy.effect hrep hw hl hok.1 he, fun o ho => ?_⟩
    rcases RmmState.mem_apply_objs.mp ho with ⟨ho, -⟩ | hm
    · exact ht.known o ho
    · exact hok.2 o hm
  ends := fun {A R c} he =>
    ⟨(Granules.stable_tidy U).ends (A := A) (R := R) he,
      fun o hm => absurd (he.1.symm.trans hm) (by simp)⟩

namespace Suite

variable (S : Suite)

/-- There are auxiliary trees to be cleaned up: the suite is built for planes, and the RMM says that
it has them. -/
def Planes : Prop :=
  S.plat.rmmV11 = true ∧ ∀ t, Granules.planesSupported (S.rmm t (.features 0)).x1 = true

/-- **The RMM makes tables of the levels 1 to 3 only**, and auxiliary ones only where there are
planes, with an index from 1 to 3. -/
def KnownTables : Prop :=
  ∀ tr c o, (S.rmm tr c).x0 = 0 → c.makes = some o → Granules.Known S.Planes o

end Suite

section Tame

variable {S : Suite} {U : UInt64 → Prop} {h h' : Host} {l : Log}

/-- One act keeps the tracker tame. -/
theorem tame_exec (hr : LegalMonitor S.rmm) (hk : S.KnownTables) {a : Act} {s s' : Host}
    (hs : Kept (Tame U S.Planes) s) (hfits : a.Fits) (hin : Granules.Within S.rmm U 9 s a)
    (he : a.exec S.rmm S.plat.rmmV11 s = .ok s') : Kept (Tame U S.Planes) s' := by
  refine hs.exec (stable_tame U S.Planes) hr hfits ?_ ?_ ?_ he
  · rintro c rfl A hh h0
    exact ⟨hh.inv.tidy.fitting hr hin h0, fun o ho => hk _ c o h0 ho⟩
  · rintro rd ipa rfl
    exact absurd hin not_false
  · rintro rfl
    exact absurd hin not_false

/-- What an event does to a tame host: it goes on, or there is no memory for a node. -/
theorem take_progress (hr : LegalMonitor S.rmm) {e : Event} {s : Host}
    (hs : Kept (Tame U S.Planes) s) :
    S.take e s = .error .noMemory ∨ ∃ s', S.take e s = .ok s' := by
  obtain ⟨A, hh⟩ := hs
  cases e with
  | smc c r =>
    cases c with
    | rmi c =>
      have htotal : valHostRmi S.rmm c s = .error .noMemory ∨
          ∃ r s', valHostRmi S.rmm c s = .ok (r, s') := Granules.valHostRmi_total hh.rep
        fun h0 => hh.inv.tidy.complete.effect_ne_none hh.wf (hr _ _ h0) _
      rcases htotal with hno | ⟨r, s', hok⟩
      · exact Or.inl (congrArg (Except.map Prod.snd) hno)
      · exact Or.inr ⟨s', congrArg (Except.map Prod.snd) hok⟩
    | _ => exact Or.inr ⟨s, rfl⟩
  | alloc alignment size addr => exact Or.inr ⟨_, rfl⟩
  | realmParams ptr params => exact Or.inr ⟨s, rfl⟩
  | recParams ptr params => exact Or.inr ⟨s, rfl⟩

/-- **A realm function leaves the tracker tame**, wherever it fails, or the heap has no room for a
node. -/
theorem after_progress (hr : LegalMonitor S.rmm) (hk : S.KnownTables)
    (hh : Kept (Tame U S.Planes) h) (hall : S.Allows (Granules.Within S.rmm U 9) h l) :
    S.after h l = .error .noMemory ∨
      ∃ h', S.after h l = .ok h' ∧ Kept (Tame U S.Planes) h' := by
  induction l using List.reverseRecOn with
  | nil => exact Or.inr ⟨h, rfl, hh⟩
  | append_singleton l e ih =>
    rw [S.after_snoc]
    rcases ih hall.of_snoc with hno | ⟨s, hs, hks⟩
    · rw [hno]
      exact Or.inl rfl
    · rw [hs]
      refine (take_progress hr hks).imp_right ?_
      rintro ⟨s', ht⟩
      refine ⟨s', ht, ?_⟩
      cases ha : e.act with
      | none =>
        rw [Suite.take, ha] at ht
        exact Except.ok.inj ht ▸ hks
      | some a =>
        rw [Suite.take, ha] at ht
        obtain ⟨hfits, hin⟩ := hall l e [] a s rfl ha hs
        exact tame_exec hr hk hks hfits hin ht

/-- Along a run of wrappers the tracker is tame. -/
theorem reachable_tame (hr : LegalMonitor S.rmm) (hk : S.KnownTables)
    (hreach : Granules.Reachable S.rmm S.plat.rmmV11 (Granules.Within S.rmm U 9) h) :
    Kept (Tame U S.Planes) h := by
  obtain ⟨mem, heap, acts, hheap, hrun⟩ := hreach
  refine hrun.invariant (I := Kept (Tame U S.Planes)) (Granules.holds_start mem hheap
    fun A hl hrd => ⟨Granules.tidy_start U hl hrd, fun o ho => absurd ho List.not_mem_nil⟩) ?_
  rintro s a s' hs ⟨hfits, hin, he⟩
  exact tame_exec hr hk hs hfits hin he

end Tame

/-! ## 4. What failed realm functions leave is given back -/

/-- **The realm functions under the cleanup.**  Take any test that calls realm functions, wrappers
and `val_host_realm_destroy` in any order, with any arguments for which the calls return and
requests for memory that fit, against any legal RMM that makes tables of the levels 1 to 3, and
whatever fails on the way; it never has more than nine realms, and keeps its unprotected IPAs apart
from the PAs it delegates.  Then what any further such call has asked for is carried out on the host,
with the answers it was given, unless there is no memory for a node; and `val_host_postamble` leaves
the RMM without an object and without a granule, or stops at a command that came in time and was
refused. -/
theorem realm_functions_are_cleaned_up {S : Suite} {U : UInt64 → Prop} {h : Host}
    (hr : LegalMonitor S.rmm) (hk : S.KnownTables)
    (hreach : S.Reachable (Granules.Within S.rmm U 9) h) :
    (∀ (c : RealmCall) fuel l, c.run S h fuel = some l →
      S.Allows (Granules.Within S.rmm U 9) h l → S.after h l = .error .noMemory ∨
        ∃ h', S.after h l = .ok h' ∧ h'.trace = h.trace ++ trace l) ∧
    ((∃ h', valHostPostamble S.rmm S.plat.rmmV11 h = .ok (true, h') ∧
        (replay h'.trace).objs = [] ∧ (replay h'.trace).delegated = []) ∨
      ∃ h', valHostPostamble S.rmm S.plat.rmmV11 h = .ok (false, h') ∧
        Granules.Stopped h.trace h'.trace) := by
  obtain ⟨A, hh⟩ := reachable_tame hr hk hreach.wrappers
  refine ⟨fun c fuel l hrun hall => ?_, ?_⟩
  · refine (after_progress hr hk ⟨A, hh⟩ hall).imp_right ?_
    rintro ⟨h', hok, -⟩
    exact ⟨h', hok, after_trace (RealmCall.run_extends hrun) hok⟩
  · have hswept : Granules.Holds (Granules.Swept U S.Planes) h A :=
      ⟨hh.rep, hh.legal, hh.inv.tidy.complete, hh.inv.known⟩
    refine (hswept.cleanup hr).imp_left ?_
    rintro ⟨h', hpost, -, hobjs, hdel⟩
    exact ⟨h', hpost, hobjs, hdel⟩

/-- Whether a request for memory fits. -/
def requestFits : Act → Bool
  | .alloc (.host alignment size) =>
    decide (alignment.toNat = 2 ^ alignment.toNat.log2) &&
      decide (alignment ≤ platformHeapRegionSize) && decide (size ≤ platformHeapRegionSize)
  | _ => true

theorem fits_of_requestFits {a : Act} (h : requestFits a = true) : a.Fits := by
  cases a with
  | alloc q =>
    cases q with
    | host alignment size =>
      simp only [requestFits, Bool.and_eq_true, decide_eq_true_eq] at h
      exact ⟨⟨_, h.1.1⟩, h.1.2, h.2⟩
    | node => trivial
  | _ => trivial

/-- Replay a log, as long as each of its acts passes the check. -/
def Suite.replayed (S : Suite) (ok : Host → Act → Bool) (h : Host) (l : Log) : Option Host :=
  l.foldlM (fun s e =>
    match e.act with
    | none => some s
    | some a => if requestFits a && ok s a then (S.take e s).toOption else none) h

theorem replayed_spec {S : Suite} {ok : Host → Act → Bool} {allowed : Host → Act → Prop}
    (hok : ∀ s a, ok s a = true → allowed s a) {h h' : Host} {l : Log}
    (hrun : S.replayed ok h l = some h') : S.Allows allowed h l ∧ S.after h l = .ok h' := by
  induction l using List.reverseRecOn generalizing h' with
  | nil =>
    obtain rfl : h = h' := Option.some.inj hrun
    exact ⟨fun pre e post a s hl => absurd hl (by simp), rfl⟩
  | append_singleton l e ih =>
    rw [Suite.replayed, List.foldlM_append] at hrun
    obtain ⟨s, hs, hlast⟩ := Option.bind_eq_some_iff.mp hrun
    obtain ⟨hall, hafter⟩ := ih hs
    simp only [List.foldlM_cons, List.foldlM_nil, bind_pure] at hlast
    -- the acts of a log with one more event
    have hsnoc : (∀ a, e.act = some a → a.Fits ∧ allowed s a) → S.Allows allowed h (l ++ [e]) := by
      intro hlaste pre e' post a t hl ha ht
      rcases List.eq_nil_or_concat post with rfl | ⟨post', x, rfl⟩
      · obtain ⟨rfl, hcons⟩ := List.append_inj' hl rfl
        obtain rfl := (List.cons.inj hcons).1
        obtain rfl : s = t := Except.ok.inj (hafter.symm.trans ht)
        exact hlaste a ha
      · obtain ⟨rfl, -⟩ := List.append_inj' (hl.trans (by simp :
          _ = (pre ++ e' :: post') ++ [x])) rfl
        exact hall pre e' post' a t rfl ha ht
    rw [S.after_snoc, hafter]
    cases ha : e.act with
    | none =>
      rw [ha] at hlast
      obtain rfl : s = h' := Option.some.inj hlast
      refine ⟨hsnoc fun a ha' => absurd (ha.symm.trans ha') (by simp), ?_⟩
      simp only [bind, Except.bind, Suite.take, ha]
    | some a =>
      rw [ha] at hlast
      dsimp only at hlast
      split at hlast
      · rename_i hchecked
        obtain ⟨hfits, hin⟩ := Bool.and_eq_true_iff.mp hchecked
        refine ⟨hsnoc fun b hb => ?_, ?_⟩
        · obtain rfl := Option.some.inj (ha.symm.trans hb)
          exact ⟨fits_of_requestFits hfits, hok s _ hin⟩
        · cases ht : S.take e s with
          | error f =>
            rw [ht] at hlast
            cases hlast
          | ok t =>
            rw [ht] at hlast
            obtain rfl : t = h' := Option.some.inj hlast
            exact ht
      · cases hlast

/-- Call one realm function after another, for as many rounds. -/
def Suite.runCalls (S : Suite) (ok : Host → Act → Bool) (fuel : ℕ) (cs : List RealmCall) (h : Host) :
    Option Host :=
  cs.foldlM (fun s c => (c.run S s fuel).bind (S.replayed ok s)) h

theorem reachable_of_runCalls {S : Suite} {ok : Host → Act → Bool} {allowed : Host → Act → Prop}
    (hok : ∀ s a, ok s a = true → allowed s a) (fuel : ℕ) (cs : List RealmCall) (p : Host → Bool)
    (hrun : (S.runCalls ok fuel cs (Host.start Granules.blankMem valHostMemAllocInit)).any p
      = true) : ∃ h, S.Reachable allowed h ∧ p h = true := by
  obtain ⟨h, hh, hp⟩ := (Option.any_eq_true p _).mp hrun
  refine ⟨h, ⟨Granules.blankMem, valHostMemAllocInit, cs.map .realm, initHeap_ok, ?_⟩, hp⟩
  have hreach := Reach.of_foldlM hh
  generalize Host.start Granules.blankMem valHostMemAllocInit = h₀ at hreach
  clear hrun hh hp
  induction hreach with
  | nil => exact .nil
  | snoc _ hstep ih =>
    rw [List.map_append]
    obtain ⟨l, hl, hrep⟩ := Option.bind_eq_some_iff.mp hstep
    obtain ⟨hall, hafter⟩ := replayed_spec hok hrep
    exact ih.snoc ⟨fuel, l, hl, hall, hafter⟩

/-- An RMM with room for one realm and no auxiliary trees. -/
def oneRealmMonitor : Monitor := fun tr c =>
  match c with
  | .realmCreate _ _ => if (replay tr).objs = [] then exactMonitor 0 tr c else ⟨1, 0, 0⟩
  | .rttCreate _ _ _ level =>
    if level ∈ Granules.levels then exactMonitor 0 tr c else ⟨1, 0, 0⟩
  | .rttAuxCreate _ _ _ _ _ => ⟨1, 0, 0⟩
  | c => exactMonitor 0 tr c

theorem oneRealmMonitor_accepts {tr : Trace} {c : Cmd} (h0 : (oneRealmMonitor tr c).x0 = 0) :
    (exactMonitor 0 tr c).x0 = 0 := by
  unfold oneRealmMonitor at h0
  split at h0
  · split at h0
    · exact h0
    · exact absurd h0 (by decide)
  · split at h0
    · exact h0
    · exact absurd h0 (by decide)
  · exact absurd h0 (by decide)
  · exact h0

theorem oneRealmMonitor_legal : LegalMonitor oneRealmMonitor := fun tr c h0 =>
  exactMonitor_legal 0 tr c (oneRealmMonitor_accepts h0)

/-- The suite without planes, on that RMM. -/
def oneRealmSuite : Suite where
  rmm := oneRealmMonitor
  asked := fun _ _ _ => ⟨0, 0, 0⟩
  exits := fun _ _ => ⟨0, 0, 0, 0⟩
  plat := ⟨false, 0x88400000, 0⟩

theorem oneRealmSuite_knownTables : oneRealmSuite.KnownTables := by
  intro tr c o h0 hm
  cases c with
  | rttCreate rd rtt ipa level =>
    obtain rfl := Option.some.inj hm
    by_contra hno
    have hret : oneRealmMonitor tr (.rttCreate rd rtt ipa level) = ⟨1, 0, 0⟩ := if_neg hno
    have h0' : (oneRealmMonitor tr (.rttCreate rd rtt ipa level)).x0 = 0 := h0
    rw [hret] at h0'
    exact absurd h0' (by decide)
  | rttAuxCreate rd rtt ipa level index =>
    have h0' : (⟨1, 0, 0⟩ : SmcRet).x0 = 0 := h0
    exact absurd h0' (by decide)
  | realmCreate | recCreate | dataCreate | dataCreateUnknown | rttMapUnprotected =>
    obtain rfl := Option.some.inj hm
    trivial
  | _ => exact absurd hm (by simp [Cmd.makes])

/-- A realm with a page of data; then a second realm, which the RMM refuses, and which leaves the
second of its two starting RTTs delegated. -/
theorem realm_functions_are_cleaned_up_second_realm_refused :
    ∃ h, oneRealmSuite.Reachable (Granules.Within oneRealmMonitor (fun _ => False) 9) h ∧
      (replay h.trace).objs.length = 5 ∧ (replay h.trace).delegated.length = 7 ∧
      (∀ (c : RealmCall) fuel l, c.run oneRealmSuite h fuel = some l →
        oneRealmSuite.Allows (Granules.Within oneRealmMonitor (fun _ => False) 9) h l →
        oneRealmSuite.after h l = .error .noMemory ∨
          ∃ h', oneRealmSuite.after h l = .ok h' ∧ h'.trace = h.trace ++ trace l) ∧
      ((∃ h', valHostPostamble oneRealmMonitor false h = .ok (true, h') ∧
          (replay h'.trace).objs = [] ∧ (replay h'.trace).delegated = []) ∨
        ∃ h', valHostPostamble oneRealmMonitor false h = .ok (false, h') ∧
          Granules.Stopped h.trace h'.trace) := by
  obtain ⟨h, hreach, hp⟩ := reachable_of_runCalls (S := oneRealmSuite)
    (fun s a (ha : decide (Granules.Within oneRealmMonitor (fun _ => False) 9 s a) = true) =>
      of_decide_eq_true ha) 5
    [.realmCreate .cleared, .createRttLevels 0x88704000 0 0 3 pageSize,
      .mapProtectedDataUnknown 0x88704000 0x88f00000 0 pageSize, .realmCreate twoRtts]
    (fun h => (replay h.trace).objs.length == 5 && (replay h.trace).delegated.length == 7)
    (by decide +kernel)
  obtain ⟨hobjs, hdel⟩ := Bool.and_eq_true_iff.mp hp
  exact ⟨h, hreach, by simpa using hobjs, by simpa using hdel,
    realm_functions_are_cleaned_up oneRealmMonitor_legal oneRealmSuite_knownTables hreach⟩

end RmmAcs.Realm
