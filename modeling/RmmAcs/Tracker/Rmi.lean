/-
# The RMI wrappers of `val_host_rmi.c`

Every wrapper that moves a granule has one shape: issue the command, return its status if it is
not 0, and otherwise tell the tracker.  The wrappers below are that shape with each one's own
command and its own call into the tracker.  The host is the tracker and the history of commands;
an RMM answers from the history.
-/
import RmmAcs.Lib.Run
import RmmAcs.Rmm
import RmmAcs.Tracker.Refine

namespace RmmAcs.Granules

open RmmAcs Lib Rmm

/-! ## 1. The wrappers -/

/-- The host side: the tracker, and the commands issued so far with their answers. -/
structure Host where
  tracker : Tracker
  trace : Trace

/-- `val_smc_call`. -/
def valSmcCall (rmm : Monitor) (c : Cmd) (h : Host) : SmcRet × Host :=
  let r := rmm h.trace c
  (r, { h with trace := h.trace ++ [(c, r)] })

/-- The shape of a wrapper.  What the source returns or leaves in its out-parameters are the
registers of the answer. -/
def rmiCall (rmm : Monitor) (c : Cmd) (track : Tracker → Except Fault Tracker) (h : Host) :
    Except Fault (SmcRet × Host) :=
  let (r, h) := valSmcCall rmm c h
  if r.x0 ≠ 0 then .ok (r, h)
  else do
    let t ← track h.tracker
    .ok (r, { h with tracker := t })

/-- `val_host_update_aux_rtt_info`, whose return code the wrappers drop. -/
def trackAux (granState : GranuleState) (rd rttIndex ipa : UInt64) (val : Bool) (t : Tracker) :
    Except Fault Tracker :=
  (valHostUpdateAuxRttInfo granState rd rttIndex ipa val t).map Prod.snd

section Wrappers

variable (rmm : Monitor)

def valHostRmiGranuleDelegate (addr : UInt64) :=
  rmiCall rmm (.granuleDelegate addr) (valHostAddGranule .delegated addr none)

def valHostRmiGranuleUndelegate (addr : UInt64) :=
  rmiCall rmm (.granuleUndelegate addr)
    (valHostUpdateDestroyGranuleState 0 addr 0 0 .undelegated .undelegated 0)

def valHostRmiRealmCreate (rd paramsPtr : UInt64) :=
  rmiCall rmm (.realmCreate rd paramsPtr) (valHostUpdateGranuleState rd .rd rd 0 0 0)

def valHostRmiRealmDestroy (rd : UInt64) :=
  rmiCall rmm (.realmDestroy rd) (valHostUpdateDestroyGranuleState rd rd 0 0 .delegated .rd 0)

def valHostRmiRecCreate (rd recPa paramsPtr : UInt64) :=
  rmiCall rmm (.recCreate rd recPa paramsPtr) (valHostUpdateGranuleState rd .recg recPa 0 0 0)

def valHostRmiRecDestroy (recPa : UInt64) :=
  rmiCall rmm (.recDestroy recPa)
    (valHostUpdateDestroyGranuleState 0 recPa 0 0 .delegated .recg 0)

def valHostRmiDataCreate (rd data ipa src flags : UInt64) :=
  rmiCall rmm (.dataCreate rd data ipa src flags)
    (valHostUpdateGranuleState rd .data data ipa 0 0)

def valHostRmiDataCreateUnknown (rd data ipa : UInt64) :=
  rmiCall rmm (.dataCreateUnknown rd data ipa) (valHostUpdateGranuleState rd .data data ipa 0 0)

def valHostRmiDataDestroy (rd ipa : UInt64) :=
  rmiCall rmm (.dataDestroy rd ipa)
    (valHostUpdateDestroyGranuleState rd 0 ipa 0 .delegated .data 0)

def valHostRmiRttCreate (rd rtt ipa level : UInt64) :=
  rmiCall rmm (.rttCreate rd rtt ipa level) (valHostUpdateGranuleState rd .rtt rtt ipa level 0)

def valHostRmiRttDestroy (rd ipa level : UInt64) :=
  rmiCall rmm (.rttDestroy rd ipa level)
    (valHostUpdateDestroyGranuleState rd 0 ipa level .delegated .rtt 0)

def valHostRmiRttFold (rd ipa level : UInt64) :=
  rmiCall rmm (.rttFold rd ipa level)
    (valHostUpdateDestroyGranuleState rd 0 ipa level .delegated .rtt 0)

/-- The IPA of an unprotected mapping also stands in for its PA. -/
def valHostRmiRttMapUnprotected (rd ipa level desc : UInt64) :=
  rmiCall rmm (.rttMapUnprotected rd ipa level desc)
    (valHostUpdateGranuleState rd .unprotected ipa ipa level 0)

def valHostRmiRttUnmapUnprotected (rd ipa level : UInt64) :=
  rmiCall rmm (.rttUnmapUnprotected rd ipa level)
    (valHostUpdateDestroyGranuleState rd ipa 0 0 .unprotected .unprotected 0)

def valHostRmiRttAuxCreate (rd rtt ipa level index : UInt64) :=
  rmiCall rmm (.rttAuxCreate rd rtt ipa level index)
    (valHostUpdateGranuleState rd .rttAux rtt ipa level index)

def valHostRmiRttAuxDestroy (rd ipa level index : UInt64) :=
  rmiCall rmm (.rttAuxDestroy rd ipa level index)
    (valHostUpdateDestroyGranuleState rd 0 ipa level .delegated .rttAux index)

def valHostRmiRttAuxFold (rd ipa level index : UInt64) :=
  rmiCall rmm (.rttAuxFold rd ipa level index)
    (valHostUpdateDestroyGranuleState rd 0 ipa level .delegated .rttAux index)

def valHostRmiRttAuxMapProtected (rd ipa index : UInt64) :=
  rmiCall rmm (.rttAuxMapProtected rd ipa index)
    (trackAux .data rd index ipa true)

def valHostRmiRttAuxMapUnprotected (rd ipa index : UInt64) :=
  rmiCall rmm (.rttAuxMapUnprotected rd ipa index)
    (trackAux .unprotected rd index ipa true)

def valHostRmiRttAuxUnmapProtected (rd ipa index : UInt64) :=
  rmiCall rmm (.rttAuxUnmapProtected rd ipa index)
    (trackAux .data rd index ipa false)

def valHostRmiRttAuxUnmapUnprotected (rd ipa index : UInt64) :=
  rmiCall rmm (.rttAuxUnmapUnprotected rd ipa index)
    (trackAux .unprotected rd index ipa false)

def valHostRmiFeatures (index : UInt64) := rmiCall rmm (.features index) .ok

/-- The wrapper of a command. -/
def valHostRmi : Cmd → Host → Except Fault (SmcRet × Host)
  | .granuleDelegate addr => valHostRmiGranuleDelegate rmm addr
  | .granuleUndelegate addr => valHostRmiGranuleUndelegate rmm addr
  | .realmCreate rd paramsPtr => valHostRmiRealmCreate rmm rd paramsPtr
  | .realmDestroy rd => valHostRmiRealmDestroy rmm rd
  | .recCreate rd recPa paramsPtr => valHostRmiRecCreate rmm rd recPa paramsPtr
  | .recDestroy recPa => valHostRmiRecDestroy rmm recPa
  | .dataCreate rd data ipa src flags => valHostRmiDataCreate rmm rd data ipa src flags
  | .dataCreateUnknown rd data ipa => valHostRmiDataCreateUnknown rmm rd data ipa
  | .dataDestroy rd ipa => valHostRmiDataDestroy rmm rd ipa
  | .rttCreate rd rtt ipa level => valHostRmiRttCreate rmm rd rtt ipa level
  | .rttDestroy rd ipa level => valHostRmiRttDestroy rmm rd ipa level
  | .rttFold rd ipa level => valHostRmiRttFold rmm rd ipa level
  | .rttMapUnprotected rd ipa level desc => valHostRmiRttMapUnprotected rmm rd ipa level desc
  | .rttUnmapUnprotected rd ipa level => valHostRmiRttUnmapUnprotected rmm rd ipa level
  | .rttAuxCreate rd rtt ipa level index => valHostRmiRttAuxCreate rmm rd rtt ipa level index
  | .rttAuxDestroy rd ipa level index => valHostRmiRttAuxDestroy rmm rd ipa level index
  | .rttAuxFold rd ipa level index => valHostRmiRttAuxFold rmm rd ipa level index
  | .rttAuxMapProtected rd ipa index => valHostRmiRttAuxMapProtected rmm rd ipa index
  | .rttAuxMapUnprotected rd ipa index => valHostRmiRttAuxMapUnprotected rmm rd ipa index
  | .rttAuxUnmapProtected rd ipa index => valHostRmiRttAuxUnmapProtected rmm rd ipa index
  | .rttAuxUnmapUnprotected rd ipa index => valHostRmiRttAuxUnmapUnprotected rmm rd ipa index
  | .features index => valHostRmiFeatures rmm index

end Wrappers

/-! ## 2. What an accepted command does to the lists -/

/-- The meaning of the tracker call of a wrapper. -/
def effect (fresh : Cell) (A : Lists) : Cmd → Option Lists
  | .granuleDelegate addr => some (A.add fresh .delegated addr)
  | .granuleUndelegate addr => A.destroy 0 addr 0 0 .undelegated .undelegated 0
  | .realmCreate rd _ => some (A.update fresh rd .rd rd 0 0 0)
  | .realmDestroy rd => A.destroy rd rd 0 0 .delegated .rd 0
  | .recCreate rd recPa _ => some (A.update fresh rd .recg recPa 0 0 0)
  | .recDestroy recPa => A.destroy 0 recPa 0 0 .delegated .recg 0
  | .dataCreate rd data ipa _ _ => some (A.update fresh rd .data data ipa 0 0)
  | .dataCreateUnknown rd data ipa => some (A.update fresh rd .data data ipa 0 0)
  | .dataDestroy rd ipa => A.destroy rd 0 ipa 0 .delegated .data 0
  | .rttCreate rd rtt ipa level => some (A.update fresh rd .rtt rtt ipa level 0)
  | .rttDestroy rd ipa level => A.destroy rd 0 ipa level .delegated .rtt 0
  | .rttFold rd ipa level => A.destroy rd 0 ipa level .delegated .rtt 0
  | .rttMapUnprotected rd ipa level _ => some (A.update fresh rd .unprotected ipa ipa level 0)
  | .rttUnmapUnprotected rd ipa _ => A.destroy rd ipa 0 0 .unprotected .unprotected 0
  | .rttAuxCreate rd rtt ipa level index => some (A.update fresh rd .rttAux rtt ipa level index)
  | .rttAuxDestroy rd ipa level index => A.destroy rd 0 ipa level .delegated .rttAux index
  | .rttAuxFold rd ipa level index => A.destroy rd 0 ipa level .delegated .rttAux index
  | .rttAuxMapProtected rd ipa index => A.auxInfo .data rd index ipa true
  | .rttAuxMapUnprotected rd ipa index => A.auxInfo .unprotected rd index ipa true
  | .rttAuxUnmapProtected rd ipa index => A.auxInfo .data rd index ipa false
  | .rttAuxUnmapUnprotected rd ipa index => A.auxInfo .unprotected rd index ipa false
  | .features _ => some A

/-- Every wrapper is the common shape, with a tracker call that has the meaning above. -/
theorem valHostRmi_shape (rmm : Monitor) (c : Cmd) :
    ∃ track : Tracker → Except Fault Tracker, valHostRmi rmm c = rmiCall rmm c track ∧
      ∀ t A, Repr t A → Refines (track t) (effect (freshCell t) A c) := by
  cases c with
  | granuleDelegate addr => exact ⟨_, rfl, fun _ _ h => h.add_refines _ _⟩
  | granuleUndelegate addr => exact ⟨_, rfl, fun _ _ h => h.destroy_refines _ _ _ _ _ _ _⟩
  | realmCreate rd paramsPtr => exact ⟨_, rfl, fun _ _ h => h.update_refines _ _ _ _ _ _⟩
  | realmDestroy rd => exact ⟨_, rfl, fun _ _ h => h.destroy_refines _ _ _ _ _ _ _⟩
  | recCreate rd recPa paramsPtr => exact ⟨_, rfl, fun _ _ h => h.update_refines _ _ _ _ _ _⟩
  | recDestroy recPa => exact ⟨_, rfl, fun _ _ h => h.destroy_refines _ _ _ _ _ _ _⟩
  | dataCreate rd data ipa src flags =>
    exact ⟨_, rfl, fun _ _ h => h.update_refines _ _ _ _ _ _⟩
  | dataCreateUnknown rd data ipa => exact ⟨_, rfl, fun _ _ h => h.update_refines _ _ _ _ _ _⟩
  | dataDestroy rd ipa => exact ⟨_, rfl, fun _ _ h => h.destroy_refines _ _ _ _ _ _ _⟩
  | rttCreate rd rtt ipa level => exact ⟨_, rfl, fun _ _ h => h.update_refines _ _ _ _ _ _⟩
  | rttDestroy rd ipa level => exact ⟨_, rfl, fun _ _ h => h.destroy_refines _ _ _ _ _ _ _⟩
  | rttFold rd ipa level => exact ⟨_, rfl, fun _ _ h => h.destroy_refines _ _ _ _ _ _ _⟩
  | rttMapUnprotected rd ipa level desc =>
    exact ⟨_, rfl, fun _ _ h => h.update_refines _ _ _ _ _ _⟩
  | rttUnmapUnprotected rd ipa level =>
    exact ⟨_, rfl, fun _ _ h => h.destroy_refines _ _ _ _ _ _ _⟩
  | rttAuxCreate rd rtt ipa level index =>
    exact ⟨_, rfl, fun _ _ h => h.update_refines _ _ _ _ _ _⟩
  | rttAuxDestroy rd ipa level index =>
    exact ⟨_, rfl, fun _ _ h => h.destroy_refines _ _ _ _ _ _ _⟩
  | rttAuxFold rd ipa level index =>
    exact ⟨_, rfl, fun _ _ h => h.destroy_refines _ _ _ _ _ _ _⟩
  | rttAuxMapProtected rd ipa index => exact ⟨_, rfl, fun _ _ h => h.auxInfo_refines _ _ _ _ _⟩
  | rttAuxMapUnprotected rd ipa index => exact ⟨_, rfl, fun _ _ h => h.auxInfo_refines _ _ _ _ _⟩
  | rttAuxUnmapProtected rd ipa index => exact ⟨_, rfl, fun _ _ h => h.auxInfo_refines _ _ _ _ _⟩
  | rttAuxUnmapUnprotected rd ipa index =>
    exact ⟨_, rfl, fun _ _ h => h.auxInfo_refines _ _ _ _ _⟩
  | features index => exact ⟨_, rfl, fun _ _ h => ⟨_, rfl, h⟩⟩

/-- What a wrapper that returned has done, given the lists before it. -/
structure CallOk (rmm : Monitor) (c : Cmd) (h : Host) (A : Lists) (r : SmcRet) (h' : Host) :
    Prop where
  ret : r = rmm h.trace c
  trace : h'.trace = h.trace ++ [(c, r)]
  refused : r.x0 ≠ 0 → h'.tracker = h.tracker
  accepted : r.x0 = 0 → ∃ A', effect (freshCell h.tracker) A c = some A' ∧ Repr h'.tracker A'

/-- **A wrapper that returns.** -/
theorem valHostRmi_ok {rmm : Monitor} {c : Cmd} {h h' : Host} {A : Lists} {r : SmcRet}
    (hrep : Repr h.tracker A) (hc : valHostRmi rmm c h = .ok (r, h')) :
    CallOk rmm c h A r h' := by
  obtain ⟨track, hshape, href⟩ := valHostRmi_shape rmm c
  rw [hshape] at hc
  unfold rmiCall valSmcCall at hc
  dsimp only at hc
  by_cases h0 : (rmm h.trace c).x0 = 0
  · rw [if_neg (not_not.mpr h0)] at hc
    have hr := href h.tracker A hrep
    cases ht : track h.tracker with
    | error e =>
      rw [ht] at hc
      exact absurd hc (by simp [bind, Except.bind])
    | ok t =>
      rw [ht] at hc hr
      simp only [bind, Except.bind, Except.ok.injEq, Prod.mk.injEq] at hc
      obtain ⟨rfl, rfl⟩ := hc
      obtain ⟨A', hA', hrep'⟩ := hr
      exact ⟨rfl, rfl, fun hne => absurd h0 hne, fun _ => ⟨A', hA', hrep'⟩⟩
  · rw [if_pos h0] at hc
    simp only [Except.ok.injEq, Prod.mk.injEq] at hc
    obtain ⟨rfl, rfl⟩ := hc
    exact ⟨rfl, rfl, fun _ => rfl, fun h0' => absurd h0' h0⟩

/-- **A wrapper returns**, unless the heap is exhausted, if the lists have what it looks for. -/
theorem valHostRmi_total {rmm : Monitor} {c : Cmd} {h : Host} {A : Lists}
    (hrep : Repr h.tracker A)
    (heff : (rmm h.trace c).x0 = 0 → effect (freshCell h.tracker) A c ≠ none) :
    valHostRmi rmm c h = .error .noMemory ∨ ∃ r h', valHostRmi rmm c h = .ok (r, h') := by
  obtain ⟨track, hshape, href⟩ := valHostRmi_shape rmm c
  rw [hshape]
  unfold rmiCall valSmcCall
  dsimp only
  by_cases h0 : (rmm h.trace c).x0 = 0
  · rw [if_neg (not_not.mpr h0)]
    have hr := href h.tracker A hrep
    cases ht : track h.tracker with
    | ok t => exact Or.inr ⟨_, _, rfl⟩
    | error e =>
      rw [ht] at hr
      cases e with
      | nullDeref => exact absurd hr (heff h0)
      | noMemory => exact Or.inl rfl
      | outOfBounds => exact absurd hr (heff h0)
      | endless => exact absurd hr not_false
  · rw [if_pos h0]
    exact Or.inr ⟨_, _, rfl⟩

end RmmAcs.Granules
