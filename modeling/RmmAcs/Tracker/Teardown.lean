/-
# The cleanup of a test

`val_host_realm_destroy` walks the lists of one realm's slot and destroys what it finds there;
`val_host_postamble` does that for every slot and then gives back what is left in the NS list.
Every loop walks a list that the commands it issues take nodes out of: the destroy wrapper moves
the node at the cursor to the NS list, the undelegate wrapper takes it out of that.

A return code `true` is `VAL_SUCCESS`.
-/
import RmmAcs.Lib.Proc
import RmmAcs.Tracker.Rmi

namespace RmmAcs.Granules

open RmmAcs Lib Rmm

/-! ## 1. Loops and commands -/

/-- The payload at an address, as it is now. -/
def node (a : Ptr) (h : Host) : Granule := (h.tracker.mem a).data

/-- The loop over a list, from its first node. -/
def walk (r : ListRef) (body : Ptr → Proc Host Fault) : Proc Host Fault := fun h =>
  Proc.forEachNode (fun h => h.tracker.mem) .endless body loopFuel (h.tracker.list r) h

/-- The loop over a list of the slot `current_realm`. -/
def walkCurrent (k : GranType) (body : Ptr → Proc Host Fault) : Proc Host Fault := fun h =>
  walk (h.tracker.currentRealm, k) body h

section Cleanup

variable (rmm : Monitor)

/-- A command; any status but 0 is a failure. -/
def issue (c : Cmd) : Proc Host Fault := fun h =>
  (valHostRmi rmm c h).map fun (r, h) => (r.x0 == 0, h)

/-- A command with arguments from the node at `a`. -/
def issueFor (a : Ptr) (f : Granule → Cmd) : Proc Host Fault := fun h =>
  issue rmm (f (node a h)) h

/-- `val_host_rmi_granule_undelegate(curr_gran->PA)`. -/
def undelegateNode (a : Ptr) : Proc Host Fault := issueFor rmm a fun g => .granuleUndelegate g.pa

/-- The loop over `has_auxiliary`: `f g i` is the command for the index `i` of an auxiliary
tree. -/
def unmapAuxiliary (a : Ptr) (f : Granule → UInt64 → Cmd) : Proc Host Fault :=
  Proc.all ((List.finRange maxAuxPlanes).map fun i =>
    Proc.guarded (fun h => (node a h).hasAuxiliary i)
      (issueFor rmm a fun g => f g (UInt64.ofNat (i + 1))))

/-! ## 2. RTTs -/

/-- `val_host_destroy_rtt_levels`. -/
def valHostDestroyRttLevels (rttLevel : UInt64) (currentRealm : Fin maxRealms) :
    Proc Host Fault :=
  walk (currentRealm, .rtt) fun a =>
    Proc.guarded (fun h => (node a h).level == rttLevel)
      (Proc.seq (issueFor rmm a fun g => .rttDestroy g.rd g.ipa g.level) (undelegateNode rmm a))

/-- `val_host_destroy_aux_rtt_levels`. -/
def valHostDestroyAuxRttLevels (rttLevel : UInt64) (currentRealm : Fin maxRealms)
    (index : UInt64) : Proc Host Fault :=
  walk (currentRealm, .rttAux) fun a =>
    Proc.guarded (fun h => (node a h).level == rttLevel && (node a h).rttTreeIdx == index)
      (Proc.seq (issueFor rmm a fun g => .rttAuxDestroy g.rd g.ipa g.level index)
        (undelegateNode rmm a))

/-- `VAL_EXTRACT_BITS(featreg0, 45, 48) > 0`. -/
def planesSupported (featreg0 : UInt64) : Bool := (featreg0 >>> 45) &&& 0xF > 0

/-- `val_host_rmm_supports_planes`, which does not look at the status, and the code that depends
on the answer. -/
def ifPlanes (p : Proc Host Fault) : Proc Host Fault := fun h => do
  let (r, h) ← valHostRmi rmm (.features 0) h
  if planesSupported r.x1 then p h else Proc.skip h

/-- The loop over the auxiliary trees, each of them from its leaves up. -/
def destroyAuxTrees : Proc Host Fault :=
  Proc.all ([1, 2, 3].flatMap fun index => [3, 2, 1].map fun level => fun h =>
    valHostDestroyAuxRttLevels rmm level h.tracker.currentRealm index h)

/-! ## 3. A realm, and everything -/

/-- The body of the two loops over the data granules. -/
def destroyData (a : Ptr) : Proc Host Fault :=
  Proc.seq (unmapAuxiliary rmm a fun g i => .rttAuxUnmapProtected g.rd g.ipa i)
    (Proc.seq (issueFor rmm a fun g => .dataDestroy g.rd g.ipa) (undelegateNode rmm a))

/-- `current_realm = val_host_get_curr_realm(rd)`. -/
def enterRealm (rd : UInt64) : Proc Host Fault := fun h =>
  Proc.skip { h with tracker :=
    { h.tracker with currentRealm := valHostGetCurrRealm rd h.tracker } }

/-- `val_host_realm_destroy`; `rmmV11` is whether `RMM_V_1_1` is defined. -/
def valHostRealmDestroy (rmmV11 : Bool) (rd : UInt64) : Proc Host Fault :=
  Proc.all
    [ enterRealm rd,
      walkCurrent .recg fun a =>
        Proc.seq (issueFor rmm a fun g => .recDestroy g.pa) (undelegateNode rmm a),
      walkCurrent .data fun a =>
        Proc.guarded (fun h => (node a h).isGranuleSliced == 1) (destroyData rmm a),
      walkCurrent .data fun a =>
        Proc.guarded (fun h => (node a h).isGranuleSliced == 0) (destroyData rmm a),
      walkCurrent .validNs fun a =>
        Proc.seq (unmapAuxiliary rmm a fun g i => .rttAuxUnmapUnprotected g.rd g.ipa i)
          (issueFor rmm a fun g => .rttUnmapUnprotected g.rd g.ipa g.level),
      fun h => valHostDestroyRttLevels rmm 3 h.tracker.currentRealm h,
      fun h => valHostDestroyRttLevels rmm 2 h.tracker.currentRealm h,
      fun h => valHostDestroyRttLevels rmm 1 h.tracker.currentRealm h,
      Proc.guarded (fun _ => rmmV11) (ifPlanes rmm (destroyAuxTrees rmm)),
      fun h => issue rmm (.realmDestroy (h.tracker.rd h.tracker.currentRealm)) h ]

/-- `val_host_remove_granule(&mem_track[0].gran_type.ns, curr_gran->PA)`, whose result is read
for `val_host_mem_free`. -/
def freeNode (a : Ptr) : Proc Host Fault := fun h => do
  let r ← valHostRemoveGranule nsRef (node a h).pa h.tracker
  let _ ← deref r.1
  Proc.skip { h with tracker := r.2 }

/-- `val_host_postamble`. -/
def valHostPostamble (rmmV11 : Bool) : Proc Host Fault :=
  Proc.all
    [ Proc.all (slots.map fun i =>
        Proc.guarded (fun h => h.tracker.rd i != freeRd)
          fun h => valHostRealmDestroy rmm rmmV11 (h.tracker.rd i) h),
      walk nsRef fun a =>
        Proc.guarded (fun h => decide ((node a h).state = .delegated)) (undelegateNode rmm a),
      walk nsRef fun a =>
        Proc.guarded (fun h => decide ((node a h).state = .undelegated)) (freeNode a) ]

end Cleanup

end RmmAcs.Granules
