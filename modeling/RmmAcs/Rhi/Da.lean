/-
# Device assignment over the Realm Host Interface: continuation handles

The second dispatcher of `val_host_rhi.c` serves the device-assignment calls.  Four of them --
GET_MEASUREMENTS, GET_INTERFACE_REPORT, SET_TDI_STATE and P2P_UNBIND -- start an operation and
answer `RHI_DA_ERROR_INCOMPLETE` with a handle in `gprs[1]`; the Realm then drives the operation
with VDEV_CONTINUE, which takes the handle back and runs the device communication loop.

What is modelled and what is not.  The handlers are transcribed check by check.  The RMM and the
device are on the far side of an SMC: a call brings the answers with it, and every RMI command a
handler issues is appended to a log.  `val_host_dev_communicate` is a loop of RMI commands and
mailbox transfers whose only traces here are ONE log entry and its return code.  The device
objects, the Realm's registers and the answers are a call's own, so nothing relates those of one
call to those of the next.
-/
import RmmAcs.Libc
import RmmAcs.Rhi.Session

namespace RmmAcs.Rhi

open RmmAcs

/-! ## 1. Codes -/

def rhiDaVersion : UInt64 := 0xC500004A
def rhiDaFeatures : UInt64 := 0xC500004B
def rhiDaObjectSize : UInt64 := 0xC500004C
def rhiDaObjectRead : UInt64 := 0xC500004D
def rhiDaVdevContinue : UInt64 := 0xC5000051
def rhiDaVdevGetMeasurements : UInt64 := 0xC5000052
def rhiDaVdevGetInterfaceReport : UInt64 := 0xC5000053
def rhiDaVdevSetTdiState : UInt64 := 0xC5000054
def rhiDaVdevP2pUnbind : UInt64 := 0xC5000055
def rhiDaVdevAbort : UInt64 := 0xC5000056

def rhiDaSuccess : UInt64 := 0
def rhiDaErrorIncomplete : UInt64 := 1
def rhiDaErrorDataNotAvailable : UInt64 := 2
def rhiDaErrorInvalidVdevId : UInt64 := 3
def rhiDaErrorInvalidObject : UInt64 := 4
def rhiDaErrorDevice : UInt64 := 6
def rhiDaErrorInvalidOffset : UInt64 := 7
def rhiDaErrorAccessFailed : UInt64 := 8
def rhiDaErrorBusy : UInt64 := 9
def rhiDaAbortedOperationHadCompleted : UInt64 := 10
def rhiDaErrorObjectUnsupported : UInt64 := 11

/-- `VAL_ERROR`, which SET_TDI_STATE hands to the Realm when VDEV_LOCK fails. -/
def valError : UInt64 := 1

def rhiDaTdiConfigLocked : UInt64 := 1
def rhiDaTdiConfigRun : UInt64 := 2

/-- The RMM's name for the state VDEV_CONTINUE drives a device to. -/
def rmiVdevLocked : UInt64 := 2

/-! ## 2. State and calls -/

/-- The fields of `val_host_pdev_ts` the handlers read. -/
structure PdevObj where
  certChain : UInt64
  certChainLen : UInt64
  vca : UInt64
  vcaLen : UInt64

/-- The fields of `val_host_vdev_ts` the handlers read. -/
structure VdevObj where
  vdev : UInt64
  pdev : UInt64
  vdevId : UInt64
  meas : UInt64
  measLen : UInt64
  ifcReport : UInt64
  ifcReportLen : UInt64

/-- The RMI commands a handler can issue, with their arguments. -/
inductive DaRmi where
  | vdevGetMeasurements (rd pdev vdev params : UInt64)
  | vdevGetInterfaceReport (rd pdev vdev : UInt64)
  | vdevLock (rd pdev vdev : UInt64)
  | vdevAbort (vdev : UInt64)
  /-- All the commands of one `val_host_dev_communicate`. -/
  | devCommunicate (vdev target : UInt64)
deriving DecidableEq, Repr

/-- The statics, the reply registers, host memory and the RMI log. -/
structure DaHost where
  /-- `g_da_next_handle`. -/
  daNextHandle : UInt64
  /-- The `static uint64_t handle` of `val_da_alloc_handle`. -/
  handle : UInt64
  enter : Gprs
  mem : Mem
  rmiLog : List DaRmi

/-- The host at start-up. -/
def DaHost.init : DaHost where
  daNextHandle := 0
  handle := 1
  enter := fun _ => 0
  mem := fun _ => 0
  rmiLog := []

/-- One dispatched call: the Realm's exit registers, the objects passed in, and what the RMM
and the device answer to whatever the handler asks of them. -/
structure DaCall where
  exit : Gprs
  rd : UInt64
  pdevObj : PdevObj
  vdevObj : Fin 2 → VdevObj
  /-- `g_da_vdev_count`. -/
  daVdevCount : UInt32
  /-- `x0` of the RMI command the handler issues, if it issues one. -/
  x0 : UInt64
  /-- The return code of `val_host_dev_communicate`. -/
  communicate : UInt64

/-! ## 3. The handlers -/

/-- `val_da_alloc_handle`. -/
def valDaAllocHandle (s : DaHost) : UInt64 × DaHost :=
  (s.handle, { s with handle := s.handle + 1 })

/-- `rec_enter->gprs[i] = v`. -/
def DaHost.setGpr (s : DaHost) (i : Fin 31) (v : UInt64) : DaHost :=
  { s with enter := Function.update s.enter i v }

def DaHost.issue (s : DaHost) (r : DaRmi) : DaHost := { s with rmiLog := s.rmiLog ++ [r] }

/-- The common end of the four calls that start an operation: a new handle, in `gprs[1]` and in
`g_da_next_handle`. -/
def DaHost.incomplete (s : DaHost) : UInt64 × DaHost :=
  let (h, s) := valDaAllocHandle s
  (rhiDaErrorIncomplete, { s.setGpr 1 h with daNextHandle := h })

/-- `val_rhi_da_vdev_continue`. -/
def valRhiDaVdevContinue (c : DaCall) (s : DaHost) : UInt64 × DaHost :=
  let vdevId := c.exit 1
  let handle := c.exit 2
  let communicate (targetVdev : VdevObj) : UInt64 × DaHost :=
    let s := s.issue (.devCommunicate targetVdev.vdev rmiVdevLocked)
    if c.communicate ≠ 0 then (rhiDaErrorDevice, s) else (rhiDaSuccess, s)
  if s.daNextHandle ≠ handle then (rhiDaErrorInvalidVdevId, s)
  else if (c.vdevObj 0).vdevId ≠ vdevId then
    if c.daVdevCount > 1 ∧ (c.vdevObj 1).vdevId = vdevId then communicate (c.vdevObj 1)
    else (rhiDaErrorInvalidVdevId, s)
  else communicate (c.vdevObj 0)

/-- `val_rhi_da_vdev_get_measurements`. -/
def valRhiDaVdevGetMeasurements (sharedBase : UInt64) (c : DaCall) (s : DaHost) :
    UInt64 × DaHost :=
  let vdevId := c.exit 1
  let paramsIpa := c.exit 2
  let vdevMeasureParams := sharedBase + testUseOffset1
  let vdevObj := c.vdevObj 0
  if vdevObj.vdevId ≠ vdevId then (rhiDaErrorInvalidVdevId, s)
  else if paramsIpa = 0 then (rhiDaErrorAccessFailed, s)
  else
    let s := s.issue (.vdevGetMeasurements c.rd vdevObj.pdev vdevObj.vdev vdevMeasureParams)
    if c.x0 ≠ 0 then (rhiDaErrorDevice, s) else s.incomplete

/-- The `switch (obj_type)` OBJECT_SIZE and OBJECT_READ share: where the object is cached and
how long it is, or the status to return. -/
def daObject (c : DaCall) (objType : UInt64) : Except UInt64 (UInt64 × UInt64) :=
  let vdevObj := c.vdevObj 0
  if objType = 0 then .ok (c.pdevObj.vca, c.pdevObj.vcaLen)
  else if objType = 1 then .ok (c.pdevObj.certChain, c.pdevObj.certChainLen)
  else if objType = 2 then .ok (vdevObj.meas, vdevObj.measLen)
  else if objType = 3 then .ok (vdevObj.ifcReport, vdevObj.ifcReportLen)
  else if objType = 4 then .error rhiDaErrorObjectUnsupported
  else .error rhiDaErrorInvalidObject

/-- `val_rhi_da_object_size`. -/
def valRhiDaObjectSize (c : DaCall) (s : DaHost) : UInt64 × DaHost :=
  let vdevId := c.exit 1
  let objType := c.exit 2
  if (c.vdevObj 0).vdevId ≠ vdevId then (rhiDaErrorInvalidVdevId, s)
  else
    match daObject c objType with
    | .error status => (status, s)
    | .ok (_, size) =>
      if size = 0 then (rhiDaErrorDataNotAvailable, s)
      else (rhiDaSuccess, s.setGpr 1 size)

/-- `val_rhi_da_object_read`. -/
def valRhiDaObjectRead (sharedBase : UInt64) (c : DaCall) (s : DaHost) : UInt64 × DaHost :=
  let vdevId := c.exit 1
  let objType := c.exit 2
  let bufferIpa := c.exit 3
  let maxLen := c.exit 4
  let offset := c.exit 5
  if (c.vdevObj 0).vdevId ≠ vdevId then (rhiDaErrorInvalidVdevId, s)
  else if bufferIpa = 0 then (rhiDaErrorAccessFailed, s)
  else
    let bufferIpa := sharedBase + testUseOffset1
    match daObject c objType with
    | .error status => (status, s)
    | .ok (src, size) =>
      if size = 0 then (rhiDaErrorDataNotAvailable, s)
      else if maxLen = 0 ∨ offset ≥ maxLen ∨ size > maxLen - offset then
        (rhiDaErrorInvalidOffset, s)
      else
        let s := { s with mem := memcpy (bufferIpa + offset) src size.toNat s.mem }
        (rhiDaSuccess, s.setGpr 1 size)

/-- `val_rhi_da_vdev_set_tdi_state`.  Only the transition to LOCKED asks the RMM. -/
def valRhiDaVdevSetTdiState (c : DaCall) (s : DaHost) : UInt64 × DaHost :=
  let vdevId := c.exit 1
  let tdiState := c.exit 2
  let vdevObj := c.vdevObj 0
  if vdevObj.vdevId ≠ vdevId then (rhiDaErrorInvalidVdevId, s)
  else if tdiState > rhiDaTdiConfigRun then (rhiDaErrorInvalidObject, s)
  else if tdiState = rhiDaTdiConfigLocked then
    let s := s.issue (.vdevLock c.rd vdevObj.pdev vdevObj.vdev)
    if c.x0 ≠ 0 then (valError, s) else s.incomplete
  else s.incomplete

/-- `val_rhi_da_vdev_abort`. -/
def valRhiDaVdevAbort (c : DaCall) (s : DaHost) : UInt64 × DaHost :=
  let vdevId := c.exit 1
  let vdevObj := c.vdevObj 0
  if vdevObj.vdevId ≠ vdevId then (rhiDaErrorInvalidVdevId, s)
  else
    let s := s.issue (.vdevAbort vdevObj.vdev)
    if c.x0 ≠ 0 then (rhiDaAbortedOperationHadCompleted, s) else (rhiDaSuccess, s)

/-- `val_rhi_da_vdev_p2p_unbind`.  Both elements of the array are read whatever
`g_da_vdev_count` says. -/
def valRhiDaVdevP2pUnbind (c : DaCall) (s : DaHost) : UInt64 × DaHost :=
  let vdevId1 := c.exit 1
  let vdevId2 := c.exit 2
  if ((c.vdevObj 0).vdevId ≠ vdevId1 ∧ (c.vdevObj 1).vdevId ≠ vdevId1) ∨
      ((c.vdevObj 0).vdevId ≠ vdevId2 ∧ (c.vdevObj 1).vdevId ≠ vdevId2) then
    (rhiDaErrorInvalidVdevId, s)
  else s.incomplete

/-- `val_rhi_da_vdev_get_interface_report`. -/
def valRhiDaVdevGetInterfaceReport (c : DaCall) (s : DaHost) : UInt64 × DaHost :=
  let vdevId := c.exit 1
  let vdevObj := c.vdevObj 0
  if vdevObj.vdevId ≠ vdevId then (rhiDaErrorInvalidVdevId, s)
  else
    let s := s.issue (.vdevGetInterfaceReport c.rd vdevObj.pdev vdevObj.vdev)
    if c.x0 ≠ 0 then (rhiDaErrorBusy, s) else s.incomplete

/-- `rec_enter->gprs[0] = status`. -/
def DaHost.ret (r : UInt64 × DaHost) : DaHost := r.2.setGpr 0 r.1

theorem DaHost.ret_enter_zero (r : UInt64 × DaHost) : (DaHost.ret r).enter 0 = r.1 := by
  simp [DaHost.ret, DaHost.setGpr]

/-- `val_host_rhi_da_dispatch`, with `true` for `VAL_SUCCESS`. -/
def valHostRhiDaDispatch (sharedBase : UInt64) (c : DaCall) (s : DaHost) : Bool × DaHost :=
  let fid := c.exit 0
  if fid = rhiDaVersion then (true, .ret (0x10000, s))
  else if fid = rhiDaFeatures then (true, .ret (0xFF, s))
  else if fid = rhiDaObjectSize then (true, .ret (valRhiDaObjectSize c s))
  else if fid = rhiDaObjectRead then (true, .ret (valRhiDaObjectRead sharedBase c s))
  else if fid = rhiDaVdevContinue then (true, .ret (valRhiDaVdevContinue c s))
  else if fid = rhiDaVdevGetMeasurements then
    (true, .ret (valRhiDaVdevGetMeasurements sharedBase c s))
  else if fid = rhiDaVdevGetInterfaceReport then
    (true, .ret (valRhiDaVdevGetInterfaceReport c s))
  else if fid = rhiDaVdevSetTdiState then (true, .ret (valRhiDaVdevSetTdiState c s))
  else if fid = rhiDaVdevP2pUnbind then (true, .ret (valRhiDaVdevP2pUnbind c s))
  else if fid = rhiDaVdevAbort then (true, .ret (valRhiDaVdevAbort c s))
  else (false, s)

/-! ## 4. Runs, and what a Realm sees of them -/

def daStep (sharedBase : UInt64) (s : DaHost) (c : DaCall) : DaHost :=
  (valHostRhiDaDispatch sharedBase c s).2

/-- The host after a sequence of dispatched calls. -/
def daRun (sharedBase : UInt64) (s : DaHost) (cs : List DaCall) : DaHost :=
  cs.foldl (daStep sharedBase) s

theorem daRun_snoc (sharedBase : UInt64) (s : DaHost) (cs : List DaCall) (c : DaCall) :
    daRun sharedBase s (cs ++ [c]) = daStep sharedBase (daRun sharedBase s cs) c := by
  simp [daRun]

/-- The four calls that start an operation. -/
def DaCall.IsProducer (c : DaCall) : Prop :=
  c.exit 0 = rhiDaVdevGetMeasurements ∨ c.exit 0 = rhiDaVdevGetInterfaceReport ∨
    c.exit 0 = rhiDaVdevSetTdiState ∨ c.exit 0 = rhiDaVdevP2pUnbind

instance (c : DaCall) : Decidable c.IsProducer :=
  inferInstanceAs (Decidable (_ ∨ _ ∨ _ ∨ _))

/-- The VDEV ids a call that starts an operation names: two for P2P_UNBIND. -/
def DaCall.named (c : DaCall) : List UInt64 :=
  if c.exit 0 = rhiDaVdevP2pUnbind then [c.exit 1, c.exit 2] else [c.exit 1]

/-- The history of the handles: those issued, newest first, each with the call that returned
it, and those an earlier CONTINUE completed with. -/
structure DaSeen where
  issued : List (UInt64 × DaCall)
  consumed : List UInt64

/-- A handle is issued by a call that starts an operation, answers INCOMPLETE and has taken a
new handle from `val_da_alloc_handle`.  (SET_TDI_STATE also answers `1` when VDEV_LOCK fails,
and then `gprs[1]` holds whatever it held before.) -/
def DaSeen.observe (o : DaSeen) (c : DaCall) (s s' : DaHost) : DaSeen :=
  if c.IsProducer ∧ s'.enter 0 = rhiDaErrorIncomplete ∧ s'.handle ≠ s.handle then
    { o with issued := (s'.enter 1, c) :: o.issued }
  else if c.exit 0 = rhiDaVdevContinue ∧ s'.enter 0 = rhiDaSuccess then
    { o with consumed := c.exit 2 :: o.consumed }
  else o

/-- The history along a run, newest call last. -/
def daSeen (sharedBase : UInt64) (s : DaHost) (o : DaSeen) : List DaCall → DaSeen
  | [] => o
  | c :: cs =>
    daSeen sharedBase (daStep sharedBase s c) (o.observe c s (daStep sharedBase s c)) cs

theorem daSeen_snoc (sharedBase : UInt64) (c : DaCall) :
    ∀ (cs : List DaCall) (s : DaHost) (o : DaSeen),
      daSeen sharedBase s o (cs ++ [c]) =
        (daSeen sharedBase s o cs).observe c (daRun sharedBase s cs)
          (daRun sharedBase s (cs ++ [c]))
  | [], _, _ => rfl
  | _ :: cs, _, _ => daSeen_snoc sharedBase c cs _ _

/-! ## 5. What a call does to the handles -/

/-- `target_vdev`: the device object a VDEV id names, if the host has one. -/
def DaCall.target (c : DaCall) (vdevId : UInt64) : Option VdevObj :=
  if (c.vdevObj 0).vdevId = vdevId then some (c.vdevObj 0)
  else if c.daVdevCount > 1 ∧ (c.vdevObj 1).vdevId = vdevId then some (c.vdevObj 1)
  else none

/-- **CONTINUE, in one line.**  The handle must be `g_da_next_handle` and the VDEV id must have
a device; then, and only then, there is device communication. -/
theorem valRhiDaVdevContinue_eq (c : DaCall) (s : DaHost) :
    valRhiDaVdevContinue c s =
      match (if s.daNextHandle = c.exit 2 then c.target (c.exit 1) else none) with
      | none => (rhiDaErrorInvalidVdevId, s)
      | some v =>
        (if c.communicate ≠ 0 then rhiDaErrorDevice else rhiDaSuccess,
          s.issue (.devCommunicate v.vdev rmiVdevLocked)) := by
  unfold valRhiDaVdevContinue DaCall.target
  by_cases hh : s.daNextHandle = c.exit 2
  · by_cases h0 : (c.vdevObj 0).vdevId = c.exit 1
    · by_cases hc : c.communicate = 0 <;> simp [hh, h0, hc]
    · by_cases h1 : c.daVdevCount > 1 ∧ (c.vdevObj 1).vdevId = c.exit 1
      · by_cases hc : c.communicate = 0 <;> simp [hh, h0, h1, hc]
      · simp [hh, h0, h1]
  · simp [hh]

/-- What a dispatched call can do to the two statics: nothing, or issue a new handle. -/
inductive DaEffect (c : DaCall) (s s' : DaHost) : Prop where
  | kept (next : s'.daNextHandle = s.daNextHandle) (ctr : s'.handle = s.handle)
  | issued (producer : c.IsProducer) (status : s'.enter 0 = rhiDaErrorIncomplete)
      (reply : s'.enter 1 = s.handle) (next : s'.daNextHandle = s.handle)
      (ctr : s'.handle = s.handle + 1)
      (named : c.exit 0 ≠ rhiDaVdevP2pUnbind → (c.vdevObj 0).vdevId = c.exit 1)

theorem incomplete_issued {c : DaCall} {s s₁ : DaHost} (hp : c.IsProducer)
    (hh : s₁.handle = s.handle)
    (hn : c.exit 0 ≠ rhiDaVdevP2pUnbind → (c.vdevObj 0).vdevId = c.exit 1) :
    DaEffect c s (.ret s₁.incomplete) := by
  have h10 : (1 : Fin 31) ≠ 0 := by decide
  refine .issued hp ?_ ?_ hh ?_ hn
  · simp [DaHost.ret, DaHost.setGpr, DaHost.incomplete]
  · simp [DaHost.ret, DaHost.setGpr, DaHost.incomplete, valDaAllocHandle, h10, hh]
  · exact congrArg (· + 1) hh

theorem getMeasurements_effect (sharedBase : UInt64) {c : DaCall} (s : DaHost)
    (hf : c.exit 0 = rhiDaVdevGetMeasurements) :
    DaEffect c s (.ret (valRhiDaVdevGetMeasurements sharedBase c s)) := by
  unfold valRhiDaVdevGetMeasurements
  dsimp only
  split
  · exact .kept rfl rfl
  · rename_i hv
    split
    · exact .kept rfl rfl
    · split
      · exact .kept rfl rfl
      · exact incomplete_issued (Or.inl hf) rfl fun _ => not_not.mp hv

theorem getInterfaceReport_effect {c : DaCall} (s : DaHost)
    (hf : c.exit 0 = rhiDaVdevGetInterfaceReport) :
    DaEffect c s (.ret (valRhiDaVdevGetInterfaceReport c s)) := by
  unfold valRhiDaVdevGetInterfaceReport
  dsimp only
  split
  · exact .kept rfl rfl
  · rename_i hv
    split
    · exact .kept rfl rfl
    · exact incomplete_issued (Or.inr (Or.inl hf)) rfl fun _ => not_not.mp hv

theorem setTdiState_effect {c : DaCall} (s : DaHost)
    (hf : c.exit 0 = rhiDaVdevSetTdiState) :
    DaEffect c s (.ret (valRhiDaVdevSetTdiState c s)) := by
  have hp : c.IsProducer := Or.inr (Or.inr (Or.inl hf))
  unfold valRhiDaVdevSetTdiState
  dsimp only
  split
  · exact .kept rfl rfl
  · rename_i hv
    split
    · exact .kept rfl rfl
    · split
      · split
        · exact .kept rfl rfl
        · exact incomplete_issued hp rfl fun _ => not_not.mp hv
      · exact incomplete_issued hp rfl fun _ => not_not.mp hv

theorem p2pUnbind_effect {c : DaCall} (s : DaHost) (hf : c.exit 0 = rhiDaVdevP2pUnbind) :
    DaEffect c s (.ret (valRhiDaVdevP2pUnbind c s)) := by
  unfold valRhiDaVdevP2pUnbind
  dsimp only
  split
  · exact .kept rfl rfl
  · exact incomplete_issued (Or.inr (Or.inr (Or.inr hf))) rfl fun h => absurd hf h

theorem continue_effect (c : DaCall) (s : DaHost) :
    DaEffect c s (.ret (valRhiDaVdevContinue c s)) := by
  rw [valRhiDaVdevContinue_eq]
  split
  · exact .kept rfl rfl
  · exact .kept rfl rfl

theorem object_effect (sharedBase : UInt64) (c : DaCall) (s : DaHost) :
    DaEffect c s (.ret (valRhiDaObjectSize c s)) ∧
      DaEffect c s (.ret (valRhiDaObjectRead sharedBase c s)) := by
  constructor
  · unfold valRhiDaObjectSize
    dsimp only
    repeat' split
    all_goals exact .kept rfl rfl
  · unfold valRhiDaObjectRead
    dsimp only
    repeat' split
    all_goals exact .kept rfl rfl

theorem abort_effect (c : DaCall) (s : DaHost) :
    DaEffect c s (.ret (valRhiDaVdevAbort c s)) := by
  unfold valRhiDaVdevAbort
  dsimp only
  split
  · exact .kept rfl rfl
  · split <;> exact .kept rfl rfl

/-- **One call and the handles.** -/
theorem daStep_effect (sharedBase : UInt64) (s : DaHost) (c : DaCall) :
    DaEffect c s (daStep sharedBase s c) := by
  unfold daStep valHostRhiDaDispatch
  dsimp only
  by_cases h1 : c.exit 0 = rhiDaVersion
  · rw [if_pos h1]; exact .kept rfl rfl
  by_cases h2 : c.exit 0 = rhiDaFeatures
  · rw [if_neg h1, if_pos h2]; exact .kept rfl rfl
  rw [if_neg h1, if_neg h2]
  split
  · exact (object_effect sharedBase c s).1
  split
  · exact (object_effect sharedBase c s).2
  split
  · exact continue_effect c s
  split
  · rename_i hf; exact getMeasurements_effect sharedBase s hf
  split
  · rename_i hf; exact getInterfaceReport_effect s hf
  split
  · rename_i hf; exact setTdiState_effect s hf
  split
  · rename_i hf; exact p2pUnbind_effect s hf
  split
  · exact abort_effect c s
  · exact .kept rfl rfl

theorem daStep_continue (sharedBase : UInt64) {c : DaCall} (s : DaHost)
    (hf : c.exit 0 = rhiDaVdevContinue) :
    daStep sharedBase s c = .ret (valRhiDaVdevContinue c s) := by
  simp [daStep, valHostRhiDaDispatch, hf, rhiDaVersion, rhiDaFeatures, rhiDaObjectSize,
    rhiDaObjectRead, rhiDaVdevContinue]

/-! ## 6. The handle in force -/

/-- `g_da_next_handle` is the newest handle issued, `0` before there is one; and the call that
issued it named the first device of the host, unless it was P2P_UNBIND. -/
structure HandleInv (s : DaHost) (o : DaSeen) : Prop where
  next : s.daNextHandle = (o.issued.head?.map Prod.fst).getD 0
  producer : ∀ p ∈ o.issued, p.2.IsProducer ∧
    (p.2.exit 0 ≠ rhiDaVdevP2pUnbind → (p.2.vdevObj 0).vdevId = p.2.exit 1)

theorem uint64_succ_ne (x : UInt64) : x + 1 ≠ x := by
  intro h
  have h1 : x + 1 = x + 0 := by rw [h, UInt64.add_zero]
  exact absurd ((UInt64.add_right_inj x).mp h1) (by decide)

/-- **One call keeps the handle in force the newest one issued.** -/
theorem HandleInv.step {s s' : DaHost} {o : DaSeen} {c : DaCall} (h : HandleInv s o)
    (he : DaEffect c s s') : HandleInv s' (o.observe c s s') := by
  cases he with
  | kept next ctr =>
    have hiss : (o.observe c s s').issued = o.issued := by
      unfold DaSeen.observe
      rw [if_neg fun hc => hc.2.2 ctr]
      split <;> rfl
    exact ⟨by rw [hiss, next]; exact h.next, by rw [hiss]; exact h.producer⟩
  | issued producer status reply next ctr named =>
    have hobs : o.observe c s s' = { o with issued := (s'.enter 1, c) :: o.issued } := by
      unfold DaSeen.observe
      exact if_pos ⟨producer, status, by rw [ctr]; exact uint64_succ_ne _⟩
    refine ⟨?_, ?_⟩
    · rw [hobs]
      exact next.trans reply.symm
    · rw [hobs]
      intro p hp
      rcases List.mem_cons.mp hp with rfl | hp
      · exact ⟨producer, named⟩
      · exact h.producer p hp

/-- **Along every run.** -/
theorem daRun_handleInv (sharedBase : UInt64) (cs : List DaCall) :
    HandleInv (daRun sharedBase .init cs) (daSeen sharedBase .init ⟨[], []⟩ cs) := by
  induction cs using List.reverseRecOn with
  | nil => exact ⟨rfl, fun p hp => absurd hp List.not_mem_nil⟩
  | append_singleton cs c ih =>
    rw [daSeen_snoc, daRun_snoc]
    exact ih.step (daStep_effect sharedBase _ c)

/-! ## 7. What CONTINUE promises -/

/-- A CONTINUE may go through ONCE per handle: the handle was issued to a call naming the same
VDEV, and no earlier CONTINUE has completed with it. -/
def DaSeen.Unused (o : DaSeen) (vdevId handle : UInt64) : Prop :=
  (∃ p ∈ o.issued, p.1 = handle ∧ vdevId ∈ p.2.named) ∧ handle ∉ o.consumed

/-- The single-use reading of a handle: without an unused one, an error and no RMI command. -/
def SingleUse (o : DaSeen) (c : DaCall) (s s' : DaHost) : Prop :=
  ¬ o.Unused (c.exit 1) (c.exit 2) → s'.enter 0 ≠ rhiDaSuccess ∧ s'.rmiLog = s.rmiLog

/-- The handle in force: the newest one issued, and the call that returned it. -/
def DaSeen.InForce (o : DaSeen) (handle : UInt64) (p : DaCall) : Prop :=
  o.issued.head? = some (handle, p)

/-- What the code does instead: a handle stays in force until the next one is issued.  The
handle in force and a VDEV id the host has a device for are enough for device communication
(`honours`), and both are needed for it (`communicates`, `refuses`). -/
structure ContinueOk (o : DaSeen) (c : DaCall) (s s' : DaHost) : Prop where
  communicates : s'.rmiLog ≠ s.rmiLog → ∃ p v, o.InForce (c.exit 2) p ∧ p.IsProducer ∧
    c.target (c.exit 1) = some v ∧
    s'.rmiLog = s.rmiLog ++ [.devCommunicate v.vdev rmiVdevLocked] ∧
    (c.daVdevCount ≤ 1 → p.exit 0 ≠ rhiDaVdevP2pUnbind →
      (p.vdevObj 0).vdevId = (c.vdevObj 0).vdevId → c.exit 1 ∈ p.named)
  honours : ∀ p v, o.InForce (c.exit 2) p → c.target (c.exit 1) = some v →
    s'.rmiLog = s.rmiLog ++ [.devCommunicate v.vdev rmiVdevLocked] ∧
    (c.communicate = 0 → s'.enter 0 = rhiDaSuccess)
  refuses : (¬ ∃ p v, o.InForce (c.exit 2) p ∧ c.target (c.exit 1) = some v) →
    s'.enter 0 ≠ rhiDaSuccess ∧ s'.enter 0 ≠ rhiDaErrorIncomplete ∧ s'.rmiLog = s.rmiLog

theorem target_single {c : DaCall} {vdevId : UInt64} {v : VdevObj}
    (h : c.target vdevId = some v) (h1 : c.daVdevCount ≤ 1) : (c.vdevObj 0).vdevId = vdevId := by
  unfold DaCall.target at h
  split at h
  · assumption
  · rw [if_neg fun hc => absurd hc.1 (UInt32.not_lt.mpr h1)] at h
    exact absurd h (by simp)

theorem HandleInv.inForce_iff {s : DaHost} {o : DaSeen} (h : HandleInv s o) {handle : UInt64}
    (h0 : o.issued ≠ [] ∨ handle ≠ 0) :
    s.daNextHandle = handle ↔ ∃ p, o.InForce handle p := by
  rw [h.next]
  unfold DaSeen.InForce
  cases hi : o.issued with
  | nil =>
    have hne : handle ≠ 0 := h0.resolve_left fun hne => hne hi
    simpa using hne.symm
  | cons q qs =>
    constructor
    · intro hq
      exact ⟨q.2, congrArg some (Prod.ext hq rfl)⟩
    · rintro ⟨p, hp⟩
      exact congrArg Prod.fst (Option.some.inj hp)

/-- A CONTINUE that finds no device, or not the handle in force, answers with an error and
leaves the log alone. -/
theorem ret_invalid_refuses (s : DaHost) :
    (DaHost.ret (rhiDaErrorInvalidVdevId, s)).enter 0 ≠ rhiDaSuccess ∧
      (DaHost.ret (rhiDaErrorInvalidVdevId, s)).enter 0 ≠ rhiDaErrorIncomplete ∧
      (DaHost.ret (rhiDaErrorInvalidVdevId, s)).rmiLog = s.rmiLog := by
  have hs : rhiDaErrorInvalidVdevId ≠ rhiDaSuccess := by decide
  have hi : rhiDaErrorInvalidVdevId ≠ rhiDaErrorIncomplete := by decide
  rw [DaHost.ret_enter_zero]
  exact ⟨hs, hi, rfl⟩

/-- **One CONTINUE**, from any state the handles are in order in. -/
theorem HandleInv.continueOk (sharedBase : UInt64) {s : DaHost} {o : DaSeen} {c : DaCall}
    (h : HandleInv s o) (hf : c.exit 0 = rhiDaVdevContinue)
    (h0 : o.issued ≠ [] ∨ c.exit 2 ≠ 0) : ContinueOk o c s (daStep sharedBase s c) := by
  rw [daStep_continue sharedBase s hf, valRhiDaVdevContinue_eq]
  by_cases hh : s.daNextHandle = c.exit 2
  · obtain ⟨p, hp⟩ := (h.inForce_iff h0).mp hh
    have hmem : (c.exit 2, p) ∈ o.issued := List.mem_of_mem_head? hp
    rw [if_pos hh]
    cases ht : c.target (c.exit 1) with
    | none =>
      refine ⟨fun hl => absurd rfl hl, fun q v _ hv => ?_, fun _ => ret_invalid_refuses s⟩
      exact absurd (ht.symm.trans hv) (by simp)
    | some v =>
      refine ⟨fun _ => ⟨p, v, hp, (h.producer _ hmem).1, ht, rfl, fun h1 hp2p hsame => ?_⟩,
        fun q w _ hw => ?_, fun hno => absurd ⟨p, v, hp, ht⟩ hno⟩
      · rw [DaCall.named, if_neg hp2p, ← (h.producer _ hmem).2 hp2p, hsame, target_single ht h1]
        exact List.mem_singleton_self _
      · obtain rfl : v = w := Option.some.inj (ht.symm.trans hw)
        refine ⟨rfl, fun hc => ?_⟩
        rw [DaHost.ret_enter_zero]
        simp [hc]
  · rw [if_neg hh]
    refine ⟨fun hl => absurd rfl hl, fun q v hq _ => ?_, fun _ => ret_invalid_refuses s⟩
    exact absurd ((h.inForce_iff h0).mpr ⟨q, hq⟩) hh

/-- **Continuation handles.**  After every sequence of dispatched calls with arbitrary registers,
objects and answers, a CONTINUE whose handle is not `0`, or any CONTINUE once a handle has been
issued, communicates with a device only if its handle is the newest one returned with
`RHI_DA_ERROR_INCOMPLETE` by one of the four calls that start an operation, and only with the
device its VDEV id names; where the host has one device, that is the one the other call named.
Otherwise it returns an error and issues no RMI command.  And a handle stays in force until the
next one is issued, also after a CONTINUE that succeeded: with it and a VDEV id the host has, the
device is communicated with each time.  P2P_UNBIND is completed by one CONTINUE for each of its
two devices. -/
theorem continue_only_with_handle_in_force (sharedBase : UInt64) (cs : List DaCall) (c : DaCall)
    (hf : c.exit 0 = rhiDaVdevContinue)
    (h0 : (daSeen sharedBase .init ⟨[], []⟩ cs).issued ≠ [] ∨ c.exit 2 ≠ 0) :
    ContinueOk (daSeen sharedBase .init ⟨[], []⟩ cs) c (daRun sharedBase .init cs)
      (daRun sharedBase .init (cs ++ [c])) := by
  rw [daRun_snoc]
  exact (daRun_handleInv sharedBase cs).continueOk sharedBase hf h0

/-- Two devices with ids 1 and 2, and a well-behaved RMM. -/
def twoVdevCall (fid x1 x2 : UInt64) : DaCall where
  exit := fun i => if i = 0 then fid else if i = 1 then x1 else if i = 2 then x2 else 0
  rd := 0x88000000
  pdevObj := ⟨0, 0, 0, 0⟩
  vdevObj := fun i => ⟨0x88010000, 0x88020000, if i = 0 then 1 else 2, 0, 0, 0, 0⟩
  daVdevCount := 2
  x0 := 0
  communicate := 0

/-- With a handle in force, a handle no call has issued is refused and the one in force is
honoured. -/
theorem continue_only_with_handle_in_force_stale :
    (daRun 0 .init ([twoVdevCall rhiDaVdevP2pUnbind 1 2] ++
        [twoVdevCall rhiDaVdevContinue 1 7])).enter 0 ≠ rhiDaSuccess ∧
      (daRun 0 .init ([twoVdevCall rhiDaVdevP2pUnbind 1 2] ++
        [twoVdevCall rhiDaVdevContinue 2 1])).enter 0 = rhiDaSuccess := by
  constructor
  · refine ((continue_only_with_handle_in_force 0 [twoVdevCall rhiDaVdevP2pUnbind 1 2]
      (twoVdevCall rhiDaVdevContinue 1 7) rfl (Or.inr (by decide))).refuses ?_).1
    rintro ⟨p, v, hp, -⟩
    have h7 : (1 : UInt64) = 7 := congrArg Prod.fst (Option.some.inj hp)
    exact absurd h7 (by decide)
  · exact ((continue_only_with_handle_in_force 0 [twoVdevCall rhiDaVdevP2pUnbind 1 2]
      (twoVdevCall rhiDaVdevContinue 2 1) rfl (Or.inr (by decide))).honours
        (twoVdevCall rhiDaVdevP2pUnbind 1 2) _ rfl rfl).2 rfl

/-- **A handle is not single-use.**  P2P_UNBIND of devices 1 and 2 returns handle 1; CONTINUE for
device 1 succeeds with it, and CONTINUE for device 2 then succeeds with it again. -/
theorem continue_twice_with_one_handle :
    ¬ SingleUse
      (daSeen 0 .init ⟨[], []⟩
        [twoVdevCall rhiDaVdevP2pUnbind 1 2, twoVdevCall rhiDaVdevContinue 1 1])
      (twoVdevCall rhiDaVdevContinue 2 1)
      (daRun 0 .init [twoVdevCall rhiDaVdevP2pUnbind 1 2, twoVdevCall rhiDaVdevContinue 1 1])
      (daRun 0 .init ([twoVdevCall rhiDaVdevP2pUnbind 1 2, twoVdevCall rhiDaVdevContinue 1 1] ++
        [twoVdevCall rhiDaVdevContinue 2 1])) := by
  intro h
  have hused : (daSeen 0 .init ⟨[], []⟩
      [twoVdevCall rhiDaVdevP2pUnbind 1 2, twoVdevCall rhiDaVdevContinue 1 1]).consumed = [1] := by
    decide
  refine (h fun hu => hu.2 ?_).1 (by decide)
  rw [hused]
  exact List.mem_singleton_self _

end RmmAcs.Rhi
