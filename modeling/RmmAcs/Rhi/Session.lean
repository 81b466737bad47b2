/-
# The Realm Host Interface session handlers of `val_host_rhi.c`

A Realm reaches the host through `RSI_HOST_CALL`: the exit registers carry a function id and
its arguments, the host leaves its answer in the entry registers and re-enters the Realm.
`val_host_rhi_dispatch` decodes the function id; four of the functions open, close and use ONE
session, whose whole state is in three file-level globals, `g_rhi_sess`, `g_rhi_send_state` and
`g_rhi_recv_state`.  Session ids come from a counter in the platform layer.

What is modelled and what is not.  The handlers are transcribed branch by branch, with their
early returns, and with the payload comparison of SEND carried out on a byte memory.  The
globals are separate from that memory: they are C objects of their own, and the stores that
RECEIVE and OBJECT_READ can make outside their slot (`Rhi/SharedSlot.lean`) are taken not to hit
them, so a stray write is a write to `mem`, never to a session field.  `val_get_shared_region_base`
belongs to the common layer and is the parameter `sharedBase`.  Log output has no effect and is left
out.
-/
import RmmAcs.Alloc
import RmmAcs.Libc

namespace RmmAcs.Rhi

open RmmAcs

/-! ## 1. Codes -/

/-- The `RHI_HSS_*` protocol states. -/
inductive Hss where
  | sessionUnconnected
  | connectionInProgress
  | connectionEstablished
  | ioInProgress
  | ioComplete
  | bufferSizeDetermined
  | connectionCloseInProgress
deriving DecidableEq, Repr

def Hss.code : Hss → UInt64
  | .sessionUnconnected => 0
  | .connectionInProgress => 1
  | .connectionEstablished => 2
  | .ioInProgress => 3
  | .ioComplete => 4
  | .bufferSizeDetermined => 5
  | .connectionCloseInProgress => 6

/-- The `RHI_SESS_*` status codes. -/
inductive Status where
  | success
  | peerNotAvailable
  | invalidStateForOperation
  | invalidSessionId
  | accessFailed
  | connectionTypeNotSupported
deriving DecidableEq, Repr

def Status.code : Status → UInt64
  | .success => 0
  | .peerNotAvailable => 1
  | .invalidStateForOperation => 2
  | .invalidSessionId => 3
  | .accessFailed => 4
  | .connectionTypeNotSupported => 5

theorem Status.code_inj {a b : Status} (h : a.code = b.code) : a = b := by
  cases a <;> cases b <;> first | rfl | exact absurd h (by decide)

def rhiConnModeBlocking : UInt64 := (1 : UInt64) <<< 0
def rhiConnModeNonBlocking : UInt64 := (1 : UInt64) <<< 1
def rhiConnModeSupportedMask : UInt64 := rhiConnModeBlocking ||| rhiConnModeNonBlocking

def rhiSessionVersion : UInt64 := 0xC5000040
def rhiSessionFeatures : UInt64 := 0xC5000041
def rhiSessionOpen : UInt64 := 0xC5000042
def rhiSessionClose : UInt64 := 0xC5000043
def rhiSessionSend : UInt64 := 0xC5000044
def rhiSessionReceive : UInt64 := 0xC5000045
def rhiFalVersion : UInt64 := 0xC5000046
def rhiFalFeatures : UInt64 := 0xC5000047
def rhiFalGetSize : UInt64 := 0xC5000048
def rhiFalRead : UInt64 := 0xC5000049
def rhiHostconfVersion : UInt64 := 0xC500004E
def rhiHostconfFeatures : UInt64 := 0xC500004F
def rhiHostconfGetIpaChangeAlignment : UInt64 := 0xC5000050

def rhiFalLogSize : UInt64 := 0x1000

/-- `TEST_USE_OFFSET1`: block 512 of 8 bytes. -/
def testUseOffset1 : UInt64 := 512 * 8

/-- `ADDR_IS_ALIGNED`. -/
def addrIsAligned (a b : UInt64) : Bool := (a &&& (b - 1)) == 0

/-! ## 2. State -/

/-- `rhi_session_ts`. -/
structure RhiSession where
  sessionId : UInt64
  protoState : Hss
  idInUse : Bool
  connType : UInt64
deriving DecidableEq, Repr

/-- `rhi_session_io_state_ts`. -/
structure RhiSessionIoState where
  protoState : Hss
  ioLen : UInt64
deriving DecidableEq, Repr

/-- The three session globals. -/
structure RhiGlobals where
  sess : RhiSession
  sendState : RhiSessionIoState
  recvState : RhiSessionIoState
deriving DecidableEq, Repr

/-- The 31 general-purpose registers of a REC exit or entry. -/
abbrev Gprs := Fin 31 → UInt64

/-- There is a register 0, so the numerals are registers. -/
instance neZero_gprs : NeZero 31 := ⟨by decide⟩

/-- Everything the dispatcher reads and writes. -/
structure RhiHost where
  globals : RhiGlobals
  /-- The `static uint64_t session_id` of `pal_rhi_alloc_session_id`. -/
  nextSessionId : UInt64
  falOffset : UInt64
  falInit : Bool
  falLog : ℕ → UInt8
  heap : HeapState
  mem : Mem
  /-- `rec_enter->gprs`. -/
  enter : Gprs

/-- The globals at start-up: all zero. -/
def RhiGlobals.init : RhiGlobals where
  sess := ⟨0, .sessionUnconnected, false, 0⟩
  sendState := ⟨.sessionUnconnected, 0⟩
  recvState := ⟨.sessionUnconnected, 0⟩

/-- The host at start-up: zeroed statics and the session counter at its initialiser. -/
def RhiHost.init : RhiHost where
  globals := .init
  nextSessionId := 1
  falOffset := 0
  falInit := false
  falLog := fun _ => 0
  heap := valHostMemAllocInit
  mem := fun _ => 0
  enter := fun _ => 0

/-- `rec_enter->gprs[1]`, `[2]`. -/
def RhiHost.reply2 (s : RhiHost) (x1 x2 : UInt64) : RhiHost :=
  { s with enter := Function.update (Function.update s.enter 1 x1) 2 x2 }

/-- `rec_enter->gprs[1]`, `[2]`, `[3]`. -/
def RhiHost.reply3 (s : RhiHost) (x1 x2 x3 : UInt64) : RhiHost :=
  { s with enter := Function.update (Function.update (Function.update s.enter 1 x1) 2 x2) 3 x3 }

/-- `pal_rhi_alloc_session_id`: return the counter and post-increment it, modulo `2 ^ 64`. -/
def palRhiAllocSessionId (s : RhiHost) : UInt64 × RhiHost :=
  (s.nextSessionId, { s with nextSessionId := s.nextSessionId + 1 })

/-! ## 3. OPEN and CLOSE -/

/-- The assignments both arms of OPEN make when they start a session. -/
def RhiHost.startSession (s : RhiHost) (connType : UInt64) (st : Hss) : RhiHost :=
  let (id, s) := palRhiAllocSessionId s
  { s with globals :=
      { sess := ⟨id, st, true, connType⟩
        sendState := ⟨.connectionEstablished, 0⟩
        recvState := ⟨.connectionEstablished, 0⟩ } }.reply2 id st.code

/-- `val_host_rhi_session_open`. -/
def valHostRhiSessionOpen (sessId connType : UInt64) (s : RhiHost) : Status × RhiHost :=
  let g := s.globals.sess
  if connType &&& rhiConnModeSupportedMask = 0 then (.connectionTypeNotSupported, s)
  else if connType &&& rhiConnModeSupportedMask = rhiConnModeSupportedMask then
    (.connectionTypeNotSupported, s)
  else if connType = rhiConnModeBlocking then
    if g.protoState ≠ .sessionUnconnected then (.invalidStateForOperation, s)
    else if sessId ≠ 0 ∨ g.idInUse = true then (.invalidSessionId, s)
    else (.success, s.startSession connType .connectionEstablished)
  else if connType = rhiConnModeNonBlocking then
    if g.protoState = .sessionUnconnected then
      if sessId ≠ 0 ∨ g.idInUse = true then (.invalidSessionId, s)
      else (.success, s.startSession connType .connectionInProgress)
    else if g.protoState = .connectionInProgress then
      if g.idInUse = false ∨ sessId = 0 ∨ sessId ≠ g.sessionId then (.invalidSessionId, s)
      else
        (.success,
          { s with globals.sess.protoState := .connectionEstablished }.reply2 g.sessionId
            Hss.connectionEstablished.code)
    else (.invalidStateForOperation, s)
  else (.connectionTypeNotSupported, s)

/-- The assignments that end a session: the reply still carries the id that is being reset. -/
def RhiHost.endSession (s : RhiHost) : RhiHost :=
  { s with globals := .init }.reply2 s.globals.sess.sessionId Hss.sessionUnconnected.code

/-- `val_host_rhi_session_close`. -/
def valHostRhiSessionClose (sessId : UInt64) (s : RhiHost) : Status × RhiHost :=
  let g := s.globals.sess
  if g.idInUse = false ∨ sessId = 0 ∨ sessId ≠ g.sessionId then (.invalidSessionId, s)
  else if g.protoState = .sessionUnconnected then (.invalidStateForOperation, s)
  else if g.connType = rhiConnModeBlocking then
    if g.protoState ≠ .connectionEstablished then (.invalidStateForOperation, s)
    else (.success, s.endSession)
  else if g.connType = rhiConnModeNonBlocking then
    if g.protoState = .connectionEstablished then
      (.success,
        { s with globals.sess.protoState := .connectionCloseInProgress }.reply2 g.sessionId
          Hss.connectionCloseInProgress.code)
    else if g.protoState = .connectionCloseInProgress then (.success, s.endSession)
    else (.invalidStateForOperation, s)
  else (.invalidStateForOperation, s)

/-! ## 4. SEND and RECEIVE -/

/-- How the payload check of SEND can end. -/
inductive Payload where
  | noMemory
  | mismatch
  | good
deriving DecidableEq, Repr

/-- The part of SEND both arms share: two buffers, a copy of the payload, the expected
pattern, and their comparison.  A first buffer that was allocated stays allocated when the
second is refused. -/
def sendPayload (src length : UInt64) (s : RhiHost) : Payload × RhiHost :=
  let (localCopy, heap) := valHostMemAlloc pageSize length s.heap
  let (expected, heap) := valHostMemAlloc pageSize length heap
  if localCopy = 0 ∨ expected = 0 then (.noMemory, { s with heap := heap })
  else
    let mem := memcpy localCopy src length.toNat s.mem
    let mem := fillPattern expected length.toNat mem
    (if memcmp localCopy expected length.toNat mem ≠ 0 then .mismatch else .good,
      { s with heap := heap, mem := mem })

/-- A mismatched payload: the reply, and the assignment of `proto_state` before the return. -/
def RhiHost.peerMismatch (s : RhiHost) : RhiHost :=
  { s with globals.sess.protoState := .connectionEstablished }.reply3 s.globals.sess.sessionId
    Hss.connectionEstablished.code 0

/-- `val_host_rhi_session_send`. -/
def valHostRhiSessionSend (sharedBase sessId bufferIpa length offset : UInt64) (s : RhiHost) :
    Status × RhiHost :=
  let g := s.globals.sess
  if g.idInUse = false ∨ sessId = 0 ∨ sessId ≠ g.sessionId then (.invalidSessionId, s)
  else if g.protoState = .sessionUnconnected ∨ g.protoState = .connectionInProgress ∨
      g.protoState = .connectionCloseInProgress then (.invalidStateForOperation, s)
  else if bufferIpa = 0 ∨ addrIsAligned bufferIpa pageSize = false then (.accessFailed, s)
  else
    let buffer := sharedBase + testUseOffset1
    if g.connType = rhiConnModeBlocking then
      if s.globals.sendState.protoState ≠ .connectionEstablished ∧
          s.globals.sendState.protoState ≠ .ioComplete then (.invalidStateForOperation, s)
      else
        match sendPayload (buffer + offset) length s with
        | (.noMemory, s) => (.accessFailed, s)
        | (.mismatch, s) => (.peerNotAvailable, s.peerMismatch)
        | (.good, s) =>
          (.success, { s with globals.sendState := ⟨.ioComplete, length⟩ }.reply3 g.sessionId
            Hss.ioComplete.code length)
    else if g.connType = rhiConnModeNonBlocking then
      if s.globals.sendState.protoState = .ioInProgress then
        (.success, { s with globals.sendState.protoState := .ioComplete }.reply3 g.sessionId
          Hss.ioComplete.code s.globals.sendState.ioLen)
      else if s.globals.sendState.protoState ≠ .connectionEstablished ∧
          s.globals.sendState.protoState ≠ .ioComplete then (.invalidStateForOperation, s)
      else
        match sendPayload (buffer + offset) length s with
        | (.noMemory, s) => (.accessFailed, s)
        | (.mismatch, s) => (.peerNotAvailable, s.peerMismatch)
        | (.good, s) =>
          (.success, { s with globals.sendState := ⟨.ioInProgress, length⟩ }.reply3 g.sessionId
            Hss.ioInProgress.code 0)
    else (.invalidStateForOperation, s)

/-- `payload_len` of RECEIVE. -/
def payloadLen : UInt64 := 64

/-- The loop of RECEIVE: the pattern, written to the destination. -/
def RhiHost.receivePayload (s : RhiHost) (dest : UInt64) : RhiHost :=
  { s with mem := fillPattern dest payloadLen.toNat s.mem }

/-- `val_host_rhi_session_receive`. -/
def valHostRhiSessionReceive (sharedBase sessId bufferIpa bufferSize offset : UInt64)
    (s : RhiHost) : Status × RhiHost :=
  let g := s.globals.sess
  if g.idInUse = false ∨ sessId = 0 ∨ sessId ≠ g.sessionId then (.invalidSessionId, s)
  else if g.protoState = .sessionUnconnected ∨ g.protoState = .connectionInProgress ∨
      g.protoState = .connectionCloseInProgress then (.invalidStateForOperation, s)
  else if bufferIpa = 0 ∧ bufferSize = 0 then
    (.success, s.reply3 g.sessionId Hss.bufferSizeDetermined.code payloadLen)
  else if bufferIpa = 0 ∨ addrIsAligned bufferIpa pageSize = false then (.accessFailed, s)
  else
    let buffer := sharedBase + testUseOffset1
    if bufferSize = 0 then (.success, s.reply3 g.sessionId Hss.ioComplete.code 0)
    else if offset ≥ bufferSize ∨ payloadLen > bufferSize - offset then (.accessFailed, s)
    else if g.connType = rhiConnModeBlocking then
      if s.globals.recvState.protoState ≠ .connectionEstablished ∧
          s.globals.recvState.protoState ≠ .ioComplete then (.invalidStateForOperation, s)
      else
        (.success, ({ s with globals.recvState := ⟨.ioComplete, payloadLen⟩ }.receivePayload
            (buffer + offset)).reply3 g.sessionId
          Hss.ioComplete.code payloadLen)
    else if g.connType = rhiConnModeNonBlocking then
      if s.globals.recvState.protoState = .ioInProgress then
        (.success, { s with globals.recvState.protoState := .ioComplete }.reply3 g.sessionId
          Hss.ioComplete.code s.globals.recvState.ioLen)
      else if s.globals.recvState.protoState ≠ .connectionEstablished ∧
          s.globals.recvState.protoState ≠ .ioComplete then (.invalidStateForOperation, s)
      else
        (.success, ({ s with globals.recvState := ⟨.ioInProgress, payloadLen⟩ }.receivePayload
            (buffer + offset)).reply3 g.sessionId
          Hss.ioInProgress.code 0)
    else (.invalidStateForOperation, s)

/-! ## 5. The firmware activity log, and the dispatcher -/

/-- `val_host_rhi_fal_read`; the two codes are `RHI_FAL_SUCCESS` and
`RHI_FAL_ACCESS_FAILED`. -/
def valHostRhiFalRead (sharedBase bufferIpa bufferSize : UInt64) (s : RhiHost) :
    UInt64 × RhiHost :=
  if bufferIpa = 0 ∨ addrIsAligned bufferIpa pageSize = false then (1, s)
  else
    let buffer := sharedBase + testUseOffset1
    let s := if s.falInit then s else { s with falLog := patternByte, falInit := true }
    if s.falOffset ≥ rhiFalLogSize ∨ bufferSize = 0 then (0, s.reply2 0 0)
    else
      let remaining := rhiFalLogSize - s.falOffset
      let copyLen := if bufferSize < remaining then bufferSize else remaining
      let log := s.falLog
      let off := s.falOffset.toNat
      let mem := (List.range copyLen.toNat).foldl
        (fun m i => Function.update m (buffer + UInt64.ofNat i) (log (off + i))) s.mem
      let s := { s with mem := mem, falOffset := s.falOffset + copyLen }
      (0, s.reply2 copyLen (rhiFalLogSize - s.falOffset))

/-- `rec_enter->gprs[0] = status`. -/
def RhiHost.ret (r : UInt64 × RhiHost) : RhiHost :=
  { r.2 with enter := Function.update r.2.enter 0 r.1 }

/-- `val_host_rhi_dispatch`: the returned flag is `VAL_SUCCESS` (`true`) or `VAL_ERROR`, and
the status of the call itself is left in `gprs[0]`. -/
def valHostRhiDispatch (sharedBase : UInt64) (exit : Gprs) (s : RhiHost) : Bool × RhiHost :=
  let fid := exit 0
  if fid = rhiSessionVersion then (true, RhiHost.ret (0x10000, s))
  else if fid = rhiSessionFeatures then
    -- the supported-call mask in `gprs[0]`, the supported connection modes in `gprs[1]`
    (true, { s with enter :=
      Function.update (Function.update s.enter 0 0xF) 1 rhiConnModeSupportedMask })
  else if fid = rhiSessionOpen then
    let r := valHostRhiSessionOpen (exit 1) (exit 2) s
    (true, RhiHost.ret (r.1.code, r.2))
  else if fid = rhiSessionClose then
    let r := valHostRhiSessionClose (exit 1) s
    (true, RhiHost.ret (r.1.code, r.2))
  else if fid = rhiSessionSend then
    let r := valHostRhiSessionSend sharedBase (exit 1) (exit 2) (exit 3) (exit 4) s
    (true, RhiHost.ret (r.1.code, r.2))
  else if fid = rhiSessionReceive then
    let r := valHostRhiSessionReceive sharedBase (exit 1) (exit 2) (exit 3) (exit 4) s
    (true, RhiHost.ret (r.1.code, r.2))
  else if fid = rhiFalVersion then (true, RhiHost.ret (0x10000, s))
  else if fid = rhiFalFeatures then (true, RhiHost.ret (0x3, s))
  else if fid = rhiFalGetSize then (true, RhiHost.ret (rhiFalLogSize, s))
  else if fid = rhiFalRead then
    (true, RhiHost.ret (valHostRhiFalRead sharedBase (exit 1) (exit 2) s))
  else if fid = rhiHostconfVersion then (true, RhiHost.ret (0x10000, s))
  else if fid = rhiHostconfFeatures then (true, RhiHost.ret (0x1, s))
  else if fid = rhiHostconfGetIpaChangeAlignment then (true, RhiHost.ret (0x1000, s))
  else (false, s)

end RmmAcs.Rhi
