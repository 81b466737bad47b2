/-
# Non-blocking transfers

In a non-blocking session a SEND is answered twice.  The first call takes the payload and reports
that the transfer is in progress; the next one, whatever its arguments, completes it and reports how
much was sent.  The same handler does both, and which of the two it does is in `g_rhi_send_state`,
where no Realm can look.  RECEIVE has a state of its own, `g_rhi_recv_state`.

So the replies must ALTERNATE: a Realm that counts them knows which transfer is complete.  This file
follows the replies of both kinds along a session, with any other calls in between, failing or not,
and with any change of host memory and heap between two calls.
-/
import RmmAcs.Rhi.SessionInv

namespace RmmAcs.Rhi

open RmmAcs

/-! ## 1. Replies -/

/-- A successful SEND or RECEIVE, as the Realm sees it: the length it passed, and the state and the
length in the reply. -/
structure IoReply where
  length : UInt64
  state : UInt64
  transferred : UInt64
deriving DecidableEq, Repr

/-- A call of SEND. -/
def RhiCall.IsSend (c : RhiCall) : Prop := c.exit 0 = rhiSessionSend

/-- A call of RECEIVE with a buffer; without one RECEIVE only answers how much there is. -/
def RhiCall.IsReceive (c : RhiCall) : Prop := c.exit 0 = rhiSessionReceive ∧ c.exit 3 ≠ 0

instance (c : RhiCall) : Decidable c.IsSend := inferInstanceAs (Decidable (_ = _))

instance (c : RhiCall) : Decidable c.IsReceive := inferInstanceAs (Decidable (_ ∧ _))

/-- The replies of the successful calls of one kind, in order. -/
def replies (sharedBase : UInt64) (kind : RhiCall → Bool) : RhiHost → List RhiCall → List IoReply
  | _, [] => []
  | s, c :: cs =>
    let s' := rhiStep sharedBase s c
    if kind c = true ∧ s'.enter 0 = Status.success.code then
      ⟨c.exit 3, s'.enter 2, s'.enter 3⟩ :: replies sharedBase kind s' cs
    else replies sharedBase kind s' cs

/-- **The replies alternate.**  While no transfer is pending the next reply starts one, of `len`
bytes, and reports `(IO_IN_PROGRESS, 0)`; while one is pending the next reply completes it, and
reports `IO_COMPLETE` with its length. -/
def Alternate (len : IoReply → UInt64) : Option UInt64 → List IoReply → Prop
  | _, [] => True
  | none, r :: rs =>
    r.state = Hss.ioInProgress.code ∧ r.transferred = 0 ∧ Alternate len (some (len r)) rs
  | some l, r :: rs =>
    r.state = Hss.ioComplete.code ∧ r.transferred = l ∧ Alternate len none rs

/-! ## 2. One call of a non-blocking session -/

/-- The state of one direction: a transfer of so many bytes is pending, or none. -/
def RhiSessionIoState.Pending : Option UInt64 → RhiSessionIoState → Prop
  | none, st => st.protoState ≠ .ioInProgress
  | some l, st => st = ⟨.ioInProgress, l⟩

/-- What a transfer call does to its own direction: it fails and does nothing, starts a transfer
of `len` bytes, or completes the one that is pending. -/
inductive IoStep (len : UInt64) (st : RhiSessionIoState) :
    Status → RhiSessionIoState → (UInt64 × UInt64) → Prop
  | failed {status : Status} {reply : UInt64 × UInt64} : status ≠ .success →
      IoStep len st status st reply
  | starts : st.protoState ≠ .ioInProgress →
      IoStep len st .success ⟨.ioInProgress, len⟩ (Hss.ioInProgress.code, 0)
  | completes : st.protoState = .ioInProgress →
      IoStep len st .success { st with protoState := .ioComplete } (Hss.ioComplete.code, st.ioLen)

/-- `gprs[2]` and `gprs[3]` of a reply. -/
def RhiHost.ioReply (s : RhiHost) : UInt64 × UInt64 := (s.enter 2, s.enter 3)

@[simp] theorem ioReply_reply3 (s : RhiHost) (x1 x2 x3 : UInt64) :
    (s.reply3 x1 x2 x3).ioReply = (x2, x3) := by
  simp [RhiHost.ioReply, RhiHost.reply3]

/-- A session is open, and it is non-blocking. -/
structure RhiSession.NonBlocking (g : RhiSession) : Prop where
  connType : g.connType = rhiConnModeNonBlocking
  isOpen : g.protoState ≠ .sessionUnconnected

theorem RhiSession.NonBlocking.setProto {g : RhiSession} (h : g.NonBlocking) {st : Hss}
    (hst : st ≠ .sessionUnconnected) : RhiSession.NonBlocking { g with protoState := st } :=
  ⟨h.connType, hst⟩

theorem nonBlocking_ne_blocking : rhiConnModeNonBlocking ≠ rhiConnModeBlocking := by decide

/-- What SEND does in a non-blocking session: it moves the sending direction only. -/
structure Sends (length : UInt64) (s : RhiHost) (r : Status × RhiHost) : Prop where
  sess : r.2.globals.sess.NonBlocking
  recv : r.2.globals.recvState = s.globals.recvState
  send : IoStep length s.globals.sendState r.1 r.2.globals.sendState r.2.ioReply

/-- What RECEIVE does there; without a buffer it moves nothing. -/
structure Receives (bufferSize : UInt64) (s : RhiHost) (r : Status × RhiHost) : Prop where
  sess : r.2.globals.sess.NonBlocking
  send : r.2.globals.sendState = s.globals.sendState
  query : bufferSize = 0 → r.2.globals.recvState = s.globals.recvState
  recv : bufferSize ≠ 0 →
    IoStep payloadLen s.globals.recvState r.1 r.2.globals.recvState r.2.ioReply

theorem Sends.refused {length : UInt64} {s : RhiHost} (h : s.globals.sess.NonBlocking)
    {st : Status} (hst : st ≠ .success) : Sends length s (st, s) := ⟨h, rfl, .failed hst⟩

theorem Receives.refused {bufferSize : UInt64} {s : RhiHost} (h : s.globals.sess.NonBlocking)
    {st : Status} (hst : st ≠ .success) : Receives bufferSize s (st, s) :=
  ⟨h, rfl, fun _ => rfl, fun _ => .failed hst⟩

theorem send_nonBlocking (sharedBase sessId bufferIpa length offset : UInt64) {s : RhiHost}
    (h : s.globals.sess.NonBlocking) :
    Sends length s (valHostRhiSessionSend sharedBase sessId bufferIpa length offset s) := by
  have hpay := sendPayload_untouched (sharedBase + testUseOffset1 + offset) length s
  have hmode : ¬ s.globals.sess.connType = rhiConnModeBlocking := by
    rw [h.connType]
    exact nonBlocking_ne_blocking
  unfold valHostRhiSessionSend
  dsimp only
  split
  · exact .refused h (by decide)
  split
  · exact .refused h (by decide)
  split
  · exact .refused h (by decide)
  rw [if_pos h.connType]
  split
  · rename_i hpending
    refine ⟨h, rfl, ?_⟩
    rw [ioReply_reply3]
    exact .completes hpending
  rename_i hpending
  split
  · exact .refused h (by decide)
  · generalize sendPayload (sharedBase + testUseOffset1 + offset) length s = r at hpay
    obtain ⟨p, s'⟩ := r
    obtain ⟨hg, -⟩ := hpay
    dsimp only at hg
    have hsess : s'.globals.sess.NonBlocking := by rw [hg]; exact h
    have hrecv : s'.globals.recvState = s.globals.recvState := by rw [hg]
    have hsend : s'.globals.sendState = s.globals.sendState := by rw [hg]
    cases p with
    | noMemory =>
      refine ⟨hsess, hrecv, ?_⟩
      dsimp only
      rw [hsend]
      exact .failed (by decide)
    | mismatch =>
      have hmismatch : s'.peerMismatch.globals.sendState = s.globals.sendState := hsend
      refine ⟨hsess.setProto (by decide), hrecv, ?_⟩
      dsimp only
      rw [hmismatch]
      exact .failed (by decide)
    | good =>
      refine ⟨hsess, hrecv, ?_⟩
      dsimp only
      rw [ioReply_reply3]
      exact .starts hpending

theorem receive_nonBlocking (sharedBase sessId bufferIpa bufferSize offset : UInt64) {s : RhiHost}
    (h : s.globals.sess.NonBlocking) : Receives bufferSize s
      (valHostRhiSessionReceive sharedBase sessId bufferIpa bufferSize offset s) := by
  have hmode : ¬ s.globals.sess.connType = rhiConnModeBlocking := by
    rw [h.connType]
    exact nonBlocking_ne_blocking
  unfold valHostRhiSessionReceive
  dsimp only
  split
  · exact .refused h (by decide)
  split
  · exact .refused h (by decide)
  split
  · rename_i hsize
    exact ⟨h, rfl, fun _ => rfl, fun hne => absurd hsize.2 hne⟩
  split
  · exact .refused h (by decide)
  split
  · rename_i hsize
    exact ⟨h, rfl, fun _ => rfl, fun hne => absurd hsize hne⟩
  rename_i hsize
  split
  · exact .refused h (by decide)
  rw [if_pos h.connType]
  split
  · rename_i hpending
    refine ⟨h, rfl, fun hz => absurd hz hsize, fun _ => ?_⟩
    rw [ioReply_reply3]
    exact .completes hpending
  rename_i hpending
  split
  · exact .refused h (by decide)
  · refine ⟨h, rfl, fun hz => absurd hz hsize, fun _ => ?_⟩
    rw [ioReply_reply3]
    exact .starts hpending

theorem reply2_globals (s : RhiHost) (x1 x2 : UInt64) : (s.reply2 x1 x2).globals = s.globals := rfl

theorem startSession_globals (s : RhiHost) (connType : UInt64) (st : Hss) :
    (s.startSession connType st).globals
      = ⟨⟨s.nextSessionId, st, true, connType⟩, ⟨.connectionEstablished, 0⟩,
          ⟨.connectionEstablished, 0⟩⟩ := rfl

theorem falRead_globals (sharedBase bufferIpa bufferSize : UInt64) (s : RhiHost) :
    (valHostRhiFalRead sharedBase bufferIpa bufferSize s).2.globals = s.globals := by
  unfold valHostRhiFalRead
  dsimp only
  split
  · rfl
  split
  · split
    · rfl
    · exact reply2_globals _ _ _
  · split
    · rfl
    · exact reply2_globals _ _ _

/-- A call of another kind, CLOSE apart, moves neither direction. -/
theorem rhiStep_other (sharedBase : UInt64) {s : RhiHost} {c : RhiCall}
    (h : s.globals.sess.NonBlocking) (hclose : c.exit 0 ≠ rhiSessionClose)
    (hsend : c.exit 0 ≠ rhiSessionSend) (hreceive : c.exit 0 ≠ rhiSessionReceive) :
    (rhiStep sharedBase s c).globals.sess.NonBlocking ∧
      (rhiStep sharedBase s c).globals.sendState = s.globals.sendState ∧
      (rhiStep sharedBase s c).globals.recvState = s.globals.recvState := by
  by_cases hopen : c.exit 0 = rhiSessionOpen
  · rw [rhiStep_open hopen]
    rcases open_cases (c.exit 1) (c.exit 2) { s with mem := c.mem, heap := c.heap } with
      ⟨st, -, hr⟩ | ⟨st, -, hp, -, -⟩ | ⟨-, hr⟩
    · rw [hr]
      exact ⟨h, rfl, rfl⟩
    · exact absurd hp h.isOpen
    · rw [hr]
      exact ⟨h.setProto (by decide), rfl, rfl⟩
  · have hglobals : (rhiStep sharedBase s c).globals = s.globals := by
      unfold rhiStep valHostRhiDispatch
      dsimp only
      rw [if_neg hopen, if_neg hclose, if_neg hsend, if_neg hreceive]
      repeat' split
      all_goals first | rfl | exact falRead_globals _ _ _ _
    rw [hglobals]
    exact ⟨h, rfl, rfl⟩

/-! ## 3. A session -/

/-- What is pending in the two directions of a non-blocking session. -/
structure PendingAt (send recv : Option UInt64) (g : RhiGlobals) : Prop where
  sess : g.sess.NonBlocking
  send : g.sendState.Pending send
  recv : g.recvState.Pending recv

/-- A call of one direction (`mine`) and the transfers of that direction: a success starts one or
completes the one that is pending, and otherwise nothing changes. -/
def Turn (mine : Prop) (len : UInt64) (pending : Option UInt64) (s' : RhiHost)
    (pending' : Option UInt64) : Prop :=
  (mine ∧ s'.enter 0 = Status.success.code ∧
    ((pending = none ∧ pending' = some len ∧ s'.ioReply = (Hss.ioInProgress.code, 0)) ∨
      ∃ l, pending = some l ∧ pending' = none ∧ s'.ioReply = (Hss.ioComplete.code, l))) ∨
  (¬ (mine ∧ s'.enter 0 = Status.success.code) ∧ pending' = pending)

theorem Turn.idle {mine : Prop} {len : UInt64} {pending : Option UInt64} {s' : RhiHost}
    (h : ¬ mine) : Turn mine len pending s' pending := Or.inr ⟨fun hm => h hm.1, rfl⟩

/-- A transfer call is a turn of its direction. -/
theorem IoStep.turn (mine : Prop) {len : UInt64} {st : RhiSessionIoState} {r : Status × RhiHost}
    {st' : RhiSessionIoState} {pending : Option UInt64} (hmine : mine)
    (h : IoStep len st r.1 st' r.2.ioReply) (hpending : st.Pending pending) :
    ∃ pending', st'.Pending pending' ∧
      Turn mine len pending (RhiHost.ret (r.1.code, r.2)) pending' := by
  have hstatus : (RhiHost.ret (r.1.code, r.2)).enter 0 = r.1.code := ret_enter_zero _
  have hreply : (RhiHost.ret (r.1.code, r.2)).ioReply = r.2.ioReply := by
    unfold RhiHost.ioReply
    rw [ret_enter_of_ne _ (by decide), ret_enter_of_ne _ (by decide)]
  obtain ⟨status, s'⟩ := r
  unfold Turn
  rw [hstatus, hreply]
  generalize s'.ioReply = reply at h
  cases h with
  | failed hst => exact ⟨pending, hpending, Or.inr ⟨fun hs => hst (Status.code_inj hs.2), rfl⟩⟩
  | starts hst =>
    cases pending with
    | none => exact ⟨some len, rfl, Or.inl ⟨hmine, rfl, Or.inl ⟨rfl, rfl, rfl⟩⟩⟩
    | some l =>
      obtain rfl : st = ⟨.ioInProgress, l⟩ := hpending
      exact absurd rfl hst
  | completes hst =>
    cases pending with
    | none => exact absurd hst hpending
    | some l =>
      obtain rfl : st = ⟨.ioInProgress, l⟩ := hpending
      exact ⟨none, fun heq => absurd heq (by simp), Or.inl ⟨hmine, rfl, Or.inr ⟨l, rfl, rfl, rfl⟩⟩⟩

/-- **One call of a session**, CLOSE apart, is a turn of both directions. -/
theorem PendingAt.step (sharedBase : UInt64) {s : RhiHost} {c : RhiCall}
    {send recv : Option UInt64} (h : PendingAt send recv s.globals)
    (hclose : c.exit 0 ≠ rhiSessionClose) :
    ∃ send' recv', PendingAt send' recv' (rhiStep sharedBase s c).globals ∧
      Turn c.IsSend (c.exit 3) send (rhiStep sharedBase s c) send' ∧
      Turn c.IsReceive payloadLen recv (rhiStep sharedBase s c) recv' := by
  by_cases hsend : c.exit 0 = rhiSessionSend
  · have hnot : ¬ c.IsReceive := fun hr => absurd (hsend.symm.trans hr.1) (by decide)
    obtain ⟨hsess, hrecv, hstep⟩ := send_nonBlocking sharedBase (c.exit 1) (c.exit 2) (c.exit 3)
      (c.exit 4) (s := { s with mem := c.mem, heap := c.heap }) h.sess
    rw [rhiStep_send hsend]
    obtain ⟨send', hsend', hturn⟩ := hstep.turn c.IsSend hsend h.send
    refine ⟨send', recv, ⟨hsess, hsend', ?_⟩, hturn, .idle hnot⟩
    rw [ret_globals, hrecv]
    exact h.recv
  by_cases hreceive : c.exit 0 = rhiSessionReceive
  · have hnot : ¬ c.IsSend := hsend
    obtain ⟨hsess, hsend', hquery, hstep⟩ := receive_nonBlocking sharedBase (c.exit 1) (c.exit 2)
      (c.exit 3) (c.exit 4) (s := { s with mem := c.mem, heap := c.heap }) h.sess
    rw [rhiStep_receive hreceive]
    by_cases hsize : c.exit 3 = 0
    · refine ⟨send, recv, ⟨hsess, ?_, ?_⟩, .idle hnot, .idle fun hr => hr.2 hsize⟩
      · rw [ret_globals, hsend']
        exact h.send
      · rw [ret_globals, hquery hsize]
        exact h.recv
    · obtain ⟨recv', hrecv', hturn⟩ :=
        (hstep hsize).turn c.IsReceive ⟨hreceive, hsize⟩ h.recv
      refine ⟨send, recv', ⟨hsess, ?_, hrecv'⟩, .idle hnot, hturn⟩
      rw [ret_globals, hsend']
      exact h.send
  · obtain ⟨hsess, hsend', hrecv'⟩ := rhiStep_other sharedBase h.sess hclose hsend hreceive
    refine ⟨send, recv, ⟨hsess, ?_, ?_⟩, .idle hsend, .idle fun hr => hreceive hr.1⟩
    · rw [hsend']
      exact h.send
    · rw [hrecv']
      exact h.recv

/-- A turn continues the alternation. -/
theorem Turn.alternate {sharedBase : UInt64} {kind : RhiCall → Bool} {len : IoReply → UInt64}
    {s : RhiHost} {c : RhiCall} {cs : List RhiCall} {pending pending' : Option UInt64} {l : UInt64}
    (h : Turn (kind c = true) l pending (rhiStep sharedBase s c) pending')
    (hlen : ∀ x y, len ⟨c.exit 3, x, y⟩ = l)
    (hrest : Alternate len pending' (replies sharedBase kind (rhiStep sharedBase s c) cs)) :
    Alternate len pending (replies sharedBase kind s (c :: cs)) := by
  unfold replies
  rcases h with ⟨hmine, hok, hturn⟩ | ⟨hnot, rfl⟩
  · rw [if_pos ⟨hmine, hok⟩]
    rcases hturn with ⟨rfl, rfl, hreply⟩ | ⟨m, rfl, rfl, hreply⟩
    · obtain ⟨h2, h3⟩ := Prod.mk.inj hreply
      refine ⟨h2, h3, ?_⟩
      rw [hlen]
      exact hrest
    · obtain ⟨h2, h3⟩ := Prod.mk.inj hreply
      exact ⟨h2, h3, hrest⟩
  · rw [if_neg hnot]
    exact hrest

/-- **A session.**  Whatever is pending at its beginning, the replies of both directions alternate
from there on. -/
theorem PendingAt.replies (sharedBase : UInt64) {cs : List RhiCall}
    (hcs : ∀ c ∈ cs, c.exit 0 ≠ rhiSessionClose) {s : RhiHost} {send recv : Option UInt64}
    (h : PendingAt send recv s.globals) :
    Alternate (fun r => r.length) send (Rhi.replies sharedBase (fun c => c.IsSend) s cs) ∧
      Alternate (fun _ => payloadLen) recv
        (Rhi.replies sharedBase (fun c => c.IsReceive) s cs) := by
  induction cs generalizing s send recv with
  | nil =>
    unfold Rhi.replies Alternate
    exact ⟨trivial, trivial⟩
  | cons c cs ih =>
    obtain ⟨send', recv', hpending, hsend, hrecv⟩ :=
      h.step sharedBase (hcs c List.mem_cons_self)
    obtain ⟨hs, hr⟩ := ih (fun d hd => hcs d (List.mem_cons_of_mem c hd)) hpending
    constructor
    · exact Turn.alternate (l := c.exit 3) (by simpa using hsend) (fun _ _ => rfl) hs
    · exact Turn.alternate (l := payloadLen) (by simpa using hrecv) (fun _ _ => rfl) hr

/-! ## 4. From OPEN on -/

/-- An OPEN that starts a non-blocking session. -/
structure StartsNonBlocking (sharedBase : UInt64) (s : RhiHost) (c : RhiCall) : Prop where
  isOpen : c.exit 0 = rhiSessionOpen
  connType : c.exit 2 = rhiConnModeNonBlocking
  unconnected : s.globals.sess.protoState = .sessionUnconnected
  success : (rhiStep sharedBase s c).enter 0 = Status.success.code

theorem StartsNonBlocking.pendingAt {sharedBase : UInt64} {s : RhiHost} {c : RhiCall}
    (h : StartsNonBlocking sharedBase s c) :
    PendingAt none none (rhiStep sharedBase s c).globals := by
  have hok := h.success
  rw [rhiStep_open h.isOpen] at hok ⊢
  rw [ret_enter_zero] at hok
  rcases open_cases (c.exit 1) (c.exit 2) { s with mem := c.mem, heap := c.heap } with
    ⟨st, hst, hr⟩ | ⟨st, hmode, -, -, hr⟩ | ⟨hp, -⟩
  · rw [hr] at hok
    exact absurd (Status.code_inj hok) hst
  · obtain rfl : st = .connectionInProgress := by
      rcases hmode with ⟨hb, -⟩ | ⟨-, hst⟩
      · exact absurd (h.connType.symm.trans hb) nonBlocking_ne_blocking
      · exact hst
    rw [hr, ret_globals]
    dsimp only
    rw [startSession_globals]
    have hne : Hss.connectionInProgress ≠ .sessionUnconnected := by decide
    have hidle : Hss.connectionEstablished ≠ .ioInProgress := by decide
    exact ⟨⟨h.connType, hne⟩, hidle, hidle⟩
  · exact absurd (h.unconnected.symm.trans hp) (by decide)

/-- **Non-blocking transfers complete exactly once.**  After every history of calls, let an OPEN
start a non-blocking session, and let any calls follow, CLOSE apart, with any arguments and with any
host memory and heap.  The successful SENDs are answered `(IO_IN_PROGRESS, 0)` and `(IO_COMPLETE, L)`
in turn, `L` being the length the first of the two passed, and the successful RECEIVEs with a buffer
likewise, `L` being 64. -/
theorem non_blocking_transfers_alternate (sharedBase : UInt64) (history : List RhiCall)
    (opening : RhiCall) (cs : List RhiCall)
    (hopen : StartsNonBlocking sharedBase (rhiRun sharedBase .init history) opening)
    (hcs : ∀ c ∈ cs, c.exit 0 ≠ rhiSessionClose) :
    Alternate (fun r => r.length) none (replies sharedBase (fun c => c.IsSend)
        (rhiRun sharedBase .init (history ++ [opening])) cs) ∧
      Alternate (fun _ => payloadLen) none (replies sharedBase (fun c => c.IsReceive)
        (rhiRun sharedBase .init (history ++ [opening])) cs) := by
  rw [rhiRun_snoc]
  exact hopen.pendingAt.replies sharedBase hcs

/-- A call with these registers, on a memory full of the first byte of the pattern. -/
def patternCall (fid x1 x2 x3 : UInt64) : RhiCall where
  exit := fun i => if i = 0 then fid else if i = 1 then x1 else if i = 2 then x2
    else if i = 3 then x3 else 0
  mem := fun _ => 0xcd
  heap := valHostMemAllocInit

/-- Two calls open the session; of three SENDs, of which one fails, the second and the third are
the two ends of one transfer. -/
theorem non_blocking_transfers_alternate_once :
    replies 0 (fun c => c.IsSend)
        (rhiRun 0 .init ([] ++ [patternCall rhiSessionOpen 0 rhiConnModeNonBlocking 0]))
        [patternCall rhiSessionOpen 1 rhiConnModeNonBlocking 0, patternCall rhiSessionSend 1 0x1001 1,
          patternCall rhiSessionSend 1 0x1000 1, patternCall rhiSessionSend 1 0x1000 7]
      = [⟨1, Hss.ioInProgress.code, 0⟩, ⟨7, Hss.ioComplete.code, 1⟩] ∧
    Alternate (fun r => r.length) none (replies 0 (fun c => c.IsSend)
        (rhiRun 0 .init ([] ++ [patternCall rhiSessionOpen 0 rhiConnModeNonBlocking 0]))
        [patternCall rhiSessionOpen 1 rhiConnModeNonBlocking 0, patternCall rhiSessionSend 1 0x1001 1,
          patternCall rhiSessionSend 1 0x1000 1, patternCall rhiSessionSend 1 0x1000 7]) := by
  refine ⟨by decide, (non_blocking_transfers_alternate 0 [] _ _ ?_ (by decide)).1⟩
  exact ⟨rfl, rfl, rfl, by decide⟩

end RmmAcs.Rhi
