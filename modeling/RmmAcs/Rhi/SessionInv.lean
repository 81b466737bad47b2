/-
# The session invariant and error atomicity

Four handlers write ten fields of three globals on different paths.  This file finds what stays
true of those fields (`SessInv`), shows that every handler keeps it, and that a call which does
not report success leaves the three globals exactly as they were -- including the path on which
SEND assigns `proto_state` before it returns an error: on that path the assigned value is the
one already there, and it is the invariant that says so.

Ids come from a 64-bit counter that starts at 1 and is never checked.  The `2 ^ 64`-th session
would get id 0, the value that stands for "no session"; everything below is for runs with fewer
OPEN calls than that, and `session_counter_wraps` shows that the bound cannot be dropped.
-/
import RmmAcs.Rhi.Session

namespace RmmAcs.Rhi

open RmmAcs

/-! ## 1. One session call -/

/-- A call from the Realm, together with the host memory and heap at the moment of the call:
between two calls both can change in any way. -/
structure RhiCall where
  exit : Gprs
  mem : Mem
  heap : HeapState

/-- The four session calls. -/
def RhiCall.IsSession (c : RhiCall) : Prop :=
  c.exit 0 = rhiSessionOpen ∨ c.exit 0 = rhiSessionClose ∨ c.exit 0 = rhiSessionSend ∨
    c.exit 0 = rhiSessionReceive

/-- Dispatching one call. -/
def rhiStep (sharedBase : UInt64) (s : RhiHost) (c : RhiCall) : RhiHost :=
  (valHostRhiDispatch sharedBase c.exit { s with mem := c.mem, heap := c.heap }).2

/-- Dispatching a sequence of calls. -/
def rhiRun (sharedBase : UInt64) (s : RhiHost) (cs : List RhiCall) : RhiHost :=
  cs.foldl (rhiStep sharedBase) s

@[simp] theorem rhiRun_nil (sharedBase : UInt64) (s : RhiHost) : rhiRun sharedBase s [] = s := rfl

@[simp] theorem rhiRun_snoc (sharedBase : UInt64) (s : RhiHost) (cs : List RhiCall)
    (c : RhiCall) :
    rhiRun sharedBase s (cs ++ [c]) = rhiStep sharedBase (rhiRun sharedBase s cs) c := by
  simp [rhiRun]

theorem rhiStep_open {sharedBase : UInt64} {s : RhiHost} {c : RhiCall}
    (h : c.exit 0 = rhiSessionOpen) :
    rhiStep sharedBase s c = RhiHost.ret
      ((valHostRhiSessionOpen (c.exit 1) (c.exit 2) { s with mem := c.mem, heap := c.heap }).1.code,
        (valHostRhiSessionOpen (c.exit 1) (c.exit 2) { s with mem := c.mem, heap := c.heap }).2) := by
  simp only [rhiStep, valHostRhiDispatch, h]
  rfl

theorem rhiStep_close {sharedBase : UInt64} {s : RhiHost} {c : RhiCall}
    (h : c.exit 0 = rhiSessionClose) :
    rhiStep sharedBase s c = RhiHost.ret
      ((valHostRhiSessionClose (c.exit 1) { s with mem := c.mem, heap := c.heap }).1.code,
        (valHostRhiSessionClose (c.exit 1) { s with mem := c.mem, heap := c.heap }).2) := by
  simp only [rhiStep, valHostRhiDispatch, h]
  rfl

theorem rhiStep_send {sharedBase : UInt64} {s : RhiHost} {c : RhiCall}
    (h : c.exit 0 = rhiSessionSend) :
    rhiStep sharedBase s c = RhiHost.ret
      ((valHostRhiSessionSend sharedBase (c.exit 1) (c.exit 2) (c.exit 3) (c.exit 4)
          { s with mem := c.mem, heap := c.heap }).1.code,
        (valHostRhiSessionSend sharedBase (c.exit 1) (c.exit 2) (c.exit 3) (c.exit 4)
          { s with mem := c.mem, heap := c.heap }).2) := by
  simp only [rhiStep, valHostRhiDispatch, h]
  rfl

theorem rhiStep_receive {sharedBase : UInt64} {s : RhiHost} {c : RhiCall}
    (h : c.exit 0 = rhiSessionReceive) :
    rhiStep sharedBase s c = RhiHost.ret
      ((valHostRhiSessionReceive sharedBase (c.exit 1) (c.exit 2) (c.exit 3) (c.exit 4)
          { s with mem := c.mem, heap := c.heap }).1.code,
        (valHostRhiSessionReceive sharedBase (c.exit 1) (c.exit 2) (c.exit 3) (c.exit 4)
          { s with mem := c.mem, heap := c.heap }).2) := by
  simp only [rhiStep, valHostRhiDispatch, h]
  rfl

/-! ## 2. What a handler can do to the globals

One inversion lemma for each handler.  Every later proof goes through these four and never
opens a handler again. -/

/-- A handler left the globals and the id counter alone. -/
def Untouched (s s' : RhiHost) : Prop :=
  s'.globals = s.globals ∧ s'.nextSessionId = s.nextSessionId

/-- **OPEN** is refused, starts a session, or completes a non-blocking open. -/
theorem open_cases (sessId connType : UInt64) (s : RhiHost) :
    (∃ st, st ≠ .success ∧ valHostRhiSessionOpen sessId connType s = (st, s)) ∨
    (∃ st, (connType = rhiConnModeBlocking ∧ st = .connectionEstablished ∨
        connType = rhiConnModeNonBlocking ∧ st = .connectionInProgress) ∧
      s.globals.sess.protoState = .sessionUnconnected ∧ s.globals.sess.idInUse = false ∧
      valHostRhiSessionOpen sessId connType s = (.success, s.startSession connType st)) ∨
    (s.globals.sess.protoState = .connectionInProgress ∧
      valHostRhiSessionOpen sessId connType s =
        (.success, { s with globals.sess.protoState := .connectionEstablished }.reply2
          s.globals.sess.sessionId Hss.connectionEstablished.code)) := by
  unfold valHostRhiSessionOpen
  dsimp only
  split
  · exact Or.inl ⟨_, by decide, rfl⟩
  split
  · exact Or.inl ⟨_, by decide, rfl⟩
  split
  · rename_i hb
    split
    · exact Or.inl ⟨_, by decide, rfl⟩
    · rename_i hp
      split
      · exact Or.inl ⟨_, by decide, rfl⟩
      · rename_i hu
        refine Or.inr (Or.inl ⟨_, Or.inl ⟨hb, rfl⟩, not_not.mp hp, ?_, rfl⟩)
        simpa using (not_or.mp hu).2
  split
  · rename_i hnb
    split
    · rename_i hp
      split
      · exact Or.inl ⟨_, by decide, rfl⟩
      · rename_i hu
        refine Or.inr (Or.inl ⟨_, Or.inr ⟨hnb, rfl⟩, hp, ?_, rfl⟩)
        simpa using (not_or.mp hu).2
    split
    · rename_i hp
      split
      · exact Or.inl ⟨_, by decide, rfl⟩
      · exact Or.inr (Or.inr ⟨hp, rfl⟩)
    · exact Or.inl ⟨_, by decide, rfl⟩
  · exact Or.inl ⟨_, by decide, rfl⟩

/-- **CLOSE** is refused, starts an asynchronous close, or ends the session. -/
theorem close_cases (sessId : UInt64) (s : RhiHost) :
    (∃ st, st ≠ .success ∧ valHostRhiSessionClose sessId s = (st, s)) ∨
    (s.globals.sess.connType = rhiConnModeNonBlocking ∧
      s.globals.sess.protoState = .connectionEstablished ∧
      valHostRhiSessionClose sessId s =
        (.success, { s with globals.sess.protoState := .connectionCloseInProgress }.reply2
          s.globals.sess.sessionId Hss.connectionCloseInProgress.code)) ∨
    valHostRhiSessionClose sessId s = (.success, s.endSession) := by
  unfold valHostRhiSessionClose
  dsimp only
  split
  · exact Or.inl ⟨_, by decide, rfl⟩
  split
  · exact Or.inl ⟨_, by decide, rfl⟩
  split
  · split
    · exact Or.inl ⟨_, by decide, rfl⟩
    · exact Or.inr (Or.inr rfl)
  split
  · rename_i hnb
    split
    · rename_i hp
      exact Or.inr (Or.inl ⟨hnb, hp, rfl⟩)
    split
    · exact Or.inr (Or.inr rfl)
    · exact Or.inl ⟨_, by decide, rfl⟩
  · exact Or.inl ⟨_, by decide, rfl⟩

/-- `st` is a state a finished or started transfer of a session of mode `connType` leaves. -/
def IoNext (connType : UInt64) (st : Hss) : Prop :=
  st = .ioComplete ∨ st = .ioInProgress ∧ connType = rhiConnModeNonBlocking

/-- What SEND and RECEIVE have in common: a refusal that touches nothing, the mismatch path
of SEND, or a success that moves I/O states of an open session and nothing else. -/
inductive Transfer (s : RhiHost) : Status × RhiHost → Prop
  | refused {st : Status} {s' : RhiHost} : st ≠ .success → Untouched s s' → Transfer s (st, s')
  | mismatch {s' : RhiHost} : s.globals.sess.protoState ≠ .sessionUnconnected →
      s.globals.sess.protoState ≠ .connectionInProgress →
      s.globals.sess.protoState ≠ .connectionCloseInProgress →
      s'.globals = { s.globals with sess.protoState := .connectionEstablished } →
      s'.nextSessionId = s.nextSessionId → Transfer s (.peerNotAvailable, s')
  | moved {s' : RhiHost} {sendState recvState : RhiSessionIoState} :
      s.globals.sess.protoState ≠ .sessionUnconnected →
      s'.globals = ⟨s.globals.sess, sendState, recvState⟩ →
      s'.nextSessionId = s.nextSessionId →
      (sendState = s.globals.sendState ∨ IoNext s.globals.sess.connType sendState.protoState) →
      (recvState = s.globals.recvState ∨ IoNext s.globals.sess.connType recvState.protoState) →
      Transfer s (.success, s')

theorem Transfer.ite {s : RhiHost} {p : Prop} [Decidable p] {a b : Status × RhiHost}
    (ha : p → Transfer s a) (hb : ¬ p → Transfer s b) : Transfer s (if p then a else b) :=
  iteInduction ha hb

/-- The payload check touches the heap and the memory only. -/
theorem sendPayload_untouched (src length : UInt64) (s : RhiHost) :
    Untouched s (sendPayload src length s).2 := by
  unfold sendPayload
  dsimp only
  split
  · exact ⟨rfl, rfl⟩
  · exact ⟨rfl, rfl⟩

theorem send_transfer (sharedBase sessId bufferIpa length offset : UInt64) (s : RhiHost) :
    Transfer s (valHostRhiSessionSend sharedBase sessId bufferIpa length offset s) := by
  have hpay := sendPayload_untouched (sharedBase + testUseOffset1 + offset) length s
  unfold valHostRhiSessionSend
  dsimp only
  split
  · exact .refused (by decide) ⟨rfl, rfl⟩
  split
  · exact .refused (by decide) ⟨rfl, rfl⟩
  rename_i hp
  obtain ⟨hp1, hp2, hp3⟩ : s.globals.sess.protoState ≠ .sessionUnconnected ∧
      s.globals.sess.protoState ≠ .connectionInProgress ∧
      s.globals.sess.protoState ≠ .connectionCloseInProgress := by
    simpa only [not_or] using hp
  split
  · exact .refused (by decide) ⟨rfl, rfl⟩
  split
  · split
    · exact .refused (by decide) ⟨rfl, rfl⟩
    · generalize sendPayload (sharedBase + testUseOffset1 + offset) length s = r at hpay
      obtain ⟨p, s'⟩ := r
      obtain ⟨hg, hn⟩ := hpay
      dsimp only at hg hn
      cases p with
      | noMemory => exact .refused (by decide) ⟨hg, hn⟩
      | mismatch =>
        exact .mismatch hp1 hp2 hp3 (by simp [RhiHost.peerMismatch, RhiHost.reply3, hg]) hn
      | good =>
        exact .moved hp1 (by simp [RhiHost.reply3, hg]; rfl) hn (Or.inr (Or.inl rfl)) (Or.inl rfl)
  split
  · rename_i hnb
    split
    · exact .moved hp1 rfl rfl (Or.inr (Or.inl rfl)) (Or.inl rfl)
    split
    · exact .refused (by decide) ⟨rfl, rfl⟩
    · generalize sendPayload (sharedBase + testUseOffset1 + offset) length s = r at hpay
      obtain ⟨p, s'⟩ := r
      obtain ⟨hg, hn⟩ := hpay
      dsimp only at hg hn
      cases p with
      | noMemory => exact .refused (by decide) ⟨hg, hn⟩
      | mismatch =>
        exact .mismatch hp1 hp2 hp3 (by simp [RhiHost.peerMismatch, RhiHost.reply3, hg]) hn
      | good =>
        exact .moved hp1 (by simp [RhiHost.reply3, hg]; rfl) hn
          (Or.inr (Or.inr ⟨rfl, hnb⟩)) (Or.inl rfl)
  · exact .refused (by decide) ⟨rfl, rfl⟩

theorem receive_transfer (sharedBase sessId bufferIpa bufferSize offset : UInt64) (s : RhiHost) :
    Transfer s (valHostRhiSessionReceive sharedBase sessId bufferIpa bufferSize offset s) := by
  have hrefused {st : Status} (hst : st ≠ .success) : Transfer s (st, s) := .refused hst ⟨rfl, rfl⟩
  unfold valHostRhiSessionReceive
  refine .ite (fun _ => hrefused (by decide)) fun _ => ?_
  refine .ite (fun _ => hrefused (by decide)) fun hp => ?_
  have hp1 : s.globals.sess.protoState ≠ .sessionUnconnected := (not_or.mp hp).1
  refine .ite (fun _ => .moved hp1 rfl rfl (Or.inl rfl) (Or.inl rfl)) fun _ => ?_
  refine .ite (fun _ => hrefused (by decide)) fun _ => ?_
  refine .ite (fun _ => .moved hp1 rfl rfl (Or.inl rfl) (Or.inl rfl)) fun _ => ?_
  refine .ite (fun _ => hrefused (by decide)) fun _ => ?_
  refine .ite (fun _ => ?_) fun _ => .ite (fun hnb => ?_) fun _ => hrefused (by decide)
  · refine .ite (fun _ => hrefused (by decide)) fun _ => ?_
    exact .moved hp1 rfl rfl (Or.inl rfl) (Or.inr (Or.inl rfl))
  · refine .ite (fun _ => ?_) fun _ => .ite (fun _ => hrefused (by decide)) fun _ => ?_
    · exact .moved hp1 rfl rfl (Or.inl rfl) (Or.inr (Or.inl rfl))
    · exact .moved hp1 rfl rfl (Or.inl rfl) (Or.inr (Or.inr ⟨rfl, hnb⟩))

/-! ## 3. The invariant -/

/-- **The session invariant.**  Without a session the four marks of "no session" agree and both
I/O states are reset; with one, the protocol state, the connection type and the I/O states are
among the values below, and a blocking session never waits for anything. -/
structure SessInv (g : RhiGlobals) : Prop where
  unconnected_iff : g.sess.protoState = .sessionUnconnected ↔ g.sess.idInUse = false
  inUse_iff : g.sess.idInUse = false ↔ g.sess.sessionId = 0
  id_iff : g.sess.sessionId = 0 ↔ g.sess.connType = 0
  closed : g.sess.protoState = .sessionUnconnected →
    g.sendState = ⟨.sessionUnconnected, 0⟩ ∧ g.recvState = ⟨.sessionUnconnected, 0⟩
  proto : g.sess.protoState ≠ .sessionUnconnected →
    g.sess.protoState = .connectionInProgress ∨ g.sess.protoState = .connectionEstablished ∨
      g.sess.protoState = .connectionCloseInProgress
  conn : g.sess.protoState ≠ .sessionUnconnected →
    g.sess.connType = rhiConnModeBlocking ∨ g.sess.connType = rhiConnModeNonBlocking
  send : g.sess.protoState ≠ .sessionUnconnected →
    g.sendState.protoState = .connectionEstablished ∨ g.sendState.protoState = .ioInProgress ∨
      g.sendState.protoState = .ioComplete
  recv : g.sess.protoState ≠ .sessionUnconnected →
    g.recvState.protoState = .connectionEstablished ∨ g.recvState.protoState = .ioInProgress ∨
      g.recvState.protoState = .ioComplete
  blocking : g.sess.connType = rhiConnModeBlocking →
    g.sess.protoState = .connectionEstablished ∧ g.sendState.protoState ≠ .ioInProgress ∧
      g.recvState.protoState ≠ .ioInProgress

theorem sessInv_init : SessInv .init := by
  constructor <;> simp [RhiGlobals.init, rhiConnModeBlocking]

/-- Starting a session keeps the invariant, provided the id is not `0`. -/
theorem sessInv_start {s : RhiHost} {connType : UInt64} {st : Hss}
    (hmode : connType = rhiConnModeBlocking ∧ st = .connectionEstablished ∨
      connType = rhiConnModeNonBlocking ∧ st = .connectionInProgress)
    (hid : s.nextSessionId ≠ 0) : SessInv (s.startSession connType st).globals := by
  have h1 : rhiConnModeBlocking ≠ 0 := by decide
  have h2 : rhiConnModeNonBlocking ≠ 0 := by decide
  have h3 : rhiConnModeNonBlocking ≠ rhiConnModeBlocking := by decide
  rcases hmode with ⟨rfl, rfl⟩ | ⟨rfl, rfl⟩ <;>
    constructor <;>
    simp [RhiHost.startSession, palRhiAllocSessionId, RhiHost.reply2, hid, h1, h2, h3]

/-- Moving between the open protocol states of a session keeps the invariant; only a
non-blocking session may be moved away from ESTABLISHED. -/
theorem SessInv.setProto {g : RhiGlobals} (h : SessInv g) {st : Hss}
    (hopen : g.sess.protoState ≠ .sessionUnconnected)
    (hst : st = .connectionEstablished ∨
      st = .connectionCloseInProgress ∧ g.sess.connType = rhiConnModeNonBlocking) :
    SessInv { g with sess.protoState := st } := by
  have hne : st ≠ .sessionUnconnected := by rcases hst with rfl | ⟨rfl, -⟩ <;> decide
  have huse : ¬ g.sess.idInUse = false := fun hu => hopen (h.unconnected_iff.mpr hu)
  refine ⟨⟨fun he => absurd he hne, fun he => absurd he huse⟩, h.inUse_iff, h.id_iff,
    fun he => absurd he hne, fun _ => ?_, fun _ => h.conn hopen, fun _ => h.send hopen,
    fun _ => h.recv hopen, fun hb => ?_⟩
  · rcases hst with rfl | ⟨rfl, -⟩
    · exact Or.inr (Or.inl rfl)
    · exact Or.inr (Or.inr rfl)
  · rcases hst with rfl | ⟨-, hnb⟩
    · exact ⟨rfl, (h.blocking hb).2⟩
    · exact absurd (hb.symm.trans hnb) (by decide)

/-- Moving I/O states of an open session keeps the invariant. -/
theorem SessInv.setIo {g : RhiGlobals} (h : SessInv g) {snd rcv : RhiSessionIoState}
    (hopen : g.sess.protoState ≠ .sessionUnconnected)
    (hs : snd = g.sendState ∨ IoNext g.sess.connType snd.protoState)
    (hr : rcv = g.recvState ∨ IoNext g.sess.connType rcv.protoState) :
    SessInv ⟨g.sess, snd, rcv⟩ := by
  -- an I/O state a transfer leaves is one of the three, and in progress only if non-blocking
  have hio : ∀ {old new : RhiSessionIoState}, (new = old ∨ IoNext g.sess.connType new.protoState) →
      (old.protoState = .connectionEstablished ∨ old.protoState = .ioInProgress ∨
        old.protoState = .ioComplete) →
      (new.protoState = .connectionEstablished ∨ new.protoState = .ioInProgress ∨
        new.protoState = .ioComplete) := by
    intro old new hnew hold
    rcases hnew with rfl | hn | ⟨hn, -⟩
    · exact hold
    · exact Or.inr (Or.inr hn)
    · exact Or.inr (Or.inl hn)
  have hblk : ∀ {old new : RhiSessionIoState}, (new = old ∨ IoNext g.sess.connType new.protoState) →
      g.sess.connType = rhiConnModeBlocking → old.protoState ≠ .ioInProgress →
      new.protoState ≠ .ioInProgress := by
    intro old new hnew hb hold
    rcases hnew with rfl | hn | ⟨-, hnb⟩
    · exact hold
    · rw [hn]; decide
    · exact absurd (hb.symm.trans hnb) (by decide)
  exact ⟨h.unconnected_iff, h.inUse_iff, h.id_iff, fun he => absurd he hopen, h.proto, h.conn,
    fun _ => hio hs (h.send hopen), fun _ => hio hr (h.recv hopen),
    fun hb => ⟨(h.blocking hb).1, hblk hs hb (h.blocking hb).2.1, hblk hr hb (h.blocking hb).2.2⟩⟩

/-- **SEND and RECEIVE keep the invariant, and a refused one changes nothing.**  The mismatch
path assigns `proto_state := ESTABLISHED`; the handler has excluded the other open states, so
under the invariant that is the value the field already has. -/
theorem SessInv.transfer {s : RhiHost} {r : Status × RhiHost} (h : SessInv s.globals)
    (ht : Transfer s r) :
    SessInv r.2.globals ∧ (r.1 ≠ .success → r.2.globals = s.globals) ∧
      r.2.nextSessionId = s.nextSessionId := by
  cases ht with
  | refused _ hu => exact ⟨by rw [hu.1]; exact h, fun _ => hu.1, hu.2⟩
  | @mismatch s' hp1 hp2 hp3 hg hn =>
    have hest : s.globals.sess.protoState = .connectionEstablished := by
      rcases h.proto hp1 with he | he | he
      · exact absurd he hp2
      · exact he
      · exact absurd he hp3
    have hsame : s'.globals = s.globals := by
      rw [hg, ← hest]
    exact ⟨by rw [hsame]; exact h, fun _ => hsame, hn⟩
  | moved hopen hg hn hs hr =>
    exact ⟨by rw [hg]; exact h.setIo hopen hs hr, fun hne => absurd rfl hne, hn⟩

/-! ## 4. Runs -/

/-- Whether a call is an OPEN. -/
def RhiCall.isOpen (c : RhiCall) : Bool := c.exit 0 == rhiSessionOpen

/-- How many of the calls are OPEN calls. -/
def opens (cs : List RhiCall) : ℕ := cs.countP RhiCall.isOpen

theorem opens_snoc (cs : List RhiCall) (c : RhiCall) :
    opens (cs ++ [c]) = opens cs + if c.isOpen then 1 else 0 := by
  simp [opens, List.countP_append, List.countP_singleton]

@[simp] theorem ret_globals (r : UInt64 × RhiHost) : (RhiHost.ret r).globals = r.2.globals := rfl

@[simp] theorem ret_nextSessionId (r : UInt64 × RhiHost) :
    (RhiHost.ret r).nextSessionId = r.2.nextSessionId := rfl

@[simp] theorem ret_enter_zero (r : UInt64 × RhiHost) : (RhiHost.ret r).enter 0 = r.1 := by
  simp [RhiHost.ret]

theorem ret_enter_of_ne (r : UInt64 × RhiHost) {i : Fin 31} (hi : i ≠ 0) :
    (RhiHost.ret r).enter i = r.2.enter i := by
  simp [RhiHost.ret, hi]

/-- The id counter after a call: unchanged, or one further and then the call was an OPEN that
started a session. -/
def CounterStep (s s' : RhiHost) (c : RhiCall) : Prop :=
  s'.nextSessionId = s.nextSessionId ∨
    c.isOpen = true ∧ s'.nextSessionId = s.nextSessionId + 1

/-- **One session call.**  It keeps the invariant if the next id is not `0` (only an OPEN
needs that), and unless it reports success it leaves the three globals as they were. -/
theorem rhiStep_session (sharedBase : UInt64) {s : RhiHost} {c : RhiCall}
    (h : SessInv s.globals) (hc : c.IsSession) (hid : c.isOpen = true → s.nextSessionId ≠ 0) :
    SessInv (rhiStep sharedBase s c).globals ∧
      ((rhiStep sharedBase s c).enter 0 ≠ Status.success.code →
        (rhiStep sharedBase s c).globals = s.globals) ∧
      CounterStep s (rhiStep sharedBase s c) c := by
  rcases hc with hf | hf | hf | hf
  · have ho : c.isOpen = true := by simp [RhiCall.isOpen, hf]
    rw [rhiStep_open hf]
    rcases open_cases (c.exit 1) (c.exit 2) { s with mem := c.mem, heap := c.heap } with
      ⟨st, hst, hr⟩ | ⟨st, hmode, -, -, hr⟩ | ⟨hp, hr⟩
    · rw [hr]
      exact ⟨h, fun _ => rfl, Or.inl rfl⟩
    · rw [hr]
      exact ⟨sessInv_start hmode (hid ho), fun hne => absurd (ret_enter_zero _) hne,
        Or.inr ⟨ho, rfl⟩⟩
    · rw [hr]
      exact ⟨h.setProto (by rw [show s.globals.sess.protoState = _ from hp]; decide) (Or.inl rfl),
        fun hne => absurd (ret_enter_zero _) hne, Or.inl rfl⟩
  · rw [rhiStep_close hf]
    rcases close_cases (c.exit 1) { s with mem := c.mem, heap := c.heap } with
      ⟨st, hst, hr⟩ | ⟨hnb, hp, hr⟩ | hr
    · rw [hr]
      exact ⟨h, fun _ => rfl, Or.inl rfl⟩
    · rw [hr]
      exact ⟨h.setProto (by rw [show s.globals.sess.protoState = _ from hp]; decide)
          (Or.inr ⟨rfl, hnb⟩),
        fun hne => absurd (ret_enter_zero _) hne, Or.inl rfl⟩
    · rw [hr]
      exact ⟨sessInv_init, fun hne => absurd (ret_enter_zero _) hne, Or.inl rfl⟩
  · rw [rhiStep_send hf]
    obtain ⟨h1, h2, h3⟩ := h.transfer (s := { s with mem := c.mem, heap := c.heap })
      (send_transfer sharedBase (c.exit 1) (c.exit 2) (c.exit 3) (c.exit 4) _)
    refine ⟨h1, fun hne => h2 fun hs => hne ?_, Or.inl h3⟩
    rw [ret_enter_zero, hs]
  · rw [rhiStep_receive hf]
    obtain ⟨h1, h2, h3⟩ := h.transfer (s := { s with mem := c.mem, heap := c.heap })
      (receive_transfer sharedBase (c.exit 1) (c.exit 2) (c.exit 3) (c.exit 4) _)
    refine ⟨h1, fun hne => h2 fun hs => hne ?_, Or.inl h3⟩
    rw [ret_enter_zero, hs]

/-- The counter has handed out `n` ids, at most one for each OPEN call. -/
def CounterAt (s : RhiHost) (cs : List RhiCall) (n : ℕ) : Prop :=
  n ≤ opens cs ∧ s.nextSessionId = UInt64.ofNat (n + 1)

/-- Below the bound on OPEN calls the next id is not `0`. -/
theorem CounterAt.next_ne_zero {s : RhiHost} {cs : List RhiCall} {n : ℕ} (h : CounterAt s cs n)
    (hb : opens cs + 1 < 2 ^ 64) : s.nextSessionId ≠ 0 := by
  intro h0
  have ht := congrArg UInt64.toNat (h.2.symm.trans h0)
  have hn := h.1
  rw [UInt64.toNat_ofNat_of_lt' (by show n + 1 < 2 ^ 64; omega)] at ht
  exact absurd ht (by simp)

theorem CounterAt.step {s s' : RhiHost} {cs : List RhiCall} {c : RhiCall} {n : ℕ}
    (h : CounterAt s cs n) (hs : CounterStep s s' c) :
    (s'.nextSessionId = s.nextSessionId ∧ CounterAt s' (cs ++ [c]) n) ∨
      (c.isOpen = true ∧ CounterAt s' (cs ++ [c]) (n + 1)) := by
  have hle := h.1
  rcases hs with hs | ⟨ho, hs⟩
  · exact Or.inl ⟨hs, by rw [opens_snoc]; omega, by rw [hs, h.2]⟩
  · refine Or.inr ⟨ho, by rw [opens_snoc, if_pos ho]; omega, ?_⟩
    rw [hs, h.2, ← UInt64.ofNat_one, ← UInt64.ofNat_add]

/-- **Every run of session calls** keeps the invariant and the counter in step. -/
theorem rhiRun_inv (sharedBase : UInt64) (cs : List RhiCall) (hcs : ∀ c ∈ cs, c.IsSession)
    (hb : opens cs < 2 ^ 64) :
    SessInv (rhiRun sharedBase .init cs).globals ∧
      ∃ n, CounterAt (rhiRun sharedBase .init cs) cs n := by
  induction cs using List.reverseRecOn with
  | nil => exact ⟨sessInv_init, 0, le_refl _, rfl⟩
  | append_singleton cs c ih =>
    rw [opens_snoc] at hb
    obtain ⟨hinv, n, hn⟩ := ih (fun d hd => hcs d (List.mem_append_left _ hd)) (by omega)
    rw [rhiRun_snoc]
    obtain ⟨h1, -, h3⟩ := rhiStep_session sharedBase hinv
      (hcs c (by simp)) fun ho => hn.next_ne_zero (by rw [if_pos ho] at hb; exact hb)
    refine ⟨h1, ?_⟩
    rcases hn.step h3 with ⟨-, h⟩ | ⟨-, h⟩
    · exact ⟨n, h⟩
    · exact ⟨n + 1, h⟩

/-- **The session state invariant and error atomicity.**  After any sequence of session calls
with arbitrary arguments, fewer than `2 ^ 64` of them OPEN calls, the invariant holds; and
whatever session call comes next, if its status is not `RHI_SESS_SUCCESS` the three globals are
exactly what they were before it. -/
theorem session_invariant_and_error_atomicity (sharedBase : UInt64) (cs : List RhiCall)
    (hcs : ∀ c ∈ cs, c.IsSession) (hb : opens cs < 2 ^ 64) :
    SessInv (rhiRun sharedBase .init cs).globals ∧
      ∀ c : RhiCall, c.IsSession → opens (cs ++ [c]) < 2 ^ 64 →
        (rhiRun sharedBase .init (cs ++ [c])).enter 0 ≠ Status.success.code →
        (rhiRun sharedBase .init (cs ++ [c])).globals = (rhiRun sharedBase .init cs).globals := by
  obtain ⟨hinv, n, hn⟩ := rhiRun_inv sharedBase cs hcs hb
  refine ⟨hinv, fun c hc hbc hne => ?_⟩
  rw [rhiRun_snoc] at hne ⊢
  refine (rhiStep_session sharedBase hinv hc fun ho => hn.next_ne_zero ?_).2.1 hne
  rw [opens_snoc, if_pos ho] at hbc
  exact hbc

/-- A blocking OPEN with id 0, as the Realm sends it. -/
def openBlocking : RhiCall where
  exit := fun i => if i = 0 then rhiSessionOpen else if i = 2 then rhiConnModeBlocking else 0
  mem := fun _ => 0
  heap := valHostMemAllocInit

/-- A CLOSE of session `id`. -/
def closeSession (id : UInt64) : RhiCall where
  exit := fun i => if i = 0 then rhiSessionClose else if i = 1 then id else 0
  mem := fun _ => 0
  heap := valHostMemAllocInit

/-- A blocking session, then a CLOSE that names another id: the invariant holds, the CLOSE is
refused, and nothing changes. -/
theorem session_invariant_and_error_atomicity_wrong_id :
    SessInv (rhiRun 0 .init [openBlocking]).globals ∧
      (rhiRun 0 .init ([openBlocking] ++ [closeSession 7])).globals =
        (rhiRun 0 .init [openBlocking]).globals := by
  have h := session_invariant_and_error_atomicity 0 [openBlocking]
    (fun c hc => by rw [List.mem_singleton.mp hc]; exact Or.inl rfl) (by decide)
  exact ⟨h.1, h.2 (closeSession 7) (Or.inr (Or.inl rfl)) (by decide) (by decide)⟩

/-! ## 5. The counter wraps

Why the bound on OPEN calls is there: `n` sessions that are opened and closed again leave the
counter at `n + 1`, so after `2 ^ 64 - 1` of them the next session gets id 0. -/

/-- With no session open, a blocking OPEN takes the counter's value. -/
theorem rhiStep_openBlocking (sharedBase : UInt64) {s : RhiHost} (hg : s.globals = .init) :
    (rhiStep sharedBase s openBlocking).globals =
        ⟨⟨s.nextSessionId, .connectionEstablished, true, rhiConnModeBlocking⟩,
          ⟨.connectionEstablished, 0⟩, ⟨.connectionEstablished, 0⟩⟩ ∧
      (rhiStep sharedBase s openBlocking).nextSessionId = s.nextSessionId + 1 := by
  have hex : openBlocking.exit 1 = 0 ∧ openBlocking.exit 2 = rhiConnModeBlocking := ⟨rfl, rfl⟩
  have hm1 : rhiConnModeBlocking &&& rhiConnModeSupportedMask ≠ 0 := by decide
  have hm2 : rhiConnModeBlocking &&& rhiConnModeSupportedMask ≠ rhiConnModeSupportedMask := by
    decide
  have hrun : valHostRhiSessionOpen 0 rhiConnModeBlocking
      { s with mem := openBlocking.mem, heap := openBlocking.heap } =
      (.success, RhiHost.startSession
        { s with mem := openBlocking.mem, heap := openBlocking.heap } rhiConnModeBlocking
        .connectionEstablished) := by
    simp [valHostRhiSessionOpen, hm1, hm2, hg, RhiGlobals.init]
  rw [rhiStep_open rfl, hex.1, hex.2, hrun]
  exact ⟨rfl, rfl⟩

/-- A CLOSE of the open blocking session ends it. -/
theorem rhiStep_closeSession (sharedBase : UInt64) {id : UInt64} {s : RhiHost} (hid : id ≠ 0)
    (hs : s.globals.sess = ⟨id, .connectionEstablished, true, rhiConnModeBlocking⟩) :
    (rhiStep sharedBase s (closeSession id)).globals = .init ∧
      (rhiStep sharedBase s (closeSession id)).nextSessionId = s.nextSessionId := by
  have hex : (closeSession id).exit 1 = id := rfl
  have hrun : valHostRhiSessionClose id
      { s with mem := (closeSession id).mem, heap := (closeSession id).heap } =
      (.success, RhiHost.endSession
        { s with mem := (closeSession id).mem, heap := (closeSession id).heap }) := by
    simp [valHostRhiSessionClose, hs, hid]
  rw [rhiStep_close rfl, hex, hrun]
  exact ⟨rfl, rfl⟩

/-- `n` sessions, each opened and closed. -/
def openCloseRounds (n : ℕ) : List RhiCall :=
  (List.range n).flatMap fun i => [openBlocking, closeSession (UInt64.ofNat (i + 1))]

theorem openCloseRounds_succ (n : ℕ) : openCloseRounds (n + 1)
    = openCloseRounds n ++ [openBlocking] ++ [closeSession (UInt64.ofNat (n + 1))] := by
  simp [openCloseRounds, List.range_succ]

theorem rhiRun_openCloseRounds (sharedBase : UInt64) : ∀ n : ℕ, n < 2 ^ 64 →
    (rhiRun sharedBase .init (openCloseRounds n)).globals = .init ∧
      (rhiRun sharedBase .init (openCloseRounds n)).nextSessionId = UInt64.ofNat (n + 1)
  | 0, _ => ⟨rfl, rfl⟩
  | n + 1, hn => by
    obtain ⟨hg, hc⟩ := rhiRun_openCloseRounds sharedBase n (by omega)
    obtain ⟨hg1, hc1⟩ := rhiStep_openBlocking sharedBase hg
    have hid : UInt64.ofNat (n + 1) ≠ 0 := by
      intro h0
      have ht := congrArg UInt64.toNat h0
      rw [UInt64.toNat_ofNat_of_lt' hn] at ht
      exact absurd ht (by simp)
    obtain ⟨hg2, hc2⟩ := rhiStep_closeSession sharedBase
      (s := rhiStep sharedBase (rhiRun sharedBase .init (openCloseRounds n)) openBlocking)
      hid (by rw [hg1, hc])
    rw [openCloseRounds_succ, rhiRun_snoc, rhiRun_snoc]
    refine ⟨hg2, ?_⟩
    rw [hc2, hc1, hc, ← UInt64.ofNat_one, ← UInt64.ofNat_add]

theorem openCloseRounds_isSession (n : ℕ) : ∀ c ∈ openCloseRounds n, c.IsSession := by
  intro c hc
  obtain ⟨i, -, hi⟩ := List.mem_flatMap.mp hc
  rcases List.mem_pair.mp hi with rfl | rfl
  · exact Or.inl rfl
  · exact Or.inr (Or.inl rfl)

/-- **Without the bound the invariant fails.**  After `2 ^ 64 - 1` sessions the next blocking
OPEN succeeds with id 0: a session is in use, and its id is the mark of "no session". -/
theorem session_counter_wraps :
    ¬ ∀ (sharedBase : UInt64) (cs : List RhiCall), (∀ c ∈ cs, c.IsSession) →
      SessInv (rhiRun sharedBase .init cs).globals := by
  intro hall
  obtain ⟨hg, hc⟩ := rhiRun_openCloseRounds 0 (2 ^ 64 - 1) (by omega)
  have hinv := hall 0 (openCloseRounds (2 ^ 64 - 1) ++ [openBlocking]) fun c hcm => by
    rcases List.mem_append.mp hcm with h | h
    · exact openCloseRounds_isSession _ c h
    · rw [List.mem_singleton.mp h]; exact Or.inl rfl
  rw [rhiRun_snoc] at hinv
  have huse := hinv.inUse_iff
  rw [(rhiStep_openBlocking 0 hg).1, hc] at huse
  exact absurd (huse.mpr rfl) (by simp)

end RmmAcs.Rhi
