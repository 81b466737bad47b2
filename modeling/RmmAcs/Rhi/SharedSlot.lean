/-
# The shared slot

Four calls move bytes between the host and the Realm: SESSION_SEND reads them from the shared
region, SESSION_RECEIVE, FAL_READ and DA OBJECT_READ write them there.  The address the Realm
supplies is only tested for being a page; what is used instead is the slot that begins at
`TEST_USE_OFFSET1`, and slots are 64 KB apart.

The OFFSET and the LENGTH, though, are the Realm's.  SEND compares neither with anything.  RECEIVE
and OBJECT_READ compare their sum with a third register, a buffer size the Realm is free to choose
as well.  FAL_READ takes no offset and never has more than 4 KB.  So the first three leave the slot
whenever they are told to, and this file says exactly when.

To stay in the slot is a property of the memory the handlers get and leave: what SEND answers and
leaves may depend on no byte outside, and the others may change none, whatever memory holds.
Section 1 says this and what a copy through the slot is, section 2 which copy each call asks for and
when the handler gets to it, section 3 that these are all the bytes the handlers touch.
-/
import RmmAcs.Rhi.Da
import RmmAcs.Rhi.SessionInv

namespace RmmAcs.Rhi

open RmmAcs

/-! ## 1. Copies through the slot -/

/-- The slots of the shared region are 64 KB apart. -/
def slotSize : ℕ := 0x10000

/-- The byte lies in the slot at `val_get_shared_region_base() + TEST_USE_OFFSET1`. -/
def InSlot (sharedBase a : UInt64) : Prop := (a - (sharedBase + testUseOffset1)).toNat < slotSize

/-- Bytes of the shared buffer, from an offset on. -/
structure SharedCopy where
  offset : UInt64
  length : UInt64
deriving DecidableEq, Repr

def SharedCopy.bytes (sharedBase : UInt64) (r : SharedCopy) : List UInt64 :=
  bytesFrom (sharedBase + testUseOffset1 + r.offset) r.length.toNat

def SharedCopy.Contained (sharedBase : UInt64) (r : SharedCopy) : Prop :=
  ∀ a ∈ r.bytes sharedBase, InSlot sharedBase a

/-- The end of the copy, as an integer. -/
def SharedCopy.stop (r : SharedCopy) : ℕ := r.offset.toNat + r.length.toNat

/-- A byte of a copy, counted from the beginning of the slot. -/
theorem toNat_byte_sub (sharedBase offset : UInt64) {i : ℕ} (hi : i < 2 ^ 64) :
    (sharedBase + testUseOffset1 + offset + UInt64.ofNat i - (sharedBase + testUseOffset1)).toNat
      = (offset.toNat + i) % 2 ^ 64 := by
  have hsub : sharedBase + testUseOffset1 + offset + UInt64.ofNat i - (sharedBase + testUseOffset1)
      = offset + UInt64.ofNat i := by
    rw [UInt64.add_assoc _ offset, UInt64.add_comm (sharedBase + testUseOffset1),
      UInt64.add_sub_cancel]
  rw [hsub, UInt64.toNat_add, UInt64.toNat_ofNat', Nat.mod_eq_of_lt hi]

/-- **A copy stays in the slot if its end does.**  Nothing wraps around into it: the bytes are
consecutive, and the first one would be outside. -/
theorem SharedCopy.contained_iff (sharedBase : UInt64) {r : SharedCopy} (h : r.length ≠ 0) :
    r.Contained sharedBase ↔ r.stop ≤ slotSize := by
  have hpos : 0 < r.length.toNat := by
    refine Nat.pos_of_ne_zero fun h0 => h ?_
    exact UInt64.toNat_inj.mp h0
  have hlen := r.length.toNat_lt
  have hoff := r.offset.toNat_lt
  unfold SharedCopy.stop slotSize
  constructor
  · intro hin
    have hat (i : ℕ) (hi : i < r.length.toNat) : (r.offset.toNat + i) % 2 ^ 64 < 0x10000 := by
      rw [← toNat_byte_sub sharedBase r.offset (by omega)]
      exact hin _ (mem_bytesFrom.mpr ⟨i, hi, rfl⟩)
    have hfirst := hat 0 hpos
    rw [Nat.add_zero, Nat.mod_eq_of_lt hoff] at hfirst
    by_contra hgt
    have hlast := hat (0x10000 - r.offset.toNat) (by omega)
    rw [Nat.mod_eq_of_lt (by omega)] at hlast
    omega
  · intro hle a ha
    obtain ⟨i, hi, rfl⟩ := mem_bytesFrom.mp ha
    unfold InSlot slotSize
    rw [toNat_byte_sub sharedBase r.offset (by omega), Nat.mod_eq_of_lt (by omega)]
    omega

/-- Two results that differ in the memory only. -/
def SameButMem (r r' : Status × RhiHost) : Prop :=
  r'.1 = r.1 ∧ r'.2 = { r.2 with mem := r'.2.mem }

/-- Two results, the memories given having been `m` and `m'`: they differ in the memory only, and
there at no byte at which `m` and `m'` agree. -/
def SameFrom (m m' : Mem) (r r' : Status × RhiHost) : Prop :=
  SameButMem r r' ∧ ∀ b, m b = m' b → r.2.mem b = r'.2.mem b

/-- **A call reads nothing outside the slot**, as a function of the memory it is given: on two
memories that agree in the slot it answers the same and does the same to the host, and where they
agree outside as well it leaves the same bytes.  And it answers the copy it is asked for, if that
leaves the slot, with an error. -/
structure ReadsInSlot (sharedBase : UInt64) (request : Option SharedCopy)
    (call : Mem → Status × RhiHost) : Prop where
  reads : ∀ m m', Set.EqOn m m' { a | InSlot sharedBase a } → SameFrom m m' (call m) (call m')
  refused : ∀ r ∈ request, ¬ r.Contained sharedBase → ∀ m, (call m).1 ≠ .success

/-- **A call writes nothing outside the slot**: `call` says whether it succeeds, and what memory it
leaves. -/
structure WritesInSlot (sharedBase : UInt64) (request : Option SharedCopy)
    (call : Mem → Prop × Mem) : Prop where
  writes : ∀ m a, ¬ InSlot sharedBase a → (call m).2 a = m a
  refused : ∀ r ∈ request, ¬ r.Contained sharedBase → ∀ m, ¬ (call m).1

/-! ## 2. The four calls -/

section Calls

variable (sessId bufferIpa bufferSize length offset : UInt64) (s : RhiHost) (c : DaCall)

/-- The checks SEND and RECEIVE begin with. -/
def RhiSession.Accepts (g : RhiSession) : Prop :=
  g.idInUse = true ∧ sessId ≠ 0 ∧ sessId = g.sessionId ∧ g.protoState ≠ .sessionUnconnected ∧
    g.protoState ≠ .connectionInProgress ∧ g.protoState ≠ .connectionCloseInProgress

/-- The check of the address, which is then not used. -/
def IsPage : Prop := bufferIpa ≠ 0 ∧ addrIsAligned bufferIpa pageSize = true

/-- One of the two modes. -/
def RhiSession.HasMode (g : RhiSession) : Prop :=
  g.connType = rhiConnModeBlocking ∨ g.connType = rhiConnModeNonBlocking

/-- No transfer is pending. -/
def RhiSessionIoState.Idle (st : RhiSessionIoState) : Prop :=
  st.protoState = .connectionEstablished ∨ st.protoState = .ioComplete

/-- A call of a non-blocking session while a transfer is pending: it completes that one, and its own
arguments are not looked at. -/
def CompletesPending (g : RhiSession) (st : RhiSessionIoState) : Prop :=
  g.connType = rhiConnModeNonBlocking ∧ st.protoState = .ioInProgress

/-- The heap serves both buffers of SEND. -/
def HasBuffers (heap : HeapState) : Prop :=
  (valHostMemAlloc pageSize length heap).1 ≠ 0 ∧
    (valHostMemAlloc pageSize length (valHostMemAlloc pageSize length heap).2).1 ≠ 0

instance (g : RhiSession) (st : RhiSessionIoState) : Decidable (CompletesPending g st) :=
  inferInstanceAs (Decidable (_ ∧ _))

/-- SEND asks for `length` bytes at `offset`. -/
def sendRequest : Option SharedCopy :=
  if CompletesPending s.globals.sess s.globals.sendState then none else some ⟨offset, length⟩

/-- SEND gets to its `memcpy`.  Nothing here is about `offset`. -/
structure SendCopies : Prop where
  accepts : s.globals.sess.Accepts sessId
  page : IsPage bufferIpa
  mode : s.globals.sess.HasMode
  idle : s.globals.sendState.Idle
  buffers : HasBuffers length s.heap

/-- RECEIVE asks for the payload, 64 bytes, at `offset`; without a buffer it asks for nothing. -/
def receiveRequest : Option SharedCopy :=
  if bufferSize = 0 ∨ CompletesPending s.globals.sess s.globals.recvState then none
  else some ⟨offset, payloadLen⟩

/-- RECEIVE gets to its loop. -/
structure ReceiveCopies : Prop where
  accepts : s.globals.sess.Accepts sessId
  page : IsPage bufferIpa
  size : bufferSize ≠ 0
  offset_lt : offset < bufferSize
  length_le : payloadLen ≤ bufferSize - offset
  mode : s.globals.sess.HasMode
  idle : s.globals.recvState.Idle

/-- FAL_READ asks for what is left of the log, or for what the buffer holds of it. -/
def falRequest : Option SharedCopy :=
  if s.falOffset ≥ rhiFalLogSize ∨ bufferSize = 0 then none
  else some ⟨0, if bufferSize < rhiFalLogSize - s.falOffset then bufferSize
    else rhiFalLogSize - s.falOffset⟩

/-- OBJECT_READ asks for the whole object at `offset`. -/
def objectRequest : Option SharedCopy :=
  match daObject c (c.exit 2) with
  | .error _ => none
  | .ok (_, size) => if size = 0 then none else some ⟨c.exit 5, size⟩

/-- OBJECT_READ gets to its `memcpy`, if there is an object. -/
structure ObjectCopies : Prop where
  vdevId : (c.vdevObj 0).vdevId = c.exit 1
  buffer : c.exit 3 ≠ 0
  offset_lt : c.exit 5 < c.exit 4
  length_le : ∀ r ∈ objectRequest c, r.length ≤ c.exit 4 - c.exit 5

end Calls

/-- FAL_READ has no offset, and at most the whole log to copy. -/
theorem falRequest_some {bufferSize : UInt64} {s : RhiHost} {r : SharedCopy}
    (h : falRequest bufferSize s = some r) :
    r.offset = 0 ∧ r.length ≠ 0 ∧ r.length.toNat ≤ rhiFalLogSize.toNat := by
  unfold falRequest at h
  split at h
  · nomatch h
  rename_i hsome
  obtain ⟨hlt, hsize⟩ := not_or.mp hsome
  have hlt' := UInt64.lt_iff_toNat_lt.mp (UInt64.not_le.mp hlt)
  have hleft : (rhiFalLogSize - s.falOffset).toNat = rhiFalLogSize.toNat - s.falOffset.toNat :=
    UInt64.toNat_sub_of_le _ _ (UInt64.le_of_lt (UInt64.not_le.mp hlt))
  obtain rfl := Option.some.inj h
  refine ⟨rfl, ?_, ?_⟩
  · dsimp only
    split
    · exact hsize
    · intro hzero
      rw [hzero] at hleft
      have h0 : (0 : UInt64).toNat = 0 := rfl
      omega
  · dsimp only
    split
    · rename_i hb
      have hb' := UInt64.lt_iff_toNat_lt.mp hb
      omega
    · omega

theorem objectRequest_length_ne {c : DaCall} {r : SharedCopy} (h : objectRequest c = some r) :
    r.length ≠ 0 := by
  unfold objectRequest at h
  split at h
  · nomatch h
  · split at h
    · nomatch h
    · rename_i hsize
      obtain rfl := Option.some.inj h
      exact hsize

/-! ## 3. What the handlers touch -/

section Handlers

variable {sharedBase sessId bufferIpa bufferSize length offset : UInt64} {s : RhiHost}

/-! The predicates are the checks of the source, negated. -/

theorem RhiSession.accepts_iff {g : RhiSession} : g.Accepts sessId ↔
    ¬ (g.idInUse = false ∨ sessId = 0 ∨ sessId ≠ g.sessionId) ∧
      ¬ (g.protoState = .sessionUnconnected ∨ g.protoState = .connectionInProgress ∨
        g.protoState = .connectionCloseInProgress) := by
  simp only [RhiSession.Accepts, not_or, not_not, Bool.not_eq_false, and_assoc, ne_eq]

theorem isPage_iff :
    IsPage bufferIpa ↔ ¬ (bufferIpa = 0 ∨ addrIsAligned bufferIpa pageSize = false) := by
  simp only [IsPage, not_or, Bool.not_eq_false, ne_eq]

theorem RhiSessionIoState.idle_iff {st : RhiSessionIoState} : st.Idle ↔
    ¬ (st.protoState ≠ .connectionEstablished ∧ st.protoState ≠ .ioComplete) := by
  simp only [RhiSessionIoState.Idle, not_and_or, not_not, ne_eq]

theorem RhiSessionIoState.Idle.not_pending {st : RhiSessionIoState} (h : st.Idle) :
    st.protoState ≠ .ioInProgress := by
  intro hpending
  rcases h with h | h
  · exact absurd (hpending.symm.trans h) (by decide)
  · exact absurd (hpending.symm.trans h) (by decide)

/-- Without the two buffers there is no payload to look at. -/
theorem sendPayload_of_no_buffers {src : UInt64} (h : ¬ HasBuffers length s.heap) :
    (sendPayload src length s).1 = .noMemory := by
  have hnull : (valHostMemAlloc pageSize length s.heap).1 = 0 ∨
      (valHostMemAlloc pageSize length (valHostMemAlloc pageSize length s.heap).2).1 = 0 := by
    simpa only [HasBuffers, not_and_or, not_not] using h
  unfold sendPayload
  dsimp only
  rw [if_pos hnull]

/-- SEND succeeds by completing a transfer, or by making one. -/
theorem send_success {m : Mem}
    (h : (valHostRhiSessionSend sharedBase sessId bufferIpa length offset { s with mem := m }).1
      = .success) :
    CompletesPending s.globals.sess s.globals.sendState ∨ SendCopies sessId bufferIpa length s := by
  have hpay : ¬ HasBuffers length s.heap →
      (sendPayload (sharedBase + testUseOffset1 + offset) length { s with mem := m }).1
        = .noMemory := fun hbuf => sendPayload_of_no_buffers hbuf
  unfold valHostRhiSessionSend at h
  dsimp only at h
  generalize sendPayload (sharedBase + testUseOffset1 + offset) length { s with mem := m } = p
    at h hpay
  split at h
  · nomatch h
  rename_i hid
  split at h
  · nomatch h
  rename_i hproto
  split at h
  · nomatch h
  rename_i hpage
  have hcopies (hmode : s.globals.sess.HasMode) (hidle : s.globals.sendState.Idle)
      (hp : p.1 ≠ .noMemory) : SendCopies sessId bufferIpa length s := by
    refine ⟨RhiSession.accepts_iff.mpr ⟨hid, hproto⟩, isPage_iff.mpr hpage, hmode, hidle, ?_⟩
    by_contra hbuf
    exact hp (hpay hbuf)
  split at h
  · rename_i hmode
    split at h
    · nomatch h
    rename_i hidle
    refine Or.inr (hcopies (Or.inl hmode) (RhiSessionIoState.idle_iff.mpr hidle) fun hp => ?_)
    obtain ⟨p, s'⟩ := p
    obtain rfl : p = .noMemory := hp
    nomatch h
  split at h
  · rename_i hmode
    split at h
    · rename_i hpending
      exact Or.inl ⟨hmode, hpending⟩
    split at h
    · nomatch h
    rename_i hidle
    refine Or.inr (hcopies (Or.inr hmode) (RhiSessionIoState.idle_iff.mpr hidle) fun hp => ?_)
    obtain ⟨p, s'⟩ := p
    obtain rfl : p = .noMemory := hp
    nomatch h
  · nomatch h

theorem SameFrom.ite {m m' : Mem} {p : Prop} [Decidable p] {x x' y y' : Status × RhiHost}
    (hx : p → SameFrom m m' x x') (hy : ¬ p → SameFrom m m' y y') :
    SameFrom m m' (if p then x else y) (if p then x' else y') := by
  by_cases h : p
  · rw [if_pos h, if_pos h]
    exact hx h
  · rw [if_neg h, if_neg h]
    exact hy h

/-- A result that leaves the memory alone. -/
theorem sameFrom_kept {m m' : Mem} (status : Status) (s : RhiHost) :
    SameFrom m m' (status, { s with mem := m }) (status, { s with mem := m' }) :=
  ⟨⟨rfl, rfl⟩, fun _ hb => hb⟩

/-- The payload check reads the payload. -/
theorem sendPayload_reads {src : UInt64} {m m' : Mem}
    (h : HasBuffers length s.heap → Set.EqOn m m' { a | a ∈ bytesFrom src length.toNat }) :
    ∃ (p : Payload) (s' : RhiHost) (mem mem' : Mem),
      sendPayload src length { s with mem := m } = (p, { s' with mem := mem }) ∧
      sendPayload src length { s with mem := m' } = (p, { s' with mem := mem' }) ∧
      ∀ b, m b = m' b → mem b = mem' b := by
  let heap := (valHostMemAlloc pageSize length (valHostMemAlloc pageSize length s.heap).2).2
  unfold sendPayload
  dsimp only
  by_cases hnull : (valHostMemAlloc pageSize length s.heap).1 = 0 ∨
      (valHostMemAlloc pageSize length (valHostMemAlloc pageSize length s.heap).2).1 = 0
  · rw [if_pos hnull, if_pos hnull]
    exact ⟨.noMemory, { s with heap := heap }, m, m', rfl, rfl, fun _ hb => hb⟩
  · rw [if_neg hnull, if_neg hnull]
    -- what the memories agree on: the payload, so the copy; and the pattern, which is a constant
    have hagree : Set.EqOn m m' { b | m b = m' b } := fun _ hb => hb
    have hcopied := @memcpy_agree _ m m' length.toNat (valHostMemAlloc pageSize length s.heap).1 src
      (fun a ha => h (not_or.mp hnull) ha) hagree
    have hafter := @fillPattern_agree _ _ _ length.toNat
      (valHostMemAlloc pageSize length (valHostMemAlloc pageSize length s.heap).2).1 hcopied
    rw [memcmp_agree (fun a ha => Or.inl (Or.inr ha)) (fun a ha => Or.inr ha) hafter]
    exact ⟨_, { s with heap := heap }, _, _, rfl, rfl, fun b hb => hafter (Or.inl (Or.inl hb))⟩

/-- **SEND reads its copy and nothing else**: what it answers, and what it does to the session and to
memory, is the same on any two memories that agree on the bytes of the copy. -/
theorem send_reads {m m' : Mem} (h : SendCopies sessId bufferIpa length s →
      Set.EqOn m m' { a | a ∈ (⟨offset, length⟩ : SharedCopy).bytes sharedBase }) :
    SameFrom m m'
      (valHostRhiSessionSend sharedBase sessId bufferIpa length offset { s with mem := m })
      (valHostRhiSessionSend sharedBase sessId bufferIpa length offset { s with mem := m' }) := by
  unfold valHostRhiSessionSend
  dsimp only
  refine .ite (fun _ => sameFrom_kept _ s) fun hid => .ite (fun _ => sameFrom_kept _ s) fun hproto =>
    .ite (fun _ => sameFrom_kept _ s) fun hpage => ?_
  have hcopies (hmode : s.globals.sess.HasMode) (hidle : s.globals.sendState.Idle)
      (hbuf : HasBuffers length s.heap) : SendCopies sessId bufferIpa length s :=
    ⟨RhiSession.accepts_iff.mpr ⟨hid, hproto⟩, isPage_iff.mpr hpage, hmode, hidle, hbuf⟩
  refine .ite (fun hmode => .ite (fun _ => sameFrom_kept _ s) fun hidle => ?_) fun _ =>
    .ite (fun hmode => .ite (fun _ => ⟨⟨rfl, rfl⟩, fun _ hb => hb⟩) fun _ =>
      .ite (fun _ => sameFrom_kept _ s) fun hidle => ?_) fun _ => sameFrom_kept _ s
  · obtain ⟨p, s', mem, mem', hm, hm', hmem⟩ := sendPayload_reads fun hbuf =>
      h (hcopies (Or.inl hmode) (RhiSessionIoState.idle_iff.mpr hidle) hbuf)
    rw [hm, hm']
    cases p <;> exact ⟨⟨rfl, rfl⟩, hmem⟩
  · obtain ⟨p, s', mem, mem', hm, hm', hmem⟩ := sendPayload_reads fun hbuf =>
      h (hcopies (Or.inr hmode) (RhiSessionIoState.idle_iff.mpr hidle) hbuf)
    rw [hm, hm']
    cases p <;> exact ⟨⟨rfl, rfl⟩, hmem⟩

/-- SEND does not run into its own buffers: they are apart, and no byte of the copy is overwritten,
as a byte of the first one, before it is read. -/
structure BuffersApart (src length : UInt64) (heap : HeapState) : Prop where
  apart : ∀ i < length.toNat, ∀ j < length.toNat,
    (valHostMemAlloc pageSize length heap).1 + UInt64.ofNat i ≠
      (valHostMemAlloc pageSize length (valHostMemAlloc pageSize length heap).2).1 + UInt64.ofNat j
  ahead : ∀ i < length.toNat, ∀ j < i,
    src + UInt64.ofNat i ≠ (valHostMemAlloc pageSize length heap).1 + UInt64.ofNat j

/-- A memory with the pattern at `src`. -/
def patternAt (src : UInt64) : Mem := fun a => patternByte (a - src).toNat

/-- The payload check accepts the pattern. -/
theorem sendPayload_patternAt {src : UInt64} (hbuf : HasBuffers length s.heap)
    (hapart : BuffersApart src length s.heap) :
    (sendPayload src length { s with mem := patternAt src }).1 = .good := by
  have hlen := length.toNat_lt
  unfold sendPayload
  dsimp only
  rw [if_neg (not_or.mpr hbuf)]
  refine if_neg (not_not.mpr (memcmp_eq_zero fun i hi => ?_))
  have hcopied : Copied (valHostMemAlloc pageSize length s.heap).1 src (Set.Iio length.toNat)
      (patternAt src)
      (memcpy (valHostMemAlloc pageSize length s.heap).1 src length.toNat (patternAt src)) :=
    memcpy_copied_of_ahead hapart.ahead _
  have hpattern : patternAt src (src + UInt64.ofNat i) = patternByte i := by
    have hsub : src + UInt64.ofNat i - src = UInt64.ofNat i := by
      rw [UInt64.add_comm, UInt64.add_sub_cancel]
    rw [patternAt, hsub, UInt64.toNat_ofNat', Nat.mod_eq_of_lt (by omega)]
  rw [fillPattern_of_notMem fun hmem => ?_, hcopied.copied i hi, hpattern]
  · exact (foldl_write_at (by omega) hi).symm
  · obtain ⟨j, hj, heq⟩ := mem_bytesFrom.mp hmem
    exact hapart.apart i hi j hj heq.symm

/-- A payload that is accepted is a success. -/
theorem send_of_good {m : Mem} (h : SendCopies sessId bufferIpa length s)
    (hgood : (sendPayload (sharedBase + testUseOffset1 + offset) length { s with mem := m }).1
      = .good) :
    (valHostRhiSessionSend sharedBase sessId bufferIpa length offset { s with mem := m }).1
      = .success := by
  obtain ⟨hid, hproto⟩ := RhiSession.accepts_iff.mp h.accepts
  have hidle := RhiSessionIoState.idle_iff.mp h.idle
  unfold valHostRhiSessionSend
  dsimp only
  rw [if_neg hid, if_neg hproto, if_neg (isPage_iff.mp h.page)]
  obtain ⟨s', hpay⟩ : ∃ s', sendPayload (sharedBase + testUseOffset1 + offset) length
      { s with mem := m } = (.good, s') := ⟨_, Prod.ext hgood rfl⟩
  rw [hpay]
  by_cases hblocking : s.globals.sess.connType = rhiConnModeBlocking
  · rw [if_pos hblocking, if_neg hidle]
  · rw [if_neg hblocking, if_pos (h.mode.resolve_left hblocking), if_neg h.idle.not_pending,
      if_neg hidle]

/-- What a handler that writes through the slot does, seen from its success and the memory it leaves:
it makes the copy it is asked for, and succeeds, or it touches nothing and, unless it was asked for
nothing, reports an error. -/
inductive WriteEnds (request : Option SharedCopy) (copies : Prop) (mem : Mem)
    (copied : SharedCopy → Mem) : Prop × Mem → Prop
  | copies {r : SharedCopy} {ok : Prop} {mem' : Mem} : request = some r → copies → ok →
      mem' = copied r → WriteEnds request copies mem copied (ok, mem')
  | leaves {ok : Prop} {mem' : Mem} : (∀ r ∈ request, ¬ copies) → (ok → request = none) →
      mem' = mem → WriteEnds request copies mem copied (ok, mem')

section Ends

variable {request : Option SharedCopy} {r : SharedCopy} {copies : Prop} {mem : Mem}
  {copied : SharedCopy → Mem} {o : Prop × Mem}

/-- Of a copy, a success is a copy that was made. -/
theorem WriteEnds.ok_iff (h : WriteEnds request copies mem copied o) (hr : r ∈ request) :
    o.1 ↔ copies := by
  cases h with
  | copies _ hc hok _ => exact iff_of_true hok hc
  | leaves hnot hnone _ =>
    exact iff_of_false (fun hok => nomatch (hnone hok) ▸ hr) (hnot r hr)

/-- **A handler that ends so writes in the slot if and only if every copy it makes ends there.** -/
theorem writesInSlot_iff {call : Mem → Prop × Mem} {copied : Mem → SharedCopy → Mem}
    (hends : ∀ m, WriteEnds request copies m (copied m) (call m))
    (hframe : ∀ r ∈ request, ∀ m, ∀ a ∉ r.bytes sharedBase, copied m r a = m a)
    (hlen : ∀ r ∈ request, copies → r.length ≠ 0) :
    WritesInSlot sharedBase request call ↔ ∀ r ∈ request, copies → r.stop ≤ slotSize := by
  constructor
  · intro h r hr hc
    rw [← SharedCopy.contained_iff sharedBase (hlen r hr hc)]
    by_contra hnot
    exact h.refused r hr hnot (fun _ => 0) (((hends _).ok_iff hr).mpr hc)
  · intro h
    have hin (r : SharedCopy) (hr : r ∈ request) (hc : copies) : r.Contained sharedBase :=
      (SharedCopy.contained_iff sharedBase (hlen r hr hc)).mpr (h r hr hc)
    refine ⟨fun m a ha => ?_, fun r hr hnot m hok => ?_⟩
    · have hend := hends m
      generalize call m = o at hend
      cases hend with
      | copies hr hc _ hmem =>
        rw [hmem]
        exact hframe _ hr m a fun hmem => ha (hin _ hr hc a hmem)
      | leaves _ _ hmem => exact congrFun hmem a
    · exact hnot (hin r hr (((hends m).ok_iff hr).mp hok))

end Ends

def sessionOutcome (r : Status × RhiHost) : Prop × Mem := (r.1 = .success, r.2.mem)

theorem WriteEnds.session {request : Option SharedCopy} {copies p : Prop} [Decidable p]
    {mem : Mem} {copied : SharedCopy → Mem} {x y : Status × RhiHost}
    (hx : p → WriteEnds request copies mem copied (sessionOutcome x))
    (hy : ¬ p → WriteEnds request copies mem copied (sessionOutcome y)) :
    WriteEnds request copies mem copied (sessionOutcome (if p then x else y)) :=
  iteInduction (motive := fun r => WriteEnds request copies mem copied (sessionOutcome r)) hx hy

def falOutcome (r : UInt64 × RhiHost) : Prop × Mem := (r.1 = 0, r.2.mem)

def daOutcome (r : UInt64 × DaHost) : Prop × Mem := (r.1 = rhiDaSuccess, r.2.mem)

/-- Where RECEIVE gets to its loop, it was asked for the payload. -/
theorem receiveRequest_of_copies (h : ReceiveCopies sessId bufferIpa bufferSize offset s) :
    receiveRequest bufferSize offset s = some ⟨offset, payloadLen⟩ := by
  refine if_neg ?_
  rintro (hsize | hpending)
  · exact h.size hsize
  · exact h.idle.not_pending hpending.2

/-- **RECEIVE writes its copy and nothing else.** -/
theorem receive_ends (m : Mem) :
    WriteEnds (receiveRequest bufferSize offset s) (ReceiveCopies sessId bufferIpa bufferSize offset s)
      m (fun r => fillPattern (sharedBase + testUseOffset1 + r.offset) r.length.toNat m)
      (sessionOutcome
        (valHostRhiSessionReceive sharedBase sessId bufferIpa bufferSize offset
          { s with mem := m })) := by
  unfold valHostRhiSessionReceive
  refine .session (fun hid => ?_) fun hid => ?_
  · exact .leaves (fun _ _ h => (RhiSession.accepts_iff.mp h.accepts).1 hid) nofun rfl
  refine .session (fun hproto => ?_) fun hproto => ?_
  · exact .leaves (fun _ _ h => (RhiSession.accepts_iff.mp h.accepts).2 hproto) nofun rfl
  refine .session (fun hquery => ?_) fun _ => ?_
  · exact .leaves (fun _ _ h => h.size hquery.2) (fun _ => if_pos (Or.inl hquery.2)) rfl
  refine .session (fun hpage => ?_) fun hpage => ?_
  · exact .leaves (fun _ _ h => isPage_iff.mp h.page hpage) nofun rfl
  refine .session (fun hsize => ?_) fun hsize => ?_
  · exact .leaves (fun _ _ h => h.size hsize) (fun _ => if_pos (Or.inl hsize)) rfl
  refine .session (fun hroom => ?_) fun hroom => ?_
  · refine .leaves (fun _ _ h => ?_) nofun rfl
    rcases hroom with hge | hlt
    · exact UInt64.not_le.mpr h.offset_lt hge
    · exact UInt64.not_lt.mpr h.length_le hlt
  obtain ⟨hlt, hle⟩ := not_or.mp hroom
  have hcopies (hmode : s.globals.sess.HasMode) (hidle : s.globals.recvState.Idle) :
      ReceiveCopies sessId bufferIpa bufferSize offset s :=
    ⟨RhiSession.accepts_iff.mpr ⟨hid, hproto⟩, isPage_iff.mpr hpage, hsize, UInt64.not_le.mp hlt,
      UInt64.not_lt.mp hle, hmode, hidle⟩
  refine .session (fun hmode => .session (fun hidle => ?_) fun hidle => ?_) fun hblocking => ?_
  · exact .leaves (fun _ _ h => RhiSessionIoState.idle_iff.mp h.idle hidle) nofun rfl
  · have hc := hcopies (Or.inl hmode) (RhiSessionIoState.idle_iff.mpr hidle)
    exact .copies (receiveRequest_of_copies hc) hc rfl rfl
  refine .session (fun hmode => ?_) fun hmode => ?_
  · refine .session (fun hpending => ?_) fun _ => .session (fun hidle => ?_) fun hidle => ?_
    · exact .leaves (fun _ _ h => h.idle.not_pending hpending)
        (fun _ => if_pos (Or.inr ⟨hmode, hpending⟩)) rfl
    · exact .leaves (fun _ _ h => RhiSessionIoState.idle_iff.mp h.idle hidle) nofun rfl
    · have hc := hcopies (Or.inr hmode) (RhiSessionIoState.idle_iff.mpr hidle)
      exact .copies (receiveRequest_of_copies hc) hc rfl rfl
  · exact .leaves (fun _ _ h => h.mode.elim hblocking hmode) nofun rfl

/-- The piece of the log FAL_READ writes. -/
def falCopied (sharedBase length : UInt64) (s : RhiHost) : Mem :=
  (List.range length.toNat).foldl (fun m i => Function.update m
    (sharedBase + testUseOffset1 + UInt64.ofNat i)
    ((if s.falInit then s.falLog else patternByte) (s.falOffset.toNat + i))) s.mem

/-- **FAL_READ writes its copy and nothing else.** -/
theorem falRead_ends :
    WriteEnds (falRequest bufferSize s) (IsPage bufferIpa) s.mem
      (fun r => falCopied sharedBase r.length s)
      (falOutcome (valHostRhiFalRead sharedBase bufferIpa bufferSize s)) := by
  unfold valHostRhiFalRead falRequest
  dsimp only
  by_cases hpage : bufferIpa = 0 ∨ addrIsAligned bufferIpa pageSize = false
  · rw [if_pos hpage]
    exact .leaves (fun _ _ h => isPage_iff.mp h hpage) nofun rfl
  rw [if_neg hpage]
  unfold falOutcome RhiHost.reply2 falCopied
  by_cases hnone : s.falOffset ≥ rhiFalLogSize ∨ bufferSize = 0
  · by_cases hinit : s.falInit = true
    · simp only [if_pos hinit, if_pos hnone]
      exact .leaves nofun (fun _ => rfl) rfl
    · simp only [if_neg hinit, if_pos hnone]
      exact .leaves nofun (fun _ => rfl) rfl
  · by_cases hinit : s.falInit = true
    · simp only [if_pos hinit, if_neg hnone]
      refine .copies (Eq.refl _) (isPage_iff.mpr hpage) trivial ?_
      dsimp only
    · simp only [if_neg hinit, if_neg hnone]
      refine .copies (Eq.refl _) (isPage_iff.mpr hpage) trivial ?_
      dsimp only

/-- Where the object OBJECT_READ is asked for is cached. -/
def objectSource (c : DaCall) : UInt64 :=
  match daObject c (c.exit 2) with
  | .error _ => 0
  | .ok (src, _) => src

/-- **OBJECT_READ writes its copy and nothing else.** -/
theorem objectRead_ends {c : DaCall} {t : DaHost} :
    WriteEnds (objectRequest c) (ObjectCopies c) t.mem
      (fun r => memcpy (sharedBase + testUseOffset1 + r.offset) (objectSource c) r.length.toNat t.mem)
      (daOutcome (valRhiDaObjectRead sharedBase c t)) := by
  have hlength := fun h : ObjectCopies c => h.length_le
  unfold valRhiDaObjectRead objectSource
  unfold objectRequest at hlength ⊢
  dsimp only
  by_cases hid : (c.vdevObj 0).vdevId ≠ c.exit 1
  · rw [if_pos hid]
    exact .leaves (fun _ _ h => hid h.vdevId) nofun rfl
  rw [if_neg hid]
  by_cases hbuf : c.exit 3 = 0
  · rw [if_pos hbuf]
    exact .leaves (fun _ _ h => h.buffer hbuf) nofun rfl
  rw [if_neg hbuf]
  cases hobj : daObject c (c.exit 2) with
  | error status => exact .leaves nofun (fun _ => rfl) rfl
  | ok obj =>
    obtain ⟨src, size⟩ := obj
    rw [hobj] at hlength
    dsimp only at hlength ⊢
    by_cases hsize : size = 0
    · rw [if_pos hsize, if_pos hsize]
      exact .leaves nofun (fun _ => rfl) rfl
    rw [if_neg hsize] at hlength
    rw [if_neg hsize, if_neg hsize]
    split
    · rename_i hroom
      refine .leaves (fun _ _ h => ?_) nofun rfl
      rcases hroom with hzero | hge | hlt
      · exact UInt64.not_lt_zero (hzero ▸ h.offset_lt)
      · exact UInt64.not_le.mpr h.offset_lt hge
      · exact UInt64.not_lt.mpr (hlength h _ rfl) hlt
    · rename_i hroom
      obtain ⟨-, hlt, hle⟩ : _ ∧ _ ∧ _ := by simpa only [not_or] using hroom
      refine .copies rfl ⟨not_not.mp hid, hbuf, UInt64.not_le.mp hlt, fun r hr' => ?_⟩ rfl rfl
      rw [objectRequest, hobj] at hr'
      dsimp only at hr'
      rw [if_neg hsize] at hr'
      obtain rfl := Option.some.inj hr'
      exact UInt64.not_lt.mp hle

end Handlers

/-! ## 4. When the slot is left -/

section Slot

variable (sharedBase sessId bufferIpa bufferSize length offset : UInt64) (s : RhiHost)

/-- A block of the heap is never empty. -/
theorem HasBuffers.length_ne {length : UInt64} {heap : HeapState} (h : HasBuffers length heap) :
    length ≠ 0 := by
  rintro rfl
  refine h.1 ?_
  unfold valHostMemAlloc
  rw [if_pos (UInt64.le_refl 0)]

/-- The calls, as functions of the memory they are given. -/
def sendAt (m : Mem) : Status × RhiHost :=
  valHostRhiSessionSend sharedBase sessId bufferIpa length offset { s with mem := m }

def receiveAt (m : Mem) : Prop × Mem :=
  sessionOutcome
    (valHostRhiSessionReceive sharedBase sessId bufferIpa bufferSize offset { s with mem := m })

theorem receiveAt_mem :
    (receiveAt sharedBase sessId bufferIpa bufferSize offset s s.mem).2 =
      (valHostRhiSessionReceive sharedBase sessId bufferIpa bufferSize offset s).2.mem := rfl

def falReadAt (m : Mem) : Prop × Mem :=
  falOutcome (valHostRhiFalRead sharedBase bufferIpa bufferSize { s with mem := m })

def objectReadAt (c : DaCall) (t : DaHost) (m : Mem) : Prop × Mem :=
  daOutcome (valRhiDaObjectRead sharedBase c { t with mem := m })

theorem sendRequest_of_copies (h : SendCopies sessId bufferIpa length s) :
    sendRequest length offset s = some ⟨offset, length⟩ :=
  if_neg fun hpending => h.idle.not_pending hpending.2

/-- **SEND stays in the slot if its copy does.** -/
theorem send_readsInSlot
    (h : SendCopies sessId bufferIpa length s → offset.toNat + length.toNat ≤ slotSize) :
    ReadsInSlot sharedBase (sendRequest length offset s)
      (sendAt sharedBase sessId bufferIpa length offset s) := by
  have hin (hc : SendCopies sessId bufferIpa length s) :
      (⟨offset, length⟩ : SharedCopy).Contained sharedBase :=
    (SharedCopy.contained_iff sharedBase hc.buffers.length_ne).mpr (h hc)
  refine ⟨fun m m' heq => send_reads fun hc a ha => heq (hin hc a ha), fun r hr hnot m hok => ?_⟩
  rcases send_success hok with hpending | hc
  · rw [sendRequest, if_pos hpending] at hr
    nomatch hr
  · rw [sendRequest_of_copies sessId bufferIpa length offset s hc] at hr
    obtain rfl := Option.some.inj hr
    exact hnot (hin hc)

/-- And only if it does, where SEND does not run into its own buffers: with the pattern in its place,
a copy that is not in the slot is a success. -/
theorem stop_le_of_send_readsInSlot
    (hapart : BuffersApart (sharedBase + testUseOffset1 + offset) length s.heap)
    (h : ReadsInSlot sharedBase (sendRequest length offset s)
      (sendAt sharedBase sessId bufferIpa length offset s))
    (hc : SendCopies sessId bufferIpa length s) : offset.toNat + length.toNat ≤ slotSize := by
  refine (SharedCopy.contained_iff sharedBase (r := ⟨offset, length⟩) hc.buffers.length_ne).mp ?_
  by_contra hnot
  refine h.refused _ (sendRequest_of_copies sessId bufferIpa length offset s hc) hnot
    (patternAt (sharedBase + testUseOffset1 + offset)) ?_
  exact send_of_good ⟨hc.accepts, hc.page, hc.mode, hc.idle, hc.buffers⟩
    (sendPayload_patternAt hc.buffers hapart)

theorem receive_writesInSlot_iff :
    WritesInSlot sharedBase (receiveRequest bufferSize offset s)
        (receiveAt sharedBase sessId bufferIpa bufferSize offset s) ↔
      (ReceiveCopies sessId bufferIpa bufferSize offset s →
        offset.toNat + payloadLen.toNat ≤ slotSize) := by
  have hrequest (r : SharedCopy) (hr : r ∈ receiveRequest bufferSize offset s) :
      r = ⟨offset, payloadLen⟩ := by
    unfold receiveRequest at hr
    split at hr
    · nomatch hr
    · exact (Option.some.inj hr).symm
  have hpayload : payloadLen ≠ 0 := by decide
  refine (writesInSlot_iff receive_ends (fun r _ m a ha => fillPattern_of_notMem ha)
    fun r hr _ => hrequest r hr ▸ hpayload).trans ?_
  constructor
  · intro h hc
    exact h _ (receiveRequest_of_copies hc) hc
  · intro h r hr hc
    rw [hrequest r hr]
    exact h hc

/-- FAL_READ has no offset, and less than a slot. -/
theorem falRead_writesInSlot :
    WritesInSlot sharedBase (falRequest bufferSize s)
      (falReadAt sharedBase bufferIpa bufferSize s) := by
  have hends (m : Mem) := @falRead_ends sharedBase bufferIpa bufferSize { s with mem := m }
  refine (writesInSlot_iff hends (fun r hr m a ha => ?_)
    fun r hr _ => (falRequest_some hr).2.1).mpr fun r hr _ => ?_
  · unfold SharedCopy.bytes at ha
    rw [(falRequest_some hr).1, UInt64.add_zero] at ha
    exact foldl_write_of_ne fun i hi heq => ha (mem_bytesFrom.mpr ⟨i, hi, heq.symm⟩)
  · obtain ⟨hoff, -, hle⟩ := falRequest_some hr
    have hzero : (0 : UInt64).toNat = 0 := rfl
    have hlog : rhiFalLogSize.toNat = 0x1000 := rfl
    unfold SharedCopy.stop slotSize
    rw [hoff]
    omega

theorem objectRead_writesInSlot_iff (c : DaCall) (t : DaHost) :
    WritesInSlot sharedBase (objectRequest c) (objectReadAt sharedBase c t) ↔
      ∀ r ∈ objectRequest c, ObjectCopies c → r.stop ≤ slotSize := by
  have hends (m : Mem) := @objectRead_ends sharedBase c { t with mem := m }
  exact writesInSlot_iff hends (fun r _ m a ha => memcpy_of_notMem ha)
    fun r hr _ => objectRequest_length_ne hr

/-- **Realm-supplied lengths and the shared slot.**  For every content of the Realm's registers, every
session and heap and every device object: FAL_READ never writes a byte outside the slot, whatever
memory holds.  RECEIVE and OBJECT_READ write none, and answer a request that would with an error, if
and only if a request that passes the handler's own checks ends, as an integer, within the 64 KB; and
so does SEND read none, the ONLY IF for a copy that does not run into SEND's own buffers, where a byte
is overwritten before it is read.  SEND has no check of its own for this, RECEIVE and OBJECT_READ
compare with another of the Realm's registers. -/
theorem shared_slot_kept_iff (x : Gprs) (c : DaCall) (t : DaHost) :
    ((SendCopies (x 1) (x 2) (x 3) s → (x 4).toNat + (x 3).toNat ≤ slotSize) →
      ReadsInSlot sharedBase (sendRequest (x 3) (x 4) s)
        (sendAt sharedBase (x 1) (x 2) (x 3) (x 4) s)) ∧
    (BuffersApart (sharedBase + testUseOffset1 + x 4) (x 3) s.heap →
      ReadsInSlot sharedBase (sendRequest (x 3) (x 4) s)
        (sendAt sharedBase (x 1) (x 2) (x 3) (x 4) s) →
      SendCopies (x 1) (x 2) (x 3) s → (x 4).toNat + (x 3).toNat ≤ slotSize) ∧
    (WritesInSlot sharedBase (receiveRequest (x 3) (x 4) s)
        (receiveAt sharedBase (x 1) (x 2) (x 3) (x 4) s) ↔
      (ReceiveCopies (x 1) (x 2) (x 3) (x 4) s → (x 4).toNat + payloadLen.toNat ≤ slotSize)) ∧
    WritesInSlot sharedBase (falRequest (x 2) s) (falReadAt sharedBase (x 1) (x 2) s) ∧
    (WritesInSlot sharedBase (objectRequest c) (objectReadAt sharedBase c t) ↔
      ∀ r ∈ objectRequest c, ObjectCopies c → r.stop ≤ slotSize) :=
  ⟨send_readsInSlot sharedBase (x 1) (x 2) (x 3) (x 4) s,
    stop_le_of_send_readsInSlot sharedBase (x 1) (x 2) (x 3) (x 4) s,
    receive_writesInSlot_iff sharedBase (x 1) (x 2) (x 3) (x 4) s,
    falRead_writesInSlot sharedBase (x 1) (x 2) s, objectRead_writesInSlot_iff sharedBase c t⟩

end Slot

/-- The host after the first OPEN: a blocking session, with id 1. -/
def blockingHost : RhiHost := (valHostRhiSessionOpen 0 rhiConnModeBlocking .init).2

/-- **RECEIVE leaves the slot.**  With offset `0x10000` in a buffer of `0x20000` bytes the payload is
written, with success, to the slot that follows. -/
theorem shared_slot_left :
    (valHostRhiSessionReceive 0 1 0x1000 0x20000 0x10000 blockingHost).1 = .success ∧
    (valHostRhiSessionReceive 0 1 0x1000 0x20000 0x10000 blockingHost).2.mem 0x11000 = 0xcd ∧
    ¬ InSlot 0 0x11000 ∧
    ¬ WritesInSlot 0 (receiveRequest 0x20000 0x10000 blockingHost)
      (receiveAt 0 1 0x1000 0x20000 0x10000 blockingHost) := by
  have hout : ¬ InSlot 0 0x11000 := by
    unfold InSlot slotSize
    decide
  have hwritten : (valHostRhiSessionReceive 0 1 0x1000 0x20000 0x10000 blockingHost).2.mem 0x11000
      = 0xcd := by decide
  refine ⟨by decide, hwritten, hout, fun h => ?_⟩
  -- the byte was 0 before
  have hkept := h.writes blockingHost.mem 0x11000 hout
  rw [receiveAt_mem, hwritten] at hkept
  exact absurd hkept (by decide)

end RmmAcs.Rhi
