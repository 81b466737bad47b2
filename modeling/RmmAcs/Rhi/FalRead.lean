/-
# The firmware activity log

RHI_FAL_READ hands the log out in pieces: each call copies what fits into the Realm's buffer,
advances `g_fal_offset`, and replies how much it copied and how much is left.  The position is
never set back, so over a whole run the pieces are the log, read once.

Other calls may come in between, and the host's memory and heap may change in any way from one call
to the next.
-/
import RmmAcs.Rhi.SessionInv

namespace RmmAcs.Rhi

open RmmAcs

/-! ## 1. What a Realm reads -/

/-- The log, as the first call initialises it. -/
def falLogBytes : List UInt8 := (List.range rhiFalLogSize.toNat).map patternByte

/-- A successful FAL_READ: the size of the buffer, the two values of the reply, and the bytes that are
in the buffer afterwards. -/
structure FalReply where
  bufferSize : UInt64
  copied : UInt64
  remaining : UInt64
  chunk : List UInt8
deriving DecidableEq, Repr

/-- The bytes at the beginning of the shared buffer. -/
def RhiHost.sharedBytes (sharedBase : UInt64) (n : ℕ) (s : RhiHost) : List UInt8 :=
  (List.range n).map fun i => s.mem (sharedBase + testUseOffset1 + UInt64.ofNat i)

/-- The successful FAL_READs of a run, in order; `0` is `RHI_FAL_SUCCESS`. -/
def falReplies (sharedBase : UInt64) : RhiHost → List RhiCall → List FalReply
  | _, [] => []
  | s, c :: cs =>
    let s' := rhiStep sharedBase s c
    if c.exit 0 = rhiFalRead ∧ s'.enter 0 = 0 then
      ⟨c.exit 2, s'.enter 1, s'.enter 2, s'.sharedBytes sharedBase (s'.enter 1).toNat⟩
        :: falReplies sharedBase s' cs
    else falReplies sharedBase s' cs

/-- One reply, after `n` bytes of the log have been read. -/
structure FalReply.Continues (n : ℕ) (r : FalReply) : Prop where
  chunk : r.chunk = (falLogBytes.drop n).take r.copied.toNat
  copied : r.bufferSize ≠ 0 →
    r.copied.toNat = min r.bufferSize.toNat (rhiFalLogSize.toNat - n)
  remaining : r.bufferSize ≠ 0 → n + r.copied.toNat + r.remaining.toNat = rhiFalLogSize.toNat
  empty : r.bufferSize = 0 → r.copied = 0
  exhausted : n = rhiFalLogSize.toNat → r.copied = 0 ∧ r.remaining = 0

/-- **The log is read out**: every reply continues where the ones before it have stopped. -/
def ReadOut : ℕ → List FalReply → Prop
  | _, [] => True
  | n, r :: rs => r.Continues n ∧ ReadOut (n + r.copied.toNat) rs

/-! ## 2. One call -/

/-- The variables of the log. -/
structure FalAt (n : ℕ) (s : RhiHost) : Prop where
  offset : s.falOffset.toNat = n
  le : n ≤ rhiFalLogSize.toNat
  log : s.falInit = true → s.falLog = patternByte

/-- What FAL_READ does: it is refused, or it copies a piece (perhaps none) and moves on. -/
inductive FalStep (sharedBase bufferSize : UInt64) (n : ℕ) : UInt64 × RhiHost → Prop
  | refused {s' : RhiHost} : FalAt n s' → FalStep sharedBase bufferSize n (1, s')
  | copied {s' : RhiHost} {copied remaining : UInt64} :
      s'.enter 1 = copied → s'.enter 2 = remaining → FalAt (n + copied.toNat) s' →
      FalReply.Continues n
        ⟨bufferSize, copied, remaining, s'.sharedBytes sharedBase copied.toNat⟩ →
      FalStep sharedBase bufferSize n (0, s')

@[simp] theorem reply2_enter_one (s : RhiHost) (x1 x2 : UInt64) : (s.reply2 x1 x2).enter 1 = x1 := by
  simp [RhiHost.reply2]

@[simp] theorem reply2_enter_two (s : RhiHost) (x1 x2 : UInt64) : (s.reply2 x1 x2).enter 2 = x2 := by
  simp [RhiHost.reply2]

theorem FalAt.reply2 {n : ℕ} {s : RhiHost} (h : FalAt n s) (x1 x2 : UInt64) :
    FalAt n (s.reply2 x1 x2) := ⟨h.offset, h.le, h.log⟩

/-- The two values of a reply are in `gprs[1]` and `gprs[2]`. -/
theorem FalStep.reply {sharedBase bufferSize : UInt64} {n : ℕ} {s : RhiHost}
    {copied remaining : UInt64} (hat : FalAt (n + copied.toNat) s)
    (hreply : FalReply.Continues n
      ⟨bufferSize, copied, remaining, s.sharedBytes sharedBase copied.toNat⟩) :
    FalStep sharedBase bufferSize n (0, s.reply2 copied remaining) :=
  .copied (reply2_enter_one s copied remaining) (reply2_enter_two s copied remaining)
    (hat.reply2 copied remaining) hreply

/-- The log initialised. -/
theorem FalAt.init {n : ℕ} {s : RhiHost} (h : FalAt n s) :
    FalAt n (if s.falInit then s else { s with falLog := patternByte, falInit := true }) ∧
      (if s.falInit then s else { s with falLog := patternByte, falInit := true }).falLog
        = patternByte := by
  split
  · rename_i hinit
    exact ⟨h, h.log hinit⟩
  · exact ⟨⟨h.offset, h.le, fun _ => rfl⟩, rfl⟩

/-- A piece of the log. -/
theorem falLogBytes_piece {n k : ℕ} (h : n + k ≤ rhiFalLogSize.toNat) :
    (falLogBytes.drop n).take k = (List.range k).map fun i => patternByte (n + i) := by
  refine List.ext_getElem ?_ fun i hi hi' => ?_
  · simp [falLogBytes]
    omega
  · simp [falLogBytes]

theorem falRead_step (sharedBase bufferIpa bufferSize : UInt64) {n : ℕ} {s : RhiHost}
    (h : FalAt n s) :
    FalStep sharedBase bufferSize n (valHostRhiFalRead sharedBase bufferIpa bufferSize s) := by
  have hsize : rhiFalLogSize.toNat = 4096 := rfl
  obtain ⟨hat, hlog⟩ := h.init
  unfold valHostRhiFalRead
  split
  · exact .refused h
  generalize (if s.falInit then s else { s with falLog := patternByte, falInit := true }) = s₁
    at hat hlog
  dsimp only
  have hoffset := hat.offset
  have hle := hat.le
  have hleft : rhiFalLogSize.toNat - n = (rhiFalLogSize - s₁.falOffset).toNat := by
    rw [UInt64.toNat_sub_of_le _ _ (by rw [UInt64.le_iff_toNat_le]; omega), hoffset]
  split
  · -- nothing left, or no buffer
    rename_i hnone
    refine .reply hat ⟨rfl, fun hne => ?_, fun hne => ?_, fun _ => rfl, fun _ => ⟨rfl, rfl⟩⟩
    · have hge := UInt64.le_iff_toNat_le.mp (hnone.resolve_right hne)
      have hzero : (0 : UInt64).toNat = 0 := rfl
      dsimp only
      omega
    · have hge := UInt64.le_iff_toNat_le.mp (hnone.resolve_right hne)
      have hzero : (0 : UInt64).toNat = 0 := rfl
      dsimp only
      omega
  · rename_i hsome
    obtain ⟨hlt, hne⟩ := not_or.mp hsome
    set copied := if bufferSize < rhiFalLogSize - s₁.falOffset then bufferSize
      else rhiFalLogSize - s₁.falOffset with hcopied
    have hmin : copied.toNat = min bufferSize.toNat (rhiFalLogSize.toNat - n) := by
      rw [hcopied, hleft]
      split
      · rename_i hb
        have hb' := UInt64.lt_iff_toNat_lt.mp hb
        omega
      · rename_i hb
        have hb' := UInt64.le_iff_toNat_le.mp (UInt64.not_lt.mp hb)
        omega
    have hnext : (s₁.falOffset + copied).toNat = n + copied.toNat := by
      rw [UInt64.toNat_add, hoffset, Nat.mod_eq_of_lt (by omega)]
    have hrest : (rhiFalLogSize - (s₁.falOffset + copied)).toNat
        = rhiFalLogSize.toNat - (n + copied.toNat) := by
      rw [UInt64.toNat_sub_of_le _ _ (by rw [UInt64.le_iff_toNat_le, hnext]; omega), hnext]
    have hwrite : ∀ i < copied.toNat, (List.range copied.toNat).foldl
        (fun m i => Function.update m (sharedBase + testUseOffset1 + UInt64.ofNat i)
          (s₁.falLog (s₁.falOffset.toNat + i))) s₁.mem
        (sharedBase + testUseOffset1 + UInt64.ofNat i) = patternByte (n + i) := by
      intro i hi
      rw [hlog, hoffset]
      exact foldl_write_at (f := fun i => patternByte (n + i)) (by omega) hi
    generalize (List.range copied.toNat).foldl
        (fun m i => Function.update m (sharedBase + testUseOffset1 + UInt64.ofNat i)
          (s₁.falLog (s₁.falOffset.toNat + i))) s₁.mem = mem at hwrite
    clear_value copied
    have hat' : FalAt (n + copied.toNat)
        { s₁ with mem := mem, falOffset := s₁.falOffset + copied } := ⟨hnext, by omega, hat.log⟩
    have hlt' := UInt64.lt_iff_toNat_lt.mp (UInt64.not_le.mp hlt)
    refine .reply hat' ⟨?_, fun _ => hmin, fun _ => ?_, fun h0 => absurd h0 hne,
      fun hn => absurd hn (by omega)⟩
    · have hpiece : n + copied.toNat ≤ rhiFalLogSize.toNat := by omega
      exact (List.map_congr_left fun i hi => hwrite i (List.mem_range.mp hi)).trans
        (falLogBytes_piece hpiece).symm
    · dsimp only
      rw [hrest]
      omega

/-! ## 3. The other calls -/

/-- The variables of the log are left alone. -/
structure FalKept (s s' : RhiHost) : Prop where
  offset : s'.falOffset = s.falOffset
  init : s'.falInit = s.falInit
  log : s'.falLog = s.falLog

theorem FalKept.falAt {s s' : RhiHost} (h : FalKept s s') {n : ℕ} (hat : FalAt n s) :
    FalAt n s' where
  offset := by rw [h.offset]; exact hat.offset
  le := hat.le
  log := by rw [h.init, h.log]; exact hat.log

theorem open_falKept (sessId connType : UInt64) (s : RhiHost) :
    FalKept s (valHostRhiSessionOpen sessId connType s).2 := by
  rcases open_cases sessId connType s with ⟨st, -, hr⟩ | ⟨st, -, -, -, hr⟩ | ⟨-, hr⟩
  all_goals
    rw [hr]
    exact ⟨rfl, rfl, rfl⟩

theorem close_falKept (sessId : UInt64) (s : RhiHost) :
    FalKept s (valHostRhiSessionClose sessId s).2 := by
  rcases close_cases sessId s with ⟨st, -, hr⟩ | ⟨-, -, hr⟩ | hr
  all_goals
    rw [hr]
    exact ⟨rfl, rfl, rfl⟩

theorem FalKept.ite {s : RhiHost} {p : Prop} [Decidable p] {a b : Status × RhiHost}
    (ha : FalKept s a.2) (hb : FalKept s b.2) : FalKept s (if p then a else b).2 :=
  iteInduction (motive := fun r : Status × RhiHost => FalKept s r.2) (fun _ => ha) fun _ => hb

theorem sendPayload_falKept (src length : UInt64) (s : RhiHost) :
    FalKept s (sendPayload src length s).2 := by
  unfold sendPayload
  dsimp only
  split
  · exact ⟨rfl, rfl, rfl⟩
  · exact ⟨rfl, rfl, rfl⟩

theorem send_falKept (sharedBase sessId bufferIpa length offset : UInt64) (s : RhiHost) :
    FalKept s (valHostRhiSessionSend sharedBase sessId bufferIpa length offset s).2 := by
  have hpay := sendPayload_falKept (sharedBase + testUseOffset1 + offset) length s
  unfold valHostRhiSessionSend
  dsimp only
  generalize sendPayload (sharedBase + testUseOffset1 + offset) length s = r at hpay
  obtain ⟨p, s'⟩ := r
  cases p
  all_goals
    dsimp only
    repeat' refine FalKept.ite ?_ ?_
    all_goals first | exact ⟨rfl, rfl, rfl⟩ | exact ⟨hpay.offset, hpay.init, hpay.log⟩

theorem receive_falKept (sharedBase sessId bufferIpa bufferSize offset : UInt64) (s : RhiHost) :
    FalKept s (valHostRhiSessionReceive sharedBase sessId bufferIpa bufferSize offset s).2 := by
  unfold valHostRhiSessionReceive
  dsimp only
  repeat' refine FalKept.ite ?_ ?_
  all_goals exact ⟨rfl, rfl, rfl⟩

theorem rhiStep_falRead {sharedBase : UInt64} {s : RhiHost} {c : RhiCall}
    (h : c.exit 0 = rhiFalRead) :
    rhiStep sharedBase s c = RhiHost.ret (valHostRhiFalRead sharedBase (c.exit 1) (c.exit 2)
      { s with mem := c.mem, heap := c.heap }) := by
  simp only [rhiStep, valHostRhiDispatch, h]
  rfl

/-- A call of another function does not move the log. -/
theorem rhiStep_falKept (sharedBase : UInt64) (s : RhiHost) {c : RhiCall}
    (h : c.exit 0 ≠ rhiFalRead) : FalKept s (rhiStep sharedBase s c) := by
  by_cases hopen : c.exit 0 = rhiSessionOpen
  · rw [rhiStep_open hopen]
    have hkept := open_falKept (c.exit 1) (c.exit 2) { s with mem := c.mem, heap := c.heap }
    exact ⟨hkept.offset, hkept.init, hkept.log⟩
  by_cases hclose : c.exit 0 = rhiSessionClose
  · rw [rhiStep_close hclose]
    have hkept := close_falKept (c.exit 1) { s with mem := c.mem, heap := c.heap }
    exact ⟨hkept.offset, hkept.init, hkept.log⟩
  by_cases hsend : c.exit 0 = rhiSessionSend
  · rw [rhiStep_send hsend]
    have hkept := send_falKept sharedBase (c.exit 1) (c.exit 2) (c.exit 3) (c.exit 4)
      { s with mem := c.mem, heap := c.heap }
    exact ⟨hkept.offset, hkept.init, hkept.log⟩
  by_cases hreceive : c.exit 0 = rhiSessionReceive
  · rw [rhiStep_receive hreceive]
    have hkept := receive_falKept sharedBase (c.exit 1) (c.exit 2) (c.exit 3) (c.exit 4)
      { s with mem := c.mem, heap := c.heap }
    exact ⟨hkept.offset, hkept.init, hkept.log⟩
  · unfold rhiStep valHostRhiDispatch
    dsimp only
    rw [if_neg h, if_neg hopen, if_neg hclose, if_neg hsend, if_neg hreceive]
    repeat' split
    all_goals exact ⟨rfl, rfl, rfl⟩

/-! ## 4. A run -/

/-- What one call reads: a FAL_READ that succeeds continues the log, and every other call, a
FAL_READ that fails among them, consumes nothing. -/
theorem FalAt.step (sharedBase : UInt64) {n : ℕ} {s : RhiHost} (h : FalAt n s) (c : RhiCall) :
    (¬ (c.exit 0 = rhiFalRead ∧ (rhiStep sharedBase s c).enter 0 = 0) ∧
      FalAt n (rhiStep sharedBase s c)) ∨
    (c.exit 0 = rhiFalRead ∧ (rhiStep sharedBase s c).enter 0 = 0 ∧
      FalAt (n + ((rhiStep sharedBase s c).enter 1).toNat) (rhiStep sharedBase s c) ∧
      FalReply.Continues n ⟨c.exit 2, (rhiStep sharedBase s c).enter 1,
        (rhiStep sharedBase s c).enter 2, (rhiStep sharedBase s c).sharedBytes sharedBase
          ((rhiStep sharedBase s c).enter 1).toNat⟩) := by
  by_cases hread : c.exit 0 = rhiFalRead
  · have hat : FalAt n { s with mem := c.mem, heap := c.heap } := ⟨h.offset, h.le, h.log⟩
    have hstep := falRead_step sharedBase (c.exit 1) (c.exit 2) hat
    rw [rhiStep_falRead hread]
    generalize valHostRhiFalRead sharedBase (c.exit 1) (c.exit 2)
      { s with mem := c.mem, heap := c.heap } = r at hstep
    cases hstep with
    | refused hat' =>
      refine Or.inl ⟨fun hok => ?_, ⟨hat'.offset, hat'.le, hat'.log⟩⟩
      rw [ret_enter_zero] at hok
      have h10 : (1 : UInt64) = 0 := hok.2
      exact absurd h10 (by decide)
    | @copied s' copied remaining h1 h2 hat' hreply =>
      refine Or.inr ⟨hread, ret_enter_zero _, ?_⟩
      rw [ret_enter_of_ne _ (by decide), ret_enter_of_ne _ (by decide)]
      dsimp only
      rw [h1, h2]
      exact ⟨⟨hat'.offset, hat'.le, hat'.log⟩, hreply⟩
  · exact Or.inl ⟨fun hok => hread hok.1, (rhiStep_falKept sharedBase s hread).falAt h⟩

/-- **A run** from anywhere in the log. -/
theorem FalAt.run (sharedBase : UInt64) (cs : List RhiCall) {n : ℕ} {s : RhiHost}
    (h : FalAt n s) :
    ReadOut n (falReplies sharedBase s cs) ∧
      FalAt (n + ((falReplies sharedBase s cs).map fun r => r.copied.toNat).sum)
        (rhiRun sharedBase s cs) := by
  induction cs generalizing n s with
  | nil => exact ⟨trivial, h⟩
  | cons c cs ih =>
    unfold falReplies
    dsimp only
    rcases h.step sharedBase c with ⟨hnot, hat⟩ | ⟨hread, hok, hat, hreply⟩
    · rw [if_neg hnot]
      exact ih hat
    · rw [if_pos ⟨hread, hok⟩]
      obtain ⟨hrest, hend⟩ := ih hat
      refine ⟨⟨hreply, hrest⟩, ?_⟩
      rw [List.map_cons, List.sum_cons, ← Nat.add_assoc]
      exact hend

/-- The pieces, put together, are the log as far as it has been read. -/
theorem ReadOut.chunks {n : ℕ} {rs : List FalReply} (h : ReadOut n rs) :
    (rs.map FalReply.chunk).flatten
      = (falLogBytes.drop n).take (rs.map fun r => r.copied.toNat).sum := by
  induction rs generalizing n with
  | nil => rfl
  | cons r rs ih =>
    rw [List.map_cons, List.flatten_cons, List.map_cons, List.sum_cons, List.take_add, ih h.2,
      h.1.chunk, List.drop_drop]

/-- **The firmware activity log is read out exactly once.**  For every sequence of calls, with any
buffer addresses and sizes and any host memory, each successful FAL_READ with a buffer replies
`copied`, the smaller of the size of the buffer and what has not been read yet, and `remaining`,
with which the bytes read so far make up the log; `(0, 0)` is the reply once there is nothing left.
The bytes it finds in the buffer continue the log where the last successful call has stopped: a
call that fails, or that has no room, consumes nothing. -/
theorem fal_log_read_out_once (sharedBase : UInt64) (cs : List RhiCall) :
    ReadOut 0 (falReplies sharedBase .init cs) ∧
      ((falReplies sharedBase .init cs).map FalReply.chunk).flatten <+: falLogBytes ∧
      (rhiRun sharedBase .init cs).falOffset.toNat
        = ((falReplies sharedBase .init cs).map FalReply.chunk).flatten.length := by
  have hinit : FalAt 0 RhiHost.init := ⟨rfl, Nat.zero_le _, fun h => absurd h (by decide)⟩
  obtain ⟨hread, hat⟩ := hinit.run sharedBase cs
  have hchunks := hread.chunks
  rw [List.drop_zero] at hchunks
  refine ⟨hread, ?_, ?_⟩
  · rw [hchunks]
    exact List.take_prefix _ _
  · have hle := hat.le
    rw [hat.offset, hchunks, List.length_take]
    simp only [falLogBytes, List.length_map, List.length_range]
    omega

end RmmAcs.Rhi
