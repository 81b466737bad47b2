/-
# Session identity, seen from outside

`SessionInv.lean` reads the handlers' own fields.  This file watches them through the interface:
a monitor that sees only the calls and the reply registers keeps the id in use and the list of
ids OPEN has returned.  The handlers agree with the monitor along every run, and from that the
three clauses of session identity follow: ids are fresh and not 0, every reply about a session
carries its id, and no call gets through with an id that is not the one in use.
-/
import RmmAcs.Rhi.SessionInv

namespace RmmAcs.Rhi

open RmmAcs

/-! ## 1. The monitor -/

/-- What the other side of the interface knows: the id of the session in use, if any, and the
ids OPEN calls have returned so far. -/
structure Seen where
  inUse : Option UInt64
  issued : List UInt64

/-- The monitor: it sees the call and the reply registers, and nothing else.  A successful OPEN
returns an id, and starts a session if none is in use; a successful CLOSE that reports
UNCONNECTED ends the session. -/
def Seen.observe (o : Seen) (c : RhiCall) (reply : Gprs) : Seen :=
  if reply 0 ≠ Status.success.code then o
  else if c.exit 0 = rhiSessionOpen then
    { inUse := if o.inUse = none then some (reply 1) else o.inUse
      issued := o.issued ++ [reply 1] }
  else if c.exit 0 = rhiSessionClose ∧ reply 2 = Hss.sessionUnconnected.code then
    { o with inUse := none }
  else o

/-- The monitor after a history of calls. -/
def seen (sharedBase : UInt64) (cs : List RhiCall) : Seen :=
  (cs.foldl (fun (p : RhiHost × Seen) c =>
    (rhiStep sharedBase p.1 c, p.2.observe c (rhiStep sharedBase p.1 c).enter))
    (RhiHost.init, ⟨none, []⟩)).2

theorem seen_snoc (sharedBase : UInt64) (cs : List RhiCall) (c : RhiCall) :
    seen sharedBase (cs ++ [c]) =
      (seen sharedBase cs).observe c (rhiRun sharedBase .init (cs ++ [c])).enter := by
  have hfst : ∀ (ds : List RhiCall) (p : RhiHost × Seen),
      (ds.foldl (fun (p : RhiHost × Seen) c =>
        (rhiStep sharedBase p.1 c, p.2.observe c (rhiStep sharedBase p.1 c).enter)) p).1
        = rhiRun sharedBase p.1 ds := by
    intro ds
    induction ds with
    | nil => intro p; rfl
    | cons d ds ih => intro p; exact ih _
  simp only [seen, List.foldl_append, List.foldl_cons, List.foldl_nil, rhiRun_snoc, hfst]

/-- The handlers and the monitor agree on the session in use, and every id handed out is
between `1` and `n`. -/
structure Agrees (s : RhiHost) (o : Seen) (n : ℕ) : Prop where
  inUse : o.inUse = if s.globals.sess.idInUse then some s.globals.sess.sessionId else none
  issued : ∀ i ∈ o.issued, i.toNat ≤ n
  current : s.globals.sess.idInUse = true → s.globals.sess.sessionId.toNat ≤ n

theorem Agrees.inUse_none {s : RhiHost} {o : Seen} {n : ℕ} (h : Agrees s o n)
    (hu : s.globals.sess.idInUse = false) : o.inUse = none := by
  rw [h.inUse, hu]; rfl

theorem Agrees.inUse_some {s : RhiHost} {o : Seen} {n : ℕ} (h : Agrees s o n)
    (hu : s.globals.sess.idInUse = true) : o.inUse = some s.globals.sess.sessionId := by
  rw [h.inUse, hu]; rfl

/-- A call that leaves id and in-use flag alone, and is not a successful OPEN or final CLOSE,
keeps the agreement. -/
theorem Agrees.of_same {s s' : RhiHost} {o : Seen} {n : ℕ} (h : Agrees s o n)
    (hu : s'.globals.sess.idInUse = s.globals.sess.idInUse)
    (hid : s'.globals.sess.sessionId = s.globals.sess.sessionId) : Agrees s' o n :=
  ⟨by rw [hu, hid]; exact h.inUse, h.issued, by rw [hu, hid]; exact h.current⟩

/-- What one call reports, given what was seen before it: the three clauses of session
identity. -/
structure IdentityOk (o : Seen) (c : RhiCall) (s s' : RhiHost) : Prop where
  fresh : c.exit 0 = rhiSessionOpen → s'.enter 0 = Status.success.code → o.inUse = none →
    s'.enter 1 ≠ 0 ∧ s'.enter 1 ∉ o.issued
  same : c.exit 0 = rhiSessionOpen ∨ c.exit 0 = rhiSessionClose →
    s'.enter 0 = Status.success.code → ∀ i, o.inUse = some i → s'.enter 1 = i
  closed : c.exit 0 = rhiSessionClose → s'.enter 0 = Status.success.code → o.inUse ≠ none
  foreign : c.exit 0 ≠ rhiSessionOpen → o.inUse ≠ some (c.exit 1) →
    s'.enter 0 = Status.invalidSessionId.code ∧ s'.globals = s.globals

/-! ## 2. The handlers agree with the monitor -/

/-- The id check at the head of CLOSE, SEND and RECEIVE fails for any id the monitor does not
hold. -/
theorem Agrees.foreign_check {s : RhiHost} {o : Seen} {n : ℕ} {id : UInt64} (h : Agrees s o n)
    (hne : o.inUse ≠ some id) :
    s.globals.sess.idInUse = false ∨ id = 0 ∨ id ≠ s.globals.sess.sessionId := by
  cases hu : s.globals.sess.idInUse with
  | false => exact Or.inl rfl
  | true =>
    refine Or.inr (Or.inr fun he => hne ?_)
    rw [h.inUse_some hu, he]

theorem close_foreign {s : RhiHost} {id : UInt64}
    (h : s.globals.sess.idInUse = false ∨ id = 0 ∨ id ≠ s.globals.sess.sessionId) :
    valHostRhiSessionClose id s = (.invalidSessionId, s) := by
  unfold valHostRhiSessionClose
  exact if_pos h

theorem send_foreign (sharedBase bufferIpa length offset : UInt64) {s : RhiHost} {id : UInt64}
    (h : s.globals.sess.idInUse = false ∨ id = 0 ∨ id ≠ s.globals.sess.sessionId) :
    valHostRhiSessionSend sharedBase id bufferIpa length offset s = (.invalidSessionId, s) := by
  unfold valHostRhiSessionSend
  exact if_pos h

theorem receive_foreign (sharedBase bufferIpa bufferSize offset : UInt64) {s : RhiHost}
    {id : UInt64}
    (h : s.globals.sess.idInUse = false ∨ id = 0 ∨ id ≠ s.globals.sess.sessionId) :
    valHostRhiSessionReceive sharedBase id bufferIpa bufferSize offset s
      = (.invalidSessionId, s) := by
  unfold valHostRhiSessionReceive
  exact if_pos h

/-- The monitor ignores a call that did not succeed, and a SEND or RECEIVE. -/
theorem observe_failed {o : Seen} {c : RhiCall} {reply : Gprs}
    (h : reply 0 ≠ Status.success.code) : o.observe c reply = o := if_pos h

theorem observe_other {o : Seen} {c : RhiCall} {reply : Gprs} (h1 : c.exit 0 ≠ rhiSessionOpen)
    (h2 : c.exit 0 ≠ rhiSessionClose) : o.observe c reply = o := by
  unfold Seen.observe
  split
  · rfl
  · rw [if_neg fun hc => h2 hc.1]

theorem observe_open {o : Seen} {c : RhiCall} {reply : Gprs}
    (hs : reply 0 = Status.success.code) (hf : c.exit 0 = rhiSessionOpen) :
    o.observe c reply = ⟨if o.inUse = none then some (reply 1) else o.inUse,
      o.issued ++ [reply 1]⟩ := by
  rw [Seen.observe, if_neg (not_not.mpr hs), if_pos hf]

theorem observe_close {o : Seen} {c : RhiCall} {reply : Gprs}
    (hs : reply 0 = Status.success.code) (hf : c.exit 0 = rhiSessionClose) :
    o.observe c reply =
      if reply 2 = Hss.sessionUnconnected.code then { o with inUse := none } else o := by
  have hno : ¬ c.exit 0 = rhiSessionOpen := by rw [hf]; decide
  rw [Seen.observe, if_neg (not_not.mpr hs), if_neg hno]
  simp only [hf, true_and]

/-- **OPEN and the monitor.** -/
theorem open_identity (sharedBase : UInt64) {s : RhiHost} {o : Seen} {c : RhiCall}
    {cs : List RhiCall} {n : ℕ} (hinv : SessInv s.globals) (ha : Agrees s o n)
    (hn : CounterAt s cs n) (hf : c.exit 0 = rhiSessionOpen)
    (hb : opens (cs ++ [c]) < 2 ^ 64 - 1) :
    IdentityOk o c s (rhiStep sharedBase s c) ∧
      ∃ m, Agrees (rhiStep sharedBase s c) (o.observe c (rhiStep sharedBase s c).enter) m ∧
        CounterAt (rhiStep sharedBase s c) (cs ++ [c]) m := by
  have ho : c.isOpen = true := by simp [RhiCall.isOpen, hf]
  have hnc : c.exit 0 ≠ rhiSessionClose := by rw [hf]; decide
  rw [opens_snoc, if_pos ho] at hb
  have hn1 := hn.1
  have hcs : opens (cs ++ [c]) = opens cs + 1 := by rw [opens_snoc, if_pos ho]
  rw [rhiStep_open hf]
  rcases open_cases (c.exit 1) (c.exit 2) { s with mem := c.mem, heap := c.heap } with
    ⟨st, hst, hr⟩ | ⟨st, hmode, hp, hu, hr⟩ | ⟨hp, hr⟩
  · rw [hr]
    have hfail : (RhiHost.ret (st.code, { s with mem := c.mem, heap := c.heap })).enter 0
        ≠ Status.success.code := by
      rw [ret_enter_zero]; exact fun he => hst (Status.code_inj he)
    refine ⟨⟨fun _ he => absurd he hfail, fun _ he => absurd he hfail, fun hc => absurd hc hnc,
      fun hne => absurd hf hne⟩, n, ?_, by rw [hcs]; omega, hn.2⟩
    rw [observe_failed hfail]
    exact ha.of_same rfl rfl
  · rw [hr]
    have hnone : o.inUse = none := ha.inUse_none hu
    have hid : s.nextSessionId.toNat = n + 1 := by
      rw [hn.2]; exact UInt64.toNat_ofNat_of_lt' (by show n + 1 < 2 ^ 64; omega)
    have he1 : (RhiHost.ret (Status.success.code, RhiHost.startSession
        { s with mem := c.mem, heap := c.heap } (c.exit 2) st)).enter 1 = s.nextSessionId := rfl
    refine ⟨⟨fun _ _ _ => ⟨?_, ?_⟩, fun _ _ i hi => ?_, fun hc => absurd hc hnc,
      fun hne => absurd hf hne⟩, n + 1, ⟨?_, ?_, fun _ => ?_⟩, by rw [hcs]; omega, ?_⟩
    · rw [he1]
      intro h0
      rw [h0] at hid
      exact absurd hid (by simp)
    · rw [he1]
      intro hmem
      have := ha.issued _ hmem
      omega
    · rw [hnone] at hi
      exact absurd hi (by simp)
    · rw [observe_open (ret_enter_zero _) hf]
      simp only [hnone, if_true, he1]
      rfl
    · rw [observe_open (ret_enter_zero _) hf]
      intro i hi
      rcases List.mem_append.mp hi with h | h
      · exact (ha.issued i h).trans (by omega)
      · rw [List.mem_singleton.mp h, he1, hid]
    · exact le_of_eq hid
    · show s.nextSessionId + 1 = _
      rw [hn.2, ← UInt64.ofNat_one, ← UInt64.ofNat_add]
  · rw [hr]
    have huse : s.globals.sess.idInUse = true := by
      cases hu : s.globals.sess.idInUse with
      | true => rfl
      | false =>
        have := hinv.unconnected_iff.mpr hu
        rw [show s.globals.sess.protoState = _ from hp] at this
        exact absurd this (by decide)
    have hsome := ha.inUse_some huse
    have he1 : (RhiHost.ret (Status.success.code,
        RhiHost.reply2 { s with
            globals.sess.protoState := .connectionEstablished, mem := c.mem, heap := c.heap }
          s.globals.sess.sessionId Hss.connectionEstablished.code)).enter 1
        = s.globals.sess.sessionId := rfl
    refine ⟨⟨fun _ _ hno => ?_, fun _ _ i hi => ?_, fun hc => absurd hc hnc,
      fun hne => absurd hf hne⟩, n, ⟨?_, ?_, ha.current⟩, by rw [hcs]; omega, hn.2⟩
    · rw [hsome] at hno
      exact absurd hno (by simp)
    · rw [hsome] at hi
      exact he1.trans (Option.some.inj hi)
    · rw [observe_open (ret_enter_zero _) hf]
      simp only [hsome, reduceCtorEq, if_false]
      exact (if_pos huse).symm
    · rw [observe_open (ret_enter_zero _) hf]
      intro i hi
      rcases List.mem_append.mp hi with h | h
      · exact ha.issued i h
      · rw [List.mem_singleton.mp h]
        exact ha.current huse

/-- A call that is no OPEN leaves the counter where it was. -/
theorem CounterAt.of_not_open {s s' : RhiHost} {cs : List RhiCall} {c : RhiCall} {n : ℕ}
    (h : CounterAt s cs n) (hs : s'.nextSessionId = s.nextSessionId) :
    CounterAt s' (cs ++ [c]) n :=
  ⟨h.1.trans (by rw [opens_snoc]; omega), by rw [hs]; exact h.2⟩

/-- **CLOSE and the monitor.** -/
theorem close_identity (sharedBase : UInt64) {s : RhiHost} {o : Seen} {c : RhiCall}
    {cs : List RhiCall} {n : ℕ} (ha : Agrees s o n) (hn : CounterAt s cs n)
    (hf : c.exit 0 = rhiSessionClose) :
    IdentityOk o c s (rhiStep sharedBase s c) ∧
      ∃ m, Agrees (rhiStep sharedBase s c) (o.observe c (rhiStep sharedBase s c).enter) m ∧
        CounterAt (rhiStep sharedBase s c) (cs ++ [c]) m := by
  have hno : c.exit 0 ≠ rhiSessionOpen := by rw [hf]; decide
  have hforeign : o.inUse ≠ some (c.exit 1) →
      rhiStep sharedBase s c = RhiHost.ret (Status.invalidSessionId.code,
        { s with mem := c.mem, heap := c.heap }) := by
    intro hne
    have hcheck := close_foreign (s := { s with mem := c.mem, heap := c.heap })
      (ha.foreign_check hne)
    rw [rhiStep_close hf, hcheck]
  -- a CLOSE that succeeds passed the id check, so the monitor holds its id
  have hheld : (rhiStep sharedBase s c).enter 0 = Status.success.code →
      o.inUse = some (c.exit 1) := by
    intro hs
    by_contra hne
    rw [hforeign hne, ret_enter_zero] at hs
    exact absurd hs (show Status.invalidSessionId.code ≠ Status.success.code by decide)
  have huse : (rhiStep sharedBase s c).enter 0 = Status.success.code →
      o.inUse = some s.globals.sess.sessionId := by
    intro hs
    cases hu : s.globals.sess.idInUse with
    | true => exact ha.inUse_some hu
    | false => exact absurd ((hheld hs).symm.trans (ha.inUse_none hu)) (by simp)
  have hreply : (rhiStep sharedBase s c).enter 0 = Status.success.code →
      (rhiStep sharedBase s c).enter 1 = s.globals.sess.sessionId := by
    intro hs
    rw [rhiStep_close hf] at hs ⊢
    rcases close_cases (c.exit 1) { s with mem := c.mem, heap := c.heap } with
      ⟨st, hst, hr⟩ | ⟨-, -, hr⟩ | hr
    · rw [hr, ret_enter_zero] at hs
      exact absurd (Status.code_inj hs) hst
    · rw [hr]; rfl
    · rw [hr]; rfl
  refine ⟨⟨fun hc => absurd hc hno, fun _ hs i hi => ?_, fun _ hs => ?_, fun _ hne => ?_⟩,
    n, ?_, ?_⟩
  · rw [huse hs] at hi
    exact (hreply hs).trans (Option.some.inj hi)
  · rw [hheld hs]
    simp
  · rw [hforeign hne]
    exact ⟨ret_enter_zero _, rfl⟩
  · rw [rhiStep_close hf]
    rcases close_cases (c.exit 1) { s with mem := c.mem, heap := c.heap } with
      ⟨st, hst, hr⟩ | ⟨-, -, hr⟩ | hr
    · rw [hr, observe_failed (by rw [ret_enter_zero]; exact fun he => hst (Status.code_inj he))]
      exact ha.of_same rfl rfl
    · rw [hr, observe_close (ret_enter_zero _) hf]
      exact ha.of_same rfl rfl
    · rw [hr, observe_close (ret_enter_zero _) hf]
      exact ⟨rfl, ha.issued, fun hu => absurd hu Bool.false_ne_true⟩
  · refine hn.of_not_open ?_
    rw [rhiStep_close hf]
    rcases close_cases (c.exit 1) { s with mem := c.mem, heap := c.heap } with
      ⟨st, hst, hr⟩ | ⟨-, -, hr⟩ | hr <;>
    · rw [hr]; rfl

/-- A transfer leaves the id, the in-use flag and the counter alone. -/
theorem Transfer.same_identity {s : RhiHost} {r : Status × RhiHost} (h : Transfer s r) :
    r.2.globals.sess.idInUse = s.globals.sess.idInUse ∧
      r.2.globals.sess.sessionId = s.globals.sess.sessionId ∧
      r.2.nextSessionId = s.nextSessionId := by
  cases h with
  | refused _ hu => exact ⟨by rw [hu.1], by rw [hu.1], hu.2⟩
  | mismatch _ _ _ hg hn => exact ⟨by rw [hg], by rw [hg], hn⟩
  | moved _ hg hn _ _ => exact ⟨by rw [hg], by rw [hg], hn⟩

/-- **SEND, RECEIVE and the monitor**: from what the two handlers have in common. -/
theorem transfer_identity {s s' : RhiHost} {o : Seen} {c : RhiCall} {cs : List RhiCall} {n : ℕ}
    {r : Status × RhiHost} (ha : Agrees s o n) (hn : CounterAt s cs n)
    (hno : c.exit 0 ≠ rhiSessionOpen) (hnc : c.exit 0 ≠ rhiSessionClose)
    (hs' : s' = RhiHost.ret (r.1.code, r.2))
    (ht : Transfer { s with mem := c.mem, heap := c.heap } r)
    (hforeign : o.inUse ≠ some (c.exit 1) →
      r = (.invalidSessionId, { s with mem := c.mem, heap := c.heap })) :
    IdentityOk o c s s' ∧ ∃ m, Agrees s' (o.observe c s'.enter) m ∧ CounterAt s' (cs ++ [c]) m := by
  obtain ⟨hu, hid, hc⟩ := ht.same_identity
  subst hs'
  refine ⟨⟨fun h => absurd h hno, fun h => absurd h (by simp [hno, hnc]), fun h => absurd h hnc,
    fun _ hne => ?_⟩, n, ?_, hn.of_not_open hc⟩
  · rw [hforeign hne]
    exact ⟨ret_enter_zero _, rfl⟩
  · rw [observe_other hno hnc]
    exact ha.of_same hu hid

/-- **One session call and the monitor.** -/
theorem rhiStep_identity (sharedBase : UInt64) {s : RhiHost} {o : Seen} {c : RhiCall}
    {cs : List RhiCall} {n : ℕ} (hinv : SessInv s.globals) (ha : Agrees s o n)
    (hn : CounterAt s cs n) (hc : c.IsSession) (hb : opens (cs ++ [c]) < 2 ^ 64 - 1) :
    IdentityOk o c s (rhiStep sharedBase s c) ∧
      ∃ m, Agrees (rhiStep sharedBase s c) (o.observe c (rhiStep sharedBase s c).enter) m ∧
        CounterAt (rhiStep sharedBase s c) (cs ++ [c]) m := by
  rcases hc with hf | hf | hf | hf
  · exact open_identity sharedBase hinv ha hn hf hb
  · exact close_identity sharedBase ha hn hf
  · exact transfer_identity ha hn (by rw [hf]; decide) (by rw [hf]; decide) (rhiStep_send hf)
      (send_transfer _ _ _ _ _ _) fun hne => send_foreign _ _ _ _ (ha.foreign_check hne)
  · exact transfer_identity ha hn (by rw [hf]; decide) (by rw [hf]; decide) (rhiStep_receive hf)
      (receive_transfer _ _ _ _ _ _) fun hne => receive_foreign _ _ _ _ (ha.foreign_check hne)

/-! ## 3. Runs -/

/-- Along every run the handlers and the monitor agree. -/
theorem rhiRun_agrees (sharedBase : UInt64) (cs : List RhiCall) (hcs : ∀ c ∈ cs, c.IsSession)
    (hb : opens cs < 2 ^ 64 - 1) :
    SessInv (rhiRun sharedBase .init cs).globals ∧
      ∃ n, Agrees (rhiRun sharedBase .init cs) (seen sharedBase cs) n ∧
        CounterAt (rhiRun sharedBase .init cs) cs n := by
  induction cs using List.reverseRecOn with
  | nil => exact ⟨sessInv_init, 0, ⟨rfl, fun i hi => absurd hi (by simp [seen]),
      fun hu => absurd hu Bool.false_ne_true⟩, le_refl _, rfl⟩
  | append_singleton cs c ih =>
    have hle : opens cs ≤ opens (cs ++ [c]) := by rw [opens_snoc]; omega
    obtain ⟨hinv, n, ha, hn⟩ := ih (fun d hd => hcs d (List.mem_append_left _ hd)) (by omega)
    refine ⟨(rhiRun_inv sharedBase _ hcs (by omega)).1, ?_⟩
    rw [seen_snoc, rhiRun_snoc]
    exact (rhiStep_identity sharedBase hinv ha hn (hcs c (by simp)) hb).2

/-- **Session identity.**  Over every run of session calls with arbitrary arguments and fewer
than `2 ^ 64 - 1` OPEN calls, whatever session call comes next: an OPEN that starts a session
returns a non-zero id that no earlier OPEN returned; an OPEN or CLOSE that succeeds while a
session is in use reports that session's id, and a CLOSE succeeds only then; and a CLOSE, SEND
or RECEIVE carrying any id but the one in use -- the id in use is never 0 -- returns
`RHI_SESS_INVALID_SESSION_ID` and changes no session state. -/
theorem session_identity (sharedBase : UInt64) (cs : List RhiCall) (c : RhiCall)
    (hcs : ∀ d ∈ cs ++ [c], d.IsSession) (hb : opens (cs ++ [c]) < 2 ^ 64 - 1) :
    IdentityOk (seen sharedBase cs) c (rhiRun sharedBase .init cs)
        (rhiRun sharedBase .init (cs ++ [c])) ∧
      (seen sharedBase cs).inUse ≠ some 0 := by
  have hle : opens cs ≤ opens (cs ++ [c]) := by rw [opens_snoc]; omega
  obtain ⟨hinv, n, ha, hn⟩ :=
    rhiRun_agrees sharedBase cs (fun d hd => hcs d (List.mem_append_left _ hd)) (by omega)
  refine ⟨?_, fun h0 => ?_⟩
  · rw [rhiRun_snoc]
    exact (rhiStep_identity sharedBase hinv ha hn (hcs c (by simp)) hb).1
  · cases hu : (rhiRun sharedBase .init cs).globals.sess.idInUse with
    | false => exact absurd ((ha.inUse_none hu).symm.trans h0) (by simp)
    | true =>
      have hid := Option.some.inj ((ha.inUse_some hu).symm.trans h0)
      rw [hinv.inUse_iff.mpr hid] at hu
      exact absurd hu (by decide)

/-- Two sessions one after the other: the second gets a new id, and a SEND or CLOSE with the id
of the first is refused. -/
theorem session_identity_second_session :
    (rhiRun 0 .init ([openBlocking, closeSession 1] ++ [openBlocking])).enter 1
        ∉ (seen 0 [openBlocking, closeSession 1]).issued ∧
      (rhiRun 0 .init ([openBlocking, closeSession 1, openBlocking] ++ [closeSession 1])).enter 0
        = Status.invalidSessionId.code := by
  have hsess : ∀ d ∈ [openBlocking, closeSession 1, openBlocking] ++ [closeSession 1],
      d.IsSession := by
    intro d hd
    simp only [List.cons_append, List.nil_append, List.mem_cons, List.not_mem_nil, or_false] at hd
    rcases hd with rfl | rfl | rfl | rfl
    · exact Or.inl rfl
    · exact Or.inr (Or.inl rfl)
    · exact Or.inl rfl
    · exact Or.inr (Or.inl rfl)
  refine ⟨?_, ?_⟩
  · exact ((session_identity 0 [openBlocking, closeSession 1] openBlocking
      (fun d hd => hsess d (List.mem_append_left _ hd)) (by decide)).1.fresh rfl (by decide)
        (by decide)).2
  · exact ((session_identity 0 [openBlocking, closeSession 1, openBlocking] (closeSession 1)
      hsess (by decide)).1.foreign (by decide) (by decide)).1

end RmmAcs.Rhi
