/-
# The events of `val_mp_supp.c`

An event is a counter `cnt` under a spinlock.  `send_event_common` adds to the counter inside
the lock; `val_wait_for_event` looks at the counter OUTSIDE the lock, sleeps while it is zero,
and takes one event off it inside the lock if the counter is still not zero by then.

Two levels.  In the upper one each spinlock-protected section is one step and the unlocked test
is a step of its own; any number of CPUs, each making any calls in any order, take these steps
in any interleaving.  There the counter is the ledger of the event: what was sent, less what was
received (`cnt_ledger`).  The lower level has the lock word and every load and store of the
counter as a step of its own, and refines the upper one (`lockStep_refines`), so the ledger holds
there too.

`dsbsy`, `sev` and `wfe` order and delay memory accesses and change no state: a CPU that finds
the counter at zero is a CPU that tests it again.
-/
import RmmAcs.Lib.Run

namespace RmmAcs.Event

open RmmAcs Lib

variable {Cpu : Type}

/-! ## 1. The sections as single steps -/

/-- Where a CPU is. -/
inductive Pc where
  | idle
  /-- in `send_event_common`, before its locked section -/
  | sending (inc : UInt32)
  /-- in the loop of `val_wait_for_event`, before the unlocked test -/
  | testing
  /-- in the loop, past the test, before the locked section -/
  | taking
deriving DecidableEq, Repr

/-- One event and the CPUs that use it. -/
structure State (Cpu : Type) where
  cnt : UInt32
  pc : Cpu → Pc

/-- `val_init_event`, no call made yet. -/
def State.init : State Cpu := ⟨0, fun _ => .idle⟩

def State.goto [DecidableEq Cpu] (s : State Cpu) (c : Cpu) (p : Pc) : State Cpu :=
  { s with pc := Function.update s.pc c p }

@[simp] theorem State.goto_cnt [DecidableEq Cpu] (s : State Cpu) (c : Cpu) (p : Pc) :
    (s.goto c p).cnt = s.cnt := rfl

/-- What a CPU does next, with what it finds. -/
inductive Act (Cpu : Type) where
  | callSend (c : Cpu) (inc : UInt32)
  | callWait (c : Cpu)
  /-- the locked section of `send_event_common` -/
  | send (c : Cpu) (inc : UInt32)
  /-- the unlocked test, `cnt` zero: `wfe` and around the loop -/
  | sleep (c : Cpu)
  /-- the unlocked test, `cnt` not zero -/
  | see (c : Cpu)
  /-- the locked section of the wait, the event still pending: the wait completes -/
  | take (c : Cpu)
  /-- the locked section of the wait, the event stolen: around the loop -/
  | miss (c : Cpu)
deriving DecidableEq, Repr

def step [DecidableEq Cpu] (s : State Cpu) : Act Cpu → Option (State Cpu)
  | .callSend c inc => if s.pc c = .idle then some (s.goto c (.sending inc)) else none
  | .callWait c => if s.pc c = .idle then some (s.goto c .testing) else none
  | .send c inc =>
    if s.pc c = .sending inc then some { s.goto c .idle with cnt := s.cnt + inc } else none
  | .sleep c => if s.pc c = .testing ∧ s.cnt = 0 then some (s.goto c .testing) else none
  | .see c => if s.pc c = .testing ∧ s.cnt ≠ 0 then some (s.goto c .taking) else none
  | .take c =>
    if s.pc c = .taking ∧ s.cnt ≠ 0 then some { s.goto c .idle with cnt := s.cnt - 1 } else none
  | .miss c => if s.pc c = .taking ∧ s.cnt = 0 then some (s.goto c .testing) else none

def Step [DecidableEq Cpu] (s : State Cpu) (a : Act Cpu) (s' : State Cpu) : Prop :=
  step s a = some s'

/-- How many events an act sends. -/
def Act.sends : Act Cpu → Nat
  | .send _ inc => inc.toNat
  | _ => 0

/-- How many waits an act completes. -/
def Act.completes : Act Cpu → Nat
  | .take _ => 1
  | _ => 0

/-- The sum of all `n` sent. -/
def sent (l : List (Act Cpu)) : Nat := (l.map Act.sends).sum

/-- The number of waits that have completed. -/
def completed (l : List (Act Cpu)) : Nat := (l.map Act.completes).sum

@[simp] theorem sent_snoc (l : List (Act Cpu)) (a : Act Cpu) :
    sent (l ++ [a]) = sent l + a.sends := by
  simp [sent]

@[simp] theorem completed_snoc (l : List (Act Cpu)) (a : Act Cpu) :
    completed (l ++ [a]) = completed l + a.completes := by
  simp [completed]

/-! ## 2. The ledger -/

variable [DecidableEq Cpu]

theorem sub_one_toNat {n : UInt32} (h : n ≠ 0) : (n - 1).toNat + 1 = n.toNat := by
  have hpos : 0 < n.toNat := Nat.pos_of_ne_zero fun h0 => h (UInt32.toNat_inj.mp h0)
  have hle : (1 : UInt32) ≤ n := UInt32.le_iff_toNat_le.mpr hpos
  rw [UInt32.toNat_sub_of_le _ _ hle]
  have h1 : (1 : UInt32).toNat = 1 := rfl
  omega

/-- A completed wait found the counter positive and took exactly one off it. -/
theorem take_cnt {s s' : State Cpu} {c : Cpu} (h : Step s (.take c) s') :
    s'.cnt.toNat + 1 = s.cnt.toNat := by
  simp only [Step, step, Option.ite_none_right_eq_some, Option.some.injEq] at h
  obtain ⟨⟨-, hne⟩, rfl⟩ := h
  exact sub_one_toNat hne

/-- **One step of the ledger.**  Every act moves the counter by what it sends and by the wait it
completes, as long as the sum still fits the counter. -/
theorem step_cnt {s s' : State Cpu} {a : Act Cpu} (h : Step s a s')
    (hfit : s.cnt.toNat + a.sends < 2 ^ 32) :
    s'.cnt.toNat + a.completes = s.cnt.toNat + a.sends := by
  cases a with
  | send c inc =>
    simp only [Step, step, Option.ite_none_right_eq_some, Option.some.injEq] at h
    obtain ⟨-, rfl⟩ := h
    have hadd : (s.cnt + inc).toNat = (s.cnt.toNat + inc.toNat) % 2 ^ 32 := UInt32.toNat_add _ _
    have hmod : (s.cnt.toNat + inc.toNat) % 2 ^ 32 = s.cnt.toNat + inc.toNat := Nat.mod_eq_of_lt hfit
    simp only [Act.completes, Act.sends]
    omega
  | take c => exact take_cnt h
  | _ =>
    simp only [Step, step, Option.ite_none_right_eq_some, Option.some.injEq] at h
    obtain ⟨-, rfl⟩ := h
    rfl

/-- **The ledger of a run.** -/
theorem run_cnt {s : State Cpu} {l : List (Act Cpu)} (h : Reach Step State.init l s)
    (hfit : sent l < 2 ^ 32) : s.cnt.toNat + completed l = sent l := by
  induction h with
  | nil => rfl
  | snoc hr hs ih =>
    rw [sent_snoc] at hfit ⊢
    rw [completed_snoc]
    have hprev := ih (by omega)
    have hstep := step_cnt hs (by omega)
    omega

/-! ## 3. The lock and the memory accesses -/

/-- Where a CPU is, at the level of single memory accesses. -/
inductive LockPc where
  | idle
  | sendLock (inc : UInt32)
  | sendLoad (inc : UInt32)
  | sendStore (inc v : UInt32)
  | test
  | waitLock
  | waitCheck
  | waitLoad
  | waitStore (v : UInt32)
  /-- holds the lock and is done with the counter; `again`: the wait's loop goes on -/
  | unlock (again : Bool)
deriving DecidableEq, Repr

/-- The event with its lock word. -/
structure LockState (Cpu : Type) where
  cnt : UInt32
  locked : Bool
  pc : Cpu → LockPc

def LockState.init : LockState Cpu := ⟨0, false, fun _ => .idle⟩

def LockState.goto (s : LockState Cpu) (c : Cpu) (p : LockPc) : LockState Cpu :=
  { s with pc := Function.update s.pc c p }

@[simp] theorem LockState.goto_locked (s : LockState Cpu) (c : Cpu) (p : LockPc) :
    (s.goto c p).locked = s.locked := rfl

inductive LockAct (Cpu : Type) where
  | callSend (c : Cpu) (inc : UInt32)
  | callWait (c : Cpu)
  | sendAcquire (c : Cpu) (inc : UInt32)
  | sendLoad (c : Cpu) (inc : UInt32)
  | sendStore (c : Cpu) (inc v : UInt32)
  | sleep (c : Cpu)
  | see (c : Cpu)
  | waitAcquire (c : Cpu)
  | checkGone (c : Cpu)
  | checkPending (c : Cpu)
  | waitLoad (c : Cpu)
  | waitStore (c : Cpu) (v : UInt32)
  | release (c : Cpu) (again : Bool)
deriving DecidableEq, Repr

/-- One access.  `pal_spin_lock` gets the lock only while the lock word is clear. -/
def lockStep (s : LockState Cpu) : LockAct Cpu → Option (LockState Cpu)
  | .callSend c inc => if s.pc c = .idle then some (s.goto c (.sendLock inc)) else none
  | .callWait c => if s.pc c = .idle then some (s.goto c .test) else none
  | .sendAcquire c inc =>
    if s.pc c = .sendLock inc ∧ s.locked = false then
      some { s.goto c (.sendLoad inc) with locked := true } else none
  | .sendLoad c inc =>
    if s.pc c = .sendLoad inc then some (s.goto c (.sendStore inc s.cnt)) else none
  | .sendStore c inc v =>
    if s.pc c = .sendStore inc v then some { s.goto c (.unlock false) with cnt := v + inc }
    else none
  | .sleep c => if s.pc c = .test ∧ s.cnt = 0 then some (s.goto c .test) else none
  | .see c => if s.pc c = .test ∧ s.cnt ≠ 0 then some (s.goto c .waitLock) else none
  | .waitAcquire c =>
    if s.pc c = .waitLock ∧ s.locked = false then
      some { s.goto c .waitCheck with locked := true } else none
  | .checkGone c =>
    if s.pc c = .waitCheck ∧ s.cnt = 0 then some (s.goto c (.unlock true)) else none
  | .checkPending c =>
    if s.pc c = .waitCheck ∧ s.cnt ≠ 0 then some (s.goto c .waitLoad) else none
  | .waitLoad c => if s.pc c = .waitLoad then some (s.goto c (.waitStore s.cnt)) else none
  | .waitStore c v =>
    if s.pc c = .waitStore v then some { s.goto c (.unlock false) with cnt := v - 1 } else none
  | .release c again =>
    if s.pc c = .unlock again then
      some { s.goto c (if again then .test else .idle) with locked := false } else none

def LockStep (s : LockState Cpu) (a : LockAct Cpu) (s' : LockState Cpu) : Prop :=
  lockStep s a = some s'

/-- Between lock and unlock. -/
def LockPc.inside : LockPc → Bool
  | .sendLoad _ | .sendStore _ _ | .waitCheck | .waitLoad | .waitStore _ | .unlock _ => true
  | .idle | .sendLock _ | .test | .waitLock => false

/-- What a CPU inside the section knows of the counter. -/
def LockPc.Knows (cnt : UInt32) : LockPc → Prop
  | .sendStore _ v => v = cnt
  | .waitLoad => cnt ≠ 0
  | .waitStore v => v = cnt ∧ cnt ≠ 0
  | .idle | .sendLock _ | .sendLoad _ | .test | .waitLock | .waitCheck | .unlock _ => True

/-- The lock word is set while someone is inside, only one CPU is, and what it has read is still
what the counter holds. -/
structure Guarded (s : LockState Cpu) : Prop where
  locked : ∀ c, (s.pc c).inside = true → s.locked = true
  exclusive : ∀ c c', (s.pc c).inside = true → (s.pc c').inside = true → c = c'
  knows : ∀ c, (s.pc c).Knows s.cnt

theorem LockPc.knows_of_outside {p : LockPc} (h : p.inside = false) (n : UInt32) :
    p.Knows n := by
  cases p with
  | sendStore _ _ | waitLoad | waitStore _ => exact absurd h Bool.noConfusion
  | _ => trivial

/-- **Only the CPU inside moves.**  A CPU may go inside when it is inside already or the lock is
free, and may change the counter only from inside. -/
theorem Guarded.move {s : LockState Cpu} (h : Guarded s) {c : Cpu} {p : LockPc} {cnt : UInt32}
    {locked : Bool} (hp : p.Knows cnt) (hcnt : cnt = s.cnt ∨ (s.pc c).inside = true)
    (hin : p.inside = true → (s.pc c).inside = true ∨ s.locked = false)
    (hl : locked = (p.inside || (!(s.pc c).inside && s.locked))) :
    Guarded ⟨cnt, locked, Function.update s.pc c p⟩ := by
  -- a CPU inside next to the moving one keeps it out
  have hout : ∀ c', c' ≠ c → (s.pc c').inside = true →
      (s.pc c).inside = false ∧ s.locked = true := by
    intro c' hne hc'
    refine ⟨?_, h.locked c' hc'⟩
    by_contra hc
    exact hne (h.exclusive c' c hc' (by simpa using hc))
  refine ⟨?_, ?_, ?_⟩
  · intro c' (hc' : (Function.update s.pc c p c').inside = true)
    by_cases hcc : c' = c
    · subst hcc
      rw [Function.update_self] at hc'
      simp [hl, hc']
    · rw [Function.update_of_ne hcc] at hc'
      obtain ⟨ho, hlk⟩ := hout c' hcc hc'
      simp [hl, ho, hlk]
  · intro c₁ c₂ (h₁ : (Function.update s.pc c p c₁).inside = true)
      (h₂ : (Function.update s.pc c p c₂).inside = true)
    have hself : ∀ c', c' ≠ c → (s.pc c').inside = true → p.inside = true → False := by
      intro c' hne hc' hpi
      obtain ⟨ho, hlk⟩ := hout c' hne hc'
      rcases hin hpi with hi | hi
      · simp [ho] at hi
      · simp [hlk] at hi
    by_cases e₁ : c₁ = c <;> by_cases e₂ : c₂ = c
    · rw [e₁, e₂]
    · subst e₁
      rw [Function.update_self] at h₁
      rw [Function.update_of_ne e₂] at h₂
      exact (hself c₂ e₂ h₂ h₁).elim
    · subst e₂
      rw [Function.update_self] at h₂
      rw [Function.update_of_ne e₁] at h₁
      exact (hself c₁ e₁ h₁ h₂).elim
    · rw [Function.update_of_ne e₁] at h₁
      rw [Function.update_of_ne e₂] at h₂
      exact h.exclusive c₁ c₂ h₁ h₂
  · intro c'
    change (Function.update s.pc c p c').Knows cnt
    by_cases hcc : c' = c
    · subst hcc
      rw [Function.update_self]
      exact hp
    · rw [Function.update_of_ne hcc]
      rcases hcnt with rfl | hci
      · exact h.knows c'
      · refine LockPc.knows_of_outside ?_ cnt
        by_contra hc'
        exact hcc (h.exclusive c' c (by simpa using hc') hci)

omit [DecidableEq Cpu] in
theorem Guarded.init : Guarded (LockState.init : LockState Cpu) := by
  constructor
  · intro c hc
    exact absurd hc (by simp [LockState.init, LockPc.inside])
  · intro c c' hc
    exact absurd hc (by simp [LockState.init, LockPc.inside])
  · intro c
    trivial

/-- **Every access keeps the lock's discipline.** -/
theorem Guarded.step {s s' : LockState Cpu} {a : LockAct Cpu} (h : Guarded s)
    (hs : LockStep s a s') : Guarded s' := by
  cases a with
  | callSend c inc | callWait c =>
    simp only [LockStep, lockStep, Option.ite_none_right_eq_some, Option.some.injEq] at hs
    obtain ⟨hpc, rfl⟩ := hs
    refine h.move trivial (.inl rfl) ?_ ?_ <;> simp [hpc, LockPc.inside]
  | sleep c | see c =>
    simp only [LockStep, lockStep, Option.ite_none_right_eq_some, Option.some.injEq] at hs
    obtain ⟨⟨hpc, -⟩, rfl⟩ := hs
    refine h.move trivial (.inl rfl) ?_ ?_ <;> simp [hpc, LockPc.inside]
  | sendAcquire c inc | waitAcquire c =>
    simp only [LockStep, lockStep, Option.ite_none_right_eq_some, Option.some.injEq] at hs
    obtain ⟨⟨hpc, hfree⟩, rfl⟩ := hs
    exact h.move trivial (.inl rfl) (fun _ => .inr hfree) (by simp [LockPc.inside])
  | sendLoad c inc =>
    simp only [LockStep, lockStep, Option.ite_none_right_eq_some, Option.some.injEq] at hs
    obtain ⟨hpc, rfl⟩ := hs
    have hin : (s.pc c).inside = true := by rw [hpc]; rfl
    exact h.move rfl (.inl rfl) (fun _ => .inl hin) (by simp [LockPc.inside, h.locked c hin])
  | waitLoad c =>
    simp only [LockStep, lockStep, Option.ite_none_right_eq_some, Option.some.injEq] at hs
    obtain ⟨hpc, rfl⟩ := hs
    have hin : (s.pc c).inside = true := by rw [hpc]; rfl
    have hne : s.cnt ≠ 0 := by simpa [hpc, LockPc.Knows] using h.knows c
    exact h.move ⟨rfl, hne⟩ (.inl rfl) (fun _ => .inl hin)
      (by simp [LockPc.inside, h.locked c hin])
  | checkGone c =>
    simp only [LockStep, lockStep, Option.ite_none_right_eq_some, Option.some.injEq] at hs
    obtain ⟨⟨hpc, -⟩, rfl⟩ := hs
    have hin : (s.pc c).inside = true := by rw [hpc]; rfl
    exact h.move trivial (.inl rfl) (fun _ => .inl hin) (by simp [LockPc.inside, h.locked c hin])
  | checkPending c =>
    simp only [LockStep, lockStep, Option.ite_none_right_eq_some, Option.some.injEq] at hs
    obtain ⟨⟨hpc, hne⟩, rfl⟩ := hs
    have hin : (s.pc c).inside = true := by rw [hpc]; rfl
    exact h.move hne (.inl rfl) (fun _ => .inl hin) (by simp [LockPc.inside, h.locked c hin])
  | sendStore c inc v | waitStore c v =>
    simp only [LockStep, lockStep, Option.ite_none_right_eq_some, Option.some.injEq] at hs
    obtain ⟨hpc, rfl⟩ := hs
    have hin : (s.pc c).inside = true := by rw [hpc]; rfl
    exact h.move trivial (.inr hin) (fun _ => .inl hin) (by simp [LockPc.inside, h.locked c hin])
  | release c again =>
    simp only [LockStep, lockStep, Option.ite_none_right_eq_some, Option.some.injEq] at hs
    obtain ⟨hpc, rfl⟩ := hs
    have hin : (s.pc c).inside = true := by rw [hpc]; rfl
    refine h.move ?_ (.inl rfl) (fun _ => .inl hin) ?_ <;>
      cases again <;> simp [hpc, LockPc.inside, LockPc.Knows]

/-! ## 4. The sections are atomic -/

/-- Where a CPU stands in the upper system: a section happens when the counter is stored, or
found empty. -/
def LockPc.abs : LockPc → Pc
  | .idle => .idle
  | .sendLock inc | .sendLoad inc | .sendStore inc _ => .sending inc
  | .test => .testing
  | .waitLock | .waitCheck | .waitLoad | .waitStore _ => .taking
  | .unlock again => if again then .testing else .idle

def LockState.abs (s : LockState Cpu) : State Cpu := ⟨s.cnt, fun c => (s.pc c).abs⟩

/-- What an access shows in the upper system. -/
def LockAct.vis : LockAct Cpu → Option (Act Cpu)
  | .callSend c inc => some (.callSend c inc)
  | .callWait c => some (.callWait c)
  | .sendStore c inc _ => some (.send c inc)
  | .sleep c => some (.sleep c)
  | .see c => some (.see c)
  | .checkGone c => some (.miss c)
  | .waitStore c _ => some (.take c)
  | _ => none

theorem LockState.abs_mk (cnt : UInt32) (locked : Bool) (pc : Cpu → LockPc) (c : Cpu)
    (p : LockPc) : (⟨cnt, locked, Function.update pc c p⟩ : LockState Cpu).abs =
      ⟨cnt, Function.update (fun c' => (pc c').abs) c p.abs⟩ := by
  simp only [LockState.abs, State.mk.injEq, true_and]
  funext c'
  by_cases h : c' = c
  · subst h
    rw [Function.update_self, Function.update_self]
  · rw [Function.update_of_ne h, Function.update_of_ne h]

/-- A silent access leaves its CPU where it stands. -/
theorem LockState.abs_silent {s : LockState Cpu} {c : Cpu} {p : LockPc} (locked : Bool)
    (h : p.abs = (s.pc c).abs) :
    (⟨s.cnt, locked, Function.update s.pc c p⟩ : LockState Cpu).abs = s.abs := by
  rw [LockState.abs_mk, h, Function.update_eq_self c (fun c' => (s.pc c').abs)]
  rfl

/-- **One access is one step above, or none.** -/
theorem LockState.abs_step {s s' : LockState Cpu} {a : LockAct Cpu} (h : Guarded s)
    (hs : LockStep s a s') :
    (a.vis = none ∧ s'.abs = s.abs) ∨ ∃ b, a.vis = some b ∧ Step s.abs b s'.abs := by
  cases a with
  | callSend c inc | callWait c =>
    simp only [LockStep, lockStep, Option.ite_none_right_eq_some, Option.some.injEq] at hs
    obtain ⟨hpc, rfl⟩ := hs
    have hup : s.abs.pc c = .idle := congrArg LockPc.abs hpc
    refine .inr ⟨_, rfl, ?_⟩
    rw [LockState.goto, LockState.abs_mk, Step, Event.step, if_pos hup]
    rfl
  | sleep c =>
    simp only [LockStep, lockStep, Option.ite_none_right_eq_some, Option.some.injEq] at hs
    obtain ⟨⟨hpc, hcnt⟩, rfl⟩ := hs
    have hup : s.abs.pc c = .testing ∧ s.abs.cnt = 0 := ⟨congrArg LockPc.abs hpc, hcnt⟩
    refine .inr ⟨_, rfl, ?_⟩
    rw [LockState.goto, LockState.abs_mk, Step, Event.step, if_pos hup]
    rfl
  | see c =>
    simp only [LockStep, lockStep, Option.ite_none_right_eq_some, Option.some.injEq] at hs
    obtain ⟨⟨hpc, hcnt⟩, rfl⟩ := hs
    have hup : s.abs.pc c = .testing ∧ s.abs.cnt ≠ 0 := ⟨congrArg LockPc.abs hpc, hcnt⟩
    refine .inr ⟨_, rfl, ?_⟩
    rw [LockState.goto, LockState.abs_mk, Step, Event.step, if_pos hup]
    rfl
  | checkGone c =>
    simp only [LockStep, lockStep, Option.ite_none_right_eq_some, Option.some.injEq] at hs
    obtain ⟨⟨hpc, hcnt⟩, rfl⟩ := hs
    have hup : s.abs.pc c = .taking ∧ s.abs.cnt = 0 := ⟨congrArg LockPc.abs hpc, hcnt⟩
    refine .inr ⟨_, rfl, ?_⟩
    rw [LockState.goto, LockState.abs_mk, Step, Event.step, if_pos hup]
    rfl
  | sendStore c inc v =>
    simp only [LockStep, lockStep, Option.ite_none_right_eq_some, Option.some.injEq] at hs
    obtain ⟨hpc, rfl⟩ := hs
    have hv : v = s.cnt := by simpa [hpc, LockPc.Knows] using h.knows c
    have hup : s.abs.pc c = .sending inc := congrArg LockPc.abs hpc
    refine .inr ⟨_, rfl, ?_⟩
    rw [LockState.goto, LockState.abs_mk, Step, Event.step, if_pos hup, hv]
    rfl
  | waitStore c v =>
    simp only [LockStep, lockStep, Option.ite_none_right_eq_some, Option.some.injEq] at hs
    obtain ⟨hpc, rfl⟩ := hs
    obtain ⟨hv, hne⟩ : v = s.cnt ∧ s.cnt ≠ 0 := by simpa [hpc, LockPc.Knows] using h.knows c
    have hup : s.abs.pc c = .taking ∧ s.abs.cnt ≠ 0 := ⟨congrArg LockPc.abs hpc, hne⟩
    refine .inr ⟨_, rfl, ?_⟩
    rw [LockState.goto, LockState.abs_mk, Step, Event.step, if_pos hup, hv]
    rfl
  | sendAcquire c inc | waitAcquire c | checkPending c =>
    simp only [LockStep, lockStep, Option.ite_none_right_eq_some, Option.some.injEq] at hs
    obtain ⟨⟨hpc, -⟩, rfl⟩ := hs
    simp only [LockState.goto]
    refine .inl ⟨rfl, LockState.abs_silent _ ?_⟩
    rw [hpc]
    rfl
  | sendLoad c inc | waitLoad c =>
    simp only [LockStep, lockStep, Option.ite_none_right_eq_some, Option.some.injEq] at hs
    obtain ⟨hpc, rfl⟩ := hs
    simp only [LockState.goto]
    refine .inl ⟨rfl, LockState.abs_silent _ ?_⟩
    rw [hpc]
    rfl
  | release c again =>
    simp only [LockStep, lockStep, Option.ite_none_right_eq_some, Option.some.injEq] at hs
    obtain ⟨hpc, rfl⟩ := hs
    simp only [LockState.goto]
    refine .inl ⟨rfl, LockState.abs_silent _ ?_⟩
    rw [hpc]
    cases again <;> rfl

/-- **The lock makes the sections atomic.**  What a run of single accesses shows is a run of the
upper system. -/
theorem lockStep_refines {s : LockState Cpu} {l : List (LockAct Cpu)}
    (h : Reach LockStep LockState.init l s) :
    Reach Step State.init (l.filterMap LockAct.vis) s.abs :=
  h.refines LockState.abs LockAct.vis Guarded.init (fun _ _ _ => Guarded.step)
    (fun _ _ _ => LockState.abs_step)

/-- **Events are neither lost nor duplicated.**  At every moment of every interleaving in which
fewer than `2^32` events were sent, the counter is what was sent less the waits that have
completed; no wait has completed without a matching send, and none that completes next can wrap
the counter below zero.  The same ledger holds where the sections are not atomic, but made of single
accesses under the lock. -/
theorem cnt_ledger :
    (∀ (s : State Cpu) l, Reach Step State.init l s → sent l < 2 ^ 32 →
      s.cnt.toNat = sent l - completed l ∧ completed l ≤ sent l ∧
        ∀ c s', Step s (.take c) s' → s'.cnt.toNat + 1 = s.cnt.toNat) ∧
    ∀ (s : LockState Cpu) l, Reach LockStep LockState.init l s →
      sent (l.filterMap LockAct.vis) < 2 ^ 32 →
      s.cnt.toNat + completed (l.filterMap LockAct.vis) = sent (l.filterMap LockAct.vis) := by
  refine ⟨fun s l h hfit => ?_, fun s l h hfit => run_cnt (lockStep_refines h) hfit⟩
  have hrun := run_cnt h hfit
  exact ⟨by omega, by omega, fun c s' => take_cnt⟩

/-- Two CPUs race for the one event a third has sent; one of them goes back to sleep. -/
def racing : List (Act (Fin 3)) :=
  [.callWait 0, .callWait 1, .sleep 0, .callSend 2 1, .send 2 1, .see 0, .see 1, .take 1, .miss 0,
    .sleep 0]

theorem cnt_ledger_racing :
    ∃ s : State (Fin 3), Reach Step State.init racing s ∧ sent racing < 2 ^ 32 ∧
      s.cnt.toNat = sent racing - completed racing := by
  have hruns : (racing.foldlM step State.init).isSome = true := by decide
  obtain ⟨s, hs⟩ := Option.isSome_iff_exists.mp hruns
  have hreach : Reach Step State.init racing s := Reach.of_foldlM hs
  exact ⟨s, hreach, by decide, (cnt_ledger.1 s racing hreach (by decide)).1⟩

end RmmAcs.Event
