/-
# Taking a physical device down: `val_host_pdev_teardown`

PDEV_DESTROY is accepted in one state, STOPPED, and a test can leave a device in any.  The teardown
goes through up to three phases -- out of a transitional state, through a stop that is already under
way, and a stop of its own -- and each drives the device with the communication loop and then asks
the RMM again which state it is in.

The guarantee is about ORDER, so it is read off the history: what the last PDEV_GET_STATE said when
PDEV_STOP and PDEV_DESTROY were issued.  The communication loop reads the state of `pdev_obj->pdev`
too, which may or may not be the device that is torn down; that does not matter, since every phase
ends with a read of its own.

A return of `none` is no return: the loop has not been left in so many rounds, or the page for the
communication could not be allocated and the next line writes through NULL.
-/
import RmmAcs.Dev.Communicate
import RmmAcs.Lib.Goto

namespace RmmAcs.Dev

open RmmAcs Lib Rmm

/-! ## 1. The function -/

def rmiPdevNew : UInt64 := 0
def rmiPdevReady : UInt8 := 3
def rmiPdevIdeResetting : UInt64 := 4
def rmiPdevCommunicating : UInt64 := 5
def rmiPdevStopping : UInt64 := 6
def rmiPdevStopped : UInt8 := 7

/-- `PAGE_SIZE`, and `VAL_HOST_PDEV_VCA_LEN_MAX`. -/
def devPageSize : UInt64 := 0x1000

/-- `pdev_obj`, the variable `state`, and what a communication changes. -/
structure PdevTear where
  comm : CommState
  pdevObj : PdevObj
  state : UInt64

/-- The labels are the returns. -/
abbrev PdevCode := Code PdevTear (Option UInt32)

def DevEnv.malloc (env : DevEnv) (alignment size : UInt64) (l : DevLog) : UInt64 × DevLog :=
  let addr := env.alloc l alignment size
  (addr, .alloc alignment size addr :: l)

/-- `args = val_host_rmi_...; if (args.x0) return VAL_ERROR;`. -/
def pdevRmi (env : DevEnv) (c : DevSmc) : PdevCode := fun s =>
  let (r, l) := env.call c s.comm.log
  (if r.x0 ≠ 0 then some (some 1) else none, { s with comm := { s.comm with log := l } })

/-- The same for PDEV_GET_STATE, with `state = args.x1`. -/
def readPdevState (env : DevEnv) (pdevPtr : UInt64) : PdevCode := fun s =>
  let (r, l) := env.call (.pdevGetState pdevPtr) s.comm.log
  let s := { s with comm := { s.comm with log := l } }
  if r.x0 ≠ 0 then (some (some 1), s) else (none, { s with state := r.x1 })

/-- `if (val_host_dev_communicate(NULL, pdev_obj, NULL, target)) return VAL_ERROR;`. -/
def drivePdev (env : DevEnv) (n : ℕ) (target : UInt8) : PdevCode := fun s =>
  match valHostDevCommunicate env 0 (some s.pdevObj) none target n s.comm with
  | (none, c) => (some none, { s with comm := c })
  | (some rc, c) => (if rc ≠ 0 then some (some 1) else none, { s with comm := c })

/-- `pdev_obj->vca = val_host_mem_alloc(PAGE_SIZE, VAL_HOST_PDEV_VCA_LEN_MAX); pdev_obj->vca_len = 0;`
and its check. -/
def allocVca (env : DevEnv) : PdevCode := fun s =>
  let (vca, l) := env.malloc devPageSize valHostPdevVcaLenMax s.comm.log
  let cache := { s.comm.cache with vca := { s.comm.cache.vca with len := 0 } }
  (if vca = 0 then some (some 1) else none,
    { s with comm := { s.comm with cache := cache, log := l } })

/-- `req_addr` and `resp_addr`. -/
def allocBuffer (env : DevEnv) : PdevCode := fun s =>
  let (addr, l) := env.malloc devPageSize devPageSize s.comm.log
  (if addr = 0 then some (some 1) else none, { s with comm := { s.comm with log := l } })

/-- `pdev_obj->dev_comm_data`: not checked, and written to at once. -/
def allocCommData (env : DevEnv) (pdevPtr : UInt64) : PdevCode := fun s =>
  let (data, l) := env.malloc devPageSize devPageSize s.comm.log
  (if data = 0 then some none else none,
    { s with comm := { s.comm with log := l }, pdevObj := ⟨pdevPtr, data⟩ })

/-- The body of `val_host_pdev_teardown` after its checks. -/
def pdevTeardownBody (env : DevEnv) (n : ℕ) (pdevPtr : UInt64) : PdevCode :=
  Code.block
    [ readPdevState env pdevPtr,
      Code.guarded (fun s => s.state == rmiPdevCommunicating || s.state == rmiPdevIdeResetting)
        (Code.block [drivePdev env n rmiPdevReady, readPdevState env pdevPtr]),
      Code.guarded (fun s => s.state == rmiPdevStopping)
        (Code.block [drivePdev env n rmiPdevStopped, readPdevState env pdevPtr]),
      Code.guarded (fun s => s.state != rmiPdevStopped.toUInt64)
        (Code.block
          [ Code.guarded (fun s => s.state == rmiPdevNew)
              (Code.block
                [allocVca env, allocBuffer env, allocBuffer env, allocCommData env pdevPtr]),
            pdevRmi env (.pdevStop pdevPtr),
            drivePdev env n rmiPdevStopped,
            readPdevState env pdevPtr,
            Code.guarded (fun s => s.state != rmiPdevStopped.toUInt64) (Code.jump (some 1)) ]),
      pdevRmi env (.pdevDestroy pdevPtr) ]

/-- `val_host_pdev_teardown`, with at most `n` rounds in each of its loops. -/
def valHostPdevTeardown (env : DevEnv) (n : ℕ) (pdevObj : Option PdevObj) (pdevPtr : UInt64)
    (c : CommState) : Option UInt32 × CommState :=
  match pdevObj with
  | none => (some 1, c)
  | some p =>
    if pdevPtr = 0 then (some 1, c)
    else
      match pdevTeardownBody env n pdevPtr ⟨c, p, 0⟩ with
      | (none, s) => (some 0, s.comm)
      | (some rc, s) => (rc, s.comm)

/-! ## 2. The order -/

/-- What the most recent PDEV_GET_STATE for a device reported. -/
def lastPdevState (pdevPtr : UInt64) : DevLog → Option UInt64
  | [] => none
  | .smc (.pdevGetState p) r :: l =>
    if p = pdevPtr then (if r.x0 = 0 then some r.x1 else none) else lastPdevState pdevPtr l
  | _ :: l => lastPdevState pdevPtr l

def Event.isPdevStop : Event → Bool
  | .smc (.pdevStop _) _ => true
  | _ => false

def Event.isPdevDestroy : Event → Bool
  | .smc (.pdevDestroy _) _ => true
  | _ => false

/-- **The order**: PDEV_DESTROY is issued when the last state was STOPPED, PDEV_STOP when it was
another one. -/
def PdevOrder (pdevPtr : UInt64) : DevLog → Prop
  | [] => True
  | e :: pre =>
    (e.isPdevDestroy = true → lastPdevState pdevPtr pre = some rmiPdevStopped.toUInt64) ∧
    (e.isPdevStop = true →
      ∃ st, lastPdevState pdevPtr pre = some st ∧ st ≠ rmiPdevStopped.toUInt64) ∧
    PdevOrder pdevPtr pre

/-- PDEV_DESTROY was issued and accepted. -/
def PdevDestroyed (pdevPtr : UInt64) (evs : DevLog) : Prop :=
  ∃ r, Event.smc (.pdevDestroy pdevPtr) r ∈ evs ∧ r.x0 = 0

/-- The events of the teardown before PDEV_DESTROY, with so many PDEV_STOPs. -/
structure PdevSoFar (pdevPtr : UInt64) (stops : ℕ) (evs : DevLog) : Prop where
  order : PdevOrder pdevPtr evs
  destroys : evs.countP Event.isPdevDestroy = 0
  stops : evs.countP Event.isPdevStop = stops

/-- What is known of every return but success. -/
structure PdevEnded (pdevPtr : UInt64) (evs : DevLog) : Prop where
  order : PdevOrder pdevPtr evs
  destroys : evs.countP Event.isPdevDestroy ≤ 1
  stops : evs.countP Event.isPdevStop ≤ 1

section Order

variable {pdevPtr : UInt64} {k : ℕ} {evs l₀ : DevLog}

/-- An event of another kind. -/
theorem PdevSoFar.other (h : PdevSoFar pdevPtr k evs) {e : Event} (hd : e.isPdevDestroy = false)
    (hs : e.isPdevStop = false) : PdevSoFar pdevPtr k (e :: evs) := by
  refine ⟨⟨fun he => ?_, fun he => ?_, h.order⟩, ?_, ?_⟩
  · exact absurd (hd.symm.trans he) (by decide)
  · exact absurd (hs.symm.trans he) (by decide)
  · rw [List.countP_cons_of_neg (by rw [hd]; decide)]
    exact h.destroys
  · rw [List.countP_cons_of_neg (by rw [hs]; decide)]
    exact h.stops

theorem PdevSoFar.ended (h : PdevSoFar pdevPtr k evs) (hk : k ≤ 1) : PdevEnded pdevPtr evs :=
  ⟨h.order, by rw [h.destroys]; exact Nat.zero_le 1, by rw [h.stops]; exact hk⟩

theorem PdevSoFar.not_destroyed (h : PdevSoFar pdevPtr k evs) : ¬ PdevDestroyed pdevPtr evs := by
  rintro ⟨r, hmem, -⟩
  exact absurd rfl (List.countP_eq_zero.mp h.destroys _ hmem)

theorem PdevSoFar.append (h : PdevSoFar pdevPtr k evs) {new : DevLog}
    (hnew : ∀ e ∈ new, e.isPdevDestroy = false ∧ e.isPdevStop = false) :
    PdevSoFar pdevPtr k (new ++ evs) := by
  induction new with
  | nil => exact h
  | cons e new ih =>
    have he := hnew e List.mem_cons_self
    exact (ih fun e' he' => hnew e' (List.mem_cons_of_mem _ he')).other he.1 he.2

/-- PDEV_STOP, from another state than STOPPED. -/
theorem PdevSoFar.stop (h : PdevSoFar pdevPtr 0 evs) {st : UInt64}
    (hlast : lastPdevState pdevPtr evs = some st) (hst : st ≠ rmiPdevStopped.toUInt64) (r : SmcRet) :
    PdevSoFar pdevPtr 1 (.smc (.pdevStop pdevPtr) r :: evs) := by
  refine ⟨⟨nofun, fun _ => ⟨st, hlast, hst⟩, h.order⟩, ?_, ?_⟩
  · rw [List.countP_cons_of_neg Bool.false_ne_true]
    exact h.destroys
  · rw [List.countP_cons_of_pos rfl, h.stops]

/-- PDEV_DESTROY, from STOPPED. -/
theorem PdevSoFar.destroy (h : PdevSoFar pdevPtr k evs) (hk : k ≤ 1)
    (hlast : lastPdevState pdevPtr evs = some rmiPdevStopped.toUInt64) (r : SmcRet) :
    PdevEnded pdevPtr (.smc (.pdevDestroy pdevPtr) r :: evs) := by
  refine ⟨⟨fun _ => hlast, nofun, h.order⟩, ?_, ?_⟩
  · rw [List.countP_cons_of_pos rfl, h.destroys]
  · rw [List.countP_cons_of_neg Bool.false_ne_true, h.stops]
    exact hk

/-- The only PDEV_DESTROY is the last event: whether the device is destroyed is its answer. -/
theorem PdevSoFar.destroyed_iff (h : PdevSoFar pdevPtr k evs) (r : SmcRet) :
    PdevDestroyed pdevPtr (.smc (.pdevDestroy pdevPtr) r :: evs) ↔ r.x0 = 0 := by
  constructor
  · rintro ⟨r', hmem, hr'⟩
    rcases List.mem_cons.mp hmem with heq | hmem
    · injection heq with _ heq
      rw [← heq]
      exact hr'
    · exact absurd ⟨r', hmem, hr'⟩ h.not_destroyed
  · exact fun hr => ⟨r, List.mem_cons_self, hr⟩

end Order

/-! ## 3. The phases -/

section Phases

variable {env : DevEnv} {n : ℕ} {pdevPtr : UInt64} {l₀ : DevLog} {k : ℕ}

/-- Before PDEV_DESTROY: the events after `l₀`, with `k` PDEV_STOPs among them. -/
def Before (pdevPtr : UInt64) (l₀ : DevLog) (k : ℕ) (s : PdevTear) : Prop :=
  ∃ evs, s.comm.log = evs ++ l₀ ∧ PdevSoFar pdevPtr k evs

/-- The variable `state` is what the last PDEV_GET_STATE reported. -/
def Known (pdevPtr : UInt64) (l₀ : DevLog) (k : ℕ) (s : PdevTear) : Prop :=
  ∃ evs, s.comm.log = evs ++ l₀ ∧ PdevSoFar pdevPtr k evs ∧
    lastPdevState pdevPtr evs = some s.state

/-- **What every return but success leaves.** -/
def Unfinished (pdevPtr : UInt64) (l₀ : DevLog) (rc : Option UInt32) (s : PdevTear) : Prop :=
  rc ≠ some 0 ∧ ∃ evs, s.comm.log = evs ++ l₀ ∧ PdevEnded pdevPtr evs ∧ ¬ PdevDestroyed pdevPtr evs

/-- And success. -/
def Finished (pdevPtr : UInt64) (l₀ : DevLog) (s : PdevTear) : Prop :=
  ∃ evs, s.comm.log = evs ++ l₀ ∧ PdevEnded pdevPtr evs ∧ PdevDestroyed pdevPtr evs

theorem Known.before {s : PdevTear} (h : Known pdevPtr l₀ k s) : Before pdevPtr l₀ k s := by
  obtain ⟨evs, hlog, hso, -⟩ := h
  exact ⟨evs, hlog, hso⟩

theorem Before.unfinished {s : PdevTear} (h : Before pdevPtr l₀ k s) (hk : k ≤ 1)
    {rc : Option UInt32} (hrc : rc ≠ some 0) : Unfinished pdevPtr l₀ rc s := by
  obtain ⟨evs, hlog, hso⟩ := h
  exact ⟨hrc, evs, hlog, hso.ended hk, hso.not_destroyed⟩

theorem readPdevState_triple (hk : k ≤ 1) :
    Code.Triple (Before pdevPtr l₀ k) (readPdevState env pdevPtr) (Known pdevPtr l₀ k)
      (Unfinished pdevPtr l₀) := by
  rintro s ⟨evs, hlog, hso⟩
  unfold readPdevState DevEnv.call
  generalize env.smc s.comm.log (.pdevGetState pdevPtr) = r
  dsimp only
  have hso' := hso.other (e := .smc (.pdevGetState pdevPtr) r) rfl rfl
  have hlog' : (.smc (.pdevGetState pdevPtr) r :: s.comm.log : DevLog) =
      (.smc (.pdevGetState pdevPtr) r :: evs) ++ l₀ := congrArg _ hlog
  by_cases hx0 : r.x0 ≠ 0
  · rw [if_pos hx0]
    exact Before.unfinished ⟨_, hlog', hso'⟩ hk one_ne_success
  · rw [if_neg hx0]
    refine ⟨_, hlog', hso', ?_⟩
    unfold lastPdevState
    rw [if_pos rfl, if_pos (not_not.mp hx0)]

/-- A communication issues neither PDEV_STOP nor PDEV_DESTROY. -/
theorem not_stop_of_ofComm {p : PdevObj} {e : Event} (he : e.OfComm ⟨0, p, none⟩) :
    e.isPdevDestroy = false ∧ e.isPdevStop = false := by
  cases e with
  | smc c r =>
    have hc : c = .pdevGetState p.pdev := he
    rw [hc]
    exact ⟨rfl, rfl⟩
  | communicate c enter r => exact ⟨rfl, rfl⟩
  | cache rc => exact ⟨rfl, rfl⟩
  | doe reqLen protocol rc respLen => exact ⟨rfl, rfl⟩
  | alloc alignment size addr => exact ⟨rfl, rfl⟩

theorem drivePdev_triple (target : UInt8) (hk : k ≤ 1) :
    Code.Triple (Before pdevPtr l₀ k) (drivePdev env n target) (Before pdevPtr l₀ k)
      (Unfinished pdevPtr l₀) := by
  rintro s ⟨evs, hlog, hso⟩
  obtain ⟨new, hnew, hcomm⟩ := communicate_events env 0 s.pdevObj none target n s.comm
  unfold drivePdev
  generalize valHostDevCommunicate env 0 (some s.pdevObj) none target n s.comm = r at hnew
  obtain ⟨rc, c⟩ := r
  have hafter : Before pdevPtr l₀ k { s with comm := c } := by
    refine ⟨new ++ evs, ?_, hso.append fun e he => not_stop_of_ofComm (hcomm e he)⟩
    rw [List.append_assoc, ← hlog]
    exact hnew
  cases rc with
  | none => exact hafter.unfinished hk (by decide)
  | some rc =>
    dsimp only
    by_cases hrc : rc ≠ 0
    · rw [if_pos hrc]
      exact hafter.unfinished hk one_ne_success
    · rw [if_neg hrc]
      exact hafter

/-- Ready for PDEV_STOP. -/
def ToStop (pdevPtr : UInt64) (l₀ : DevLog) (s : PdevTear) : Prop :=
  Known pdevPtr l₀ 0 s ∧ s.state ≠ rmiPdevStopped.toUInt64

/-- A request for memory, whatever it does to the objects. -/
theorem ToStop.alloc_exit {s s' : PdevTear} (h : ToStop pdevPtr l₀ s)
    (hlog : ∃ alignment size addr, s'.comm.log = .alloc alignment size addr :: s.comm.log)
    (hstate : s'.state = s.state) {b : Prop} [Decidable b] {rc : Option UInt32} (hrc : rc ≠ some 0) :
    Code.Exit (ToStop pdevPtr l₀) (Unfinished pdevPtr l₀) (if b then some rc else none, s') := by
  obtain ⟨⟨evs, hevs, hso, hlast⟩, hst⟩ := h
  obtain ⟨alignment, size, addr, hlog⟩ := hlog
  have hlog' : s'.comm.log = (.alloc alignment size addr :: evs) ++ l₀ := by
    rw [hlog, hevs]
    rfl
  have hso' := hso.other (e := .alloc alignment size addr) rfl rfl
  rw [← hstate] at hlast hst
  split
  · exact Before.unfinished ⟨_, hlog', hso'⟩ (Nat.zero_le 1) hrc
  · exact ⟨⟨_, hlog', hso', hlast⟩, hst⟩

/-- The pages of a device that was never set up. -/
theorem allocs_triple :
    Code.Triple (ToStop pdevPtr l₀)
      (Code.block [allocVca env, allocBuffer env, allocBuffer env, allocCommData env pdevPtr])
      (ToStop pdevPtr l₀) (Unfinished pdevPtr l₀) := by
  have hvca : Code.Triple (ToStop pdevPtr l₀) (allocVca env) (ToStop pdevPtr l₀)
      (Unfinished pdevPtr l₀) := by
    intro s hs
    unfold allocVca DevEnv.malloc
    refine hs.alloc_exit ?_ ?_ one_ne_success
    · exact ⟨_, _, _, rfl⟩
    · rfl
  have hbuffer : Code.Triple (ToStop pdevPtr l₀) (allocBuffer env) (ToStop pdevPtr l₀)
      (Unfinished pdevPtr l₀) := by
    intro s hs
    unfold allocBuffer DevEnv.malloc
    refine hs.alloc_exit ?_ ?_ one_ne_success
    · exact ⟨_, _, _, rfl⟩
    · rfl
  have hdata : Code.Triple (ToStop pdevPtr l₀) (allocCommData env pdevPtr) (ToStop pdevPtr l₀)
      (Unfinished pdevPtr l₀) := by
    intro s hs
    unfold allocCommData DevEnv.malloc
    refine hs.alloc_exit ?_ ?_ (by decide)
    · exact ⟨_, _, _, rfl⟩
    · rfl
  exact hvca.cons (hbuffer.cons (hbuffer.cons (hdata.cons Code.triple_nil)))

theorem pdevStop_triple :
    Code.Triple (ToStop pdevPtr l₀) (pdevRmi env (.pdevStop pdevPtr))
      (Before pdevPtr l₀ 1) (Unfinished pdevPtr l₀) := by
  rintro s ⟨⟨evs, hlog, hso, hlast⟩, hst⟩
  unfold pdevRmi DevEnv.call
  generalize env.smc s.comm.log (.pdevStop pdevPtr) = r
  dsimp only
  have hafter : Before pdevPtr l₀ 1
      { s with comm := { s.comm with log := .smc (.pdevStop pdevPtr) r :: s.comm.log } } :=
    ⟨_, congrArg _ hlog, hso.stop hlast hst r⟩
  by_cases hx0 : r.x0 ≠ 0
  · rw [if_pos hx0]
    exact hafter.unfinished (le_refl 1) one_ne_success
  · rw [if_neg hx0]
    exact hafter

/-- Ready for PDEV_DESTROY. -/
def ToDestroy (pdevPtr : UInt64) (l₀ : DevLog) (s : PdevTear) : Prop :=
  (∃ k ≤ 1, Known pdevPtr l₀ k s) ∧ s.state = rmiPdevStopped.toUInt64

theorem pdevDestroy_triple :
    Code.Triple (ToDestroy pdevPtr l₀) (pdevRmi env (.pdevDestroy pdevPtr)) (Finished pdevPtr l₀)
      (Unfinished pdevPtr l₀) := by
  rintro s ⟨⟨k, hk, evs, hlog, hso, hlast⟩, hst⟩
  rw [hst] at hlast
  unfold pdevRmi DevEnv.call
  generalize env.smc s.comm.log (.pdevDestroy pdevPtr) = r
  dsimp only
  have hended := hso.destroy hk hlast r
  have hdestroyed := hso.destroyed_iff r
  by_cases hx0 : r.x0 ≠ 0
  · rw [if_pos hx0]
    exact ⟨one_ne_success, _, congrArg _ hlog, hended, mt hdestroyed.mp hx0⟩
  · rw [if_neg hx0]
    exact ⟨_, congrArg _ hlog, hended, hdestroyed.mpr (not_not.mp hx0)⟩

/-- The first two phases: drive the device, and read its state again. -/
theorem phase_triple (b : PdevTear → Bool) (target : UInt8) :
    Code.Triple (Known pdevPtr l₀ 0)
      (Code.guarded b (Code.block [drivePdev env n target, readPdevState env pdevPtr]))
      (Known pdevPtr l₀ 0) (Unfinished pdevPtr l₀) := by
  refine Code.Triple.guarded (Code.Triple.cons (R := Before pdevPtr l₀ 0) ?_ ?_) fun _ hs _ => hs
  · exact (drivePdev_triple target (Nat.zero_le 1)).conseq (fun _ hs => hs.1.before)
      (fun _ hs => hs) fun _ _ hs => hs
  · exact (readPdevState_triple (Nat.zero_le 1)).cons Code.triple_nil

/-- The third phase: a stop of the teardown's own. -/
theorem stop_triple :
    Code.Triple (Known pdevPtr l₀ 0)
      (Code.guarded (fun s => s.state != rmiPdevStopped.toUInt64)
        (Code.block
          [ Code.guarded (fun s => s.state == rmiPdevNew)
              (Code.block
                [allocVca env, allocBuffer env, allocBuffer env, allocCommData env pdevPtr]),
            pdevRmi env (.pdevStop pdevPtr),
            drivePdev env n rmiPdevStopped,
            readPdevState env pdevPtr,
            Code.guarded (fun s => s.state != rmiPdevStopped.toUInt64) (Code.jump (some 1)) ]))
      (ToDestroy pdevPtr l₀) (Unfinished pdevPtr l₀) := by
  refine Code.Triple.guarded ?_ fun s hs hb => ⟨⟨0, Nat.zero_le 1, hs⟩, by simpa using hb⟩
  refine Code.Triple.conseq (P := ToStop pdevPtr l₀) ?_ (fun s hs => ⟨hs.1, by simpa using hs.2⟩)
    (fun _ hs => hs) fun _ _ hs => hs
  refine Code.Triple.cons (R := ToStop pdevPtr l₀) ?_ <| pdevStop_triple.cons <|
    (drivePdev_triple _ (le_refl 1)).cons <| (readPdevState_triple (le_refl 1)).cons <|
    Code.Triple.cons (R := ToDestroy pdevPtr l₀) ?_ Code.triple_nil
  · exact Code.Triple.guarded (allocs_triple.conseq (fun _ hs => hs.1) (fun _ hs => hs)
      fun _ _ hs => hs) fun _ hs _ => hs
  · refine Code.Triple.guarded ?_ fun s hs hb => ⟨⟨1, le_refl 1, hs⟩, by simpa using hb⟩
    exact Code.triple_jump fun s hs => hs.1.before.unfinished (le_refl 1) one_ne_success

theorem pdevTeardownBody_triple (env : DevEnv) (n : ℕ) (pdevPtr : UInt64) (l₀ : DevLog) :
    Code.Triple (Before pdevPtr l₀ 0) (pdevTeardownBody env n pdevPtr) (Finished pdevPtr l₀)
      (Unfinished pdevPtr l₀) :=
  (readPdevState_triple (Nat.zero_le 1)).cons <| (phase_triple _ _).cons <|
    (phase_triple _ _).cons <| stop_triple.cons <| pdevDestroy_triple.cons Code.triple_nil

end Phases

/-! ## 4. The teardown -/

/-- **The order of a teardown.**  For every sequence of answers, and any number of rounds in its
loops: PDEV_DESTROY is issued at most once, and only if the most recent PDEV_GET_STATE said STOPPED;
PDEV_STOP is issued at most once, and only if it said something else; and `VAL_SUCCESS` is returned
if and only if PDEV_DESTROY was issued and accepted. -/
theorem pdev_teardown_order (env : DevEnv) (n : ℕ) (pdevObj : Option PdevObj) (pdevPtr : UInt64)
    (c : CommState) :
    ∃ evs, (valHostPdevTeardown env n pdevObj pdevPtr c).2.log = evs ++ c.log ∧
      PdevOrder pdevPtr evs ∧
      evs.countP Event.isPdevDestroy ≤ 1 ∧
      evs.countP Event.isPdevStop ≤ 1 ∧
      ((valHostPdevTeardown env n pdevObj pdevPtr c).1 = some 0 ↔ PdevDestroyed pdevPtr evs) := by
  have hrefused : ∃ evs, c.log = evs ++ c.log ∧ PdevOrder pdevPtr evs ∧
      evs.countP Event.isPdevDestroy ≤ 1 ∧ evs.countP Event.isPdevStop ≤ 1 ∧
      ((some 1 : Option UInt32) = some 0 ↔ PdevDestroyed pdevPtr evs) :=
    ⟨[], rfl, trivial, Nat.zero_le 1, Nat.zero_le 1, nofun, fun ⟨_, he, _⟩ => nomatch he⟩
  cases pdevObj with
  | none => exact hrefused
  | some p =>
    unfold valHostPdevTeardown
    dsimp only
    by_cases hptr : pdevPtr = 0
    · rw [if_pos hptr]
      exact hrefused
    rw [if_neg hptr]
    have hstart : Before pdevPtr c.log 0 ⟨c, p, 0⟩ := ⟨[], rfl, trivial, rfl, rfl⟩
    have hbody := pdevTeardownBody_triple env n pdevPtr c.log _ hstart
    generalize pdevTeardownBody env n pdevPtr ⟨c, p, 0⟩ = r at hbody
    obtain ⟨l, s⟩ := r
    cases l with
    | none =>
      obtain ⟨evs, hlog, hended, hdestroyed⟩ := hbody
      exact ⟨evs, hlog, hended.order, hended.destroys, hended.stops, fun _ => hdestroyed,
        fun _ => rfl⟩
    | some rc =>
      obtain ⟨hrc, evs, hlog, hended, hdestroyed⟩ := hbody
      exact ⟨evs, hlog, hended.order, hended.destroys, hended.stops, fun h => absurd h hrc,
        fun h => absurd h hdestroyed⟩

end RmmAcs.Dev
