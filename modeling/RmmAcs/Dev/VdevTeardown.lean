/-
# Taking a virtual device down: `val_host_vdev_teardown`

The teardown unmaps what the device has in the realm's address space, unlocks the device if it is
locked, and destroys it.  The answer a caller wants is whether the device is GONE: a test that goes
on believing so will take the realm and the physical device down with the virtual one still attached.

If VDEV_UNLOCK is refused, or the communication after it fails, the function falls back: it reads the
state once more and destroys the device if it is in error.  What follows is `return VAL_SUCCESS;`
without a condition.  A device that is still LOCKED is left as it is and reported as gone, and a
device that is destroyed on this path leaves the count of its regions as it was; the path that does
not fall back sets the count to 0 first.  So the guarantee holds exactly of the calls that do not fall
back this far: `vdev_teardown_honest_iff`.
-/
import RmmAcs.Dev.Communicate
import RmmAcs.Lib.Goto

namespace RmmAcs.Dev

open RmmAcs Lib Rmm

/-! ## 1. The function -/

def rmiVdevUnlocked : UInt8 := 1
def rmiVdevLocked : UInt64 := 2
def rmiVdevStarted : UInt64 := 3
def rmiAssignedDev : UInt64 := 3

/-- `VAL_RTT_MAX_LEVEL` and `PAGE_SIZE`. -/
def vdevMapLevel : UInt64 := 3
def vdevPageSize : UInt64 := 0x1000

/-- An entry of `dev_granules`. -/
structure DevGranules where
  ipa : UInt64
  size : UInt64

/-- The fields of `val_host_realm_ts` a teardown reads, and the count it resets. -/
structure DevRealm where
  rd : UInt64
  devGranules : ℕ → DevGranules
  devGranulesMappedCount : UInt64

/-- The realm, what a communication changes, and the variable `ipa`. -/
structure VdevTear where
  comm : CommState
  realm : DevRealm
  ipa : UInt64

/-- How the function is left before its end: by a return, or for the block that stands after the
refused VDEV_UNLOCK and once more, word for word, after the failed communication. -/
inductive TearExit where
  | ret (rc : Option UInt32)
  | fallback
deriving DecidableEq

abbrev VdevCode := Code VdevTear TearExit

def VdevTear.withLog (s : VdevTear) (l : DevLog) : VdevTear :=
  { s with comm := { s.comm with log := l } }

/-- One page of a region. -/
def vdevUnmapPage (env : DevEnv) : VdevCode := fun s =>
  let (rtte, l) := env.call (.rttReadEntry s.realm.rd s.ipa vdevMapLevel) s.comm.log
  if rtte.x0 ≠ 0 then (some (.ret (some 1)), s.withLog l)
  else if rtte.x2 = rmiAssignedDev then
    let (args, l) := env.call (.vdevUnmap s.realm.rd s.ipa vdevMapLevel) l
    if args.x0 ≠ 0 then (some (.ret (some 1)), s.withLog l)
    else (none, { s.withLog l with ipa := s.ipa + vdevPageSize })
  else (none, { s.withLog l with ipa := s.ipa + vdevPageSize })

/-- `while (ipa < top)` takes one round for each page, or none if `top` wraps: `pages_end`. -/
def vdevUnmapPages (env : DevEnv) (g : DevGranules) : VdevCode :=
  Code.whileLoop (fun s => s.ipa < g.ipa + g.size) (vdevUnmapPage env)
    (g.size.toNat / vdevPageSize.toNat)

/-- One tracked region. -/
def vdevUnmapRegion (env : DevEnv) (i : ℕ) : VdevCode := fun s =>
  let g := s.realm.devGranules i
  Code.block
    [ Code.guarded (fun _ => g.size == 0 || g.size % vdevPageSize != 0)
        (Code.jump (.ret (some 1))),
      Code.act (fun s => { s with ipa := g.ipa }),
      vdevUnmapPages env g ] s

/-- VDEV_UNLOCK and the communication after it. -/
def vdevUnlock (env : DevEnv) (n : ℕ) (p : PdevObj) (v : VdevObj) : VdevCode := fun s =>
  let (args, l) := env.call (.vdevUnlock s.realm.rd v.pdev v.vdev) s.comm.log
  if args.x0 ≠ 0 then (some .fallback, s.withLog l)
  else
    match valHostDevCommunicate env s.realm.rd (some p) (some v) rmiVdevUnlocked n
      { s.comm with log := l } with
    | (none, c) => (some (.ret none), { s with comm := c })
    | (some rc, c) => (if rc ≠ 0 then some .fallback else none, { s with comm := c })

/-- The state of the device decides whether it has to be unlocked. -/
def vdevUnlockIfLocked (env : DevEnv) (n : ℕ) (p : PdevObj) (v : VdevObj) : VdevCode := fun s =>
  let (args, l) := env.call (.vdevGetState v.vdev) s.comm.log
  if args.x0 ≠ 0 then (some (.ret (some 1)), s.withLog l)
  else if args.x1 = rmiVdevLocked ∨ args.x1 = rmiVdevStarted then
    vdevUnlock env n p v (s.withLog l)
  else (none, s.withLog l)

def vdevDestroy (env : DevEnv) (v : VdevObj) : VdevCode := fun s =>
  let (args, l) := env.call (.vdevDestroy s.realm.rd v.pdev v.vdev) s.comm.log
  (if args.x0 ≠ 0 then some (.ret (some 1)) else none, s.withLog l)

/-- The body of `val_host_vdev_teardown` after its checks, up to the fallback. -/
def vdevTeardownBody (env : DevEnv) (n : ℕ) (p : PdevObj) (v : VdevObj) : VdevCode :=
  Code.block
    [ Code.forTo (fun s => s.realm.devGranulesMappedCount.toNat) (vdevUnmapRegion env),
      vdevUnlockIfLocked env n p v,
      Code.act (fun s => { s with realm := { s.realm with devGranulesMappedCount := 0 } }),
      vdevDestroy env v ]

/-- The fallback. -/
def vdevFallback (env : DevEnv) (v : VdevObj) (s : VdevTear) : UInt32 × VdevTear :=
  let (args, l) := env.call (.vdevGetState v.vdev) s.comm.log
  if args.x0 ≠ 0 then (1, s.withLog l)
  else if args.x1 = rmiVdevError then
    let (args, l) := env.call (.vdevDestroy s.realm.rd v.pdev v.vdev) l
    (if args.x0 ≠ 0 then 1 else 0, s.withLog l)
  else (0, s.withLog l)

/-- What the caller sees: `none` as a return code is no return. -/
structure VdevTorn where
  rc : Option UInt32
  realm : Option DevRealm
  comm : CommState

/-- The function after its checks. -/
def vdevTeardownFrom (env : DevEnv) (n : ℕ) (p : PdevObj) (v : VdevObj) (s : VdevTear) : VdevTorn :=
  match vdevTeardownBody env n p v s with
  | (none, s) => ⟨some 0, some s.realm, s.comm⟩
  | (some (.ret rc), s) => ⟨rc, some s.realm, s.comm⟩
  | (some .fallback, s) =>
    let (rc, s) := vdevFallback env v s
    ⟨some rc, some s.realm, s.comm⟩

/-- `val_host_vdev_teardown`, with at most `n` rounds in its communication. -/
def valHostVdevTeardown (env : DevEnv) (n : ℕ) (realm : Option DevRealm) (pdevObj : Option PdevObj)
    (vdevObj : Option VdevObj) (c : CommState) : VdevTorn :=
  match vdevObj with
  | none => ⟨some 0, realm, c⟩
  | some v =>
    if v.vdev = 0 then ⟨some 0, realm, c⟩
    else
      match realm, pdevObj with
      | some r, some p =>
        if v.pdev = 0 then ⟨some 1, realm, c⟩ else vdevTeardownFrom env n p v ⟨c, r, 0⟩
      | _, _ => ⟨some 1, realm, c⟩

/-! ## 2. What success should mean -/

/-- READ_ENTRY said that a page is mapped to the device. -/
def ReportedAssigned (rd ipa level : UInt64) (e : Event) : Prop :=
  ∃ r, e = .smc (.rttReadEntry rd ipa level) r ∧ r.x0 = 0 ∧ r.x2 = rmiAssignedDev

/-- **Every page that was reported has been unmapped since.** -/
def AllUnmapped (evs : DevLog) : Prop :=
  ∀ after e before rd ipa level, evs = after ++ e :: before → ReportedAssigned rd ipa level e →
    ∃ r, Event.smc (.vdevUnmap rd ipa level) r ∈ after ∧ r.x0 = 0

/-- **The device is gone**: VDEV_DESTROY was accepted, and what had been reported before it had been
unmapped by then. -/
def VdevDestroyed (rd : UInt64) (v : VdevObj) (evs : DevLog) : Prop :=
  ∃ after r before, evs = after ++ .smc (.vdevDestroy rd v.pdev v.vdev) r :: before ∧ r.x0 = 0 ∧
    AllUnmapped before

/-- **An honest teardown**: if it returns `VAL_SUCCESS` then the device is gone, and no region is
tracked any more. -/
def Honest (realm : Option DevRealm) (v : VdevObj) (c : CommState) (t : VdevTorn) : Prop :=
  t.rc = some 0 → ∃ rm rm' evs, realm = some rm ∧ t.realm = some rm' ∧
    t.comm.log = evs ++ c.log ∧ VdevDestroyed rm.rd v evs ∧ rm'.devGranulesMappedCount = 0

/-- VDEV_DESTROY, of whichever device. -/
def Event.isVdevDestroy : Event → Bool
  | .smc (.vdevDestroy _ _ _) _ => true
  | _ => false

/-- The events of a teardown up to its VDEV_DESTROY. -/
structure VdevSoFar (evs : DevLog) : Prop where
  unmapped : AllUnmapped evs
  kept : ∀ e ∈ evs, e.isVdevDestroy = false

section SoFar

variable {evs : DevLog} {v : VdevObj} {rd : UInt64}

theorem vdevSoFar_nil : VdevSoFar [] := by
  refine ⟨fun after e before rd ipa level h => ?_, fun e he => nomatch he⟩
  exact absurd h.symm (by simp)

/-- An event that reports nothing. -/
theorem AllUnmapped.cons {e : Event} (h : AllUnmapped evs)
    (he : ∀ rd ipa level, ¬ ReportedAssigned rd ipa level e) : AllUnmapped (e :: evs) := by
  intro after e' before rd ipa level hsplit hreported
  cases after with
  | nil =>
    rw [List.nil_append] at hsplit
    injection hsplit with heq _
    rw [← heq] at hreported
    exact absurd hreported (he rd ipa level)
  | cons a after =>
    rw [List.cons_append] at hsplit
    injection hsplit with _ hsplit
    obtain ⟨r, hmem, hr⟩ := h after e' before rd ipa level hsplit hreported
    exact ⟨r, List.mem_cons_of_mem _ hmem, hr⟩

/-- A page that is reported and unmapped at once. -/
theorem AllUnmapped.page (h : AllUnmapped evs) {ipa level : UInt64} (q : SmcRet) {r : SmcRet}
    (hr : r.x0 = 0) :
    AllUnmapped (.smc (.vdevUnmap rd ipa level) r :: .smc (.rttReadEntry rd ipa level) q :: evs) := by
  intro after e before rd' ipa' level' hsplit hreported
  match after with
  | [] =>
    rw [List.nil_append] at hsplit
    injection hsplit with heq _
    obtain ⟨q', hq', -⟩ := hreported
    rw [← heq] at hq'
    nomatch hq'
  | [a] =>
    rw [List.cons_append, List.nil_append] at hsplit
    injection hsplit with ha hsplit
    injection hsplit with heq _
    obtain ⟨q', hq', -⟩ := hreported
    rw [← heq] at hq'
    injection hq' with hcmd _
    injection hcmd with hrd hipa hlevel
    rw [← hrd, ← hipa, ← hlevel, ← ha]
    exact ⟨r, List.mem_cons_self, hr⟩
  | a :: b :: after =>
    rw [List.cons_append, List.cons_append] at hsplit
    injection hsplit with _ hsplit
    injection hsplit with _ hsplit
    obtain ⟨r', hmem, hr'⟩ := h after e before rd' ipa' level' hsplit hreported
    exact ⟨r', List.mem_cons_of_mem _ (List.mem_cons_of_mem _ hmem), hr'⟩

theorem VdevSoFar.cons {e : Event} (h : VdevSoFar evs)
    (he : ∀ rd ipa level, ¬ ReportedAssigned rd ipa level e) (hkept : e.isVdevDestroy = false) :
    VdevSoFar (e :: evs) := by
  refine ⟨h.unmapped.cons he, fun e' he' => ?_⟩
  rcases List.mem_cons.mp he' with rfl | he'
  · exact hkept
  · exact h.kept e' he'

/-- A command other than READ_ENTRY and VDEV_DESTROY. -/
theorem VdevSoFar.smc (h : VdevSoFar evs) {c : DevSmc} (r : SmcRet)
    (hread : ∀ rd ipa level, c ≠ .rttReadEntry rd ipa level)
    (hkept : (Event.smc c r).isVdevDestroy = false) : VdevSoFar (.smc c r :: evs) := by
  refine h.cons ?_ hkept
  rintro rd ipa level ⟨r', heq, -⟩
  injection heq with hc _
  exact hread rd ipa level hc

theorem VdevSoFar.append (h : VdevSoFar evs) {new : DevLog}
    (hnew : ∀ e ∈ new, (∀ rd ipa level, ¬ ReportedAssigned rd ipa level e) ∧
      e.isVdevDestroy = false) : VdevSoFar (new ++ evs) := by
  induction new with
  | nil => exact h
  | cons e new ih =>
    have he := hnew e List.mem_cons_self
    exact (ih fun e' he' => hnew e' (List.mem_cons_of_mem _ he')).cons he.1 he.2

/-- A communication neither asks about a page nor destroys a device. -/
theorem comm_reports_nothing {p : PdevObj} {e : Event} (he : e.OfComm ⟨rd, p, some v⟩) :
    (∀ rd ipa level, ¬ ReportedAssigned rd ipa level e) ∧ e.isVdevDestroy = false := by
  refine ⟨?_, ?_⟩
  · rintro rd' ipa level ⟨r, rfl, -⟩
    nomatch he
  · cases e with
    | smc c r =>
      have hc : c = .vdevGetState v.vdev := he
      rw [hc]
      rfl
    | _ => rfl

/-- The device is gone after the VDEV_DESTROY that follows. -/
theorem VdevSoFar.destroyed (h : VdevSoFar evs) {r : SmcRet} (hr : r.x0 = 0) :
    VdevDestroyed rd v (.smc (.vdevDestroy rd v.pdev v.vdev) r :: evs) :=
  ⟨[], r, evs, rfl, hr, h.unmapped⟩

theorem VdevSoFar.not_destroyed (h : VdevSoFar evs) : ¬ VdevDestroyed rd v evs := by
  rintro ⟨after, r, before, heq, -⟩
  have hmem : Event.smc (.vdevDestroy rd v.pdev v.vdev) r ∈ evs := by
    rw [heq]
    exact List.mem_append_right _ List.mem_cons_self
  exact Bool.false_ne_true (h.kept _ hmem).symm

end SoFar

/-! ## 3. The loops -/

section Loops

variable {env : DevEnv} {n : ℕ} {p : PdevObj} {v : VdevObj} {l₀ : DevLog} {rm : DevRealm}

/-- Before VDEV_DESTROY: the events after `l₀`, and the realm as it was. -/
def Waiting (l₀ : DevLog) (rm : DevRealm) (s : VdevTear) : Prop :=
  ∃ evs, s.comm.log = evs ++ l₀ ∧ VdevSoFar evs ∧ s.realm = rm

/-- What is known where the body is left: it does not return `VAL_SUCCESS`, and the fallback finds
the device still there. -/
def LeftAt (l₀ : DevLog) (rm : DevRealm) : TearExit → VdevTear → Prop
  | .ret rc, _ => rc ≠ some 0
  | .fallback, s => Waiting l₀ rm s

theorem vdevUnmapPage_triple :
    Code.Triple (Waiting l₀ rm) (vdevUnmapPage env) (Waiting l₀ rm) (LeftAt l₀ rm) := by
  rintro s ⟨evs, hlog, hso, hrm⟩
  unfold vdevUnmapPage DevEnv.call
  dsimp only
  generalize env.smc s.comm.log (.rttReadEntry s.realm.rd s.ipa vdevMapLevel) = rtte
  by_cases hx0 : rtte.x0 ≠ 0
  · rw [if_pos hx0]
    exact one_ne_success
  rw [if_neg hx0]
  by_cases hstate : rtte.x2 = rmiAssignedDev
  · rw [if_pos hstate]
    generalize env.smc (.smc (.rttReadEntry s.realm.rd s.ipa vdevMapLevel) rtte :: s.comm.log)
      (.vdevUnmap s.realm.rd s.ipa vdevMapLevel) = args
    by_cases hargs : args.x0 ≠ 0
    · rw [if_pos hargs]
      exact one_ne_success
    · rw [if_neg hargs]
      refine ⟨.smc (.vdevUnmap s.realm.rd s.ipa vdevMapLevel) args ::
        .smc (.rttReadEntry s.realm.rd s.ipa vdevMapLevel) rtte :: evs,
        congrArg (fun l => _ :: _ :: l) hlog, ⟨hso.unmapped.page _ (not_not.mp hargs), ?_⟩, hrm⟩
      intro e he
      rcases List.mem_cons.mp he with rfl | he
      · rfl
      rcases List.mem_cons.mp he with rfl | he
      · rfl
      exact hso.kept e he
  · rw [if_neg hstate]
    refine ⟨_, congrArg _ hlog, hso.cons ?_ rfl, hrm⟩
    rintro rd ipa level ⟨r, heq, -, hr⟩
    injection heq with _ heq
    rw [heq] at hstate
    exact hstate hr

theorem vdevUnmapPage_next (a : UInt64) :
    Code.Triple (fun s => s.ipa = a) (vdevUnmapPage env) (fun s => s.ipa = a + vdevPageSize)
      (fun _ _ => True) := by
  rintro s rfl
  unfold vdevUnmapPage DevEnv.call
  dsimp only
  repeat' split
  all_goals first | exact trivial | rfl

/-- **The loop over a region ends by itself** in the rounds it is given: `ipa` has reached `top`. -/
theorem pages_end (env : DevEnv) {g : DevGranules} (hsize : g.size % vdevPageSize = 0) :
    Code.Triple (fun s => s.ipa = g.ipa) (vdevUnmapPages env g)
      (fun s => ¬ s.ipa < g.ipa + g.size) (fun _ _ => True) := by
  have hpage : vdevPageSize.toNat = 4096 := rfl
  have hmod : g.size.toNat % 4096 = 0 := by
    rw [← hpage, ← UInt64.toNat_mod, hsize]
    rfl
  have htop := UInt64.toNat_add g.ipa g.size
  have hbase := g.ipa.toNat_lt
  have hlen := g.size.toNat_lt
  by_cases hrun : g.ipa < g.ipa + g.size
  · have hrun' := UInt64.lt_iff_toNat_lt.mp hrun
    -- `top` has not wrapped, so it is `size / PAGE_SIZE` pages up from `ipa`
    have hsum : (g.ipa + g.size).toNat = g.ipa.toNat + g.size.toNat := by omega
    refine (Code.triple_whileLoop (I := fun k s => s.ipa.toNat = g.ipa.toNat + k * 4096)
      (E := fun _ _ => True) ?_ ?_).conseq ?_ ?_ fun _ _ h => h
    · intro k hk s hs
      rw [hpage] at hk
      rw [decide_eq_decide, UInt64.lt_iff_toNat_lt, hs, hsum, hpage]
      omega
    · intro k hk s hs
      rw [hpage] at hk
      refine (vdevUnmapPage_next s.ipa s rfl).mono ?_ fun _ _ h => h
      intro s' hs'
      rw [hs', UInt64.toNat_add, hs, hpage]
      omega
    · intro s hs
      rw [hs, Nat.zero_mul, Nat.add_zero]
    · intro s hs
      simpa using hs.2
  · intro s hs
    rw [← hs] at hrun
    have hloop := Code.whileLoop_of_false (fun s' : VdevTear => s'.ipa < s.ipa + g.size)
      (vdevUnmapPage env) (decide_eq_false hrun) (g.size.toNat / vdevPageSize.toNat)
    unfold vdevUnmapPages
    rw [← hs, hloop]
    exact hrun

theorem vdevUnmapRegion_triple (i : ℕ) :
    Code.Triple (Waiting l₀ rm) (vdevUnmapRegion env i) (Waiting l₀ rm) (LeftAt l₀ rm) := by
  intro s hs
  refine Code.Triple.cons (P := Waiting l₀ rm) (R := Waiting l₀ rm) ?_ (Code.Triple.cons
    (R := Waiting l₀ rm) ?_ (Code.Triple.cons ?_ Code.triple_nil)) s hs
  · refine Code.Triple.guarded ?_ fun _ hs _ => hs
    exact Code.triple_jump fun _ _ => one_ne_success
  · exact Code.triple_act fun _ hs => hs
  · exact Code.triple_whileLoop_inv vdevUnmapPage_triple _

theorem vdevUnlock_triple :
    Code.Triple (Waiting l₀ rm) (vdevUnlock env n p v) (Waiting l₀ rm) (LeftAt l₀ rm) := by
  rintro s ⟨evs, hlog, hso, hrm⟩
  unfold vdevUnlock DevEnv.call
  dsimp only
  generalize env.smc s.comm.log (.vdevUnlock s.realm.rd v.pdev v.vdev) = args
  have hso' : VdevSoFar (.smc (.vdevUnlock s.realm.rd v.pdev v.vdev) args :: evs) :=
    hso.smc args (fun _ _ _ => nofun) rfl
  by_cases hx0 : args.x0 ≠ 0
  · rw [if_pos hx0]
    exact ⟨_, congrArg _ hlog, hso', hrm⟩
  rw [if_neg hx0]
  obtain ⟨new, hnew, hcomm⟩ := communicate_events env s.realm.rd p (some v) rmiVdevUnlocked n
    { s.comm with log := .smc (.vdevUnlock s.realm.rd v.pdev v.vdev) args :: s.comm.log }
  generalize valHostDevCommunicate env s.realm.rd (some p) (some v) rmiVdevUnlocked n
    { s.comm with log := .smc (.vdevUnlock s.realm.rd v.pdev v.vdev) args :: s.comm.log } = r at hnew
  obtain ⟨rc, c⟩ := r
  have hafter : Waiting l₀ rm { s with comm := c } := by
    refine ⟨_, ?_, hso'.append fun e he => comm_reports_nothing (hcomm e he), hrm⟩
    have hc : c.log = new ++ .smc (.vdevUnlock s.realm.rd v.pdev v.vdev) args :: s.comm.log := hnew
    rw [List.append_assoc, List.cons_append, ← hlog]
    exact hc
  cases rc with
  | none => exact (nofun : (none : Option UInt32) ≠ some 0)
  | some rc =>
    dsimp only
    by_cases hrc : rc ≠ 0
    · rw [if_pos hrc]
      exact hafter
    · rw [if_neg hrc]
      exact hafter

theorem vdevUnlockIfLocked_triple :
    Code.Triple (Waiting l₀ rm) (vdevUnlockIfLocked env n p v) (Waiting l₀ rm) (LeftAt l₀ rm) := by
  rintro s ⟨evs, hlog, hso, hrm⟩
  unfold vdevUnlockIfLocked DevEnv.call
  dsimp only
  generalize env.smc s.comm.log (.vdevGetState v.vdev) = args
  have hafter : Waiting l₀ rm (s.withLog (.smc (.vdevGetState v.vdev) args :: s.comm.log)) :=
    ⟨_, congrArg _ hlog, hso.smc args (fun _ _ _ => nofun) rfl, hrm⟩
  by_cases hx0 : args.x0 ≠ 0
  · rw [if_pos hx0]
    exact one_ne_success
  rw [if_neg hx0]
  by_cases hlocked : args.x1 = rmiVdevLocked ∨ args.x1 = rmiVdevStarted
  · rw [if_pos hlocked]
    exact vdevUnlock_triple _ hafter
  · rw [if_neg hlocked]
    exact hafter

/-- The device is gone, and no region is tracked. -/
def Gone (l₀ : DevLog) (rd : UInt64) (v : VdevObj) (s : VdevTear) : Prop :=
  ∃ evs, s.comm.log = evs ++ l₀ ∧ VdevDestroyed rd v evs ∧ s.realm.devGranulesMappedCount = 0

theorem vdevDestroy_triple :
    Code.Triple (Waiting l₀ { rm with devGranulesMappedCount := 0 }) (vdevDestroy env v)
      (Gone l₀ rm.rd v) (LeftAt l₀ rm) := by
  rintro s ⟨evs, hlog, hso, hrm⟩
  unfold vdevDestroy DevEnv.call
  dsimp only
  rw [hrm]
  generalize env.smc s.comm.log (.vdevDestroy rm.rd v.pdev v.vdev) = args
  by_cases hx0 : args.x0 ≠ 0
  · rw [if_pos hx0]
    exact one_ne_success
  · rw [if_neg hx0]
    refine ⟨_, congrArg _ hlog, hso.destroyed (not_not.mp hx0), ?_⟩
    exact congrArg DevRealm.devGranulesMappedCount hrm

/-- **Up to the fallback** the body is honest. -/
theorem vdevTeardownBody_triple (env : DevEnv) (n : ℕ) (p : PdevObj) (v : VdevObj) (l₀ : DevLog)
    (rm : DevRealm) :
    Code.Triple (Waiting l₀ rm) (vdevTeardownBody env n p v) (Gone l₀ rm.rd v) (LeftAt l₀ rm) := by
  refine Code.Triple.cons (R := Waiting l₀ rm) ?_ (vdevUnlockIfLocked_triple.cons
    (Code.Triple.cons (R := Waiting l₀ { rm with devGranulesMappedCount := 0 }) ?_
      (vdevDestroy_triple.cons Code.triple_nil)))
  · exact Code.triple_forTo fun N => (Code.triple_loop (I := fun _ => Waiting l₀ rm)
      fun i _ => vdevUnmapRegion_triple i).conseq (fun _ hs => hs.1) (fun _ hs => hs) fun _ _ hs => hs
  · refine Code.triple_act ?_
    rintro s ⟨evs, hlog, hso, hrm⟩
    exact ⟨evs, hlog, hso, congrArg (fun r => { r with devGranulesMappedCount := 0 }) hrm⟩

end Loops

/-! ## 4. The fallback -/

/-- **The fallback ends well** if the state cannot be read, or the device is in error and either
VDEV_DESTROY is refused -- these two return `VAL_ERROR` -- or there was no region to forget: `rm` is
the realm as the teardown was given it, and `l` what has happened until the fallback. -/
def FallbackSound (env : DevEnv) (v : VdevObj) (rm : DevRealm) (l : DevLog) : Prop :=
  (env.smc l (.vdevGetState v.vdev)).x0 ≠ 0 ∨
    (env.smc l (.vdevGetState v.vdev)).x1 = rmiVdevError ∧
      ((env.smc (.smc (.vdevGetState v.vdev) (env.smc l (.vdevGetState v.vdev)) :: l)
          (.vdevDestroy rm.rd v.pdev v.vdev)).x0 ≠ 0 ∨
        rm.devGranulesMappedCount = 0)

section Fallback

variable {env : DevEnv} {v : VdevObj} {rm : DevRealm} {c : CommState} {t : VdevTorn}

/-- An honest success, for a history that is known. -/
theorem honest_iff_of_success {rm' : DevRealm} {evs : DevLog} (hrc : t.rc = some 0)
    (hrm' : t.realm = some rm') (hlog : t.comm.log = evs ++ c.log) :
    Honest (some rm) v c t ↔ VdevDestroyed rm.rd v evs ∧ rm'.devGranulesMappedCount = 0 := by
  constructor
  · intro h
    obtain ⟨r, r', evs', hr, hr', hlog', hgone, hcount⟩ := h hrc
    rw [hlog] at hlog'
    rw [List.append_cancel_right hlog', Option.some.inj hr, Option.some.inj (hrm'.symm.trans hr')]
    exact ⟨hgone, hcount⟩
  · rintro ⟨hgone, hcount⟩ -
    exact ⟨rm, rm', evs, rfl, hrm', hlog, hgone, hcount⟩

theorem honest_of_error {realm : Option DevRealm} (h : t.rc ≠ some 0) : Honest realm v c t :=
  fun h0 => absurd h0 h

theorem fallback_honest_iff {s : VdevTear} (hs : Waiting c.log rm s) :
    Honest (some rm) v c ⟨some (vdevFallback env v s).1, some (vdevFallback env v s).2.realm,
      (vdevFallback env v s).2.comm⟩ ↔ FallbackSound env v rm s.comm.log := by
  obtain ⟨evs, hlog, hso, rfl⟩ := hs
  unfold FallbackSound vdevFallback DevEnv.call
  dsimp only
  generalize env.smc s.comm.log (.vdevGetState v.vdev) = args
  have hso' : VdevSoFar (.smc (.vdevGetState v.vdev) args :: evs) :=
    hso.smc args (fun _ _ _ => nofun) rfl
  by_cases hx0 : args.x0 ≠ 0
  · rw [if_pos hx0]
    exact iff_of_true (honest_of_error one_ne_success) (Or.inl hx0)
  rw [if_neg hx0]
  by_cases herror : args.x1 = rmiVdevError
  · rw [if_pos herror]
    generalize env.smc (.smc (.vdevGetState v.vdev) args :: s.comm.log)
      (.vdevDestroy s.realm.rd v.pdev v.vdev) = args'
    by_cases hx0' : args'.x0 ≠ 0
    · rw [if_pos hx0']
      exact iff_of_true (honest_of_error one_ne_success) (Or.inr ⟨herror, Or.inl hx0'⟩)
    · rw [if_neg hx0']
      -- destroyed: what is left to be honest about is the count
      have hgone : VdevDestroyed s.realm.rd v (.smc (.vdevDestroy s.realm.rd v.pdev v.vdev) args' ::
          .smc (.vdevGetState v.vdev) args :: evs) :=
        hso'.destroyed (not_not.mp hx0')
      have hlog' : (.smc (.vdevDestroy s.realm.rd v.pdev v.vdev) args' ::
          .smc (.vdevGetState v.vdev) args :: s.comm.log : DevLog) =
          (.smc (.vdevDestroy s.realm.rd v.pdev v.vdev) args' ::
            .smc (.vdevGetState v.vdev) args :: evs) ++ c.log := by
        rw [hlog]
        rfl
      rw [honest_iff_of_success rfl rfl hlog']
      constructor
      · rintro ⟨-, hcount⟩
        exact Or.inr ⟨herror, Or.inr hcount⟩
      · rintro (h | ⟨-, h | hcount⟩)
        · exact absurd h hx0
        · exact absurd h hx0'
        · exact ⟨hgone, hcount⟩
  · rw [if_neg herror]
    -- not in error: nothing is destroyed, and success is returned
    have hlog' : (.smc (.vdevGetState v.vdev) args :: s.comm.log : DevLog) =
        (.smc (.vdevGetState v.vdev) args :: evs) ++ c.log := congrArg _ hlog
    rw [honest_iff_of_success rfl rfl hlog']
    refine iff_of_false (fun h => hso'.not_destroyed h.1) ?_
    rintro (h | ⟨h, -⟩)
    · exact hx0 h
    · exact herror h

end Fallback

/-! ## 5. The teardown -/

/-- The call reaches the fallback with the realm `rm`, after the events `l`: its arguments pass the
checks, every page is dealt with, the device is LOCKED or STARTED, and VDEV_UNLOCK or the
communication after it fails. -/
def FallsBack (env : DevEnv) (n : ℕ) (realm : Option DevRealm) (pdevObj : Option PdevObj)
    (v : VdevObj) (c : CommState) (rm : DevRealm) (l : DevLog) : Prop :=
  ∃ p s, realm = some rm ∧ pdevObj = some p ∧ v.pdev ≠ 0 ∧
    vdevTeardownBody env n p v ⟨c, rm, 0⟩ = (some .fallback, s) ∧ s.comm.log = l

/-- The guarantee holds of the calls that do not fall back, or whose fallback ends well. -/
theorem teardown_honest_iff (env : DevEnv) (n : ℕ) (realm : Option DevRealm)
    (pdevObj : Option PdevObj) (v : VdevObj) (c : CommState) (hv : v.vdev ≠ 0) :
    Honest realm v c (valHostVdevTeardown env n realm pdevObj (some v) c) ↔
      ∀ rm l, FallsBack env n realm pdevObj v c rm l → FallbackSound env v rm l := by
  unfold valHostVdevTeardown
  dsimp only
  rw [if_neg hv]
  match realm, pdevObj with
  | none, _ =>
    refine iff_of_true (honest_of_error one_ne_success) ?_
    rintro rm l ⟨p, s, hrm, -⟩
    nomatch hrm
  | some rm, none =>
    refine iff_of_true (honest_of_error one_ne_success) ?_
    rintro rm' l ⟨p, s, -, hp, -⟩
    nomatch hp
  | some rm, some p =>
    dsimp only
    by_cases hpdev : v.pdev = 0
    · rw [if_pos hpdev]
      refine iff_of_true (honest_of_error one_ne_success) ?_
      rintro rm' l ⟨-, -, -, -, hne, -⟩
      exact absurd hpdev hne
    rw [if_neg hpdev]
    have hstart : Waiting c.log rm ⟨c, rm, 0⟩ := ⟨[], rfl, vdevSoFar_nil, rfl⟩
    have hbody := vdevTeardownBody_triple env n p v c.log rm _ hstart
    have hfalls : ∀ rm' l, FallsBack env n (some rm) (some p) v c rm' l ↔ rm' = rm ∧
        ∃ s, vdevTeardownBody env n p v ⟨c, rm, 0⟩ = (some .fallback, s) ∧ s.comm.log = l := by
      intro rm' l
      constructor
      · rintro ⟨p', s, hrm, hp, -, h, hl⟩
        obtain rfl := Option.some.inj hrm
        obtain rfl := Option.some.inj hp
        exact ⟨rfl, s, h, hl⟩
      · rintro ⟨rfl, s, h, hl⟩
        exact ⟨p, s, rfl, rfl, hpdev, h, hl⟩
    simp only [hfalls]
    unfold vdevTeardownFrom
    generalize vdevTeardownBody env n p v ⟨c, rm, 0⟩ = r at hbody
    obtain ⟨e, s⟩ := r
    match e with
    | none =>
      obtain ⟨evs, hlog, hgone, hcount⟩ := hbody
      refine iff_of_true ((honest_iff_of_success rfl rfl hlog).mpr ⟨hgone, hcount⟩) ?_
      rintro rm' l ⟨-, s', heq, -⟩
      nomatch heq
    | some (.ret rc) =>
      refine iff_of_true (honest_of_error hbody) ?_
      rintro rm' l ⟨-, s', heq, -⟩
      nomatch heq
    | some .fallback =>
      dsimp only
      rw [fallback_honest_iff hbody]
      constructor
      · rintro h rm' l ⟨rfl, s', heq, rfl⟩
        injection heq with _ heq
        rw [← heq]
        exact h
      · exact fun h => h rm s.comm.log ⟨rfl, s, rfl, rfl⟩

/-- **When the teardown is honest.**  For every sequence of answers, every set of regions and any
number of rounds: a `VAL_SUCCESS` means that the device was destroyed, with every page that had been
reported unmapped before, and that no region is tracked any more, if and only if the fallback is not
reached or ends well.  And the loop over the pages of a region that passes its check, left by no
return, is over with `ipa` at `top`. -/
theorem vdev_teardown_honest_iff (env : DevEnv) (n : ℕ) (realm : Option DevRealm)
    (pdevObj : Option PdevObj) (v : VdevObj) (c : CommState) (hv : v.vdev ≠ 0) :
    (Honest realm v c (valHostVdevTeardown env n realm pdevObj (some v) c) ↔
      ∀ rm l, FallsBack env n realm pdevObj v c rm l → FallbackSound env v rm l) ∧
    ∀ g : DevGranules, g.size % vdevPageSize = 0 →
      Code.Triple (fun s => s.ipa = g.ipa) (vdevUnmapPages env g)
        (fun s => ¬ s.ipa < g.ipa + g.size) (fun _ _ => True) :=
  ⟨teardown_honest_iff env n realm pdevObj v c hv, fun _ hsize => pages_end env hsize⟩

/-- A device in the given state that refuses to be unlocked; every page is mapped to it. -/
def stubbornEnv (state : UInt64) : DevEnv where
  smc _ c :=
    match c with
    | .vdevGetState _ => ⟨0, state, 0⟩
    | .vdevUnlock _ _ _ => ⟨1, 0, 0⟩
    | .rttReadEntry _ _ _ => ⟨0, 3, rmiAssignedDev⟩
    | _ => ⟨0, 0, 0⟩
  communicate _ _ _ := ⟨0, ⟨0, 0, 0, 0, 0, 0, 0, 0⟩, fun _ => 0, fun _ => 0⟩
  doe _ _ _ := (0, 0)
  alloc _ _ _ := 0

def someVdev : VdevObj := ⟨0x88002000, 0x88000000, 0x88003000⟩

/-- A realm with one page of the device. -/
def someRealm : DevRealm := ⟨0x88004000, fun _ => ⟨0x40000000, 0x1000⟩, 1⟩

/-- A device that need not be unlocked is taken down honestly. -/
theorem vdev_teardown_honest_iff_unlocked :
    someVdev.vdev ≠ 0 ∧
      (valHostVdevTeardown (stubbornEnv 1) 1 (some someRealm) (some ⟨0x88000000, 0x88001000⟩)
        (some someVdev) ⟨⟨.none, 0⟩, .empty, []⟩).rc = some 0 ∧
      Honest (some someRealm) someVdev ⟨⟨.none, 0⟩, .empty, []⟩
        (valHostVdevTeardown (stubbornEnv 1) 1 (some someRealm) (some ⟨0x88000000, 0x88001000⟩)
          (some someVdev) ⟨⟨.none, 0⟩, .empty, []⟩) := by
  refine ⟨by decide, by decide, (vdev_teardown_honest_iff _ _ _ _ _ _ (by decide)).1.mpr ?_⟩
  rintro rm l ⟨p, s, hrm, hp, -, hfalls, -⟩
  rw [← Option.some.inj hrm, ← Option.some.inj hp] at hfalls
  have hnone : (vdevTeardownBody (stubbornEnv 1) 1 ⟨0x88000000, 0x88001000⟩ someVdev
      ⟨⟨⟨.none, 0⟩, .empty, []⟩, someRealm, 0⟩).1 = none := by
    decide
  rw [hfalls] at hnone
  nomatch hnone

/-- **A device that is still locked is reported as gone.** -/
theorem vdev_teardown_leaves_locked :
    (valHostVdevTeardown (stubbornEnv rmiVdevLocked) 1 (some someRealm)
        (some ⟨0x88000000, 0x88001000⟩) (some someVdev) ⟨⟨.none, 0⟩, .empty, []⟩).rc = some 0 ∧
      ¬ Honest (some someRealm) someVdev ⟨⟨.none, 0⟩, .empty, []⟩
        (valHostVdevTeardown (stubbornEnv rmiVdevLocked) 1 (some someRealm)
          (some ⟨0x88000000, 0x88001000⟩) (some someVdev) ⟨⟨.none, 0⟩, .empty, []⟩) := by
  have hrc : (valHostVdevTeardown (stubbornEnv rmiVdevLocked) 1 (some someRealm)
      (some ⟨0x88000000, 0x88001000⟩) (some someVdev) ⟨⟨.none, 0⟩, .empty, []⟩).rc = some 0 := by
    decide
  have hkept : ∀ e ∈ (valHostVdevTeardown (stubbornEnv rmiVdevLocked) 1 (some someRealm)
      (some ⟨0x88000000, 0x88001000⟩) (some someVdev) ⟨⟨.none, 0⟩, .empty, []⟩).comm.log,
      e.isVdevDestroy = false := by
    decide
  refine ⟨hrc, fun h => ?_⟩
  obtain ⟨rm, rm', evs, -, -, hlog, ⟨after, r, before, hevs, -⟩, -⟩ := h hrc
  rw [List.append_nil] at hlog
  refine Bool.false_ne_true (hkept (.smc (.vdevDestroy rm.rd someVdev.pdev someVdev.vdev) r) ?_).symm
  rw [hlog, hevs]
  exact List.mem_append_right _ List.mem_cons_self

end RmmAcs.Dev
