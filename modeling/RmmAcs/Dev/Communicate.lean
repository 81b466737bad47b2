/-
# Talking to a device: `val_host_dev_communicate`

The RMM cannot reach a device by itself.  It asks the host: COMMUNICATE hands over what the device
has answered so far, and comes back with a page of flags, the EXIT, that says what to do next --
put aside a piece of the request or of the response, send the request to the device's mailbox, or
nothing.  The host does it, reads the state of the device, and starts over until the device is in
the state it is driven to and the RMM has nothing left to ask.

The RMM and the device are an environment that answers every question from the history of
questions and answers.  No answer is excluded: the loop need not end, and a run is followed for any
number of rounds.  The history is kept NEWEST FIRST, so that an event stands in front of
everything that happened before it, and what the protocol asks of an event can be said of the event
and that rest.

What is modelled and what is not.  The two pages are shared with the RMM, but only COMMUNICATE writes
the exit page.  The mailbox exchange itself is one question, answered by a return code and a length.
-/
import RmmAcs.Dev.Cache
import RmmAcs.Rmm

namespace RmmAcs.Dev

open RmmAcs Rmm

/-! ## 1. Questions and answers -/

/-- The RMI commands of `val_host_da.c`. -/
inductive DevSmc where
  | pdevGetState (pdev : UInt64)
  | vdevGetState (vdev : UInt64)
  | pdevCommunicate (pdev data : UInt64)
  | vdevCommunicate (rd pdev vdev data : UInt64)
  | pdevStop (pdev : UInt64)
  | pdevDestroy (pdev : UInt64)
  | vdevUnlock (rd pdev vdev : UInt64)
  | vdevDestroy (rd pdev vdev : UInt64)
  | rttReadEntry (rd ipa level : UInt64)
  | vdevUnmap (rd ipa level : UInt64)
deriving DecidableEq, Repr

/-- `RMI_DEV_COMM_*`. -/
inductive DevCommStatus where
  | none
  | response
  | error
deriving DecidableEq, Repr

/-- `val_host_dev_comm_enter_ts`, less the addresses of the two buffers. -/
structure DevCommEnter where
  status : DevCommStatus
  respLen : UInt64
deriving DecidableEq, Repr

/-- What comes back from COMMUNICATE: a status, the exit page, and the two buffers. -/
structure DevCommReturn where
  x0 : UInt64
  exit : DevCommExit
  req : Buffer
  rsp : Buffer

/-- What happens: a command and its answer, a COMMUNICATE with the enter page it reads, a caching
step of the host's own, an exchange with the mailbox, a request for memory. -/
inductive Event where
  | smc (c : DevSmc) (r : SmcRet)
  | communicate (c : DevSmc) (enter : DevCommEnter) (r : DevCommReturn)
  | cache (rc : UInt64)
  | doe (reqLen : UInt64) (protocol : UInt8) (rc respLen : UInt64)
  | alloc (alignment size addr : UInt64)

/-- The events so far, NEWEST first. -/
abbrev DevLog := List Event

/-- The other side. -/
structure DevEnv where
  smc : DevLog → DevSmc → SmcRet
  communicate : DevLog → DevSmc → DevCommEnter → DevCommReturn
  /-- The return code and the length of the response. -/
  doe : DevLog → UInt64 → UInt8 → UInt64 × UInt64
  alloc : DevLog → UInt64 → UInt64 → UInt64

/-- The fields of `val_host_pdev_ts` that say which device is meant. -/
structure PdevObj where
  pdev : UInt64
  devCommData : UInt64

/-- And those of `val_host_vdev_ts`. -/
structure VdevObj where
  vdev : UInt64
  pdev : UInt64
  devCommData : UInt64

/-- The arguments `realm`, `pdev_obj` and `vdev_obj` of a communication. -/
structure Device where
  rd : UInt64
  pdevObj : PdevObj
  vdevObj : Option VdevObj

/-- What a communication changes. -/
structure CommState where
  enter : DevCommEnter
  cache : DevCache
  log : DevLog

/-! ## 2. The loop -/

def reqCacheBit : UInt64 := (1 : UInt64) <<< 0
def rspCacheBit : UInt64 := (1 : UInt64) <<< 1
def reqSendBit : UInt64 := (1 : UInt64) <<< 2

def DevCommExit.reqCache (x : DevCommExit) : Bool := x.flags &&& reqCacheBit != 0
def DevCommExit.rspCache (x : DevCommExit) : Bool := x.flags &&& rspCacheBit != 0
def DevCommExit.reqSend (x : DevCommExit) : Bool := x.flags &&& reqSendBit != 0

def rmiPdevError : UInt64 := 8
def rmiVdevError : UInt64 := 4

/-- `vdev_obj` decides whose objects and whose state a communication is about. -/
def ownerOf (vdevObj : Option VdevObj) : Owner := if vdevObj.isSome then .vdev else .pdev

def Device.owner (d : Device) : Owner := ownerOf d.vdevObj

/-- `error_state`. -/
def Device.errorState (d : Device) : UInt64 :=
  match d.vdevObj with
  | some _ => rmiVdevError
  | none => rmiPdevError

/-- The command of `val_host_dev_get_state`. -/
def Device.getState (d : Device) : DevSmc :=
  match d.vdevObj with
  | some v => .vdevGetState v.vdev
  | none => .pdevGetState d.pdevObj.pdev

/-- The command of `val_host_rmi_dev_communicate`. -/
def Device.communicate (d : Device) : DevSmc :=
  match d.vdevObj with
  | some v => .vdevCommunicate d.rd v.pdev v.vdev v.devCommData
  | none => .pdevCommunicate d.pdevObj.pdev d.pdevObj.devCommData

/-- `val_smc_call`. -/
def DevEnv.call (env : DevEnv) (c : DevSmc) (l : DevLog) : SmcRet × DevLog :=
  let r := env.smc l c
  (r, .smc c r :: l)

/-- `val_host_dev_get_state`; `none` is `VAL_ERROR`. -/
def valHostDevGetState (env : DevEnv) (d : Device) (s : CommState) : Option UInt64 × CommState :=
  let (r, l) := env.call d.getState s.log
  (if r.x0 ≠ 0 then none else some r.x1, { s with log := l })

/-- `val_host_rmi_dev_communicate`. -/
def valHostRmiDevCommunicate (env : DevEnv) (d : Device) (s : CommState) :
    DevCommReturn × CommState :=
  let r := env.communicate s.log d.communicate s.enter
  (r, { s with log := .communicate d.communicate s.enter r :: s.log })

/-- `val_host_pdev_doe_communicate`. -/
def valHostPdevDoeCommunicate (env : DevEnv) (x : DevCommExit) (s : CommState) :
    UInt64 × CommState :=
  let (rc, respLen) := env.doe s.log x.reqLen x.protocol
  let s := { s with log := .doe x.reqLen x.protocol rc respLen :: s.log }
  if rc = 0 then (0, { s with enter := ⟨.response, respLen⟩ })
  else (valError, { s with enter := ⟨.error, 0⟩ })

/-- The caching of one exit, with its return code in the history. -/
def cacheExit (d : Device) (r : DevCommReturn) (s : CommState) : UInt64 × CommState :=
  let (rc, cache) := valHostDevCacheDevReqResp d.owner s.cache r.req r.rsp r.exit
  (rc, { s with cache := cache, log := .cache rc :: s.log })

/-- One round of the loop of `val_host_dev_communicate`: `some rc` leaves the loop. -/
def devRound (env : DevEnv) (d : Device) (target : UInt64) (s : CommState) :
    Option UInt64 × CommState :=
  let (ret, s) := valHostRmiDevCommunicate env d s
  if ret.x0 ≠ 0 then (some valError, s)
  else
    let (rc, s) := if ret.exit.reqCache || ret.exit.rspCache then cacheExit d ret s else (0, s)
    if rc ≠ 0 then (some rc, s)
    else
      let (rc, s) := if ret.exit.reqSend then valHostPdevDoeCommunicate env ret.exit s
        else (0, { s with enter := { s.enter with status := .none } })
      if rc ≠ 0 then (some rc, s)
      else
        match valHostDevGetState env d s with
        | (none, s) => (some valError, s)
        | (some state, s) =>
          if state = target then (if ret.exit.flags = 0 then some 0 else none, s)
          else if state = d.errorState then (some valError, s)
          else (none, s)

/-- So many rounds; `none` says that the loop has not been left. -/
def devLoop (env : DevEnv) (d : Device) (target : UInt64) :
    ℕ → CommState → Option UInt64 × CommState
  | 0, s => (none, s)
  | n + 1, s =>
    match devRound env d target s with
    | (some rc, s) => (some rc, s)
    | (none, s) => devLoop env d target n s

/-- `val_host_dev_communicate`, for at most `n` rounds. -/
def valHostDevCommunicate (env : DevEnv) (rd : UInt64) (pdevObj : Option PdevObj)
    (vdevObj : Option VdevObj) (targetState : UInt8) (n : ℕ) (s : CommState) :
    Option UInt64 × CommState :=
  match pdevObj with
  | none => (some valError, s)
  | some p =>
    let d : Device := ⟨rd, p, vdevObj⟩
    match valHostDevGetState env d { s with enter := ⟨.none, 0⟩ } with
    | (none, s) => (some valError, s)
    | (some _, s) => devLoop env d targetState.toUInt64 n s

/-! ## 3. What a communication keeps

A round is COMMUNICATE and the caching after it, an exchange, and reading the state.  Something that
holds again after each of these holds after every round, wherever it is left. -/

/-- The state of a call after COMMUNICATE has come back. -/
def CommState.afterExit (s : CommState) (d : Device) (r : DevCommReturn) : CommState :=
  { s with log := .communicate d.communicate s.enter r :: s.log }

/-- The caching of an exit, if it asks for any. -/
def cacheIfAsked (d : Device) (r : DevCommReturn) (s : CommState) : UInt64 × CommState :=
  if r.exit.reqCache || r.exit.rspCache then cacheExit d r s else (0, s)

/-- The exchange, if the exit asks for one. -/
def sendIfAsked (env : DevEnv) (x : DevCommExit) (s : CommState) : UInt64 × CommState :=
  if x.reqSend then valHostPdevDoeCommunicate env x s
  else (0, { s with enter := { s.enter with status := .none } })

/-- What the state that is read at the end of a round decides. -/
def Device.verdict (d : Device) (target flags : UInt64) (st : SmcRet) : Option UInt64 :=
  if st.x0 ≠ 0 then some valError
  else if st.x1 = target then (if flags = 0 then some 0 else none)
  else if st.x1 = d.errorState then some valError
  else none

/-- **The ways through a round**: COMMUNICATE is refused, the caching fails, the exchange fails, or
the state is read and decides. -/
theorem devRound_cases (env : DevEnv) (d : Device) (target : UInt64) (s : CommState)
    {P : Option UInt64 × CommState → Prop}
    (hrefused : ∀ r, r.x0 ≠ 0 → P (some valError, s.afterExit d r))
    (hcache : ∀ r, r.x0 = 0 → (cacheIfAsked d r (s.afterExit d r)).1 ≠ 0 →
      P (some (cacheIfAsked d r (s.afterExit d r)).1, (cacheIfAsked d r (s.afterExit d r)).2))
    (hsend : ∀ r s₁, r.x0 = 0 → cacheIfAsked d r (s.afterExit d r) = (0, s₁) →
      (sendIfAsked env r.exit s₁).1 ≠ 0 →
      P (some (sendIfAsked env r.exit s₁).1, (sendIfAsked env r.exit s₁).2))
    (hread : ∀ r s₁ s₂ st, r.x0 = 0 → cacheIfAsked d r (s.afterExit d r) = (0, s₁) →
      sendIfAsked env r.exit s₁ = (0, s₂) →
      P (d.verdict target r.exit.flags st, { s₂ with log := .smc d.getState st :: s₂.log })) :
    P (devRound env d target s) := by
  unfold devRound valHostRmiDevCommunicate
  generalize env.communicate s.log d.communicate s.enter = ret
  dsimp only
  specialize hrefused ret
  specialize hcache ret
  specialize hsend ret
  specialize hread ret
  unfold cacheIfAsked CommState.afterExit at hcache hsend hread
  unfold sendIfAsked at hsend hread
  by_cases hx0 : ret.x0 ≠ 0
  · rw [if_pos hx0]
    exact hrefused hx0
  rw [if_neg hx0]
  generalize (if ret.exit.reqCache || ret.exit.rspCache then
    cacheExit d ret { s with log := .communicate d.communicate s.enter ret :: s.log }
    else (0, { s with log := .communicate d.communicate s.enter ret :: s.log })) = r
    at hcache hsend hread
  obtain ⟨rc, s₁⟩ := r
  dsimp only at hcache ⊢
  by_cases hrc : rc ≠ 0
  · rw [if_pos hrc]
    exact hcache (not_not.mp hx0) hrc
  rw [if_neg hrc]
  obtain rfl := not_not.mp hrc
  specialize hsend s₁ (not_not.mp hx0) rfl
  specialize hread s₁
  generalize (if ret.exit.reqSend then valHostPdevDoeCommunicate env ret.exit s₁
    else (0, { s₁ with enter := { s₁.enter with status := .none } })) = r at hsend hread
  obtain ⟨rc₂, s₂⟩ := r
  dsimp only at hsend ⊢
  by_cases hrc₂ : rc₂ ≠ 0
  · rw [if_pos hrc₂]
    exact hsend hrc₂
  rw [if_neg hrc₂]
  obtain rfl := not_not.mp hrc₂
  unfold valHostDevGetState DevEnv.call
  generalize env.smc s₂.log d.getState = st
  specialize hread s₂ st (not_not.mp hx0) rfl rfl
  unfold Device.verdict at hread
  dsimp only
  by_cases hst : st.x0 ≠ 0
  · rw [if_pos hst] at hread ⊢
    exact hread
  · rw [if_neg hst] at hread ⊢
    dsimp only
    repeat' split
    all_goals simp_all only [if_true, if_false]

/-- `J` is kept by every step of a communication; `K` holds between COMMUNICATE and the caching. -/
structure CommKeeps (d : Device) (J : CommState → Prop) (K : DevCommReturn → CommState → Prop) :
    Prop where
  refused : ∀ s r, J s → r.x0 ≠ 0 → J (s.afterExit d r)
  exit : ∀ s r, J s → r.x0 = 0 → K r (s.afterExit d r)
  cached : ∀ s r, K r s → J (cacheIfAsked d r s).2
  exchanged : ∀ s reqLen protocol rc respLen enter, J s →
    J { s with enter := enter, log := .doe reqLen protocol rc respLen :: s.log }
  entered : ∀ s enter, J s → J { s with enter := enter }
  read : ∀ s r, J s → J { s with log := .smc d.getState r :: s.log }

section Keeps

variable {d : Device} {J : CommState → Prop} {K : DevCommReturn → CommState → Prop} {s : CommState}

theorem CommKeeps.sent (h : CommKeeps d J K) (env : DevEnv) (x : DevCommExit) (hs : J s) :
    J (sendIfAsked env x s).2 := by
  unfold sendIfAsked
  split
  · unfold valHostPdevDoeCommunicate
    generalize env.doe s.log x.reqLen x.protocol = a
    dsimp only
    split
    · exact h.exchanged s _ _ _ _ _ hs
    · exact h.exchanged s _ _ _ _ _ hs
  · exact h.entered s _ hs

theorem CommKeeps.round (h : CommKeeps d J K) (env : DevEnv) (target : UInt64) (hs : J s) :
    J (devRound env d target s).2 := by
  have hcached (r : DevCommReturn) (hx0 : r.x0 = 0) : J (cacheIfAsked d r (s.afterExit d r)).2 :=
    h.cached _ r (h.exit s r hs hx0)
  refine devRound_cases env d target s (P := fun r => J r.2) ?_ ?_ ?_ ?_
  · intro r hx0
    exact h.refused s r hs hx0
  · intro r hx0 _
    exact hcached r hx0
  · intro r s₁ hx0 hc _
    have hs₁ := hcached r hx0
    rw [hc] at hs₁
    exact h.sent env r.exit hs₁
  · intro r s₁ s₂ st hx0 hc hsent
    have hs₁ := hcached r hx0
    rw [hc] at hs₁
    have hs₂ := h.sent env r.exit hs₁
    rw [hsent] at hs₂
    exact h.read s₂ st hs₂

theorem CommKeeps.loop (h : CommKeeps d J K) (env : DevEnv) (target : UInt64) (n : ℕ) (hs : J s) :
    J (devLoop env d target n s).2 := by
  induction n generalizing s with
  | zero => exact hs
  | succ n ih =>
    have hround := h.round env target hs
    unfold devLoop
    generalize devRound env d target s = r at hround
    obtain ⟨rc, s'⟩ := r
    cases rc with
    | some rc => exact hround
    | none => exact ih hround

/-- **What every step keeps, the communication keeps**, for any number of rounds. -/
theorem CommKeeps.communicate {rd : UInt64} {pdevObj : Option PdevObj} {vdevObj : Option VdevObj}
    (h : ∀ p, pdevObj = some p → CommKeeps ⟨rd, p, vdevObj⟩ J K) (env : DevEnv)
    (targetState : UInt8) (n : ℕ) (hs : J s) :
    J (valHostDevCommunicate env rd pdevObj vdevObj targetState n s).2 := by
  cases pdevObj with
  | none => exact hs
  | some p =>
    have hp := h p rfl
    unfold valHostDevCommunicate valHostDevGetState DevEnv.call
    dsimp only
    generalize env.smc s.log (Device.getState ⟨rd, p, vdevObj⟩) = r
    have hread := hp.read _ r (hp.entered s ⟨.none, 0⟩ hs)
    by_cases hx0 : r.x0 ≠ 0
    · rw [if_pos hx0]
      exact hread
    · rw [if_neg hx0]
      exact hp.loop env targetState.toUInt64 n hread

/-- The events of a communication: reading the state, COMMUNICATE, caching and exchanges. -/
def Event.OfComm (d : Device) : Event → Prop
  | .smc c _ => c = d.getState
  | .communicate c _ _ => c = d.communicate
  | .cache _ => True
  | .doe _ _ _ _ => True
  | .alloc _ _ _ => False

/-- After `l₀`, nothing but such events. -/
def CommSince (d : Device) (l₀ : DevLog) (s : CommState) : Prop :=
  ∃ evs, s.log = evs ++ l₀ ∧ ∀ e ∈ evs, e.OfComm d

theorem CommSince.cons {l₀ : DevLog} (h : CommSince d l₀ s) {e : Event} (he : e.OfComm d)
    {s' : CommState} (hlog : s'.log = e :: s.log) : CommSince d l₀ s' := by
  obtain ⟨evs, hevs, hall⟩ := h
  refine ⟨e :: evs, ?_, ?_⟩
  · rw [hlog, hevs]
    rfl
  · intro e' he'
    rcases List.mem_cons.mp he' with rfl | he'
    · exact he
    · exact hall e' he'

theorem commSince_keeps (d : Device) (l₀ : DevLog) :
    CommKeeps d (CommSince d l₀) (fun _ => CommSince d l₀) where
  refused s r h _ := h.cons (e := .communicate d.communicate s.enter r) rfl rfl
  exit s r h _ := h.cons (e := .communicate d.communicate s.enter r) rfl rfl
  cached s r h := by
    unfold cacheIfAsked
    split
    · exact h.cons (e := .cache _) trivial rfl
    · exact h
  exchanged _ reqLen protocol rc respLen _ h :=
    h.cons (e := .doe reqLen protocol rc respLen) trivial rfl
  entered _ _ h := h
  read _ r h := h.cons (e := .smc d.getState r) rfl rfl

/-- **A communication issues nothing else.** -/
theorem communicate_events (env : DevEnv) (rd : UInt64) (p : PdevObj) (vdevObj : Option VdevObj)
    (targetState : UInt8) (n : ℕ) (s : CommState) :
    CommSince ⟨rd, p, vdevObj⟩ s.log
      (valHostDevCommunicate env rd (some p) vdevObj targetState n s).2 := by
  refine CommKeeps.communicate (K := fun _ => CommSince ⟨rd, p, vdevObj⟩ s.log) ?_ env targetState n
    ⟨[], rfl, fun _ he => nomatch he⟩
  rintro p' hp'
  rw [← Option.some.inj hp']
  exact commSince_keeps _ _

end Keeps

/-! ## 4. The protocol -/

/-- The exit of the last COMMUNICATE. -/
def lastExit : DevLog → Option DevCommExit
  | [] => none
  | .communicate _ _ r :: _ => some r.exit
  | _ :: l => lastExit l

/-- The exchange with the mailbox since then: its return code and the length of the response. -/
def doeSince : DevLog → Option (UInt64 × UInt64)
  | [] => none
  | .communicate _ _ _ :: _ => none
  | .doe _ _ rc respLen :: _ => some (rc, respLen)
  | _ :: l => doeSince l

/-- The caching since then: its return code. -/
def cacheSince : DevLog → Option UInt64
  | [] => none
  | .communicate _ _ _ :: _ => none
  | .cache rc :: _ => some rc
  | _ :: l => cacheSince l

/-- The last state read. -/
def lastState (d : Device) : DevLog → Option UInt64
  | [] => none
  | .smc c r :: l => if c = d.getState then some r.x1 else lastState d l
  | _ :: l => lastState d l

/-- **What COMMUNICATE carries.**  The first one carries NONE; a later one carries RESPONSE, with the
length of the exchange before it, if the last exit asked to send, and NONE otherwise. -/
def EnterOk (pre : DevLog) (enter : DevCommEnter) : Prop :=
  match lastExit pre with
  | none => enter = ⟨.none, 0⟩
  | some x =>
    if x.reqSend then enter.status = .response ∧ doeSince pre = some (0, enter.respLen)
    else enter.status = .none

/-- **What the protocol asks of an event**, after everything before it.  A request is sent if the
last exit asked for it, with the length and the protocol of that exit, and not before the caching
that exit asked for is done. -/
def Event.Allowed (pre : DevLog) : Event → Prop
  | .communicate _ enter _ => EnterOk pre enter
  | .cache _ => ∃ x, lastExit pre = some x ∧ (x.reqCache = true ∨ x.rspCache = true)
  | .doe reqLen protocol _ _ => ∃ x, lastExit pre = some x ∧ x.reqSend = true ∧
      reqLen = x.reqLen ∧ protocol = x.protocol ∧
      ((x.reqCache = true ∨ x.rspCache = true) → cacheSince pre = some 0)
  | .smc _ _ => True
  | .alloc _ _ _ => True

/-- Every event is allowed after those before it. -/
def Conforms : DevLog → Prop
  | [] => True
  | e :: pre => e.Allowed pre ∧ Conforms pre

/-- A step that has failed. -/
def Event.Failed : Event → Prop
  | .smc _ r => r.x0 ≠ 0
  | .communicate _ _ r => r.x0 ≠ 0
  | .cache rc => rc ≠ 0
  | .doe _ _ rc _ => rc ≠ 0
  | .alloc _ _ _ => False

/-- The states read in the rounds of the loop, that is, after a COMMUNICATE. -/
def roundStates (d : Device) : DevLog → List UInt64
  | [] => []
  | .smc c r :: l =>
    if c = d.getState ∧ (lastExit l).isSome then r.x1 :: roundStates d l else roundStates d l
  | _ :: l => roundStates d l

/-- **What a return of 0 promises.** -/
structure ReachedTarget (d : Device) (target : UInt64) (l : DevLog) : Prop where
  state : lastState d l = some target
  flags : ∃ x, lastExit l = some x ∧ x.flags = 0
  noFailure : ∀ e ∈ l, ¬ e.Failed
  noError : ∀ st ∈ roundStates d l, st = d.errorState → st = target

/-! ## 5. One round -/

section Round

variable {env : DevEnv} {d : Device} {target : UInt64} {x : DevCommExit} {l₀ evs : DevLog}
  {s : CommState}

/-- The events of a call between two rounds. -/
structure Ready (d : Device) (target : UInt64) (evs : DevLog) (enter : DevCommEnter) : Prop where
  conforms : Conforms evs
  next : EnterOk evs enter
  noFailure : ∀ e ∈ evs, ¬ e.Failed
  noError : ∀ st ∈ roundStates d evs, st = d.errorState → st = target

/-- And within a round, after the exit `x`. -/
structure Between (d : Device) (target : UInt64) (x : DevCommExit) (evs : DevLog) : Prop where
  conforms : Conforms evs
  exit : lastExit evs = some x
  noFailure : ∀ e ∈ evs, ¬ e.Failed
  noError : ∀ st ∈ roundStates d evs, st = d.errorState → st = target

/-- An event that has not failed leaves no failure behind. -/
theorem noFailure_cons {e : Event} (h : ∀ e ∈ evs, ¬ e.Failed) (he : ¬ e.Failed) :
    ∀ e' ∈ e :: evs, ¬ e'.Failed := by
  intro e' he'
  rcases List.mem_cons.mp he' with rfl | he'
  · exact he
  · exact h e' he'

/-- What one stage of a round leaves: its events, in order, and `Q` of them if it has not failed. -/
def StageOk (l₀ : DevLog) (Q : DevLog → DevCommEnter → Prop) (r : UInt64 × CommState) : Prop :=
  ∃ evs, r.2.log = evs ++ l₀ ∧ Conforms evs ∧ (r.1 = 0 → Q evs r.2.enter)

/-- The caching. -/
theorem cache_stage (r : DevCommReturn) (hlog : s.log = evs ++ l₀)
    (h : Between d target r.exit evs) (hdoe : doeSince evs = none) :
    StageOk l₀ (fun evs _ => Between d target r.exit evs ∧ doeSince evs = none ∧
        ((r.exit.reqCache = true ∨ r.exit.rspCache = true) → cacheSince evs = some 0))
      (cacheIfAsked d r s) := by
  unfold cacheIfAsked
  by_cases hwants : (r.exit.reqCache || r.exit.rspCache) = true
  · rw [if_pos hwants]
    unfold cacheExit
    dsimp only
    generalize valHostDevCacheDevReqResp d.owner s.cache r.req r.rsp r.exit = c
    have hallowed : (Event.cache c.1).Allowed evs :=
      ⟨r.exit, h.exit, by simpa only [Bool.or_eq_true] using hwants⟩
    refine ⟨.cache c.1 :: evs, congrArg _ hlog, ⟨hallowed, h.conforms⟩, fun h0 => ⟨?_, hdoe, ?_⟩⟩
    · exact ⟨⟨hallowed, h.conforms⟩, h.exit, noFailure_cons h.noFailure (not_not.mpr h0), h.noError⟩
    · exact fun _ => congrArg some h0
  · rw [if_neg hwants]
    refine ⟨evs, hlog, h.conforms, fun _ => ⟨h, hdoe, fun hany => ?_⟩⟩
    exact absurd (by simpa only [Bool.or_eq_true] using hany) hwants

/-- The exchange with the mailbox. -/
theorem doe_stage (env : DevEnv) (hlog : s.log = evs ++ l₀) (h : Between d target x evs)
    (hcache : (x.reqCache = true ∨ x.rspCache = true) → cacheSince evs = some 0) :
    StageOk l₀ (fun evs enter => Between d target x evs ∧ EnterOk evs enter)
      (sendIfAsked env x s) := by
  unfold sendIfAsked
  by_cases hsend : x.reqSend = true
  · rw [if_pos hsend]
    unfold valHostPdevDoeCommunicate
    generalize env.doe s.log x.reqLen x.protocol = a
    dsimp only
    have hallowed : (Event.doe x.reqLen x.protocol a.1 a.2).Allowed evs :=
      ⟨x, h.exit, hsend, rfl, rfl, hcache⟩
    by_cases h0 : a.1 = 0
    · rw [if_pos h0]
      refine ⟨.doe x.reqLen x.protocol a.1 a.2 :: evs, congrArg _ hlog, ⟨hallowed, h.conforms⟩,
        fun _ => ⟨?_, ?_⟩⟩
      · exact ⟨⟨hallowed, h.conforms⟩, h.exit, noFailure_cons h.noFailure (not_not.mpr h0),
          h.noError⟩
      · have hexit : lastExit (.doe x.reqLen x.protocol a.1 a.2 :: evs) = some x := h.exit
        unfold EnterOk
        rw [hexit]
        dsimp only
        rw [if_pos hsend]
        exact ⟨rfl, congrArg (fun rc => some (rc, a.2)) h0⟩
    · rw [if_neg h0]
      exact ⟨.doe x.reqLen x.protocol a.1 a.2 :: evs, congrArg _ hlog, ⟨hallowed, h.conforms⟩,
        nofun⟩
  · rw [if_neg hsend]
    refine ⟨evs, hlog, h.conforms, fun _ => ⟨h, ?_⟩⟩
    unfold EnterOk
    rw [h.exit]
    dsimp only
    rw [if_neg hsend]

/-- What a round leaves. -/
def RoundOk (d : Device) (target : UInt64) (l₀ : DevLog) (r : Option UInt64 × CommState) : Prop :=
  ∃ evs, r.2.log = evs ++ l₀ ∧ Conforms evs ∧ (r.1 = none → Ready d target evs r.2.enter) ∧
    (r.1 = some 0 → ReachedTarget d target evs)

theorem RoundOk.failed {rc : UInt64} {s' : CommState} {e : DevLog} (hlog : s'.log = e ++ l₀)
    (h : Conforms e) (hrc : rc ≠ 0) : RoundOk d target l₀ (some rc, s') :=
  ⟨e, hlog, h, nofun, fun h0 => absurd (Option.some.inj h0) hrc⟩

/-- Reading the state keeps everything that was known. -/
theorem Between.readState (h : Between d target x evs) {r : SmcRet} (hok : r.x0 = 0)
    (hstate : r.x1 = d.errorState → r.x1 = target) :
    Between d target x (.smc d.getState r :: evs) := by
  refine ⟨⟨trivial, h.conforms⟩, h.exit, noFailure_cons h.noFailure (not_not.mpr hok), ?_⟩
  intro st hst
  unfold roundStates at hst
  split at hst
  · rcases List.mem_cons.mp hst with rfl | hst
    · exact hstate
    · exact h.noError st hst
  · exact h.noError st hst

theorem valError_ne : valError ≠ 0 := by decide

/-- The return code of the two teardowns, `VAL_ERROR`, is not `VAL_SUCCESS`. -/
theorem one_ne_success : (some 1 : Option UInt32) ≠ some 0 := by decide

/-- The state that is read decides: a round that goes on is ready for the next, and one that returns 0
has reached the target. -/
theorem Between.verdict (h : Between d target x evs) (hnext : EnterOk evs s.enter)
    (hbefore : s.log = evs ++ l₀) (st : SmcRet) :
    RoundOk d target l₀
      (d.verdict target x.flags st, { s with log := .smc d.getState st :: s.log }) := by
  have hlog : (.smc d.getState st :: s.log : DevLog) = (.smc d.getState st :: evs) ++ l₀ :=
    congrArg _ hbefore
  have hconf : Conforms (.smc d.getState st :: evs) := ⟨trivial, h.conforms⟩
  unfold Device.verdict
  by_cases hst : st.x0 ≠ 0
  · rw [if_pos hst]
    exact .failed hlog hconf valError_ne
  rw [if_neg hst]
  by_cases htarget : st.x1 = target
  · rw [if_pos htarget]
    have hafter := h.readState (not_not.mp hst) fun _ => htarget
    refine ⟨_, hlog, hconf, fun _ => ?_, fun h0 => ?_⟩
    · exact ⟨hconf, hnext, hafter.noFailure, hafter.noError⟩
    · have hflags : x.flags = 0 := by
        by_contra hne
        rw [if_neg hne] at h0
        nomatch h0
      refine ⟨?_, ⟨x, hafter.exit, hflags⟩, hafter.noFailure, hafter.noError⟩
      unfold lastState
      rw [if_pos rfl, htarget]
  rw [if_neg htarget]
  by_cases herror : st.x1 = d.errorState
  · rw [if_pos herror]
    exact .failed hlog hconf valError_ne
  rw [if_neg herror]
  have hafter := h.readState (not_not.mp hst) fun heq => absurd heq herror
  exact ⟨_, hlog, hconf, fun _ => ⟨hconf, hnext, hafter.noFailure, hafter.noError⟩, nofun⟩

/-- **One round.**  Between two rounds the history conforms and the enter page is what the next
COMMUNICATE has to carry; a round that goes on leaves it so again, and a round that returns 0 has
reached the target. -/
theorem devRound_ok (env : DevEnv) (hlog : s.log = evs ++ l₀) (h : Ready d target evs s.enter) :
    RoundOk d target l₀ (devRound env d target s) := by
  have hlog₀ (r : DevCommReturn) : (s.afterExit d r).log =
      (.communicate d.communicate s.enter r :: evs) ++ l₀ := congrArg _ hlog
  have hconf₀ (r : DevCommReturn) : Conforms (.communicate d.communicate s.enter r :: evs) :=
    ⟨h.next, h.conforms⟩
  have hexit (r : DevCommReturn) (hx0 : r.x0 = 0) :
      Between d target r.exit (.communicate d.communicate s.enter r :: evs) :=
    ⟨hconf₀ r, rfl, noFailure_cons h.noFailure (not_not.mpr hx0), h.noError⟩
  have hcache (r : DevCommReturn) (hx0 : r.x0 = 0) := cache_stage r (hlog₀ r) (hexit r hx0) rfl
  refine devRound_cases env d target s ?_ ?_ ?_ ?_
  · intro r _
    exact .failed (hlog₀ r) (hconf₀ r) valError_ne
  · intro r hx0 hrc
    obtain ⟨evs₁, hlog₁, hconf₁, -⟩ := hcache r hx0
    exact .failed hlog₁ hconf₁ hrc
  · intro r s₁ hx0 hc hrc
    obtain ⟨evs₁, hlog₁, -, hmid⟩ := hcache r hx0
    rw [hc] at hlog₁ hmid
    obtain ⟨hbetween, -, hdone⟩ := hmid rfl
    obtain ⟨evs₂, hlog₂, hconf₂, -⟩ := doe_stage env hlog₁ hbetween hdone
    exact .failed hlog₂ hconf₂ hrc
  · intro r s₁ s₂ st hx0 hc hsent
    obtain ⟨evs₁, hlog₁, -, hmid⟩ := hcache r hx0
    rw [hc] at hlog₁ hmid
    obtain ⟨hbetween, -, hdone⟩ := hmid rfl
    obtain ⟨evs₂, hlog₂, -, hmid₂⟩ := doe_stage env hlog₁ hbetween hdone
    rw [hsent] at hlog₂ hmid₂
    obtain ⟨hbefore, hnext⟩ := hmid₂ rfl
    exact hbefore.verdict hnext hlog₂ st

end Round

/-! ## 6. A run -/

/-- **The loop.** -/
theorem devLoop_ok (env : DevEnv) {d : Device} {target : UInt64} {l₀ evs : DevLog} {s : CommState}
    (n : ℕ) (hlog : s.log = evs ++ l₀) (h : Ready d target evs s.enter) :
    RoundOk d target l₀ (devLoop env d target n s) := by
  induction n generalizing evs s with
  | zero => exact ⟨evs, hlog, h.conforms, fun _ => h, nofun⟩
  | succ n ih =>
    have hround := devRound_ok env hlog h
    unfold devLoop
    generalize devRound env d target s = r at hround
    obtain ⟨rc, s'⟩ := r
    cases rc with
    | some rc => exact hround
    | none =>
      obtain ⟨evs', hlog', -, hready, -⟩ := hround
      exact ih hlog' (hready rfl)

/-- **Device communication follows the protocol.**  For every sequence of answers of the RMM and of
the mailbox, and for any number of rounds: the first COMMUNICATE carries NONE; every later one carries
RESPONSE, with the length of the exchange before it, if the exit before it asked to send, and NONE
otherwise; what an exit asks to be cached is cached before its request is sent.  If the function
returns 0 then the last state read is the target, the last exit had no flags, no step has failed, and
no round has read the error state, unless that is the target.  (The read before the first round only
has to succeed.) -/
theorem communicate_follows_protocol (env : DevEnv) (rd : UInt64) (pdevObj : Option PdevObj)
    (vdevObj : Option VdevObj) (targetState : UInt8) (n : ℕ) (s : CommState) :
    ∃ evs, (valHostDevCommunicate env rd pdevObj vdevObj targetState n s).2.log = evs ++ s.log ∧
      Conforms evs ∧
      ((valHostDevCommunicate env rd pdevObj vdevObj targetState n s).1 = some 0 →
        ∃ p, pdevObj = some p ∧ ReachedTarget ⟨rd, p, vdevObj⟩ targetState.toUInt64 evs) := by
  cases pdevObj with
  | none => exact ⟨[], rfl, trivial, nofun⟩
  | some p =>
    unfold valHostDevCommunicate valHostDevGetState DevEnv.call
    dsimp only
    generalize env.smc s.log (Device.getState ⟨rd, p, vdevObj⟩) = r
    by_cases hx0 : r.x0 ≠ 0
    · rw [if_pos hx0]
      exact ⟨[.smc _ r], rfl, ⟨trivial, trivial⟩, nofun⟩
    · rw [if_neg hx0]
      have hready : Ready ⟨rd, p, vdevObj⟩ targetState.toUInt64
          [.smc (Device.getState ⟨rd, p, vdevObj⟩) r] ⟨.none, 0⟩ := by
        refine ⟨⟨trivial, trivial⟩, rfl, noFailure_cons (fun _ he => nomatch he) hx0, ?_⟩
        intro st hst
        unfold roundStates at hst
        rw [if_neg fun hc => absurd hc.2 (by decide)] at hst
        nomatch hst
      have hlog₀ : ({ s with enter := ⟨.none, 0⟩, log := .smc (Device.getState ⟨rd, p, vdevObj⟩) r ::
          s.log } : CommState).log = [.smc (Device.getState ⟨rd, p, vdevObj⟩) r] ++ s.log := rfl
      obtain ⟨evs, hlog, hconf, -, hzero⟩ := devLoop_ok env n hlog₀ hready
      exact ⟨evs, hlog, hconf, fun h0 => ⟨p, rfl, hzero h0⟩⟩

/-- No state read is the error state, the first one included. -/
def NoErrorSeen (d : Device) (l : DevLog) : Prop :=
  ∀ e ∈ l, ∀ r, e = .smc d.getState r → r.x1 ≠ d.errorState

/-- A device that is in its error state until COMMUNICATE is called, and READY afterwards. -/
def recoveringEnv : DevEnv where
  smc l _ := ⟨0, if (lastExit l).isSome then 3 else rmiPdevError, 0⟩
  communicate _ _ _ := ⟨0, ⟨0, 0, 0, 0, 0, 0, 0, 0⟩, fun _ => 0, fun _ => 0⟩
  doe _ _ _ := (0, 0)
  alloc _ _ _ := 0

/-- **The first state read is not looked at**: it is the error state, and 0 is returned. -/
theorem communicate_after_error_state :
    (valHostDevCommunicate recoveringEnv 0 (some ⟨0x88000000, 0x88001000⟩) none 3 1
        ⟨⟨.none, 0⟩, .empty, []⟩).1 = some 0 ∧
      ¬ NoErrorSeen ⟨0, ⟨0x88000000, 0x88001000⟩, none⟩
        (valHostDevCommunicate recoveringEnv 0 (some ⟨0x88000000, 0x88001000⟩) none 3 1
          ⟨⟨.none, 0⟩, .empty, []⟩).2.log := by
  refine ⟨by decide, fun h => ?_⟩
  exact h (.smc (.pdevGetState 0x88000000) ⟨0, rmiPdevError, 0⟩)
    (List.mem_cons_of_mem _ (List.mem_cons_of_mem _ List.mem_cons_self)) _ rfl rfl

end RmmAcs.Dev
