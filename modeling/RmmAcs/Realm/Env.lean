/-
# What the realm functions of `val_host_realm.c` talk to

The functions that build a realm -- its tables, its RECs, its data -- decide nothing by
themselves.  They ask the allocator for memory and the RMM for commands, and every branch they
take is an answer to such a question: memory or `NULL`, status 0 or an error.  So what stands
around them is an environment that answers each question from the history of questions and
answers, and WHICH question fails is not theirs to choose.

Nothing is assumed of the allocator.  Of the RMM it is assumed, where anything is, that what it
accepts is legal (`Env.Legal`, on the same account of legality as the granule tracker's).

The tracker itself does not appear: no branch of these functions reads it, and a wrapper of
`val_host_rmi.c` that returns has issued its one command and returns its status, whatever it told
the tracker in between (`valHostRmi_trace`).
-/
import RmmAcs.Alloc
import RmmAcs.Rmm
import RmmAcs.Tracker.Rmi

namespace RmmAcs.Realm

open RmmAcs Lib Rmm

/-! ## 1. Events -/

/-- `RMI_*`: the commands of the tracker's wrappers, and those the tracker does not follow. -/
inductive Smc where
  | rmi (c : Cmd)
  | rttReadEntry (rd ipa level : UInt64)
  | recAuxCount (rd : UInt64)
  | rttInitRipas (rd base top : UInt64)
  | rttSetS2ap (rd recPa base top : UInt64)
  | recEnter (recPa runPtr : UInt64)
  | realmActivate (rd : UInt64)
  | vdevMap (rd vdev ipa level addr : UInt64)
  | vdevUnmap (rd ipa level : UInt64)
deriving DecidableEq, Repr

/-- `val_host_realm_params_ts`, as far as `val_host_realm_create` fills it in. -/
structure RealmParams where
  flags : UInt64
  flags1 : UInt64
  pmuNumCtrs : UInt32
  s2sz : UInt32
  rttBase : UInt64
  hashAlgo : UInt8
  rttLevelStart : UInt64
  rttNumStart : UInt32
  vmid : UInt16
  auxVmid : List UInt16
  numAuxPlanes : UInt8
  auxRttBase : List UInt64
  numBps : UInt32
  numWps : UInt32
  mecid : UInt64
  rpv : List UInt8
deriving DecidableEq, Repr

/-- `val_host_rec_params_ts`; the general-purpose registers are all zero. -/
structure RecParams where
  flags : UInt64
  mpidr : UInt64
  pc : UInt64
  numAux : UInt64
  aux : List UInt64
deriving DecidableEq, Repr

/-- What passes between the host and the rest: a command and its answer, a request for memory and
the address handed out (0 is `NULL`), and the parameter pages the RMM reads. -/
inductive Event where
  | smc (c : Smc) (r : SmcRet)
  | alloc (alignment size addr : UInt64)
  | realmParams (ptr : UInt64) (params : RealmParams)
  | recParams (ptr : UInt64) (params : RecParams)
deriving DecidableEq, Repr

/-- The events so far, oldest first. -/
abbrev Log := List Event

/-- The other side: an answer to every question after every history. -/
structure Env where
  smc : Log → Smc → SmcRet
  alloc : Log → UInt64 → UInt64 → UInt64

/-- `val_smc_call`, under the wrappers of `val_host_rmi.c`. -/
def Env.call (env : Env) (c : Smc) (l : Log) : SmcRet × Log :=
  let r := env.smc l c
  (r, l ++ [.smc c r])

/-- A wrapper of `val_host_rmi.c`: its command, and the status it returns. -/
def Env.rmi (env : Env) (c : Cmd) (l : Log) : UInt64 × Log :=
  let (r, l) := env.call (.rmi c) l
  (r.x0, l)

/-- A call of `val_host_mem_alloc`. -/
def Env.malloc (env : Env) (alignment size : UInt64) (l : Log) : UInt64 × Log :=
  let addr := env.alloc l alignment size
  (addr, l ++ [.alloc alignment size addr])

/-! ## 2. Reading a log -/

/-- The RMM's part of an event. -/
def Event.command : Event → Option (Cmd × SmcRet)
  | .smc (.rmi c) r => some (c, r)
  | _ => none

/-- The history the RMM has seen of its state-changing commands. -/
def trace (l : Log) : Trace := l.filterMap Event.command

@[simp] theorem trace_append (l l' : Log) : trace (l ++ l') = trace l ++ trace l' :=
  List.filterMap_append

@[simp] theorem trace_nil : trace [] = [] := rfl

/-- What is no command leaves the history alone. -/
theorem trace_append_other (l : Log) {e : Event} (he : e.command = none) :
    trace (l ++ [e]) = trace l := by
  rw [trace_append, trace, trace, List.filterMap_cons_none he, List.filterMap_nil, List.append_nil]

/-- A granule whose delegation the RMM accepted. -/
def Event.delegated : Event → Option UInt64
  | .smc (.rmi (.granuleDelegate a)) r => if r.x0 = 0 then some a else none
  | _ => none

/-- A granule whose undelegation was asked for, whatever the answer. -/
def Event.undelegated : Event → Option UInt64
  | .smc (.rmi (.granuleUndelegate a)) _ => some a
  | _ => none

/-- Memory that was handed out. -/
def Event.served : Event → Option UInt64
  | .alloc _ _ addr => if addr = 0 then none else some addr
  | _ => none

/-- The granules delegated over a stretch of the log. -/
def delegations (l : Log) : List UInt64 := l.filterMap Event.delegated

/-- The undelegations asked for over a stretch of the log. -/
def undelegations (l : Log) : List UInt64 := l.filterMap Event.undelegated

/-- The allocations that succeeded over a stretch of the log. -/
def allocations (l : Log) : List UInt64 := l.filterMap Event.served

section Append

variable (l l' : Log)

@[simp] theorem delegations_append : delegations (l ++ l') = delegations l ++ delegations l' :=
  List.filterMap_append

@[simp] theorem undelegations_append :
    undelegations (l ++ l') = undelegations l ++ undelegations l' :=
  List.filterMap_append

@[simp] theorem allocations_append : allocations (l ++ l') = allocations l ++ allocations l' :=
  List.filterMap_append

end Append

/-- What a call added to the log. -/
def own (before after : Log) : Log := after.drop before.length

@[simp] theorem own_append (l seg : Log) : own l (l ++ seg) = seg := by simp [own]

theorem own_snoc {l L : Log} (h : ∃ seg, L = l ++ seg) (e : Event) :
    own l (L ++ [e]) = own l L ++ [e] := by
  obtain ⟨seg, rfl⟩ := h
  rw [List.append_assoc, own_append, own_append]

/-- What a call did to the RMM's state, from nothing: the granules it delegated and has not given
back, the objects it made that are still there. -/
def held (seg : Log) : RmmState := replay (trace seg)

/-! ## 3. A legal RMM -/

/-- **What is assumed of the RMM**: it accepts only what is legal. -/
def Env.Legal (env : Env) : Prop :=
  ∀ l c, (env.smc l (.rmi c)).x0 = 0 → (replay (trace l)).Legal c

theorem trace_call_rmi (env : Env) (c : Cmd) (l : Log) :
    trace (env.rmi c l).2 = trace l ++ [(c, env.smc l (.rmi c))] := by
  simp [Env.rmi, Env.call, trace, Event.command]

/-- A granule that a stretch of history leaves delegated is delegated, whatever came before. -/
theorem replay_delegated_of_suffix {a : UInt64} (tr : Trace) {seg : Trace}
    (h : a ∈ (replay seg).delegated) : a ∈ (replay (tr ++ seg)).delegated := by
  induction seg using List.reverseRecOn with
  | nil => exact absurd h List.not_mem_nil
  | append_singleton seg e ih =>
    obtain ⟨c, r⟩ := e
    rw [← List.append_assoc, replay_snoc]
    rw [replay_snoc] at h
    split at h
    · rename_i h0
      rw [if_pos h0]
      cases c with
      | granuleDelegate b =>
        rcases List.mem_cons.mp h with rfl | h
        · exact List.mem_cons_self
        · exact List.mem_cons_of_mem _ (ih h)
      | granuleUndelegate b =>
        obtain ⟨h, hne⟩ := List.mem_filter.mp h
        exact List.mem_filter.mpr ⟨ih h, hne⟩
      | _ => exact ih h
    · rename_i h0
      rw [if_neg h0]
      exact ih h

theorem held_rmi (seg : Log) (c : Cmd) (r : SmcRet) :
    held (seg ++ [.smc (.rmi c) r]) = if r.x0 = 0 then (held seg).apply c else held seg := by
  rw [held, trace_append]
  exact replay_snoc (trace seg) c r

theorem held_append_other (seg : Log) {e : Event} (he : e.command = none) :
    held (seg ++ [e]) = held seg := by
  rw [held, trace_append_other seg he]
  rfl

theorem replay_append_rmi (l₀ seg : Log) (c : Cmd) (r : SmcRet) :
    replay (trace (l₀ ++ (seg ++ [.smc (.rmi c) r])))
      = if r.x0 = 0 then (replay (trace (l₀ ++ seg))).apply c else replay (trace (l₀ ++ seg)) := by
  rw [← List.append_assoc, trace_append]
  exact replay_snoc (trace (l₀ ++ seg)) c r

theorem replay_append_other (l₀ seg : Log) {e : Event} (he : e.command = none) :
    replay (trace (l₀ ++ (seg ++ [e]))) = replay (trace (l₀ ++ seg)) := by
  rw [← List.append_assoc, trace_append_other _ he]

theorem replay_rmi_call (env : Env) (c : Cmd) (l : Log) :
    replay (trace (env.rmi c l).2)
      = if (env.rmi c l).1 = 0 then (replay (trace l)).apply c else replay (trace l) := by
  rw [trace_call_rmi, replay_snoc]
  rfl

/-- The objects after a command. -/
theorem objs_rmi (env : Env) (c : Cmd) (L : Log) :
    (replay (trace (env.rmi c L).2)).objs
      = if (env.rmi c L).1 = 0 then ((replay (trace L)).apply c).objs
        else (replay (trace L)).objs := by
  rw [replay_rmi_call]
  split <;> rfl

theorem mem_apply_delegated {R : RmmState} {c : Cmd} {a : UInt64} (h : a ∈ R.delegated)
    (hc : c ≠ .granuleUndelegate a) : a ∈ (R.apply c).delegated := by
  cases c with
  | granuleDelegate b => exact List.mem_cons_of_mem _ h
  | granuleUndelegate b =>
    refine List.mem_filter.mpr ⟨h, ?_⟩
    have hne : a ≠ b := fun hab => hc (by rw [hab])
    simpa using hne
  | _ => exact h

theorem held_delegated_rmi {seg : Log} {a : UInt64} (h : a ∈ (held seg).delegated) {c : Cmd}
    (hc : c ≠ .granuleUndelegate a) (r : SmcRet) :
    a ∈ (held (seg ++ [.smc (.rmi c) r])).delegated := by
  rw [held_rmi]
  split
  · exact mem_apply_delegated h hc
  · exact h

theorem held_objs_rmi {seg : Log} {o : Obj} (h : o ∈ (held seg).objs) {c : Cmd}
    (hc : c.kills o = false) (r : SmcRet) : o ∈ (held (seg ++ [.smc (.rmi c) r])).objs := by
  rw [held_rmi]
  split
  · exact RmmState.mem_apply_objs.mpr (Or.inl ⟨h, hc⟩)
  · exact h

/-- `Holds l₀ a l`: between `l₀` and `l` the granule at `a` was delegated, and not given back. -/
def Holds (l₀ : Log) (a : UInt64) (l : Log) : Prop :=
  ∃ seg, l = l₀ ++ seg ∧ a ∈ (held seg).delegated

section Holds

variable {env : Env} {l₀ l : Log} {a : UInt64}

theorem Holds.append (h : Holds l₀ a l) {e : Event} (he : e.command = none) :
    Holds l₀ a (l ++ [e]) := by
  obtain ⟨seg, rfl, ha⟩ := h
  refine ⟨seg ++ [e], by simp, ?_⟩
  rw [held_append_other seg he]
  exact ha

theorem Holds.malloc (h : Holds l₀ a l) (env : Env) (alignment size : UInt64) :
    Holds l₀ a (env.malloc alignment size l).2 := h.append rfl

theorem Holds.rmi (h : Holds l₀ a l) (env : Env) {c : Cmd} (hc : c ≠ .granuleUndelegate a) :
    Holds l₀ a (env.rmi c l).2 := by
  obtain ⟨seg, rfl, ha⟩ := h
  exact ⟨seg ++ [.smc (.rmi c) (env.smc (l₀ ++ seg) (.rmi c))], by simp [Env.rmi, Env.call],
    held_delegated_rmi ha hc _⟩

theorem Holds.delegate (h0 : (env.rmi (.granuleDelegate a) l).1 = 0) :
    Holds l a (env.rmi (.granuleDelegate a) l).2 := by
  refine ⟨[.smc (.rmi (.granuleDelegate a)) (env.smc l (.rmi (.granuleDelegate a)))], rfl, ?_⟩
  have hsingle := held_rmi [] (.granuleDelegate a) (env.smc l (.rmi (.granuleDelegate a)))
  rw [List.nil_append] at hsingle
  have h0' : (env.smc l (.rmi (.granuleDelegate a))).x0 = 0 := h0
  rw [hsingle, if_pos h0']
  exact List.mem_cons_self

/-- What is held since later is held since earlier. -/
theorem Holds.of_append {seg : Log} (h : Holds (l₀ ++ seg) a l) : Holds l₀ a l := by
  obtain ⟨seg', rfl, ha⟩ := h
  refine ⟨seg ++ seg', by simp, ?_⟩
  rw [held, trace_append]
  exact replay_delegated_of_suffix _ ha

/-- A granule that is held cannot be delegated again. -/
theorem Holds.ne_of_delegate (h : Holds l₀ a l) (henv : env.Legal) {b : UInt64}
    (h0 : (env.rmi (.granuleDelegate b) l).1 = 0) : b ≠ a := by
  rintro rfl
  obtain ⟨seg, rfl, ha⟩ := h
  refine (henv _ _ h0).2 ?_
  rw [trace_append]
  exact replay_delegated_of_suffix _ ha

/-- What is held at the end of a call was not given back by it. -/
theorem Holds.mem_own (h : Holds l₀ a l) : a ∈ (held (own l₀ l)).delegated := by
  obtain ⟨seg, rfl, ha⟩ := h
  rwa [own_append]

end Holds

/-- `Adds P l L`: all that came to the log between `l` and `L` is of the kind `P`. -/
def Adds (P : Event → Prop) (l L : Log) : Prop := ∃ seg, L = l ++ seg ∧ ∀ e ∈ seg, P e

section Adds

variable {env : Env} {P : Event → Prop} {l L : Log}

theorem Adds.refl (P : Event → Prop) (l : Log) : Adds P l l :=
  ⟨[], by simp, fun _ he => absurd he List.not_mem_nil⟩

theorem Adds.snoc (h : Adds P l L) {e : Event} (he : P e) : Adds P l (L ++ [e]) := by
  obtain ⟨seg, rfl, hseg⟩ := h
  refine ⟨seg ++ [e], by simp, fun x hx => ?_⟩
  rcases List.mem_append.mp hx with hx | hx
  · exact hseg x hx
  · rw [List.mem_singleton.mp hx]
    exact he

theorem Adds.trans {l₁ : Log} (h : Adds P l l₁) (h' : Adds P l₁ L) : Adds P l L := by
  obtain ⟨seg, rfl, hseg⟩ := h
  obtain ⟨seg', rfl, hseg'⟩ := h'
  refine ⟨seg ++ seg', by simp, fun e he => ?_⟩
  rcases List.mem_append.mp he with he | he
  · exact hseg e he
  · exact hseg' e he

theorem Adds.mono {Q : Event → Prop} (h : Adds P l L) (hPQ : ∀ e, P e → Q e) : Adds Q l L := by
  obtain ⟨seg, rfl, hseg⟩ := h
  exact ⟨seg, rfl, fun e he => hPQ e (hseg e he)⟩

theorem Adds.malloc (h : Adds P l L) (env : Env) (alignment size : UInt64)
    (hP : ∀ addr, P (.alloc alignment size addr)) :
    Adds P l (env.malloc alignment size L).2 := h.snoc (hP _)

theorem Adds.call (h : Adds P l L) (env : Env) {c : Smc} (hP : ∀ r, P (.smc c r)) :
    Adds P l (env.call c L).2 := h.snoc (hP _)

theorem Adds.rmi (h : Adds P l L) (env : Env) {c : Cmd} (hP : ∀ r, P (.smc (.rmi c) r)) :
    Adds P l (env.rmi c L).2 := h.snoc (hP _)

end Adds

/-! ## 4. The wrappers and the heap below -/

/-- A wrapper that returns has issued its command, and returns the RMM's answer. -/
theorem valHostRmi_trace {rmm : Monitor} {c : Cmd} {h h' : Granules.Host} {r : SmcRet}
    (hc : Granules.valHostRmi rmm c h = .ok (r, h')) :
    r = rmm h.trace c ∧ h'.trace = h.trace ++ [(c, r)] := by
  obtain ⟨track, hshape, -⟩ := Granules.valHostRmi_shape rmm c
  rw [hshape] at hc
  unfold Granules.rmiCall Granules.valSmcCall at hc
  dsimp only at hc
  split at hc
  · obtain ⟨rfl, rfl⟩ := Prod.mk.inj (Except.ok.inj hc)
    exact ⟨rfl, rfl⟩
  · cases ht : track h.tracker with
    | error e =>
      rw [ht] at hc
      exact absurd hc (by simp [bind, Except.bind])
    | ok t =>
      rw [ht] at hc
      obtain ⟨rfl, rfl⟩ := Prod.mk.inj (Except.ok.inj hc)
      exact ⟨rfl, rfl⟩

/-- What an event takes from the heap: the memory asked for, or the tracker's node for a granule
delegated. -/
def Event.take : Event → HeapState → HeapState
  | .alloc alignment size _, h => (valHostMemAlloc alignment size h).2
  | .smc (.rmi (.granuleDelegate _)) r, h =>
    if r.x0 = 0 then (memAlloc sizeofGranule sizeofGranule h).2 else h
  | _, h => h

/-- The environment of the suite: the one heap of `val_host_alloc.c`, and an RMM. -/
def heapEnv (heap : HeapState) (smc : Log → Smc → SmcRet) : Env where
  smc := smc
  alloc := fun l alignment size =>
    (valHostMemAlloc alignment size (l.foldl (fun h e => e.take h) heap)).1

/-- The host issues these commands, one after another. -/
def issue (env : Env) (cs : List Cmd) : Log := cs.foldl (fun l c => (env.rmi c l).2) []

/-- The RMM that accepts exactly the legal commands, but for those it is made to refuse; `asked`
are its answers to the commands the tracker does not follow. -/
def faultyRmm (refuse : Trace → Cmd → Bool) (asked : Smc → SmcRet) (l : Log) : Smc → SmcRet
  | .rmi c =>
    if refuse (trace l) c = false ∧ (replay (trace l)).Legal c then ⟨0, 0, 0⟩ else ⟨1, 0, 0⟩
  | c => asked c

theorem faultyRmm_legal (heap : HeapState) (refuse : Trace → Cmd → Bool) (asked : Smc → SmcRet) :
    (heapEnv heap (faultyRmm refuse asked)).Legal := by
  intro l c h0
  by_contra hno
  have hfalse : ¬(refuse (trace l) c = false ∧ (replay (trace l)).Legal c) := fun h => hno h.2
  have hret : (faultyRmm refuse asked l (.rmi c)).x0 = 1 := by simp only [faultyRmm, if_neg hfalse]
  exact absurd (hret.symm.trans h0) (by decide)

end RmmAcs.Realm
