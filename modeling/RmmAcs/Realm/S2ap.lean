/-
# Changes of stage 2 permissions: `val_host_set_s2ap`

A realm with planes asks for a change of access permissions by leaving its REC with a range.  The
host passes the range to RTT_SET_S2AP until all of it is done, creating the tables the RMM misses,
and enters the REC again; the realm may ask again, and the function ends when it does not.

RTT_SET_S2AP does as much as it can and answers in `x1` where it stopped.  The function knows four
statuses: success, the two errors of a missing table, after which it tries the same base again, and
RMI_ERROR_INPUT, with which it gives up.  Any OTHER error is treated as a success, and the `x1` of a
failed call is taken for the place where it stopped.  So a function that returns `VAL_SUCCESS` has
made the changes it was asked for if and only if no such answer has moved it
(`s2ap_change_complete_iff`).
-/
import RmmAcs.Lib.Tiling
import RmmAcs.Realm.AuxMapping
import RmmAcs.Realm.Steps

namespace RmmAcs.Realm

open RmmAcs Lib Rmm

/-! ## 1. The function -/

/-- `RMI_EXIT_HOST_CALL`. -/
def rmiExitHostCall : UInt64 := 5

/-- `RMI_EXIT_S2AP_CHANGE`. -/
def rmiExitS2apChange : UInt64 := 7

/-- `VAL_REALM_PRINT_MSG`. -/
def valRealmPrintMsg : UInt64 := 6

/-- `val_host_rec_exit_ts`, as far as the host reads it here. -/
structure RecExit where
  exitReason : UInt64
  imm : UInt64
  s2apBase : UInt64
  s2apTop : UInt64
deriving DecidableEq, Repr

section Function

-- `exits` is what the run page of the REC says after a history: the RMM writes it
variable (env : Env) (exits : Log → RecExit) (realm : HostRealm)

/-- `val_host_rmi_rec_enter`: a REC that left only to print is entered again.  `none` is a call
that has not returned after so many rounds. -/
def valHostRmiRecEnter (recPa runPtr : UInt64) : ℕ → Log → Option (UInt64 × Log)
  | 0, _ => none
  | n + 1, l =>
    let (r, l) := env.call (.recEnter recPa runPtr) l
    if r.x0 = 0 ∧ (exits l).exitReason = rmiExitHostCall ∧ (exits l).imm = valRealmPrintMsg then
      valHostRmiRecEnter recPa runPtr n l
    else some (r.x0, l)

/-- `for (i = 0; i < realm->num_aux_planes; i++)`: the tables of all auxiliary trees. -/
def createAuxMappings (ipa : UInt64) : Code Log Unit :=
  Code.loop (fun i => valHostCreateAuxMapping env realm.rd ipa (UInt64.ofNat i + 1))
    realm.numAuxPlanes.toNat

/-- `while (s2ap_ipa_base != s2ap_ipa_top)`; `true` is falling through, `false` is
`return VAL_ERROR`. -/
def s2apLoop (top : UInt64) : ℕ → UInt64 → Log → Option (Bool × Log)
  | 0, _, _ => none
  | n + 1, base, l =>
    if base = top then some (true, l)
    else
      let (r, l) := env.call (.rttSetS2ap realm.rd (realm.recPa 0) base top) l
      if rmiStatus r.x0 = rmiErrorRtt then
        let (ret, l) := createMapping env realm.rd base false l
        if ret = none then s2apLoop top n base l else some (false, l)
      else if rmiStatus r.x0 = rmiErrorRttAux then
        let (ret, l) := createAuxMappings env realm base l
        if ret = none then s2apLoop top n base l else some (false, l)
      else if rmiStatus r.x0 = rmiErrorInput then some (false, l)
      else s2apLoop top n r.x1 l

/-- `val_host_set_s2ap`; `true` is `VAL_SUCCESS`.  The loops inside get `fuel` rounds each. -/
def valHostSetS2ap (fuel : ℕ) : ℕ → Log → Option (Bool × Log)
  | 0, _ => none
  | n + 1, l =>
    if (exits l).exitReason ≠ rmiExitS2apChange then some (true, l)
    else
      match s2apLoop env realm (exits l).s2apTop fuel (exits l).s2apBase l with
      | some (true, l) =>
        match valHostRmiRecEnter env exits (realm.recPa 0) (realm.runPa 0) fuel l with
        | some (ret, l) => if ret ≠ 0 then some (false, l) else valHostSetS2ap fuel n l
        | none => none
      | r => r

end Function

/-! ## 2. What it was asked, and what it did -/

/-- A RTT_SET_S2AP as the loop sees it: after an error of a missing table it goes on with the same
base, after anything else with `x1`.  Only RMI_SUCCESS is a success. -/
def Event.s2apAttempt : Event → Option (Attempt ℕ)
  | .smc (.rttSetS2ap _ _ base _) r =>
    some ⟨base.toNat,
      if rmiStatus r.x0 = rmiErrorRtt ∨ rmiStatus r.x0 = rmiErrorRttAux then base.toNat
      else r.x1.toNat,
      rmiStatus r.x0 == 0⟩
  | _ => none

def s2apAttempts (seg : Log) : List (Attempt ℕ) := seg.filterMap Event.s2apAttempt

/-- The REC is entered. -/
def Event.enters : Event → Bool
  | .smc (.recEnter _ _) _ => true
  | _ => false

/-- The exits for a change of permissions that a stretch of the log answers, each with the events
from it to the next entry.  `p` is the log up to the last exit, and `acc` what has come since. -/
def handled (exits : Log → RecExit) : Log → Log → Log → List (RecExit × Log)
  | _, _, [] => []
  | p, acc, e :: es =>
    if e.enters then
      (if (exits p).exitReason = rmiExitS2apChange then [(exits p, acc)] else [])
        ++ handled exits (p ++ acc ++ [e]) [] es
    else handled exits p (acc ++ [e]) es

/-- **The change is made**: the calls that succeeded tile the range asked for, and a call that
failed has not moved the base.  (`linked` says that `next` is where the function really went on.) -/
structure S2apChanged (exit : RecExit) (seg : Log) : Prop where
  linked : Linked exit.s2apBase.toNat (s2apAttempts seg) exit.s2apTop.toNat
  tiles : Tiles exit.s2apBase.toNat (done (s2apAttempts seg)) exit.s2apTop.toNat
  failed : ∀ c ∈ s2apAttempts seg, c.ok = false → c.next = c.start

/-! ## 3. The tables -/

/-- Neither a call of RTT_SET_S2AP nor an entry. -/
def Event.Aside (e : Event) : Prop := e.s2apAttempt = none ∧ e.enters = false

theorem aside_rmi (c : Cmd) (r : SmcRet) : Event.Aside (.smc (.rmi c) r) := ⟨rfl, rfl⟩

theorem aside_alloc (alignment size addr : UInt64) : Event.Aside (.alloc alignment size addr) :=
  ⟨rfl, rfl⟩

section Tables

variable {env : Env} {rd ipa index : UInt64} {l L : Log}

/-- Code that only works on the tables. -/
def WorksAside (p : Code Log Unit) : Prop :=
  ∀ l, Code.Triple (Adds Event.Aside l) p (Adds Event.Aside l) fun _ => Adds Event.Aside l

theorem delegateGranule_aside (env : Env) (h : Adds Event.Aside l L) :
    Adds Event.Aside l (valHostDelegateGranule env L).2 := by
  have hmalloc := h.malloc env pageSize pageSize fun _ => aside_alloc _ _ _
  have hdel := hmalloc.rmi env fun r =>
    aside_rmi (.granuleDelegate (env.malloc pageSize pageSize L).1) r
  unfold valHostDelegateGranule
  dsimp only
  split
  · exact hmalloc
  · split
    · exact hdel
    · exact hdel

theorem createMappingLevel_aside (env : Env) (rd ipa size level : UInt64) :
    WorksAside (createMappingLevel env rd ipa size level) := by
  intro l L h
  have hgran := delegateGranule_aside env h
  unfold createMappingLevel
  dsimp only
  split
  · exact hgran
  · split
    · exact hgran.rmi env fun r => aside_rmi _ r
    · exact hgran.rmi env fun r => aside_rmi _ r

theorem createMappingRipas_aside (env : Env) (rd ipa : UInt64) :
    WorksAside (createMappingRipas env rd ipa) := by
  intro l L h
  unfold createMappingRipas
  dsimp only
  split
  · exact h.call env fun r => ⟨rfl, rfl⟩
  · exact h.call env fun r => ⟨rfl, rfl⟩

theorem WorksAside.guarded {p : Code Log Unit} (h : WorksAside p) (b : Log → Bool) :
    WorksAside (Code.guarded b p) := fun l =>
  Code.Triple.guarded ((h l).conseq (fun _ hs => hs.1) (fun _ hs => hs) fun _ _ hs => hs)
    fun _ hs _ => hs

theorem createMapping_aside (env : Env) (rd ipa : UInt64) (ripasInit : Bool) :
    WorksAside (createMapping env rd ipa ripasInit) := by
  intro l L h
  have hread := h.call env (c := .rttReadEntry rd ipa 3) fun r => ⟨rfl, rfl⟩
  unfold createMapping
  dsimp only
  split
  · exact hread
  · exact (((createMappingLevel_aside env rd ipa l0Size 1).guarded _ l).cons
      (((createMappingLevel_aside env rd ipa l1Size 2).guarded _ l).cons
        (((createMappingLevel_aside env rd ipa l2Size 3).guarded _ l).cons
          (((createMappingRipas_aside env rd ipa).guarded _ l).cons Code.triple_nil)))) _ hread

theorem createAuxMappingLevel_aside (env : Env) (rd ipa index : UInt64) (l : Log) :
    Code.Triple (fun s => Adds Event.Aside l s.log) (createAuxMappingLevel env rd ipa index)
      (fun s => Adds Event.Aside l s.log) fun _ s => Adds Event.Aside l s.log := by
  refine Code.Triple.cons (R := fun s => Adds Event.Aside l s.log) ?_ (Code.Triple.cons
    (R := fun s => Adds Event.Aside l s.log) ?_ (Code.Triple.cons ?_ Code.triple_nil))
  · refine Code.Triple.guarded ?_ fun s hs _ => hs
    rintro s ⟨hs, -⟩
    dsimp only
    split
    · exact delegateGranule_aside env hs
    · exact delegateGranule_aside env hs
  · intro s hs
    dsimp only
    split
    · exact hs.rmi env fun r => aside_rmi _ r
    · exact hs.rmi env fun r => aside_rmi _ r
  · exact Code.triple_act fun s hs => hs

theorem createAuxMapping_aside (env : Env) (rd ipa index : UInt64) :
    WorksAside (valHostCreateAuxMapping env rd ipa index) := by
  intro l L h
  have hgran := delegateGranule_aside env h
  have hcreate := hgran.rmi env fun r => aside_rmi (.rttAuxCreate rd (valHostDelegateGranule env L).1
    (addrAlignDown ipa (valHostRttLevelMapsize (valRttMaxLevel - 1))) valRttMaxLevel index) r
  unfold valHostCreateAuxMapping
  dsimp only
  split
  · exact hgran
  split
  · exact hcreate
  split
  · exact hcreate
  split
  · exact hcreate
  · have hloop : ∀ n (s : AuxState), Adds Event.Aside l s.log → Adds Event.Aside l
        (Code.whileLoop (fun s => s.level ≤ valRttMaxLevel)
          (createAuxMappingLevel env rd ipa index) n s).2.log := fun n s hs =>
      Code.exit_same_iff.mp
        (Code.triple_whileLoop_inv (createAuxMappingLevel_aside env rd ipa index l) n s hs)
    exact Code.exit_same_iff.mpr (hloop _ ⟨_, _, _, _⟩ hcreate)

theorem createAuxMappings_aside (env : Env) (realm : HostRealm) (ipa : UInt64) :
    WorksAside (createAuxMappings env realm ipa) := fun l =>
  Code.triple_loop (I := fun _ => Adds Event.Aside l) fun i _ =>
    createAuxMapping_aside env realm.rd ipa (UInt64.ofNat i + 1) l

end Tables

/-! ## 4. The loops -/

section Loops

variable {env : Env} {exits : Log → RecExit} {realm : HostRealm} {l l' p acc seg rest : Log}

theorem s2apAttempts_append (l l' : Log) :
    s2apAttempts (l ++ l') = s2apAttempts l ++ s2apAttempts l' := List.filterMap_append

/-- A call of RTT_SET_S2AP is linked if the rest is, from where the loop goes on. -/
theorem linked_setS2ap {rd recPa base top : UInt64} {r : SmcRet} {b : ℕ}
    (h : Linked (if rmiStatus r.x0 = rmiErrorRtt ∨ rmiStatus r.x0 = rmiErrorRttAux then base.toNat
      else r.x1.toNat) (s2apAttempts seg) b) :
    Linked base.toNat (s2apAttempts (.smc (.rttSetS2ap rd recPa base top) r :: seg)) b := ⟨rfl, h⟩

/-- What is done for the tables is no attempt and no entry. -/
theorem WorksAside.result {q : Code Log Unit} (h : WorksAside q) (l : Log) :
    ∃ seg, (q l).2 = l ++ seg ∧ s2apAttempts seg = [] ∧ ∀ e ∈ seg, e.enters = false := by
  obtain ⟨seg, hl, hseg⟩ := Code.exit_same_iff.mp (h l l (Adds.refl _ l))
  exact ⟨seg, hl, List.filterMap_eq_nil_iff.mpr fun e he => (hseg e he).1, fun e he => (hseg e he).2⟩

/-- **The loop over a range**: the calls are linked, whatever the answers, and the REC is not
entered. -/
theorem s2apLoop_linked {top : UInt64} {n : ℕ} {base : UInt64}
    (h : s2apLoop env realm top n base l = some (true, l')) :
    ∃ seg, l' = l ++ seg ∧ (∀ e ∈ seg, e.enters = false) ∧
      Linked base.toNat (s2apAttempts seg) top.toNat := by
  induction n generalizing base l with
  | zero => exact absurd h (by simp [s2apLoop])
  | succ n ih =>
    unfold s2apLoop at h
    split at h
    · rename_i hend
      obtain rfl := (Prod.mk.inj (Option.some.inj h)).2
      exact ⟨[], by simp, by simp, congrArg UInt64.toNat hend⟩
    dsimp only at h
    -- a missing table: some work on tables, and the same base again
    have hretry : ∀ (q : Code Log Unit), WorksAside q →
        (rmiStatus (env.smc l (.rttSetS2ap realm.rd (realm.recPa 0) base top)).x0 = rmiErrorRtt ∨
          rmiStatus (env.smc l (.rttSetS2ap realm.rd (realm.recPa 0) base top)).x0
            = rmiErrorRttAux) →
        s2apLoop env realm top n base
          (q (env.call (.rttSetS2ap realm.rd (realm.recPa 0) base top) l).2).2 = some (true, l') →
        ∃ seg, l' = l ++ seg ∧ (∀ e ∈ seg, e.enters = false) ∧
          Linked base.toNat (s2apAttempts seg) top.toNat := by
      intro q hq hstatus hrest
      obtain ⟨work, hwork, hnone, haside⟩ := hq.result
        (env.call (.rttSetS2ap realm.rd (realm.recPa 0) base top) l).2
      rw [hwork] at hrest
      obtain ⟨seg, rfl, henters, hlinked⟩ := ih hrest
      refine ⟨.smc (.rttSetS2ap realm.rd (realm.recPa 0) base top)
        (env.smc l (.rttSetS2ap realm.rd (realm.recPa 0) base top)) :: (work ++ seg),
        by simp [Env.call], ?_, ?_⟩
      · intro e he
        rcases List.mem_cons.mp he with rfl | he
        · rfl
        · rcases List.mem_append.mp he with he | he
          · exact haside e he
          · exact henters e he
      · refine linked_setS2ap ?_
        rw [if_pos hstatus, s2apAttempts_append, hnone]
        exact hlinked
    split at h
    · rename_i hrtt
      split at h
      · exact hretry _ (createMapping_aside env realm.rd base false) (Or.inl hrtt) h
      · exact absurd h (by simp)
    split at h
    · rename_i haux
      split at h
      · exact hretry _ (createAuxMappings_aside env realm base) (Or.inr haux) h
      · exact absurd h (by simp)
    split at h
    · exact absurd h (by simp)
    · rename_i hrtt haux _
      obtain ⟨seg, rfl, henters, hlinked⟩ := ih h
      refine ⟨.smc (.rttSetS2ap realm.rd (realm.recPa 0) base top)
        (env.smc l (.rttSetS2ap realm.rd (realm.recPa 0) base top)) :: seg,
        by simp [Env.call], ?_, ?_⟩
      · intro e he
        rcases List.mem_cons.mp he with rfl | he
        · rfl
        · exact henters e he
      · refine linked_setS2ap ?_
        have hother : ¬ (rmiStatus (env.smc l (.rttSetS2ap realm.rd (realm.recPa 0) base top)).x0
              = rmiErrorRtt ∨
            rmiStatus (env.smc l (.rttSetS2ap realm.rd (realm.recPa 0) base top)).x0
              = rmiErrorRttAux) := not_or.mpr ⟨hrtt, haux⟩
        rw [if_neg hother]
        exact hlinked

theorem handled_append (h : ∀ e ∈ seg, e.enters = false) :
    handled exits p acc (seg ++ rest) = handled exits p (acc ++ seg) rest := by
  induction seg generalizing acc with
  | nil => rw [List.nil_append, List.append_nil]
  | cons e seg ih =>
    have he : e.enters = false := h e List.mem_cons_self
    rw [List.cons_append, handled, he, if_neg (by decide),
      ih fun x hx => h x (List.mem_cons_of_mem _ hx), List.append_assoc, List.singleton_append]

theorem handled_enter {e : Event} (he : e.enters = true) :
    handled exits p acc (e :: rest)
      = (if (exits p).exitReason = rmiExitS2apChange then [(exits p, acc)] else [])
        ++ handled exits (p ++ acc ++ [e]) [] rest := by
  rw [handled, he, if_pos rfl]

/-- **Entering the REC** closes one exit, however often it left to print. -/
theorem recEnter_handled {recPa runPtr : UInt64} {n : ℕ} {ret : UInt64}
    (h : valHostRmiRecEnter env exits recPa runPtr n l = some (ret, l')) :
    ∃ seg, l' = l ++ seg ∧ s2apAttempts seg = [] ∧ ∀ p acc rest, p ++ acc = l →
      handled exits p acc (seg ++ rest)
        = (if (exits p).exitReason = rmiExitS2apChange then [(exits p, acc)] else [])
          ++ handled exits l' [] rest := by
  induction n generalizing l with
  | zero => exact absurd h (by simp [valHostRmiRecEnter])
  | succ n ih =>
    unfold valHostRmiRecEnter at h
    dsimp only at h
    split at h
    · rename_i hprint
      obtain ⟨seg, rfl, hnone, hrounds⟩ := ih h
      refine ⟨.smc (.recEnter recPa runPtr) (env.smc l (.recEnter recPa runPtr)) :: seg,
        by simp [Env.call], ?_, ?_⟩
      · rw [s2apAttempts, List.filterMap_cons_none rfl]
        exact hnone
      · rintro p acc rest rfl
        -- the exit in between was no change of permissions
        have hno : (exits (env.call (.recEnter recPa runPtr) (p ++ acc)).2).exitReason
            ≠ rmiExitS2apChange := by
          rw [hprint.2.1]
          decide
        have hnext := hrounds (env.call (.recEnter recPa runPtr) (p ++ acc)).2 [] rest
          (List.append_nil _)
        rw [if_neg hno, List.nil_append] at hnext
        rw [List.cons_append, handled_enter rfl]
        exact congrArg _ hnext
    · obtain ⟨rfl, rfl⟩ := Prod.mk.inj (Option.some.inj h)
      refine ⟨[.smc (.recEnter recPa runPtr) (env.smc l (.recEnter recPa runPtr))], rfl, rfl, ?_⟩
      rintro p acc rest rfl
      rw [List.singleton_append, handled_enter rfl]
      rfl

/-- **The whole function**: the calls made for each exit are linked, and there are no others. -/
theorem setS2ap_handled {fuel n : ℕ}
    (h : valHostSetS2ap env exits realm fuel n l = some (true, l')) :
    ∃ seg, l' = l ++ seg ∧
      (∀ x ∈ handled exits l [] seg,
        Linked x.1.s2apBase.toNat (s2apAttempts x.2) x.1.s2apTop.toNat) ∧
      s2apAttempts seg = (handled exits l [] seg).flatMap fun x => s2apAttempts x.2 := by
  induction n generalizing l with
  | zero => exact absurd h (by simp [valHostSetS2ap])
  | succ n ih =>
    unfold valHostSetS2ap at h
    split at h
    · obtain rfl := (Prod.mk.inj (Option.some.inj h)).2
      exact ⟨[], by simp, by simp [handled], rfl⟩
    rename_i hexit
    cases hloop : s2apLoop env realm (exits l).s2apTop fuel (exits l).s2apBase l with
    | none => simp [hloop] at h
    | some r =>
      obtain ⟨b, l₁⟩ := r
      cases b with
      | false => simp [hloop] at h
      | true =>
        obtain ⟨seg₁, rfl, henters, hlinked⟩ := s2apLoop_linked hloop
        simp only [hloop] at h
        cases henter : valHostRmiRecEnter env exits (realm.recPa 0) (realm.runPa 0) fuel
            (l ++ seg₁) with
        | none => simp [henter] at h
        | some r =>
          obtain ⟨ret, l₂⟩ := r
          obtain ⟨seg₂, rfl, hnone, hrounds⟩ := recEnter_handled henter
          simp only [henter] at h
          split at h
          · exact absurd h (by simp)
          obtain ⟨seg₃, rfl, hall, hsum⟩ := ih h
          have hhandled : handled exits l [] (seg₁ ++ (seg₂ ++ seg₃))
              = (exits l, seg₁) :: handled exits (l ++ seg₁ ++ seg₂) [] seg₃ := by
            rw [handled_append henters, List.nil_append, hrounds l seg₁ seg₃ rfl,
              if_pos (not_not.mp hexit), List.singleton_append]
          refine ⟨seg₁ ++ (seg₂ ++ seg₃), by simp, ?_, ?_⟩
          · intro x hx
            rw [hhandled] at hx
            rcases List.mem_cons.mp hx with rfl | hx
            · exact hlinked
            · exact hall x hx
          · rw [hhandled, s2apAttempts_append, s2apAttempts_append, hnone, hsum, List.flatMap_cons,
              List.nil_append]

end Loops

/-! ## 5. Success -/

/-- **When a successful call has made the changes it was asked for.**  Exactly if every
RTT_SET_S2AP of it that succeeded answered an end not below its base, and every one that failed,
other than for a missing table, answered its own base. -/
theorem s2ap_change_complete_iff {env : Env} {exits : Log → RecExit} {realm : HostRealm}
    {fuel n : ℕ} {l l' : Log} (h : valHostSetS2ap env exits realm fuel n l = some (true, l')) :
    (∀ x ∈ handled exits l [] (own l l'), S2apChanged x.1 x.2) ↔
      ∀ c ∈ s2apAttempts (own l l'), c.Sane := by
  obtain ⟨seg, rfl, hlinked, hsum⟩ := setS2ap_handled h
  rw [own_append, hsum]
  constructor
  · intro hall c hc
    obtain ⟨x, hx, hc⟩ := List.mem_flatMap.mp hc
    exact (tiles_iff (hlinked x hx)).mp ⟨(hall x hx).tiles, (hall x hx).failed⟩ c hc
  · intro hsane x hx
    obtain ⟨htiles, hfailed⟩ := (tiles_iff (hlinked x hx)).mpr fun c hc =>
      hsane c (List.mem_flatMap.mpr ⟨x, hx, hc⟩)
    exact ⟨hlinked x hx, htiles, hfailed⟩

/-- A realm that asks once for a change of three pages. -/
def asksOnce (l : Log) : RecExit :=
  if l.any Event.enters then ⟨0, 0, 0, 0⟩ else ⟨rmiExitS2apChange, 0, 0x1000, 0x4000⟩

/-- An RMM that misses a table at first, and then does two pages at a time. -/
def twoPagesRmm : Env where
  smc := fun l c =>
    match c with
    | .rttReadEntry _ _ _ => ⟨0, 2, 0⟩
    | .rttSetS2ap _ _ base top =>
      if (trace l).isEmpty then ⟨rttError 2, 0, 0⟩
      else ⟨0, if base + 0x2000 < top then base + 0x2000 else top, 0⟩
    | _ => ⟨0, 0, 0⟩
  alloc := fun _ _ _ => 0x88500000

theorem s2ap_change_complete_in_three_calls :
    ∃ l', valHostSetS2ap twoPagesRmm asksOnce HostRealm.cleared 4 2 [] = some (true, l') ∧
      (handled asksOnce [] [] l').length = 1 ∧
      ∀ x ∈ handled asksOnce [] [] l', S2apChanged x.1 x.2 := by
  have hrun : valHostSetS2ap twoPagesRmm asksOnce HostRealm.cleared 4 2 [] = some (true,
      [.smc (.rttSetS2ap 0 0 0x1000 0x4000) ⟨rttError 2, 0, 0⟩,
        .smc (.rttReadEntry 0 0x1000 3) ⟨0, 2, 0⟩, .alloc 0x1000 0x1000 0x88500000,
        .smc (.rmi (.granuleDelegate 0x88500000)) ⟨0, 0, 0⟩,
        .smc (.rmi (.rttCreate 0 0x88500000 0 3)) ⟨0, 0, 0⟩,
        .smc (.rttSetS2ap 0 0 0x1000 0x4000) ⟨0, 0x3000, 0⟩,
        .smc (.rttSetS2ap 0 0 0x3000 0x4000) ⟨0, 0x4000, 0⟩,
        .smc (.recEnter 0 0) ⟨0, 0, 0⟩]) := by decide +kernel
  exact ⟨_, hrun, by decide +kernel, (s2ap_change_complete_iff hrun).mpr (by decide +kernel)⟩

/-- `RMI_ERROR_REC`. -/
def rmiErrorRec : UInt64 := 3

/-- An RMM for which the REC is in the wrong state. -/
def wrongRecRmm : Env where
  smc := fun _ c =>
    match c with
    | .rttSetS2ap _ _ _ top => ⟨rmiErrorRec, top, 0⟩
    | _ => ⟨0, 0, 0⟩
  alloc := fun _ _ _ => 0

/-- A call of which the one RTT_SET_S2AP fails returns `VAL_SUCCESS`. -/
theorem s2ap_change_of_error :
    ∃ l', valHostSetS2ap wrongRecRmm asksOnce HostRealm.cleared 2 2 [] = some (true, l') ∧
      done (s2apAttempts l') = [] ∧
      ¬ ∀ x ∈ handled asksOnce [] [] l', S2apChanged x.1 x.2 := by
  have hrun : valHostSetS2ap wrongRecRmm asksOnce HostRealm.cleared 2 2 [] = some (true,
      [.smc (.rttSetS2ap 0 0 0x1000 0x4000) ⟨rmiErrorRec, 0x4000, 0⟩,
        .smc (.recEnter 0 0) ⟨0, 0, 0⟩]) := by decide +kernel
  refine ⟨_, hrun, by decide +kernel, fun h => ?_⟩
  have hfailed := (h (⟨rmiExitS2apChange, 0, 0x1000, 0x4000⟩,
    [.smc (.rttSetS2ap 0 0 0x1000 0x4000) ⟨rmiErrorRec, 0x4000, 0⟩]) (by decide +kernel)).failed
  exact absurd (hfailed ⟨0x1000, 0x4000, false⟩ (by decide +kernel) rfl) (by decide)

end RmmAcs.Realm
