/-
# Runs of the host

A test is a sequence of wrapper calls, with heap allocations in between and calls of the cleanup
functions.  `Act` is one of these, `Act.exec` what the code does, and a run is a sequence of them
from a freshly initialised tracker, against any RMM that accepts only what is legal.

An invariant on lists that every accepted command keeps (`Stable`) holds along every run.  The
first of them is soundness, which asks nothing of the run.
-/
import RmmAcs.Tracker.Sound
import RmmAcs.Tracker.Teardown

namespace RmmAcs.Granules

open RmmAcs Lib Rmm

/-! ## 1. Acts -/

/-- A test marks a data granule as part of a larger block. -/
def withSliced (g : Granule) : Granule := { g with isGranuleSliced := 1 }

/-- Mark the data granule a realm has at an IPA, if there is one. -/
def sliceData (rd ipa : UInt64) (t : Tracker) : Except Fault Tracker :=
  match scan t.mem (fun g => g.ipa == ipa) loopFuel none
      (t.list (valHostGetCurrRealm rd t, .data)) with
  | none => .error .endless
  | some (_, none) => .ok t
  | some (_, some a) => .ok (t.modify a withSliced)

/-- What a test does. -/
inductive Act where
  | call (c : Cmd)
  | realmDestroy (rd : UInt64)
  | postamble
  | slice (rd ipa : UInt64)
  | alloc (q : AllocReq)

def Act.exec (rmm : Monitor) (rmmV11 : Bool) : Act → Host → Except Fault Host
  | .call c, h => (valHostRmi rmm c h).map Prod.snd
  | .realmDestroy rd, h => (valHostRealmDestroy rmm rmmV11 rd h).map Prod.snd
  | .postamble, h => (valHostPostamble rmm rmmV11 h).map Prod.snd
  | .slice rd ipa, h => (sliceData rd ipa h.tracker).map fun t => { h with tracker := t }
  | .alloc q, h => .ok { h with tracker := { h.tracker with heap := (q.exec h.tracker.heap).2 } }

/-- The allocations of a test are ones the allocator is made for. -/
def Act.Fits : Act → Prop
  | .alloc q => q.Fits
  | _ => True

/-- The host at the start of a test. -/
def Host.start (mem : NodeMem Ptr Granule) (heap : HeapState) : Host := ⟨Tracker.init mem heap, []⟩

/-- One act, if `allowed`, that does not fault. -/
def Step (rmm : Monitor) (rmmV11 : Bool) (allowed : Host → Act → Prop) (h : Host) (a : Act)
    (h' : Host) : Prop :=
  a.Fits ∧ allowed h a ∧ a.exec rmm rmmV11 h = .ok h'

/-- `h` is reached by a run of allowed acts, over some memory and some heap. -/
def Reachable (rmm : Monitor) (rmmV11 : Bool) (allowed : Host → Act → Prop) (h : Host) : Prop :=
  ∃ mem heap acts, HeapState.Ok (2 ^ 32) heap ∧
    Reach (Step rmm rmmV11 allowed) (Host.start mem heap) acts h

/-! ## 2. Invariants on lists -/

/-- The pointers mean `A`, the history is legal, and the lists and the RMM are as `P` says. -/
structure Holds (P : Lists → RmmState → Prop) (h : Host) (A : Lists) : Prop where
  rep : Repr h.tracker A
  legal : LegalTrace h.trace
  inv : P A (replay h.trace)

theorem Holds.wf {P : Lists → RmmState → Prop} {h : Host} {A : Lists} (hh : Holds P h A) :
    (replay h.trace).Wf := hh.legal.wf

/-- **`P` is kept** by every accepted command that is `ok` and by a change of `current_realm`. -/
structure Stable (P : Lists → RmmState → Prop) (ok : Lists → RmmState → Cmd → Prop) : Prop where
  enter : ∀ {A R} (rd : UInt64), P A R → P (A.enter rd) R
  effect : ∀ {t A A' R c} {fresh : Cell}, Repr t A → R.Wf → R.Legal c → P A R → ok A R c →
    effect fresh A c = some A' → P A' (R.apply c)
  ends : ∀ {A R c}, Ends c → ok A R c

/-- The marking of a data granule keeps `P`. -/
def Slices (P : Lists → RmmState → Prop) : Prop :=
  ∀ A R (i : Fin maxRealms) (d : Cell), P A R → d ∈ A.lists (i, .data) →
    P (A.modify d.1 withSliced) R

section

variable {rmm : Monitor} {rmmV11 : Bool} {P : Lists → RmmState → Prop}
  {ok : Lists → RmmState → Cmd → Prop} {h h' : Host} {A : Lists}

/-- What a returning call leaves. -/
structure CallHolds (P : Lists → RmmState → Prop) (c : Cmd) (h : Host) (A : Lists) (r : SmcRet)
    (h' : Host) (A' : Lists) : Prop where
  holds : Holds P h' A'
  trace : h'.trace = h.trace ++ [(c, r)]
  refused : r.x0 ≠ 0 → A' = A
  legal : r.x0 = 0 → (replay h.trace).Legal c
  effect : r.x0 = 0 → Granules.effect (freshCell h.tracker) A c = some A'

/-- **A call keeps a stable invariant.** -/
theorem Holds.call (hP : Stable P ok) (hr : LegalMonitor rmm) (hh : Holds P h A) {c : Cmd}
    {r : SmcRet} (hok : r.x0 = 0 → ok A (replay h.trace) c)
    (hc : valHostRmi rmm c h = .ok (r, h')) : ∃ A', CallHolds P c h A r h' A' := by
  have hcall := valHostRmi_ok hh.rep hc
  have htr := hcall.trace
  by_cases h0 : r.x0 = 0
  · obtain ⟨A', heff, hrep⟩ := hcall.accepted h0
    have hlegal : (replay h.trace).Legal c := hr _ _ (hcall.ret ▸ h0)
    have hreplay : replay h'.trace = (replay h.trace).apply c := by
      rw [htr, replay_snoc, if_pos h0]
    refine ⟨A', ⟨hrep, ?_, ?_⟩, htr, fun hne => absurd h0 hne, fun _ => hlegal, fun _ => heff⟩
    · rw [htr]
      exact legalTrace_snoc.mpr ⟨hh.legal, fun _ => hlegal⟩
    · rw [hreplay]
      exact hP.effect hh.rep hh.wf hlegal hh.inv (hok h0) heff
  · have hreplay : replay h'.trace = replay h.trace := by rw [htr, replay_snoc, if_neg h0]
    refine ⟨A, ⟨?_, ?_, ?_⟩, htr, fun _ => rfl, fun h0' => absurd h0' h0, fun h0' => absurd h0' h0⟩
    · rw [hcall.refused h0]
      exact hh.rep
    · rw [htr]
      exact legalTrace_snoc.mpr ⟨hh.legal, fun h0' => absurd h0' h0⟩
    · rw [hreplay]
      exact hh.inv

theorem issue_ok {c : Cmd} {b : Bool} (hi : issue rmm c h = .ok (b, h')) :
    ∃ r, valHostRmi rmm c h = .ok (r, h') ∧ b = (r.x0 == 0) := by
  unfold issue at hi
  cases hc : valHostRmi rmm c h with
  | error e =>
    rw [hc] at hi
    exact absurd hi (by simp [Except.map])
  | ok x =>
    rw [hc] at hi
    simp only [Except.map, Except.ok.injEq, Prod.mk.injEq] at hi
    obtain ⟨hb, rfl⟩ := hi
    exact ⟨x.1, rfl, hb.symm⟩

/-! ## 3. The cleanup -/

/-- Some lists for which the invariant holds. -/
def Kept (P : Lists → RmmState → Prop) (h : Host) : Prop := ∃ A, Holds P h A

theorem keeps_issue (hP : Stable P ok) (hr : LegalMonitor rmm) {c : Cmd} (hc : Ends c) :
    Proc.Keeps (Kept P) (issue rmm c) := by
  rintro h b h' ⟨A, hh⟩ hi
  obtain ⟨r, hcall, -⟩ := issue_ok hi
  obtain ⟨A', hA'⟩ := hh.call hP hr (fun _ => hP.ends hc) hcall
  exact ⟨A', hA'.holds⟩

theorem keeps_issueFor (hP : Stable P ok) (hr : LegalMonitor rmm) {f : Granule → Cmd}
    (hf : ∀ g, Ends (f g)) (a : Ptr) : Proc.Keeps (Kept P) (issueFor rmm a f) :=
  .reading (f := fun h => issue rmm (f (node a h))) fun h => keeps_issue hP hr (hf (node a h))

theorem keeps_walk {r : ListRef} {body : Ptr → Proc Host Fault}
    (hb : ∀ a, Proc.Keeps (Kept P) (body a)) : Proc.Keeps (Kept P) (walk r body) :=
  .reading (f := fun h => Proc.forEachNode (fun h : Host => h.tracker.mem) Fault.endless body
    loopFuel (h.tracker.list r)) fun _ => .forEachNode hb _ _

theorem keeps_walkCurrent {k : GranType} {body : Ptr → Proc Host Fault}
    (hb : ∀ a, Proc.Keeps (Kept P) (body a)) : Proc.Keeps (Kept P) (walkCurrent k body) :=
  .reading (f := fun h => walk (h.tracker.currentRealm, k) body) fun _ => keeps_walk hb

theorem keeps_unmapAuxiliary (hP : Stable P ok) (hr : LegalMonitor rmm)
    {f : Granule → UInt64 → Cmd} (hf : ∀ g i, Ends (f g i)) (a : Ptr) :
    Proc.Keeps (Kept P) (unmapAuxiliary rmm a f) := by
  refine .all fun p hp => ?_
  obtain ⟨i, -, rfl⟩ := List.mem_map.mp hp
  exact .guarded (keeps_issueFor hP hr (fun g => hf g _) a)

theorem keeps_undelegateNode (hP : Stable P ok) (hr : LegalMonitor rmm) (a : Ptr) :
    Proc.Keeps (Kept P) (undelegateNode rmm a) :=
  keeps_issueFor hP hr (fun _ => ⟨rfl, by simp⟩) a

theorem keeps_destroyData (hP : Stable P ok) (hr : LegalMonitor rmm) (a : Ptr) :
    Proc.Keeps (Kept P) (destroyData rmm a) :=
  .seq (keeps_unmapAuxiliary hP hr (fun _ _ => ⟨rfl, by simp⟩) a)
    (.seq (keeps_issueFor hP hr (fun _ => ⟨rfl, by simp⟩) a) (keeps_undelegateNode hP hr a))

theorem keeps_rttLevels (hP : Stable P ok) (hr : LegalMonitor rmm) (level : UInt64) :
    Proc.Keeps (Kept P) fun h => valHostDestroyRttLevels rmm level h.tracker.currentRealm h :=
  .reading fun _ => keeps_walk fun a =>
    .guarded (.seq (keeps_issueFor hP hr (fun _ => ⟨rfl, by simp⟩) a) (keeps_undelegateNode hP hr a))

theorem keeps_ifPlanes (hP : Stable P ok) (hr : LegalMonitor rmm) {p : Proc Host Fault}
    (hp : Proc.Keeps (Kept P) p) : Proc.Keeps (Kept P) (ifPlanes rmm p) := by
  rintro h b h' ⟨A, hh⟩ hi
  unfold ifPlanes at hi
  cases hc : valHostRmi rmm (.features 0) h with
  | error e =>
    rw [hc] at hi
    exact absurd hi (by simp [bind, Except.bind])
  | ok x =>
    obtain ⟨A', hA'⟩ := hh.call hP hr (fun _ => hP.ends ⟨rfl, by simp⟩) hc
    rw [hc] at hi
    simp only [bind, Except.bind] at hi
    split at hi
    · exact hp _ _ _ ⟨A', hA'.holds⟩ hi
    · exact Proc.Keeps.skip _ _ _ ⟨A', hA'.holds⟩ hi

theorem keeps_destroyAuxTrees (hP : Stable P ok) (hr : LegalMonitor rmm) :
    Proc.Keeps (Kept P) (destroyAuxTrees rmm) := by
  refine .all fun p hp => ?_
  obtain ⟨index, -, hp⟩ := List.mem_flatMap.mp hp
  obtain ⟨level, -, rfl⟩ := List.mem_map.mp hp
  exact .reading fun _ => keeps_walk fun a =>
    .guarded (.seq (keeps_issueFor hP hr (fun _ => ⟨rfl, by simp⟩) a) (keeps_undelegateNode hP hr a))

theorem keeps_enterRealm (hP : Stable P ok) (rd : UInt64) :
    Proc.Keeps (Kept P) (enterRealm rd) := by
  rintro h b h' ⟨A, hh⟩ hi
  simp only [enterRealm, Proc.skip, Except.ok.injEq, Prod.mk.injEq] at hi
  obtain ⟨-, rfl⟩ := hi
  exact ⟨A.enter rd, hh.rep.enter rd, hh.legal, hP.enter rd hh.inv⟩

/-- **`val_host_realm_destroy` keeps a stable invariant**, whatever it returns. -/
theorem keeps_realmDestroy (hP : Stable P ok) (hr : LegalMonitor rmm) (rd : UInt64) :
    Proc.Keeps (Kept P) (valHostRealmDestroy rmm rmmV11 rd) := by
  refine .all fun p hp => ?_
  simp only [List.mem_cons, List.not_mem_nil, or_false] at hp
  rcases hp with rfl | rfl | rfl | rfl | rfl | rfl | rfl | rfl | rfl | rfl
  · exact keeps_enterRealm hP rd
  · exact keeps_walkCurrent fun a =>
      .seq (keeps_issueFor hP hr (fun _ => ⟨rfl, by simp⟩) a) (keeps_undelegateNode hP hr a)
  · exact keeps_walkCurrent fun a => .guarded (keeps_destroyData hP hr a)
  · exact keeps_walkCurrent fun a => .guarded (keeps_destroyData hP hr a)
  · exact keeps_walkCurrent fun a =>
      .seq (keeps_unmapAuxiliary hP hr (fun _ _ => ⟨rfl, by simp⟩) a)
        (keeps_issueFor hP hr (fun _ => ⟨rfl, by simp⟩) a)
  · exact keeps_rttLevels hP hr 3
  · exact keeps_rttLevels hP hr 2
  · exact keeps_rttLevels hP hr 1
  · exact .guarded (keeps_ifPlanes hP hr (keeps_destroyAuxTrees hP hr))
  · exact .reading fun _ => keeps_issue hP hr ⟨rfl, by simp⟩

/-- The NS list may lose nodes. -/
def Sheds (P : Lists → RmmState → Prop) : Prop :=
  ∀ {A R} (key : Granule → Bool), P A R → P (A.drop nsRef key) R

theorem keeps_freeNode (hS : Sheds P) (a : Ptr) : Proc.Keeps (Kept P) (freeNode a) := by
  rintro h b h' ⟨A, hh⟩ hi
  unfold freeNode valHostRemoveGranule at hi
  cases hf : A.find nsRef fun g => g.pa == (node a h).pa with
  | none =>
    rw [hh.rep.remove_none hf] at hi
    exact absurd hi (by simp [bind, Except.bind, deref])
  | some d =>
    obtain ⟨t', ht', hrep, -⟩ := hh.rep.remove_some hf
    rw [ht'] at hi
    simp only [bind, Except.bind, deref, Proc.skip, Except.ok.injEq, Prod.mk.injEq] at hi
    obtain ⟨-, rfl⟩ := hi
    exact ⟨_, hrep, hh.legal, hS _ hh.inv⟩

/-- **`val_host_postamble`** keeps it too, if the NS list may lose nodes. -/
theorem keeps_postamble (hP : Stable P ok) (hS : Sheds P) (hr : LegalMonitor rmm) :
    Proc.Keeps (Kept P) (valHostPostamble rmm rmmV11) := by
  refine .all fun p hp => ?_
  simp only [List.mem_cons, List.not_mem_nil, or_false] at hp
  rcases hp with rfl | rfl | rfl
  · refine .all fun p hp => ?_
    obtain ⟨i, -, rfl⟩ := List.mem_map.mp hp
    exact .guarded (.reading fun _ => keeps_realmDestroy hP hr _)
  · exact keeps_walk fun a => .guarded (keeps_undelegateNode hP hr a)
  · exact keeps_walk fun a => .guarded (keeps_freeNode hS a)

/-! ## 4. Every run -/

theorem map_snd_ok {ε β γ : Type} {x : Except ε (β × γ)} {c : γ}
    (hx : x.map Prod.snd = .ok c) : ∃ b, x = .ok (b, c) := by
  cases x with
  | error e => exact absurd hx (by simp [Except.map])
  | ok y =>
    simp only [Except.map, Except.ok.injEq] at hx
    exact ⟨y.1, by rw [← hx]⟩

theorem Holds.slice (hP : Slices P) (hh : Holds P h A) {rd ipa : UInt64} {t : Tracker}
    (hs : sliceData rd ipa h.tracker = .ok t) : Kept P { h with tracker := t } := by
  unfold sliceData at hs
  have hch := hh.rep.chain (valHostGetCurrRealm rd h.tracker, .data)
  have hlen := hh.rep.length_lt (valHostGetCurrRealm rd h.tracker, .data)
  cases hf : A.find (valHostGetCurrRealm rd h.tracker, .data) fun g => g.ipa == ipa with
  | none =>
    have hno : ∀ c ∈ A.lists (valHostGetCurrRealm rd h.tracker, .data),
        (c.2.ipa == ipa) = false := by simpa [Lists.find] using hf
    obtain ⟨q, hq⟩ := hch.scan_none (P := fun g => g.ipa == ipa) (q := none) hlen hno
    simp only [hq, Except.ok.injEq] at hs
    exact ⟨A, hs ▸ hh.rep, hh.legal, hh.inv⟩
  | some d =>
    have hd : d ∈ A.lists (valHostGetCurrRealm rd h.tracker, .data) :=
      List.mem_of_find?_eq_some hf
    obtain ⟨hk, pre, post, hl, hpre⟩ := List.find?_eq_some_iff_append.mp hf
    rw [hl] at hch hlen
    have hscan := hch.scan_found (P := fun g => g.ipa == ipa) (q := none) hlen
      (by simpa using hpre) hk
    simp only [hscan, Except.ok.injEq] at hs
    exact ⟨_, hs ▸ hh.rep.modify _ _, hh.legal, hP _ _ _ _ hh.inv hd⟩

theorem Holds.alloc (hh : Holds P h A) {q : AllocReq} (hq : q.Fits) :
    Holds P { h with tracker := { h.tracker with heap := (q.exec h.tracker.heap).2 } } A := by
  obtain ⟨⟨hok, -, hle⟩, -⟩ := AllocReq.exec_spec hh.rep.heapOk hq
  have hr := hh.rep
  exact ⟨⟨hr.rd, hr.cur, hr.chain, hr.nodup, hr.disjoint, hr.head, hr.tail,
    fun r c hc => lt_of_lt_of_le (hr.below r c hc) hle, hok⟩, hh.legal, hh.inv⟩

/-- **One act keeps a stable invariant**, if its command is `ok` when it is accepted. -/
theorem Kept.exec (hP : Stable P ok) (hr : LegalMonitor rmm) {a : Act} (hfits : a.Fits)
    (hok : ∀ c, a = .call c → ∀ A, Holds P h A → (rmm h.trace c).x0 = 0 →
      ok A (replay h.trace) c)
    (hslice : ∀ rd ipa, a = .slice rd ipa → Slices P) (hpost : a = .postamble → Sheds P)
    (hk : Kept P h)
    (he : a.exec rmm rmmV11 h = .ok h') : Kept P h' := by
  obtain ⟨A, hh⟩ := hk
  cases a with
  | call c =>
    obtain ⟨r, hc⟩ := map_snd_ok he
    have hret := (valHostRmi_ok hh.rep hc).ret
    obtain ⟨A', hA'⟩ := hh.call hP hr (fun h0 => hok c rfl A hh (hret ▸ h0)) hc
    exact ⟨A', hA'.holds⟩
  | realmDestroy rd =>
    obtain ⟨b, hb⟩ := map_snd_ok he
    exact keeps_realmDestroy hP hr rd h b h' ⟨A, hh⟩ hb
  | postamble =>
    obtain ⟨b, hb⟩ := map_snd_ok he
    exact keeps_postamble hP (hpost rfl) hr h b h' ⟨A, hh⟩ hb
  | slice rd ipa =>
    have he' : (sliceData rd ipa h.tracker).map (fun t => { h with tracker := t }) = .ok h' := he
    cases hs : sliceData rd ipa h.tracker with
    | error e =>
      rw [hs] at he'
      exact absurd he' (by simp [Except.map])
    | ok t =>
      rw [hs] at he'
      simp only [Except.map, Except.ok.injEq] at he'
      exact he' ▸ hh.slice (hslice rd ipa rfl) hs
  | alloc q =>
    obtain rfl := Except.ok.inj he
    exact ⟨A, hh.alloc hfits⟩

/-- A new tracker with no objects. -/
theorem holds_start (mem : NodeMem Ptr Granule) {heap : HeapState} (hheap : heap.Ok (2 ^ 32))
    (hP : ∀ A, (∀ r, A.lists r = []) → (∀ i, A.rd i = freeRd) → P A .init) :
    Kept P (Host.start mem heap) :=
  ⟨_, repr_init mem hheap, legalTrace_nil, hP _ (fun _ => rfl) fun _ => rfl⟩

end

/-! ## 5. Soundness in every run -/

theorem stable_sound : Stable Sound fun _ _ _ => True where
  enter := fun rd hs => hs.enter rd
  effect := fun _ hw hl hs _ he => hs.effect hw hl he
  ends := fun _ => trivial

theorem slices_sound : Slices Sound := fun _ _ _ _ hs _ => hs.modify _ fun k g => by cases k <;> rfl

theorem sheds_sound : Sheds Sound := fun _ hs => hs.set_zero .ns _

theorem sound_start {A : Lists} (hl : ∀ r, A.lists r = []) (hrd : ∀ i, A.rd i = freeRd) :
    Sound A .init where
  rd_live := fun i _ hf => absurd (hrd i) hf
  rd_inj := fun i _ _ _ hf _ => absurd (hrd i) hf
  live := fun i _ k x hx => absurd hx (by simp [Lists.objs, hl])
  nodup := fun i _ k => by simp [Lists.objs, hl]

/-- **In every run the slots are sound.** -/
theorem Reachable.sound {rmm : Monitor} {rmmV11 : Bool} {allowed : Host → Act → Prop} {h : Host}
    (hreach : Reachable rmm rmmV11 allowed h) (hr : LegalMonitor rmm) :
    ∃ A, Holds Sound h A := by
  obtain ⟨mem, heap, acts, hheap, hrun⟩ := hreach
  refine hrun.invariant (I := Kept Sound) (holds_start mem hheap fun A => sound_start) ?_
  rintro s a s' hk ⟨hfits, -, he⟩
  exact hk.exec stable_sound hr hfits (fun _ _ _ _ _ => trivial) (fun _ _ _ => slices_sound)
    (fun _ => sheds_sound) he

/-! ## 6. Runs that can be computed -/

/-- Run the acts, as long as each passes the check. -/
def runActs (rmm : Monitor) (rmmV11 : Bool) (ok : Host → Act → Bool) :
    List Act → Host → Option Host
  | [], h => some h
  | a :: as, h =>
    if ok h a then
      match a.exec rmm rmmV11 h with
      | .ok h => runActs rmm rmmV11 ok as h
      | .error _ => none
    else none

theorem reach_of_runActs {rmm : Monitor} {rmmV11 : Bool} {ok : Host → Act → Bool}
    {allowed : Host → Act → Prop} (hok : ∀ h a, ok h a = true → a.Fits ∧ allowed h a) {h₀ : Host} :
    ∀ {acts done : List Act} {h h' : Host}, Reach (Step rmm rmmV11 allowed) h₀ done h →
      runActs rmm rmmV11 ok acts h = some h' →
      Reach (Step rmm rmmV11 allowed) h₀ (done ++ acts) h'
  | [], done, h, h', hreach, hrun => by
    rw [← Option.some.inj hrun, List.append_nil]
    exact hreach
  | a :: as, done, h, h', hreach, hrun => by
    unfold runActs at hrun
    split at hrun
    · rename_i ha
      cases he : a.exec rmm rmmV11 h with
      | error e =>
        rw [he] at hrun
        exact absurd hrun (by simp)
      | ok h₁ =>
        rw [he] at hrun
        have hstep : Step rmm rmmV11 allowed h a h₁ := ⟨(hok h a ha).1, (hok h a ha).2, he⟩
        rw [List.append_cons]
        exact reach_of_runActs hok (hreach.snoc hstep) hrun
    · exact absurd hrun (by simp)

/-- A memory with nothing in it. -/
def blankMem : NodeMem Ptr Granule := fun _ =>
  ⟨⟨0, .undelegated, 0, 0, 0, 0, 0, fun _ => false⟩, none⟩

/-- A computed run whose last state passes a check reaches a state that does. -/
theorem reachable_of_runActs (rmm : Monitor) (rmmV11 : Bool) (ok : Host → Act → Bool)
    {allowed : Host → Act → Prop} (hok : ∀ h a, ok h a = true → a.Fits ∧ allowed h a)
    (acts : List Act) (p : Host → Bool)
    (hrun : (runActs rmm rmmV11 ok acts (Host.start blankMem valHostMemAllocInit)).any p = true) :
    ∃ h, Reachable rmm rmmV11 allowed h ∧ p h = true := by
  obtain ⟨h, hh, hp⟩ := (Option.any_eq_true p _).mp hrun
  exact ⟨h, ⟨blankMem, valHostMemAllocInit, acts, initHeap_ok, reach_of_runActs hok .nil hh⟩, hp⟩

/-- A procedure that returned `VAL_SUCCESS`. -/
def succeeded : Except Fault (Bool × Host) → Bool
  | .ok (b, _) => b
  | .error _ => false

theorem ok_of_succeeded {x : Except Fault (Bool × Host)} (h : succeeded x = true) :
    ∃ h', x = .ok (true, h') := by
  cases x with
  | error e => exact absurd h (by simp [succeeded])
  | ok r => exact ⟨r.2, by rw [← show r.1 = true from h]⟩

/-- Any act but an allocation. -/
def Act.plain : Act → Bool
  | .alloc _ => false
  | _ => true

theorem Act.fits_of_plain {a : Act} (h : a.plain = true) : a.Fits := by
  cases a with
  | alloc q => exact absurd h (by simp [Act.plain])
  | _ => trivial

end RmmAcs.Granules
