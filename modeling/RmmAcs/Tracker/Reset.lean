/-
# What `val_host_reset_mem_tack` resets

Before every test the tracker is reset, in case the cleanup of the test before it was skipped or
failed.  The function clears `mem_track`: the `rd` of every slot, and six of the seven lists.  It
does not clear the seventh, the list of auxiliary RTTs, and it does not touch the globals.

Of these, `current` is never read before it is written, and neither is `current_realm`; `tail`
counts only while `head` is not NULL.  What counts is `head`: it is where a lookup starts and how
`val_host_add_granule` decides that the NS list is empty.  So a reset tracker behaves like a new one
if, and only if, `head` was NULL and there was no auxiliary RTT -- which is what a cleanup that
succeeded leaves, and a cleanup that failed does not.
-/
import RmmAcs.Tracker.Run

namespace RmmAcs.Granules

open RmmAcs Lib Rmm

/-! ## 1. Trackers that behave alike -/

/-- Two trackers that differ in nothing that counts.  `S` is what their `current_realm`s have in
common: nothing between two calls, everything within one. -/
structure Twins (S : Fin maxRealms → Fin maxRealms → Prop) (t t' : Tracker) : Prop where
  memTrack : t'.memTrack = t.memTrack
  head : t'.head = t.head
  tail : t.head ≠ none → t'.tail = t.tail
  mem : t'.mem = t.mem
  heap : t'.heap = t.heap
  ns : t.head = t.list nsRef
  realm : S t.currentRealm t'.currentRealm

/-- A node that was found, or none, and the tracker after it. -/
def TwinsWith {α : Type} (S : Fin maxRealms → Fin maxRealms → Prop) (x y : α × Tracker) : Prop :=
  x.1 = y.1 ∧ Twins S x.2 y.2

namespace Twins

variable {S : Fin maxRealms → Fin maxRealms → Prop} {t t' : Tracker}

theorem rd (h : Twins S t t') : t'.rd = t.rd := by
  funext i
  rw [Tracker.rd, h.memTrack]
  rfl

theorem list (h : Twins S t t') (r : ListRef) : t'.list r = t.list r := by
  rw [Tracker.list, h.memTrack]
  rfl

/-- A twin differs in three fields. -/
theorem eq_with (h : Twins S t t') :
    ∃ c q i, t' = { t with current := c, tail := q, currentRealm := i } := by
  obtain ⟨m, hd, c, q, i, mem, heap⟩ := t'
  obtain ⟨rfl, rfl, -, rfl, rfl, -, -⟩ := h
  exact ⟨c, q, i, rfl⟩

theorem weaken (h : Twins Eq t t') (hS : ∀ i, S i i) : Twins S t t' :=
  ⟨h.memTrack, h.head, h.tail, h.mem, h.heap, h.ns, h.realm ▸ hS _⟩

theorem enter (h : Twins S t t') (i : Fin maxRealms) :
    Twins Eq { t with currentRealm := i } { t' with currentRealm := i } :=
  ⟨h.memTrack, h.head, h.tail, h.mem, h.heap, h.ns, rfl⟩

theorem withCurrent (h : Twins S t t') (p q : Option Ptr) :
    Twins S { t with current := p } { t' with current := q } :=
  ⟨h.memTrack, h.head, h.tail, h.mem, h.heap, h.ns, h.realm⟩

theorem modify (h : Twins S t t') (a : Ptr) (f : Granule → Granule) :
    Twins S (t.modify a f) (t'.modify a f) :=
  ⟨h.memTrack, h.head, h.tail, by rw [Tracker.modify, h.mem]; rfl, h.heap, h.ns, h.realm⟩

theorem setNext (h : Twins S t t') (a : Ptr) (q : Option Ptr) :
    Twins S (t.setNext a q) (t'.setNext a q) :=
  ⟨h.memTrack, h.head, h.tail, by rw [Tracker.setNext, h.mem]; rfl, h.heap, h.ns, h.realm⟩

theorem setRd (h : Twins S t t') (i : Fin maxRealms) (v : UInt64) :
    Twins S (t.setRd i v) (t'.setRd i v) :=
  ⟨by rw [Tracker.setRd, h.memTrack]; rfl, h.head, h.tail, h.mem, h.heap,
    by rw [Tracker.setRd_list]; exact h.ns, h.realm⟩

theorem setList (h : Twins S t t') {r : ListRef} (hr : r ≠ nsRef) (p : Option Ptr) :
    Twins S (t.setList r p) (t'.setList r p) :=
  ⟨by rw [Tracker.setList, h.memTrack]; rfl, h.head, h.tail, h.mem, h.heap,
    by rw [Tracker.setList_list_of_ne _ _ (Ne.symm hr)]; exact h.ns, h.realm⟩

theorem withTail (h : Twins S t t') (q : Option Ptr) :
    Twins S { t with tail := q } { t' with tail := q } :=
  ⟨h.memTrack, h.head, fun _ => rfl, h.mem, h.heap, h.ns, h.realm⟩

theorem ite (h : Twins S t t') (p : Prop) [Decidable p] {u u' : Tracker} (hu : Twins S u u') :
    Twins S (if p then t else u) (if p then t' else u') := by
  split
  · exact h
  · exact hu

/-- `head` and the NS list are assigned together; `tail` has to be the same by then, unless the
list becomes empty. -/
theorem setHead (h : Twins S t t') (p : Option Ptr) {q q' : Option Ptr}
    (htail : p ≠ none → q' = q) :
    Twins S ({ t with head := p, tail := q }.setList nsRef p)
      ({ t' with head := p, tail := q' }.setList nsRef p) :=
  ⟨by rw [Tracker.setList]; simp only [h.memTrack]; rfl, rfl, htail, h.mem, h.heap,
    by rw [Tracker.setList_list_self]; rfl, h.realm⟩

/-! ## 2. The functions of the tracker -/

theorem findGranule (h : Twins S t t') (pa : UInt64) :
    valHostFindGranule pa t' = valHostFindGranule pa t := by
  rw [valHostFindGranule, h.mem, h.head]
  rfl

theorem currRealm (h : Twins S t t') (rd : UInt64) :
    valHostGetCurrRealm rd t' = valHostGetCurrRealm rd t := by
  rw [valHostGetCurrRealm, h.rd]
  rfl

theorem allocNode (h : Twins S t t') :
    Agree (TwinsWith S) (allocNode t) (allocNode t') := by
  unfold Granules.allocNode
  rw [h.heap]
  dsimp only
  split
  · exact .error _
  · exact .ok ⟨rfl, h.memTrack, h.head, h.tail, h.mem, rfl, h.ns, h.realm⟩

theorem addNode (h : Twins S t t') (a : Ptr) : Agree (Twins S) (addNode a t) (addNode a t') := by
  unfold Granules.addNode
  rw [h.head]
  cases hh : t.head with
  | none => exact .ok ((h.setHead (some a) fun _ => rfl).setNext a none)
  | some b =>
    rw [h.tail (by rw [hh]; simp)]
    cases t.tail with
    | none => exact .error _
    | some c =>
      have htail : Twins S { t with head := some b, tail := some a }
          { t' with head := some b, tail := some a } :=
        ⟨h.memTrack, rfl, fun _ => rfl, h.mem, h.heap, hh.symm.trans h.ns, h.realm⟩
      exact .ok (htail.setNext c (some a))

theorem firstIf_eq_some {key : Granule → Bool} {m : NodeMem Ptr Granule} {p : Option Ptr} {a : Ptr}
    (h : firstIf key m p = some a) : p = some a := by
  cases p with
  | none => exact absurd h (by simp [firstIf])
  | some b =>
    simp only [firstIf, Option.ite_none_right_eq_some] at h
    exact h.2

theorem removeGranuleBy (h : Twins S t t') (key : Granule → Bool) (r : ListRef) :
    Agree (TwinsWith S) (removeGranuleBy key r t) (removeGranuleBy key r t') := by
  obtain ⟨c, q, i, rfl⟩ := h.eq_with
  unfold Granules.removeGranuleBy
  simp only [h.list]
  cases hf : firstIf key t.mem (t.list r) with
  | some a =>
    dsimp only
    by_cases hns : t.list nsRef = t.list r
    · -- the list has a first node, so `head` is not NULL and the `tail`s are the same
      have hhead : t.head ≠ none := by
        rw [h.ns, hns, firstIf_eq_some hf]
        simp
      rw [if_pos hns, if_pos hns]
      exact .ok ⟨rfl, (h.setHead _ fun _ => h.tail hhead).setNext a none⟩
    · rw [if_neg hns, if_neg hns]
      exact .ok ⟨rfl, (h.setList (fun hr => hns (by rw [hr])) _).setNext a none⟩
  | none =>
    dsimp only
    cases scan t.mem key loopFuel none (t.list r) with
    | none => exact .error _
    | some x =>
      obtain ⟨prev, found⟩ := x
      cases found with
      | none => exact .ok ⟨rfl, h⟩
      | some a =>
        cases prev with
        | none => exact .error _
        | some b =>
          have hset := h.setNext b (t.mem a).next
          exact .ok ⟨rfl, ((hset.withTail (some b)).ite _ hset).setNext a none⟩

theorem addGranule (h : Twins S t t') (state : GranuleState) (pa : UInt64) (p : Option Ptr) :
    Agree (Twins S) (valHostAddGranule state pa p t) (valHostAddGranule state pa p t') := by
  unfold valHostAddGranule
  cases p with
  | some a => exact h.addNode a
  | none =>
    refine h.allocNode.bind ?_
    rintro ⟨a, u⟩ ⟨-, u'⟩ ⟨rfl, hu⟩
    exact ((hu.modify a _).setNext a none).addNode a

theorem appendNode (h : Twins S t t') {r : ListRef} (hr : r ≠ nsRef) (a : Ptr) :
    Agree (Twins S) (appendNode r a t) (appendNode r a t') := by
  obtain ⟨c, q, i, rfl⟩ := h.eq_with
  unfold Granules.appendNode
  simp only [h.list]
  cases t.list r with
  | none => exact .ok ((h.withCurrent none none).setList hr _)
  | some b =>
    dsimp only
    cases lastNode t.mem loopFuel b with
    | none => exact .error _
    | some c => exact .ok ((h.withCurrent (some c) (some c)).setNext c _)

theorem addRealm (h : Twins Eq t t') (pa : UInt64) :
    Twins Eq (addRealm pa t) (addRealm pa t') := by
  unfold Granules.addRealm
  simp only [h.rd]
  cases slots.find? fun i => t.rd i == pa || t.rd i == freeRd with
  | none => exact h
  | some i =>
    dsimp only
    split
    · exact h
    · exact (h.setRd i pa).enter i

theorem updateGranuleState (h : Twins S t t') (hS : ∀ i, S i i) (rd : UInt64)
    (state : GranuleState) (pa ipa level idx : UInt64) :
    Agree (Twins S) (valHostUpdateGranuleState rd state pa ipa level idx t)
      (valHostUpdateGranuleState rd state pa ipa level idx t') := by
  unfold valHostUpdateGranuleState
  rw [h.currRealm]
  -- from here on the two are in the same realm
  have h₁ := h.enter (valHostGetCurrRealm rd t)
  refine Agree.mono (S := Twins Eq) ?_ fun _ _ hu => hu.weaken hS
  generalize ({ t with currentRealm := valHostGetCurrRealm rd t } : Tracker) = u at h₁ ⊢
  generalize ({ t' with currentRealm := valHostGetCurrRealm rd t } : Tracker) = u' at h₁ ⊢
  dsimp only
  rw [h₁.findGranule]
  cases valHostFindGranule pa u with
  | error e => exact .error e
  | ok p =>
    cases p with
    | none =>
      refine h₁.allocNode.bind ?_
      rintro ⟨a, v⟩ ⟨-, v'⟩ ⟨rfl, hv⟩
      have hw := (hv.modify a (mappedGranule rd state pa ipa level idx)).setNext a none
      dsimp only
      split
      · rw [hw.realm]
        exact hw.appendNode (Repr.ne_nsRef (by decide)) a
      · exact .ok hw
    | some a =>
      have h₂ : Twins Eq { u with current := u.head } { u' with current := u'.head } :=
        h₁.withCurrent _ _
      generalize ({ u with current := u.head } : Tracker) = v at h₂ ⊢
      generalize ({ u' with current := u'.head } : Tracker) = v' at h₂ ⊢
      cases hk : state.granType with
      | none => exact .ok h₂
      | some k =>
        refine (h₂.removeGranuleBy _ nsRef).bind ?_
        rintro ⟨p, w⟩ ⟨-, w'⟩ ⟨rfl, hw⟩
        have hm := (hw.modify a (movedGranule rd state ipa level idx)).setNext a none
        dsimp only
        split
        · have hr := hm.addRealm pa
          rw [← hr.realm]
          exact .ok (hr.setList (Repr.ne_nsRef (by decide)) _)
        · rw [← hm.realm]
          refine hm.appendNode (Repr.ne_nsRef ?_) a
          rintro rfl
          cases state <;> exact absurd hk (by simp [GranuleState.granType])

theorem giveBack (h : Twins S t t') (p : Option Ptr) (state : GranuleState) :
    Agree (Twins S) (giveBack state (p, t)) (giveBack state (p, t')) := by
  unfold Granules.giveBack
  cases p with
  | none => exact .error _
  | some a =>
    have hm := h.modify a (withState state)
    have hpa : ((t'.modify a (withState state)).mem a).data.pa
        = ((t.modify a (withState state)).mem a).data.pa := by rw [hm.mem]
    show Agree (Twins S)
      (valHostAddGranule state ((t.modify a (withState state)).mem a).data.pa (some a)
        (t.modify a (withState state)))
      (valHostAddGranule state ((t'.modify a (withState state)).mem a).data.pa (some a)
        (t'.modify a (withState state)))
    rw [hpa]
    exact hm.addGranule _ _ _

/-- A node is taken out of a list and given back. -/
theorem takeOut (h : Twins S t t') (key : Granule → Bool) (r : ListRef) (state : GranuleState) :
    Agree (Twins S) (Granules.removeGranuleBy key r t >>= Granules.giveBack state)
      (Granules.removeGranuleBy key r t' >>= Granules.giveBack state) := by
  refine (h.removeGranuleBy key r).bind ?_
  rintro ⟨p, u⟩ ⟨-, u'⟩ ⟨rfl, hu⟩
  exact hu.giveBack p state

theorem giveBackRec (state : GranuleState) (pa : UInt64) :
    ∀ (is : List (Fin maxRealms)) {t t' : Tracker}, Twins S t t' →
      Agree (Twins S) (giveBackRec state pa is t) (giveBackRec state pa is t')
  | [], _, _, h => .ok h
  | i :: is, _, _, h => by
    unfold Granules.giveBackRec
    refine (h.removeGranuleBy _ _).bind ?_
    rintro ⟨p, u⟩ ⟨-, u'⟩ ⟨rfl, hu⟩
    dsimp only
    split
    · exact giveBackRec state pa is hu
    · exact hu.giveBack p state

theorem updateDestroyGranuleState (h : Twins S t t') (hS : ∀ i, S i i) (rd pa ipa level : UInt64)
    (state listState : GranuleState) (idx : UInt64) :
    Agree (Twins S) (valHostUpdateDestroyGranuleState rd pa ipa level state listState idx t)
      (valHostUpdateDestroyGranuleState rd pa ipa level state listState idx t') := by
  unfold valHostUpdateDestroyGranuleState
  by_cases hs : state = .undelegated
  · rw [if_pos hs, if_pos hs, h.findGranule, h.mem]
    cases valHostFindGranule pa t with
    | error e => exact .error e
    | ok p =>
      cases p with
      | none => exact .ok h
      | some a =>
        show Agree _ (if _ then _ else _) (if _ then _ else _)
        split
        · refine (h.removeGranuleBy _ nsRef).bind ?_
          rintro ⟨p, u⟩ ⟨-, u'⟩ ⟨rfl, hu⟩
          cases p with
          | none => exact .error _
          | some b => exact .ok hu
        · split
          · exact .ok (h.modify a _)
          · exact .ok h
  · rw [if_neg hs, if_neg hs]
    -- a branch that enters the realm first
    have main : ∀ f : Tracker → Except Fault Tracker,
        (∀ {u u'}, Twins Eq u u' → Agree (Twins Eq) (f u) (f u')) →
        Agree (Twins S) (f { t with currentRealm := valHostGetCurrRealm rd t })
          (f { t' with currentRealm := valHostGetCurrRealm rd t' }) := by
      intro f hf
      rw [h.currRealm]
      exact (hf (h.enter _)).mono fun _ _ hu => hu.weaken hS
    cases listState with
    | recg => exact giveBackRec state pa slots h
    | undelegated => exact main .ok fun hu => .ok hu
    | delegated => exact main .ok fun hu => .ok hu
    | rtt =>
      exact main (fun u => valHostRemoveRttGranule (u.currentRealm, .rtt) ipa level u >>=
        Granules.giveBack state) fun hu => by rw [hu.realm]; exact hu.takeOut _ _ state
    | rttAux =>
      exact main (fun u => valHostRemoveAuxRttGranule (u.currentRealm, .rttAux) ipa level idx u >>=
        Granules.giveBack state) fun hu => by rw [hu.realm]; exact hu.takeOut _ _ state
    | data =>
      exact main (fun u => valHostRemoveDataGranule (u.currentRealm, .data) ipa u >>=
        Granules.giveBack state) fun hu => by rw [hu.realm]; exact hu.takeOut _ _ state
    | unprotected =>
      exact main (fun u => valHostRemoveGranule (u.currentRealm, .validNs) pa u >>=
        Granules.giveBack .undelegated) fun hu => by rw [hu.realm]; exact hu.takeOut _ _ _
    | rd =>
      refine main (fun u => valHostRemoveGranule (u.currentRealm, .rd) pa u >>= fun r =>
        Granules.giveBack state r >>= fun v => .ok (v.setRd v.currentRealm freeRd)) fun hu => ?_
      rw [hu.realm, ← bind_assoc, ← bind_assoc]
      refine (hu.takeOut _ _ state).bind fun v v' hv => ?_
      rw [hv.realm]
      exact .ok (hv.setRd _ _)

theorem updateAuxRttInfo (h : Twins S t t') (hS : ∀ i, S i i) (granState : GranuleState)
    (rd index ipa : UInt64) (val : Bool) :
    Agree (TwinsWith S) (valHostUpdateAuxRttInfo granState rd index ipa val t)
      (valHostUpdateAuxRttInfo granState rd index ipa val t') := by
  unfold valHostUpdateAuxRttInfo
  rw [h.currRealm]
  have h₁ := h.enter (valHostGetCurrRealm rd t)
  refine Agree.mono (S := TwinsWith Eq) ?_ fun _ _ hu => ⟨hu.1, hu.2.weaken hS⟩
  generalize ({ t with currentRealm := valHostGetCurrRealm rd t } : Tracker) = u at h₁ ⊢
  generalize ({ t' with currentRealm := valHostGetCurrRealm rd t } : Tracker) = u' at h₁ ⊢
  dsimp only
  rw [← h₁.realm, h₁.list, h₁.mem]
  by_cases hg : granState = .data ∨ granState = .unprotected
  · rw [if_pos hg, if_pos hg]
    cases u.list (u.currentRealm, if granState = .data then .data else .validNs) with
    | none => exact .ok ⟨rfl, h₁⟩
    | some a =>
      dsimp only
      cases scan u.mem (fun g => g.ipa == ipa) loopFuel none (some a) with
      | none => exact .error _
      | some x =>
        obtain ⟨prev, found⟩ := x
        cases found with
        | none => exact .error _
        | some b =>
          by_cases hi : (index - 1).toNat < maxAuxPlanes
          · simp only [dif_pos hi]
            exact .ok ⟨rfl, h₁.modify b _⟩
          · simp only [dif_neg hi]
            exact .error _
  · rw [if_neg hg, if_neg hg]
    exact .ok ⟨rfl, h₁⟩

theorem sliceData (h : Twins S t t') (rd ipa : UInt64) :
    Agree (Twins S) (sliceData rd ipa t) (sliceData rd ipa t') := by
  unfold Granules.sliceData
  rw [h.currRealm, h.list, h.mem]
  split
  · exact .error _
  · exact .ok h
  · exact .ok (h.modify _ _)

end Twins

/-! ## 3. Whole runs -/

/-- Hosts with twin trackers and one history. -/
structure TwinHosts (S : Fin maxRealms → Fin maxRealms → Prop) (h h' : Host) : Prop where
  tracker : Twins S h.tracker h'.tracker
  trace : h'.trace = h.trace

/-- Run the acts one after the other. -/
def execAll (rmm : Monitor) (rmmV11 : Bool) : List Act → Host → Except Fault Host
  | [], h => .ok h
  | a :: as, h => a.exec rmm rmmV11 h >>= execAll rmm rmmV11 as

section Runs

variable {S : Fin maxRealms → Fin maxRealms → Prop} {rmm : Monitor} {rmmV11 : Bool} {h h' : Host}

theorem TwinHosts.node (ht : TwinHosts S h h') (a : Ptr) : node a h' = node a h := by
  rw [Granules.node, ht.tracker.mem]
  rfl

theorem TwinHosts.rmiCall (ht : TwinHosts S h h') (c : Cmd)
    {track : Tracker → Except Fault Tracker}
    (htrack : ∀ {t t'}, Twins S t t' → Agree (Twins S) (track t) (track t')) :
    Agree (fun x y => x.1 = y.1 ∧ TwinHosts S x.2 y.2) (rmiCall rmm c track h)
      (rmiCall rmm c track h') := by
  unfold Granules.rmiCall valSmcCall
  dsimp only
  rw [ht.trace]
  split
  · exact .ok ⟨rfl, ht.tracker, rfl⟩
  · exact (htrack ht.tracker).bind fun t t' hu => .ok ⟨rfl, hu, rfl⟩

/-- **Every wrapper.** -/
theorem TwinHosts.rmi (ht : TwinHosts S h h') (hS : ∀ i, S i i) (c : Cmd) :
    Agree (fun x y => x.1 = y.1 ∧ TwinHosts S x.2 y.2) (valHostRmi rmm c h)
      (valHostRmi rmm c h') := by
  cases c with
  | granuleDelegate a => exact ht.rmiCall _ fun hu => hu.addGranule _ _ _
  | features index => exact ht.rmiCall _ fun hu => .ok hu
  | rttAuxMapProtected | rttAuxMapUnprotected | rttAuxUnmapProtected | rttAuxUnmapUnprotected =>
    exact ht.rmiCall _ fun hu => (hu.updateAuxRttInfo hS _ _ _ _ _).map fun _ _ hv => hv.2
  | realmCreate | recCreate | dataCreate | dataCreateUnknown | rttCreate | rttMapUnprotected
  | rttAuxCreate => exact ht.rmiCall _ fun hu => hu.updateGranuleState hS _ _ _ _ _ _
  | granuleUndelegate | realmDestroy | recDestroy | dataDestroy | rttDestroy | rttFold
  | rttUnmapUnprotected | rttAuxDestroy | rttAuxFold =>
    exact ht.rmiCall _ fun hu => hu.updateDestroyGranuleState hS _ _ _ _ _ _ _

theorem related_issue (hS : ∀ i, S i i) (c : Cmd) : Proc.Related (TwinHosts S) (issue rmm c) :=
  fun _ _ ht => (ht.rmi hS c).map fun _ _ hxy =>
    ⟨congrArg (fun r : SmcRet => r.x0 == 0) hxy.1, hxy.2⟩

theorem related_issueFor (hS : ∀ i, S i i) (a : Ptr) (f : Granule → Cmd) :
    Proc.Related (TwinHosts S) (issueFor rmm a f) :=
  .reading (f := fun g => issue rmm (f g)) (x := node a) (fun _ _ ht => (ht.node a).symm)
    fun g => related_issue hS (f g)

theorem related_guarded {p : Proc Host Fault} (a : Ptr) (b : Granule → Bool)
    (hp : Proc.Related (TwinHosts S) p) :
    Proc.Related (TwinHosts S) (Proc.guarded (fun h => b (node a h)) p) :=
  .guarded (fun _ _ ht => by rw [ht.node a]) hp

theorem related_walk {r : ListRef} {body : Ptr → Proc Host Fault}
    (hb : ∀ a, Proc.Related (TwinHosts S) (body a)) :
    Proc.Related (TwinHosts S) (walk r body) :=
  .reading (f := fun p => Proc.forEachNode (fun h : Host => h.tracker.mem) Fault.endless body
    loopFuel p) (x := fun h => h.tracker.list r) (fun _ _ ht => (ht.tracker.list r).symm)
    fun p => .forEachNode (fun _ _ ht => ht.tracker.mem.symm) hb _ p

theorem related_walkCurrent {k : GranType} {body : Ptr → Proc Host Fault}
    (hb : ∀ a, Proc.Related (TwinHosts Eq) (body a)) :
    Proc.Related (TwinHosts Eq) (walkCurrent k body) :=
  .reading (f := fun i => walk (i, k) body) (x := fun h => h.tracker.currentRealm)
    (fun _ _ ht => ht.tracker.realm) fun _ => related_walk hb

theorem related_destroy_undelegate (hS : ∀ i, S i i) (a : Ptr) (f : Granule → Cmd) :
    Proc.Related (TwinHosts S) (Proc.seq (issueFor rmm a f) (undelegateNode rmm a)) :=
  .seq (related_issueFor hS a f) (related_issueFor hS a _)

theorem related_unmapAuxiliary (hS : ∀ i, S i i) (a : Ptr) (f : Granule → UInt64 → Cmd) :
    Proc.Related (TwinHosts S) (unmapAuxiliary rmm a f) := by
  refine .all fun p hp => ?_
  obtain ⟨i, -, rfl⟩ := List.mem_map.mp hp
  exact related_guarded a (fun g => g.hasAuxiliary i) (related_issueFor hS a _)

theorem related_destroyData (hS : ∀ i, S i i) (a : Ptr) :
    Proc.Related (TwinHosts S) (destroyData rmm a) :=
  .seq (related_unmapAuxiliary hS a _) (related_destroy_undelegate hS a _)

theorem related_rttLevels (level : UInt64) :
    Proc.Related (TwinHosts Eq)
      fun h => valHostDestroyRttLevels rmm level h.tracker.currentRealm h :=
  .reading (f := fun i => valHostDestroyRttLevels rmm level i)
    (x := fun h => h.tracker.currentRealm) (fun _ _ ht => ht.tracker.realm) fun _ =>
      related_walk fun a => related_guarded a (fun g => g.level == level)
        (related_destroy_undelegate (fun _ => rfl) a _)

theorem related_destroyAuxTrees : Proc.Related (TwinHosts Eq) (destroyAuxTrees rmm) := by
  refine .all fun p hp => ?_
  obtain ⟨index, -, hp⟩ := List.mem_flatMap.mp hp
  obtain ⟨level, -, rfl⟩ := List.mem_map.mp hp
  exact .reading (f := fun i => valHostDestroyAuxRttLevels rmm level i index)
    (x := fun h => h.tracker.currentRealm) (fun _ _ ht => ht.tracker.realm) fun _ =>
      related_walk fun a => related_guarded a (fun g => g.level == level && g.rttTreeIdx == index)
        (related_destroy_undelegate (fun _ => rfl) a _)

theorem related_ifPlanes {p : Proc Host Fault} (hp : Proc.Related (TwinHosts Eq) p) :
    Proc.Related (TwinHosts Eq) (ifPlanes rmm p) := by
  intro h h' ht
  refine (ht.rmi (fun _ => rfl) (.features 0)).bind ?_
  rintro ⟨r, u⟩ ⟨-, u'⟩ ⟨rfl, hu⟩
  dsimp only
  split
  · exact hp u u' hu
  · exact .ok ⟨rfl, hu⟩

/-- What comes after `current_realm` is assigned may rely on it. -/
theorem related_enter (hS : ∀ i, S i i) (rd : UInt64) {ps : List (Proc Host Fault)}
    (hps : ∀ p ∈ ps, Proc.Related (TwinHosts Eq) p) :
    Proc.Related (TwinHosts S) (Proc.all (enterRealm rd :: ps)) := by
  intro h h' ht
  have hsame : valHostGetCurrRealm rd h'.tracker = valHostGetCurrRealm rd h.tracker :=
    ht.tracker.currRealm rd
  have henter : TwinHosts Eq
      { h with tracker := { h.tracker with currentRealm := valHostGetCurrRealm rd h.tracker } }
      { h' with tracker := { h'.tracker with currentRealm := valHostGetCurrRealm rd h'.tracker } } :=
    ⟨by rw [hsame]; exact ht.tracker.enter _, ht.trace⟩
  exact (Proc.Related.all hps _ _ henter).mono fun _ _ hu =>
    ⟨hu.1, hu.2.tracker.weaken hS, hu.2.trace⟩

/-- **`val_host_realm_destroy`.** -/
theorem related_realmDestroy (hS : ∀ i, S i i) (rd : UInt64) :
    Proc.Related (TwinHosts S) (valHostRealmDestroy rmm rmmV11 rd) := by
  refine related_enter hS rd fun p hp => ?_
  simp only [List.mem_cons, List.not_mem_nil, or_false] at hp
  rcases hp with rfl | rfl | rfl | rfl | rfl | rfl | rfl | rfl | rfl
  · exact related_walkCurrent fun a => related_destroy_undelegate (fun _ => rfl) a _
  · exact related_walkCurrent fun a =>
      related_guarded a (fun g => g.isGranuleSliced == 1) (related_destroyData (fun _ => rfl) a)
  · exact related_walkCurrent fun a =>
      related_guarded a (fun g => g.isGranuleSliced == 0) (related_destroyData (fun _ => rfl) a)
  · exact related_walkCurrent fun a =>
      .seq (related_unmapAuxiliary (fun _ => rfl) a _) (related_issueFor (fun _ => rfl) a _)
  · exact related_rttLevels 3
  · exact related_rttLevels 2
  · exact related_rttLevels 1
  · exact .guarded (fun _ _ _ => rfl) (related_ifPlanes related_destroyAuxTrees)
  · exact .reading (f := fun rd => issue rmm (.realmDestroy rd))
      (x := fun h => h.tracker.rd h.tracker.currentRealm)
      (fun _ _ ht => by rw [ht.tracker.rd, ht.tracker.realm])
      fun rd => related_issue (fun _ => rfl) _

theorem related_freeNode (a : Ptr) : Proc.Related (TwinHosts S) (freeNode a) := by
  intro h h' ht
  unfold freeNode valHostRemoveGranule
  rw [ht.node a]
  refine (ht.tracker.removeGranuleBy _ nsRef).bind ?_
  rintro ⟨p, u⟩ ⟨-, u'⟩ ⟨rfl, hu⟩
  cases p with
  | none => exact .error _
  | some b => exact .ok ⟨rfl, hu, ht.trace⟩

/-- **`val_host_postamble`.** -/
theorem related_postamble (hS : ∀ i, S i i) :
    Proc.Related (TwinHosts S) (valHostPostamble rmm rmmV11) := by
  refine .all fun p hp => ?_
  simp only [List.mem_cons, List.not_mem_nil, or_false] at hp
  rcases hp with rfl | rfl | rfl
  · refine .all fun p hp => ?_
    obtain ⟨i, -, rfl⟩ := List.mem_map.mp hp
    refine .guarded (fun _ _ ht => by rw [ht.tracker.rd]) ?_
    exact .reading (f := fun rd => valHostRealmDestroy rmm rmmV11 rd)
      (x := fun h => h.tracker.rd i) (fun _ _ ht => by rw [ht.tracker.rd])
      fun rd => related_realmDestroy hS rd
  · exact related_walk fun a => related_guarded a (fun g => decide (g.state = .delegated))
      (related_issueFor hS a _)
  · exact related_walk fun a => related_guarded a (fun g => decide (g.state = .undelegated))
      (related_freeNode a)

/-- **Every act.** -/
theorem TwinHosts.exec (ht : TwinHosts S h h') (hS : ∀ i, S i i) (a : Act) :
    Agree (TwinHosts S) (a.exec rmm rmmV11 h) (a.exec rmm rmmV11 h') := by
  cases a with
  | call c => exact (ht.rmi hS c).map fun _ _ hu => hu.2
  | realmDestroy rd => exact (related_realmDestroy hS rd h h' ht).map fun _ _ hu => hu.2
  | postamble => exact (related_postamble hS h h' ht).map fun _ _ hu => hu.2
  | slice rd ipa => exact (ht.tracker.sliceData rd ipa).map fun _ _ hu => ⟨hu, ht.trace⟩
  | alloc q =>
    have hu := ht.tracker
    refine .ok ⟨⟨hu.memTrack, hu.head, hu.tail, hu.mem, ?_, hu.ns, hu.realm⟩, ht.trace⟩
    show (q.exec h'.tracker.heap).2 = (q.exec h.tracker.heap).2
    rw [hu.heap]

/-- **Every run.** -/
theorem TwinHosts.execAll (hS : ∀ i, S i i) :
    ∀ (acts : List Act) {h h' : Host}, TwinHosts S h h' →
      Agree (TwinHosts S) (execAll rmm rmmV11 acts h) (execAll rmm rmmV11 acts h')
  | [], _, _, ht => .ok ht
  | a :: as, _, _, ht => (ht.exec hS a).bind fun _ _ hu => hu.execAll hS as

end Runs

/-! ## 4. After a reset -/

/-- What can be seen of a host: the slots, the lists with their nodes, what
`val_host_find_granule` answers, and the commands that were issued. -/
structure SameView (h h' : Host) : Prop where
  rd : h'.tracker.rd = h.tracker.rd
  lists : ∀ r, h'.tracker.list r = h.tracker.list r
  mem : h'.tracker.mem = h.tracker.mem
  find : ∀ pa, valHostFindGranule pa h'.tracker = valHostFindGranule pa h.tracker
  trace : h'.trace = h.trace

/-- **Trackers no run can tell apart**: against every RMM, every sequence of acts -- wrapper calls,
teardowns, cleanups -- ends in the same fault, or in states that look the same. -/
def Equivalent (t t' : Tracker) : Prop :=
  ∀ rmm rmmV11 tr acts, Agree SameView (execAll rmm rmmV11 acts ⟨t, tr⟩)
    (execAll rmm rmmV11 acts ⟨t', tr⟩)

theorem TwinHosts.sameView {S : Fin maxRealms → Fin maxRealms → Prop} {h h' : Host}
    (ht : TwinHosts S h h') : SameView h h' :=
  ⟨ht.tracker.rd, ht.tracker.list, ht.tracker.mem, ht.tracker.findGranule, ht.trace⟩

/-- What equivalent trackers show at once. -/
theorem Equivalent.sameView {t t' : Tracker} (h : Equivalent t t') : SameView ⟨t, []⟩ ⟨t', []⟩ := by
  have hnow := h (exactMonitor 0) true [] []
  cases hnow with
  | ok hv => exact hv

theorem findGranule_first {t : Tracker} {a : Ptr} (h : t.head = some a) :
    valHostFindGranule (t.mem a).data.pa t = .ok (some a) := by
  have hscan : scan t.mem (fun g => g.pa == (t.mem a).data.pa) loopFuel none (some a)
      = some (none, some a) := by
    unfold loopFuel
    simp [scan]
  rw [valHostFindGranule, h, hscan]

theorem findGranule_none {t : Tracker} (h : t.head = none) (pa : UInt64) :
    valHostFindGranule pa t = .ok none := by
  have hscan : scan t.mem (fun g => g.pa == pa) loopFuel none none = some (none, none) := by
    unfold loopFuel
    simp [scan]
  rw [valHostFindGranule, h, hscan]

/-- A leftover `head` shows in the first lookup. -/
theorem head_of_equivalent {t : Tracker} {heap : HeapState}
    (h : Equivalent { valHostResetMemTack t with heap := heap } (Tracker.init t.mem heap)) :
    t.head = none := by
  cases hh : t.head with
  | none => rfl
  | some a =>
    have hfind := h.sameView.find (t.mem a).data.pa
    have hold : valHostFindGranule (t.mem a).data.pa
        { valHostResetMemTack t with heap := heap } = .ok (some a) :=
      findGranule_first (t := { valHostResetMemTack t with heap := heap }) hh
    rw [hold, findGranule_none rfl] at hfind
    exact absurd hfind (by simp)

/-- **What a reset resets.**  A tracker that is reset -- whatever heap it goes on with -- behaves
like a new one if and only if its `head` was NULL and no slot had an auxiliary RTT. -/
theorem reset_equivalent_iff (t : Tracker) (heap : HeapState) :
    Equivalent { valHostResetMemTack t with heap := heap } (Tracker.init t.mem heap) ↔
      t.head = none ∧ ∀ i, t.list (i, .rttAux) = none := by
  constructor
  · intro h
    refine ⟨head_of_equivalent h, fun i => ?_⟩
    have hlist := h.sameView.lists (i, .rttAux)
    exact hlist.symm
  · rintro ⟨hhead, haux⟩ rmm rmmV11 tr acts
    have hmem : (Tracker.init t.mem heap).memTrack = (valHostResetMemTack t).memTrack := by
      funext i
      show (⟨freeRd, fun _ => none⟩ : MemTrack) = ⟨freeRd, _⟩
      congr 1
      funext k
      split
      · rename_i hk
        subst hk
        exact (haux i).symm
      · rfl
    have htwins : Twins (fun _ _ => True) { valHostResetMemTack t with heap := heap }
        (Tracker.init t.mem heap) :=
      ⟨hmem, hhead.symm, fun hne => absurd hhead hne, rfl, rfl, hhead, trivial⟩
    have hhosts : TwinHosts (fun _ _ => True) ⟨_, tr⟩ ⟨_, tr⟩ := ⟨htwins, rfl⟩
    exact (TwinHosts.execAll (fun _ => trivial) acts hhosts).mono fun _ _ hu => hu.sameView

/-- **After a test that left one granule delegated**, the reset tracker is not like a new one. -/
theorem reset_keeps_granule :
    ∃ h, Reachable (exactMonitor 0) true (fun _ _ => True) h ∧
      ∀ heap, ¬ Equivalent { valHostResetMemTack h.tracker with heap := heap }
        (Tracker.init h.tracker.mem heap) := by
  obtain ⟨h, hreach, hp⟩ := reachable_of_runActs (exactMonitor 0) true (fun _ a => a.plain)
    (fun _ _ ha => ⟨Act.fits_of_plain ha, trivial⟩) [.call (.granuleDelegate 0x1000)]
    (fun h => h.tracker.head.isSome) (by decide +kernel)
  refine ⟨h, hreach, fun heap heq => ?_⟩
  rw [head_of_equivalent heq] at hp
  exact absurd hp (by simp)

end RmmAcs.Granules
