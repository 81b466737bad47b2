/-
# `val_host_postamble` gives everything back

The function has three phases.  It destroys the realm of every slot; it undelegates every granule
the NS list has in state `GRANULE_DELEGATED`; and it frees the nodes that are left.  Each phase
edits the lists it walks, and the third relies on what the second leaves: a node whose granule was
undelegated is gone, unless it was sliced, and then it is in state `GRANULE_UNDELEGATED`.

If the tracker is complete when the function is called, success means that nothing is left: after
the first phase the RMM has no object, after the second no granule, after the third there is no
node.  What a run has to do for the tracker to be complete is `Tracks`.
-/
import RmmAcs.Tracker.RealmDestroy
import RmmAcs.Tracker.Slots

namespace RmmAcs.Granules

open RmmAcs Lib Rmm

/-! ## 1. Runs before a cleanup -/

/-- A test does anything but the cleanup, and keeps its unprotected IPAs apart from its PAs. -/
def Usable (rmm : Monitor) (U : UInt64 → Prop) (h : Host) : Act → Prop
  | .call c => (rmm h.trace c).x0 = 0 → Apart U c
  | .postamble => False
  | _ => True

/-- The tracker has room for a command: a realm finds a free slot, a granule finds no node of its
PA in the NS list. -/
def hasRoom (t : Tracker) : Cmd → Bool
  | .granuleDelegate a =>
    match valHostFindGranule a t with
    | .ok none => true
    | _ => false
  | .realmCreate _ _ => slots.any fun i => t.rd i == freeRd
  | _ => true

/-- Such a test, when the tracker has room for every command that is accepted. -/
def Tracks (rmm : Monitor) (U : UInt64 → Prop) (h : Host) (a : Act) : Prop :=
  Usable rmm U h a ∧
    ∀ c, a = .call c → (rmm h.trace c).x0 = 0 → hasRoom h.tracker c = true

section Runs

variable {U : UInt64 → Prop} {rmm : Monitor} {rmmV11 : Bool} {h h' : Host} {A A' : Lists} {c : Cmd}

theorem canTrack_of_hasRoom (hrep : Repr h.tracker A) (hap : Apart U c)
    (hroom : hasRoom h.tracker c = true) : CanTrack U A c := by
  cases c with
  | granuleDelegate a =>
    have hfind : valHostFindGranule a h.tracker
        = .ok ((A.find nsRef (Lists.byPa a)).map Prod.fst) := hrep.find_eq a
    simp only [hasRoom, hfind] at hroom
    refine ⟨hap, ?_⟩
    cases hf : A.find nsRef (Lists.byPa a) with
    | none => rfl
    | some d =>
      rw [hf] at hroom
      exact absurd hroom (by simp)
  | realmCreate rd params =>
    obtain ⟨i, hi, hfree⟩ := List.any_eq_true.mp hroom
    rw [hrep.rd] at hfree
    exact ⟨i, mem_slots.mp hi, by simpa using hfree⟩
  | rttMapUnprotected rd ipa level desc => exact hap
  | _ => trivial

/-- **Along such a run the tracker is complete.** -/
theorem Reachable.complete (hreach : Reachable rmm rmmV11 (Tracks rmm U) h)
    (hr : LegalMonitor rmm) : ∃ A, Holds (Complete U) h A := by
  obtain ⟨mem, heap, acts, hheap, hrun⟩ := hreach
  refine hrun.invariant (I := Kept (Complete U))
    (holds_start mem hheap fun A => complete_start U) ?_
  rintro s a s' hk ⟨hfits, ⟨huse, hroom⟩, he⟩
  refine hk.exec (stable_complete U) hr hfits ?_ (fun _ _ _ => slices_complete U) ?_ he
  · rintro c rfl A hh h0
    exact canTrack_of_hasRoom hh.rep (huse h0) (hroom c rfl h0)
  · rintro rfl
    exact absurd huse not_false

/-- A tracker means one family of lists. -/
theorem Repr.unique {t : Tracker} (h : Repr t A) (h' : Repr t A') : A = A' := by
  have hrd : A.rd = A'.rd := h.rd.symm.trans h'.rd
  have hcur : A.cur = A'.cur := h.cur.symm.trans h'.cur
  have hlists : A.lists = A'.lists := funext fun r => (h.chain r).unique (h'.chain r)
  obtain ⟨rd, cur, lists⟩ := A
  obtain ⟨rd', cur', lists'⟩ := A'
  simp only at hrd hcur hlists
  rw [hrd, hcur, hlists]

end Runs

/-! ## 2. The slots -/

/-- The history of `h` goes on from that of `h₀`, with commands of a cleanup. -/
def Follows (h₀ h : Host) : Prop := ∃ seg, h.trace = h₀.trace ++ seg ∧ ∀ e ∈ seg, Ends e.1

theorem Follows.refl (h : Host) : Follows h h := ⟨[], by simp, by simp⟩

theorem Follows.trans {h₀ h h' : Host} (h₁ : Follows h₀ h) (h₂ : Follows h h') : Follows h₀ h' := by
  obtain ⟨s, hs, hsE⟩ := h₁
  obtain ⟨s', hs', hsE'⟩ := h₂
  refine ⟨s ++ s', by rw [hs', hs, List.append_assoc], fun e he => ?_⟩
  exact (List.mem_append.mp he).elim (hsE e) (hsE' e)

/-- The cleanup started in `h₀` has come to `h`: the tracker is complete, and the slots `done` are
free. -/
def Cleaning (U : UInt64 → Prop) (h₀ : Host) (done : List (Fin maxRealms)) (h : Host) : Prop :=
  Follows h₀ h ∧ ∃ A, Holds (Complete U) h A ∧ ∀ i ∈ done, A.rd i = freeRd

section Phases

variable {U : UInt64 → Prop} {rmm : Monitor} {rmmV11 : Bool} {h₀ h h' : Host} {A A' : Lists}

theorem Holds.sound (hh : Holds (Complete U) h A) : Holds Sound h A :=
  ⟨hh.rep, hh.legal, hh.inv.sound⟩

/-- One slot. -/
theorem success_slot (hr : LegalMonitor rmm) {i : Fin maxRealms} (hi : i ≠ 0)
    (done : List (Fin maxRealms)) :
    Proc.Success (Cleaning U h₀ done)
      (Proc.guarded (fun h => h.tracker.rd i != freeRd)
        fun h => valHostRealmDestroy rmm rmmV11 (h.tracker.rd i) h)
      (Cleaning U h₀ (done ++ [i])) := by
  rintro h h' ⟨hfol, A, hh, hdone⟩ hrun
  rcases Proc.guarded_success hrun with ⟨hb, hrun⟩ | ⟨hb, rfl⟩
  · have hne : A.rd i ≠ freeRd := by
      rw [hh.rep.rd] at hb
      simpa using hb
    have hslot : slotOf A.rd (A.rd i) = i :=
      hh.inv.sound.slot_eq hh.wf hi rfl (hh.inv.sound.rd_live i hi hne)
    rw [hh.rep.rd] at hrun
    -- the function frees the slot, and it keeps the tracker complete
    have hi0 : slotOf A.rd (A.rd i) ≠ 0 := by
      rw [hslot]
      exact hi
    obtain ⟨A', pre, aux, -, -, hg⟩ := realmDestroy_success hr hh.sound hi0 hrun
    obtain ⟨B, hB⟩ := keeps_realmDestroy (stable_complete U) hr (A.rd i) h true h' ⟨A, hh⟩ hrun
    obtain rfl : A' = B := hg.holds.rep.unique hB.rep
    obtain ⟨seg, hseg, -, hall⟩ := hg.trace
    refine ⟨hfol.trans ⟨seg, hseg, fun e he => (hall e he).1.1⟩, A', hB, fun j hj => ?_⟩
    rw [hg.rd, hslot]
    by_cases hji : j = i
    · rw [hji, Function.update_self]
    · rw [Function.update_of_ne hji]
      exact hdone j ((List.mem_append.mp hj).resolve_right fun h => hji (List.mem_singleton.mp h))
  · refine ⟨hfol, A, hh, fun j hj => ?_⟩
    rcases List.mem_append.mp hj with hj | hj
    · exact hdone j hj
    · rw [hh.rep.rd] at hb
      rw [List.mem_singleton.mp hj]
      simpa using hb

theorem success_slots (hr : LegalMonitor rmm) :
    ∀ (is done : List (Fin maxRealms)), (∀ i ∈ is, i ≠ 0) →
      Proc.Success (Cleaning U h₀ done)
        (Proc.all (is.map fun i => Proc.guarded (fun h => h.tracker.rd i != freeRd)
          fun h => valHostRealmDestroy rmm rmmV11 (h.tracker.rd i) h))
        (Cleaning U h₀ (done ++ is))
  | [], done, _ => Proc.Success.skip fun h hc => by rwa [List.append_nil]
  | i :: is, done, hi => by
    have hrest := success_slots hr is (done ++ [i]) fun j hj => hi j (List.mem_cons_of_mem _ hj)
    rw [List.append_assoc] at hrest
    exact (success_slot hr (hi i List.mem_cons_self) done).seq hrest

/-- With no slot in use, no object is alive. -/
theorem Complete.no_objs {R : RmmState} (hc : Complete U A R) (hw : R.Wf)
    (hfree : ∀ i, i ≠ 0 → A.rd i = freeRd) : R.objs = [] := by
  refine List.eq_nil_iff_forall_not_mem.mpr fun o ho => ?_
  obtain ⟨hs, -⟩ := hc.full.tracked o ho
  exact ne_freeRd hw (hw.owner o ho) ((slotOf_rd hs).symm.trans (hfree _ hs))

/-! ## 3. The NS list -/

/-- The second phase with the nodes `rest` ahead: those behind stand for nothing any more. -/
def Undelegating (U : UInt64 → Prop) (h₀ : Host) (rest : List Cell) (h : Host) : Prop :=
  Follows h₀ h ∧ ∃ A kept, Holds (Complete U) h A ∧ (∀ i, i ≠ 0 → A.rd i = freeRd) ∧
    A.lists nsRef = kept ++ rest ∧ ∀ d ∈ kept, d.2.state = .undelegated

/-- One node of the NS list. -/
theorem undelegate_at {R : RmmState} {t : Tracker} (hc : Complete U A R) (hrep : Repr t A)
    {kept rest : List Cell} {d : Cell} (hl : A.lists nsRef = kept ++ d :: rest)
    (hst : d.2.state = .delegated) :
    ∃ kept', (A.undelegate d.2.pa).lists nsRef = kept' ++ rest ∧
      ∀ e ∈ kept', e ∈ kept ∨ e.2.state = .undelegated := by
  have hd : d ∈ A.lists nsRef := by rw [hl]; simp
  have hspare : Spare R d.2.pa := by
    rcases hc.full.ns.cell d hd with ⟨-, hs, -⟩ | ⟨hu, -⟩
    · exact hs
    · exact absurd (hst.symm.trans hu) (by decide)
  -- it is the only one with its PA, so it is the one that is found
  obtain ⟨e, hf, -, -, -, hmark, hone⟩ := hc.full.ns.find hspare
  obtain rfl : d = e := by
    have hmem : d ∈ (A.lists nsRef).filter fun c => Lists.byPa d.2.pa c.2 :=
      List.mem_filter.mpr ⟨hd, byPa_iff.mpr rfl⟩
    rw [hone] at hmem
    exact List.mem_singleton.mp hmem
  have hfind : A.find nsRef (Lists.byPa d.2.pa) = some d := hf
  unfold Lists.undelegate
  simp only [hfind]
  have hnd := hrep.nodup nsRef
  rw [hl] at hnd hone
  by_cases h0 : d.2.isGranuleSliced = 0
  · have hkept : ∀ e ∈ kept, ¬ (Lists.byPa d.2.pa e.2 = true) := by
      intro e he hpa
      have hsplit := List.filter_append (p := fun c : Cell => Lists.byPa d.2.pa c.2) kept (d :: rest)
      rw [hone, List.filter_cons_of_pos (by simp [Lists.byPa])] at hsplit
      have hlen := congrArg List.length hsplit
      have hpos : 0 < (kept.filter fun c => Lists.byPa d.2.pa c.2).length :=
        List.length_pos_of_mem (List.mem_filter.mpr ⟨he, hpa⟩)
      simp only [List.length_append, List.length_cons, List.length_nil] at hlen
      omega
    refine ⟨kept, ?_, fun e he => Or.inl he⟩
    rw [if_pos h0, Lists.drop_lists_self, hl, List.eraseP_append_right _ hkept,
      List.eraseP_cons_of_pos (p := fun c : Cell => Lists.byPa d.2.pa c.2) (byPa_iff.mpr rfl)]
  · refine ⟨kept ++ [(d.1, withState .undelegated d.2)], ?_, fun e he => ?_⟩
    · rw [if_neg h0, if_pos (hmark.resolve_left h0), Lists.modify_lists, hl, modifyAt_middle _ hnd]
      simp
    · rcases List.mem_append.mp he with he | he
      · exact Or.inl he
      · rw [List.mem_singleton.mp he]
        exact Or.inr rfl

theorem success_undelegate (hr : LegalMonitor rmm) (d : Cell) (rest : List Cell) :
    Proc.Success (Undelegating U h₀ (d :: rest))
      (Proc.guarded (fun h => decide ((node d.1 h).state = .delegated)) (undelegateNode rmm d.1))
      (Undelegating U h₀ rest) := by
  rintro h h' ⟨hfol, A, kept, hh, hfree, hl, hkept⟩ hrun
  have hd : d ∈ A.lists nsRef := by rw [hl]; simp
  have hnode : node d.1 h = d.2 := (hh.rep.chain nsRef).data_eq hd
  rcases Proc.guarded_success hrun with ⟨hb, hrun⟩ | ⟨hb, rfl⟩
  · have hst : d.2.state = .delegated := hnode ▸ of_decide_eq_true hb
    unfold undelegateNode issueFor at hrun
    rw [hnode] at hrun
    obtain ⟨r, hcall, hr0⟩ := issue_ok hrun
    have h0 : r.x0 = 0 := by simpa using hr0.symm
    have hends : Ends (.granuleUndelegate d.2.pa) := ⟨rfl, by simp⟩
    have hok : CanTrack U A (.granuleUndelegate d.2.pa) := trivial
    obtain ⟨A', hA'⟩ := hh.call (stable_complete U) hr (fun _ => hok) hcall
    obtain rfl : A.undelegate d.2.pa = A' := Option.some.inj (hA'.effect h0)
    obtain ⟨kept', hl', hkept'⟩ := undelegate_at hh.inv hh.rep hl hst
    refine ⟨hfol.trans ⟨_, hA'.trace, ?_⟩, _, kept', hA'.holds, ?_, hl', fun e he => ?_⟩
    · intro e he
      rw [List.mem_singleton.mp he]
      exact hends
    · rw [(undelegate_lists hh.rep d.2.pa).2.1]
      exact hfree
    · exact (hkept' e he).elim (hkept e) id
  · refine ⟨hfol, A, kept ++ [d], hh, hfree, by rw [hl]; simp, fun e he => ?_⟩
    rcases List.mem_append.mp he with he | he
    · exact hkept e he
    · rw [List.mem_singleton.mp he]
      have hst : d.2.state ≠ .delegated := fun hs => by simp [hnode, hs] at hb
      rcases hh.inv.full.ns.cell d hd with ⟨hs, -, -⟩ | ⟨hu, -⟩
      · exact absurd hs hst
      · exact hu

/-- The third phase with the nodes `rest` ahead: they are all there is. -/
def Freeing (h₀ : Host) (rest : List Cell) (h : Host) : Prop :=
  h.trace = h₀.trace ∧ ∃ A, Holds Sound h A ∧ (∀ i, i ≠ 0 → A.rd i = freeRd) ∧
    A.lists nsRef = rest ∧ ∀ d ∈ rest, d.2.state = .undelegated

theorem success_free (d : Cell) (rest : List Cell) :
    Proc.Success (Freeing h₀ (d :: rest))
      (Proc.guarded (fun h => decide ((node d.1 h).state = .undelegated)) (freeNode d.1))
      (Freeing h₀ rest) := by
  rintro h h' ⟨htr, A, hh, hfree, hl, hst⟩ hrun
  have hd : d ∈ A.lists nsRef := by rw [hl]; simp
  have hnode : node d.1 h = d.2 := (hh.rep.chain nsRef).data_eq hd
  rcases Proc.guarded_success hrun with ⟨-, hrun⟩ | ⟨hb, -⟩
  · -- the first node with the PA is the node itself
    have hfind : A.find nsRef (fun g => g.pa == d.2.pa) = some d := by
      rw [Lists.find, hl]
      exact List.find?_cons_of_pos (by simp)
    obtain ⟨t', ht', hrep, -⟩ := hh.rep.remove_some hfind
    unfold freeNode valHostRemoveGranule at hrun
    rw [hnode, ht'] at hrun
    simp only [bind, Except.bind, deref, Proc.skip, Except.ok.injEq, Prod.mk.injEq,
      true_and] at hrun
    subst hrun
    refine ⟨htr, _, ⟨hrep, hh.legal, sheds_sound _ hh.inv⟩, hfree, ?_,
      fun e he => hst e (List.mem_cons_of_mem _ he)⟩
    rw [Lists.drop_lists_self, hl,
      List.eraseP_cons_of_pos (p := fun c : Cell => c.2.pa == d.2.pa) (by simp)]
  · rw [hnode, hst d List.mem_cons_self] at hb
    exact absurd hb (by simp)

/-- The first node of the NS list and its link, for a loop. -/
theorem nsRef_head (hrep : Repr h.tracker A) :
    h.tracker.list nsRef = ((A.lists nsRef).head?).map Prod.fst := by
  rw [(hrep.chain nsRef).head?_eq, addrs, List.head?_map]

theorem nsRef_next (hrep : Repr h.tracker A) {kept rest : List Cell} {d : Cell}
    (hl : A.lists nsRef = kept ++ d :: rest) :
    (h.tracker.mem d.1).next = (rest.head?).map Prod.fst := by
  have hch := hrep.chain nsRef
  rw [hl] at hch
  rw [hch.next_eq.head?_eq, addrs, List.head?_map]

/-- **The three phases**, one after the other. -/
theorem postamble_success (hr : LegalMonitor rmm) (hh : Holds (Complete U) h A)
    (hrun : valHostPostamble rmm rmmV11 h = .ok (true, h')) :
    ∃ A', Follows h h' ∧ Holds Sound h' A' ∧ (∀ i, i ≠ 0 → A'.rd i = freeRd) ∧
      A'.lists nsRef = [] ∧ (replay h'.trace).delegated = [] := by
  obtain ⟨h₁, hslots, hrun⟩ := Proc.seq_success hrun
  obtain ⟨h₂, hund, hrun⟩ := Proc.seq_success hrun
  obtain ⟨h₃, hfree, hskip⟩ := Proc.seq_success hrun
  obtain rfl : h₃ = h' := by simpa [Proc.all, Proc.skip] using hskip
  -- the slots
  obtain ⟨hfol₁, A₁, hh₁, hrd₁⟩ := success_slots hr slots [] (fun i hi => mem_slots.mp hi) h h₁
    ⟨Follows.refl h, A, hh, fun i hi => absurd hi List.not_mem_nil⟩ hslots
  -- what is delegated
  have hbody₂ : ∀ d rest, Proc.Success (Undelegating U h (d :: rest)) _ (Undelegating U h rest) :=
    fun d rest => success_undelegate hr d rest
  have hund' : Proc.forEachNode (fun h : Host => h.tracker.mem) Fault.endless _ loopFuel
      (h₁.tracker.list nsRef) h₁ = .ok (true, h₂) := hund
  rw [nsRef_head hh₁.rep] at hund'
  have hnext₂ : ∀ (c : Cell) (l : List Cell) (s : Host), Undelegating U h (c :: l) s →
      (s.tracker.mem c.1).next = (l.head?).map Prod.fst := by
    rintro c l s ⟨-, B, k, hB, -, hBl, -⟩
    exact nsRef_next hB.rep hBl
  obtain ⟨hfol₂, A₂, kept, hh₂, hrd₂, hl₂, hkept⟩ := Proc.Success.forEachNode
    hnext₂ hbody₂ _ _ h₁ h₂
    ⟨hfol₁, A₁, [], hh₁, fun i hi => hrd₁ i (mem_slots.mpr hi), rfl,
      fun d hd => absurd hd List.not_mem_nil⟩ hund'
  rw [List.append_nil] at hl₂
  have hdel : (replay h₂.trace).delegated = [] := by
    refine List.eq_nil_iff_forall_not_mem.mpr fun a ha => ?_
    have hobjs := hh₂.inv.no_objs hh₂.wf hrd₂
    have hspare : Spare (replay h₂.trace) a :=
      ⟨ha, fun o ho => absurd ho (by rw [hobjs]; exact List.not_mem_nil)⟩
    obtain ⟨d, -, hd, -, hst, -, -⟩ := hh₂.inv.full.ns.find hspare
    rw [hkept d (hl₂ ▸ hd)] at hst
    exact absurd hst (by decide)
  -- the nodes that are left
  have hbody₃ : ∀ d rest, Proc.Success (Freeing h₂ (d :: rest)) _ (Freeing h₂ rest) :=
    fun d rest => success_free d rest
  have hfree' : Proc.forEachNode (fun h : Host => h.tracker.mem) Fault.endless _ loopFuel
      (h₂.tracker.list nsRef) h₂ = .ok (true, h₃) := hfree
  rw [nsRef_head hh₂.rep] at hfree'
  have hnext₃ : ∀ (c : Cell) (l : List Cell) (s : Host), Freeing h₂ (c :: l) s →
      (s.tracker.mem c.1).next = (l.head?).map Prod.fst := by
    rintro c l s ⟨-, B, hB, -, hBl, -⟩
    exact nsRef_next hB.rep (show _ = [] ++ c :: l from hBl)
  obtain ⟨htr, A₃, hh₃, hrd₃, hl₃, -⟩ := Proc.Success.forEachNode
    hnext₃ hbody₃ _ _ h₂ h₃
    ⟨rfl, A₂, hh₂.sound, hrd₂, rfl, fun d hd => hkept d (hl₂ ▸ hd)⟩ hfree'
  refine ⟨A₃, ?_, hh₃, hrd₃, hl₃, by rw [htr]; exact hdel⟩
  obtain ⟨seg, hseg, hall⟩ := hfol₂
  exact ⟨seg, by rw [htr, hseg], hall⟩

end Phases

/-! ## 4. Nothing is left -/

/-- **Everything is given back**: the slots are free and empty, the NS list is empty, and each
granule that was delegated has had one accepted undelegation. -/
structure GivenBack (h h' : Host) : Prop where
  free : ∀ i, i ≠ 0 → h'.tracker.rd i = freeRd
  empty : ∀ i, i ≠ 0 → ∀ k, h'.tracker.list (i, k) = none
  ns : h'.tracker.list nsRef = none
  once : ∃ seg, h'.trace = h.trace ++ seg ∧
    ∀ a ∈ (replay h.trace).delegated, (accepted seg).count (.granuleUndelegate a) = 1

/-- **`val_host_postamble` gives everything back.**  In every run in which each accepted realm
creation found a free slot and each accepted delegation found no node of its PA in the NS list:
if the function succeeds, nothing is left. -/
theorem postamble_gives_everything_back {rmm : Monitor} {rmmV11 : Bool} {U : UInt64 → Prop}
    {h h' : Host} (hr : LegalMonitor rmm) (hreach : Reachable rmm rmmV11 (Tracks rmm U) h)
    (hrun : valHostPostamble rmm rmmV11 h = .ok (true, h')) : GivenBack h h' := by
  obtain ⟨A, hh⟩ := hreach.complete hr
  obtain ⟨A', ⟨seg, hseg, hends⟩, hh', hfree, hns, hdel⟩ := postamble_success hr hh hrun
  -- an empty list is a NULL pointer
  have hnull : ∀ r, A'.lists r = [] → h'.tracker.list r = none := by
    intro r hnil
    have hch := hh'.rep.chain r
    rw [hnil] at hch
    exact hch
  refine ⟨fun i hi => ?_, fun i hi k => ?_, hnull _ hns, seg, hseg, fun a ha => ?_⟩
  · rw [hh'.rep.rd]
    exact hfree i hi
  · exact hnull _ (hh'.inv.free_empty hh'.wf hi (hfree i hi) k)
  · refine granule_ends_once (hseg ▸ hh'.legal) hends ha ?_
    rw [← hseg, hdel]
    exact List.not_mem_nil

instance (rmm : Monitor) (U : UInt64 → Prop) [DecidablePred U] (h : Host) :
    (a : Act) → Decidable (Usable rmm U h a)
  | .call _ => inferInstanceAs (Decidable (_ → _))
  | .realmDestroy _ => .isTrue trivial
  | .postamble => .isFalse not_false
  | .slice _ _ => .isTrue trivial
  | .alloc _ => .isTrue trivial

/-- Whether the tracker has room for the command of an act. -/
def Act.hasRoom (h : Host) : Act → Bool
  | .call c => Granules.hasRoom h.tracker c
  | _ => true

/-- Two realms that map one unprotected IPA, one of them with a data granule that is sliced. -/
def slicedRealm : List Act :=
  [0x1000, 0x2000, 0x3000, 0x4000].map (fun a => .call (.granuleDelegate a))
    ++ [.call (.realmCreate 0x1000 0), .call (.realmCreate 0x2000 0),
      .call (.dataCreateUnknown 0x1000 0x3000 0), .slice 0x1000 0,
      .call (.rttMapUnprotected 0x1000 0x80000000 3 0),
      .call (.rttMapUnprotected 0x2000 0x80000000 3 0)]

theorem postamble_gives_two_realms_back :
    ∃ h h', Reachable (exactMonitor 0) true (Tracks (exactMonitor 0) (· = 0x80000000)) h ∧
      valHostPostamble (exactMonitor 0) true h = .ok (true, h') ∧
      (replay h.trace).delegated = [0x4000, 0x3000, 0x2000, 0x1000] ∧ GivenBack h h' := by
  have hok : ∀ h a, (a.plain && decide (Usable (exactMonitor 0) (· = 0x80000000) h a) &&
      a.hasRoom h) = true → a.Fits ∧ Tracks (exactMonitor 0) (· = 0x80000000) h a := by
    intro h a ha
    obtain ⟨hpu, hroom⟩ := Bool.and_eq_true_iff.mp ha
    obtain ⟨hp, hu⟩ := Bool.and_eq_true_iff.mp hpu
    refine ⟨Act.fits_of_plain hp, of_decide_eq_true hu, ?_⟩
    rintro c rfl -
    exact hroom
  obtain ⟨h, hreach, hp⟩ := reachable_of_runActs (exactMonitor 0) true _ hok slicedRealm
    (fun h => succeeded (valHostPostamble (exactMonitor 0) true h) &&
      decide ((replay h.trace).delegated = [0x4000, 0x3000, 0x2000, 0x1000]))
    (by decide +kernel)
  obtain ⟨hs, hd⟩ := Bool.and_eq_true_iff.mp hp
  obtain ⟨h', hrun⟩ := ok_of_succeeded hs
  exact ⟨h, h', hreach, hrun, of_decide_eq_true hd,
    postamble_gives_everything_back (exactMonitor_legal 0) hreach hrun⟩

/-- A run that maps nothing, and what its cleanup leaves. -/
theorem reachable_usable (acts : List Act) (p : Host → Host → Bool)
    (hrun : (runActs (exactMonitor 0) true
      (fun h a => a.plain && decide (Usable (exactMonitor 0) (fun _ => False) h a)) acts
      (Host.start blankMem valHostMemAllocInit)).any (fun h =>
        match valHostPostamble (exactMonitor 0) true h with
        | .ok (b, h') => b && p h h'
        | .error _ => false) = true) :
    ∃ h h', Reachable (exactMonitor 0) true (Usable (exactMonitor 0) fun _ => False) h ∧
      valHostPostamble (exactMonitor 0) true h = .ok (true, h') ∧ p h h' = true := by
  obtain ⟨h, hreach, hp⟩ := reachable_of_runActs (exactMonitor 0) true _ (fun _ _ ha => by
    obtain ⟨hp, hu⟩ := Bool.and_eq_true_iff.mp ha
    exact ⟨Act.fits_of_plain hp, of_decide_eq_true hu⟩) acts _ hrun
  cases hpost : valHostPostamble (exactMonitor 0) true h with
  | error e =>
    rw [hpost] at hp
    exact absurd hp (by simp)
  | ok x =>
    rw [hpost] at hp
    obtain ⟨hb, hp⟩ := Bool.and_eq_true_iff.mp hp
    exact ⟨h, x.2, hreach, by rw [hpost, ← hb], hp⟩

/-- A granule that is sliced as data, given back, and delegated again. -/
def slicedAgain : List Act :=
  [.call (.granuleDelegate 0x1000), .call (.granuleDelegate 0x2000), .call (.realmCreate 0x1000 0),
    .call (.dataCreateUnknown 0x1000 0x2000 0), .slice 0x1000 0, .call (.dataDestroy 0x1000 0),
    .call (.granuleUndelegate 0x2000), .call (.granuleDelegate 0x2000)]

/-- **A cleanup that succeeds and leaves something.**  The granule of a sliced data granule is
delegated again: its new node stays in the NS list, since the undelegation meets the old one.  And
of ten realms the last one, which is in slot 0, is never destroyed: its granule stays delegated. -/
theorem postamble_leaves_something :
    (∃ h h', Reachable (exactMonitor 0) true (Usable (exactMonitor 0) fun _ => False) h ∧
      valHostPostamble (exactMonitor 0) true h = .ok (true, h') ∧
      h'.tracker.list nsRef ≠ none ∧ ¬ GivenBack h h') ∧
    ∃ h h', Reachable (exactMonitor 0) true (Usable (exactMonitor 0) fun _ => False) h ∧
      valHostPostamble (exactMonitor 0) true h = .ok (true, h') ∧
      (∃ a ∈ h.tracker.list (0, .rd), (h.tracker.mem a).data.pa = 0xa000) ∧ ¬ GivenBack h h' := by
  refine ⟨?_, ?_⟩
  · obtain ⟨h, h', hreach, hrun, hp⟩ := reachable_usable slicedAgain
      (fun _ h' => (h'.tracker.list nsRef).isSome) (by decide +kernel)
    have hne : h'.tracker.list nsRef ≠ none := Option.isSome_iff_ne_none.mp hp
    exact ⟨h, h', hreach, hrun, hne, fun hg => hne hg.ns⟩
  · obtain ⟨h, h', hreach, hrun, hp⟩ := reachable_usable (realmsAt (nineRds ++ [0xa000]))
      (fun h h' => decide (0xa000 ∈ (replay h.trace).delegated) &&
        (h.tracker.list (0, .rd)).any (fun a => (h.tracker.mem a).data.pa == 0xa000) &&
        (accepted (h'.trace.drop h.trace.length)).count (.granuleUndelegate 0xa000) == 0)
      (by decide +kernel)
    obtain ⟨hp, hcount⟩ := Bool.and_eq_true_iff.mp hp
    obtain ⟨hdel, hnode⟩ := Bool.and_eq_true_iff.mp hp
    refine ⟨h, h', hreach, hrun, ?_, fun hg => ?_⟩
    · obtain ⟨a, ha, hpa⟩ := (Option.any_eq_true _ _).mp hnode
      exact ⟨a, ha, by simpa using hpa⟩
    · obtain ⟨seg, hseg, hone⟩ := hg.once
      have hzero : (accepted seg).count (.granuleUndelegate 0xa000) = 0 := by
        rw [hseg, List.drop_left] at hcount
        simpa using hcount
      rw [hone 0xa000 (of_decide_eq_true hdel)] at hzero
      exact absurd hzero (by decide)

end RmmAcs.Granules
