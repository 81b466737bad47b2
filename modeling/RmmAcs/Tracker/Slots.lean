/-
# The tracker's invariant, and the table of realms

Two of the three things `CanTrack` asks for are things a test can see to by itself: it can keep the
IPAs of its unprotected mappings apart from the PAs it delegates, and it can keep the number of its
realms down.  The third, that a granule which is delegated has no node in the NS list yet, then
holds on its own, as long as no test marks a data granule as sliced: a node in state
`GRANULE_UNDELEGATED` is a sliced granule or a mapping that is gone.

How far down the number of realms must be kept is a question of the table.  `mem_track` has
`VAL_HOST_MAX_REALMS` = 10 elements, but element 0 is the NS list's, and the search for a free slot
has no answer for a tenth realm.  It falls back on slot 0.
-/
import RmmAcs.Tracker.Complete

namespace RmmAcs.Granules

open RmmAcs Lib Rmm

/-! ## 1. Nodes that do not linger -/

/-- A node that is not sliced and not left over, unless it is an unprotected mapping's. -/
def PlainNode (U : UInt64 → Prop) (g : Granule) : Prop :=
  ¬ U g.pa → g.isGranuleSliced = 0 ∧ g.state ≠ .undelegated

/-- Every node is plain. -/
def Plain (U : UInt64 → Prop) (A : Lists) : Prop := ∀ r, ∀ d ∈ A.lists r, PlainNode U d.2

section PlainLists

variable {U : UInt64 → Prop} {A A' B : Lists} {R : RmmState} {c : Cmd}

theorem PlainNode.withState {g : Granule} (h : PlainNode U g) {state : GranuleState}
    (hs : state ≠ .undelegated) : PlainNode U (withState state g) :=
  fun hU => ⟨(h hU).1, hs⟩

namespace Plain

theorem set (h : Plain U A) {r : ListRef} {l : List Cell} (hl : ∀ d ∈ l, PlainNode U d.2) :
    Plain U (A.set r l) := by
  intro r' d hd
  by_cases hr : r' = r
  · subst hr
    rw [Lists.set_lists_self] at hd
    exact hl d hd
  · rw [Lists.set_lists_of_ne _ _ hr] at hd
    exact h r' d hd

theorem push (h : Plain U A) {r : ListRef} {c : Cell} (hc : PlainNode U c.2) :
    Plain U (A.push r c) := by
  refine h.set fun d hd => ?_
  rcases List.mem_append.mp hd with hd | hd
  · exact h r d hd
  · rw [List.mem_singleton.mp hd]
    exact hc

theorem drop (h : Plain U A) (r : ListRef) (key : Granule → Bool) : Plain U (A.drop r key) :=
  h.set fun d hd => h r d (List.eraseP_sublist.subset hd)

theorem modify (h : Plain U A) (a : Ptr) {f : Granule → Granule}
    (hf : ∀ g, PlainNode U g → PlainNode U (f g)) : Plain U (A.modify a f) := by
  intro r d hd
  obtain ⟨e, he, rfl⟩ := List.mem_map.mp hd
  split
  · exact hf _ (h r e he)
  · exact h r e he

theorem giveBack (h : Plain U A) {r : ListRef} {key : Granule → Bool} {state : GranuleState}
    (hst : ∀ d ∈ A.lists r, PlainNode U (withState state d.2))
    (he : A.giveBack r key state = some A') : Plain U A' := by
  obtain ⟨d, hd, rfl⟩ := Option.map_eq_some_iff.mp he
  exact (h.drop r key).push (hst d (List.mem_of_find?_eq_some hd))

theorem giveBackRec (h : Plain U A) (pa : UInt64) :
    ∀ is : List (Fin maxRealms), Plain U (A.giveBackRec .delegated pa is)
  | [] => h
  | i :: is => by
    unfold Lists.giveBackRec
    cases he : A.giveBack (i, .recg) (Lists.byPa pa) .delegated with
    | none => exact h.giveBackRec pa is
    | some A' => exact h.giveBack (fun d hd => (h _ d hd).withState (by decide)) he

theorem auxInfo (h : Plain U A) (granState : GranuleState) (val : Bool) {rd index ipa : UInt64}
    (he : A.auxInfo granState rd index ipa val = some A') : Plain U A' := by
  have h' : Plain U (A.enter rd) := h
  rcases Lists.auxInfo_cases he with rfl | ⟨a, i, rfl⟩
  · exact h'
  · exact h'.modify a fun _ hg => hg

theorem moved {g : Granule} (h : PlainNode U g) (rd : UInt64) {state : GranuleState}
    (hs : state ≠ .undelegated) (ipa level idx : UInt64) :
    PlainNode U (movedGranule rd state ipa level idx g) := by
  intro hU
  refine ⟨(h hU).1, ?_⟩
  show (if state = .unprotected then g.state else state) ≠ _
  split
  · exact (h hU).2
  · exact hs

theorem update (h : Plain U A) (fresh : Cell) (rd : UInt64) {state : GranuleState}
    {pa : UInt64} (ipa level idx : UInt64) (hs : state ≠ .undelegated)
    (hU : state = .unprotected → U pa) : Plain U (A.update fresh rd state pa ipa level idx) := by
  have h' : Plain U (A.enter rd) := h
  cases hf : A.find nsRef (Lists.byPa pa) with
  | none =>
    rw [Lists.update_of_none _ _ _ _ _ _ _ hf]
    split
    · rename_i hst
      exact h'.push fun hno => absurd (hU hst) hno
    · exact h'
  | some d =>
    have hd : PlainNode U d.2 := h _ d (List.mem_of_find?_eq_some hf)
    unfold Lists.update
    simp only [show (A.enter rd).find nsRef (Lists.byPa pa) = some d from hf]
    cases hk : state.granType with
    | none => exact h'
    | some k =>
      have hdrop := h'.drop nsRef (Lists.byPa pa)
      have hm := moved hd rd hs ipa level idx
      dsimp only
      split
      · refine set (fun r e he => hdrop r e ?_) fun e he => ?_
        · rwa [Lists.addRealm_lists] at he
        · rw [List.mem_singleton.mp he]
          exact hm
      · exact hdrop.push hm

/-- **Commands keep the nodes plain**, if the unprotected IPAs and the delegated PAs stay apart. -/
theorem effect (h : Plain U A) (hc : Complete U A R) (hl : R.Legal c) (hok : CanTrack U A c)
    {fresh : Cell} (he : Granules.effect fresh A c = some A') : Plain U A' := by
  cases hp : place c with
  | some p =>
    rw [effect_of_place fresh A hp] at he
    obtain rfl := Option.some.inj he
    refine h.update fresh _ _ _ _ (fun hs => ?_) fun hs => ?_
    · have hg := (place_spec hp).granType
      rw [hs] at hg
      exact absurd hg (by simp [GranuleState.granType])
    · refine Complete.place_canTrack hp ?_ hok
      have hg := (place_spec hp).granType
      rw [hs] at hg
      exact (Option.some.inj hg).symm
  | none =>
    cases hq : entry c with
    | some q =>
      rw [effect_of_entry fresh A hq] at he
      have h' : Plain U (A.enter q.rd) := h
      refine h'.giveBack (fun d hd => ?_) he
      rw [Complete.entry_state hq]
      split
      · rename_i hv
        have hcell := hc.full.cell _ _ (entry_ne_ns hq) d hd
        rw [CellOk, if_pos hv] at hcell
        exact fun hno => absurd hcell hno
      · exact (h _ d hd).withState (by decide)
    | none =>
      cases c with
      | granuleDelegate a =>
        obtain rfl := Option.some.inj he
        exact h.push fun _ => ⟨rfl, by simp [addedGranule]⟩
      | granuleUndelegate a =>
        obtain rfl := Option.some.inj he
        unfold Lists.undelegate
        cases hf : A.find nsRef (Lists.byPa a) with
        | none => exact h
        | some d =>
          have hpa : d.2.pa = a := Lists.pa_of_find hf
          have hU : ¬ U d.2.pa := hpa ▸ hc.full.apart a hl.1
          dsimp only
          rw [if_pos (h _ d (List.mem_of_find?_eq_some hf) hU).1]
          exact h.drop _ _
      | realmCreate rd params =>
        obtain rfl := Option.some.inj he
        exact h.update fresh _ _ _ _ (by decide) fun hs => absurd hs (by decide)
      | realmDestroy rd =>
        simp only [Granules.effect, Lists.destroy, reduceCtorEq, if_false, ne_eq, not_false_iff,
          if_true] at he
        obtain ⟨B, hB, rfl⟩ := Option.map_eq_some_iff.mp he
        have h' : Plain U (A.enter rd) := h
        have hpl : Plain U B := h'.giveBack (fun d hd => (h' _ d hd).withState (by decide)) hB
        exact hpl
      | recDestroy pa =>
        obtain rfl := Option.some.inj he
        exact h.giveBackRec pa slots
      | rttAuxMapProtected rd ipa index => exact h.auxInfo .data true he
      | rttAuxMapUnprotected rd ipa index => exact h.auxInfo .unprotected true he
      | rttAuxUnmapProtected rd ipa index => exact h.auxInfo .data false he
      | rttAuxUnmapUnprotected rd ipa index => exact h.auxInfo .unprotected false he
      | features index =>
        obtain rfl := Option.some.inj he
        exact h
      | _ => simp [place, entry] at hp hq

end Plain

/-- A granule that is not delegated has no node in the NS list. -/
theorem Plain.find_none (h : Plain U A) (hc : Complete U A R) {a : UInt64} (hU : ¬ U a)
    (ha : a ∉ R.delegated) : A.find nsRef (Lists.byPa a) = none := by
  refine List.find?_eq_none.mpr fun d hd hpa => ?_
  have hpa : d.2.pa = a := byPa_iff.mp hpa
  rcases hc.full.ns.cell d hd with ⟨-, hspare, -⟩ | ⟨hst, -⟩
  · exact ha (hpa ▸ hspare.1)
  · exact (h _ d hd (hpa ▸ hU)).2 hst

end PlainLists

/-! ## 2. The number of realms -/

/-- The realms that are alive. -/
def liveRealms (R : RmmState) : Finset UInt64 :=
  (R.objs.filterMap fun o => match o with
    | .realm rd => some rd
    | _ => none).toFinset

section Count

variable {A : Lists} {R : RmmState} {rd : UInt64}

theorem mem_liveRealms : rd ∈ liveRealms R ↔ .realm rd ∈ R.objs := by
  simp only [liveRealms, List.mem_toFinset, List.mem_filterMap]
  constructor
  · rintro ⟨o, ho, heq⟩
    cases o with
    | realm rd' =>
      obtain rfl := Option.some.inj heq
      exact ho
    | _ => exact absurd heq (by simp)
  · exact fun ho => ⟨_, ho, rfl⟩

theorem card_liveRealms_realmCreate {params : UInt64} (hl : R.Legal (.realmCreate rd params)) :
    (liveRealms (R.apply (.realmCreate rd params))).card = (liveRealms R).card + 1 := by
  have hnew : rd ∉ liveRealms R := fun h => (hl.1 rd rfl).2 _ (mem_liveRealms.mp h) rfl
  have hins : liveRealms (R.apply (.realmCreate rd params)) = insert rd (liveRealms R) := by
    ext x
    rw [mem_liveRealms, Finset.mem_insert, mem_liveRealms, RmmState.mem_apply_objs]
    simp [Cmd.kills, Cmd.makes, eq_comm, or_comm]
  rw [hins, Finset.card_insert_of_notMem hnew]

/-- **Nine slots for nine realms**: with fewer live, a slot is free. -/
theorem Sound.exists_free (hs : Sound A R) (h : (liveRealms R).card < 9) :
    ∃ i, i ≠ 0 ∧ A.rd i = freeRd := by
  by_contra hno
  have hused : ∀ i, i ≠ 0 → A.rd i ≠ freeRd := fun i hi hf => hno ⟨i, hi, hf⟩
  have hle : (Finset.univ.erase (0 : Fin maxRealms)).card ≤ (liveRealms R).card := by
    refine Finset.card_le_card_of_injOn A.rd (fun i hi => ?_) fun i hi j hj hij => ?_
    · have hi0 : i ≠ 0 := Finset.ne_of_mem_erase hi
      exact mem_liveRealms.mpr (hs.rd_live i hi0 (hused i hi0))
    · have hi0 : i ≠ 0 := Finset.ne_of_mem_erase hi
      exact hs.rd_inj i j hi0 (Finset.ne_of_mem_erase hj) (hused i hi0) hij
  have hnine : (Finset.univ.erase (0 : Fin maxRealms)).card = 9 := by decide
  omega

end Count

/-! ## 3. Runs of a test that keeps to the rules -/

/-- The unprotected IPAs are in `U`, the delegated PAs are not. -/
def Apart (U : UInt64 → Prop) : Cmd → Prop
  | .granuleDelegate a => ¬ U a
  | .rttMapUnprotected _ ipa _ _ => U ipa
  | _ => True

/-- A test calls wrappers and `val_host_realm_destroy`, keeps its unprotected IPAs apart from its
PAs, and never has more than `n` realms. -/
def Within (rmm : Monitor) (U : UInt64 → Prop) (n : ℕ) (h : Host) : Act → Prop
  | .call c => (rmm h.trace c).x0 = 0 →
      Apart U c ∧ (liveRealms ((replay h.trace).apply c)).card ≤ n
  | .realmDestroy _ => True
  | .alloc _ => True
  | _ => False

/-- The tracker is complete and nothing lingers in it. -/
structure Tidy (U : UInt64 → Prop) (A : Lists) (R : RmmState) : Prop where
  complete : Complete U A R
  plain : Plain U A

/-- A command that a tidy tracker can track. -/
def Fitting (U : UInt64 → Prop) (A : Lists) (c : Cmd) : Prop :=
  Apart U c ∧ ∀ rd params, c = .realmCreate rd params → ∃ i, i ≠ 0 ∧ A.rd i = freeRd

section Runs

variable {U : UInt64 → Prop} {rmm : Monitor} {rmmV11 : Bool} {h : Host} {A : Lists} {R : RmmState}
  {c : Cmd}

theorem Tidy.canTrack (ht : Tidy U A R) (hl : R.Legal c) (hok : Fitting U A c) :
    CanTrack U A c := by
  obtain ⟨hap, hfree⟩ := hok
  cases c with
  | granuleDelegate a => exact ⟨hap, ht.plain.find_none ht.complete hap hl.2⟩
  | realmCreate rd params => exact hfree rd params rfl
  | rttMapUnprotected rd ipa level desc => exact hap
  | _ => trivial

theorem apart_of_ends (he : Ends c) : Apart U c := by
  obtain ⟨hm, hd⟩ := he
  cases c with
  | granuleDelegate a => exact absurd rfl (hd a)
  | rttMapUnprotected rd ipa level desc => exact absurd hm (by simp [Cmd.makes])
  | _ => trivial

theorem Tidy.effect {t : Tracker} {A' : Lists} {fresh : Cell} (ht : Tidy U A R) (hrep : Repr t A)
    (hw : R.Wf) (hl : R.Legal c) (hok : Fitting U A c)
    (he : Granules.effect fresh A c = some A') : Tidy U A' (R.apply c) := by
  have hct := ht.canTrack hl hok
  exact ⟨ht.complete.effect hrep hw hl hct he, ht.plain.effect ht.complete hl hct he⟩

theorem stable_tidy (U : UInt64 → Prop) : Stable (Tidy U) fun A _ c => Fitting U A c where
  enter := fun rd ht => ⟨(stable_complete U).enter rd ht.complete, ht.plain⟩
  effect := fun hrep hw hl ht hok he => ht.effect hrep hw hl hok he
  ends := fun he => ⟨apart_of_ends he, fun rd params hc => by
    rw [hc] at he
    exact absurd he.1 (by simp [Cmd.makes])⟩

theorem tidy_start (U : UInt64 → Prop) {A : Lists} (hl : ∀ r, A.lists r = [])
    (hrd : ∀ i, A.rd i = freeRd) : Tidy U A .init :=
  ⟨complete_start U hl hrd, fun r d hd => absurd hd (by simp [hl])⟩

/-- A command such a test gets accepted fits. -/
theorem Tidy.fitting (ht : Tidy U A (replay h.trace)) (hr : LegalMonitor rmm)
    (hin : Within rmm U 9 h (.call c)) (h0 : (rmm h.trace c).x0 = 0) : Fitting U A c := by
  obtain ⟨hap, hcard⟩ := hin h0
  refine ⟨hap, fun rd params hc => ?_⟩
  subst hc
  rw [card_liveRealms_realmCreate (hr _ _ h0)] at hcard
  exact ht.complete.sound.exists_free (by omega)

/-- **Along such a run the tracker is tidy.** -/
theorem Reachable.tidy (hreach : Reachable rmm rmmV11 (Within rmm U 9) h) (hr : LegalMonitor rmm) :
    ∃ A, Holds (Tidy U) h A := by
  obtain ⟨mem, heap, acts, hheap, hrun⟩ := hreach
  refine hrun.invariant (I := Kept (Tidy U)) (holds_start mem hheap fun A => tidy_start U) ?_
  rintro s a s' hk ⟨hfits, hin, he⟩
  refine hk.exec (stable_tidy U) hr hfits ?_ ?_ ?_ he
  · rintro c rfl A hh h0
    exact hh.inv.fitting hr hin h0
  · rintro rd ipa rfl
    exact absurd hin not_false
  · rintro rfl
    exact absurd hin not_false

end Runs

/-! ## 4. One node for every delegated granule -/

/-- **Where the granules are**: every delegated granule has one node; it is in the NS list, in state
`GRANULE_DELEGATED`, if nothing is made from it, and otherwise in the slot of the object's realm and
the list of its kind, in the state of that kind. -/
structure Placed (A : Lists) (R : RmmState) : Prop where
  one : ∀ a ∈ R.delegated, ∃! x : ListRef × Cell, x.2 ∈ A.lists x.1 ∧ x.2.2.pa = a
  spare : ∀ a ∈ R.delegated, R.Unused a →
    ∃ d ∈ A.lists nsRef, d.2.pa = a ∧ d.2.state = .delegated
  used : ∀ o ∈ R.objs, ∀ a, o.pa = some a → ∃ i, i ≠ 0 ∧ A.rd i = o.rd ∧
    ∃ d ∈ A.lists (i, objKind o), d.2.pa = a ∧ d.2.state.granType = some (objKind o) ∧
      objOf (objKind o) d.2 = some o

section Places

variable {A : Lists} {R : RmmState}

theorem objKind_ne_validNs {o : Obj} {a : UInt64} (h : o.pa = some a) : objKind o ≠ .validNs := by
  cases o with
  | unprotected rd ipa level => exact absurd h (by simp [Obj.pa])
  | _ => simp [objKind]

theorem objKind_ne_ns (o : Obj) : objKind o ≠ .ns := by cases o <;> simp [objKind]

/-- The node of an object made from a granule. -/
theorem Complete.used {U : UInt64 → Prop} (hc : Complete U A R) {o : Obj} (ho : o ∈ R.objs)
    {a : UInt64} (ha : o.pa = some a) :
    slotOf A.rd o.rd ≠ 0 ∧ ∃ d ∈ A.lists (slotOf A.rd o.rd, objKind o), d.2.pa = a ∧
      d.2.state.granType = some (objKind o) ∧ objOf (objKind o) d.2 = some o := by
  obtain ⟨hs, d, hd, hdo⟩ := hc.full.tracked o ho
  have hv := objKind_ne_validNs ha
  have hcell := hc.full.cell _ _ (objKind_ne_ns o) d hd
  rw [CellOk, if_neg hv] at hcell
  exact ⟨hs, d, hd, Option.some.inj ((objOf_pa hv hdo).symm.trans ha), hcell.1, hdo⟩

/-- With no unprotected mapping, a node outside the NS list stands for an object made from its
granule. -/
theorem Complete.obj_of_cell (hc : Complete (fun _ => False) A R) {r : ListRef} (hr : r ≠ nsRef)
    {d : Cell} (hd : d ∈ A.lists r) :
    r.1 ≠ 0 ∧ ∃ o ∈ R.objs, objOf r.2 d.2 = some o ∧ o.rd = A.rd r.1 ∧ o.pa = some d.2.pa := by
  obtain ⟨i, k⟩ := r
  have hi : i ≠ 0 := by
    rintro rfl
    have hk : k ≠ .ns := fun hk => hr (by rw [hk])
    rw [hc.full.zero k hk] at hd
    exact absurd hd List.not_mem_nil
  obtain ⟨o, ho, hdo, hrd⟩ := hc.sound.live_cell hi hd
  refine ⟨hi, o, ho, hdo, hrd, objOf_pa (fun hv => ?_) hdo⟩
  subst hv
  have hcell := hc.full.cell i .validNs (by decide) d hd
  rw [CellOk, if_pos rfl] at hcell
  exact hcell

theorem Complete.placed (hc : Complete (fun _ => False) A R) (hw : R.Wf) : Placed A R where
  spare := fun a ha hu => by
    obtain ⟨d, -, hd, hpa, hst, -, -⟩ := hc.full.ns.find ⟨ha, hu⟩
    exact ⟨d, hd, hpa, hst⟩
  used := fun o ho a ha => by
    obtain ⟨hs, hd⟩ := hc.used ho ha
    exact ⟨_, hs, slotOf_rd hs, hd⟩
  one := fun a ha => by
    by_cases hu : R.Unused a
    · -- every node of it is in the NS list, and one is
      obtain ⟨d, -, hd, hpa, -, -, hone⟩ := hc.full.ns.find ⟨ha, hu⟩
      refine ⟨(nsRef, d), ⟨hd, hpa⟩, ?_⟩
      rintro ⟨r, e⟩ ⟨he, hea⟩
      by_cases hr : r = nsRef
      · subst hr
        have hmem : e ∈ (A.lists nsRef).filter fun c => Lists.byPa a c.2 :=
          List.mem_filter.mpr ⟨he, byPa_iff.mpr hea⟩
        rw [hone] at hmem
        rw [List.mem_singleton.mp hmem]
      · obtain ⟨-, o, ho, -, -, hop⟩ := hc.obj_of_cell hr he
        exact absurd (hop.trans (congrArg some hea)) (hu o ho)
    · -- an object is made from it, and no node of it is in the NS list
      obtain ⟨o, ho, hoa⟩ : ∃ o ∈ R.objs, o.pa = some a := by
        by_contra hno
        exact hu fun o ho hoa => hno ⟨o, ho, hoa⟩
      obtain ⟨hs, d, hd, hpa, -, hdo⟩ := hc.used ho hoa
      refine ⟨((slotOf A.rd o.rd, objKind o), d), ⟨hd, hpa⟩, ?_⟩
      rintro ⟨r, e⟩ ⟨he, hea⟩
      by_cases hr : r = nsRef
      · subst hr
        rcases hc.full.ns.cell e he with ⟨-, hsp, -⟩ | ⟨-, hno⟩
        · exact absurd (hoa.trans (congrArg some hea.symm)) (hsp.2 o ho)
        · exact absurd (hea ▸ ha) hno
      · obtain ⟨hi, o', ho', heo, hrd, hop⟩ := hc.obj_of_cell hr he
        obtain rfl := hw.pa_inj o' ho' o ho a (hop.trans (congrArg some hea)) hoa
        obtain ⟨i, k⟩ := r
        obtain rfl : k = objKind o' := objOf_kind heo
        obtain rfl : slotOf A.rd o'.rd = i := hc.sound.slot_eq hw hi hrd.symm (hw.owner o' ho)
        have hed : e = d :=
          List.inj_on_of_nodup_map (hc.sound.nodup _ hi _) he hd (heo.trans hdo.symm)
        rw [hed]

end Places

/-- **The representation invariant of the tracker.**  After every call of a run that maps no
unprotected memory and has at most nine realms at a time: the pointers are lists (`Repr`: `head` is
the NS list, `tail` its last node, all lists end and share no node), every delegated granule has one
node, in its place; and the next call returns, unless there is no memory for a node. -/
theorem tracker_invariant {rmm : Monitor} {rmmV11 : Bool} {h : Host} (hr : LegalMonitor rmm)
    (hreach : Reachable rmm rmmV11 (Within rmm (fun _ => False) 9) h) :
    (∃ A, Repr h.tracker A ∧ Placed A (replay h.trace)) ∧
      ∀ c, valHostRmi rmm c h = .error .noMemory ∨ ∃ r h', valHostRmi rmm c h = .ok (r, h') := by
  obtain ⟨A, hh⟩ := hreach.tidy hr
  have hc := hh.inv.complete
  refine ⟨⟨A, hh.rep, hc.placed hh.wf⟩, fun c => ?_⟩
  exact valHostRmi_total hh.rep fun h0 => hc.effect_ne_none hh.wf (hr _ _ h0) _

instance (U : UInt64 → Prop) [DecidablePred U] : (c : Cmd) → Decidable (Apart U c)
  | .granuleDelegate a => inferInstanceAs (Decidable (¬ U a))
  | .rttMapUnprotected _ ipa _ _ => inferInstanceAs (Decidable (U ipa))
  | .granuleUndelegate _ | .realmCreate _ _ | .realmDestroy _ | .recCreate _ _ _ | .recDestroy _
  | .dataCreate _ _ _ _ _ | .dataCreateUnknown _ _ _ | .dataDestroy _ _ | .rttCreate _ _ _ _
  | .rttDestroy _ _ _ | .rttFold _ _ _ | .rttUnmapUnprotected _ _ _ | .rttAuxCreate _ _ _ _ _
  | .rttAuxDestroy _ _ _ _ | .rttAuxFold _ _ _ _ | .rttAuxMapProtected _ _ _
  | .rttAuxMapUnprotected _ _ _ | .rttAuxUnmapProtected _ _ _ | .rttAuxUnmapUnprotected _ _ _
  | .features _ => .isTrue trivial

instance (rmm : Monitor) (U : UInt64 → Prop) [DecidablePred U] (n : ℕ) (h : Host) :
    (a : Act) → Decidable (Within rmm U n h a)
  | .call _ => inferInstanceAs (Decidable (_ → _ ∧ _))
  | .realmDestroy _ => .isTrue trivial
  | .alloc _ => .isTrue trivial
  | .postamble => .isFalse not_false
  | .slice _ _ => .isFalse not_false

/-- A computed run of a test that keeps to the rules. -/
theorem reachable_within (rmm : Monitor) (U : UInt64 → Prop) [DecidablePred U] (n : ℕ)
    (acts : List Act) (p : Host → Bool)
    (hrun : (runActs rmm true (fun h a => a.plain && decide (Within rmm U n h a)) acts
      (Host.start blankMem valHostMemAllocInit)).any p = true) :
    ∃ h, Reachable rmm true (Within rmm U n) h ∧ p h = true :=
  reachable_of_runActs rmm true _ (fun _ _ ha => by
    obtain ⟨hp, hw⟩ := Bool.and_eq_true_iff.mp ha
    exact ⟨Act.fits_of_plain hp, of_decide_eq_true hw⟩) acts p hrun

/-- A realm with a REC, two RTTs and a data granule, of which the REC and one RTT are destroyed,
and the granule of the RTT undelegated. -/
def oneRealm : List Act :=
  [0x1000, 0x2000, 0x3000, 0x4000, 0x5000].map (fun a => .call (.granuleDelegate a))
    ++ [.call (.realmCreate 0x1000 0), .call (.recCreate 0x1000 0x2000 0),
      .call (.rttCreate 0x1000 0x3000 0 2), .call (.rttCreate 0x1000 0x4000 0 3),
      .call (.dataCreateUnknown 0x1000 0x5000 0), .call (.recDestroy 0x2000),
      .call (.rttFold 0x1000 0 3), .call (.granuleUndelegate 0x4000)]

theorem tracker_invariant_one_realm :
    ∃ h, Reachable (exactMonitor 0) true (Within (exactMonitor 0) (fun _ => False) 9) h ∧
      (replay h.trace).delegated = [0x5000, 0x3000, 0x2000, 0x1000] ∧
      (∃ A, Repr h.tracker A ∧ Placed A (replay h.trace)) ∧
      ∀ c, valHostRmi (exactMonitor 0) c h = .error .noMemory ∨
        ∃ r h', valHostRmi (exactMonitor 0) c h = .ok (r, h') := by
  obtain ⟨h, hreach, hp⟩ := reachable_within (exactMonitor 0) (fun _ => False) 9 oneRealm
    (fun h => (replay h.trace).delegated == [0x5000, 0x3000, 0x2000, 0x1000]) (by decide +kernel)
  exact ⟨h, hreach, by simpa using hp, tracker_invariant (exactMonitor_legal 0) hreach⟩

/-! ## 5. The table of realms -/

/-- **Every live realm has its slot**: one slot, which `val_host_get_curr_realm` returns, no other
realm's, with the nodes of all its objects in it. -/
structure Registered (t : Tracker) (A : Lists) (R : RmmState) : Prop where
  slot : ∀ rd, .realm rd ∈ R.objs →
    valHostGetCurrRealm rd t ≠ 0 ∧ t.rd (valHostGetCurrRealm rd t) = rd
  only : ∀ rd, .realm rd ∈ R.objs → ∀ i, i ≠ 0 → t.rd i = rd → i = valHostGetCurrRealm rd t
  apart : ∀ rd rd', .realm rd ∈ R.objs → .realm rd' ∈ R.objs →
    valHostGetCurrRealm rd t = valHostGetCurrRealm rd' t → rd = rd'
  own : ∀ o ∈ R.objs, ∃ d ∈ A.lists (valHostGetCurrRealm o.rd t, objKind o),
    objOf (objKind o) d.2 = some o

section Table

variable {U : UInt64 → Prop} {t : Tracker} {A : Lists} {R : RmmState}

theorem Complete.registered (hc : Complete U A R) (hw : R.Wf) (hrep : Repr t A) :
    Registered t A R := by
  have hslot : ∀ rd, valHostGetCurrRealm rd t = slotOf A.rd rd := fun rd => by
    rw [valHostGetCurrRealm, hrep.rd]
  have hone : ∀ rd, .realm rd ∈ R.objs → slotOf A.rd rd ≠ 0 ∧ A.rd (slotOf A.rd rd) = rd :=
    fun rd ho => ⟨(hc.full.tracked _ ho).1, slotOf_rd (hc.full.tracked _ ho).1⟩
  refine ⟨fun rd ho => ?_, fun rd ho i hi hrd => ?_, fun rd rd' ho ho' heq => ?_, fun o ho => ?_⟩
  · rw [hslot, hrep.rd]
    exact hone rd ho
  · rw [hslot]
    rw [hrep.rd] at hrd
    exact (hc.sound.slot_eq hw hi hrd ho).symm
  · rw [hslot, hslot] at heq
    rw [← (hone rd ho).2, heq, (hone rd' ho').2]
  · rw [hslot]
    exact (hc.full.tracked o ho).2

/-- The table has room for nine. -/
theorem Registered.card_le (h : Registered t A R) : (liveRealms R).card ≤ 9 := by
  have hle : (liveRealms R).card ≤ (Finset.univ.erase (0 : Fin maxRealms)).card := by
    refine Finset.card_le_card_of_injOn (fun rd => valHostGetCurrRealm rd t) (fun rd hrd => ?_)
      fun rd hrd rd' hrd' heq => ?_
    · exact Finset.mem_coe.mpr
        (Finset.mem_erase.mpr ⟨(h.slot rd (mem_liveRealms.mp hrd)).1, Finset.mem_univ _⟩)
    · exact h.apart rd rd' (mem_liveRealms.mp hrd) (mem_liveRealms.mp hrd') heq
  exact hle.trans (by decide)

end Table

/-- **The slot table holds nine realms.**  In every run with at most nine realms at a time, whose
unprotected IPAs are no delegated PAs, every live realm has its slot; and where every live realm
has one, there are at most nine. -/
theorem slot_table_holds_nine_realms {rmm : Monitor} {rmmV11 : Bool} (U : UInt64 → Prop)
    (hr : LegalMonitor rmm) :
    (∀ h, Reachable rmm rmmV11 (Within rmm U 9) h →
      ∃ A, Repr h.tracker A ∧ Registered h.tracker A (replay h.trace)) ∧
    ∀ t A R, Registered t A R → (liveRealms R).card ≤ 9 := by
  refine ⟨fun h hreach => ?_, fun t A R h => h.card_le⟩
  obtain ⟨A, hh⟩ := hreach.tidy hr
  exact ⟨A, hh.rep, hh.inv.complete.registered hh.wf hh.rep⟩

/-- Delegate the granules and make a realm from each. -/
def realmsAt (rds : List UInt64) : List Act :=
  rds.map (fun a => .call (.granuleDelegate a)) ++ rds.map fun a => .call (.realmCreate a 0)

def nineRds : List UInt64 :=
  [0x1000, 0x2000, 0x3000, 0x4000, 0x5000, 0x6000, 0x7000, 0x8000, 0x9000]

/-- Nine realms, the third of them destroyed and another one made in its slot. -/
theorem slot_table_holds_nine_realms_full :
    ∃ h, Reachable (exactMonitor 0) true (Within (exactMonitor 0) (· = 0x80000000) 9) h ∧
      (liveRealms (replay h.trace)).card = 9 ∧
      ∃ A, Repr h.tracker A ∧ Registered h.tracker A (replay h.trace) := by
  obtain ⟨h, hreach, hp⟩ := reachable_within (exactMonitor 0) (· = 0x80000000) 9
    (realmsAt nineRds ++ [.call (.rttMapUnprotected 0x2000 0x80000000 3 0),
      .call (.realmDestroy 0x3000), .call (.granuleDelegate 0xa000),
      .call (.realmCreate 0xa000 0)])
    (fun h => (liveRealms (replay h.trace)).card == 9) (by decide +kernel)
  exact ⟨h, hreach, by simpa using hp,
    (slot_table_holds_nine_realms _ (exactMonitor_legal 0)).1 h hreach⟩

/-- **A tenth realm has no slot**, though `VAL_HOST_MAX_REALMS` is 10. -/
theorem tenth_realm_has_no_slot :
    ∃ h, Reachable (exactMonitor 0) true (Within (exactMonitor 0) (fun _ => False) maxRealms) h ∧
      ¬ ∃ A, Repr h.tracker A ∧ Registered h.tracker A (replay h.trace) := by
  obtain ⟨h, hreach, hp⟩ := reachable_within (exactMonitor 0) (fun _ => False) maxRealms
    (realmsAt (nineRds ++ [0xa000]))
    (fun h => decide (Obj.realm 0xa000 ∈ (replay h.trace).objs) &&
      valHostGetCurrRealm 0xa000 h.tracker == 0) (by decide +kernel)
  obtain ⟨hlive, hzero⟩ := Bool.and_eq_true_iff.mp hp
  refine ⟨h, hreach, ?_⟩
  rintro ⟨A, -, hreg⟩
  exact (hreg.slot 0xa000 (of_decide_eq_true hlive)).1 (by simpa using hzero)

end RmmAcs.Granules
