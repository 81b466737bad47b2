/-
# The tracker's functions on lists

`Lists.lean` gave every represented tracker a family of lists.  Here the source functions that
edit the tracker get their meaning on that family -- `Lists.update` for
`val_host_update_granule_state`, `Lists.destroy` for `val_host_update_destroy_granule_state`, and
so on -- and the pointer code is shown to compute it, step for step, faults included.

From here on nothing looks at a link again: what the tracker does to its granules is read off the
functions of section 1.
-/
import RmmAcs.Tracker.Lists

namespace RmmAcs.Granules

open RmmAcs Lib

/-! ## 1. The meaning of the functions -/

namespace Lists

/-- `val_host_add_granule` with a new node, `fresh` being its address and what is there. -/
def add (fresh : Cell) (state : GranuleState) (pa : UInt64) (A : Lists) : Lists :=
  A.push nsRef (fresh.1, addedGranule state pa fresh.2)

/-- `current_realm = val_host_get_curr_realm(rd)`. -/
def enter (rd : UInt64) (A : Lists) : Lists := { A with cur := slotOf A.rd rd }

/-- The search for a slot in the `GRANULE_RD` branch. -/
def addRealm (pa : UInt64) (A : Lists) : Lists :=
  match slots.find? fun i => A.rd i == pa || A.rd i == freeRd with
  | none => A
  | some i => if A.rd i = pa then A else { A with rd := Function.update A.rd i pa, cur := i }

@[simp] theorem addRealm_lists (A : Lists) (pa : UInt64) : (A.addRealm pa).lists = A.lists := by
  unfold addRealm
  split
  · rfl
  · split <;> rfl

def byPa (pa : UInt64) (g : Granule) : Bool := g.pa == pa

/-- `val_host_update_granule_state`. -/
def update (fresh : Cell) (rd : UInt64) (state : GranuleState) (pa ipa level idx : UInt64)
    (A : Lists) : Lists :=
  let A := A.enter rd
  match A.find nsRef (byPa pa) with
  | none =>
    if state = .unprotected then
      A.push (A.cur, .validNs) (fresh.1, mappedGranule rd state pa ipa level idx fresh.2)
    else A
  | some c =>
    match state.granType with
    | none => A
    | some k =>
      let A := A.drop nsRef (byPa pa)
      let c := (c.1, movedGranule rd state ipa level idx c.2)
      if k = .rd then
        let A := A.addRealm pa
        A.set (A.cur, .rd) [c]
      else A.push (A.cur, k) c

theorem update_of_none (fresh : Cell) (rd : UInt64) (state : GranuleState)
    (pa ipa level idx : UInt64) {A : Lists} (hf : A.find nsRef (byPa pa) = none) :
    A.update fresh rd state pa ipa level idx =
      if state = .unprotected then
        (A.enter rd).push (slotOf A.rd rd, .validNs)
          (fresh.1, mappedGranule rd state pa ipa level idx fresh.2)
      else A.enter rd := by
  have hf' : (A.enter rd).find nsRef (byPa pa) = none := hf
  unfold update
  simp only [hf']
  rfl

theorem update_of_some (fresh : Cell) (rd : UInt64) {state : GranuleState}
    {pa : UInt64} (ipa level idx : UInt64) {A : Lists} {c : Cell} {k : GranType}
    (hf : A.find nsRef (byPa pa) = some c) (hk : state.granType = some k) :
    A.update fresh rd state pa ipa level idx =
      if k = .rd then
        ((((A.enter rd).drop nsRef (byPa pa)).addRealm pa).set
          ((((A.enter rd).drop nsRef (byPa pa)).addRealm pa).cur, .rd)
          [(c.1, movedGranule rd state ipa level idx c.2)])
      else
        ((A.enter rd).drop nsRef (byPa pa)).push (slotOf A.rd rd, k)
          (c.1, movedGranule rd state ipa level idx c.2) := by
  have hf' : (A.enter rd).find nsRef (byPa pa) = some c := hf
  unfold update
  simp only [hf', hk]
  rfl

/-- A node found by its key goes back to the NS list; `none` if there is no such node. -/
def giveBack (r : ListRef) (key : Granule → Bool) (state : GranuleState) (A : Lists) :
    Option Lists :=
  (A.find r key).map fun c => (A.drop r key).push nsRef (c.1, withState state c.2)

/-- The `GRANULE_REC` branch. -/
def giveBackRec (state : GranuleState) (pa : UInt64) : List (Fin maxRealms) → Lists → Lists
  | [], A => A
  | i :: is, A => (A.giveBack (i, .recg) (byPa pa) state).getD (giveBackRec state pa is A)

/-- The `GRANULE_UNDELEGATED` branch. -/
def undelegate (pa : UInt64) (A : Lists) : Lists :=
  match A.find nsRef (byPa pa) with
  | none => A
  | some c =>
    if c.2.isGranuleSliced = 0 then A.drop nsRef (byPa pa)
    else if c.2.isGranuleSliced = 1 then A.modify c.1 (withState .undelegated)
    else A

/-- `val_host_update_destroy_granule_state`. -/
def destroy (rd pa ipa level : UInt64) (state listState : GranuleState) (idx : UInt64)
    (A : Lists) : Option Lists :=
  if state = .undelegated then some (A.undelegate pa)
  else
    let A := if listState ≠ .recg then A.enter rd else A
    match listState with
    | .rtt => A.giveBack (A.cur, .rtt) (fun g => g.level == level && g.ipa == ipa) state
    | .rttAux =>
      A.giveBack (A.cur, .rttAux)
        (fun g => g.level == level && g.ipa == ipa && g.rttTreeIdx == idx) state
    | .data => A.giveBack (A.cur, .data) (fun g => g.ipa == ipa) state
    | .recg => some (A.giveBackRec state pa slots)
    | .rd =>
      (A.giveBack (A.cur, .rd) (byPa pa) state).map fun A' =>
        { A' with rd := Function.update A'.rd A'.cur freeRd }
    | .unprotected => A.giveBack (A.cur, .validNs) (byPa pa) .undelegated
    | .undelegated => some A
    | .delegated => some A

/-- `val_host_update_aux_rtt_info`; `none` also for an index outside `has_auxiliary`. -/
def auxInfo (granState : GranuleState) (rd rttIndex ipa : UInt64) (val : Bool) (A : Lists) :
    Option Lists :=
  let A := A.enter rd
  if granState = .data ∨ granState = .unprotected then
    let r : ListRef := (A.cur, if granState = .data then .data else .validNs)
    if A.lists r = [] then some A
    else
      match A.find r fun g => g.ipa == ipa with
      | none => none
      | some c =>
        if h : (rttIndex - 1).toNat < maxAuxPlanes then
          some (A.modify c.1 (withAuxiliary ⟨(rttIndex - 1).toNat, h⟩ val))
        else none
  else some A

theorem auxInfo_of_find {A : Lists} {granState : GranuleState} {k : GranType}
    {rd index ipa : UInt64} {c : Cell} (val : Bool)
    (hgran : granState = .data ∧ k = .data ∨ granState = .unprotected ∧ k = .validNs)
    (hidx : (index - 1).toNat < maxAuxPlanes)
    (hf : A.find (slotOf A.rd rd, k) (fun g => g.ipa == ipa) = some c) :
    A.auxInfo granState rd index ipa val =
      some ((A.enter rd).modify c.1 (withAuxiliary ⟨(index - 1).toNat, hidx⟩ val)) := by
  have hk : (if granState = .data then GranType.data else .validNs) = k := by
    rcases hgran with ⟨rfl, rfl⟩ | ⟨rfl, rfl⟩ <;> rfl
  have hor : granState = .data ∨ granState = .unprotected := hgran.imp And.left And.left
  have hne : (A.enter rd).lists ((A.enter rd).cur, k) ≠ [] := by
    intro hnil
    rw [find, show A.lists (slotOf A.rd rd, k) = [] from hnil] at hf
    exact absurd hf (by simp)
  have hf' : (A.enter rd).find ((A.enter rd).cur, k) (fun g => g.ipa == ipa) = some c := hf
  unfold auxInfo
  simp only [if_pos hor, hk, if_neg hne, hf', dif_pos hidx]

/-- It enters the Realm, and at most changes one flag of one node. -/
theorem auxInfo_cases {A A' : Lists} {granState : GranuleState} {rd index ipa : UInt64} {val : Bool}
    (h : A.auxInfo granState rd index ipa val = some A') :
    A' = A.enter rd ∨ ∃ a i, A' = (A.enter rd).modify a (withAuxiliary i val) := by
  unfold auxInfo at h
  dsimp only at h
  generalize ((A.enter rd).cur, if granState = .data then GranType.data else .validNs) = r at h
  split at h
  · split at h
    · exact Or.inl (Option.some.inj h).symm
    · split at h
      · exact absurd h (by simp)
      · split at h
        · exact Or.inr ⟨_, _, (Option.some.inj h).symm⟩
        · exact absurd h (by simp)
  · exact Or.inl (Option.some.inj h).symm

end Lists

/-! ## 2. Refinement -/

/-- The pointer code computes the lists: a result represents the result on lists, a bad pointer
or index is a `none`, and no walk is endless.  Only the heap may run out. -/
def Refines (x : Except Fault Tracker) (y : Option Lists) : Prop :=
  match x with
  | .ok t => ∃ A, y = some A ∧ Repr t A
  | .error .noMemory => True
  | .error .nullDeref => y = none
  | .error .outOfBounds => y = none
  | .error .endless => False

/-- A last assignment on both sides. -/
theorem Refines.map {x : Except Fault Tracker} {y : Option Lists} {f : Tracker → Tracker}
    {g : Lists → Lists} (h : Refines x y) (hfg : ∀ t A, Repr t A → Repr (f t) (g A)) :
    Refines (x >>= fun t => .ok (f t)) (y.map g) := by
  cases x with
  | ok t =>
    obtain ⟨A, rfl, hr⟩ := h
    exact ⟨_, rfl, hfg _ _ hr⟩
  | error e =>
    cases e with
    | nullDeref => exact congrArg (Option.map g) h
    | noMemory => trivial
    | outOfBounds => exact congrArg (Option.map g) h
    | endless => exact h

/-- The address of the next node, and what is there. -/
def freshCell (t : Tracker) : Cell :=
  let p := (memAlloc sizeofGranule sizeofGranule t.heap).1
  (p, (t.mem p).data)

namespace Repr

variable {t : Tracker} {A : Lists}

theorem enter (h : Repr t A) (rd : UInt64) :
    Repr { t with currentRealm := valHostGetCurrRealm rd t } (A.enter rd) :=
  ⟨h.rd, by rw [valHostGetCurrRealm, h.rd]; rfl, h.chain, h.nodup, h.disjoint, h.head, h.tail,
    h.below, h.heapOk⟩

theorem withCurrent (h : Repr t A) (p : Option Ptr) : Repr { t with current := p } A :=
  ⟨h.rd, h.cur, h.chain, h.nodup, h.disjoint, h.head, h.tail, h.below, h.heapOk⟩

/-- **A new node** is at an address no list uses. -/
theorem alloc_spec (h : Repr t A) (f : Granule → Granule) :
    allocNode t = .error .noMemory ∨
      ∃ t', allocNode t = .ok ((freshCell t).1, t') ∧
        Repr ((t'.modify (freshCell t).1 f).setNext (freshCell t).1 none) A ∧
        Loose ((t'.modify (freshCell t).1 f).setNext (freshCell t).1 none) A
          ((freshCell t).1, f (freshCell t).2) := by
  have hroom : sizeofGranule.toNat + sizeofGranule.toNat ≤ 2 ^ 32 := by decide
  have hk : sizeofGranule.toNat = 2 ^ 6 := rfl
  by_cases h0 : (memAlloc sizeofGranule sizeofGranule t.heap).1 = 0
  · exact Or.inl (by simp [allocNode, h0])
  rcases memAlloc_cases h.heapOk hk hroom with hm | hm
  · rw [hm] at h0
    exact absurd rfl h0
  right
  obtain ⟨hok, -, hge⟩ := hm.heap_ok h.heapOk hk
  have hbase := hm.base_eq
  have haddr := hm.addr_eq
  have hle := le_alignUp (a := t.heap.heapBase.toNat) (b := sizeofGranule.toNat) (by decide)
  have hnew : ∀ r, (freshCell t).1 ∉ addrs (A.lists r) := by
    intro r hr
    obtain ⟨c, hc, hcp⟩ := List.mem_map.mp hr
    have hlt := h.below r c hc
    rw [hcp] at hlt
    rw [← haddr] at hle
    exact absurd hlt (Nat.not_lt.mpr hle)
  let t₁ : Tracker := { t with heap := (memAlloc sizeofGranule sizeofGranule t.heap).2 }
  have h₁ : Repr t₁ A :=
    ⟨h.rd, h.cur, h.chain, h.nodup, h.disjoint, h.head, h.tail,
      fun r c hc => lt_of_lt_of_le (h.below r c hc) hge, hok⟩
  have hfresh_lt : (freshCell t).1.toNat < t₁.heap.heapBase.toNat := by
    show (memAlloc sizeofGranule sizeofGranule t.heap).1.toNat
      < (memAlloc sizeofGranule sizeofGranule t.heap).2.heapBase.toNat
    rw [hbase, hk]
    omega
  refine ⟨t₁, by simp [allocNode, h0, freshCell, t₁], ?_⟩
  have h₂ : Repr (t₁.modify (freshCell t).1 f) A :=
    ⟨h₁.rd, h₁.cur, fun r => (h₁.chain r).modifyData_frame (hnew r), h₁.nodup, h₁.disjoint,
      h₁.head, h₁.tail, h₁.below, h₁.heapOk⟩
  refine h₂.setNext_loose (c := ((freshCell t).1, f (freshCell t).2)) ?_ hnew hfresh_lt
  show (modifyData t.mem (freshCell t).1 f (freshCell t).1).data = f (freshCell t).2
  rw [modifyData_self]
  rfl

/-- A payload assignment to a node of some list. -/
theorem modify (h : Repr t A) (a : Ptr) (f : Granule → Granule) :
    Repr (t.modify a f) (A.modify a f) where
  rd := h.rd
  cur := h.cur
  chain := fun r => (h.chain r).modifyData (h.nodup r)
  nodup := fun r => by rw [Lists.modify_lists, addrs_modifyAt]; exact h.nodup r
  disjoint := fun r r' hr => by
    rw [Lists.modify_lists, Lists.modify_lists, addrs_modifyAt, addrs_modifyAt]
    exact h.disjoint r r' hr
  head := h.head
  tail := fun c hc => by
    rw [Lists.modify_lists, modifyAt, List.getLast?_map] at hc
    obtain ⟨d, hd, rfl⟩ := Option.map_eq_some_iff.mp hc
    refine (h.tail d hd).trans ?_
    split <;> rfl
  below := fun r c hc => by
    obtain ⟨d, hd, rfl⟩ := List.mem_map.mp hc
    refine lt_of_eq_of_lt ?_ (h.below r d hd)
    split <;> rfl
  heapOk := h.heapOk

/-! ## 3. The source functions -/

/-- **`val_host_add_granule`** with a new node. -/
theorem add_refines (h : Repr t A) (state : GranuleState) (pa : UInt64) :
    Refines (valHostAddGranule state pa none t) (some (A.add (freshCell t) state pa)) := by
  unfold valHostAddGranule
  rcases h.alloc_spec (addedGranule state pa) with hm | ⟨t', ht', hr, hl⟩
  · simp only [hm]
    trivial
  · obtain ⟨t'', ht'', hr''⟩ := hr.addNode_spec hl
    simp only [ht', bind, Except.bind]
    rw [ht'']
    exact ⟨_, rfl, hr''⟩

theorem addRealm (h : Repr t A) (pa : UInt64) : Repr (addRealm pa t) (A.addRealm pa) := by
  unfold Granules.addRealm Lists.addRealm
  rw [h.rd]
  cases slots.find? fun i => A.rd i == pa || A.rd i == freeRd with
  | none => exact h
  | some i =>
    by_cases hi : A.rd i = pa
    · simp only [if_pos hi]
      exact h
    · simp only [if_neg hi]
      refine ⟨?_, rfl, fun r => ?_, h.nodup, h.disjoint, ?_, h.tail, h.below, h.heapOk⟩
      · show (t.setRd i pa).rd = Function.update A.rd i pa
        rw [Tracker.setRd_rd, h.rd]
      · show Chain t.mem ((t.setRd i pa).list r) _
        rw [Tracker.setRd_list]
        exact h.chain r
      · show t.head = (t.setRd i pa).list nsRef
        rw [Tracker.setRd_list]
        exact h.head

/-- A loose node becomes the only node of a list. -/
theorem setSingleton (h : Repr t A) {c : Cell} (hc : Loose t A c) {r : ListRef} (hr : r ≠ nsRef) :
    Repr (t.setList r (some c.1)) (A.set r [c]) := by
  refine h.of_edit (Tracker.setList_rd _ _ _) rfl ?_ ?_ (List.nodup_singleton _) ?_ ?_ ?_ ?_ rfl
  · rw [Tracker.setList_list_self]
    refine ⟨rfl, ?_, ?_⟩
    · exact congrArg Node.data hc.node
    · exact congrArg Node.next hc.node
  · intro r' hr'
    rw [Tracker.setList_list_of_ne _ _ hr']
    exact h.chain r'
  · intro r' hr' a ha hb
    rw [List.mem_singleton.mp ha] at hb
    exact hc.notMem r' hb
  · rw [Tracker.setList_list_of_ne _ _ (Ne.symm hr)]
    exact h.head
  · intro d hd
    rw [A.set_lists_of_ne _ (Ne.symm hr)] at hd
    exact h.tail d hd
  · intro d hd
    rw [List.mem_singleton.mp hd]
    exact hc.below

theorem loose_addRealm {c : Cell} (hc : Loose t A c) (pa : UInt64) :
    Loose (Granules.addRealm pa t) (A.addRealm pa) c := by
  have hl := A.addRealm_lists pa
  have ht : (Granules.addRealm pa t).mem = t.mem ∧ (Granules.addRealm pa t).heap = t.heap := by
    unfold Granules.addRealm
    split
    · exact ⟨rfl, rfl⟩
    · split <;> exact ⟨rfl, rfl⟩
  exact ⟨by rw [ht.1]; exact hc.node, fun r => by rw [hl]; exact hc.notMem r,
    by rw [ht.2]; exact hc.below⟩

theorem ne_nsRef {i : Fin maxRealms} {k : GranType} (hk : k ≠ .ns) : ((i, k) : ListRef) ≠ nsRef :=
  fun he => hk (congrArg Prod.snd he)

/-- **`val_host_update_granule_state`.** -/
theorem update_refines (h : Repr t A) (rd : UInt64) (state : GranuleState)
    (pa ipa level idx : UInt64) :
    Refines (valHostUpdateGranuleState rd state pa ipa level idx t)
      (some (A.update (freshCell t) rd state pa ipa level idx)) := by
  have h₁ := h.enter rd
  unfold valHostUpdateGranuleState
  simp only [h₁.find_eq pa, bind, Except.bind]
  cases hf : A.find nsRef (Lists.byPa pa) with
  | none =>
    rw [show (A.enter rd).find nsRef (fun g => g.pa == pa) = none from hf,
      Lists.update_of_none _ _ _ _ _ _ _ hf]
    rcases h₁.alloc_spec (mappedGranule rd state pa ipa level idx) with hm | ⟨t', ht', hr, hl⟩
    · simp only [hm]
      trivial
    · simp only [ht', Option.map_none]
      by_cases hs : state = .unprotected
      · rw [if_pos hs, if_pos hs]
        obtain ⟨t'', ht'', hr''⟩ :=
          hr.appendNode_spec hl (ne_nsRef (i := (A.enter rd).cur) (k := .validNs) (by decide))
        rw [show Tracker.currentRealm _ = (A.enter rd).cur from hr.cur, ht'']
        exact ⟨_, rfl, hr''⟩
      · rw [if_neg hs, if_neg hs]
        exact ⟨_, rfl, hr⟩
  | some c =>
    rw [show (A.enter rd).find nsRef (fun g => g.pa == pa) = some c from hf]
    simp only [Option.map_some]
    cases hk : state.granType with
    | none =>
      refine ⟨_, rfl, ?_⟩
      have hup : A.update (freshCell t) rd state pa ipa level idx = A.enter rd := by
        unfold Lists.update
        simp only [show (A.enter rd).find nsRef (Lists.byPa pa) = some c from hf, hk]
      rw [hup]
      exact h₁.withCurrent _
    | some k =>
      rw [Lists.update_of_some _ _ _ _ _ hf hk]
      obtain ⟨t', ht', hr, hl⟩ := (h₁.withCurrent t.head).remove_some
        (show (A.enter rd).find nsRef (Lists.byPa pa) = some c from hf)
      have hrm : valHostRemoveGranule nsRef pa _ = _ := ht'
      simp only [hrm]
      obtain ⟨hr', hl'⟩ := hr.modify_loose hl (movedGranule rd state ipa level idx)
      obtain ⟨hr'', hl''⟩ := hr'.setNext_loose (c := (c.1, movedGranule rd state ipa level idx c.2))
        (congrArg Node.data hl'.node) hl'.notMem hl'.below
      by_cases hkr : k = .rd
      · simp only [if_pos hkr]
        have ha := hr''.addRealm pa
        refine ⟨_, rfl, ?_⟩
        rw [ha.cur]
        exact ha.setSingleton (loose_addRealm hl'' pa) (ne_nsRef (by decide))
      · simp only [if_neg hkr]
        have hkn : k ≠ .ns := by
          rintro rfl
          cases state <;> exact absurd hk (by decide)
        obtain ⟨t₃, ht₃, hr₃⟩ := hr''.appendNode_spec hl'' (ne_nsRef (i := slotOf A.rd rd) hkn)
        rw [show Tracker.currentRealm _ = slotOf A.rd rd from hr''.cur, ht₃]
        exact ⟨_, rfl, hr₃⟩

theorem setRd (h : Repr t A) (i : Fin maxRealms) (v : UInt64) :
    Repr (t.setRd i v) { A with rd := Function.update A.rd i v } where
  rd := by rw [Tracker.setRd_rd, h.rd]
  cur := h.cur
  chain := fun r => by
    rw [Tracker.setRd_list]
    exact h.chain r
  nodup := h.nodup
  disjoint := h.disjoint
  head := by
    rw [Tracker.setRd_list]
    exact h.head
  tail := h.tail
  below := h.below
  heapOk := h.heapOk

/-- A removal and the way back to the NS list; a NULL pointer if nothing was removed. -/
theorem giveBack_refines (h : Repr t A) (r : ListRef) (key : Granule → Bool)
    (state : GranuleState) :
    Refines (removeGranuleBy key r t >>= giveBack state) (A.giveBack r key state) := by
  unfold Lists.giveBack
  cases hf : A.find r key with
  | none =>
    rw [h.remove_none hf]
    rfl
  | some c =>
    obtain ⟨t', ht', hr, hl⟩ := h.remove_some hf
    obtain ⟨hr', hl'⟩ := hr.modify_loose hl (withState state)
    obtain ⟨t'', ht'', hr''⟩ := hr'.addNode_spec hl'
    rw [ht']
    show Refines (addNode c.1 (t'.modify c.1 (withState state))) _
    rw [ht'']
    exact ⟨_, rfl, hr''⟩

/-- The REC branch, slot by slot. -/
theorem giveBackRec_refines (h : Repr t A) (state : GranuleState) (pa : UInt64) :
    ∀ is : List (Fin maxRealms),
      Refines (giveBackRec state pa is t) (some (A.giveBackRec state pa is))
  | [] => ⟨_, rfl, h⟩
  | i :: is => by
    have hgb := h.giveBack_refines (i, .recg) (Lists.byPa pa) state
    unfold giveBackRec Lists.giveBackRec
    unfold Lists.giveBack at hgb ⊢
    cases hf : A.find (i, .recg) (Lists.byPa pa) with
    | none =>
      have hrm : valHostRemoveGranule (i, .recg) pa t = .ok (none, t) := h.remove_none hf
      rw [hrm]
      exact giveBackRec_refines h state pa is
    | some c =>
      obtain ⟨t', ht', -, -⟩ := h.remove_some hf
      have hrm : valHostRemoveGranule (i, .recg) pa t = .ok (some c.1, t') := ht'
      rw [hrm]
      rw [ht', hf] at hgb
      exact hgb

theorem undelegate_refines (h : Repr t A) (rd pa ipa level : UInt64) (listState : GranuleState)
    (idx : UInt64) :
    Refines (valHostUpdateDestroyGranuleState rd pa ipa level .undelegated listState idx t)
      (some (A.undelegate pa)) := by
  unfold valHostUpdateDestroyGranuleState Lists.undelegate
  simp only [if_true, h.find_eq pa, bind, Except.bind]
  cases hf : A.find nsRef (Lists.byPa pa) with
  | none =>
    rw [show A.find nsRef (fun g => g.pa == pa) = none from hf]
    exact ⟨_, rfl, h⟩
  | some c =>
    rw [show A.find nsRef (fun g => g.pa == pa) = some c from hf]
    have hc : c ∈ A.lists nsRef := List.mem_of_find?_eq_some hf
    simp only [Option.map_some, (h.chain nsRef).data_eq hc]
    by_cases h0 : c.2.isGranuleSliced = 0
    · rw [if_pos h0, if_pos h0]
      obtain ⟨t', ht', hr, -⟩ := h.remove_some hf
      have hrm : valHostRemoveGranule nsRef pa t = .ok (some c.1, t') := ht'
      rw [hrm]
      exact ⟨_, rfl, hr⟩
    · rw [if_neg h0, if_neg h0]
      by_cases h1 : c.2.isGranuleSliced = 1
      · rw [if_pos h1, if_pos h1]
        exact ⟨_, rfl, h.modify _ _⟩
      · rw [if_neg h1, if_neg h1]
        exact ⟨_, rfl, h⟩

/-- **`val_host_update_destroy_granule_state`.** -/
theorem destroy_refines (h : Repr t A) (rd pa ipa level : UInt64) (state listState : GranuleState)
    (idx : UInt64) :
    Refines (valHostUpdateDestroyGranuleState rd pa ipa level state listState idx t)
      (A.destroy rd pa ipa level state listState idx) := by
  by_cases hs : state = .undelegated
  · subst hs
    exact h.undelegate_refines rd pa ipa level listState idx
  · have h₁ := h.enter rd
    have hcur : ({ t with currentRealm := valHostGetCurrRealm rd t } : Tracker).currentRealm
        = (A.enter rd).cur := h₁.cur
    unfold valHostUpdateDestroyGranuleState Lists.destroy
    rw [if_neg hs, if_neg hs]
    cases listState with
    | undelegated => exact ⟨_, rfl, h₁⟩
    | delegated => exact ⟨_, rfl, h₁⟩
    | rd =>
      have hgb := h₁.giveBack_refines ((A.enter rd).cur, .rd) (Lists.byPa pa) state
      simp only [ne_eq, reduceCtorEq, not_false_iff, if_true, hcur]
      unfold valHostRemoveGranule
      rw [← bind_assoc]
      refine hgb.map fun t' A' hr => ?_
      rw [hr.cur]
      exact hr.setRd _ _
    | rtt =>
      simp only [ne_eq, reduceCtorEq, not_false_iff, if_true, hcur]
      exact h₁.giveBack_refines _ _ state
    | rttAux =>
      simp only [ne_eq, reduceCtorEq, not_false_iff, if_true, hcur]
      exact h₁.giveBack_refines _ _ state
    | data =>
      simp only [ne_eq, reduceCtorEq, not_false_iff, if_true, hcur]
      exact h₁.giveBack_refines _ _ state
    | recg => exact h.giveBackRec_refines state pa slots
    | unprotected =>
      simp only [ne_eq, reduceCtorEq, not_false_iff, if_true, hcur]
      exact h₁.giveBack_refines _ _ .undelegated

/-- **`val_host_update_aux_rtt_info`**, whose return code no caller looks at. -/
theorem auxInfo_refines (h : Repr t A) (granState : GranuleState) (rd rttIndex ipa : UInt64)
    (val : Bool) :
    Refines ((valHostUpdateAuxRttInfo granState rd rttIndex ipa val t).map Prod.snd)
      (A.auxInfo granState rd rttIndex ipa val) := by
  have h₁ := h.enter rd
  unfold valHostUpdateAuxRttInfo Lists.auxInfo
  by_cases hs : granState = .data ∨ granState = .unprotected
  · have hcur : (A.enter rd).cur = valHostGetCurrRealm rd t := h₁.cur.symm
    simp only [if_pos hs, hcur]
    generalize (valHostGetCurrRealm rd t, if granState = .data then GranType.data else .validNs) = r
    have hch := h₁.chain r
    cases hl : (A.enter rd).lists r with
    | nil =>
      rw [hl] at hch
      rw [show Tracker.list _ r = none from hch]
      exact ⟨_, rfl, h₁⟩
    | cons d l =>
      have hlen := h₁.length_lt r
      have hp : Tracker.list { t with currentRealm := valHostGetCurrRealm rd t } r = some d.1 := by
        rw [hl] at hch
        exact hch.1
      rw [if_neg (by simp)]
      rw [hp] at hch ⊢
      cases hf : (A.enter rd).find r fun g => g.ipa == ipa with
      | none =>
        have hno : ∀ c ∈ (A.enter rd).lists r, (c.2.ipa == ipa) = false := by
          simpa [Lists.find] using hf
        obtain ⟨q, hq⟩ := hch.scan_none (P := fun g => g.ipa == ipa) (q := none) hlen hno
        simp only [hq]
        rfl
      | some c =>
        obtain ⟨hc, pre, post, hl', hpre⟩ := List.find?_eq_some_iff_append.mp hf
        rw [hl'] at hch hlen
        have hscan := hch.scan_found (P := fun g => g.ipa == ipa) (q := none) hlen
          (by simpa using hpre) hc
        simp only [hscan]
        by_cases hi : (rttIndex - 1).toNat < maxAuxPlanes
        · simp only [dif_pos hi]
          exact ⟨_, rfl, h₁.modify _ _⟩
        · simp only [dif_neg hi]
          rfl
  · simp only [if_neg hs]
    exact ⟨_, rfl, h₁⟩

end Repr

end RmmAcs.Granules
