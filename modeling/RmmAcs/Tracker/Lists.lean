/-
# What the tracker's pointers mean

The tracker is an array of pointers; what it is FOR is a family of lists of granules, one for
every slot and kind.  `Lists` is that family, with the `rd` of every slot and `current_realm`,
and `Repr t A` says that the pointers of `t` mean the lists of `A`: every list is NULL-terminated,
no two share a node, `head` and `tail` are the ends of the NS list.

The functions of the tracker then have a meaning on lists -- append, erase the first match, change
one entry -- with no pointers left in it, and section 4 shows that the pointer code has exactly
that meaning from every represented state, `none` standing for a NULL pointer dereferenced.
-/
import RmmAcs.Tracker.Removal

namespace RmmAcs.Granules

open RmmAcs Lib

/-! ## 1. The family of lists -/

/-- The meaning of a tracker. -/
structure Lists where
  rd : Fin maxRealms → UInt64
  cur : Fin maxRealms
  lists : ListRef → List Cell

namespace Lists

def set (A : Lists) (r : ListRef) (l : List Cell) : Lists :=
  { A with lists := Function.update A.lists r l }

def push (A : Lists) (r : ListRef) (c : Cell) : Lists := A.set r (A.lists r ++ [c])

/-- The first node with a key leaves its list. -/
def drop (A : Lists) (r : ListRef) (key : Granule → Bool) : Lists :=
  A.set r ((A.lists r).eraseP fun c => key c.2)

/-- A change of the payload at one address, wherever it is. -/
def modify (A : Lists) (a : Ptr) (f : Granule → Granule) : Lists :=
  { A with lists := fun r => modifyAt a f (A.lists r) }

def find (A : Lists) (r : ListRef) (key : Granule → Bool) : Option Cell :=
  (A.lists r).find? fun c => key c.2

@[simp] theorem set_rd (A : Lists) (r : ListRef) (l : List Cell) : (A.set r l).rd = A.rd := rfl
@[simp] theorem set_cur (A : Lists) (r : ListRef) (l : List Cell) : (A.set r l).cur = A.cur := rfl
@[simp] theorem push_rd (A : Lists) (r : ListRef) (c : Cell) : (A.push r c).rd = A.rd := rfl
@[simp] theorem push_cur (A : Lists) (r : ListRef) (c : Cell) : (A.push r c).cur = A.cur := rfl
@[simp] theorem drop_rd (A : Lists) (r : ListRef) (key : Granule → Bool) :
    (A.drop r key).rd = A.rd := rfl
@[simp] theorem drop_cur (A : Lists) (r : ListRef) (key : Granule → Bool) :
    (A.drop r key).cur = A.cur := rfl
@[simp] theorem modify_rd (A : Lists) (a : Ptr) (f : Granule → Granule) :
    (A.modify a f).rd = A.rd := rfl
@[simp] theorem modify_cur (A : Lists) (a : Ptr) (f : Granule → Granule) :
    (A.modify a f).cur = A.cur := rfl

@[simp] theorem set_lists_self (A : Lists) (r : ListRef) (l : List Cell) :
    (A.set r l).lists r = l := Function.update_self _ _ _

theorem set_lists_of_ne (A : Lists) {r r' : ListRef} (l : List Cell) (h : r' ≠ r) :
    (A.set r l).lists r' = A.lists r' := Function.update_of_ne h _ _

@[simp] theorem push_lists_self (A : Lists) (r : ListRef) (c : Cell) :
    (A.push r c).lists r = A.lists r ++ [c] := set_lists_self _ _ _

theorem push_lists_of_ne (A : Lists) {r r' : ListRef} (c : Cell) (h : r' ≠ r) :
    (A.push r c).lists r' = A.lists r' := set_lists_of_ne _ _ h

@[simp] theorem drop_lists_self (A : Lists) (r : ListRef) (key : Granule → Bool) :
    (A.drop r key).lists r = (A.lists r).eraseP fun c => key c.2 := set_lists_self _ _ _

theorem drop_lists_of_ne (A : Lists) {r r' : ListRef} (key : Granule → Bool) (h : r' ≠ r) :
    (A.drop r key).lists r' = A.lists r' := set_lists_of_ne _ _ h

@[simp] theorem modify_lists (A : Lists) (a : Ptr) (f : Granule → Granule) (r : ListRef) :
    (A.modify a f).lists r = modifyAt a f (A.lists r) := rfl

end Lists

/-! ## 2. Representation -/

/-- **The pointers of `t` mean the lists of `A`.** -/
structure Repr (t : Tracker) (A : Lists) : Prop where
  rd : t.rd = A.rd
  cur : t.currentRealm = A.cur
  chain : ∀ r, Chain t.mem (t.list r) (A.lists r)
  nodup : ∀ r, (addrs (A.lists r)).Nodup
  disjoint : ∀ r r', r ≠ r' → (addrs (A.lists r)).Disjoint (addrs (A.lists r'))
  head : t.head = t.list nsRef
  tail : ∀ c, (A.lists nsRef).getLast? = some c → t.tail = some c.1
  below : ∀ r, ∀ c ∈ A.lists r, c.1.toNat < t.heap.heapBase.toNat
  heapOk : t.heap.Ok (2 ^ 32)

/-- A node that is in no list, with a NULL link. -/
structure Loose (t : Tracker) (A : Lists) (c : Cell) : Prop where
  node : t.mem c.1 = ⟨c.2, none⟩
  notMem : ∀ r, c.1 ∉ addrs (A.lists r)
  below : c.1.toNat < t.heap.heapBase.toNat

theorem repr_init (mem : NodeMem Ptr Granule) {heap : HeapState} (h : heap.Ok (2 ^ 32)) :
    Repr (.init mem heap) ⟨fun _ => freeRd, 1, fun _ => []⟩ where
  rd := rfl
  cur := rfl
  chain := fun _ => rfl
  nodup := fun _ => List.nodup_nil
  disjoint := fun _ _ _ _ hp => absurd hp List.not_mem_nil
  head := rfl
  tail := fun _ hc => absurd hc (by simp)
  below := fun _ _ hc => absurd hc List.not_mem_nil
  heapOk := h

namespace Repr

variable {t : Tracker} {A : Lists}

theorem length_lt (h : Repr t A) (r : ListRef) : (A.lists r).length < loopFuel :=
  length_lt_loopFuel (h.nodup r)

theorem notMem_of_mem (h : Repr t A) {r r' : ListRef} {c : Cell} (hc : c ∈ A.lists r)
    (hr : r' ≠ r) : c.1 ∉ addrs (A.lists r') := fun hc' =>
  h.disjoint r' r hr hc' (List.mem_map_of_mem hc)

/-- An edit of one list that leaves the nodes of the others alone. -/
theorem of_edit (h : Repr t A) {t' : Tracker} {r : ListRef} {l : List Cell}
    (hrd : t'.rd = t.rd) (hcur : t'.currentRealm = t.currentRealm)
    (hself : Chain t'.mem (t'.list r) l)
    (hother : ∀ r', r' ≠ r → Chain t'.mem (t'.list r') (A.lists r'))
    (hnodup : (addrs l).Nodup)
    (hdisj : ∀ r', r' ≠ r → (addrs l).Disjoint (addrs (A.lists r')))
    (hhead : t'.head = t'.list nsRef)
    (htail : ∀ c, ((A.set r l).lists nsRef).getLast? = some c → t'.tail = some c.1)
    (hbelow : ∀ c ∈ l, c.1.toNat < t.heap.heapBase.toNat) (hheap : t'.heap = t.heap) :
    Repr t' (A.set r l) where
  rd := hrd.trans h.rd
  cur := hcur.trans h.cur
  chain := fun r' => by
    by_cases hr : r' = r
    · subst hr
      rw [Lists.set_lists_self]
      exact hself
    · rw [A.set_lists_of_ne l hr]
      exact hother r' hr
  nodup := fun r' => by
    by_cases hr : r' = r
    · subst hr
      rw [Lists.set_lists_self]
      exact hnodup
    · rw [A.set_lists_of_ne l hr]
      exact h.nodup r'
  disjoint := fun r' r'' hne => by
    by_cases hr : r' = r
    · subst hr
      rw [Lists.set_lists_self, A.set_lists_of_ne l (Ne.symm hne)]
      exact hdisj r'' (Ne.symm hne)
    · rw [A.set_lists_of_ne l hr]
      by_cases hr' : r'' = r
      · subst hr'
        rw [Lists.set_lists_self]
        exact (hdisj r' hr).symm
      · rw [A.set_lists_of_ne l hr']
        exact h.disjoint r' r'' hne
  head := hhead
  tail := htail
  below := fun r' c hc => by
    rw [hheap]
    by_cases hr : r' = r
    · subst hr
      rw [Lists.set_lists_self] at hc
      exact hbelow c hc
    · rw [A.set_lists_of_ne l hr] at hc
      exact h.below r' c hc
  heapOk := by
    rw [hheap]
    exact h.heapOk

/-! ## 3. The pointer operations -/

theorem find_eq (h : Repr t A) (pa : UInt64) :
    valHostFindGranule pa t = .ok ((A.find nsRef fun g => g.pa == pa).map Prod.fst) := by
  have hch := h.chain nsRef
  rw [← h.head] at hch
  unfold valHostFindGranule Lists.find
  cases hf : (A.lists nsRef).find? fun c => c.2.pa == pa with
  | none =>
    have hno : ∀ c ∈ A.lists nsRef, (c.2.pa == pa) = false := by simpa using hf
    obtain ⟨q, hq⟩ := hch.scan_none (P := fun g => g.pa == pa) (q := none) (h.length_lt nsRef) hno
    rw [hq]
    rfl
  | some c =>
    obtain ⟨hc, pre, post, hl, hpre⟩ := List.find?_eq_some_iff_append.mp hf
    have hlen := h.length_lt nsRef
    rw [hl] at hch hlen
    rw [hch.scan_found (P := fun g => g.pa == pa) (q := none) hlen (by simpa using hpre) hc]
    rfl

/-- What a removal needs to know. -/
theorem removesFirst (h : Repr t A) (r : ListRef) (key : Granule → Bool) :
    RemovesFirst key r (A.lists r) t (removeGranuleBy key r t) :=
  NsList.removesFirst ⟨h.chain nsRef, h.head, h.tail⟩ (h.chain r) (fun hr => h.disjoint r nsRef hr) key

theorem remove_none (h : Repr t A) {r : ListRef} {key : Granule → Bool}
    (hf : A.find r key = none) : removeGranuleBy key r t = .ok (none, t) := by
  have hremoves := h.removesFirst r key
  rw [RemovesFirst, show (A.lists r).find? (fun c => key c.2) = none from hf] at hremoves
  exact hremoves

/-- **Removal.**  The first node with the key leaves the list and hangs loose. -/
theorem remove_some (h : Repr t A) {r : ListRef} {key : Granule → Bool} {c : Cell}
    (hf : A.find r key = some c) :
    ∃ t', removeGranuleBy key r t = .ok (some c.1, t') ∧ Repr t' (A.drop r key) ∧
      Loose t' (A.drop r key) c := by
  have hremoves := h.removesFirst r key
  rw [RemovesFirst, show (A.lists r).find? (fun c => key c.2) = some c from hf] at hremoves
  obtain ⟨t', ht', hu⟩ := hremoves
  have hmem : c ∈ A.lists r := List.mem_of_find?_eq_some hf
  have hsub : ∀ d ∈ (A.lists r).eraseP fun c => key c.2, d ∈ A.lists r := fun d hd =>
    List.mem_of_mem_eraseP hd
  have hframe : ∀ r', r' ≠ r → Chain t'.mem (t'.list r') (A.lists r') := by
    intro r' hr
    rw [hu.lists r' hr]
    exact (h.chain r').congr fun d hd => hu.frame d.1 (h.notMem_of_mem hd hr.symm)
  have hnot : c.1 ∉ addrs ((A.lists r).eraseP fun c => key c.2) := by
    obtain ⟨pre, post, hl, herase, -, -⟩ := split_of_find? hf
    have hnd := h.nodup r
    rw [hl] at hnd
    rw [herase]
    exact notMem_addrs_of_nodup hnd
  refine ⟨t', ht', h.of_edit hu.rd hu.cur.1 hu.chain hframe ?_ ?_ ?_ ?_ ?_ hu.heap, ?_, ?_, ?_⟩
  · exact hu.chain.nodup
  · intro r' hr a ha hb
    obtain ⟨d, hd, rfl⟩ := List.mem_map.mp ha
    exact h.notMem_of_mem (hsub d hd) hr hb
  · rcases eq_or_ne r nsRef with hr | hr
    · exact hu.nsHead hr
    · rw [(hu.ends hr).1, hu.lists nsRef hr.symm]
      exact h.head
  · intro d hd
    rcases eq_or_ne r nsRef with rfl | hr
    · rw [Lists.set_lists_self] at hd
      exact hu.nsTail rfl d hd
    · rw [A.set_lists_of_ne _ hr.symm] at hd
      rw [(hu.ends hr).2]
      exact h.tail d hd
  · exact fun d hd => h.below r d (hsub d hd)
  · exact hu.node
  · intro r'
    rcases eq_or_ne r' r with rfl | hr
    · rw [Lists.drop_lists_self]
      exact hnot
    · rw [A.drop_lists_of_ne _ hr]
      exact h.notMem_of_mem hmem hr
  · rw [hu.heap]
    exact h.below r c hmem

/-- Payload assignments to a loose node. -/
theorem modify_loose (h : Repr t A) {c : Cell} (hc : Loose t A c) (f : Granule → Granule) :
    Repr (t.modify c.1 f) A ∧ Loose (t.modify c.1 f) A (c.1, f c.2) := by
  refine ⟨⟨h.rd, h.cur, fun r => ?_, h.nodup, h.disjoint, h.head, h.tail, h.below, h.heapOk⟩,
    ?_, hc.notMem, hc.below⟩
  · exact (h.chain r).modifyData_frame (hc.notMem r)
  · show modifyData t.mem c.1 f c.1 = _
    rw [modifyData_self, hc.node]

/-- `node->next = NULL` on a loose node, whatever its link was. -/
theorem setNext_loose (h : Repr t A) {c : Cell} (hd : (t.mem c.1).data = c.2)
    (hn : ∀ r, c.1 ∉ addrs (A.lists r)) (hb : c.1.toNat < t.heap.heapBase.toNat) :
    Repr (t.setNext c.1 none) A ∧ Loose (t.setNext c.1 none) A c := by
  refine ⟨⟨h.rd, h.cur, fun r => ?_, h.nodup, h.disjoint, h.head, h.tail, h.below, h.heapOk⟩,
    ?_, hn, hb⟩
  · exact (h.chain r).setNext_frame (hn r)
  · show Lib.setNext t.mem c.1 none c.1 = _
    rw [setNext_self, hd]

/-- The lists with a loose node added to one of them are still disjoint. -/
theorem push_disjoint (h : Repr t A) {c : Cell} (hc : Loose t A c) {r : ListRef} :
    (addrs (A.lists r ++ [c])).Nodup ∧
      (∀ r', r' ≠ r → (addrs (A.lists r ++ [c])).Disjoint (addrs (A.lists r'))) ∧
      ∀ d ∈ A.lists r ++ [c], d.1.toNat < t.heap.heapBase.toNat := by
  refine ⟨?_, ?_, ?_⟩
  · simp only [addrs, List.map_append, List.map_cons, List.map_nil]
    refine List.nodup_append.mpr ⟨h.nodup r, List.nodup_singleton _, ?_⟩
    rintro a ha b hb rfl
    rw [List.mem_singleton] at hb
    exact hc.notMem r (hb ▸ ha)
  · intro r' hr a ha hb
    obtain ⟨d, hd, rfl⟩ := List.mem_map.mp ha
    rcases List.mem_append.mp hd with hd | hd
    · exact h.notMem_of_mem hd hr hb
    · rw [List.mem_singleton.mp hd] at hb
      exact hc.notMem r' hb
  · intro d hd
    rcases List.mem_append.mp hd with hd | hd
    · exact h.below r d hd
    · rw [List.mem_singleton.mp hd]
      exact hc.below

/-- **A loose node joins the NS list**, behind `tail`. -/
theorem addNode_spec (h : Repr t A) {c : Cell} (hc : Loose t A c) :
    ∃ t', addNode c.1 t = .ok t' ∧ Repr t' (A.push nsRef c) := by
  obtain ⟨hnd, hdj, hbl⟩ := h.push_disjoint hc (r := nsRef)
  have hch := h.chain nsRef
  rcases List.eq_nil_or_concat (A.lists nsRef) with hl | ⟨l, b, hl⟩
  · rw [hl] at hch
    have hhead : t.head = none := h.head.trans hch
    unfold addNode
    rw [hhead]
    refine ⟨_, rfl, h.of_edit ?_ rfl ?_ ?_ hnd hdj ?_ ?_ hbl rfl⟩
    · exact Tracker.setList_rd _ _ _
    · rw [hl]
      show Chain (Lib.setNext t.mem c.1 none) (Tracker.list (Tracker.setList _ nsRef _) nsRef) [c]
      rw [Tracker.setList_list_self]
      refine ⟨rfl, by rw [setNext_data, hc.node], ?_⟩
      rw [setNext_self]
      rfl
    · intro r' hr
      show Chain (Lib.setNext t.mem c.1 none) (Tracker.list (Tracker.setList _ nsRef _) r') _
      rw [Tracker.setList_list_of_ne _ _ hr]
      exact (h.chain r').setNext_frame (hc.notMem r')
    · show some c.1 = Tracker.list (Tracker.setList _ nsRef _) nsRef
      rw [Tracker.setList_list_self]
    · intro d hd
      rw [Lists.set_lists_self, List.getLast?_concat] at hd
      exact congrArg (fun c : Cell => some c.1) (Option.some.inj hd)
  · rw [List.concat_eq_append] at hl
    have hmemb : b ∈ A.lists nsRef := by rw [hl]; simp
    have htail : t.tail = some b.1 := h.tail b (by rw [hl, List.getLast?_concat])
    have hhead : ∃ a, t.head = some a := by
      rw [h.head, hch.head?_eq, hl]
      cases l with
      | nil => exact ⟨_, rfl⟩
      | cons d l => exact ⟨_, rfl⟩
    obtain ⟨a, ha⟩ := hhead
    unfold addNode
    rw [ha, htail]
    refine ⟨_, rfl, h.of_edit rfl rfl ?_ ?_ hnd hdj (ha.symm.trans h.head) ?_ hbl rfl⟩
    · show Chain (Lib.setNext t.mem b.1 (some c.1)) (t.list nsRef) _
      have hndl := h.nodup nsRef
      have hcl := hc.notMem nsRef
      rw [hl] at hch hndl hcl ⊢
      exact hch.link_last hc.node hndl hcl
    · intro r' hr
      exact (h.chain r').setNext_frame (h.notMem_of_mem hmemb hr)
    · intro d hd
      rw [Lists.set_lists_self, List.getLast?_concat] at hd
      exact congrArg (fun c : Cell => some c.1) (Option.some.inj hd)

/-- **A loose node joins another list**, behind the node a walk from the front ends at. -/
theorem appendNode_spec (h : Repr t A) {c : Cell} (hc : Loose t A c) {r : ListRef}
    (hr : r ≠ nsRef) : ∃ t', appendNode r c.1 t = .ok t' ∧ Repr t' (A.push r c) := by
  obtain ⟨hnd, hdj, hbl⟩ := h.push_disjoint hc (r := r)
  have hch := h.chain r
  have htl : ∀ d, ((A.push r c).lists nsRef).getLast? = some d → t.tail = some d.1 := by
    intro d hd
    rw [A.push_lists_of_ne c (Ne.symm hr)] at hd
    exact h.tail d hd
  unfold appendNode
  rcases List.eq_nil_or_concat (A.lists r) with hl | ⟨l, b, hl⟩
  · have hnull : t.list r = none := by rw [hl] at hch; exact hch
    rw [hnull]
    refine ⟨_, rfl, h.of_edit ?_ rfl ?_ ?_ hnd hdj ?_ htl hbl rfl⟩
    · exact Tracker.setList_rd _ _ _
    · rw [hl]
      show Chain t.mem (Tracker.list (Tracker.setList _ r _) r) [c]
      rw [Tracker.setList_list_self]
      refine ⟨rfl, by rw [hc.node], ?_⟩
      rw [hc.node]
      rfl
    · intro r' hr'
      show Chain t.mem (Tracker.list (Tracker.setList _ r _) r') _
      rw [Tracker.setList_list_of_ne _ _ hr']
      exact h.chain r'
    · rw [Tracker.setList_list_of_ne _ _ (Ne.symm hr)]
      exact h.head
  · rw [List.concat_eq_append] at hl
    have hmemb : b ∈ A.lists r := by rw [hl]; simp
    have hsome : ∃ a, t.list r = some a := by
      rw [hch.head?_eq, hl]
      cases l with
      | nil => exact ⟨_, rfl⟩
      | cons d l => exact ⟨_, rfl⟩
    obtain ⟨a, ha⟩ := hsome
    have hlen := h.length_lt r
    have hch' := hch
    rw [ha, hl] at hch'
    rw [hl] at hlen
    have hlast : lastNode t.mem loopFuel a = some b.1 := hch'.lastNode_eq hlen
    simp only [ha, hlast]
    refine ⟨_, rfl, h.of_edit rfl rfl ?_ ?_ hnd hdj h.head htl hbl rfl⟩
    · show Chain (Lib.setNext t.mem b.1 (some c.1)) (t.list r) _
      have hndl := h.nodup r
      have hcl := hc.notMem r
      rw [hl] at hch hndl hcl ⊢
      exact hch.link_last hc.node hndl hcl
    · intro r' hr'
      exact (h.chain r').setNext_frame (h.notMem_of_mem hmemb hr')

end Repr

end RmmAcs.Granules
