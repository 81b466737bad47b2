/-
# Taking a node out of a list

`val_host_realm.c` unlinks a node in four routines that differ only in the key.  Each treats the first
node apart, and each has to find out by itself whether the list it was given is the NS list, whose ends
are repeated in `head` and `tail`: it compares the pointers to the FIRST nodes.  Two empty lists compare
equal, but then nothing is removed; otherwise the comparison is right as long as the two lists share no
node (`NsList.list_ne`).

Nothing else is asked of the state: the list ends in NULL, and so does the NS list, with `head` and
`tail` at its ends.
-/
import RmmAcs.Tracker.Granule

namespace RmmAcs.Granules

open RmmAcs Lib

/-! ## 1. The array of pointers -/

namespace Tracker

@[simp] theorem setList_rd (t : Tracker) (r : ListRef) (p : Option Ptr) :
    (t.setList r p).rd = t.rd := by
  funext i
  by_cases h : i = r.1
  · subst h
    simp [setList, rd]
  · simp [setList, rd, Function.update_of_ne h]

@[simp] theorem setList_list_self (t : Tracker) (r : ListRef) (p : Option Ptr) :
    (t.setList r p).list r = p := by
  simp [setList, list]

theorem setList_list_of_ne (t : Tracker) {r r' : ListRef} (p : Option Ptr) (h : r' ≠ r) :
    (t.setList r p).list r' = t.list r' := by
  by_cases h1 : r'.1 = r.1
  · have h2 : r'.2 ≠ r.2 := fun h2 => h (Prod.ext h1 h2)
    simp [setList, list, h1, Function.update_of_ne h2]
  · simp [setList, list, Function.update_of_ne h1]

@[simp] theorem setRd_rd (t : Tracker) (i : Fin maxRealms) (v : UInt64) :
    (t.setRd i v).rd = Function.update t.rd i v := by
  funext j
  by_cases h : j = i
  · subst h
    simp [setRd, rd]
  · simp [setRd, rd, Function.update_of_ne h]

@[simp] theorem setRd_list (t : Tracker) (i : Fin maxRealms) (v : UInt64) (r : ListRef) :
    (t.setRd i v).list r = t.list r := by
  by_cases h : r.1 = i
  · simp [setRd, list, h]
  · simp [setRd, list, Function.update_of_ne h]

@[simp] theorem setNext_list (t : Tracker) (a : Ptr) (q : Option Ptr) (r : ListRef) :
    (t.setNext a q).list r = t.list r := rfl

end Tracker

/-! ## 2. What a removal does -/

/-- A node of a list: its address and its payload. -/
abbrev Cell := Ptr × Granule

/-- The NS list, with its ends where the globals say. -/
structure NsList (t : Tracker) (ns : List Cell) : Prop where
  chain : Chain t.mem (t.list nsRef) ns
  head : t.head = t.list nsRef
  tail : ∀ c, ns.getLast? = some c → t.tail = some c.1

/-- `c` has left the list `l` at `r`, of which `l'` is left, and nothing else has changed: `c` has a NULL
link, the other pointers and the nodes outside the list are as before, the globals still are at the ends
of the NS list and have not moved if the list is another one. -/
structure Unlinked (r : ListRef) (l l' : List Cell) (c : Cell) (t t' : Tracker) : Prop where
  node : t'.mem c.1 = ⟨c.2, none⟩
  chain : Chain t'.mem (t'.list r) l'
  lists : ∀ r', r' ≠ r → t'.list r' = t.list r'
  frame : ∀ a, a ∉ addrs l → t'.mem a = t.mem a
  nsHead : r = nsRef → t'.head = t'.list nsRef
  nsTail : r = nsRef → ∀ d, l'.getLast? = some d → t'.tail = some d.1
  ends : r ≠ nsRef → t'.head = t.head ∧ t'.tail = t.tail
  rd : t'.rd = t.rd
  cur : t'.currentRealm = t.currentRealm ∧ t'.current = t.current
  heap : t'.heap = t.heap

/-- **The first node with the key leaves the list**; without one, NULL is returned and nothing changes. -/
def RemovesFirst (key : Granule → Bool) (r : ListRef) (l : List Cell) (t : Tracker)
    (result : Except Fault (Option Ptr × Tracker)) : Prop :=
  match l.find? fun c => key c.2 with
  | none => result = .ok (none, t)
  | some c => ∃ t', result = .ok (some c.1, t') ∧
      Unlinked r l (l.eraseP fun c => key c.2) c t t'

/-! ## 3. The pointer operations -/

/-- There are only so many addresses. -/
theorem length_lt_of_nodup {l : List Ptr} (h : l.Nodup) : l.length < loopFuel := by
  have hinj : Function.Injective UInt64.toFin := fun a b hab => UInt64.toFin_inj.mp hab
  have hcard := (h.map hinj).length_le_card
  rw [Fintype.card_fin, List.length_map] at hcard
  exact Nat.lt_succ_of_le hcard

theorem length_lt_loopFuel {l : List Cell} (h : (addrs l).Nodup) : l.length < loopFuel := by
  rw [← List.length_map Prod.fst]
  exact length_lt_of_nodup h

/-- A list around the first node with a key, and what is left without it. -/
theorem split_of_find? {l : List Cell} {key : Cell → Bool} {c : Cell} (hf : l.find? key = some c) :
    ∃ pre post, l = pre ++ c :: post ∧ l.eraseP key = pre ++ post ∧ key c = true ∧
      ∀ d ∈ pre, key d = false := by
  obtain ⟨hk, pre, post, rfl, hpre⟩ := List.find?_eq_some_iff_append.mp hf
  have hpre' : ∀ d ∈ pre, key d = false := by simpa using hpre
  refine ⟨pre, post, rfl, ?_, hk, hpre'⟩
  rw [List.eraseP_append_right _ (by simpa using hpre'), List.eraseP_cons_of_pos hk]

section Removal

variable {t : Tracker} {ns : List Cell} {r : ListRef} {key : Granule → Bool}

/-- **Non-empty lists are told apart by their first nodes.** -/
theorem NsList.list_ne (hns : NsList t ns) {c : Cell} {l : List Cell}
    (hl : Chain t.mem (t.list r) (c :: l)) (hdisj : (addrs (c :: l)).Disjoint (addrs ns)) :
    t.list nsRef ≠ t.list r := by
  intro heq
  have hhead := hns.chain.head?_eq
  rw [heq, hl.1] at hhead
  exact hdisj List.mem_cons_self (List.mem_of_mem_head? hhead.symm)

/-- The first node of a list is taken off. -/
theorem NsList.remove_first (hns : NsList t ns) {c : Cell} {l : List Cell}
    (hl : Chain t.mem (t.list r) (c :: l))
    (hsep : r ≠ nsRef → (addrs (c :: l)).Disjoint (addrs ns)) (hk : key c.2 = true) :
    ∃ t', removeGranuleBy key r t = .ok (some c.1, t') ∧ Unlinked r (c :: l) l c t t' := by
  have hnot : c.1 ∉ addrs l := (List.nodup_cons.mp hl.nodup).1
  have hnode : Lib.setNext t.mem c.1 none c.1 = ⟨c.2, none⟩ := by rw [setNext_self, hl.2.1]
  have hchain : Chain (Lib.setNext t.mem c.1 none) (t.mem c.1).next l :=
    hl.2.2.setNext_frame hnot
  have hframe : ∀ a, a ∉ addrs (c :: l) → Lib.setNext t.mem c.1 none a = t.mem a := fun a ha =>
    setNext_of_ne _ _ fun hac => ha (by rw [hac]; exact List.mem_cons_self)
  unfold removeGranuleBy
  simp only [firstIf, hl.1, hl.2.1, hk, if_true]
  rcases eq_or_ne r nsRef with rfl | hr
  · rw [if_pos hl.1]
    have hlast : ∀ d, l.getLast? = some d → t.tail = some d.1 := by
      intro d hd
      refine hns.tail d ?_
      rw [hns.chain.unique hl, List.getLast?_cons, hd]
      rfl
    refine ⟨_, rfl, ⟨hnode, ?_, fun r' hr' => ?_, hframe, fun _ => ?_, fun _ => hlast,
      fun hne => absurd rfl hne, ?_, ⟨rfl, rfl⟩, rfl⟩⟩
    · rw [Tracker.setNext_list, Tracker.setList_list_self]
      exact hchain
    · exact Tracker.setList_list_of_ne _ _ hr'
    · rw [Tracker.setNext_list, Tracker.setList_list_self]
      rfl
    · exact Tracker.setList_rd _ _ _
  · rw [if_neg (hl.1 ▸ hns.list_ne hl (hsep hr))]
    refine ⟨_, rfl, ⟨hnode, ?_, fun r' hr' => ?_, hframe, fun heq => absurd heq hr,
      fun heq => absurd heq hr, fun _ => ⟨rfl, rfl⟩, ?_, ⟨rfl, rfl⟩, rfl⟩⟩
    · rw [Tracker.setNext_list, Tracker.setList_list_self]
      exact hchain
    · exact Tracker.setList_list_of_ne _ _ hr'
    · exact Tracker.setList_rd _ _ _

/-- The search for a node behind the first: the first node is no match, so the loop decides. -/
theorem search_later {b c : Cell} {pre post : List Cell}
    (hl : Chain t.mem (t.list r) (pre ++ b :: c :: post)) (hpre : ∀ d ∈ pre ++ [b], key d.2 = false)
    (hk : key c.2 = true) :
    firstIf key t.mem (t.list r) = none ∧
      scan t.mem key loopFuel none (t.list r) = some (some b.1, some c.1) := by
  rw [List.append_cons] at hl
  constructor
  · cases hp : pre ++ [b] with
    | nil => exact absurd hp (by simp)
    | cons d ds =>
      rw [hp] at hl hpre
      rw [hl.1]
      simp only [firstIf, hl.2.1, hpre d List.mem_cons_self]
      rfl
  · rw [hl.scan_found (q := none) (length_lt_loopFuel hl.nodup) hpre hk]
    simp [addrs]

/-- A node behind the first is unlinked from its predecessor `b`; if it was the last node of the
NS list, `tail` moves to `b`. -/
theorem NsList.remove_later (hns : NsList t ns) {b c : Cell} {pre post : List Cell}
    (hl : Chain t.mem (t.list r) (pre ++ b :: c :: post))
    (hsep : r ≠ nsRef → (addrs (pre ++ b :: c :: post)).Disjoint (addrs ns))
    (hpre : ∀ d ∈ pre ++ [b], key d.2 = false) (hk : key c.2 = true) :
    ∃ t', removeGranuleBy key r t = .ok (some c.1, t') ∧
      Unlinked r (pre ++ b :: c :: post) (pre ++ b :: post) c t t' := by
  obtain ⟨hfirst, hscan⟩ := search_later hl hpre hk
  obtain ⟨hne, hchain, hnode, hframe⟩ := hl.take_out
  have hlast : (Lib.setNext t.mem b.1 (t.mem c.1).next c.1).next = none ↔ post = [] := by
    have hpost : Chain t.mem (t.mem c.1).next post := by
      rw [List.append_cons] at hl
      exact hl.next_eq
    rw [setNext_of_ne _ _ hne]
    exact hpost.eq_nil_iff.symm
  have hother : r ≠ nsRef → t.list nsRef ≠ t.list r := by
    intro hr
    cases hp : pre ++ b :: c :: post with
    | nil => exact absurd hp (by simp)
    | cons d ds =>
      rw [hp] at hl hsep
      exact hns.list_ne hl (hsep hr)
  unfold removeGranuleBy
  simp only [hfirst, hscan]
  split
  · -- the NS list, and `c` was its last node
    rename_i hcond
    have hr : r = nsRef := by
      by_contra hr
      exact hother hr hcond.1
    have hnil : post = [] := hlast.mp hcond.2
    subst hr hnil
    refine ⟨_, rfl, ⟨hnode, hchain, fun _ _ => rfl, hframe, fun _ => hns.head, fun _ d hd => ?_,
      fun hne => absurd rfl hne, rfl, ⟨rfl, rfl⟩, rfl⟩⟩
    rw [List.getLast?_append] at hd
    have hbd : b = d := by simpa using hd
    rw [← hbd]
    rfl
  · rename_i hcond
    refine ⟨_, rfl, ⟨hnode, hchain, fun _ _ => rfl, hframe, ?_, ?_, fun _ => ⟨rfl, rfl⟩, rfl,
      ⟨rfl, rfl⟩, rfl⟩⟩
    · rintro rfl
      exact hns.head
    · rintro rfl d hd
      cases post with
      | nil => exact absurd ⟨rfl, hlast.mpr rfl⟩ hcond
      | cons e es =>
        refine hns.tail d ?_
        rw [hns.chain.unique hl]
        rw [List.getLast?_append, List.getLast?_cons_cons] at hd
        rw [List.getLast?_append, List.getLast?_cons_cons, List.getLast?_cons_cons]
        exact hd

theorem NsList.remove_none {l : List Cell} (hl : Chain t.mem (t.list r) l)
    (hno : ∀ c ∈ l, key c.2 = false) : removeGranuleBy key r t = .ok (none, t) := by
  obtain ⟨q, hq⟩ := hl.scan_none (q := none) (length_lt_loopFuel hl.nodup) hno
  unfold removeGranuleBy
  cases l with
  | nil =>
    rw [show t.list r = none from hl] at hq ⊢
    simp only [firstIf, hq]
  | cons c l =>
    rw [hl.1] at hq ⊢
    simp only [firstIf, hl.2.1, hno c List.mem_cons_self, hq]
    rfl

/-- **Removal**, whatever the key. -/
theorem NsList.removesFirst (hns : NsList t ns) {l : List Cell} (hl : Chain t.mem (t.list r) l)
    (hsep : r ≠ nsRef → (addrs l).Disjoint (addrs ns)) (key : Granule → Bool) :
    RemovesFirst key r l t (removeGranuleBy key r t) := by
  unfold RemovesFirst
  cases hf : l.find? fun c => key c.2 with
  | none => exact NsList.remove_none hl (by simpa using hf)
  | some c =>
    obtain ⟨pre, post, rfl, herase, hk, hpre⟩ := split_of_find? hf
    dsimp only
    rw [herase]
    rcases List.eq_nil_or_concat pre with rfl | ⟨ps, b, rfl⟩
    · exact hns.remove_first hl hsep hk
    · simp only [List.concat_eq_append, List.append_assoc, List.cons_append, List.nil_append]
        at hl hsep hpre ⊢
      exact hns.remove_later hl hsep hpre hk

/-- **The four removal routines**, each by its key, on any NULL-terminated list that is the NS list or
shares no node with it. -/
theorem granule_removal_exact (hns : NsList t ns) {l : List Cell} (hl : Chain t.mem (t.list r) l)
    (hsep : r ≠ nsRef → (addrs l).Disjoint (addrs ns)) (pa ipa level index : UInt64) :
    RemovesFirst (fun g => g.pa == pa) r l t (valHostRemoveGranule r pa t) ∧
    RemovesFirst (fun g => g.ipa == ipa) r l t (valHostRemoveDataGranule r ipa t) ∧
    RemovesFirst (fun g => g.level == level && g.ipa == ipa) r l t
      (valHostRemoveRttGranule r ipa level t) ∧
    RemovesFirst (fun g => g.level == level && g.ipa == ipa && g.rttTreeIdx == index) r l t
      (valHostRemoveAuxRttGranule r ipa level index t) :=
  ⟨hns.removesFirst hl hsep _, hns.removesFirst hl hsep _, hns.removesFirst hl hsep _,
    hns.removesFirst hl hsep _⟩

end Removal

/-- A node for a delegated page. -/
def pageNode (pa : UInt64) (next : Option Ptr) : Node Ptr Granule :=
  ⟨⟨0, .delegated, pa, 0, 0, 0, 0, fun _ => false⟩, next⟩

/-- Two pages in the NS list, at the nodes 64 and 128. -/
def twoPages : Tracker :=
  { (Tracker.init (fun a => if a = 64 then pageNode 0x1000 (some 128) else pageNode 0x2000 none)
      valHostMemAllocInit).setList nsRef (some 64) with
    head := some 64
    tail := some 128 }

/-- The second page goes, and the tail moves to the first. -/
theorem granule_removal_exact_two_pages :
    RemovesFirst (fun g => g.pa == 0x2000) nsRef
      [(64, (pageNode 0x1000 none).data), (128, (pageNode 0x2000 none).data)] twoPages
      (valHostRemoveGranule nsRef 0x2000 twoPages) := by
  have hchain : Chain twoPages.mem (twoPages.list nsRef)
      [(64, (pageNode 0x1000 none).data), (128, (pageNode 0x2000 none).data)] :=
    ⟨rfl, rfl, rfl, rfl, rfl⟩
  have hns : NsList twoPages
      [(64, (pageNode 0x1000 none).data), (128, (pageNode 0x2000 none).data)] := by
    refine ⟨hchain, rfl, fun c hc => ?_⟩
    rw [← Option.some.inj hc]
    rfl
  exact (granule_removal_exact hns hchain (fun hne => absurd rfl hne) 0x2000 0 0 0).1

end RmmAcs.Granules
