/-
# Singly linked lists in a flat memory

A list of a C program is a pointer to its first node and a `next` field in every node.  What it
MEANS is a sequence of nodes, and this file says when a memory and a pointer have a given
sequence as their meaning: `Chain m p l`.  The rest are the three facts a program that edits such
lists needs -- a write outside the list does not change it, a node can be linked behind the last
one, a node can be unlinked from behind another -- and the two loops such a program is made of,
the search for a node and the walk to the last one.

The loops carry fuel.  On a NULL-terminated list any fuel above its length gives the same answer,
so the fuel only ever decides what happens on a circular list.
-/
import Mathlib

namespace RmmAcs.Lib

variable {π α : Type}

/-! ## 1. Nodes and chains -/

/-- A node: its payload and its link, `none` being NULL. -/
structure Node (π α : Type) where
  data : α
  next : Option π

/-- A memory of nodes. -/
abbrev NodeMem (π α : Type) := π → Node π α

/-- The addresses of a sequence of nodes. -/
abbrev addrs (l : List (π × α)) : List π := l.map Prod.fst

/-- `Chain m p l`: following the links from `p` one meets exactly the nodes of `l`, in order and
with the payloads of `l`, and then NULL. -/
def Chain (m : NodeMem π α) (p : Option π) : List (π × α) → Prop
  | [] => p = none
  | c :: l => p = some c.1 ∧ (m c.1).data = c.2 ∧ Chain m (m c.1).next l

/-- A memory and a pointer mean at most one sequence. -/
theorem Chain.unique {m : NodeMem π α} : ∀ {l l' : List (π × α)} {p : Option π},
    Chain m p l → Chain m p l' → l = l'
  | [], [], _, _, _ => rfl
  | [], _ :: _, _, h, h' => by rw [show _ = none from h] at h'; exact absurd h'.1 (by simp)
  | _ :: _, [], _, h, h' => by rw [show _ = none from h'] at h; exact absurd h.1 (by simp)
  | c :: l, d :: l', p, ⟨hp, hd, ht⟩, ⟨hp', hd', ht'⟩ => by
    have hcd : c.1 = d.1 := Option.some.inj (hp.symm.trans hp')
    rw [← hcd] at hd' ht'
    rw [Chain.unique ht ht', Prod.ext hcd (hd.symm.trans hd')]

/-- **Frame.**  Only the nodes of the list matter. -/
theorem Chain.congr {m m' : NodeMem π α} : ∀ {l : List (π × α)} {p : Option π},
    (∀ c ∈ l, m' c.1 = m c.1) → Chain m p l → Chain m' p l
  | [], _, _, h => h
  | c :: l, p, hm, ⟨hp, hd, ht⟩ => by
    have hc := hm c List.mem_cons_self
    refine ⟨hp, by rw [hc]; exact hd, ?_⟩
    rw [hc]
    exact Chain.congr (fun d hd => hm d (List.mem_cons_of_mem _ hd)) ht

theorem Chain.data_eq {m : NodeMem π α} {c : π × α} : ∀ {l : List (π × α)} {p : Option π},
    Chain m p l → c ∈ l → (m c.1).data = c.2
  | [], _, _, hc => absurd hc List.not_mem_nil
  | _ :: _, _, ⟨_, hd, ht⟩, hc => by
    rcases List.mem_cons.mp hc with rfl | hc
    · exact hd
    · exact ht.data_eq hc

theorem Chain.head?_eq {m : NodeMem π α} {l : List (π × α)} {p : Option π} (h : Chain m p l) :
    p = (addrs l).head? := by
  cases l with
  | nil => exact h
  | cons c l => exact h.1

/-- The link of the node before `r` starts `r`. -/
theorem Chain.next_eq {m : NodeMem π α} {c : π × α} {r : List (π × α)} :
    ∀ {l : List (π × α)} {p : Option π}, Chain m p (l ++ c :: r) → Chain m (m c.1).next r
  | [], _, h => h.2.2
  | _ :: _, _, h => Chain.next_eq h.2.2

/-- **A NULL-terminated list passes no node twice**: from there it would go round for ever. -/
theorem Chain.nodup {m : NodeMem π α} {l : List (π × α)} {p : Option π} (h : Chain m p l) :
    (addrs l).Nodup := by
  induction l generalizing p with
  | nil => exact List.nodup_nil
  | cons c l ih =>
    refine List.nodup_cons.mpr ⟨fun hmem => ?_, ih h.2.2⟩
    obtain ⟨d, hd, hdc⟩ := List.mem_map.mp hmem
    obtain ⟨l₁, l₂, rfl⟩ := List.append_of_mem hd
    have hagain : Chain m (m c.1).next l₂ := by
      rw [← hdc]
      exact h.2.2.next_eq
    have hlen := congrArg List.length (h.2.2.unique hagain)
    simp at hlen
    omega

/-- NULL is the end, and only the end. -/
theorem Chain.eq_nil_iff {m : NodeMem π α} {l : List (π × α)} {p : Option π} (h : Chain m p l) :
    l = [] ↔ p = none := by
  cases l with
  | nil => exact iff_of_true rfl h
  | cons c l => exact iff_of_false (List.cons_ne_nil c l) (by rw [h.1]; exact Option.some_ne_none _)

theorem notMem_addrs_of_nodup {l r : List (π × α)} {c : π × α} (h : (addrs (l ++ c :: r)).Nodup) :
    c.1 ∉ addrs (l ++ r) := by
  rw [addrs, List.map_append, List.map_cons, List.nodup_middle, ← List.map_append] at h
  exact (List.nodup_cons.mp h).1

theorem ne_of_mem_of_notMem_addrs {l : List (π × α)} {c : π × α} {a : π} (hc : c ∈ l)
    (ha : a ∉ addrs l) : c.1 ≠ a := by
  rintro rfl
  exact ha (List.mem_map_of_mem hc)

/-! ## 2. Edits -/

section Edits

variable [DecidableEq π]

/-- `a->next = q`. -/
def setNext (m : NodeMem π α) (a : π) (q : Option π) : NodeMem π α :=
  Function.update m a { m a with next := q }

/-- An assignment to the payload of a node. -/
def modifyData (m : NodeMem π α) (a : π) (f : α → α) : NodeMem π α :=
  Function.update m a { m a with data := f (m a).data }

@[simp] theorem setNext_self (m : NodeMem π α) (a : π) (q : Option π) :
    setNext m a q a = ⟨(m a).data, q⟩ := Function.update_self _ _ _

theorem setNext_of_ne (m : NodeMem π α) {a b : π} (q : Option π) (h : b ≠ a) :
    setNext m a q b = m b := Function.update_of_ne h _ _

@[simp] theorem setNext_data (m : NodeMem π α) (a b : π) (q : Option π) :
    (setNext m a q b).data = (m b).data := by
  by_cases h : b = a
  · rw [h, setNext_self]
  · rw [setNext_of_ne m q h]

@[simp] theorem modifyData_self (m : NodeMem π α) (a : π) (f : α → α) :
    modifyData m a f a = ⟨f (m a).data, (m a).next⟩ := Function.update_self _ _ _

theorem modifyData_of_ne (m : NodeMem π α) {a b : π} (f : α → α) (h : b ≠ a) :
    modifyData m a f b = m b := Function.update_of_ne h _ _

/-- A write to the link of a node outside the list. -/
theorem Chain.setNext_frame {m : NodeMem π α} {l : List (π × α)} {p q : Option π} {a : π}
    (h : Chain m p l) (ha : a ∉ addrs l) : Chain (setNext m a q) p l :=
  h.congr fun _ hc => setNext_of_ne m q (ne_of_mem_of_notMem_addrs hc ha)

/-- A write to the payload of a node outside the list. -/
theorem Chain.modifyData_frame {m : NodeMem π α} {l : List (π × α)} {p : Option π} {a : π}
    {f : α → α} (h : Chain m p l) (ha : a ∉ addrs l) : Chain (modifyData m a f) p l :=
  h.congr fun _ hc => modifyData_of_ne m f (ne_of_mem_of_notMem_addrs hc ha)

/-- The payload change at address `a`, on sequences. -/
def modifyAt (a : π) (f : α → α) (l : List (π × α)) : List (π × α) :=
  l.map fun c => if c.1 = a then (c.1, f c.2) else c

@[simp] theorem addrs_modifyAt (a : π) (f : α → α) (l : List (π × α)) :
    addrs (modifyAt a f l) = addrs l := by
  simp only [addrs, modifyAt, List.map_map]
  refine List.map_congr_left fun c _ => ?_
  dsimp only [Function.comp]
  split <;> rfl

theorem modifyAt_of_notMem {a : π} {f : α → α} {l : List (π × α)} (h : a ∉ addrs l) :
    modifyAt a f l = l := by
  unfold modifyAt
  conv_rhs => rw [← List.map_id l]
  exact List.map_congr_left fun c hc => if_neg (ne_of_mem_of_notMem_addrs hc h)

theorem modifyAt_append (a : π) (f : α → α) (l l' : List (π × α)) :
    modifyAt a f (l ++ l') = modifyAt a f l ++ modifyAt a f l' := List.map_append

theorem modifyAt_cons_self (f : α → α) (c : π × α) (l : List (π × α)) (h : c.1 ∉ addrs l) :
    modifyAt c.1 f (c :: l) = (c.1, f c.2) :: l := by
  show (if c.1 = c.1 then (c.1, f c.2) else c) :: modifyAt c.1 f l = _
  rw [if_pos rfl, modifyAt_of_notMem h]

theorem modifyAt_middle (f : α → α) {l r : List (π × α)} {c : π × α}
    (h : (addrs (l ++ c :: r)).Nodup) :
    modifyAt c.1 f (l ++ c :: r) = l ++ (c.1, f c.2) :: r := by
  have hmap : (addrs l ++ c.1 :: addrs r).Nodup := by simpa [addrs] using h
  have hl : c.1 ∉ addrs l := fun hm =>
    List.disjoint_of_nodup_append hmap hm List.mem_cons_self
  have hr : c.1 ∉ addrs r := (List.nodup_cons.mp (List.Nodup.of_append_right hmap)).1
  rw [modifyAt_append, modifyAt_of_notMem hl, modifyAt_cons_self f c r hr]

/-- A write to the payload of a node of the list. -/
theorem Chain.modifyData {m : NodeMem π α} {a : π} {f : α → α} :
    ∀ {l : List (π × α)} {p : Option π}, (addrs l).Nodup → Chain m p l →
      Chain (modifyData m a f) p (modifyAt a f l)
  | [], _, _, h => h
  | c :: l, p, hn, ⟨hp, hd, ht⟩ => by
    have hnd := List.nodup_cons.mp hn
    by_cases hca : c.1 = a
    · subst hca
      rw [modifyAt_cons_self f c l hnd.1]
      refine ⟨hp, ?_, ?_⟩
      · rw [modifyData_self, hd]
      · rw [modifyData_self]
        exact ht.modifyData_frame hnd.1
    · show Chain _ p ((if c.1 = a then (c.1, f c.2) else c) :: modifyAt a f l)
      rw [if_neg hca]
      refine ⟨hp, ?_, ?_⟩
      · rw [modifyData_of_ne m f hca, hd]
      · rw [modifyData_of_ne m f hca]
        exact Chain.modifyData hnd.2 ht

/-- **Linking.**  A node whose link is NULL, written behind the last node, becomes the last. -/
theorem Chain.link_last {m : NodeMem π α} {c d : π × α} (hd : m d.1 = ⟨d.2, none⟩) :
    ∀ {l : List (π × α)} {p : Option π}, (addrs (l ++ [c])).Nodup → d.1 ∉ addrs (l ++ [c]) →
      Chain m p (l ++ [c]) → Chain (setNext m c.1 (some d.1)) p (l ++ [c] ++ [d])
  | [], p, _, hn, ⟨hp, hc, _⟩ => by
    have hdc : d.1 ≠ c.1 := fun h => hn (by simp [h])
    refine ⟨hp, by rw [setNext_data, hc], ?_⟩
    rw [setNext_self]
    refine ⟨rfl, by rw [setNext_data, hd], ?_⟩
    rw [setNext_of_ne m _ hdc, hd]
    rfl
  | b :: l, p, hnd, hn, ⟨hp, hb, ht⟩ => by
    have hnd' := List.nodup_cons.mp hnd
    have hbc : b.1 ≠ c.1 := fun h => hnd'.1 (by rw [h]; simp)
    refine ⟨hp, by rw [setNext_data, hb], ?_⟩
    rw [setNext_of_ne m _ hbc]
    exact Chain.link_last hd hnd'.2 (fun h => hn (List.mem_cons_of_mem _ h)) ht

/-- **Unlinking.**  Giving a node the link of its successor takes the successor out. -/
theorem Chain.unlink {m : NodeMem π α} {c d : π × α} {r : List (π × α)} :
    ∀ {l : List (π × α)} {p : Option π}, (addrs (l ++ c :: d :: r)).Nodup →
      Chain m p (l ++ c :: d :: r) → Chain (setNext m c.1 (m d.1).next) p (l ++ c :: r)
  | [], p, hnd, ⟨hp, hc, _, _, ht⟩ => by
    have hnd' := List.nodup_cons.mp hnd
    refine ⟨hp, by rw [setNext_data, hc], ?_⟩
    rw [setNext_self]
    exact ht.setNext_frame fun h => hnd'.1 (List.mem_cons_of_mem _ h)
  | b :: l, p, hnd, ⟨hp, hb, ht⟩ => by
    have hnd' := List.nodup_cons.mp hnd
    have hbc : b.1 ≠ c.1 := fun h => hnd'.1 (by rw [h]; simp)
    refine ⟨hp, by rw [setNext_data, hb], ?_⟩
    rw [setNext_of_ne m _ hbc]
    exact Chain.unlink hnd'.2 ht

/-- **Taking out.**  The same with the link of the successor cleared: it hangs loose, and outside the
list the memory is as before. -/
theorem Chain.take_out {m : NodeMem π α} {c d : π × α} {l r : List (π × α)} {p : Option π}
    (h : Chain m p (l ++ c :: d :: r)) :
    d.1 ≠ c.1 ∧ Chain (setNext (setNext m c.1 (m d.1).next) d.1 none) p (l ++ c :: r) ∧
      setNext (setNext m c.1 (m d.1).next) d.1 none d.1 = ⟨d.2, none⟩ ∧
      ∀ a, a ∉ addrs (l ++ c :: d :: r) → setNext (setNext m c.1 (m d.1).next) d.1 none a = m a := by
  have hc : c ∈ l ++ c :: d :: r := by simp
  have hd : d ∈ l ++ c :: d :: r := by simp
  have hnot : d.1 ∉ addrs (l ++ c :: r) := by
    have hnd := h.nodup
    rw [List.append_cons] at hnd ⊢
    exact notMem_addrs_of_nodup hnd
  have hne : d.1 ≠ c.1 := fun hdc => hnot (by rw [hdc]; exact List.mem_map_of_mem (by simp))
  refine ⟨hne, (h.unlink h.nodup).setNext_frame hnot, ?_, fun a ha => ?_⟩
  · rw [setNext_self, setNext_of_ne _ _ hne, h.data_eq hd]
  · rw [setNext_of_ne _ _ (ne_of_mem_of_notMem_addrs hd ha).symm,
      setNext_of_ne _ _ (ne_of_mem_of_notMem_addrs hc ha).symm]

end Edits

/-! ## 3. Loops -/

/-- The search loop: from `cur`, with the node before it in `prev`, to the first node whose
payload satisfies `P`, or to NULL.  The answer is `prev` and `cur` when the loop stops; `none`
when the fuel runs out. -/
def scan (m : NodeMem π α) (P : α → Bool) : ℕ → Option π → Option π →
    Option (Option π × Option π)
  | 0, _, _ => none
  | _ + 1, prev, none => some (prev, none)
  | n + 1, prev, some a =>
    if P (m a).data then some (prev, some a) else scan m P n (some a) (m a).next

/-- The walk `while (cur->next != NULL) cur = cur->next`. -/
def lastNode (m : NodeMem π α) : ℕ → π → Option π
  | 0, _ => none
  | n + 1, a =>
    match (m a).next with
    | none => some a
    | some b => lastNode m n b

/-- A search that finds nothing. -/
theorem Chain.scan_none {m : NodeMem π α} {P : α → Bool} :
    ∀ {l : List (π × α)} {n : ℕ} {q p : Option π}, Chain m p l → l.length < n →
      (∀ c ∈ l, P c.2 = false) → ∃ r, scan m P n q p = some (r, none)
  | [], n + 1, q, p, h, _, _ => by
    rw [show p = none from h]
    exact ⟨q, rfl⟩
  | c :: l, n + 1, q, p, ⟨hp, hd, ht⟩, hlen, hP => by
    obtain ⟨r, hr⟩ := Chain.scan_none (n := n) (q := some c.1) ht (by simpa using hlen)
      fun d hd => hP d (List.mem_cons_of_mem _ hd)
    refine ⟨r, ?_⟩
    rw [hp]
    unfold scan
    rw [hd, hP c List.mem_cons_self]
    exact hr

/-- A search that stops at the first match, with the node before it. -/
theorem Chain.scan_found {m : NodeMem π α} {P : α → Bool} {c : π × α} {r : List (π × α)} :
    ∀ {l : List (π × α)} {n : ℕ} {q p : Option π}, Chain m p (l ++ c :: r) →
      (l ++ c :: r).length < n → (∀ d ∈ l, P d.2 = false) → P c.2 = true →
      scan m P n q p = some (((addrs l).getLast?).or q, some c.1)
  | [], n + 1, q, p, ⟨hp, hd, _⟩, _, _, hc => by
    rw [hp]
    unfold scan
    rw [hd, hc]
    rfl
  | b :: l, n + 1, q, p, ⟨hp, hd, ht⟩, hlen, hl, hc => by
    have ih := Chain.scan_found (n := n) (q := some b.1) ht (by simpa using hlen)
      (fun d hd => hl d (List.mem_cons_of_mem _ hd)) hc
    rw [hp]
    unfold scan
    rw [hd, hl b List.mem_cons_self]
    refine ih.trans ?_
    cases l with
    | nil => rfl
    | cons d l => simp [addrs, List.getLast?_cons]

/-- The walk reaches the last node. -/
theorem Chain.lastNode_eq {m : NodeMem π α} {c : π × α} :
    ∀ {l : List (π × α)} {n : ℕ} {a : π}, Chain m (some a) (l ++ [c]) →
      (l ++ [c]).length < n → lastNode m n a = some c.1
  | [], n + 1, a, ⟨hp, _, ht⟩, _ => by
    unfold lastNode
    rw [Option.some.inj hp, show (m c.1).next = none from ht]
  | b :: l, n + 1, a, ⟨hp, _, ht⟩, hlen => by
    unfold lastNode
    rw [Option.some.inj hp]
    have hlen' : (l ++ [c]).length < n := by simpa using hlen
    have hstep : ∃ a', (m b.1).next = some a' := by
      cases l with
      | nil => exact ⟨_, ht.1⟩
      | cons d l => exact ⟨_, ht.1⟩
    obtain ⟨a', ha'⟩ := hstep
    rw [ha'] at ht ⊢
    exact Chain.lastNode_eq ht hlen'

/-! ## 4. Searches in any memory -/

/-- Following the links from `p` one passes the nodes at `l`, none of which satisfies `P`, and
comes to `b`, which does.  What comes after `b` does not matter: the list may well be circular. -/
def Leads (m : NodeMem π α) (P : α → Bool) : Option π → List π → π → Prop
  | p, [], b => p = some b ∧ P (m b).data = true
  | p, a :: l, b => p = some a ∧ P (m a).data = false ∧ Leads m P (m a).next l b

section Leads

variable {m : NodeMem π α} {P : α → Bool} {b b' : π}

theorem Leads.unique {l l' : List π} {p : Option π} (h : Leads m P p l b)
    (h' : Leads m P p l' b') : l = l' ∧ b = b' := by
  induction l generalizing p l' with
  | nil =>
    obtain ⟨rfl, hb⟩ := h
    cases l' with
    | nil => exact ⟨rfl, Option.some.inj h'.1⟩
    | cons a l' =>
      obtain ⟨hp, ha, -⟩ := h'
      obtain rfl := Option.some.inj hp
      exact absurd (hb.symm.trans ha) (by decide)
  | cons a l ih =>
    obtain ⟨rfl, ha, hrest⟩ := h
    cases l' with
    | nil =>
      obtain ⟨hp, hb'⟩ := h'
      obtain rfl := Option.some.inj hp
      exact absurd (hb'.symm.trans ha) (by decide)
    | cons a' l' =>
      obtain ⟨hp, -, hrest'⟩ := h'
      obtain rfl := Option.some.inj hp
      obtain ⟨rfl, rfl⟩ := ih hrest hrest'
      exact ⟨rfl, rfl⟩

theorem Leads.suffix {l l' : List π} {a : π} {p : Option π} (h : Leads m P p (l ++ a :: l') b) :
    Leads m P (some a) (a :: l') b := by
  induction l generalizing p with
  | nil => exact ⟨rfl, h.2⟩
  | cons c l ih => exact ih h.2.2

/-- **A search passes no node twice**: from there it would go round for ever. -/
theorem Leads.nodup {l : List π} {p : Option π} (h : Leads m P p l b) : l.Nodup := by
  induction l generalizing p with
  | nil => exact List.nodup_nil
  | cons a l ih =>
    refine List.nodup_cons.mpr ⟨fun hmem => ?_, ih h.2.2⟩
    obtain ⟨l₁, l₂, rfl⟩ := List.append_of_mem hmem
    have hagain : Leads m P (some a) (a :: l₂) b := h.2.2.suffix
    have hfirst : Leads m P (some a) (a :: (l₁ ++ a :: l₂)) b := ⟨rfl, h.2⟩
    have hlen := congrArg List.length (hagain.unique hfirst).1
    simp at hlen
    omega

theorem Leads.scan {l : List π} {n : ℕ} {q p : Option π} (h : Leads m P p l b)
    (hlen : l.length < n) : ∃ r, scan m P n q p = some (r, some b) := by
  induction l generalizing p n q with
  | nil =>
    obtain ⟨rfl, hb⟩ := h
    obtain ⟨k, rfl⟩ : ∃ k, n = k + 1 := ⟨n - 1, by simp at hlen; omega⟩
    exact ⟨q, by simp [Lib.scan, hb]⟩
  | cons a l ih =>
    obtain ⟨rfl, ha, hrest⟩ := h
    obtain ⟨k, rfl⟩ : ∃ k, n = k + 1 := ⟨n - 1, by simp at hlen; omega⟩
    obtain ⟨r, hr⟩ := ih (q := some a) hrest (by simpa using hlen)
    exact ⟨r, by simpa [Lib.scan, ha] using hr⟩

theorem leads_of_scan {n : ℕ} {q p r : Option π} (h : scan m P n q p = some (r, some b)) :
    ∃ l, Leads m P p l b := by
  induction n generalizing q p with
  | zero => exact absurd h (by simp [scan])
  | succ n ih =>
    cases p with
    | none => exact absurd h (by simp [scan])
    | some a =>
      unfold scan at h
      split at h
      · rename_i ha
        obtain rfl := Option.some.inj (Prod.mk.inj (Option.some.inj h)).2
        exact ⟨[], rfl, ha⟩
      · rename_i ha
        obtain ⟨l, hl⟩ := ih h
        exact ⟨a :: l, rfl, by simpa using ha, hl⟩

end Leads

end RmmAcs.Lib
