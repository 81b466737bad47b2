/-
# Trees of tables

A tree of tables maps addresses to leaves, as the translation tables of a processor do.  An entry is
invalid, or a leaf for the whole of its range, or a table, whose entries share the range evenly; so a
table has a depth, and the entries of all tables of one depth have ranges of one width.  Each table has
a name and a count, which says how many regions have been mapped through it.

A region is mapped by filling the invalid entries in it (`Fill`), and unmapped by clearing its leaves
(`Clear`).  Both say entry by entry what may happen to a tree, whatever the program that does it; and
from each follows what is then found at an address, and what holds of all entries of the tree.
-/
import Mathlib

namespace RmmAcs.Lib.Radix

/-! ## 1. Trees -/

/-- How many entries a table has, and the widths of the ranges. -/
structure Geometry where
  entries : ℕ
  width : ℕ → ℕ
  width_pos : ∀ d, 0 < width d
  width_succ : ∀ d, width (d + 1) = entries * width d

/-- An entry of a table. -/
inductive Entry (ι α : Type) where
  | invalid
  | leaf (a : α)
  | table (i : ι) (count : ℤ) (kids : ℕ → Entry ι α)

/-- A region: the addresses from the first up to, but not including, the second. -/
structure Span where
  lo : ℕ
  hi : ℕ

section Trees

variable (g : Geometry) {ι α : Type}

/-- The leaf for an address: its depth, where its range starts, and what it holds. -/
def Entry.find : Entry ι α → ℕ → ℕ → ℕ → Option (ℕ × ℕ × α)
  | .invalid, _, _, _ => none
  | .leaf a, d, lo, _ => some (d, lo, a)
  | .table .., 0, _, _ => none
  | .table _ _ kids, d + 1, lo, va =>
    let j := (va - lo) / g.width d
    (kids j).find d (lo + j * g.width d) va

/-- What is asked of all entries of a tree: `P` of the tables, by the depth of their entries, where
they start and their count; `Q` of the leaves; and `R` of the invalid entries. -/
def Entry.All (P : ℕ → ℕ → ℤ → Prop) (Q : ℕ → ℕ → α → Prop) (R : ℕ → ℕ → Prop) :
    Entry ι α → ℕ → ℕ → Prop
  | .invalid, d, lo => R d lo
  | .leaf a, d, lo => Q d lo a
  | .table .., 0, _ => False
  | .table _ c kids, d + 1, lo =>
    P d lo c ∧ ∀ j < g.entries, (kids j).All P Q R d (lo + j * g.width d)

/-- A table of that name is in the tree. -/
def Entry.Has (i : ι) : Entry ι α → Prop
  | .invalid => False
  | .leaf _ => False
  | .table i' _ kids => i = i' ∨ ∃ j < g.entries, (kids j).Has i

/-- No name comes twice. -/
def Entry.Sep : Entry ι α → Prop
  | .invalid => True
  | .leaf _ => True
  | .table i _ kids =>
    (∀ j < g.entries, ¬ (kids j).Has g i) ∧ (∀ j < g.entries, (kids j).Sep) ∧
      ∀ j < g.entries, ∀ k < g.entries, j ≠ k → ∀ x, (kids j).Has g x → ¬ (kids k).Has g x

end Trees

/-! ## 2. Ranges -/

namespace Span

variable (g : Geometry) (r : Span) (d lo : ℕ)

/-- An entry has an address of the region. -/
def Meets : Prop := r.lo < lo + g.width d ∧ lo < r.hi

/-- An entry lies in the region. -/
def Covers : Prop := r.lo ≤ lo ∧ lo + g.width d ≤ r.hi

instance : Decidable (r.Meets g d lo) := inferInstanceAs (Decidable (_ ∧ _))

instance : Decidable (r.Covers g d lo) := inferInstanceAs (Decidable (_ ∧ _))

instance : Membership ℕ Span := ⟨fun r va => r.lo ≤ va ∧ va < r.hi⟩

theorem mem_iff {r : Span} {va : ℕ} : va ∈ r ↔ r.lo ≤ va ∧ va < r.hi := Iff.rfl

instance (va : ℕ) : Decidable (va ∈ r) := inferInstanceAs (Decidable (_ ∧ _))

end Span

section Ranges

variable {g : Geometry} {d lo j va : ℕ} {r : Span}

/-- The entries of a table lie one behind the other. -/
theorem kid_before (g : Geometry) (d lo : ℕ) {k : ℕ} (hjk : j < k) :
    lo + j * g.width d + g.width d ≤ lo + k * g.width d := by
  rw [Nat.add_assoc, ← Nat.succ_mul]
  exact Nat.add_le_add_left (Nat.mul_le_mul_right _ hjk) _

/-- The range of an entry of a table lies in that of the table. -/
theorem kid_range (g : Geometry) (d lo : ℕ) (hj : j < g.entries) :
    lo ≤ lo + j * g.width d ∧ lo + j * g.width d + g.width d ≤ lo + g.width (d + 1) := by
  refine ⟨Nat.le_add_right .., ?_⟩
  rw [g.width_succ, Nat.add_assoc, ← Nat.succ_mul]
  exact Nat.add_le_add_left (Nat.mul_le_mul_right _ hj) _

/-- The entry of a table for an address. -/
theorem kid_index (g : Geometry) (h : lo ≤ va ∧ va < lo + g.width (d + 1)) :
    (va - lo) / g.width d < g.entries ∧ lo + (va - lo) / g.width d * g.width d ≤ va ∧
      va < lo + (va - lo) / g.width d * g.width d + g.width d := by
  rw [g.width_succ] at h
  have hdiv := Nat.div_add_mod' (va - lo) (g.width d)
  have hmod := Nat.mod_lt (va - lo) (g.width_pos d)
  refine ⟨Nat.div_lt_of_lt_mul (by rw [Nat.mul_comm]; omega), by omega, by omega⟩

theorem mem_of_covers (h : r.Covers g d lo) (hva : lo ≤ va ∧ va < lo + g.width d) : va ∈ r := by
  unfold Span.Covers at h
  rw [Span.mem_iff]
  omega

theorem not_mem_of_not_meets (h : ¬ r.Meets g d lo) (hva : lo ≤ va ∧ va < lo + g.width d) : va ∉ r := by
  unfold Span.Meets at h
  rw [Span.mem_iff]
  omega

end Ranges

section Find

variable {g : Geometry} {ι α : Type} {P P' : ℕ → ℕ → ℤ → Prop} {Q Q' : ℕ → ℕ → α → Prop}
  {R R' : ℕ → ℕ → Prop} {e : Entry ι α} {d lo va : ℕ}

/-- What a table finds is what its entry for the address finds. -/
theorem Entry.find_table {i : ι} {c : ℤ} {kids : ℕ → Entry ι α} {j : ℕ}
    (hlo : lo + j * g.width d ≤ va) (hhi : va < lo + j * g.width d + g.width d) :
    (Entry.table i c kids).find g (d + 1) lo va = (kids j).find g d (lo + j * g.width d) va := by
  have hidx : (va - lo) / g.width d = j := by
    rw [Nat.div_eq_iff (g.width_pos d)]
    omega
  dsimp only [Entry.find]
  rw [hidx]

/-- What is found is a leaf of the tree, in whose range the address is. -/
theorem Entry.All.find (h : e.All g P Q R d lo) (hva : lo ≤ va ∧ va < lo + g.width d)
    {d' lo' : ℕ} {a : α} (hfind : e.find g d lo va = some (d', lo', a)) :
    Q d' lo' a ∧ lo' ≤ va ∧ va < lo' + g.width d' := by
  induction e generalizing d lo with
  | invalid => cases hfind
  | leaf a =>
    cases hfind
    exact ⟨h, hva⟩
  | table i c kids ih =>
    cases d with
    | zero => cases hfind
    | succ d =>
      obtain ⟨hj, hrange⟩ := kid_index g hva
      exact ih _ (h.2 _ hj) hrange hfind

/-- The range of the leaf that is found lies in that of the tree. -/
theorem Entry.find_within (hva : lo ≤ va ∧ va < lo + g.width d) {d' lo' : ℕ} {a : α}
    (hfind : e.find g d lo va = some (d', lo', a)) : lo ≤ lo' ∧ lo' + g.width d' ≤ lo + g.width d := by
  induction e generalizing d lo with
  | invalid => cases hfind
  | leaf a =>
    cases hfind
    exact ⟨Nat.le_refl _, Nat.le_refl _⟩
  | table i c kids ih =>
    cases d with
    | zero => cases hfind
    | succ d =>
      obtain ⟨hj, hrange⟩ := kid_index g hva
      obtain ⟨hlo, hhi⟩ := ih _ hrange hfind
      obtain ⟨hlo', hhi'⟩ := kid_range g d lo hj
      exact ⟨hlo'.trans hlo, hhi.trans hhi'⟩

/-- The entries of a part of a tree all lie in its range. -/
theorem Entry.All.mono (h : e.All g P Q R d lo)
    (hP : ∀ d' lo' c, lo ≤ lo' → lo' + g.width (d' + 1) ≤ lo + g.width d → P d' lo' c → P' d' lo' c)
    (hQ : ∀ d' lo' a, lo ≤ lo' → lo' + g.width d' ≤ lo + g.width d → Q d' lo' a → Q' d' lo' a)
    (hR : ∀ d' lo', lo ≤ lo' → lo' + g.width d' ≤ lo + g.width d → R d' lo' → R' d' lo') :
    e.All g P' Q' R' d lo := by
  induction e generalizing d lo with
  | invalid => exact hR _ _ (Nat.le_refl _) (Nat.le_refl _) h
  | leaf a => exact hQ _ _ _ (Nat.le_refl _) (Nat.le_refl _) h
  | table i c kids ih =>
    cases d with
    | zero => exact h
    | succ d =>
      refine ⟨hP _ _ _ (Nat.le_refl _) (Nat.le_refl _) h.1, fun j hj => ih j (h.2 j hj) ?_ ?_ ?_⟩
      · exact fun d' lo' c hlo hhi => hP d' lo' c ((kid_range g d lo hj).1.trans hlo)
          (hhi.trans (kid_range g d lo hj).2)
      · exact fun d' lo' a hlo hhi => hQ d' lo' a ((kid_range g d lo hj).1.trans hlo)
          (hhi.trans (kid_range g d lo hj).2)
      · exact fun d' lo' hlo hhi => hR d' lo' ((kid_range g d lo hj).1.trans hlo)
          (hhi.trans (kid_range g d lo hj).2)

/-- The entries of a tree start at multiples of their widths, as the tree itself does. -/
theorem Entry.All.aligned (h : e.All g P Q R d lo) (hlo : g.width d ∣ lo) :
    e.All g (fun d lo c => P d lo c ∧ g.width (d + 1) ∣ lo) (fun d lo a => Q d lo a ∧ g.width d ∣ lo)
      (fun d lo => R d lo ∧ g.width d ∣ lo) d lo := by
  induction e generalizing d lo with
  | invalid => exact ⟨h, hlo⟩
  | leaf a => exact ⟨h, hlo⟩
  | table i c kids ih =>
    cases d with
    | zero => exact h
    | succ d =>
      have hwidth : g.width d ∣ g.width (d + 1) := g.width_succ d ▸ Nat.dvd_mul_left ..
      exact ⟨⟨h.1, hlo⟩, fun j hj => ih j (h.2 j hj) (Nat.dvd_add (hwidth.trans hlo) (Nat.dvd_mul_left ..))⟩

/-- A leaf is found all over its range. -/
theorem Entry.find_same {va' : ℕ} (hva : lo ≤ va ∧ va < lo + g.width d) {d' lo' : ℕ} {a : α}
    (hfind : e.find g d lo va = some (d', lo', a)) (hva' : lo' ≤ va' ∧ va' < lo' + g.width d') :
    e.find g d lo va' = some (d', lo', a) := by
  induction e generalizing d lo with
  | invalid => cases hfind
  | leaf a => exact hfind
  | table i c kids ih =>
    cases d with
    | zero => cases hfind
    | succ d =>
      obtain ⟨-, hrange⟩ := kid_index g hva
      have hwithin : lo + (va - lo) / g.width d * g.width d ≤ lo' ∧
          lo' + g.width d' ≤ lo + (va - lo) / g.width d * g.width d + g.width d :=
        (kids _).find_within hrange hfind
      rw [Entry.find_table (hwithin.1.trans hva'.1) (Nat.lt_of_lt_of_le hva'.2 hwithin.2)]
      exact ih _ hrange hfind

end Find

/-! ## 3. Filling a region -/

section Filling

variable (g : Geometry) {ι α : Type} (r : Span) (stop : ℕ) (ok : ℕ → ℕ → Prop) (new : ℕ → ℕ → α)

/-- A table is entered before the filling stops; the tables whose entries are all leaves are entered
only if the filling goes on. -/
def Visits (d lo : ℕ) : Prop := r.Meets g (d + 1) lo ∧ (lo < stop ∨ lo = stop ∧ 0 < d)

/-- **Filling a region**, up to where it stops: an invalid entry in the region becomes a leaf, where
there can be one, or a table that is filled; a table is filled and counts one more; and a leaf stays. -/
inductive Fill : ℕ → ℕ → Entry ι α → Entry ι α → Prop where
  | same {d lo : ℕ} {e : Entry ι α} (h : ¬ r.Meets g d lo ∨ stop ≤ lo) : Fill d lo e e
  | kept {d lo : ℕ} {a : α} : Fill d lo (.leaf a) (.leaf a)
  | write {d lo : ℕ} (h : r.Covers g d lo) (hok : ok d lo) (hstop : lo + g.width d ≤ stop) :
      Fill d lo .invalid (.leaf (new d lo))
  | create {d lo : ℕ} {i : ι} {kids' : ℕ → Entry ι α} (h : Visits g r stop d lo)
      (hk : ∀ j < g.entries, Fill d (lo + j * g.width d) .invalid (kids' j)) :
      Fill (d + 1) lo .invalid (.table i 1 kids')
  | recurse {d lo : ℕ} {i : ι} {c : ℤ} {kids kids' : ℕ → Entry ι α} (h : Visits g r stop d lo)
      (hk : ∀ j < g.entries, Fill d (lo + j * g.width d) (kids j) (kids' j)) :
      Fill (d + 1) lo (.table i c kids) (.table i (c + 1) kids')

variable {g r stop ok new} {e e' : Entry ι α} {d lo va : ℕ} {P P' : ℕ → ℕ → ℤ → Prop}
  {Q Q' : ℕ → ℕ → α → Prop} {R R' : ℕ → ℕ → Prop}

/-- **What is found after filling**: a new leaf where nothing was found, and what was found before
elsewhere. -/
theorem Fill.find (h : Fill g r stop ok new d lo e e') (hva : lo ≤ va ∧ va < lo + g.width d) :
    (va ∈ r ∧ va < stop ∧ e.find g d lo va = none → ∃ d' lo', e'.find g d lo va
        = some (d', lo', new d' lo') ∧ r.Covers g d' lo' ∧ ok d' lo') ∧
      (¬ (va ∈ r ∧ va < stop ∧ e.find g d lo va = none) → e'.find g d lo va = e.find g d lo va) := by
  induction h with
  | same h =>
    refine ⟨fun ⟨hr, hlt, _⟩ => ?_, fun _ => rfl⟩
    rcases h with h | h
    · exact absurd hr (not_mem_of_not_meets h hva)
    · omega
  | kept => exact ⟨fun ⟨_, _, hnone⟩ => absurd hnone (Option.some_ne_none _), fun _ => rfl⟩
  | write h hok hstop =>
    refine ⟨fun _ => ⟨_, _, rfl, h, hok⟩, fun hno => absurd ⟨mem_of_covers h hva, ?_, rfl⟩ hno⟩
    omega
  | create _ _ ih =>
    obtain ⟨hj, hrange⟩ := kid_index g hva
    exact ih _ hj hrange
  | recurse _ _ ih =>
    obtain ⟨hj, hrange⟩ := kid_index g hva
    exact ih _ hj hrange

/-- For an entry that is filled to its end it makes no difference where the filling stops. -/
theorem Fill.restop {stop' : ℕ} (h : Fill g r stop ok new d lo e e') (hstop : lo + g.width d ≤ stop)
    (hstop' : lo + g.width d ≤ stop') : Fill g r stop' ok new d lo e e' := by
  have hvisits : ∀ {d lo : ℕ}, Visits g r stop d lo → lo + g.width (d + 1) ≤ stop' →
      Visits g r stop' d lo := by
    intro d lo h hle
    have hwidth := g.width_pos (d + 1)
    exact ⟨h.1, Or.inl (by omega)⟩
  induction h with
  | @same d lo e h =>
    have hwidth := g.width_pos d
    exact .same (h.imp_right fun h => by omega)
  | kept => exact .kept
  | write h hok _ => exact .write h hok hstop'
  | @create d lo i kids' h _ ih =>
    refine .create (hvisits h hstop') fun j hj => ih j hj ?_ ?_
    · exact (kid_range g d lo hj).2.trans hstop
    · exact (kid_range g d lo hj).2.trans hstop'
  | @recurse d lo i c kids kids' h _ ih =>
    refine .recurse (hvisits h hstop') fun j hj => ih j hj ?_ ?_
    · exact (kid_range g d lo hj).2.trans hstop
    · exact (kid_range g d lo hj).2.trans hstop'

/-- **All entries after filling.** -/
theorem Fill.all (h : Fill g r stop ok new d lo e e') (he : e.All g P Q R d lo)
    (hP : ∀ d lo c, ¬ r.Meets g (d + 1) lo ∨ stop ≤ lo → P d lo c → P' d lo c)
    (hvisit : ∀ d lo c, Visits g r stop d lo → P d lo c → P' d lo (c + 1))
    (hcreate : ∀ d lo, Visits g r stop d lo → R (d + 1) lo → P' d lo 1)
    (hQ : ∀ d lo a, Q d lo a → Q' d lo a)
    (hnew : ∀ d lo, r.Covers g d lo → ok d lo → lo + g.width d ≤ stop → R d lo → Q' d lo (new d lo))
    (hR : ∀ d lo, ¬ r.Meets g d lo ∨ stop ≤ lo → R d lo → R' d lo)
    (hdown : ∀ d lo, R (d + 1) lo → ∀ j < g.entries, R d (lo + j * g.width d)) :
    e'.All g P' Q' R' d lo := by
  induction h with
  | same h =>
    refine he.mono (fun d' lo' c hlo hhi => hP d' lo' c ?_) (fun d' lo' a _ _ => hQ d' lo' a)
      (fun d' lo' hlo hhi => hR d' lo' ?_)
    · unfold Span.Meets at h ⊢
      omega
    · unfold Span.Meets at h ⊢
      omega
  | kept => exact hQ _ _ _ he
  | write h hok hstop => exact hnew _ _ h hok hstop he
  | create h _ ih => exact ⟨hcreate _ _ h he, fun j hj => ih j hj (hdown _ _ he j hj)⟩
  | recurse h _ ih => exact ⟨hvisit _ _ _ h he.1, fun j hj => ih j hj (he.2 j hj)⟩

end Filling

/-! ## 4. Clearing a region -/

section Clearing

variable (g : Geometry) {ι α : Type} (r : Span)

/-- **Clearing a region**: a leaf in the region becomes invalid; a table is cleared and counts one
less, and is given up if that is 0 and it holds nothing any more. -/
inductive Clear : ℕ → ℕ → Entry ι α → Entry ι α → Prop where
  | same {d lo : ℕ} {e : Entry ι α} (h : ¬ r.Meets g d lo) : Clear d lo e e
  | erase {d lo : ℕ} {a : α} (h : r.Covers g d lo) : Clear d lo (.leaf a) .invalid
  | keep {d lo : ℕ} {i : ι} {c : ℤ} {kids kids' : ℕ → Entry ι α} (h : r.Meets g (d + 1) lo)
      (hc : c ≠ 1) (hk : ∀ j < g.entries, Clear d (lo + j * g.width d) (kids j) (kids' j)) :
      Clear (d + 1) lo (.table i c kids) (.table i (c - 1) kids')
  | drop {d lo : ℕ} {i : ι} {kids kids' : ℕ → Entry ι α} (h : r.Meets g (d + 1) lo)
      (hk : ∀ j < g.entries, Clear d (lo + j * g.width d) (kids j) (kids' j))
      (hnone : ∀ j < g.entries, kids' j = .invalid) : Clear (d + 1) lo (.table i 1 kids) .invalid

/-- An entry of which clearing leaves nothing. -/
abbrev Entry.Dies (e : Entry ι α) (d lo : ℕ) : Prop :=
  e.All g (fun d lo c => c = 1 ∧ r.Meets g (d + 1) lo) (fun d lo _ => r.Covers g d lo)
    (fun _ _ => True) d lo

/-- **An entry that can be cleared**: no invalid entry is in the region, the leaves that meet it lie in
it, and nothing is left of the tables that are given up. -/
def Entry.Ready : Entry ι α → ℕ → ℕ → Prop
  | .invalid, d, lo => ¬ r.Meets g d lo
  | .leaf _, d, lo => r.Meets g d lo → r.Covers g d lo
  | .table .., 0, _ => False
  | .table _ c kids, d + 1, lo =>
    0 < c ∧ (c = 1 → r.Meets g (d + 1) lo → ∀ j < g.entries, (kids j).Dies g r d (lo + j * g.width d)) ∧
      ∀ j < g.entries, (kids j).Ready d (lo + j * g.width d)

variable {g r} {e e' : Entry ι α} {d lo va : ℕ} {P P' : ℕ → ℕ → ℤ → Prop}
  {Q Q' : ℕ → ℕ → α → Prop} {R R' : ℕ → ℕ → Prop}

theorem meets_of_covers (h : r.Covers g d lo) : r.Meets g d lo := by
  have hwidth := g.width_pos d
  unfold Span.Covers at h
  unfold Span.Meets
  omega

theorem Clear.dies (h : Clear g r d lo e e') (he : e.Dies g r d lo) : e' = .invalid := by
  cases h with
  | same h =>
    cases e with
    | invalid => rfl
    | leaf a => exact absurd (meets_of_covers he) h
    | table i c kids =>
      cases d with
      | zero => exact he.elim
      | succ d => exact absurd he.1.2 h
  | erase _ => rfl
  | keep _ hc _ => exact absurd he.1.1 hc
  | drop _ _ _ => rfl

/-- **A tree can be cleared** if its entries can, and nothing is left of the tables that are given up. -/
theorem Entry.All.ready (h : e.All g P Q R d lo) (hP : ∀ d lo c, P d lo c → 0 < c)
    (hQ : ∀ d lo a, Q d lo a → r.Meets g d lo → r.Covers g d lo) (hR : ∀ d lo, R d lo → ¬ r.Meets g d lo)
    (hdies : ∀ d lo, P d lo 1 → r.Meets g (d + 1) lo → ∀ e : Entry ι α, ∀ j < g.entries,
      e.All g P Q R d (lo + j * g.width d) → e.Dies g r d (lo + j * g.width d)) :
    e.Ready g r d lo := by
  induction e generalizing d lo with
  | invalid => exact hR _ _ h
  | leaf a => exact hQ _ _ _ h
  | table i c kids ih =>
    cases d with
    | zero => exact h
    | succ d =>
      refine ⟨hP _ _ _ h.1, fun hc hmeets j hj => ?_, fun j hj => ih j (h.2 j hj)⟩
      exact hdies d lo (hc ▸ h.1) hmeets (kids j) j hj (h.2 j hj)

/-- **What is found after clearing**: nothing in the region, and what was found before elsewhere. -/
theorem Clear.find (h : Clear g r d lo e e') (hva : lo ≤ va ∧ va < lo + g.width d) :
    e'.find g d lo va = if va ∈ r then none else e.find g d lo va := by
  induction h with
  | same h => rw [if_neg (not_mem_of_not_meets h hva)]
  | erase h =>
    rw [if_pos (mem_of_covers h hva)]
    rfl
  | keep _ _ _ ih =>
    obtain ⟨hj, hrange⟩ := kid_index g hva
    exact ih _ hj hrange
  | @drop d lo i kids kids' _ _ hnone ih =>
    obtain ⟨hj, hrange⟩ := kid_index g hva
    have hfind := ih _ hj hrange
    rw [hnone _ hj] at hfind
    exact hfind

/-- **All entries after clearing.** -/
theorem Clear.all (h : Clear g r d lo e e') (he : e.All g P Q R d lo)
    (hP : ∀ d lo c, ¬ r.Meets g (d + 1) lo → P d lo c → P' d lo c)
    (hkeep : ∀ d lo c, r.Meets g (d + 1) lo → c ≠ 1 → P d lo c → P' d lo (c - 1))
    (hdrop : ∀ d lo, r.Meets g (d + 1) lo → P d lo 1 → R' (d + 1) lo)
    (hQ : ∀ d lo a, ¬ r.Meets g d lo → Q d lo a → Q' d lo a)
    (herase : ∀ d lo a, r.Covers g d lo → Q d lo a → R' d lo)
    (hR : ∀ d lo, ¬ r.Meets g d lo → R d lo → R' d lo) : e'.All g P' Q' R' d lo := by
  induction h with
  | same h =>
    refine he.mono (fun d' lo' c hlo hhi => hP d' lo' c ?_) (fun d' lo' a hlo hhi => hQ d' lo' a ?_)
      (fun d' lo' hlo hhi => hR d' lo' ?_)
    · unfold Span.Meets at h ⊢
      omega
    · unfold Span.Meets at h ⊢
      omega
    · unfold Span.Meets at h ⊢
      omega
  | erase h => exact herase _ _ _ h he
  | keep h hc _ ih => exact ⟨hkeep _ _ _ h hc he.1, fun j hj => ih j hj (he.2 j hj)⟩
  | drop h _ _ _ => exact hdrop _ _ h he.1

end Clearing

/-! ## 5. Replacing a leaf -/

section Replacing

variable (g : Geometry) {ι α : Type}

/-- The leaf for an address is replaced, if there is one. -/
def Entry.put (a' : α) : Entry ι α → ℕ → ℕ → ℕ → Entry ι α
  | .invalid, _, _, _ => .invalid
  | .leaf _, _, _, _ => .leaf a'
  | .table i c kids, 0, _, _ => .table i c kids
  | .table i c kids, d + 1, lo, va =>
    let j := (va - lo) / g.width d
    .table i c (Function.update kids j ((kids j).put a' d (lo + j * g.width d) va))

variable {g} {P : ℕ → ℕ → ℤ → Prop} {Q : ℕ → ℕ → α → Prop} {R : ℕ → ℕ → Prop} {e : Entry ι α}
  {d lo va va' : ℕ} {a' : α}

/-- **What is found after a leaf has been replaced**: the new leaf in its range. -/
theorem Entry.find_put (hva : lo ≤ va ∧ va < lo + g.width d) (hva' : lo ≤ va' ∧ va' < lo + g.width d)
    {d' lo' : ℕ} {a : α} (hfind : e.find g d lo va = some (d', lo', a)) :
    (e.put g a' d lo va).find g d lo va' =
      if lo' ≤ va' ∧ va' < lo' + g.width d' then some (d', lo', a') else e.find g d lo va' := by
  induction e generalizing d lo with
  | invalid => cases hfind
  | leaf a =>
    cases hfind
    rw [if_pos hva']
    rfl
  | table i c kids ih =>
    cases d with
    | zero => cases hfind
    | succ d =>
      obtain ⟨hj, hrange⟩ := kid_index g hva
      obtain ⟨hj', hrange'⟩ := kid_index g hva'
      have hleaf : lo + (va - lo) / g.width d * g.width d ≤ lo' ∧
          lo' + g.width d' ≤ lo + (va - lo) / g.width d * g.width d + g.width d :=
        (kids _).find_within hrange hfind
      rw [Entry.put, Entry.find_table hrange'.1 hrange'.2, Entry.find_table hrange'.1 hrange'.2]
      by_cases hsame : (va' - lo) / g.width d = (va - lo) / g.width d
      · rw [hsame] at hrange' ⊢
        rw [Function.update_self]
        exact ih _ hrange hrange' hfind
      · rw [Function.update_of_ne hsame, if_neg]
        rintro ⟨hlo', hhi'⟩
        rcases Nat.lt_or_gt_of_ne hsame with hlt | hlt
        · have hbefore := kid_before g d lo hlt
          omega
        · have hbefore := kid_before g d lo hlt
          omega

/-- **All entries after a leaf has been replaced.** -/
theorem Entry.All.put (h : e.All g P Q R d lo) (hva : lo ≤ va ∧ va < lo + g.width d)
    (hQ : ∀ d' lo' a, e.find g d lo va = some (d', lo', a) → Q d' lo' a → Q d' lo' a') :
    (e.put g a' d lo va).All g P Q R d lo := by
  induction e generalizing d lo with
  | invalid => exact h
  | leaf a => exact hQ d lo a rfl h
  | table i c kids ih =>
    cases d with
    | zero => exact h
    | succ d =>
      obtain ⟨hj, hrange⟩ := kid_index g hva
      refine ⟨h.1, fun k hk => ?_⟩
      by_cases hkj : k = (va - lo) / g.width d
      · subst hkj
        rw [Function.update_self]
        exact ih _ (h.2 _ hj) hrange hQ
      · rw [Function.update_of_ne hkj]
        exact h.2 k hk

end Replacing

end RmmAcs.Lib.Radix
