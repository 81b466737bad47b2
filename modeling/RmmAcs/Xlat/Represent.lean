/-
# Tables in memory as trees

A descriptor that points to a table stands for the tree below it (`Repr`).  A table holds such a tree
for each of its entries if no table of the array comes twice in it, and all of them are in use
(`TableHolds`); the tables that are not in use hold nothing (`FreeClean`).

What goes through a table changes that table, the tables below it, and tables that were not in use;
and it leaves a table that holds trees again (`Advance`).
-/
import RmmAcs.Lib.Radix
import RmmAcs.Xlat.Tables

namespace RmmAcs.Xlat

open Lib.Radix

/-! ## 1. Levels as depths -/

/-- Tables of 512 entries, and pages of 4 KB. -/
def geometry : Geometry where
  entries := XLAT_TABLE_ENTRIES
  width d := 2 ^ (PAGE_SIZE_SHIFT + 9 * d)
  width_pos _ := Nat.two_pow_pos _
  width_succ d := by
    have h512 : XLAT_TABLE_ENTRIES = 2 ^ 9 := rfl
    rw [h512, ← pow_add]
    congr 1
    omega

theorem blockSize_eq {d : ℕ} (hd : d ≤ 3) : xlatBlockSize (XLAT_TABLE_LEVEL_MAX - d) = geometry.width d := by
  have hsub : XLAT_TABLE_LEVEL_MAX - (XLAT_TABLE_LEVEL_MAX - d) = d := Nat.sub_sub_self hd
  rw [xlatBlockSize_eq, xlatAddrShift, hsub, Nat.mul_comm]
  rfl

theorem width_zero : geometry.width 0 = PAGE_SIZE := rfl

theorem width_dvd {d d' : ℕ} (h : d ≤ d') : geometry.width d ∣ geometry.width d' :=
  pow_dvd_pow 2 (Nat.add_le_add_left (Nat.mul_le_mul_left 9 h) _)

theorem pageSize_dvd_width (d : ℕ) : PAGE_SIZE ∣ geometry.width d := width_dvd (Nat.zero_le d)

theorem leafType_zero : leafType (XLAT_TABLE_LEVEL_MAX - 0) = PAGE_DESC := rfl

theorem leafType_succ {d : ℕ} (hd : d + 1 ≤ 3) :
    leafType (XLAT_TABLE_LEVEL_MAX - (d + 1)) = BLOCK_DESC := by
  refine if_neg ?_
  unfold XLAT_TABLE_LEVEL_MAX
  omega

/-! ## 2. Descriptors of tables -/

section Descriptors

variable {n : ℕ} {c : Layout n}

theorem table_type (i : Fin n) : (TABLE_DESC ||| c.addr i) &&& DESC_MASK = TABLE_DESC := by
  rw [or_and, (c.addr_within i).and_eq_zero (by decide), UInt64.or_zero]
  rfl

theorem table_addr (i : Fin n) : (TABLE_DESC ||| c.addr i) &&& TABLE_ADDR_MASK = c.addr i := by
  have htype : TABLE_DESC &&& TABLE_ADDR_MASK = 0 := by decide
  have haddr : c.addr i &&& TABLE_ADDR_MASK = c.addr i := c.addr_within i
  rw [or_and, htype, haddr, UInt64.zero_or]

theorem subtable_table (i : Fin n) : subtable c (TABLE_DESC ||| c.addr i) = some i := by
  rw [subtable, table_addr]
  refine (List.find?_eq_some_iff_append.mpr ?_)
  obtain ⟨as, bs, happ⟩ := List.append_of_mem (List.mem_finRange i)
  refine ⟨decide_eq_true rfl, as, bs, happ, fun k hk => ?_⟩
  have hnodup : (as ++ i :: bs).Nodup := happ ▸ List.nodup_finRange n
  rw [Bool.not_eq_true', decide_eq_false_iff_not]
  intro haddr
  have hki : k = i := c.addr_injective haddr
  exact (List.nodup_append.mp hnodup).2.2 k hk i (List.mem_cons_self ..) hki

end Descriptors

/-! ## 3. What a table holds -/

/-- The trees of tables. -/
abbrev Node (n : ℕ) := Entry (Fin n) UInt64

section Holds

variable {n : ℕ} (c : Layout n)

/-- A descriptor in a table whose entries have a depth stands for a tree. -/
def Repr (s : Tables n) : Node n → ℕ → UInt64 → Prop
  | .invalid, _, x => x = INVALID_DESC
  | .leaf a, d, x => x = a ∧ a &&& DESC_MASK = leafType (XLAT_TABLE_LEVEL_MAX - d)
  | .table .., 0, _ => False
  | .table i count kids, d + 1, x =>
    x = TABLE_DESC ||| c.addr i ∧ s.mappedRegions i = count ∧
      ∀ j < XLAT_TABLE_ENTRIES, Repr s (kids j) d (s.desc (some i) j)

/-- A table of so many entries holds trees. -/
structure TableHolds (s : Tables n) (t : TableRef n) (entries d : ℕ) (kids : ℕ → Node n) : Prop where
  repr : ∀ j < entries, Repr c s (kids j) d (s.desc t j)
  sep : ∀ j < entries, (kids j).Sep geometry
  apart : ∀ j < entries, ∀ k < entries, j ≠ k →
    ∀ i, (kids j).Has geometry i → ¬ (kids k).Has geometry i
  own : ∀ j < entries, ∀ i, (kids j).Has geometry i → t ≠ some i
  used : ∀ j < entries, ∀ i, (kids j).Has geometry i → 0 < s.mappedRegions i
  self : ∀ i, t = some i → 0 < s.mappedRegions i

/-- The tables that are not in use hold nothing. -/
def FreeClean (s : Tables n) : Prop :=
  ∀ i, s.mappedRegions i = 0 → ∀ j < XLAT_TABLE_ENTRIES, s.desc (some i) j = INVALID_DESC

/-- What may have changed behind a table: the tables below it, and those not in use. -/
def Behind (s : Tables n) (entries : ℕ) (kids : ℕ → Node n) (i : Fin n) : Prop :=
  (∃ j < entries, (kids j).Has geometry i) ∨ s.mappedRegions i = 0

/-- **Going through a table.** -/
structure Advance (t : TableRef n) (entries d : ℕ) (s : Tables n) (kids : ℕ → Node n) (s' : Tables n)
    (kids' : ℕ → Node n) : Prop where
  holds : TableHolds c s' t entries d kids'
  descs : ∀ t', t' ≠ t → (∀ i, t' = some i → ¬ Behind s entries kids i) → s'.desc t' = s.desc t'
  counts : ∀ i, ¬ Behind s entries kids i → s'.mappedRegions i = s.mappedRegions i
  names : ∀ j < entries, ∀ i, (kids' j).Has geometry i → Behind s entries kids i

variable {c} {s s' s'' : Tables n} {t : TableRef n} {entries d : ℕ} {kids kids' kids'' : ℕ → Node n}

/-- A tree depends on its own tables only. -/
theorem Repr.congr {e : Node n} {x : UInt64} (h : Repr c s e d x)
    (hsame : ∀ i, e.Has geometry i →
      s'.desc (some i) = s.desc (some i) ∧ s'.mappedRegions i = s.mappedRegions i) :
    Repr c s' e d x := by
  induction e generalizing d x with
  | invalid => exact h
  | leaf a => exact h
  | table i count kids ih =>
    cases d with
    | zero => exact h
    | succ d =>
      obtain ⟨hx, hcount, hkids⟩ := h
      obtain ⟨hdesc, hregions⟩ := hsame i (Or.inl rfl)
      refine ⟨hx, hregions.trans hcount, fun j hj => ?_⟩
      rw [hdesc]
      exact ih j (hkids j hj) fun i' hi' => hsame i' (Or.inr ⟨j, hj, hi'⟩)

/-- The type of a descriptor, by what it stands for. -/
def nodeType (d : ℕ) : Node n → UInt64
  | .invalid => INVALID_DESC
  | .leaf _ => leafType (XLAT_TABLE_LEVEL_MAX - d)
  | .table .. => TABLE_DESC

theorem Repr.type {e : Node n} {x : UInt64} (h : Repr c s e d x) : x &&& DESC_MASK = nodeType d e := by
  cases e with
  | invalid =>
    obtain rfl : x = INVALID_DESC := h
    rfl
  | leaf a =>
    obtain ⟨rfl, htype⟩ := h
    exact htype
  | table i count kids =>
    cases d with
    | zero => cases h
    | succ d =>
      obtain ⟨rfl, -⟩ := h
      exact table_type i

theorem Advance.refl (h : TableHolds c s t entries d kids) : Advance c t entries d s kids s kids where
  holds := h
  descs _ _ _ := rfl
  counts _ _ := rfl
  names j hj _ hi := Or.inl ⟨j, hj, hi⟩

theorem Advance.behind (h : Advance c t entries d s kids s' kids') {i : Fin n}
    (hi : Behind s' entries kids' i) : Behind s entries kids i := by
  rcases hi with ⟨j, hj, hhas⟩ | hzero
  · exact h.names j hj i hhas
  · by_contra hno
    exact hno (Or.inr ((h.counts i hno).symm.trans hzero))

theorem Advance.trans (h : Advance c t entries d s kids s' kids')
    (h' : Advance c t entries d s' kids' s'' kids'') : Advance c t entries d s kids s'' kids'' where
  holds := h'.holds
  descs t' ht hno :=
    (h'.descs t' ht fun i hi hb => hno i hi (h.behind hb)).trans (h.descs t' ht hno)
  counts i hno := (h'.counts i fun hb => hno (h.behind hb)).trans (h.counts i hno)
  names j hj i hi := h.behind (h'.names j hj i hi)

/-- **One entry** of a table is replaced. -/
theorem TableHolds.advance (h : TableHolds c s t entries d kids) {idx : ℕ} (hidx : idx < entries)
    {e' : Node n}
    (hdescs : ∀ t', t' ≠ t → (∀ i, t' = some i →
      ¬ (kids idx).Has geometry i ∧ s.mappedRegions i ≠ 0) → s'.desc t' = s.desc t')
    (hsame : ∀ j < entries, j ≠ idx → s'.desc t j = s.desc t j)
    (hcounts : ∀ i, ¬ (kids idx).Has geometry i → s.mappedRegions i ≠ 0 →
      s'.mappedRegions i = s.mappedRegions i)
    (hrepr : Repr c s' e' d (s'.desc t idx)) (hsep : e'.Sep geometry)
    (hnames : ∀ i, e'.Has geometry i → (kids idx).Has geometry i ∨ s.mappedRegions i = 0)
    (hused : ∀ i, e'.Has geometry i → 0 < s'.mappedRegions i) :
    Advance c t entries d s kids s' (Function.update kids idx e') := by
  -- the tables of the other entries, and the table itself, have not changed
  have hother : ∀ j < entries, j ≠ idx → ∀ i, (kids j).Has geometry i →
      ¬ (kids idx).Has geometry i ∧ s.mappedRegions i ≠ 0 := fun j hj hne i hi =>
    ⟨h.apart j hj idx hidx hne i hi, (h.used j hj i hi).ne'⟩
  have hself : ∀ i, t = some i → ¬ (kids idx).Has geometry i ∧ s.mappedRegions i ≠ 0 := fun i hi =>
    ⟨fun hhas => h.own idx hidx i hhas hi, (h.self i hi).ne'⟩
  have hnew : ∀ j < entries, j ≠ idx → ∀ i, e'.Has geometry i → ¬ (kids j).Has geometry i := by
    intro j hj hne i hi hhas
    obtain ⟨hno, hzero⟩ := hother j hj hne i hhas
    exact (hnames i hi).elim hno hzero
  refine ⟨⟨fun j hj => ?_, fun j hj => ?_, fun j hj k hk hne i hi => ?_, fun j hj i hi => ?_,
    fun j hj i hi => ?_, fun i hi => ?_⟩, fun t' ht hno => hdescs t' ht fun i hi => ?_,
    fun i hno => ?_, fun j hj i hi => ?_⟩
  · by_cases hji : j = idx
    · rw [hji, Function.update_self]
      exact hrepr
    · rw [Function.update_of_ne hji, hsame j hj hji]
      refine (h.repr j hj).congr fun i hi => ?_
      obtain ⟨hno, hzero⟩ := hother j hj hji i hi
      refine ⟨hdescs _ (fun ht => h.own j hj i hi ht.symm) fun i' hi' => ?_, hcounts i hno hzero⟩
      cases hi'
      exact ⟨hno, hzero⟩
  · by_cases hji : j = idx
    · rw [hji, Function.update_self]
      exact hsep
    · rw [Function.update_of_ne hji]
      exact h.sep j hj
  · by_cases hji : j = idx
    · subst hji
      rw [Function.update_self] at hi
      rw [Function.update_of_ne hne.symm]
      exact hnew k hk hne.symm i hi
    · rw [Function.update_of_ne hji] at hi
      by_cases hki : k = idx
      · rw [hki, Function.update_self]
        exact fun hhas => hnew j hj hji i hhas hi
      · rw [Function.update_of_ne hki]
        exact h.apart j hj k hk hne i hi
  · by_cases hji : j = idx
    · rw [hji, Function.update_self] at hi
      intro ht
      obtain ⟨hno, hzero⟩ := hself i ht
      exact (hnames i hi).elim hno hzero
    · rw [Function.update_of_ne hji] at hi
      exact h.own j hj i hi
  · by_cases hji : j = idx
    · rw [hji, Function.update_self] at hi
      exact hused i hi
    · rw [Function.update_of_ne hji] at hi
      obtain ⟨hno, hzero⟩ := hother j hj hji i hi
      rw [hcounts i hno hzero]
      exact h.used j hj i hi
  · obtain ⟨hno, hzero⟩ := hself i hi
    rw [hcounts i hno hzero]
    exact h.self i hi
  · have hb := hno i hi
    exact ⟨fun hhas => hb (Or.inl ⟨idx, hidx, hhas⟩), fun hzero => hb (Or.inr hzero)⟩
  · exact hcounts i (fun hhas => hno (Or.inl ⟨idx, hidx, hhas⟩)) fun hzero => hno (Or.inr hzero)
  · by_cases hji : j = idx
    · rw [hji, Function.update_self] at hi
      exact (hnames i hi).imp_left fun hhas => ⟨idx, hidx, hhas⟩
    · rw [Function.update_of_ne hji] at hi
      exact Or.inl ⟨j, hj, hi⟩

/-- An entry is overwritten by a leaf, or becomes invalid. -/
theorem TableHolds.set (h : TableHolds c s t entries d kids) {idx : ℕ} (hidx : idx < entries)
    {e' : Node n} {x : UInt64} (hrepr : Repr c (s.set t idx x) e' d x)
    (hbare : ∀ i count kids, e' ≠ .table i count kids) :
    Advance c t entries d s kids (s.set t idx x) (Function.update kids idx e') := by
  have hnames : ∀ i, ¬ e'.Has geometry i := by
    intro i hi
    cases e' with
    | invalid => exact hi
    | leaf a => exact hi
    | table i count kids => exact hbare i count kids rfl
  have hsep : e'.Sep geometry := by
    cases e' with
    | invalid => trivial
    | leaf a => trivial
    | table i count kids => exact absurd rfl (hbare i count kids)
  refine h.advance hidx (fun t' ht _ => s.set_table t idx x ht) (fun j _ hj => s.set_idx t idx x hj)
    (fun _ _ _ => rfl) ?_ hsep (fun i hi => absurd hi (hnames i)) fun i hi => absurd hi (hnames i)
  rw [Tables.set_same]
  exact hrepr

end Holds

/-! ## 4. Into a table and out of it -/

/-- **Into a table**: an entry points to it, and it holds trees again; what has changed is the entry
and the count of the table. -/
structure Entered {n : ℕ} (c : Layout n) (t : TableRef n) (entries idx d : ℕ) (s : Tables n)
    (kids : ℕ → Node n) (s₁ : Tables n) (i : Fin n) (sub : ℕ → Node n) : Prop where
  name : (kids idx).Has geometry i ∨ s.mappedRegions i = 0
  below : ∀ j < XLAT_TABLE_ENTRIES, ∀ k, (sub j).Has geometry k → (kids idx).Has geometry k
  descs : ∀ t', t' ≠ t → s₁.desc t' = s.desc t'
  same : ∀ j, j ≠ idx → s₁.desc t j = s.desc t j
  counts : ∀ k, k ≠ i → s₁.mappedRegions k = s.mappedRegions k
  desc : s₁.desc t idx = TABLE_DESC ||| c.addr i
  holds : TableHolds c s₁ (some i) XLAT_TABLE_ENTRIES d sub

section Descend

variable {n : ℕ} {c : Layout n} {s s₁ s₂ s₃ : Tables n} {t : TableRef n} {entries d idx : ℕ}
  {kids sub sub' : ℕ → Node n} {i : Fin n} {v : ℤ}

theorem FreeClean.of_free (hclean : FreeClean s)
    (hfree : ∀ i, s₁.mappedRegions i = 0 → s.mappedRegions i = 0 ∧ s₁.desc (some i) = s.desc (some i)) :
    FreeClean s₁ := by
  intro i hi
  obtain ⟨hzero, hdesc⟩ := hfree i hi
  rw [hdesc]
  exact hclean i hzero

/-- Into a table there is, whatever its count becomes. -/
theorem Entered.of_table (h : TableHolds c s t entries (d + 1) kids) (hidx : idx < entries)
    (hkid : kids idx = .table i v sub) (hdesc : s₁.desc = s.desc)
    (hcounts : ∀ k, k ≠ i → s₁.mappedRegions k = s.mappedRegions k) (hpos : 0 < s₁.mappedRegions i) :
    Entered c t entries idx d s kids s₁ i sub := by
  have hrepr := h.repr idx hidx
  have hsep := h.sep idx hidx
  have hused := h.used idx hidx
  rw [hkid] at hrepr hsep hused
  obtain ⟨hx, -, hsub⟩ := hrepr
  obtain ⟨hself, hsep, hapart⟩ := hsep
  have hne : ∀ j < XLAT_TABLE_ENTRIES, ∀ k, (sub j).Has geometry k → k ≠ i := by
    rintro j hj k hk rfl
    exact hself j hj hk
  refine ⟨Or.inl ?_, fun j hj k hk => ?_, fun t' _ => by rw [hdesc], fun j _ => by rw [hdesc], hcounts,
    by rw [hdesc, hx], ⟨fun j hj => ?_, hsep, hapart, fun j hj k hk hik => ?_, fun j hj k hk => ?_,
      fun k hk => ?_⟩⟩
  · rw [hkid]
    exact Or.inl rfl
  · rw [hkid]
    exact Or.inr ⟨j, hj, hk⟩
  · rw [hdesc]
    exact (hsub j hj).congr fun k hk => ⟨congrFun hdesc _, hcounts k (hne j hj k hk)⟩
  · exact hne j hj k hk (Option.some.inj hik).symm
  · rw [hcounts k (hne j hj k hk)]
    exact hused k (Or.inr ⟨j, hj, hk⟩)
  · cases hk
    exact hpos

/-- Into a table that was not in use, and holds nothing. -/
theorem Entered.of_free (h : TableHolds c s t entries (d + 1) kids) (hclean : FreeClean s)
    (hfree : s.mappedRegions i = 0) (hdescs : ∀ t', t' ≠ t → s₁.desc t' = s.desc t')
    (hsame : ∀ j, j ≠ idx → s₁.desc t j = s.desc t j)
    (hcounts : ∀ k, k ≠ i → s₁.mappedRegions k = s.mappedRegions k)
    (hdesc : s₁.desc t idx = TABLE_DESC ||| c.addr i) (hpos : 0 < s₁.mappedRegions i) :
    Entered c t entries idx d s kids s₁ i fun _ => .invalid where
  name := Or.inr hfree
  below _ _ _ hk := hk.elim
  descs := hdescs
  same := hsame
  counts := hcounts
  desc := hdesc
  holds :=
    { repr := by
        intro j hj
        have hti : some i ≠ t := fun ht => (h.self i ht.symm).ne' hfree
        rw [hdescs _ hti]
        exact hclean i hfree j hj
      sep := fun _ _ => trivial
      apart := fun _ _ _ _ _ _ hk => hk.elim
      own := fun _ _ _ hk => hk.elim
      used := fun _ _ _ hk => hk.elim
      self := by
        intro k hk
        cases hk
        exact hpos }

/-- What is behind a table was behind its entry. -/
theorem Entered.behind (hent : Entered c t entries idx d s kids s₁ i sub) {k : Fin n}
    (hk : Behind s₁ XLAT_TABLE_ENTRIES sub k) : (kids idx).Has geometry k ∨ s.mappedRegions k = 0 := by
  rcases hk with ⟨j, hj, hk⟩ | hzero
  · exact Or.inl (hent.below j hj k hk)
  · by_cases hki : k = i
    · exact hki ▸ hent.name
    · exact Or.inr ((hent.counts k hki).symm.trans hzero)

section Leave

variable (h : TableHolds c s t entries (d + 1) kids) (hidx : idx < entries)
  (hent : Entered c t entries idx d s kids s₁ i sub)
  (hadv : Advance c (some i) XLAT_TABLE_ENTRIES d s₁ sub s₂ sub')
include h hidx hent hadv

/-- The table above has not changed on the way. -/
theorem Entered.above : s₂.desc t = s₁.desc t := by
  have hself : ∀ k, t = some k → ¬ ((kids idx).Has geometry k ∨ s.mappedRegions k = 0) := by
    rintro k hk (hhas | hzero)
    · exact h.own idx hidx k hhas hk
    · exact (h.self k hk).ne' hzero
  exact hadv.descs t (fun ht => hself i ht hent.name) fun k hk hb =>
    hself k hk (hent.behind hb)

/-- **Out of a table**, whose entry may then be replaced. -/
theorem Entered.leave {e' : Node n} (hdesc₃ : ∀ t', t' ≠ t → s₃.desc t' = s₂.desc t')
    (hsame₃ : ∀ j, j ≠ idx → s₃.desc t j = s₂.desc t j)
    (hcounts₃ : ∀ k, k ≠ i → s₃.mappedRegions k = s₂.mappedRegions k)
    (hrepr : Repr c s₃ e' (d + 1) (s₃.desc t idx)) (hsep : e'.Sep geometry)
    (hnames : ∀ k, e'.Has geometry k → k = i ∨ ∃ j < XLAT_TABLE_ENTRIES, (sub' j).Has geometry k)
    (hused : ∀ k, e'.Has geometry k → 0 < s₃.mappedRegions k) :
    Advance c t entries (d + 1) s kids s₃ (Function.update kids idx e') := by
  have hbehind : ∀ k, Behind s₁ XLAT_TABLE_ENTRIES sub k →
      (kids idx).Has geometry k ∨ s.mappedRegions k = 0 := fun k hk => hent.behind hk
  have hne : ∀ k, ¬ (kids idx).Has geometry k → s.mappedRegions k ≠ 0 → k ≠ i := by
    rintro k hno hzero rfl
    exact hent.name.elim hno hzero
  refine h.advance hidx (fun t' ht hno => ?_) (fun j hj hne => ?_) (fun k hno hzero => ?_) hrepr hsep
    (fun k hk => ?_) hused
  · have hti : t' ≠ some i := fun hi' => hent.name.elim (hno i hi').1 (hno i hi').2
    have hout : s₂.desc t' = s₁.desc t' := hadv.descs t' hti fun k hk hb =>
      (hbehind k hb).elim (hno k hk).1 (hno k hk).2
    rw [hdesc₃ t' ht, hout, hent.descs t' ht]
  · rw [hsame₃ j hne, hent.above h hidx hadv, hent.same j hne]
  · have hki := hne k hno hzero
    rw [hcounts₃ k hki, hadv.counts k fun hb => (hbehind k hb).elim hno hzero, hent.counts k hki]
  · rcases hnames k hk with rfl | ⟨j, hj, hhas⟩
    · exact hent.name
    · exact hbehind k (hadv.names j hj k hhas)

/-- Out of a table that stays where it is, whatever its count becomes. -/
theorem Entered.leave_table (hdesc₃ : s₃.desc = s₂.desc)
    (hcounts₃ : ∀ k, k ≠ i → s₃.mappedRegions k = s₂.mappedRegions k) (hv : s₃.mappedRegions i = v)
    (hpos : 0 < v) :
    Advance c t entries (d + 1) s kids s₃ (Function.update kids idx (.table i v sub')) := by
  have hother : ∀ j < XLAT_TABLE_ENTRIES, ∀ k, (sub' j).Has geometry k → k ≠ i := by
    rintro j hj k hk rfl
    exact hadv.holds.own j hj k hk rfl
  refine hent.leave h hidx hadv (fun t' _ => by rw [hdesc₃]) (fun j _ => by rw [hdesc₃]) hcounts₃
    ⟨?_, hv, fun j hj => ?_⟩ ⟨fun j hj hk => hother j hj i hk rfl, hadv.holds.sep, hadv.holds.apart⟩
    (fun k hk => hk) fun k hk => ?_
  · rw [hdesc₃, hent.above h hidx hadv, hent.desc]
  · rw [hdesc₃]
    exact (hadv.holds.repr j hj).congr fun k hk => ⟨congrFun hdesc₃ _, hcounts₃ k (hother j hj k hk)⟩
  · rcases hk with rfl | ⟨j, hj, hk⟩
    · exact hv ▸ hpos
    · rw [hcounts₃ k (hother j hj k hk)]
      exact hadv.holds.used j hj k hk

end Leave

end Descend

end RmmAcs.Xlat
