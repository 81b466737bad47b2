/-
# Walking the tables

`find_xlat_table_entry` finds the leaf for an address in the trees of a table (`walk_spec`), and who
writes another leaf to the entry it returns replaces this leaf and nothing else.

The walk takes nine bits of the address for each level and never looks at those above.  For an address
outside the address space it so finds the entry of another one (`findXlatTableEntry_mod`).
-/
import RmmAcs.Xlat.Context
import RmmAcs.Xlat.Represent

namespace RmmAcs.Xlat

open Lib.Radix

section Walk

variable {n : ℕ} {c : Layout n} {s : Tables n} {t : TableRef n} {entries d lo va : ℕ}
  {kids : ℕ → Node n}

theorem xlatTableIdx_eq (hd : d ≤ 3) (va : ℕ) :
    xlatTableIdx va (XLAT_TABLE_LEVEL_MAX - d) = va / geometry.width d % XLAT_TABLE_ENTRIES := by
  have hmask : (0x1FF : ℕ) = 2 ^ 9 - 1 := rfl
  rw [xlatTableIdx, Nat.shiftRight_eq_div_pow, ← xlatBlockSize_eq, blockSize_eq hd, hmask,
    Nat.and_two_pow_sub_one_eq_mod]
  rfl

/-- The index of an address in a table at its own place. -/
theorem xlatTableIdx_table (hd : d ≤ 3) (hlo : geometry.width (d + 1) ∣ lo)
    (hva : lo ≤ va ∧ va < lo + geometry.width (d + 1)) :
    xlatTableIdx va (XLAT_TABLE_LEVEL_MAX - d) = (va - lo) / geometry.width d := by
  obtain ⟨k, rfl⟩ := hlo
  have hlt := (kid_index geometry hva).1
  have hsplit : va = (va - geometry.width (d + 1) * k) + geometry.width d * (XLAT_TABLE_ENTRIES * k) := by
    have hwidth : geometry.width d * (XLAT_TABLE_ENTRIES * k) = geometry.width (d + 1) * k := by
      rw [← Nat.mul_assoc, Nat.mul_comm (geometry.width d), geometry.width_succ]
      rfl
    rw [hwidth, Nat.sub_add_cancel hva.1]
  rw [xlatTableIdx_eq hd]
  conv_lhs => rw [hsplit]
  rw [Nat.add_mul_div_left _ _ (geometry.width_pos d), Nat.add_mul_mod_self_left]
  exact Nat.mod_eq_of_lt hlt

/-- The bits above those of the levels make no difference. -/
theorem findXlatTableEntry_mod (hd : d ≤ 3) (va : ℕ) :
    findXlatTableEntry c s (va % geometry.width (d + 1)) d t entries =
      findXlatTableEntry c s va d t entries := by
  have hidx : ∀ d' ≤ d, xlatTableIdx (va % geometry.width (d + 1)) (XLAT_TABLE_LEVEL_MAX - d') =
      xlatTableIdx va (XLAT_TABLE_LEVEL_MAX - d') := by
    intro d' hd'
    obtain ⟨m, hm⟩ : geometry.width (d' + 1) ∣ geometry.width (d + 1) :=
      width_dvd (Nat.add_le_add_right hd' 1)
    rw [xlatTableIdx_eq (hd'.trans hd), xlatTableIdx_eq (hd'.trans hd), ← Nat.mod_mul_right_div_self,
      ← Nat.mod_mul_right_div_self va, Nat.mul_comm (geometry.width d')]
    have hwidth : XLAT_TABLE_ENTRIES * geometry.width d' = geometry.width (d' + 1) :=
      (geometry.width_succ d').symm
    rw [hwidth, hm, Nat.mod_mul_right_mod]
  have hwalk : ∀ d' ≤ d, ∀ t entries, findXlatTableEntry c s (va % geometry.width (d + 1)) d' t entries =
      findXlatTableEntry c s va d' t entries := by
    intro d'
    induction d' with
    | zero =>
      intro hd' t entries
      unfold findXlatTableEntry
      dsimp only
      rw [hidx 0 hd']
    | succ d' ih =>
      intro hd' t entries
      unfold findXlatTableEntry
      simp only [hidx (d' + 1) hd', ih (Nat.le_of_succ_le hd')]
  exact hwalk d (Nat.le_refl d) t entries

/-- What a walk finds in an entry that stands for a tree. -/
def WalkFinds (c : Layout n) (s : Tables n) (t : TableRef n) (entries d : ℕ) (kids : ℕ → Node n)
    (idx lo va : ℕ) (found : Option (ℕ × ℕ × UInt64))
    (res : Option (TableRef n × ℕ × ℕ)) : Prop :=
  (found = none → res = none) ∧ ∀ d' lo' a, found = some (d', lo', a) → ∃ t' idx',
    res = some (t', idx', XLAT_TABLE_LEVEL_MAX - d') ∧ s.desc t' idx' = a ∧
    (∀ k, t' = some k → 0 < s.mappedRegions k) ∧
    ∀ a', a' &&& DESC_MASK = leafType (XLAT_TABLE_LEVEL_MAX - d') →
      Advance c t entries d s kids (s.set t' idx' a')
        (Function.update kids idx ((kids idx).put geometry a' d lo va))

theorem WalkFinds.invalid {idx : ℕ} (hkid : kids idx = .invalid) :
    WalkFinds c s t entries d kids idx lo va ((kids idx).find geometry d lo va) none := by
  rw [hkid]
  exact ⟨fun _ => rfl, nofun⟩

theorem WalkFinds.leaf (h : TableHolds c s t entries d kids) {idx : ℕ} (hlt : idx < entries)
    {a : UInt64} (hkid : kids idx = .leaf a) :
    WalkFinds c s t entries d kids idx lo va ((kids idx).find geometry d lo va)
      (some (t, idx, XLAT_TABLE_LEVEL_MAX - d)) := by
  have hrepr := h.repr idx hlt
  rw [hkid] at hrepr
  rw [hkid]
  refine ⟨nofun, ?_⟩
  rintro d' lo' a' ⟨⟩
  refine ⟨t, idx, rfl, hrepr.1, h.self, fun a' htype => ?_⟩
  rw [hkid]
  exact h.set hlt ⟨rfl, htype⟩ nofun

/-- What a walk finds in a table is what it finds from the table above. -/
theorem WalkFinds.table (h : TableHolds c s t entries (d + 1) kids) {idx : ℕ} (hlt : idx < entries)
    {i : Fin n} {count : ℤ} {sub : ℕ → Node n} (hkid : kids idx = .table i count sub)
    (hva : lo ≤ va ∧ va < lo + geometry.width (d + 1)) {j : ℕ} (hj : j = (va - lo) / geometry.width d)
    {res : Option (TableRef n × ℕ × ℕ)}
    (hres : WalkFinds c s (some i) XLAT_TABLE_ENTRIES d sub j (lo + j * geometry.width d) va
      ((sub j).find geometry d (lo + j * geometry.width d) va) res) :
    WalkFinds c s t entries (d + 1) kids idx lo va ((kids idx).find geometry (d + 1) lo va) res := by
  subst hj
  obtain ⟨hj, hrange⟩ := kid_index geometry hva
  have hpos := h.used idx hlt i
  have hrepr := h.repr idx hlt
  rw [hkid] at hpos hrepr
  have hpos := hpos (Or.inl rfl)
  obtain ⟨-, hcount, -⟩ := hrepr
  rw [hkid]
  refine ⟨hres.1, fun d' lo' a hfind => ?_⟩
  obtain ⟨t', idx', hres, hdesc, hused, hput⟩ := hres.2 d' lo' a hfind
  refine ⟨t', idx', hres, hdesc, hused, fun a' htype => ?_⟩
  have hent : Entered c t entries idx d s kids s i sub :=
    .of_table h hlt hkid rfl (fun _ _ => rfl) hpos
  rw [hkid]
  exact hent.leave_table h hlt (hput a' htype) rfl (fun _ _ => rfl) hcount (hcount ▸ hpos)

/-- **The walk finds the leaf for an address.** -/
theorem walk_spec (hd : d ≤ 3) (h : TableHolds c s t entries d kids)
    (hlo : geometry.width (d + 1) ∣ lo) (hva : lo ≤ va ∧ va < lo + geometry.width (d + 1)) {idx : ℕ}
    (hidx : idx = (va - lo) / geometry.width d) (hlt : idx < entries) :
    ∃ res, findXlatTableEntry c s va d t entries = some res ∧
      WalkFinds c s t entries d kids idx (lo + idx * geometry.width d) va
        ((kids idx).find geometry d (lo + idx * geometry.width d) va) res := by
  induction d generalizing t entries lo kids idx with
  | zero =>
    have hrepr := h.repr idx hlt
    unfold findXlatTableEntry
    dsimp only
    rw [xlatTableIdx_table hd hlo hva, ← hidx, if_neg (Nat.not_le_of_lt hlt), hrepr.type]
    cases hkid : kids idx with
    | invalid => exact ⟨none, if_pos rfl, hkid ▸ .invalid hkid⟩
    | leaf a =>
      refine ⟨some (t, idx, XLAT_TABLE_LEVEL_MAX - 0), ?_, ?_⟩
      · rw [nodeType, leafType_zero, if_neg (by decide), if_pos rfl]
      · rw [← hkid]
        exact .leaf h hlt hkid
    | table i count sub =>
      rw [hkid] at hrepr
      exact hrepr.elim
  | succ d ih =>
    have hrepr := h.repr idx hlt
    unfold findXlatTableEntry
    dsimp only
    rw [xlatTableIdx_table hd hlo hva, ← hidx, if_neg (Nat.not_le_of_lt hlt), hrepr.type]
    obtain ⟨-, hrange⟩ := kid_index geometry hva
    rw [← hidx] at hrange
    cases hkid : kids idx with
    | invalid => exact ⟨none, if_pos rfl, hkid ▸ .invalid hkid⟩
    | leaf a =>
      refine ⟨some (t, idx, XLAT_TABLE_LEVEL_MAX - (d + 1)), ?_, ?_⟩
      · rw [nodeType, leafType_succ hd, if_neg (by decide), if_pos rfl]
      · rw [← hkid]
        exact .leaf h hlt hkid
    | table i count sub =>
      have hpos := h.used idx hlt i
      rw [hkid] at hrepr hpos
      obtain ⟨hdesc, hcount, -⟩ := hrepr
      have hent : Entered c t entries idx d s kids s i sub :=
        .of_table h hlt hkid rfl (fun _ _ => rfl) (hpos (Or.inl rfl))
      have hlo' : geometry.width (d + 1) ∣ lo + idx * geometry.width (d + 1) :=
        Nat.dvd_add ((width_dvd (Nat.le_succ _)).trans hlo) (Nat.dvd_mul_left ..)
      obtain ⟨res, hwalk, hfinds⟩ := ih (Nat.le_of_succ_le hd) hent.holds hlo' hrange rfl
        (kid_index geometry hrange).1
      refine ⟨res, ?_, hkid ▸ hfinds.table h hlt hkid hrange rfl⟩
      rw [nodeType, if_neg (by decide), if_neg (by decide), if_pos rfl, hdesc, subtable_table]
      exact hwalk

end Walk

end RmmAcs.Xlat
