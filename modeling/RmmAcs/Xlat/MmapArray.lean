/-
# The array of regions

Whatever is added and removed, the regions of a context are whole pages within its limits, sorted by
their ends, and each two of them share no address, virtual or physical; or the earlier one lies in the
later one, with the same offset, and both are static (`ArrayOk`).

What a sorted array is good for shows at the initialisation, which maps the regions in this order and
never overwrites a leaf: an address belongs to the innermost region around it.  That no physical address
is mapped twice is a consequence of the checks, which nobody asks for (`ArrayOk.pa_injective`).
-/
import RmmAcs.Xlat.Context

namespace RmmAcs.Xlat

/-! ## 1. Regions side by side, and in one another -/

/-- Regions that can be removed. -/
def MmapRegion.Dynamic (mm : MmapRegion) : Prop := mm.attr &&& MT_DYNAMIC ≠ 0

instance (mm : MmapRegion) : Decidable mm.Dynamic := inferInstanceAs (Decidable (_ ≠ _))

/-- A region as the checks leave it. -/
structure RegionChecked (paMax vaMax : ℕ) (mm : MmapRegion) : Prop where
  pa_aligned : mm.basePa % PAGE_SIZE = 0
  va_aligned : mm.baseVa % PAGE_SIZE = 0
  size_aligned : mm.size % PAGE_SIZE = 0
  size_pos : 0 < mm.size
  va_le : mm.baseVa + mm.size ≤ vaMax + 1
  pa_le : mm.basePa + mm.size ≤ paMax + 1
  granularity : mm.granularity = xlatBlockSize 1 ∨ mm.granularity = xlatBlockSize 2 ∨
    mm.granularity = xlatBlockSize 3

/-- Regions that share no address. -/
def Apart (a b : MmapRegion) : Prop :=
  (a.baseVa + a.size ≤ b.baseVa ∨ b.baseVa + b.size ≤ a.baseVa) ∧
    (a.basePa + a.size ≤ b.basePa ∨ b.basePa + b.size ≤ a.basePa)

/-- A static region in another one, with the same offset. -/
structure Inside (a b : MmapRegion) : Prop where
  lo : b.baseVa ≤ a.baseVa
  hi : a.baseVa + a.size ≤ b.baseVa + b.size
  smaller : a.size < b.size
  offset : a.basePa + b.baseVa = b.basePa + a.baseVa
  inner_static : ¬ a.Dynamic
  outer_static : ¬ b.Dynamic

/-- A region ends before another one, or with it and is smaller. -/
def Before (a b : MmapRegion) : Prop :=
  a.baseVa + a.size < b.baseVa + b.size ∨ a.baseVa + a.size = b.baseVa + b.size ∧ a.size < b.size

/-- One region comes before another one in the array. -/
def Precedes (a b : MmapRegion) : Prop := Before a b ∧ (Apart a b ∨ Inside a b)

/-- The greatest of the ends, or 0. -/
def IsMaxEnd (endOf : MmapRegion → ℕ) (mmap : List MmapRegion) (m : ℕ) : Prop :=
  (∀ mm ∈ mmap, endOf mm ≤ m) ∧ (m = 0 ∨ ∃ mm ∈ mmap, endOf mm = m)

/-- The limits of a context, which nothing changes: addresses have 48 bits. -/
structure Limits {n : ℕ} (ctx : Ctx n) : Prop where
  pa_lt : ctx.paMaxAddress < 2 ^ 48
  va_lt : ctx.vaMaxAddress < 2 ^ 48
  num_pos : 0 < ctx.mmapNum

/-- **The invariant of the array.** -/
structure ArrayOk {n : ℕ} (ctx : Ctx n) : Prop where
  checked : ∀ mm ∈ ctx.mmap, RegionChecked ctx.paMaxAddress ctx.vaMaxAddress mm
  pairwise : ctx.mmap.Pairwise Precedes
  length : ctx.mmap.length ≤ ctx.mmapNum
  maxVa : IsMaxEnd (fun mm => mm.baseVa + mm.size - 1) ctx.mmap ctx.maxVa
  maxPa : IsMaxEnd (fun mm => mm.basePa + mm.size - 1) ctx.mmap ctx.maxPa

section Checks

variable {n : ℕ} {ctx : Ctx n} {mm cursor : MmapRegion}

theorem endAddr_eq {base size : ℕ} (hpos : 0 < size) (hle : base + size ≤ 2 ^ 64) :
    endAddr base size = base + size - 1 := by
  unfold endAddr
  omega

theorem RegionChecked.ends (hlim : Limits ctx)
    (h : RegionChecked ctx.paMaxAddress ctx.vaMaxAddress mm) :
    endAddr mm.baseVa mm.size = mm.baseVa + mm.size - 1 ∧
      endAddr mm.basePa mm.size = mm.basePa + mm.size - 1 := by
  have hva := h.va_le
  have hpa := h.pa_le
  have hvaMax := hlim.va_lt
  have hpaMax := hlim.pa_lt
  exact ⟨endAddr_eq h.size_pos (by omega), endAddr_eq h.size_pos (by omega)⟩

/-- **What the checks see to** about the region itself. -/
theorem check_eq_zero (hsize : 0 < mm.size) (htyped : mm.size < 2 ^ 64)
    (h : mmapAddRegionCheck ctx mm = 0) :
    RegionChecked ctx.paMaxAddress ctx.vaMaxAddress mm ∧ ctx.mmap[ctx.mmapNum - 1]? = none ∧
      ∀ cursor ∈ ctx.mmap, overlapError mm cursor = false := by
  unfold mmapAddRegionCheck at h
  split_ifs at h with h1 h2 h3 h4 h5 h6 h7
  · cases h
  · cases h
  · cases h
  · cases h
  · cases h
  · cases h
  · cases h
  · simp only [not_or, not_not, not_lt, not_and_or, gt_iff_lt] at h1 h2 h3 h4 h5
    obtain ⟨hpa, hva, hsizeAligned⟩ := h1
    have hendPa : endAddr mm.basePa mm.size = mm.basePa + mm.size - 1 := by
      unfold endAddr at *
      omega
    have hendVa : endAddr mm.baseVa mm.size = mm.baseVa + mm.size - 1 := by
      unfold endAddr at *
      omega
    refine ⟨⟨hpa, hva, hsizeAligned, hsize, by omega, by omega, h2⟩, ?_, fun cursor hmem => ?_⟩
    · exact Option.not_isSome_iff_eq_none.mp h6
    · exact eq_false_of_ne_true fun herr => h7 (List.any_eq_true.mpr ⟨cursor, hmem, herr⟩)

/-- **What they see to** about two regions. -/
theorem overlap_cases (hlim : Limits ctx) (hmm : RegionChecked ctx.paMaxAddress ctx.vaMaxAddress mm)
    (hcursor : RegionChecked ctx.paMaxAddress ctx.vaMaxAddress cursor)
    (h : overlapError mm cursor = false) :
    Apart mm cursor ∨ Inside mm cursor ∨ Inside cursor mm := by
  obtain ⟨hva, hpa⟩ := hmm.ends hlim
  obtain ⟨hva', hpa'⟩ := hcursor.ends hlim
  have hpos := hmm.size_pos
  have hpos' := hcursor.size_pos
  have hvaLe := hmm.va_le
  have hvaLe' := hcursor.va_le
  have hpaLe := hmm.pa_le
  have hpaLe' := hcursor.pa_le
  have hlimVa := hlim.va_lt
  have hlimPa := hlim.pa_lt
  simp only [overlapError, hva, hpa, hva', hpa'] at h
  split_ifs at h with hfull
  · simp only [Bool.or_eq_false_iff, bne_eq_false_iff_eq, Bool.and_eq_false_iff, beq_eq_false_iff_ne] at h
    obtain ⟨⟨⟨hstatic, hstatic'⟩, hoffset⟩, hsame⟩ := h
    have hoffset : mm.basePa + cursor.baseVa = cursor.basePa + mm.baseVa := by
      unfold sub64 at hoffset
      omega
    simp only [Bool.or_eq_true, Bool.and_eq_true, decide_eq_true_eq] at hfull
    rcases hfull with ⟨hlo, hhi⟩ | ⟨hlo, hhi⟩
    · exact Or.inr (Or.inl ⟨hlo, by omega, by omega, hoffset, not_not.mpr hstatic, not_not.mpr hstatic'⟩)
    · exact Or.inr (Or.inr ⟨hlo, by omega, by omega, by omega, not_not.mpr hstatic', not_not.mpr hstatic⟩)
  · simp only [Bool.or_eq_false_iff, Bool.not_eq_false', Bool.or_eq_true, decide_eq_true_eq] at h
    obtain ⟨hva, hpa⟩ := h
    refine Or.inl ⟨?_, ?_⟩
    · omega
    · omega

end Checks

/-! ## 2. Adding and removing -/

section Insert

variable {R : MmapRegion → MmapRegion → Prop} {mmap : List MmapRegion} {mm : MmapRegion}

theorem insertRegion_perm (mm : MmapRegion) (mmap : List MmapRegion) :
    (insertRegion mm mmap).Perm (mm :: mmap) := by
  unfold insertRegion
  dsimp only
  refine List.perm_middle.trans (List.Perm.cons mm ?_)
  rw [List.append_assoc, List.takeWhile_append_dropWhile, List.takeWhile_append_dropWhile]

/-- What is left of a sorted list without its first elements has none of their kind. -/
theorem not_of_mem_dropWhile {p : MmapRegion → Bool} (hsorted : mmap.Pairwise Before)
    (hdown : ∀ x ∈ mmap, ∀ y ∈ mmap, Before x y → p y → p x) :
    ∀ x ∈ mmap.dropWhile p, ¬ p x := by
  induction mmap with
  | nil => exact nofun
  | cons x mmap ih =>
    obtain ⟨hx, hsorted⟩ := List.pairwise_cons.mp hsorted
    rw [List.dropWhile_cons]
    split_ifs with hp
    · exact ih hsorted fun y hy z hz =>
        hdown y (List.mem_cons_of_mem x hy) z (List.mem_cons_of_mem x hz)
    · intro y hy hpy
      rcases List.mem_cons.mp hy with rfl | hmem
      · exact hp hpy
      · exact hp (hdown x (List.mem_cons_self ..) y hy (hx y hmem) hpy)

/-- A region is inserted behind those that come before it. -/
theorem insertRegion_pairwise (hsorted : mmap.Pairwise Before) (hR : mmap.Pairwise R)
    (hends : ∀ x ∈ mm :: mmap, endAddr x.baseVa x.size + 1 = x.baseVa + x.size)
    (hbefore : ∀ x ∈ mmap, Before x mm → R x mm) (hafter : ∀ x ∈ mmap, Before mm x → R mm x)
    (hother : ∀ x ∈ mmap, Before x mm ∨ Before mm x) : (insertRegion mm mmap).Pairwise R := by
  have hmm := hends mm (List.mem_cons_self ..)
  have hend : ∀ x ∈ mmap, endAddr x.baseVa x.size + 1 = x.baseVa + x.size := fun x hx =>
    hends x (List.mem_cons_of_mem mm hx)
  unfold insertRegion
  extract_lets endVa before rest smaller
  have hrest : ∀ x ∈ rest, x ∈ mmap := fun x hx => (List.dropWhile_sublist _).mem hx
  have hge : ∀ x ∈ rest, ¬ endAddr x.baseVa x.size < endVa := by
    refine fun x hx hlt => not_of_mem_dropWhile hsorted (fun y hy z hz hyz hlt => ?_) x hx
      (decide_eq_true hlt)
    have hy' := hend y hy
    have hz' := hend z hz
    have hlt := of_decide_eq_true hlt
    unfold Before at hyz
    exact decide_eq_true (by omega)
  have hsmaller : ∀ x, smaller x = true ↔ endAddr x.baseVa x.size = endVa ∧ x.size < mm.size := by
    intro x
    rw [Bool.and_eq_true, beq_iff_eq, decide_eq_true_eq]
  have hlarger : ∀ x ∈ rest.dropWhile smaller, ¬ smaller x := by
    refine not_of_mem_dropWhile (hsorted.sublist (List.dropWhile_sublist _)) fun y hy z hz hyz hz' => ?_
    rw [hsmaller] at hz' ⊢
    have hy' := hend y (hrest y hy)
    have hz'' := hend z (hrest z hz)
    have hyge := hge y hy
    unfold Before at hyz
    omega
  -- the elements of the three parts
  have hfirst : ∀ x ∈ before ++ rest.takeWhile smaller, x ∈ mmap ∧ Before x mm := by
    intro x hx
    rcases List.mem_append.mp hx with hx | hx
    · have hmem := (List.takeWhile_sublist _).mem hx
      have hlt := List.mem_takeWhile_imp hx
      have hlt := of_decide_eq_true hlt
      have hx' := hend x hmem
      exact ⟨hmem, Or.inl (by omega)⟩
    · have hmem := hrest x ((List.takeWhile_sublist _).mem hx)
      have heq := (hsmaller x).mp (List.mem_takeWhile_imp hx)
      have hx' := hend x hmem
      exact ⟨hmem, Or.inr (by omega)⟩
  have hlast : ∀ x ∈ rest.dropWhile smaller, x ∈ mmap ∧ Before mm x := by
    intro x hx
    have hmem := (List.dropWhile_sublist _).mem hx
    refine ⟨hrest x hmem, (hother x (hrest x hmem)).resolve_left fun hbefore => ?_⟩
    have hnot := hlarger x hx
    have hge := hge x hmem
    have hx' := hend x (hrest x hmem)
    rw [hsmaller] at hnot
    unfold Before at hbefore
    omega
  have hall : mmap = before ++ rest.takeWhile smaller ++ rest.dropWhile smaller := by
    rw [List.append_assoc, List.takeWhile_append_dropWhile, List.takeWhile_append_dropWhile]
  rw [hall] at hR
  obtain ⟨hR₁, hR₂, hR₃⟩ := List.pairwise_append.mp hR
  refine List.pairwise_append.mpr ⟨hR₁, List.pairwise_cons.mpr ⟨fun x hx => ?_, hR₂⟩, fun x hx y hy => ?_⟩
  · exact hafter x (hlast x hx).1 (hlast x hx).2
  · rcases List.mem_cons.mp hy with rfl | hy
    · exact hbefore x (hfirst x hx).1 (hfirst x hx).2
    · exact hR₃ x hx y hy

end Insert

section MaxEnd

variable {endOf : MmapRegion → ℕ} {mmap mmap' : List MmapRegion} {m : ℕ} {mm : MmapRegion}

theorem IsMaxEnd.insert (h : IsMaxEnd endOf mmap m) (hmem : ∀ x, x ∈ mmap' ↔ x = mm ∨ x ∈ mmap)
    {e : ℕ} (he : e = endOf mm) : IsMaxEnd endOf mmap' (if e > m then e else m) := by
  subst he
  obtain ⟨hle, hreached⟩ := h
  refine ⟨fun x hx => ?_, ?_⟩
  · rcases (hmem x).mp hx with rfl | hx
    · split_ifs
      · exact Nat.le_refl _
      · omega
    · have hx := hle x hx
      split_ifs
      · omega
      · exact hx
  · split_ifs with hgt
    · exact Or.inr ⟨mm, (hmem mm).mpr (Or.inl rfl), rfl⟩
    · exact hreached.imp_right fun ⟨x, hx, heq⟩ => ⟨x, (hmem x).mpr (Or.inr hx), heq⟩

/-- The loop that looks for the greatest end finds it. -/
theorem isMaxEnd_maxEnd (endOf : MmapRegion → ℕ) (mmap : List MmapRegion) :
    IsMaxEnd endOf mmap (maxEnd endOf mmap) := by
  -- the loop has seen the regions before
  have hloop : ∀ (seen mmap : List MmapRegion) (m : ℕ), IsMaxEnd endOf seen m →
      IsMaxEnd endOf (seen ++ mmap)
        (mmap.foldl (fun m mm => if endOf mm > m then endOf mm else m) m) := by
    intro seen mmap
    induction mmap generalizing seen with
    | nil =>
      intro m h
      rw [List.append_nil]
      exact h
    | cons mm mmap ih =>
      intro m h
      have hmem : ∀ x, x ∈ seen ++ [mm] ↔ x = mm ∨ x ∈ seen := by
        intro x
        rw [List.mem_append, List.mem_singleton]
        exact Or.comm
      have hstep := ih (seen ++ [mm]) _ (h.insert hmem rfl)
      rw [List.append_assoc] at hstep
      exact hstep
  exact hloop [] mmap 0 ⟨nofun, Or.inl rfl⟩

theorem IsMaxEnd.congr {endOf' : MmapRegion → ℕ} (h : IsMaxEnd endOf mmap m)
    (heq : ∀ x ∈ mmap, endOf x = endOf' x) : IsMaxEnd endOf' mmap m := by
  obtain ⟨hle, hreached⟩ := h
  refine ⟨fun x hx => heq x hx ▸ hle x hx, hreached.imp_right ?_⟩
  rintro ⟨x, hx, hm⟩
  exact ⟨x, hx, heq x hx ▸ hm⟩

/-- Without a region that does not reach it the greatest end stays. -/
theorem IsMaxEnd.remove {before after : List MmapRegion}
    (h : IsMaxEnd endOf (before ++ mm :: after) m) (hne : endOf mm ≠ m) :
    IsMaxEnd endOf (before ++ after) m := by
  obtain ⟨hle, hreached⟩ := h
  refine ⟨fun x hx => hle x (by rw [List.mem_append, List.mem_cons]; rw [List.mem_append] at hx; tauto),
    hreached.imp_right ?_⟩
  rintro ⟨x, hx, hm⟩
  refine ⟨x, ?_, hm⟩
  have hxmm : x ≠ mm := by
    rintro rfl
    exact hne hm
  rw [List.mem_append, List.mem_cons] at hx
  rw [List.mem_append]
  tauto

end MaxEnd

section Keep

variable {n : ℕ} {ctx ctx' : Ctx n} {mm : MmapRegion}

theorem insertRegion_mem (mm : MmapRegion) (mmap : List MmapRegion) (x : MmapRegion) :
    x ∈ insertRegion mm mmap ↔ x = mm ∨ x ∈ mmap := by
  rw [(insertRegion_perm mm mmap).mem_iff, List.mem_cons]

/-- **Adding keeps the invariant.** -/
theorem ArrayOk.add (h : ArrayOk ctx) (hlim : Limits ctx) (hsize : 0 < mm.size)
    (htyped : mm.size < 2 ^ 64) (hcheck : mmapAddRegionCheck ctx mm = 0) :
    ArrayOk (ctx.addToMmap mm) := by
  obtain ⟨hmm, hroom, hoverlap⟩ := check_eq_zero hsize htyped hcheck
  obtain ⟨hendVa, hendPa⟩ := hmm.ends hlim
  have hcases : ∀ x ∈ ctx.mmap, Apart mm x ∨ Inside mm x ∨ Inside x mm := fun x hx =>
    overlap_cases hlim hmm (h.checked x hx) (hoverlap x hx)
  have hpos : ∀ x ∈ ctx.mmap, 0 < x.size := fun x hx => (h.checked x hx).size_pos
  refine ⟨fun x hx => ?_, ?_, ?_, ?_, ?_⟩
  · rcases (insertRegion_mem mm ctx.mmap x).mp hx with rfl | hx
    · exact hmm
    · exact h.checked x hx
  · refine insertRegion_pairwise (h.pairwise.imp fun hxy => hxy.1) h.pairwise (fun x hx => ?_)
      (fun x hx hbefore => ⟨hbefore, ?_⟩) (fun x hx hafter => ⟨hafter, ?_⟩) fun x hx => ?_
    · have hx : RegionChecked ctx.paMaxAddress ctx.vaMaxAddress x := by
        rcases List.mem_cons.mp hx with rfl | hx
        · exact hmm
        · exact h.checked x hx
      have hxpos := hx.size_pos
      rw [(hx.ends hlim).1]
      omega
    · rcases hcases x hx with hapart | hin | hin
      · exact Or.inl ⟨hapart.1.symm, hapart.2.symm⟩
      · have hhi := hin.hi
        have hsmaller := hin.smaller
        unfold Before at hbefore
        omega
      · exact Or.inr hin
    · rcases hcases x hx with hapart | hin | hin
      · exact Or.inl hapart
      · exact Or.inr hin
      · have hhi := hin.hi
        have hsmaller := hin.smaller
        unfold Before at hafter
        omega
    · have hxpos := hpos x hx
      unfold Before
      rcases hcases x hx with ⟨hva, -⟩ | hin | hin
      · omega
      · have hhi := hin.hi
        have hsmaller := hin.smaller
        omega
      · have hhi := hin.hi
        have hsmaller := hin.smaller
        omega
  · have hlen := (insertRegion_perm mm ctx.mmap).length_eq
    rw [List.length_cons] at hlen
    have hroom := List.getElem?_eq_none_iff.mp hroom
    have hnum := hlim.num_pos
    exact hlen ▸ (by omega : ctx.mmap.length + 1 ≤ ctx.mmapNum)
  · dsimp only [Ctx.addToMmap]
    exact h.maxVa.insert (insertRegion_mem mm ctx.mmap) hendVa
  · dsimp only [Ctx.addToMmap]
    exact h.maxPa.insert (insertRegion_mem mm ctx.mmap) hendPa

/-- The region a call of `mmap_remove_dynamic_region_ctx` finds, and what is left without it. -/
theorem find_split {here : MmapRegion → Bool} {mmap : List MmapRegion} (h : mmap.find? here = some mm) :
    here mm = true ∧ ∃ before after, mmap = before ++ mm :: after ∧ mmap.eraseP here = before ++ after := by
  obtain ⟨hhere, before, after, hsplit, hnot⟩ := List.find?_eq_some_iff_append.mp h
  refine ⟨hhere, before, after, hsplit, ?_⟩
  have hbefore : ∀ x ∈ before, ¬ here x = true := by
    intro x hx hhere
    have hnot := hnot x hx
    rw [hhere] at hnot
    cases hnot
  rw [hsplit, List.eraseP_append_right _ hbefore, List.eraseP_cons_of_pos hhere]

/-- **Removing keeps the invariant.** -/
theorem ArrayOk.remove (h : ArrayOk ctx) (hlim : Limits ctx) {before after : List MmapRegion}
    (hsplit : ctx.mmap = before ++ mm :: after) : ArrayOk (ctx.removeFromMmap mm (before ++ after)) := by
  have hsub : List.Sublist (before ++ after) ctx.mmap := by
    rw [hsplit]
    exact (List.sublist_cons_self mm after).append_left before
  have hchecked : ∀ x ∈ before ++ after, RegionChecked ctx.paMaxAddress ctx.vaMaxAddress x :=
    fun x hx => h.checked x (hsub.mem hx)
  have hmm : mm ∈ ctx.mmap := by
    rw [hsplit]
    exact List.mem_append_right before (List.mem_cons_self ..)
  obtain ⟨hendVa, hendPa⟩ := (h.checked mm hmm).ends hlim
  have hmaxVa := h.maxVa
  have hmaxPa := h.maxPa
  rw [hsplit] at hmaxVa hmaxPa
  refine ⟨hchecked, h.pairwise.sublist hsub, hsub.length_le.trans h.length, ?_, ?_⟩
  · dsimp only [Ctx.removeFromMmap]
    split_ifs with hend
    · exact (isMaxEnd_maxEnd _ _).congr fun x hx => ((hchecked x hx).ends hlim).1
    · rw [hendVa] at hend
      exact hmaxVa.remove hend
  · dsimp only [Ctx.removeFromMmap]
    split_ifs with hend
    · exact (isMaxEnd_maxEnd _ _).congr fun x hx => ((hchecked x hx).ends hlim).2
    · rw [hendPa] at hend
      exact hmaxPa.remove hend

/-- The tables are of no account to the array. -/
theorem ArrayOk.of_tables (h : ArrayOk ctx) {s : Tables n} {b : Bool} :
    ArrayOk { ctx with tables := s, initialized := b } :=
  ⟨h.checked, h.pairwise, h.length, h.maxVa, h.maxPa⟩

/-- **No physical address belongs to two virtual ones.** -/
theorem ArrayOk.pa_injective (h : ArrayOk ctx) {a b : MmapRegion} (ha : a ∈ ctx.mmap)
    (hb : b ∈ ctx.mmap) {va va' : ℕ} (hva : a.baseVa ≤ va ∧ va < a.baseVa + a.size)
    (hva' : b.baseVa ≤ va' ∧ va' < b.baseVa + b.size)
    (hpa : a.basePa + va - a.baseVa = b.basePa + va' - b.baseVa) : va = va' := by
  let Injective (a b : MmapRegion) : Prop := ∀ va va', (a.baseVa ≤ va ∧ va < a.baseVa + a.size) →
    (b.baseVa ≤ va' ∧ va' < b.baseVa + b.size) →
    a.basePa + va - a.baseVa = b.basePa + va' - b.baseVa → va = va'
  have hprecedes : ∀ a b, Precedes a b → Injective a b := by
    rintro a b ⟨-, ⟨-, hapart⟩ | hin⟩ va va' hva hva' hpa
    · omega
    · have hoffset := hin.offset
      omega
  have hflip : ∀ a b, Precedes a b → Injective b a := fun a b hab va va' hva hva' hpa =>
    (hprecedes a b hab va' va hva' hva hpa.symm).symm
  have hself : ∀ a ∈ ctx.mmap, Injective a a := fun a _ va va' hva hva' hpa => by omega
  exact List.Pairwise.forall_of_forall_of_flip hself (h.pairwise.imp @hprecedes)
    (h.pairwise.imp @hflip) ha hb va va' hva hva' hpa

end Keep

/-! ## 3. Runs -/

section Runs

variable {n : ℕ} {ctx ctx' : Ctx n} {ret : ℤ}

/-- The invariant, with the limits. -/
structure ArrayKept (ctx : Ctx n) : Prop where
  array : ArrayOk ctx
  limits : Limits ctx

theorem ArrayKept.of_tables (h : ArrayOk ctx) (hlim : Limits ctx) {s : Tables n} {b : Bool} :
    ArrayKept { ctx with tables := s, initialized := b } :=
  ⟨h.of_tables, ⟨hlim.pa_lt, hlim.va_lt, hlim.num_pos⟩⟩

theorem mmapAddRegionCtx_keeps (h : ArrayOk ctx) (hlim : Limits ctx) {mm : MmapRegion}
    (htyped : mm.size < 2 ^ 64) (hret : mmapAddRegionCtx ctx mm = some ctx') : ArrayKept ctx' := by
  unfold mmapAddRegionCtx at hret
  split_ifs at hret with hzero hcheck
  · cases hret
    exact ⟨h, hlim⟩
  · cases hret
    exact ⟨h.add hlim (Nat.pos_of_ne_zero hzero) htyped (not_not.mp hcheck),
      ⟨hlim.pa_lt, hlim.va_lt, hlim.num_pos⟩⟩

theorem mapDynamicRegion_keeps (h : ArrayOk ctx) (hlim : Limits ctx) {mm : MmapRegion}
    (hadd : ArrayOk (ctx.addToMmap mm)) (hret : ctx.mapDynamicRegion mm = some (ret, ctx')) :
    ArrayKept ctx' := by
  obtain ⟨⟨endVa, s⟩, -, hret⟩ := Option.bind_eq_some_iff.mp hret
  dsimp only at hret
  split_ifs at hret with hshort hnone
  · cases hret
    exact .of_tables h hlim
  · obtain ⟨s', -, hret⟩ := Option.bind_eq_some_iff.mp hret
    cases hret
    exact .of_tables h hlim
  · cases hret
    exact .of_tables hadd ⟨hlim.pa_lt, hlim.va_lt, hlim.num_pos⟩

theorem mmapAddDynamicRegionCtx_keeps (h : ArrayOk ctx) (hlim : Limits ctx) {mm : MmapRegion}
    (htyped : mm.size < 2 ^ 64) (hret : mmapAddDynamicRegionCtx ctx mm = some (ret, ctx')) :
    ArrayKept ctx' := by
  rw [← mm.toDynamic_size] at htyped
  unfold mmapAddDynamicRegionCtx at hret
  split_ifs at hret with hzero hcheck hinit
  · cases hret
    exact ⟨h, hlim⟩
  · cases hret
    exact ⟨h, hlim⟩
  · rw [← mm.toDynamic_size] at hzero
    exact mapDynamicRegion_keeps h hlim
      (h.add hlim (Nat.pos_of_ne_zero hzero) htyped (not_not.mp hcheck)) hret
  · rw [← mm.toDynamic_size] at hzero
    cases hret
    exact ⟨h.add hlim (Nat.pos_of_ne_zero hzero) htyped (not_not.mp hcheck),
      ⟨hlim.pa_lt, hlim.va_lt, hlim.num_pos⟩⟩

theorem mmapRemoveDynamicRegionCtx_keeps (h : ArrayOk ctx) (hlim : Limits ctx) {baseVa size : ℕ}
    (hret : mmapRemoveDynamicRegionCtx ctx baseVa size = some (ret, ctx')) : ArrayKept ctx' := by
  unfold mmapRemoveDynamicRegionCtx at hret
  extract_lets here at hret
  cases hfind : ctx.mmap.find? here with
  | none =>
    rw [hfind] at hret
    cases hret
    exact ⟨h, hlim⟩
  | some mm =>
    rw [hfind] at hret
    obtain ⟨-, before, after, hsplit, herase⟩ := find_split hfind
    dsimp only at hret
    rw [herase] at hret
    by_cases hstatic : mm.attr &&& MT_DYNAMIC = 0
    · rw [if_pos hstatic] at hret
      cases hret
      exact ⟨h, hlim⟩
    · rw [if_neg hstatic] at hret
      obtain ⟨s, -, heq⟩ := Option.map_eq_some_iff.mp hret
      cases heq
      exact .of_tables (h.remove hlim hsplit) ⟨hlim.pa_lt, hlim.va_lt, hlim.num_pos⟩

theorem initXlatTablesCtx_keeps (h : ArrayOk ctx) (hlim : Limits ctx)
    (hret : initXlatTablesCtx ctx = some ctx') : ArrayKept ctx' := by
  unfold initXlatTablesCtx at hret
  obtain ⟨-, -, hret⟩ := Option.bind_eq_some_iff.mp hret
  obtain ⟨s, -, hret⟩ := Option.bind_eq_some_iff.mp hret
  obtain ⟨-, -, hret⟩ := Option.bind_eq_some_iff.mp hret
  cases hret
  exact .of_tables h hlim

theorem xlatChangeMemAttributesCtx_keeps (h : ArrayOk ctx) (hlim : Limits ctx) {baseVa size : ℕ}
    {attr : UInt32} (hret : xlatChangeMemAttributesCtx ctx baseVa size attr = some (ret, ctx')) :
    ArrayKept ctx' := by
  unfold xlatChangeMemAttributesCtx at hret
  obtain ⟨-, -, hret⟩ := Option.bind_eq_some_iff.mp hret
  split_ifs at hret
  · cases hret
    exact ⟨h, hlim⟩
  · cases hret
    exact ⟨h, hlim⟩
  · cases hret
    exact ⟨h, hlim⟩
  · cases hret
    exact ⟨h, hlim⟩
  · obtain ⟨ok, -, hret⟩ := Option.bind_eq_some_iff.mp hret
    split_ifs at hret with hok
    · obtain ⟨-, -, hret⟩ := Option.bind_eq_some_iff.mp hret
      obtain ⟨s, -, hret⟩ := Option.bind_eq_some_iff.mp hret
      cases hret
      exact .of_tables h hlim
    · cases hret
      exact ⟨h, hlim⟩

/-- **Every call keeps the invariant**, whatever it returns. -/
theorem Call.run_keeps (h : ArrayOk ctx) (hlim : Limits ctx) {call : Call} (htyped : call.Typed)
    (hret : call.run ctx = some (ret, ctx')) : ArrayKept ctx' := by
  cases call with
  | addRegion mm =>
    obtain ⟨ctx'', hadd, heq⟩ := Option.map_eq_some_iff.mp hret
    cases heq
    exact mmapAddRegionCtx_keeps h hlim htyped hadd
  | addDynamicRegion mm => exact mmapAddDynamicRegionCtx_keeps h hlim htyped hret
  | removeDynamicRegion baseVa size => exact mmapRemoveDynamicRegionCtx_keeps h hlim hret
  | initTables =>
    obtain ⟨ctx'', hinit, heq⟩ := Option.map_eq_some_iff.mp hret
    cases heq
    exact initXlatTablesCtx_keeps h hlim hinit
  | changeMemAttributes baseVa size attr => exact xlatChangeMemAttributesCtx_keeps h hlim hret

theorem runCalls_keeps {calls : List Call} (h : ArrayOk ctx) (hlim : Limits ctx)
    (htyped : ∀ call ∈ calls, call.Typed) (hrun : runCalls ctx calls = some ctx') :
    ArrayKept ctx' := by
  induction calls generalizing ctx with
  | nil =>
    cases hrun
    exact ⟨h, hlim⟩
  | cons call calls ih =>
    obtain ⟨⟨ret, ctx''⟩, hret, hrun⟩ := Option.bind_eq_some_iff.mp hrun
    obtain ⟨h', hlim'⟩ := call.run_keeps h hlim (htyped call (List.mem_cons_self ..)) hret
    exact ih h' hlim' (fun call hcall => htyped call (List.mem_cons_of_mem _ hcall)) hrun

/-- An array without regions. -/
theorem ArrayOk.of_empty (hempty : ctx.mmap = []) (hmax : ctx.maxVa = 0 ∧ ctx.maxPa = 0) : ArrayOk ctx := by
  refine ⟨?_, ?_, ?_, ⟨?_, Or.inl hmax.1⟩, ⟨?_, Or.inl hmax.2⟩⟩
  · rw [hempty]
    exact nofun
  · rw [hempty]
    exact List.Pairwise.nil
  · rw [hempty]
    exact Nat.zero_le _
  · rw [hempty]
    exact nofun
  · rw [hempty]
    exact nofun

/-- **The array, after any calls** from an empty context: sorted, without an overlap that is not meant,
within the limits, with the greatest ends known; and no physical address belongs to two virtual ones. -/
theorem mmap_array_of_calls {start : Ctx n} (hlim : Limits start) (hempty : start.mmap = [])
    (hmax : start.maxVa = 0 ∧ start.maxPa = 0) {calls : List Call}
    (htyped : ∀ call ∈ calls, call.Typed) (hrun : runCalls start calls = some ctx) :
    ArrayOk ctx ∧ ∀ a ∈ ctx.mmap, ∀ b ∈ ctx.mmap, ∀ va va',
      (a.baseVa ≤ va ∧ va < a.baseVa + a.size) → (b.baseVa ≤ va' ∧ va' < b.baseVa + b.size) →
      a.basePa + va - a.baseVa = b.basePa + va' - b.baseVa → va = va' := by
  obtain ⟨harray, -⟩ := runCalls_keeps (.of_empty hempty hmax) hlim htyped hrun
  exact ⟨harray, fun a ha b hb va va' hva hva' hpa => harray.pa_injective ha hb hva hva' hpa⟩

end Runs

/-- Two tables besides the base table, which has four entries of 1 GB. -/
def sampleLayout : Layout 2 where
  regime := .el2
  baseLevel := 1
  baseTableEntries := 4
  addr i := if i.val = 0 then 0x88000000 else 0x88001000
  addr_within := by decide
  addr_injective := by decide

/-- An empty context for 4 GB. -/
def sampleCtx : Ctx 2 where
  layout := sampleLayout
  paMaxAddress := 2 ^ 32 - 1
  vaMaxAddress := 2 ^ 32 - 1
  mmapNum := 4
  mmap := []
  tables := Tables.zero 2
  maxPa := 0
  maxVa := 0
  initialized := false

/-- A page of code in a static region, and a dynamic region that comes and goes. -/
def sampleCalls : List Call :=
  [.addRegion ⟨0x40000000, 0x40000000, 0x3000, 0xA, 0x40000000⟩,
    .addRegion ⟨0x40001000, 0x40001000, 0x1000, 0x2, 0x40000000⟩,
    .initTables,
    .addDynamicRegion ⟨0x90000000, 0x40010000, 0x1000, 0x0, 0x40000000⟩,
    .removeDynamicRegion 0x40010000 0x1000]

theorem sampleCalls_typed : ∀ call ∈ sampleCalls, call.Typed := by
  simp only [sampleCalls, List.forall_mem_cons, Call.Typed]
  exact ⟨by decide, by decide, trivial, by decide, trivial, nofun⟩

theorem mmap_array_of_calls_sample : ∃ ctx, runCalls sampleCtx sampleCalls = some ctx ∧
    ctx.mmap.length = 2 ∧ ArrayOk ctx := by
  have hsome : (runCalls sampleCtx sampleCalls).isSome := by decide +kernel
  obtain ⟨ctx, hctx⟩ := Option.isSome_iff_exists.mp hsome
  have hlength : (runCalls sampleCtx sampleCalls).map (·.mmap.length) = some 2 := by decide +kernel
  refine ⟨ctx, hctx, ?_, (mmap_array_of_calls ⟨by decide, by decide, by decide⟩ rfl ⟨rfl, rfl⟩
    sampleCalls_typed hctx).1⟩
  rw [hctx] at hlength
  exact Option.some.inj hlength

end RmmAcs.Xlat
