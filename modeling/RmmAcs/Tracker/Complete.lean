/-
# Nothing the RMM holds is forgotten

Soundness said that what the slots hold is alive.  This file is the other half of the agreement:
every live object has its node, in the slot of its realm and the list of its kind, and every
granule that is delegated and not in use has its node -- one node -- in the NS list.

That half does not hold in every run.  It needs three things of the commands that are accepted,
collected in `CanTrack`: a realm is created while a slot is free, a granule is delegated that the
NS list has no node for, and the IPAs of unprotected mappings (the set `U`) are none of the
delegated PAs.  Each of them guards one place where the tracker has no way to notice.
-/
import RmmAcs.Tracker.Run

namespace RmmAcs.Granules

open RmmAcs Lib Rmm

/-! ## 1. The NS list -/

/-- A delegated granule that nothing is made from. -/
def Spare (R : RmmState) (a : UInt64) : Prop := a ∈ R.delegated ∧ R.Unused a

/-- The mark of a data granule is 0 or 1. -/
def Marked (g : Granule) : Prop := g.isGranuleSliced = 0 ∨ g.isGranuleSliced = 1

/-- **The NS list is the list of the spare granules**, with some more nodes that stand for granules
no longer delegated. -/
structure NsOk (l : List Cell) (R : RmmState) : Prop where
  cell : ∀ d ∈ l, (d.2.state = .delegated ∧ Spare R d.2.pa ∧ Marked d.2) ∨
    (d.2.state = .undelegated ∧ d.2.pa ∉ R.delegated)
  one : ∀ a, Spare R a → ∃ d, l.filter (fun c => Lists.byPa a c.2) = [d]

section NsList

variable {l : List Cell} {R R' : RmmState} {a : UInt64}

theorem byPa_iff {g : Granule} : Lists.byPa a g = true ↔ g.pa = a := by simp [Lists.byPa]

/-- Erasing the first node of one PA leaves the nodes of the others. -/
theorem filter_eraseP_of_ne {b : UInt64} (hab : b ≠ a) :
    ∀ l : List Cell, (l.eraseP fun c => Lists.byPa a c.2).filter (fun c => Lists.byPa b c.2)
      = l.filter fun c => Lists.byPa b c.2
  | [] => rfl
  | c :: l => by
    by_cases hc : c.2.pa = a
    · have hb : Lists.byPa b c.2 ≠ true := fun h => hab (byPa_iff.mp h ▸ hc)
      rw [List.eraseP_cons_of_pos (p := fun c : Cell => Lists.byPa a c.2) (byPa_iff.mpr hc),
        List.filter_cons_of_neg (by simpa using hb)]
    · rw [List.eraseP_cons_of_neg (by simpa [Lists.byPa] using hc), List.filter_cons,
        List.filter_cons, filter_eraseP_of_ne hab l]

/-- Erasing the only node of a PA leaves none of it. -/
theorem ne_of_mem_eraseP {d e : Cell} (hone : l.filter (fun c => Lists.byPa a c.2) = [d])
    (he : e ∈ l.eraseP fun c => Lists.byPa a c.2) : e.2.pa ≠ a := by
  intro hpa
  have hmem : e ∈ (l.eraseP fun c => Lists.byPa a c.2).filter fun c => Lists.byPa a c.2 :=
    List.mem_filter.mpr ⟨he, byPa_iff.mpr hpa⟩
  have hfil : (l.filter fun c => Lists.byPa a c.2).eraseP (fun c => Lists.byPa a c.2)
      = (l.eraseP fun c => Lists.byPa a c.2).filter fun c => Lists.byPa a c.2 := by
    rw [List.eraseP_filter]
    simp only [Bool.and_self]
  rw [← hfil, hone] at hmem
  have hd : Lists.byPa a d.2 = true := by
    have : d ∈ l.filter fun c => Lists.byPa a c.2 := by rw [hone]; simp
    exact (List.mem_filter.mp this).2
  rw [List.eraseP_cons_of_pos (p := fun c : Cell => Lists.byPa a c.2) hd] at hmem
  exact absurd hmem List.not_mem_nil

theorem filter_eq_nil_of_ne (h : ∀ d ∈ l, d.2.pa ≠ a) :
    l.filter (fun c => Lists.byPa a c.2) = [] :=
  List.filter_eq_nil_iff.mpr fun d hd hb => h d hd (byPa_iff.mp hb)

namespace NsOk

/-- The node of a spare granule is what the tracker finds. -/
theorem find (h : NsOk l R) (ha : Spare R a) :
    ∃ d, l.find? (fun c => Lists.byPa a c.2) = some d ∧ d ∈ l ∧ d.2.pa = a ∧
      d.2.state = .delegated ∧ Marked d.2 ∧
      l.filter (fun c => Lists.byPa a c.2) = [d] := by
  obtain ⟨d, hd⟩ := h.one a ha
  have hmem : d ∈ l.filter fun c => Lists.byPa a c.2 := by rw [hd]; simp
  obtain ⟨hdl, hpa⟩ := List.mem_filter.mp hmem
  have hpa := byPa_iff.mp hpa
  rcases h.cell d hdl with ⟨hst, -, hm⟩ | ⟨-, hno⟩
  · refine ⟨d, ?_, hdl, hpa, hst, hm, hd⟩
    rw [← List.head?_filter, hd]
    rfl
  · exact absurd (hpa ▸ ha.1) hno

theorem congr (h : NsOk l R) (hs : ∀ b, Spare R' b ↔ Spare R b)
    (hd : ∀ b ∈ R'.delegated, b ∈ R.delegated) : NsOk l R' where
  cell := fun d hdl => (h.cell d hdl).imp (fun ⟨h₁, h₂, h₃⟩ => ⟨h₁, (hs _).mpr h₂, h₃⟩)
    fun ⟨h₁, h₂⟩ => ⟨h₁, fun hm => h₂ (hd _ hm)⟩
  one := fun b hb => h.one b ((hs b).mp hb)

/-- The first node of a PA goes, and the granule is spare no more. -/
theorem erase (h : NsOk l R) (hs : ∀ b, Spare R' b ↔ Spare R b ∧ b ≠ a)
    (hd : ∀ b ∈ R'.delegated, b ∈ R.delegated) :
    NsOk (l.eraseP fun c => Lists.byPa a c.2) R' where
  cell := fun d hdl => by
    refine (h.cell d (List.eraseP_sublist.subset hdl)).imp (fun ⟨h₁, h₂, h₃⟩ => ⟨h₁, ?_, h₃⟩)
      fun ⟨h₁, h₂⟩ => ⟨h₁, fun hm => h₂ (hd _ hm)⟩
    refine (hs _).mpr ⟨h₂, fun hpa => ?_⟩
    obtain ⟨e, he⟩ := h.one a (hpa ▸ h₂)
    exact ne_of_mem_eraseP he hdl hpa
  one := fun b hb => by
    rw [filter_eraseP_of_ne ((hs b).mp hb).2]
    exact h.one b ((hs b).mp hb).1

/-- A node of a granule that is spare now joins. -/
theorem join (h : NsOk l R) {d : Cell} (hs : ∀ b, Spare R' b ↔ Spare R b ∨ b = d.2.pa)
    (hd : ∀ b ∈ R'.delegated, b ∈ R.delegated ∨ b = d.2.pa) (hst : d.2.state = .delegated)
    (hm : Marked d.2) (hno : ∀ e ∈ l, e.2.pa ≠ d.2.pa) : NsOk (l ++ [d]) R' where
  cell := fun e he => by
    rcases List.mem_append.mp he with he | he
    · refine (h.cell e he).imp (fun ⟨h₁, h₂, h₃⟩ => ⟨h₁, (hs _).mpr (Or.inl h₂), h₃⟩)
        fun ⟨h₁, h₂⟩ => ⟨h₁, fun hmem => ?_⟩
      exact (hd _ hmem).elim h₂ (hno e he)
    · rw [List.mem_singleton.mp he]
      exact Or.inl ⟨hst, (hs _).mpr (Or.inr rfl), hm⟩
  one := fun b hb => by
    rw [List.filter_append]
    by_cases hbd : b = d.2.pa
    · subst hbd
      rw [filter_eq_nil_of_ne hno]
      exact ⟨d, by simp [Lists.byPa]⟩
    · obtain ⟨e, he⟩ := h.one b (((hs b).mp hb).resolve_right hbd)
      refine ⟨e, ?_⟩
      rw [he, List.filter_cons_of_neg (by simpa [Lists.byPa] using Ne.symm hbd)]
      rfl

/-- A node that stands for no delegated granule joins. -/
theorem joinStale (h : NsOk l R) {d : Cell} (hst : d.2.state = .undelegated)
    (hpa : d.2.pa ∉ R.delegated) : NsOk (l ++ [d]) R where
  cell := fun e he => by
    rcases List.mem_append.mp he with he | he
    · exact h.cell e he
    · rw [List.mem_singleton.mp he]
      exact Or.inr ⟨hst, hpa⟩
  one := fun b hb => by
    have hne : d.2.pa ≠ b := fun hbd => hpa (hbd ▸ hb.1)
    obtain ⟨e, he⟩ := h.one b hb
    refine ⟨e, ?_⟩
    rw [List.filter_append, he, List.filter_cons_of_neg (by simpa [Lists.byPa] using hne)]
    rfl

/-- The node of a granule that is undelegated stays, in state `GRANULE_UNDELEGATED`. -/
theorem retire (h : NsOk l R) (hnd : (addrs l).Nodup) (hs : ∀ b, Spare R' b ↔ Spare R b ∧ b ≠ a)
    (hd : ∀ b ∈ R'.delegated, b ∈ R.delegated ∧ b ≠ a) {d : Cell}
    (hone : l.filter (fun c => Lists.byPa a c.2) = [d]) :
    NsOk (modifyAt d.1 (withState .undelegated) l) R' := by
  have hmem : d ∈ l.filter fun c => Lists.byPa a c.2 := by rw [hone]; simp
  obtain ⟨hdl, hpa⟩ := List.mem_filter.mp hmem
  refine ⟨fun e he => ?_, fun b hb => ?_⟩
  · obtain ⟨e₀, he₀, rfl⟩ := List.mem_map.mp he
    by_cases hea : e₀.1 = d.1
    · obtain rfl : e₀ = d := List.inj_on_of_nodup_map hnd he₀ hdl hea
      rw [if_pos rfl]
      exact Or.inr ⟨rfl, fun hm => (hd _ hm).2 (byPa_iff.mp hpa)⟩
    · rw [if_neg hea]
      have hne : e₀.2.pa ≠ a := fun hpe => hea (congrArg Prod.fst (List.mem_singleton.mp
        (hone ▸ List.mem_filter.mpr ⟨he₀, byPa_iff.mpr hpe⟩)))
      exact (h.cell e₀ he₀).imp (fun ⟨h₁, h₂, h₃⟩ => ⟨h₁, (hs _).mpr ⟨h₂, hne⟩, h₃⟩)
        fun ⟨h₁, h₂⟩ => ⟨h₁, fun hm => h₂ (hd _ hm).1⟩
  · obtain ⟨e, he⟩ := h.one b ((hs b).mp hb).1
    have hpas : ((fun c : Cell => Lists.byPa b c.2) ∘
        fun c => if c.1 = d.1 then (c.1, withState .undelegated c.2) else c)
        = fun c => Lists.byPa b c.2 := by
      funext c
      dsimp only [Function.comp]
      split <;> rfl
    rw [modifyAt, List.filter_map, hpas, he]
    exact ⟨_, rfl⟩

end NsOk

end NsList

/-! ## 2. What commands do to the spare granules -/

section SpareGranules

variable {R : RmmState} {c : Cmd} {o : Obj} {a b : UInt64}

theorem spare_make (hm : c.makes = some o) (ha : o.pa = some a) :
    Spare (R.apply c) b ↔ Spare R b ∧ b ≠ a := by
  have hunused : (R.apply c).Unused b ↔ R.Unused b ∧ b ≠ a := by
    constructor
    · intro h
      refine ⟨fun o' ho' => h o' ?_, fun hba => h o ?_ (hba ▸ ha)⟩
      · exact RmmState.mem_apply_objs.mpr (Or.inl ⟨ho', RmmState.kills_of_makes hm o'⟩)
      · exact RmmState.mem_apply_objs.mpr (Or.inr hm)
    · rintro ⟨h, hba⟩ o' ho' hpa
      rcases RmmState.mem_apply_objs.mp ho' with ⟨ho', -⟩ | hm'
      · exact h o' ho' hpa
      · obtain rfl := Option.some.inj (hm.symm.trans hm')
        exact hba (Option.some.inj (hpa.symm.trans ha))
  rw [Spare, Spare, RmmState.delegated_of_makes hm, hunused, and_assoc]

theorem spare_make_none (hm : c.makes = some o) (ha : o.pa = none) :
    Spare (R.apply c) b ↔ Spare R b := by
  have hunused : (R.apply c).Unused b ↔ R.Unused b := by
    constructor
    · intro h o' ho'
      exact h o' (RmmState.mem_apply_objs.mpr (Or.inl ⟨ho', RmmState.kills_of_makes hm o'⟩))
    · intro h o' ho' hpa
      rcases RmmState.mem_apply_objs.mp ho' with ⟨ho', -⟩ | hm'
      · exact h o' ho' hpa
      · obtain rfl := Option.some.inj (hm.symm.trans hm')
        exact absurd (hpa.symm.trans ha) (by simp)
  rw [Spare, Spare, RmmState.delegated_of_makes hm, hunused]

/-- A command that ends an object and leaves the delegated granules. -/
structure EndsObj (R : RmmState) (c : Cmd) (o : Obj) : Prop where
  live : o ∈ R.objs
  kills : c.kills o = true
  makes : c.makes = none
  delegated : (R.apply c).delegated = R.delegated

namespace EndsObj

variable (he : EndsObj R c o)
include he

theorem mem_objs (hw : R.Wf) {o' : Obj} : o' ∈ (R.apply c).objs ↔ o' ∈ R.objs ∧ o' ≠ o := by
  rw [RmmState.mem_apply_objs, he.makes]
  constructor
  · rintro (⟨ho', hk⟩ | hm)
    · exact ⟨ho', fun heq => by rw [heq, he.kills] at hk; exact absurd hk (by simp)⟩
    · exact absurd hm (by simp)
  · rintro ⟨ho', hne⟩
    refine Or.inl ⟨ho', ?_⟩
    by_contra hk
    exact hne (hw.kills_inj ho' he.live (Bool.not_eq_false _ ▸ hk) he.kills)

theorem spare (hw : R.Wf) (ha : o.pa = some a) :
    Spare (R.apply c) b ↔ Spare R b ∨ b = a := by
  unfold Spare
  rw [he.delegated]
  constructor
  · rintro ⟨hd, hu⟩
    by_cases hba : b = a
    · exact Or.inr hba
    · refine Or.inl ⟨hd, fun o' ho' hpa => ?_⟩
      by_cases hoo : o' = o
      · exact hba (Option.some.inj (hpa.symm.trans (hoo ▸ ha)))
      · exact hu o' ((he.mem_objs hw).mpr ⟨ho', hoo⟩) hpa
  · rintro (⟨hd, hu⟩ | rfl)
    · exact ⟨hd, fun o' ho' => hu o' ((he.mem_objs hw).mp ho').1⟩
    · refine ⟨hw.pa_delegated o he.live b ha, fun o' ho' hpa => ?_⟩
      obtain ⟨ho', hne⟩ := (he.mem_objs hw).mp ho'
      exact hne (hw.pa_inj o' ho' o he.live b hpa ha)

theorem spare_none (hw : R.Wf) (ha : o.pa = none) : Spare (R.apply c) b ↔ Spare R b := by
  unfold Spare
  rw [he.delegated]
  refine and_congr_right fun _ => ⟨fun hu o' ho' hpa => ?_, fun hu o' ho' =>
    hu o' ((he.mem_objs hw).mp ho').1⟩
  have hne : o' ≠ o := fun heq => absurd (hpa.symm.trans (heq ▸ ha)) (by simp)
  exact hu o' ((he.mem_objs hw).mpr ⟨ho', hne⟩) hpa

end EndsObj

theorem spare_undelegate :
    Spare (R.apply (.granuleUndelegate a)) b ↔ Spare R b ∧ b ≠ a := by
  unfold Spare
  have hobjs : (R.apply (.granuleUndelegate a)).objs = R.objs :=
    RmmState.apply_objs_of_idle rfl fun _ => rfl
  have hdel : b ∈ (R.apply (.granuleUndelegate a)).delegated ↔ b ∈ R.delegated ∧ b ≠ a := by
    simp [RmmState.apply]
  rw [RmmState.Unused, hobjs, hdel]
  exact and_right_comm

theorem spare_delegate (hw : R.Wf) (ha : a ∉ R.delegated) :
    Spare (R.apply (.granuleDelegate a)) b ↔ Spare R b ∨ b = a := by
  unfold Spare
  have hobjs : (R.apply (.granuleDelegate a)).objs = R.objs :=
    RmmState.apply_objs_of_idle rfl fun _ => rfl
  have hdel : b ∈ (R.apply (.granuleDelegate a)).delegated ↔ b = a ∨ b ∈ R.delegated := by
    simp [RmmState.apply]
  rw [RmmState.Unused, hobjs, hdel]
  constructor
  · rintro ⟨rfl | hd, hu⟩
    · exact Or.inr rfl
    · exact Or.inl ⟨hd, hu⟩
  · rintro (⟨hd, hu⟩ | rfl)
    · exact ⟨Or.inr hd, hu⟩
    · exact ⟨Or.inl rfl, fun o ho hpa => ha (hw.pa_delegated o ho b hpa)⟩

end SpareGranules

/-! ## 3. The slots -/

/-- The list an object's node is in. -/
def objKind : Obj → GranType
  | .realm _ => .rd
  | .recg _ _ => .recg
  | .data _ _ _ => .data
  | .rtt _ _ _ _ => .rtt
  | .rttAux _ _ _ _ _ => .rttAux
  | .unprotected _ _ _ => .validNs

theorem objOf_kind {k : GranType} {g : Granule} {o : Obj} (h : objOf k g = some o) :
    k = objKind o := by
  cases k with
  | ns => exact absurd h (by simp [objOf])
  | validNs =>
    obtain ⟨-, rfl⟩ := objOf_validNs h
    rfl
  | _ =>
    obtain rfl := Option.some.inj h
    rfl

theorem objOf_pa {k : GranType} {g : Granule} {o : Obj} (hk : k ≠ .validNs)
    (h : objOf k g = some o) : o.pa = some g.pa := by
  cases k with
  | ns => exact absurd h (by simp [objOf])
  | validNs => exact absurd rfl hk
  | _ =>
    obtain rfl := Option.some.inj h
    rfl

/-- What a node in a list of a slot looks like. -/
def CellOk (U : UInt64 → Prop) (k : GranType) (g : Granule) : Prop :=
  if k = .validNs then U g.pa else g.state.granType = some k ∧ Marked g

/-- **Nothing is forgotten.**  `U` are the IPAs of unprotected mappings. -/
structure Full (U : UInt64 → Prop) (A : Lists) (R : RmmState) : Prop where
  ns : NsOk (A.lists nsRef) R
  tracked : ∀ o ∈ R.objs, slotOf A.rd o.rd ≠ 0 ∧
    ∃ d ∈ A.lists (slotOf A.rd o.rd, objKind o), objOf (objKind o) d.2 = some o
  zero : ∀ k, k ≠ .ns → A.lists (0, k) = []
  cell : ∀ i k, k ≠ .ns → ∀ d ∈ A.lists (i, k), CellOk U k d.2
  apart : ∀ a ∈ R.delegated, ¬ U a

/-- The two halves together. -/
structure Complete (U : UInt64 → Prop) (A : Lists) (R : RmmState) : Prop where
  sound : Sound A R
  full : Full U A R

/-- What the tracker needs of an accepted command. -/
def CanTrack (U : UInt64 → Prop) (A : Lists) : Cmd → Prop
  | .granuleDelegate a => ¬ U a ∧ A.find nsRef (Lists.byPa a) = none
  | .realmCreate _ _ => ∃ i, i ≠ 0 ∧ A.rd i = freeRd
  | .rttMapUnprotected _ ipa _ _ => U ipa
  | _ => True

namespace Full

variable {U : UInt64 → Prop} {A A' : Lists} {R R' : RmmState} {c : Cmd} {o : Obj}

/-- The node of an object that is made joins the list of its kind in the slot of its realm. -/
theorem push (hf : Full U A R) {d : Cell} (hrd : A'.rd = A.rd)
    (hself : A'.lists (slotOf A.rd o.rd, objKind o)
      = A.lists (slotOf A.rd o.rd, objKind o) ++ [d])
    (hother : ∀ r, r ≠ nsRef → r ≠ (slotOf A.rd o.rd, objKind o) → A'.lists r = A.lists r)
    (hm : c.makes = some o) (hslot : slotOf A.rd o.rd ≠ 0)
    (hobj : objOf (objKind o) d.2 = some o) (hcell : CellOk U (objKind o) d.2)
    (hns : NsOk (A'.lists nsRef) (R.apply c)) : Full U A' (R.apply c) := by
  -- a node that was in a list of a slot still is
  have hold : ∀ r, r ≠ nsRef → ∀ e ∈ A.lists r, e ∈ A'.lists r := by
    intro r hr e he
    by_cases hrs : r = (slotOf A.rd o.rd, objKind o)
    · subst hrs
      rw [hself]
      exact List.mem_append_left _ he
    · rw [hother r hr hrs]
      exact he
  refine ⟨hns, fun o' ho' => ?_, fun k hk => ?_, fun i k hk e he => ?_, ?_⟩
  · rw [hrd]
    rcases RmmState.mem_apply_objs.mp ho' with ⟨ho', -⟩ | hm'
    · obtain ⟨hs, e, he, heo⟩ := hf.tracked o' ho'
      refine ⟨hs, e, hold _ (fun h => hs (congrArg Prod.fst h)) e he, heo⟩
    · obtain rfl := Option.some.inj (hm.symm.trans hm')
      exact ⟨hslot, d, by rw [hself]; simp, hobj⟩
  · rw [hother _ (Repr.ne_nsRef hk) fun h => hslot (congrArg Prod.fst h).symm]
    exact hf.zero k hk
  · by_cases hrs : (i, k) = (slotOf A.rd o.rd, objKind o)
    · obtain ⟨rfl, rfl⟩ := Prod.mk.inj hrs
      rw [hself] at he
      rcases List.mem_append.mp he with he | he
      · exact hf.cell _ _ hk e he
      · rw [List.mem_singleton.mp he]
        exact hcell
    · rw [hother _ (Repr.ne_nsRef hk) hrs] at he
      exact hf.cell i k hk e he
  · rw [RmmState.delegated_of_makes hm]
    exact hf.apart

/-- The node of an object that ends leaves its list. -/
theorem pull (hf : Full U A R) (hw : R.Wf) (he : EndsObj R c o) {d : Cell} {pre post : List Cell}
    (hrd : A'.rd = A.rd) (hl : A.lists (slotOf A.rd o.rd, objKind o) = pre ++ d :: post)
    (hself : A'.lists (slotOf A.rd o.rd, objKind o) = pre ++ post)
    (hother : ∀ r, r ≠ nsRef → r ≠ (slotOf A.rd o.rd, objKind o) → A'.lists r = A.lists r)
    (hobj : objOf (objKind o) d.2 = some o) (hns : NsOk (A'.lists nsRef) (R.apply c)) :
    Full U A' (R.apply c) := by
  have hslot : slotOf A.rd o.rd ≠ 0 := (hf.tracked o he.live).1
  have hsub : ∀ r, r ≠ nsRef → ∀ e ∈ A'.lists r, e ∈ A.lists r := by
    intro r hr e hmem
    by_cases hrs : r = (slotOf A.rd o.rd, objKind o)
    · subst hrs
      rw [hself] at hmem
      rw [hl]
      rcases List.mem_append.mp hmem with h | h
      · exact List.mem_append_left _ h
      · exact List.mem_append_right _ (List.mem_cons_of_mem _ h)
    · rwa [hother r hr hrs] at hmem
  refine ⟨hns, fun o' ho' => ?_, fun k hk => ?_, fun i k hk e hmem => ?_, ?_⟩
  · rw [hrd]
    obtain ⟨ho', hne⟩ := (he.mem_objs hw).mp ho'
    obtain ⟨hs, e, hmem, heo⟩ := hf.tracked o' ho'
    refine ⟨hs, e, ?_, heo⟩
    by_cases hrs : (slotOf A.rd o'.rd, objKind o') = (slotOf A.rd o.rd, objKind o)
    · rw [hrs] at hmem ⊢
      rw [hl] at hmem
      rw [hself]
      rcases List.mem_append.mp hmem with h | h
      · exact List.mem_append_left _ h
      · rcases List.mem_cons.mp h with rfl | h
        · -- the node that left stands for `o`, not for `o'`
          rw [(Prod.mk.inj hrs).2] at heo
          exact absurd (Option.some.inj (heo.symm.trans hobj)) hne
        · exact List.mem_append_right _ h
    · rw [hother _ (fun h => hs (congrArg Prod.fst h)) hrs]
      exact hmem
  · refine List.eq_nil_iff_forall_not_mem.mpr fun e hmem => ?_
    have := hsub _ (Repr.ne_nsRef hk) e hmem
    rw [hf.zero k hk] at this
    exact absurd this List.not_mem_nil
  · exact hf.cell i k hk e (hsub _ (Repr.ne_nsRef hk) e hmem)
  · rw [he.delegated]
    exact hf.apart

/-- Only the NS list changes, and the objects do not. -/
theorem nsOnly (hf : Full U A R) (hrd : A'.rd = A.rd)
    (hlists : ∀ r, r ≠ nsRef → A'.lists r = A.lists r) (hobjs : R'.objs = R.objs)
    (hns : NsOk (A'.lists nsRef) R') (hapart : ∀ a ∈ R'.delegated, ¬ U a) : Full U A' R' where
  ns := hns
  tracked := fun o ho => by
    rw [hobjs] at ho
    obtain ⟨hs, d, hd, hdo⟩ := hf.tracked o ho
    rw [hrd]
    exact ⟨hs, d, by rw [hlists _ fun h => hs (congrArg Prod.fst h)]; exact hd, hdo⟩
  zero := fun k hk => by rw [hlists _ (Repr.ne_nsRef hk)]; exact hf.zero k hk
  cell := fun i k hk d hd => hf.cell i k hk d (by rwa [hlists _ (Repr.ne_nsRef hk)] at hd)
  apart := hapart

/-- A payload change that touches neither the object, nor the state, nor the PA. -/
theorem modify (hf : Full U A R) (a : Ptr) {f : Granule → Granule}
    (hobj : ∀ k g, objOf k (f g) = objOf k g) (hstate : ∀ g, (f g).state = g.state)
    (hpa : ∀ g, (f g).pa = g.pa) (hmark : ∀ g, Marked g → Marked (f g)) :
    Full U (A.modify a f) R := by
  have hcell : ∀ r, ∀ e ∈ (A.modify a f).lists r, ∃ d ∈ A.lists r, e.2 = d.2 ∨ e.2 = f d.2 := by
    intro r e he
    obtain ⟨d, hd, rfl⟩ := List.mem_map.mp he
    refine ⟨d, hd, ?_⟩
    split
    · exact Or.inr rfl
    · exact Or.inl rfl
  have hmap : ∀ b, ((fun c : Cell => Lists.byPa b c.2) ∘
      fun c => if c.1 = a then (c.1, f c.2) else c) = fun c => Lists.byPa b c.2 := by
    intro b
    funext c
    dsimp only [Function.comp]
    split
    · exact congrArg (· == b) (hpa c.2)
    · rfl
  refine ⟨⟨fun e he => ?_, fun b hb => ?_⟩, fun o ho => ?_, fun k hk => ?_, fun i k hk e he => ?_,
    hf.apart⟩
  · obtain ⟨d, hd, h | h⟩ := hcell _ e he
    · rw [h]
      exact hf.ns.cell d hd
    · rw [h, hstate, hpa]
      exact (hf.ns.cell d hd).imp (fun ⟨h₁, h₂, h₃⟩ => ⟨h₁, h₂, hmark _ h₃⟩) id
  · obtain ⟨d, hd⟩ := hf.ns.one b hb
    rw [Lists.modify_lists, modifyAt, List.filter_map, hmap, hd]
    exact ⟨_, rfl⟩
  · obtain ⟨hs, d, hd, hdo⟩ := hf.tracked o ho
    refine ⟨hs, _, List.mem_map_of_mem hd, ?_⟩
    split
    · rw [hobj]
      exact hdo
    · exact hdo
  · rw [Lists.modify_lists, hf.zero k hk]
    rfl
  · obtain ⟨d, hd, h | h⟩ := hcell _ e he
    · rw [h]
      exact hf.cell i k hk d hd
    · have := hf.cell i k hk d hd
      unfold CellOk at this ⊢
      rw [h, hstate, hpa]
      split at this
      · rename_i hv
        rw [if_pos hv]
        exact this
      · rename_i hv
        rw [if_neg hv]
        exact ⟨this.1, hmark _ this.2⟩

theorem enter (hf : Full U A R) (rd : UInt64) : Full U (A.enter rd) R :=
  hf.nsOnly rfl (fun _ _ => rfl) rfl hf.ns hf.apart

end Full

/-! ## 4. Commands that end an object -/

namespace Complete

variable {U : UInt64 → Prop} {A A' B : Lists} {R : RmmState} {c : Cmd} {o : Obj}

/-- The node of an object goes back to the NS list, in the state its kind goes back in. -/
theorem giveBack (hc : Complete U A R) (hw : R.Wf) (he : EndsObj R c o) (hl : B.lists = A.lists)
    (hrd : B.rd = A.rd) {key : Granule → Bool} {state : GranuleState} {d : Cell}
    (hfind : A.find (slotOf A.rd o.rd, objKind o) key = some d)
    (hobj : objOf (objKind o) d.2 = some o)
    (hstate : state = if objKind o = .validNs then .undelegated else .delegated)
    (hgb : B.giveBack (slotOf A.rd o.rd, objKind o) key state = some A') :
    Full U A' (R.apply c) := by
  have hf := hc.full
  have hd : d ∈ A.lists (slotOf A.rd o.rd, objKind o) := List.mem_of_find?_eq_some hfind
  have hkn : objKind o ≠ .ns := by cases o <;> simp [objKind]
  have hns : ((slotOf A.rd o.rd, objKind o) : ListRef) ≠ nsRef := Repr.ne_nsRef hkn
  obtain ⟨hkey, pre, post, hsplit, hpre⟩ := List.find?_eq_some_iff_append.mp hfind
  obtain ⟨e, hfe, rfl⟩ := Option.map_eq_some_iff.mp hgb
  obtain rfl : d = e := by
    rw [Lists.find, hl] at hfe
    exact Option.some.inj (hfind.symm.trans hfe)
  have hpre' : ∀ e ∈ pre, ¬ (key e.2 = true) := by simpa using hpre
  have hnsl : ((B.drop (slotOf A.rd o.rd, objKind o) key).push nsRef
      (d.1, withState state d.2)).lists nsRef = A.lists nsRef ++ [(d.1, withState state d.2)] := by
    rw [Lists.push_lists_self, Lists.drop_lists_of_ne _ _ (Ne.symm hns), hl]
  refine hf.pull hw he (d := d) hrd hsplit ?_ ?_ hobj ?_
  · rw [Lists.push_lists_of_ne _ _ hns, Lists.drop_lists_self, hl, hsplit,
      List.eraseP_append_right _ hpre',
      List.eraseP_cons_of_pos (p := fun c : Cell => key c.2) hkey]
  · intro r hr hrs
    rw [Lists.push_lists_of_ne _ _ hr, Lists.drop_lists_of_ne _ _ hrs, hl]
  · rw [hnsl]
    have hcell := hf.cell _ _ hkn d hd
    unfold CellOk at hcell
    by_cases hv : objKind o = .validNs
    · -- an unprotected mapping never was a delegated granule
      rw [if_pos hv] at hcell hstate
      have hpa : o.pa = none := by
        cases o with
        | unprotected rd ipa level => rfl
        | _ => exact absurd hv (by simp [objKind])
      have hns' : NsOk (A.lists nsRef) (R.apply c) := hf.ns.congr
        (fun b => he.spare_none hw hpa) fun b hb => by rwa [he.delegated] at hb
      refine hns'.joinStale hstate fun hmem => ?_
      rw [he.delegated] at hmem
      exact hf.apart _ hmem hcell
    · rw [if_neg hv] at hcell hstate
      have hpa : o.pa = some d.2.pa := objOf_pa hv hobj
      refine hf.ns.join (d := (d.1, withState state d.2)) (fun b => he.spare hw hpa)
        (fun b hb => ?_) hstate hcell.2 ?_
      · rw [he.delegated] at hb
        exact Or.inl hb
      · intro e hmem hpe
        have hpe' : e.2.pa = d.2.pa := hpe
        rcases hf.ns.cell e hmem with ⟨-, hsp, -⟩ | ⟨-, hno⟩
        · exact hsp.2 o he.live (hpe' ▸ hpa)
        · exact hno (hpe' ▸ hw.pa_delegated o he.live _ hpa)

/-- The commands that take a node out of a list of the realm they name find it there. -/
theorem entry_find (hc : Complete U A R) (hw : R.Wf) {q : Entry} (hq : entry c = some q)
    (hl : R.Legal c) :
    ∃ o d, EndsObj R c o ∧ objKind o = q.kind ∧ o.rd = q.rd ∧
      A.find (slotOf A.rd q.rd, q.kind) q.key = some d ∧ objOf q.kind d.2 = some o := by
  have hlive : ∃ o ∈ R.objs, c.kills o = true := by
    cases c <;> first | (simp [entry] at hq; done) | exact hl
  obtain ⟨o, ho, hk⟩ := hlive
  have he : EndsObj R c o := ⟨ho, hk, by cases c <;> first | (simp [entry] at hq; done) | rfl,
    by cases c <;> first | (simp [entry] at hq; done) | rfl⟩
  obtain ⟨hs, e, hmem, heo⟩ := hc.full.tracked o ho
  obtain ⟨hkind, hrd, hkey⟩ := entry_kills hq heo hk
  rw [hrd, hkind] at hmem
  rw [hkind] at heo
  cases hf : A.find (slotOf A.rd q.rd, q.kind) q.key with
  | none => exact absurd hkey (by simpa using List.find?_eq_none.mp hf e hmem)
  | some d =>
    refine ⟨o, d, he, hkind, hrd, rfl, ?_⟩
    -- the node found has the key, and one object has it
    have hd : d ∈ A.lists (slotOf A.rd q.rd, q.kind) := List.mem_of_find?_eq_some hf
    have hkd : q.key d.2 = true := List.find?_some (p := fun c : Cell => q.key c.2) hf
    rw [hrd] at hs
    rw [hc.sound.same_of_clash hw hs hmem hd fun o₁ o₂ h₁ h₂ hor =>
      entry_clash hq h₁ h₂ hkd hkey hor]
    exact heo

theorem entry_state {q : Entry} (hq : entry c = some q) :
    q.state = if q.kind = .validNs then .undelegated else .delegated := by
  cases c <;> first | (simp [entry] at hq; done) | (obtain rfl := Option.some.inj hq; rfl)

/-- Where a REC is found. -/
theorem rec_find (hc : Complete U A R) (hw : R.Wf) {pa : UInt64} (hl : R.Legal (.recDestroy pa)) :
    ∃ o d, EndsObj R (.recDestroy pa) o ∧ objKind o = .recg ∧ slotOf A.rd o.rd ≠ 0 ∧
      A.find (slotOf A.rd o.rd, .recg) (Lists.byPa pa) = some d ∧
      objOf .recg d.2 = some o ∧ d.2.pa = pa := by
  obtain ⟨o, ho, hk⟩ : ∃ o ∈ R.objs, (Cmd.recDestroy pa).kills o = true := hl
  obtain ⟨rd, rfl⟩ := Sound.kills_recDestroy hk
  obtain ⟨hs, e, hmem, heo⟩ := hc.full.tracked _ ho
  have hepa : e.2.pa = pa := (Sound.objOf_eq_recg heo).2
  cases hf : A.find (slotOf A.rd rd, .recg) (Lists.byPa pa) with
  | none => exact absurd (byPa_iff.mpr hepa) (List.find?_eq_none.mp hf e hmem)
  | some d =>
    have hd : d ∈ A.lists (slotOf A.rd rd, .recg) := List.mem_of_find?_eq_some hf
    have hdpa : d.2.pa = pa := Lists.pa_of_find hf
    refine ⟨.recg rd pa, d, ⟨ho, hk, rfl, rfl⟩, rfl, hs, hf, ?_, hdpa⟩
    rw [(hc.sound.same_of_pa hw hs hs hmem hd (hdpa.trans hepa.symm)).1]
    exact heo

/-- Where the RD of a realm is found. -/
theorem rd_find (hc : Complete U A R) {rd : UInt64} (hl : R.Legal (.realmDestroy rd)) :
    ∃ d, EndsObj R (.realmDestroy rd) (.realm rd) ∧
      A.find (slotOf A.rd rd, .rd) (Lists.byPa rd) = some d ∧ objOf .rd d.2 = some (.realm rd) := by
  obtain ⟨hs, e, hmem, heo⟩ := hc.full.tracked _ hl.1
  have hepa : e.2.pa = rd := by simpa [objOf, objKind] using heo
  cases hf : A.find (slotOf A.rd rd, .rd) (Lists.byPa rd) with
  | none => exact absurd (byPa_iff.mpr hepa) (List.find?_eq_none.mp hf e hmem)
  | some d =>
    refine ⟨d, ⟨hl.1, by simp [Cmd.kills], rfl, rfl⟩, rfl, ?_⟩
    rw [objOf, Lists.pa_of_find hf]

/-! ## 5. Commands that make an object -/

/-- The realm of an object that can be made has a slot, unless it is the realm itself. -/
theorem slot_of_canMake (hc : Complete U A R) (hm : R.CanMake o) (hne : o ≠ .realm o.rd) :
    slotOf A.rd o.rd ≠ 0 := (hc.full.tracked _ (hm.2.1.resolve_left hne)).1

theorem place_pa {p : Place} (hp : place c = some p) :
    (p.kind ≠ .validNs ∧ p.state ≠ .unprotected ∧ p.obj.pa = some p.pa) ∨
      (p.kind = .validNs ∧ p.state = .unprotected ∧ p.obj.pa = none ∧ p.ipa = p.pa) := by
  cases c <;> first | (simp [place] at hp; done) | obtain rfl := Option.some.inj hp
  all_goals simp [Obj.pa]

theorem place_canTrack {p : Place} (hp : place c = some p) (hv : p.kind = .validNs)
    (hok : CanTrack U A c) : U p.pa := by
  cases c <;> first | (simp [place] at hp; done) | obtain rfl := Option.some.inj hp
  case rttMapUnprotected => exact hok
  all_goals exact absurd hv (by simp)

/-- **`val_host_update_granule_state` for every object but a realm.** -/
theorem place (hc : Complete U A R) {p : Place} (hp : Granules.place c = some p) (hl : R.Legal c)
    (hok : CanTrack U A c) (fresh : Cell) :
    Full U (A.update fresh p.rd p.state p.pa p.ipa p.level p.idx) (R.apply c) := by
  have hf := hc.full
  have hspec := place_spec hp
  have hcan := RmmState.canMake_of_makes hl hspec.makes
  have hkind : p.kind = objKind p.obj := objOf_kind (hspec.mapped fresh.2)
  have hne : p.obj ≠ .realm p.obj.rd := fun he => hspec.kind_ne (by rw [hkind, he]; rfl)
  have hslot := hc.slot_of_canMake hcan hne
  have hns : ((slotOf A.rd p.obj.rd, objKind p.obj) : ListRef) ≠ nsRef := fun h =>
    hslot (congrArg Prod.fst h)
  rw [← hspec.rd]
  -- a node found in the NS list moves to the slot
  have hmove : ∀ d, A.find nsRef (Lists.byPa p.pa) = some d →
      (∀ b, Spare (R.apply c) b ↔ Spare R b ∧ b ≠ p.pa) →
      CellOk U p.kind (movedGranule p.obj.rd p.state p.ipa p.level p.idx d.2) →
      Full U (A.update fresh p.obj.rd p.state p.pa p.ipa p.level p.idx) (R.apply c) := by
    intro d hd hspare hcell
    rw [Lists.update_of_some _ _ _ _ _ hd hspec.granType, if_neg hspec.kind_ne, hkind]
    refine hf.push (o := p.obj) (d := (d.1, movedGranule p.obj.rd p.state p.ipa p.level p.idx d.2))
      rfl ?_ ?_ hspec.makes hslot ?_ (hkind ▸ hcell) ?_
    · rw [Lists.push_lists_self, Lists.drop_lists_of_ne _ _ hns]
      rfl
    · intro r hr hrs
      rw [Lists.push_lists_of_ne _ _ hrs, Lists.drop_lists_of_ne _ _ hr]
      rfl
    · rw [← hkind, hspec.rd]
      exact hspec.moved d.2 (Lists.pa_of_find hd)
    · rw [Lists.push_lists_of_ne _ _ (Ne.symm hns), Lists.drop_lists_self]
      refine hf.ns.erase hspare fun b hb => ?_
      rwa [RmmState.delegated_of_makes hspec.makes] at hb
  rcases place_pa hp with ⟨hkv, hst, hpa⟩ | ⟨hkv, hst, hpa, hipa⟩
  · obtain ⟨d, hd, -, -, -, hmark, -⟩ := hf.ns.find (hcan.1 p.pa hpa)
    refine hmove d hd (fun b => spare_make hspec.makes hpa) ?_
    rw [CellOk, if_neg hkv]
    refine ⟨?_, hmark⟩
    rw [movedGranule, if_neg hst]
    exact hspec.granType
  · have hU : U p.pa := place_canTrack hp hkv hok
    have hspare : ∀ b, Spare (R.apply c) b ↔ Spare R b ∧ b ≠ p.pa := by
      intro b
      rw [spare_make_none hspec.makes hpa]
      exact ⟨fun hb => ⟨hb, fun h => hf.apart b hb.1 (h ▸ hU)⟩, And.left⟩
    cases hd : A.find nsRef (Lists.byPa p.pa) with
    | some d =>
      refine hmove d hd hspare ?_
      rw [CellOk, if_pos hkv]
      exact (Lists.pa_of_find hd : d.2.pa = p.pa) ▸ hU
    | none =>
      rw [Lists.update_of_none _ _ _ _ _ _ _ hd, if_pos hst, ← hkv, hkind]
      refine hf.push (o := p.obj) rfl (Lists.push_lists_self _ _ _)
        (fun r _ hrs => Lists.push_lists_of_ne _ _ hrs) hspec.makes hslot ?_ ?_ ?_
      · rw [← hkind, hspec.rd]
        exact hspec.mapped _
      · rw [← hkind, CellOk, if_pos hkv]
        exact hU
      · rw [Lists.push_lists_of_ne _ _ (Ne.symm hns)]
        refine hf.ns.congr (fun b => spare_make_none hspec.makes hpa) fun b hb => ?_
        rwa [RmmState.delegated_of_makes hspec.makes] at hb

/-- **Realms**: the RD moves to the first free slot, which there is. -/
theorem realmCreate (hc : Complete U A R) (hw : R.Wf) {rd params : UInt64} {fresh : Cell}
    (hl : R.Legal (.realmCreate rd params)) (hok : CanTrack U A (.realmCreate rd params))
    (hs : Sound (A.update fresh rd .rd rd 0 0 0) (R.apply (.realmCreate rd params))) :
    Full U (A.update fresh rd .rd rd 0 0 0) (R.apply (.realmCreate rd params)) := by
  have hf := hc.full
  have hw' := hw.apply hl
  obtain ⟨d, hd, -, hpa, -, hmark, -⟩ := hf.ns.find (hl.1 rd rfl)
  have hfresh : ∀ i, i ≠ 0 → ((A.enter rd).drop nsRef (Lists.byPa rd)).rd i ≠ rd := fun i hi =>
    hc.sound.rd_ne_of_canMake hw hl hi
  rw [Lists.update_of_some _ _ _ _ _ hd (k := .rd) rfl, if_pos rfl] at hs ⊢
  rcases Sound.addRealm_cases hfresh with ⟨-, hfull⟩ | ⟨i, hi, hfree, heq⟩
  · obtain ⟨i, hi, hfree⟩ := hok
    exact absurd hfree (hfull i hi)
  rw [heq] at hs ⊢
  have hrd : ∀ j, j ≠ i → Function.update A.rd i rd j = A.rd j := fun j hj =>
    Function.update_of_ne hj _ _
  have hns : ((i, GranType.rd) : ListRef) ≠ nsRef := fun h => hi (congrArg Prod.fst h)
  refine ⟨?_, fun o ho => ?_, fun k hk => ?_, fun j k hk e he => ?_, hf.apart⟩
  · rw [Lists.set_lists_of_ne _ _ (Ne.symm hns)]
    exact hf.ns.erase (fun b => spare_make (o := .realm rd) rfl rfl) fun b hb => hb
  · rcases RmmState.mem_apply_objs.mp ho with ⟨ho', -⟩ | hm
    · obtain ⟨hso, e, he, heo⟩ := hf.tracked o ho'
      have hne : slotOf A.rd o.rd ≠ i := by
        intro hsi
        have hor := slotOf_rd hso
        rw [hsi] at hor
        exact ne_freeRd hw (hw.owner o ho') (hor.symm.trans hfree)
      have hslot := hs.slot_eq hw' hso ((hrd _ hne).trans (slotOf_rd hso)) (hw'.owner o ho)
      rw [hslot]
      refine ⟨hso, e, ?_, heo⟩
      rw [Lists.set_lists_of_ne _ _ fun h => hne (congrArg Prod.fst h)]
      show e ∈ ((A.enter rd).drop nsRef (Lists.byPa rd)).lists _
      rw [Lists.drop_lists_of_ne _ _ fun h => hso (congrArg Prod.fst h)]
      exact he
    · obtain rfl := Option.some.inj hm
      have hself : Function.update A.rd i rd i = rd := Function.update_self i rd A.rd
      have hslot : slotOf (Function.update A.rd i rd) rd = i := hs.slot_eq hw' hi hself ho
      change slotOf (Function.update A.rd i rd) rd ≠ 0 ∧ ∃ e ∈ Lists.lists _ (slotOf
        (Function.update A.rd i rd) rd, GranType.rd), objOf .rd e.2 = some (.realm rd)
      rw [hslot]
      refine ⟨hi, _, by rw [Lists.set_lists_self]; exact List.mem_singleton.mpr rfl, ?_⟩
      exact congrArg (fun a => some (Obj.realm a)) hpa
  · rw [Lists.set_lists_of_ne _ _ fun h => hi (congrArg Prod.fst h).symm]
    show ((A.enter rd).drop nsRef (Lists.byPa rd)).lists (0, k) = []
    rw [Lists.drop_lists_of_ne _ _ (Repr.ne_nsRef hk)]
    exact hf.zero k hk
  · by_cases hjk : (j, k) = (i, GranType.rd)
    · obtain ⟨rfl, rfl⟩ := Prod.mk.inj hjk
      rw [Lists.set_lists_self] at he
      rw [List.mem_singleton.mp he]
      exact ⟨rfl, hmark⟩
    · rw [Lists.set_lists_of_ne _ _ hjk] at he
      change e ∈ ((A.enter rd).drop nsRef (Lists.byPa rd)).lists (j, k) at he
      rw [Lists.drop_lists_of_ne _ _ (Repr.ne_nsRef hk)] at he
      exact hf.cell j k hk e he

/-- A slot is freed that no live realm has. -/
theorem freeSlot (hf : Full U A R) (hw : R.Wf) {i : Fin maxRealms} {rd : UInt64}
    (hrd : A.rd i = rd) (hno : ∀ o ∈ R.objs, o.rd ≠ rd)
    (hs : Sound { A with rd := Function.update A.rd i freeRd } R) :
    Full U { A with rd := Function.update A.rd i freeRd } R := by
  refine ⟨hf.ns, fun o ho => ?_, hf.zero, hf.cell, hf.apart⟩
  obtain ⟨hso, e, he, heo⟩ := hf.tracked o ho
  have hne : slotOf A.rd o.rd ≠ i := fun hsi =>
    hno o ho (by rw [← slotOf_rd hso, hsi, hrd])
  have hslot : slotOf (Function.update A.rd i freeRd) o.rd = slotOf A.rd o.rd :=
    hs.slot_eq hw hso ((Function.update_of_ne hne _ _).trans (slotOf_rd hso)) (hw.owner o ho)
  show slotOf (Function.update A.rd i freeRd) o.rd ≠ 0 ∧
    ∃ d ∈ A.lists (slotOf (Function.update A.rd i freeRd) o.rd, objKind o), _
  rw [hslot]
  exact ⟨hso, e, he, heo⟩

/-! ## 6. Every accepted command -/

theorem delegate (hc : Complete U A R) (hw : R.Wf) {a : UInt64} {fresh : Cell}
    (hl : R.Legal (.granuleDelegate a)) (hok : CanTrack U A (.granuleDelegate a)) :
    Full U (A.add fresh .delegated a) (R.apply (.granuleDelegate a)) := by
  have hdel : ∀ b, b ∈ (R.apply (.granuleDelegate a)).delegated ↔ b = a ∨ b ∈ R.delegated :=
    fun b => List.mem_cons
  refine hc.full.nsOnly rfl (fun r hr => Lists.push_lists_of_ne _ _ hr)
    (RmmState.apply_objs_of_idle rfl fun _ => rfl) ?_ ?_
  · rw [Lists.add, Lists.push_lists_self]
    refine hc.full.ns.join (fun b => spare_delegate hw hl.2)
      (fun b hb => ((hdel b).mp hb).symm) rfl (Or.inl rfl) fun e he hpa => ?_
    exact List.find?_eq_none.mp hok.2 e he (byPa_iff.mpr hpa)
  · intro b hb
    rcases (hdel b).mp hb with rfl | hb
    · exact hok.1
    · exact hc.full.apart b hb

theorem undelegate (hc : Complete U A R) {t : Tracker} (hrep : Repr t A) {a : UInt64}
    (hl : R.Legal (.granuleUndelegate a)) :
    Full U (A.undelegate a) (R.apply (.granuleUndelegate a)) := by
  obtain ⟨-, hrd, hlists⟩ := undelegate_lists hrep a
  have hdel : ∀ b ∈ (R.apply (.granuleUndelegate a)).delegated, b ∈ R.delegated ∧ b ≠ a := by
    intro b hb
    obtain ⟨hb, hne⟩ := List.mem_filter.mp hb
    exact ⟨hb, by simpa using hne⟩
  refine hc.full.nsOnly hrd hlists (RmmState.apply_objs_of_idle rfl fun _ => rfl) ?_
    fun b hb => hc.full.apart b (hdel b hb).1
  obtain ⟨d, hd, -, -, -, hmark, hone⟩ := hc.full.ns.find hl
  have hfind : A.find nsRef (Lists.byPa a) = some d := hd
  unfold Lists.undelegate
  simp only [hfind]
  by_cases h0 : d.2.isGranuleSliced = 0
  · rw [if_pos h0, Lists.drop_lists_self]
    exact hc.full.ns.erase (fun b => spare_undelegate) fun b hb => (hdel b hb).1
  · rw [if_neg h0, if_pos (hmark.resolve_left h0), Lists.modify_lists]
    exact hc.full.ns.retire (hrep.nodup nsRef) (fun b => spare_undelegate) hdel hone

theorem auxInfo (hc : Complete U A R) (granState : GranuleState) (val : Bool)
    {rd index ipa : UInt64} (he : A.auxInfo granState rd index ipa val = some A') :
    Full U A' R := by
  have hf := hc.full.enter rd
  rcases Lists.auxInfo_cases he with rfl | ⟨a, i, rfl⟩
  · exact hf
  · exact hf.modify a (fun k g => by cases k <;> rfl) (fun _ => rfl) (fun _ => rfl) fun _ hm => hm

/-- A command that makes, ends and delegates nothing. -/
theorem idle (hf : Full U A R) (hm : c.makes = none) (hk : ∀ o, c.kills o = false)
    (hd : (R.apply c).delegated = R.delegated) : Full U A (R.apply c) := by
  have hobjs := RmmState.apply_objs_of_idle (R := R) hm hk
  have hspare : ∀ b, Spare (R.apply c) b ↔ Spare R b := fun b => by
    rw [Spare, Spare, hd, RmmState.Unused, hobjs]
    rfl
  refine hf.nsOnly rfl (fun _ _ => rfl) hobjs ?_ fun a ha => hf.apart a (hd ▸ ha)
  exact hf.ns.congr hspare fun b hb => hd ▸ hb

/-- **Every accepted legal command keeps the tracker complete**, if it can be tracked. -/
theorem effect (hc : Complete U A R) {t : Tracker} {fresh : Cell} (hrep : Repr t A) (hw : R.Wf)
    (hl : R.Legal c) (hok : CanTrack U A c) (he : Granules.effect fresh A c = some A') :
    Complete U A' (R.apply c) := by
  have hs := hc.sound.effect hw hl he
  refine ⟨hs, ?_⟩
  cases hp : Granules.place c with
  | some p =>
    rw [effect_of_place fresh A hp] at he
    obtain rfl := Option.some.inj he
    exact hc.place hp hl hok fresh
  | none =>
    cases hq : entry c with
    | some q =>
      rw [effect_of_entry fresh A hq] at he
      obtain ⟨o, d, hends, hkind, hrd, hfind, hobj⟩ := hc.entry_find hw hq hl
      have hst := entry_state hq
      rw [← hrd, ← hkind] at hfind he
      rw [← hkind] at hobj hst
      exact hc.giveBack (B := A.enter o.rd) hw hends rfl rfl hfind hobj hst he
    | none =>
      cases c with
      | granuleDelegate addr =>
        obtain rfl := Option.some.inj he
        exact hc.delegate hw hl hok
      | granuleUndelegate addr =>
        obtain rfl := Option.some.inj he
        exact hc.undelegate hrep hl
      | realmCreate rd params =>
        obtain rfl := Option.some.inj he
        exact hc.realmCreate hw hl hok hs
      | realmDestroy rd =>
        simp only [Granules.effect, Lists.destroy, reduceCtorEq, if_false, ne_eq, not_false_iff,
          if_true] at he
        obtain ⟨B, hB, rfl⟩ := Option.map_eq_some_iff.mp he
        obtain ⟨d, hends, hfind, hobj⟩ := hc.rd_find hl
        have hfull : Full U B (R.apply (.realmDestroy rd)) :=
          hc.giveBack (B := A.enter rd) hw hends rfl rfl hfind hobj
            (show GranuleState.delegated = _ from rfl) hB
        obtain ⟨e, -, hBe⟩ := Option.map_eq_some_iff.mp hB
        have hslot : slotOf A.rd rd ≠ 0 := (hc.full.tracked _ hl.1).1
        have hrd : B.rd B.cur = rd := by
          rw [← hBe]
          exact slotOf_rd hslot
        refine freeSlot hfull (hw.apply hl) hrd (fun o ho hor => ?_) hs
        obtain ⟨ho, hne⟩ := (hends.mem_objs hw).mp ho
        exact hne (hl.2 o ho hor)
      | recDestroy pa =>
        obtain ⟨o, d, hends, hkind, hslot, hfind, hobj, hpa⟩ := hc.rec_find hw hl
        have hd : d ∈ A.lists (slotOf A.rd o.rd, .recg) := List.mem_of_find?_eq_some hfind
        have hgb : A.giveBack (slotOf A.rd o.rd, .recg) (Lists.byPa pa) .delegated = some A' := by
          rw [← hpa, ← hc.sound.giveBackRec_eq hw hslot hd, hpa]
          exact he
        rw [← hkind] at hfind hgb hobj
        exact hc.giveBack hw hends rfl rfl hfind hobj (by rw [hkind]; rfl) hgb
      | rttAuxMapProtected rd ipa index =>
        exact idle (hc.auxInfo .data true he) rfl (fun _ => rfl) rfl
      | rttAuxMapUnprotected rd ipa index =>
        exact idle (hc.auxInfo .unprotected true he) rfl (fun _ => rfl) rfl
      | rttAuxUnmapProtected rd ipa index =>
        exact idle (hc.auxInfo .data false he) rfl (fun _ => rfl) rfl
      | rttAuxUnmapUnprotected rd ipa index =>
        exact idle (hc.auxInfo .unprotected false he) rfl (fun _ => rfl) rfl
      | features index =>
        obtain rfl := Option.some.inj he
        exact idle hc.full rfl (fun _ => rfl) rfl
      | _ => simp [Granules.place, entry] at hp hq

/-! ## 7. No accepted command fails to find its node -/

/-- The primary mapping an auxiliary one belongs to has its node. -/
theorem aux_find (hc : Complete U A R) {primary : Obj → Bool} {granState : GranuleState}
    {k : GranType} {rd ipa index : UInt64}
    (hgran : granState = .data ∧ k = .data ∨ granState = .unprotected ∧ k = .validNs)
    (hprim : ∀ {o g}, primary o = true → objOf (objKind o) g = some o →
      objKind o = k ∧ o.rd = rd ∧ g.ipa = ipa)
    (hl : R.AuxOk primary index) (val : Bool) : A.auxInfo granState rd index ipa val ≠ none := by
  obtain ⟨hlo, hhi, o, ho, hp⟩ := hl
  obtain ⟨-, e, hmem, heo⟩ := hc.full.tracked o ho
  obtain ⟨hkind, hrd, hipa⟩ := hprim hp heo
  rw [hkind, hrd] at hmem
  have hidx : (index - 1).toNat < maxAuxPlanes := by
    have h1 : 1 ≤ index.toNat := UInt64.le_iff_toNat_le.mp hlo
    have h3 : index.toNat ≤ 3 := UInt64.le_iff_toNat_le.mp hhi
    rw [UInt64.toNat_sub_of_le _ _ hlo]
    show index.toNat - 1 < 3
    omega
  cases hf : A.find (slotOf A.rd rd, k) fun g => g.ipa == ipa with
  | none => exact absurd (beq_iff_eq.mpr hipa) (List.find?_eq_none.mp hf e hmem)
  | some d =>
    rw [Lists.auxInfo_of_find val hgran hidx hf]
    simp

theorem auxData_find (hc : Complete U A R) {rd ipa index : UInt64}
    (hl : R.AuxOk (RmmState.isData rd ipa) index) (val : Bool) :
    A.auxInfo .data rd index ipa val ≠ none := by
  refine hc.aux_find (k := .data) (Or.inl ⟨rfl, rfl⟩) (fun {o g} hp ho => ?_) hl val
  cases o with
  | data rd' ipa' pa => simp_all [RmmState.isData, objKind, objOf, Obj.rd]
  | _ => exact absurd hp (by simp [RmmState.isData])

theorem auxUnprotected_find (hc : Complete U A R) {rd ipa index : UInt64}
    (hl : R.AuxOk (RmmState.isUnprotected rd ipa) index) (val : Bool) :
    A.auxInfo .unprotected rd index ipa val ≠ none := by
  refine hc.aux_find (k := .validNs) (Or.inr ⟨rfl, rfl⟩) (fun {o g} hp ho => ?_) hl val
  cases o with
  | unprotected rd' ipa' level =>
    obtain ⟨-, heq⟩ := objOf_validNs ho
    simp_all [RmmState.isUnprotected, objKind, Obj.rd]
  | _ => exact absurd hp (by simp [RmmState.isUnprotected])

/-- **No legal command dereferences NULL**: what it looks for is there. -/
theorem effect_ne_none (hc : Complete U A R) (hw : R.Wf) (hl : R.Legal c) (fresh : Cell) :
    Granules.effect fresh A c ≠ none := by
  cases hp : Granules.place c with
  | some p =>
    rw [effect_of_place fresh A hp]
    simp
  | none =>
    cases hq : entry c with
    | some q =>
      obtain ⟨o, d, -, -, -, hfind, -⟩ := hc.entry_find hw hq hl
      rw [effect_of_entry fresh A hq, Lists.giveBack,
        show (A.enter q.rd).find (slotOf A.rd q.rd, q.kind) q.key = some d from hfind]
      simp
    | none =>
      cases c with
      | realmDestroy rd =>
        obtain ⟨d, -, hfind, -⟩ := hc.rd_find hl
        have hf : (A.enter rd).find ((A.enter rd).cur, .rd) (Lists.byPa rd) = some d := hfind
        simp [Granules.effect, Lists.destroy, Lists.giveBack, hf]
      | rttAuxMapProtected rd ipa index => exact hc.auxData_find hl true
      | rttAuxUnmapProtected rd ipa index => exact hc.auxData_find hl false
      | rttAuxMapUnprotected rd ipa index => exact hc.auxUnprotected_find hl true
      | rttAuxUnmapUnprotected rd ipa index => exact hc.auxUnprotected_find hl false
      | granuleDelegate | realmCreate | features => exact Option.some_ne_none _
      | granuleUndelegate | recDestroy => exact Option.some_ne_none _
      | _ => simp [Granules.place, entry] at hp hq

end Complete

/-! ## 8. Along a run -/

/-- **Completeness is kept** by every command that can be tracked. -/
theorem stable_complete (U : UInt64 → Prop) :
    Stable (Complete U) fun A _ c => CanTrack U A c where
  enter := fun rd hc => ⟨hc.sound.enter rd, hc.full.enter rd⟩
  effect := fun hrep hw hl hc hok he => hc.effect hrep hw hl hok he
  ends := fun {A R c} he => by
    obtain ⟨hm, hd⟩ := he
    cases c with
    | granuleDelegate a => exact absurd rfl (hd a)
    | realmCreate rd params => exact absurd hm (by simp [Cmd.makes])
    | rttMapUnprotected rd ipa level desc => exact absurd hm (by simp [Cmd.makes])
    | _ => trivial

theorem slices_complete (U : UInt64 → Prop) : Slices (Complete U) := fun A R i d hc hd =>
  ⟨slices_sound A R i d hc.sound hd, hc.full.modify _ (fun k g => by cases k <;> rfl) (fun _ => rfl)
    (fun _ => rfl) fun _ _ => Or.inr rfl⟩

theorem complete_start (U : UInt64 → Prop) {A : Lists} (hl : ∀ r, A.lists r = [])
    (hrd : ∀ i, A.rd i = freeRd) : Complete U A .init where
  sound := sound_start hl hrd
  full := {
    ns := ⟨fun d hd => absurd hd (by simp [hl]), fun a ha => absurd ha.1 List.not_mem_nil⟩
    tracked := fun o ho => absurd ho List.not_mem_nil
    zero := fun k _ => hl (0, k)
    cell := fun i k _ d hd => absurd hd (by simp [hl])
    apart := fun a ha => absurd ha List.not_mem_nil }

end RmmAcs.Granules
