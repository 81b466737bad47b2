/-
# What the slots hold is alive

The tracker and the RMM keep the same books twice: every accepted command changes both.  This file
is the half of their agreement that holds in EVERY run -- with any number of realms, with mappings
of unprotected memory, whatever the numeric addresses are.  A slot in use belongs to a live realm,
no two slots to the same one; a node in one of its lists stands for a live object of that realm;
and no object has two nodes in one list.

Nothing is said about slot 0, which doubles as the answer "not found", nor about the NS list.
-/
import RmmAcs.Tracker.Rmi

namespace RmmAcs.Granules

open RmmAcs Lib Rmm

/-! ## 1. Nodes as objects -/

/-- The object a node of a list stands for.  Nodes of the NS list stand for none. -/
def objOf : GranType → Granule → Option Obj
  | .ns, _ => none
  | .rd, g => some (.realm g.pa)
  | .rtt, g => some (.rtt g.rd g.ipa g.level g.pa)
  | .rttAux, g => some (.rttAux g.rd g.ipa g.level g.rttTreeIdx g.pa)
  | .recg, g => some (.recg g.rd g.pa)
  | .data, g => some (.data g.rd g.ipa g.pa)
  | .validNs, g => if g.pa = g.ipa then some (.unprotected g.rd g.ipa g.level) else none

theorem objOf_eq_realm {k : GranType} {g : Granule} {rd : UInt64}
    (h : objOf k g = some (.realm rd)) : k = .rd := by
  cases k <;> simp_all [objOf]

/-- The objects a list stands for. -/
def Lists.objs (A : Lists) (r : ListRef) : List (Option Obj) :=
  (A.lists r).map fun c => objOf r.2 c.2

/-! ## 2. The two families of commands

Six commands move a granule into a list of a realm, six take one out of such a list.  What they
differ in -- the list, the key, what is written to the node -- is data. -/

/-- The arguments of a call of `val_host_update_granule_state`. -/
structure Place where
  rd : UInt64
  state : GranuleState
  pa : UInt64
  ipa : UInt64
  level : UInt64
  idx : UInt64
  kind : GranType
  obj : Obj

/-- The commands that move a granule into a list of a realm. -/
def place : Cmd → Option Place
  | .recCreate rd pa _ => some ⟨rd, .recg, pa, 0, 0, 0, .recg, .recg rd pa⟩
  | .dataCreate rd pa ipa _ _ => some ⟨rd, .data, pa, ipa, 0, 0, .data, .data rd ipa pa⟩
  | .dataCreateUnknown rd pa ipa => some ⟨rd, .data, pa, ipa, 0, 0, .data, .data rd ipa pa⟩
  | .rttCreate rd pa ipa level => some ⟨rd, .rtt, pa, ipa, level, 0, .rtt, .rtt rd ipa level pa⟩
  | .rttMapUnprotected rd ipa level _ =>
    some ⟨rd, .unprotected, ipa, ipa, level, 0, .validNs, .unprotected rd ipa level⟩
  | .rttAuxCreate rd pa ipa level index =>
    some ⟨rd, .rttAux, pa, ipa, level, index, .rttAux, .rttAux rd ipa level index pa⟩
  | _ => none

/-- A list of a realm, the key in it, and the state a node found there goes back in. -/
structure Entry where
  rd : UInt64
  kind : GranType
  key : Granule → Bool
  state : GranuleState

/-- The commands that take a granule out of a list of the realm they name. -/
def entry : Cmd → Option Entry
  | .dataDestroy rd ipa => some ⟨rd, .data, fun g => g.ipa == ipa, .delegated⟩
  | .rttDestroy rd ipa level =>
    some ⟨rd, .rtt, fun g => g.level == level && g.ipa == ipa, .delegated⟩
  | .rttFold rd ipa level =>
    some ⟨rd, .rtt, fun g => g.level == level && g.ipa == ipa, .delegated⟩
  | .rttUnmapUnprotected rd ipa _ => some ⟨rd, .validNs, Lists.byPa ipa, .undelegated⟩
  | .rttAuxDestroy rd ipa level index =>
    some ⟨rd, .rttAux, fun g => g.level == level && g.ipa == ipa && g.rttTreeIdx == index,
      .delegated⟩
  | .rttAuxFold rd ipa level index =>
    some ⟨rd, .rttAux, fun g => g.level == level && g.ipa == ipa && g.rttTreeIdx == index,
      .delegated⟩
  | _ => none

theorem effect_of_place (fresh : Cell) (A : Lists) {c : Cmd} {p : Place} (h : place c = some p) :
    effect fresh A c = some (A.update fresh p.rd p.state p.pa p.ipa p.level p.idx) := by
  cases c <;> first | (simp [place] at h; done) | (obtain rfl := Option.some.inj h; rfl)

theorem effect_of_entry (fresh : Cell) (A : Lists) {c : Cmd} {q : Entry} (h : entry c = some q) :
    effect fresh A c =
      (A.enter q.rd).giveBack (slotOf A.rd q.rd, q.kind) q.key q.state := by
  cases c <;> first | (simp [entry] at h; done) | (obtain rfl := Option.some.inj h; rfl)

/-- What the commands of the first family write to a node makes it stand for what they make. -/
structure PlaceOk (c : Cmd) (p : Place) : Prop where
  makes : c.makes = some p.obj
  rd : p.obj.rd = p.rd
  granType : p.state.granType = some p.kind
  kind_ne : p.kind ≠ .rd
  moved : ∀ g, g.pa = p.pa →
    objOf p.kind (movedGranule p.rd p.state p.ipa p.level p.idx g) = some p.obj
  mapped : ∀ g, objOf p.kind (mappedGranule p.rd p.state p.pa p.ipa p.level p.idx g) = some p.obj

theorem place_spec {c : Cmd} {p : Place} (h : place c = some p) : PlaceOk c p := by
  cases c <;> first | (simp [place] at h; done) | obtain rfl := Option.some.inj h
  all_goals
    refine ⟨rfl, rfl, rfl, by simp, fun g hg => ?_, fun g => ?_⟩ <;>
      simp_all [objOf, movedGranule, mappedGranule]

theorem entry_ne_ns {c : Cmd} {q : Entry} (h : entry c = some q) : q.kind ≠ .ns := by
  cases c <;> first | (simp [entry] at h; done) | (obtain rfl := Option.some.inj h; simp)

theorem objOf_validNs {g : Granule} {o : Obj} (h : objOf .validNs g = some o) :
    g.pa = g.ipa ∧ o = .unprotected g.rd g.ipa g.level := by
  simp only [objOf, Option.ite_none_right_eq_some, Option.some.injEq] at h
  exact ⟨h.1, h.2.symm⟩

/-- A node for the object that ends is in the list the command names, with the key. -/
theorem entry_kills {c : Cmd} {q : Entry} (h : entry c = some q) {k : GranType} {g : Granule}
    {o : Obj} (ho : objOf k g = some o) (hk : c.kills o = true) :
    k = q.kind ∧ o.rd = q.rd ∧ q.key g = true := by
  cases k with
  | ns => exact absurd ho (by simp [objOf])
  | validNs =>
    obtain ⟨hpa, rfl⟩ := objOf_validNs ho
    cases c <;> first | (simp [entry] at h; done) | obtain rfl := Option.some.inj h
    all_goals simp_all [Cmd.kills, Obj.rd, Lists.byPa]
  | _ =>
    obtain rfl := Option.some.inj ho
    cases c <;> first | (simp [entry] at h; done) | obtain rfl := Option.some.inj h
    all_goals simp_all [Cmd.kills, Obj.rd]

/-- Two nodes of one realm with the key stand for objects with one key. -/
theorem entry_clash {c : Cmd} {q : Entry} (h : entry c = some q) {g g' : Granule} {o o' : Obj}
    (ho : objOf q.kind g = some o) (ho' : objOf q.kind g' = some o') (hg : q.key g = true)
    (hg' : q.key g' = true) (hrd : o.rd = o'.rd) : o.clash o' = true := by
  cases c <;> first | (simp [entry] at h; done) | obtain rfl := Option.some.inj h
  case rttUnmapUnprotected =>
    obtain ⟨hpa, rfl⟩ := objOf_validNs ho
    obtain ⟨hpa', rfl⟩ := objOf_validNs ho'
    simp_all [Obj.clash, Obj.rd, Lists.byPa]
  all_goals
    obtain rfl := Option.some.inj ho
    obtain rfl := Option.some.inj ho'
    simp_all [Obj.clash, Obj.rd]

theorem entry_keeps_realms {c : Cmd} {q : Entry} (h : entry c = some q) (rd : UInt64) :
    c.kills (.realm rd) = false := by
  cases c <;> first | (simp [entry] at h; done) | rfl

theorem Lists.pa_of_find {A : Lists} {r : ListRef} {pa : UInt64} {d : Cell}
    (h : A.find r (byPa pa) = some d) : d.2.pa = pa := by
  have hp := List.find?_some (p := fun c : Cell => byPa pa c.2) h
  simpa [byPa] using hp

/-- **The slots are sound.** -/
structure Sound (A : Lists) (R : RmmState) : Prop where
  rd_live : ∀ i, i ≠ 0 → A.rd i ≠ freeRd → .realm (A.rd i) ∈ R.objs
  rd_inj : ∀ i j, i ≠ 0 → j ≠ 0 → A.rd i ≠ freeRd → A.rd i = A.rd j → i = j
  live : ∀ i, i ≠ 0 → ∀ k, ∀ x ∈ A.objs (i, k), ∃ o ∈ R.objs, x = some o ∧ o.rd = A.rd i
  nodup : ∀ i, i ≠ 0 → ∀ k, (A.objs (i, k)).Nodup

/-! ## 3. Slots -/

theorem mem_slots {i : Fin maxRealms} : i ∈ slots ↔ i ≠ 0 := by
  revert i
  decide

/-- The slot of a realm that has one. -/
theorem slotOf_rd {rds : Fin maxRealms → UInt64} {rd : UInt64} (h : slotOf rds rd ≠ 0) :
    rds (slotOf rds rd) = rd := by
  unfold slotOf at h ⊢
  cases hf : slots.find? fun i => rds i == rd with
  | none => rw [hf] at h; exact absurd rfl h
  | some i => simpa using List.find?_some hf

theorem ne_of_slotOf_eq_zero {rds : Fin maxRealms → UInt64} {rd : UInt64}
    (h : slotOf rds rd = 0) {i : Fin maxRealms} (hi : i ≠ 0) : rds i ≠ rd := by
  intro hrd
  unfold slotOf at h
  cases hf : slots.find? fun i => rds i == rd with
  | none =>
    have hno := List.find?_eq_none.mp hf i (mem_slots.mpr hi)
    exact hno (by simpa using hrd)
  | some j =>
    rw [hf] at h
    exact mem_slots.mp (List.mem_of_find?_eq_some hf) h

theorem slotOf_ne_zero {rds : Fin maxRealms → UInt64} {rd : UInt64} {i : Fin maxRealms}
    (hi : i ≠ 0) (hrd : rds i = rd) : slotOf rds rd ≠ 0 :=
  fun h => ne_of_slotOf_eq_zero h hi hrd

/-- No realm has the value of a free slot for its `rd`, which no granule's address is. -/
theorem ne_freeRd {R : RmmState} (hw : R.Wf) {rd : UInt64} (h : Obj.realm rd ∈ R.objs) :
    rd ≠ freeRd := by
  rintro rfl
  have hal := hw.aligned freeRd (hw.pa_delegated _ h freeRd rfl)
  exact absurd hal (by decide)

namespace Sound

variable {A A' : Lists} {R : RmmState} {c : Cmd}

theorem slot_eq (hs : Sound A R) (hw : R.Wf) {i : Fin maxRealms} {rd : UInt64} (hi : i ≠ 0)
    (hrd : A.rd i = rd) (hlive : Obj.realm rd ∈ R.objs) : slotOf A.rd rd = i := by
  have h0 := slotOf_ne_zero hi hrd
  have hsl := slotOf_rd h0
  refine hs.rd_inj _ _ h0 hi ?_ (hsl.trans hrd.symm)
  rw [hsl]
  exact ne_freeRd hw hlive

/-- A free slot has nothing in it. -/
theorem free_empty (hs : Sound A R) (hw : R.Wf) {i : Fin maxRealms} (hi : i ≠ 0)
    (hf : A.rd i = freeRd) (k : GranType) : A.lists (i, k) = [] := by
  cases hl : A.lists (i, k) with
  | nil => rfl
  | cons d l =>
    obtain ⟨o, ho, -, hrd⟩ := hs.live i hi k (objOf k d.2) (by simp [Lists.objs, hl])
    exact absurd (hrd.trans hf) (ne_freeRd hw (hw.owner o ho))

/-- Soundness reads the slots from 1 on, and there only the objects. -/
theorem congr (hs : Sound A R) (hrd : ∀ i, i ≠ 0 → A'.rd i = A.rd i)
    (hobjs : ∀ i, i ≠ 0 → ∀ k, A'.objs (i, k) = A.objs (i, k)) : Sound A' R where
  rd_live := fun i hi => by rw [hrd i hi]; exact hs.rd_live i hi
  rd_inj := fun i j hi hj => by rw [hrd i hi, hrd j hj]; exact hs.rd_inj i j hi hj
  live := fun i hi k => by rw [hrd i hi, hobjs i hi k]; exact hs.live i hi k
  nodup := fun i hi k => by rw [hobjs i hi k]; exact hs.nodup i hi k

theorem grow {R' : RmmState} (hs : Sound A R) (hsub : ∀ o ∈ R.objs, o ∈ R'.objs) :
    Sound A R' where
  rd_live := fun i hi hf => hsub _ (hs.rd_live i hi hf)
  rd_inj := hs.rd_inj
  live := fun i hi k x hx => by
    obtain ⟨o, ho, hxo, hrd⟩ := hs.live i hi k x hx
    exact ⟨o, hsub o ho, hxo, hrd⟩
  nodup := hs.nodup

/-- A change of the NS list, or of any list of slot 0. -/
theorem set_zero (hs : Sound A R) (k : GranType) (l : List Cell) : Sound (A.set (0, k) l) R :=
  hs.congr (fun _ _ => rfl) fun i hi k' => by
    unfold Lists.objs
    rw [A.set_lists_of_ne l fun he => hi (congrArg Prod.fst he)]

theorem enter (hs : Sound A R) (rd : UInt64) : Sound (A.enter rd) R :=
  hs.congr (fun _ _ => rfl) fun _ _ _ => rfl

/-- A node for a live object of the slot's realm that the list does not have yet. -/
theorem push (hs : Sound A R) {i : Fin maxRealms} {k : GranType} {d : Cell} {o : Obj}
    (hobj : objOf k d.2 = some o) (ho : o ∈ R.objs) (hrd : i ≠ 0 → o.rd = A.rd i)
    (hnew : i ≠ 0 → some o ∉ A.objs (i, k)) : Sound (A.push (i, k) d) R := by
  by_cases hi : i = 0
  · subst hi
    exact hs.set_zero k _
  have hself : (A.push (i, k) d).objs (i, k) = A.objs (i, k) ++ [some o] := by
    simp [Lists.objs, hobj]
  have hother : ∀ j k', (j, k') ≠ (i, k) → (A.push (i, k) d).objs (j, k') = A.objs (j, k') := by
    intro j k' hne
    unfold Lists.objs
    rw [A.push_lists_of_ne d hne]
  refine ⟨hs.rd_live, hs.rd_inj, ?_, ?_⟩
  · intro j hj k' x hx
    by_cases hne : (j, k') = (i, k)
    · obtain ⟨rfl, rfl⟩ := Prod.mk.inj hne
      rw [hself] at hx
      rcases List.mem_append.mp hx with hx | hx
      · exact hs.live j hj k' x hx
      · exact ⟨o, ho, List.mem_singleton.mp hx, hrd hj⟩
    · rw [hother j k' hne] at hx
      exact hs.live j hj k' x hx
  · intro j hj k'
    by_cases hne : (j, k') = (i, k)
    · obtain ⟨rfl, rfl⟩ := Prod.mk.inj hne
      rw [hself]
      refine List.nodup_append.mpr ⟨hs.nodup j hj k', List.nodup_singleton _, ?_⟩
      rintro a ha b hb rfl
      rw [List.mem_singleton.mp hb] at ha
      exact hnew hj ha
    · rw [hother j k' hne]
      exact hs.nodup j hj k'

/-- An accepted command that makes nothing, and lists that have only lost nodes: it is enough
that no node is left for an object that is gone. -/
theorem kill (hs : Sound A R) (hrd : ∀ i, i ≠ 0 → A'.rd i = A.rd i)
    (hsub : ∀ i, i ≠ 0 → ∀ k, (A'.objs (i, k)).Sublist (A.objs (i, k)))
    (hkeep : ∀ i, i ≠ 0 → ∀ k o, some o ∈ A'.objs (i, k) → c.kills o = false)
    (hrealm : ∀ i, i ≠ 0 → A.rd i ≠ freeRd → c.kills (.realm (A.rd i)) = false) :
    Sound A' (R.apply c) where
  rd_live := fun i hi hf => by
    rw [hrd i hi] at hf ⊢
    exact RmmState.mem_apply_objs.mpr (Or.inl ⟨hs.rd_live i hi hf, hrealm i hi hf⟩)
  rd_inj := fun i j hi hj => by rw [hrd i hi, hrd j hj]; exact hs.rd_inj i j hi hj
  live := fun i hi k x hx => by
    obtain ⟨o, ho, rfl, hor⟩ := hs.live i hi k x ((hsub i hi k).subset hx)
    exact ⟨o, RmmState.mem_apply_objs.mpr (Or.inl ⟨ho, hkeep i hi k o hx⟩), rfl,
      hor.trans (hrd i hi).symm⟩
  nodup := fun i hi k => (hs.nodup i hi k).sublist (hsub i hi k)

/-! ## 4. Commands that end an object -/

/-- What is left in the lists when the first node with a key is given back. -/
theorem giveBack_objs {r : ListRef} {key : Granule → Bool} {state : GranuleState}
    (hr : r ≠ nsRef) (he : A.giveBack r key state = some A') :
    ∃ d, (A.lists r).find? (fun c => key c.2) = some d ∧
      A'.objs r = ((A.lists r).eraseP fun c => key c.2).map (fun c => objOf r.2 c.2) ∧
      (∀ r', r' ≠ r → r' ≠ nsRef → A'.objs r' = A.objs r') ∧ A'.rd = A.rd := by
  obtain ⟨d, hd, rfl⟩ := Option.map_eq_some_iff.mp he
  refine ⟨d, hd, ?_, ?_, rfl⟩
  · unfold Lists.objs
    rw [Lists.push_lists_of_ne _ _ hr, Lists.drop_lists_self]
  · intro r' hr' hns
    unfold Lists.objs
    rw [Lists.push_lists_of_ne _ _ hns, Lists.drop_lists_of_ne _ _ hr']

/-- The object taken out of a list without duplicates is gone from it. -/
theorem notMem_eraseP {β : Type} {f : Cell → β} {p : Cell → Bool} {l : List Cell} {d : Cell}
    (hn : (l.map f).Nodup) (hd : l.find? p = some d) : f d ∉ (l.eraseP p).map f := by
  obtain ⟨hp, pre, post, rfl, hpre⟩ := List.find?_eq_some_iff_append.mp hd
  rw [List.eraseP_append_right _ (by simpa using hpre), List.eraseP_cons_of_pos hp]
  have hperm : ((pre ++ d :: post).map f).Perm (f d :: (pre ++ post).map f) := by
    simp only [List.map_append, List.map_cons]
    exact List.perm_middle
  exact (List.nodup_cons.mp (hperm.nodup_iff.mp hn)).1

/-- **A node is taken out of a list.**  It is enough that every node for a killed object is in
that list and stands for the same object as the node taken out. -/
theorem takeOut (hs : Sound A R) {r : ListRef} {key : Granule → Bool} {state : GranuleState}
    (hr : r ≠ nsRef) (he : A.giveBack r key state = some A')
    (hkilled : ∀ j, j ≠ 0 → ∀ k, ∀ e ∈ A.lists (j, k), ∀ o, objOf k e.2 = some o →
      c.kills o = true → (j, k) = r ∧
        ∀ d, (A.lists r).find? (fun c => key c.2) = some d → objOf r.2 d.2 = some o)
    (hrealm : ∀ rd, c.kills (.realm rd) = false) : Sound A' (R.apply c) := by
  obtain ⟨d, hfind, hself, hother, hrd⟩ := giveBack_objs hr he
  have hobjs : ∀ j, j ≠ 0 → ∀ k, (j, k) ≠ r → A'.objs (j, k) = A.objs (j, k) := fun j hj k hjk =>
    hother (j, k) hjk fun h0 => hj (congrArg Prod.fst h0)
  have hsub : ∀ j, j ≠ 0 → ∀ k, (A'.objs (j, k)).Sublist (A.objs (j, k)) := by
    intro j hj k
    by_cases hjk : (j, k) = r
    · subst hjk
      rw [hself]
      exact List.eraseP_sublist.map _
    · rw [hobjs j hj k hjk]
  refine hs.kill (fun i _ => by rw [hrd]) hsub ?_ fun i _ _ => hrealm _
  intro j hj k o hx
  by_contra hk
  rw [Bool.not_eq_false] at hk
  obtain ⟨e, he', heo⟩ := List.mem_map.mp ((hsub j hj k).subset hx)
  obtain ⟨rfl, hd⟩ := hkilled j hj k e he' o heo hk
  rw [hself] at hx
  exact notMem_eraseP (hs.nodup j hj k) hfind (hd d hfind ▸ hx)

/-- The objects of a node in a slot. -/
theorem live_cell (hs : Sound A R) {i : Fin maxRealms} (hi : i ≠ 0) {k : GranType} {d : Cell}
    (hd : d ∈ A.lists (i, k)) : ∃ o ∈ R.objs, objOf k d.2 = some o ∧ o.rd = A.rd i :=
  hs.live i hi k _ (List.mem_map_of_mem hd)

/-- **Data, RTTs, auxiliary RTTs, unprotected mappings.**  The command names a realm and a key;
the tracker goes to the realm's slot and takes the first node with the key out. -/
theorem giveBack (hs : Sound A R) (hw : R.Wf) {rd : UInt64} {k : GranType}
    {key : Granule → Bool} {state : GranuleState} (hns : k ≠ .ns)
    (hkill : ∀ k' g o, objOf k' g = some o → c.kills o = true →
      k' = k ∧ o.rd = rd ∧ key g = true)
    (hclash : ∀ g g' o o', objOf k g = some o → objOf k g' = some o' → key g = true →
      key g' = true → o.rd = o'.rd → o.clash o' = true)
    (hrealm : ∀ rd', c.kills (.realm rd') = false)
    (he : (A.enter rd).giveBack (slotOf A.rd rd, k) key state = some A') :
    Sound A' (R.apply c) := by
  refine (hs.enter rd).takeOut (Repr.ne_nsRef hns) he ?_ hrealm
  intro j hj k' e hmem o heo hk
  obtain ⟨rfl, hord, hke⟩ := hkill _ _ _ heo hk
  obtain ⟨o₁, ho₁, hoo₁, hrj⟩ := hs.live_cell hj hmem
  obtain rfl := Option.some.inj (heo.symm.trans hoo₁)
  have hslot : slotOf A.rd rd = j :=
    hs.slot_eq hw hj (hrj.symm.trans hord) (hord ▸ hw.owner o ho₁)
  refine ⟨by rw [hslot], fun d hfind => ?_⟩
  have hd : d ∈ A.lists (slotOf A.rd rd, k') := List.mem_of_find?_eq_some hfind
  have hkd : key d.2 = true := List.find?_some (p := fun c : Cell => key c.2) hfind
  rw [hslot] at hd
  obtain ⟨o₂, ho₂, hdo₂, hrj₂⟩ := hs.live_cell hj hd
  rw [hdo₂, hw.key_inj o ho₁ o₂ ho₂
    (hclash _ _ _ _ heo hdo₂ hke hkd (hrj.trans hrj₂.symm))]

theorem kills_recDestroy {pa : UInt64} {o : Obj} (h : (Cmd.recDestroy pa).kills o = true) :
    ∃ rd, o = .recg rd pa := by
  cases o <;> first | (simp [Cmd.kills] at h; done) | skip
  exact ⟨_, by simp only [Cmd.kills, beq_iff_eq] at h; rw [h]⟩

theorem objOf_eq_recg {k : GranType} {g : Granule} {rd pa : UInt64}
    (h : objOf k g = some (.recg rd pa)) : k = .recg ∧ g.pa = pa := by
  cases k <;> simp_all [objOf]

/-- **RECs.**  The tracker is not told the realm and asks every slot; only one can have the PA. -/
theorem giveBackRec (hs : Sound A R) (hw : R.Wf) (pa : UInt64) (state : GranuleState) :
    Sound (A.giveBackRec state pa slots) (R.apply (.recDestroy pa)) := by
  -- over the slots that are left, those before them having no REC at the PA
  have main : ∀ is : List (Fin maxRealms), (∀ i ∈ is, i ≠ 0) →
      (∀ i, i ≠ 0 → i ∉ is → ∀ d ∈ A.lists (i, .recg), Lists.byPa pa d.2 = false) →
      Sound (A.giveBackRec state pa is) (R.apply (.recDestroy pa)) := by
    intro is
    induction is with
    | nil =>
      intro _ hno
      refine hs.kill (fun _ _ => rfl) (fun _ _ _ => List.Sublist.refl _) ?_ fun _ _ _ => rfl
      intro i hi k o hx
      by_contra hk
      obtain ⟨d, hd, hdo⟩ := List.mem_map.mp hx
      obtain ⟨rd, rfl⟩ := kills_recDestroy (Bool.not_eq_false _ ▸ hk)
      obtain ⟨rfl, hpa⟩ := objOf_eq_recg hdo
      have hne := hno i hi List.not_mem_nil d hd
      exact absurd hpa (by simpa [Lists.byPa] using hne)
    | cons i is ih =>
      intro hslots hno
      have hi : i ≠ 0 := hslots i List.mem_cons_self
      unfold Lists.giveBackRec
      cases he : A.giveBack (i, .recg) (Lists.byPa pa) state with
      | none =>
        refine ih (fun j hj => hslots j (List.mem_cons_of_mem _ hj)) ?_
        intro j hj hjs d hd
        by_cases hji : j = i
        · subst hji
          have hnone : A.find (j, .recg) (Lists.byPa pa) = none := by
            simpa [Lists.giveBack] using he
          simpa using List.find?_eq_none.mp hnone d hd
        · exact hno j hj (fun hm => (List.mem_cons.mp hm).elim hji hjs) d hd
      | some A' =>
        refine hs.takeOut (Repr.ne_nsRef (by decide)) he ?_ fun _ => rfl
        intro j hj k e hmem o heo hk
        obtain ⟨rd, rfl⟩ := kills_recDestroy hk
        obtain ⟨rfl, -⟩ := objOf_eq_recg heo
        obtain ⟨o₁, ho₁, hoo₁, hrj⟩ := hs.live_cell hj hmem
        obtain rfl := Option.some.inj (heo.symm.trans hoo₁)
        -- any node at the PA stands for the same REC, so it is in the same slot
        have hsame : ∀ d ∈ A.lists (i, .recg), Lists.byPa pa d.2 = true →
            objOf .recg d.2 = some (.recg rd pa) ∧ A.rd i = rd := by
          intro d hd hpa
          obtain ⟨o₂, ho₂, hdo₂, hri⟩ := hs.live_cell hi hd
          have hpa' : d.2.pa = pa := by simpa [Lists.byPa] using hpa
          have ho₂pa : o₂.pa = some pa := by
            rw [← Option.some.inj hdo₂, ← hpa']
            rfl
          have heq := hw.pa_inj _ ho₁ o₂ ho₂ pa rfl ho₂pa
          exact ⟨by rw [hdo₂, heq], by rw [← hri, ← heq]; rfl⟩
        obtain ⟨d, hfind, -, -, -⟩ := giveBack_objs (Repr.ne_nsRef (by decide)) he
        have hri := (hsame d (List.mem_of_find?_eq_some hfind)
          (List.find?_some (p := fun c : Cell => Lists.byPa pa c.2) hfind)).2
        have hji : j = i := by
          refine hs.rd_inj j i hj hi ?_ (hrj.symm.trans hri.symm)
          rw [← hrj]
          exact ne_freeRd hw (hw.owner _ ho₁)
        subst hji
        refine ⟨rfl, fun d' hfind' => ?_⟩
        exact (hsame d' (List.mem_of_find?_eq_some hfind')
          (List.find?_some (p := fun c : Cell => Lists.byPa pa c.2) hfind')).1
  exact main slots (fun i hi => mem_slots.mp hi) fun i hi his => absurd (mem_slots.mpr hi) his

/-- **Realms.**  A realm that is destroyed owns nothing any more, so its slot is empty but for
the node of its RD. -/
theorem realmDestroy (hs : Sound A R) (hw : R.Wf) {rd : UInt64} {state : GranuleState}
    (hl : R.Legal (.realmDestroy rd))
    (he : (A.enter rd).giveBack (slotOf A.rd rd, .rd) (Lists.byPa rd) state = some A') :
    Sound { A' with rd := Function.update A'.rd A'.cur freeRd } (R.apply (.realmDestroy rd)) := by
  have hcur : A'.cur = slotOf A.rd rd := by
    obtain ⟨d, -, rfl⟩ := Option.map_eq_some_iff.mp he
    rfl
  have hkills : ∀ {o : Obj}, o ∈ R.objs → (Cmd.realmDestroy rd).kills o = true → o.rd = rd := by
    intro o _ hk
    cases o <;> first | (simp [Cmd.kills] at hk; done) | skip
    simp only [Cmd.kills, beq_iff_eq] at hk
    rw [hk]
    rfl
  obtain ⟨d, hfind, hself, hother, hrd⟩ := giveBack_objs (Repr.ne_nsRef (by decide)) he
  have hrd' : A'.rd = A.rd := hrd
  have hobjs : ∀ j, j ≠ 0 → ∀ k, (j, k) ≠ (slotOf A.rd rd, .rd) →
      A'.objs (j, k) = A.objs (j, k) := fun j hj k hjk =>
    hother (j, k) hjk fun h0 => hj (congrArg Prod.fst h0)
  have hsub : ∀ j, j ≠ 0 → ∀ k, (A'.objs (j, k)).Sublist (A.objs (j, k)) := by
    intro j hj k
    by_cases hjk : (j, k) = (slotOf A.rd rd, .rd)
    · rw [hjk, hself]
      exact List.eraseP_sublist.map _
    · rw [hobjs j hj k hjk]
  -- nothing is left in the realm's slot
  have hempty : ∀ j, j ≠ 0 → j = slotOf A.rd rd → ∀ k, ∀ x, x ∉ A'.objs (j, k) := by
    rintro j hj rfl k x hx
    obtain ⟨o, ho, rfl, hor⟩ := hs.live _ hj k x ((hsub _ hj k).subset hx)
    have hso : o = .realm rd := hl.2 o ho (hor.trans (slotOf_rd hj))
    subst hso
    obtain ⟨e, -, heo⟩ := List.mem_map.mp ((hsub _ hj k).subset hx)
    have hk : k = .rd := objOf_eq_realm heo
    subst hk
    have hd : d ∈ A.lists (slotOf A.rd rd, .rd) := List.mem_of_find?_eq_some hfind
    obtain ⟨o₂, ho₂, hdo₂, hr₂⟩ := hs.live_cell hj hd
    have ho₂ : o₂ = .realm rd := hl.2 o₂ ho₂ (hr₂.trans (slotOf_rd hj))
    rw [hself] at hx
    refine notMem_eraseP (hs.nodup _ hj .rd) hfind ?_
    rw [hdo₂, ho₂]
    exact hx
  have hupd : ∀ j, j ≠ slotOf A.rd rd → Function.update A'.rd A'.cur freeRd j = A.rd j := by
    intro j hj
    rw [hcur, Function.update_of_ne hj, hrd']
  refine ⟨?_, ?_, ?_, ?_⟩
  · intro i hi hf
    by_cases his : i = slotOf A.rd rd
    · exact absurd (by rw [his, hcur]; exact Function.update_self _ _ _) hf
    · show Obj.realm (Function.update A'.rd A'.cur freeRd i) ∈ _
      have hf' : Function.update A'.rd A'.cur freeRd i ≠ freeRd := hf
      rw [hupd i his] at hf' ⊢
      refine RmmState.mem_apply_objs.mpr (Or.inl ⟨hs.rd_live i hi hf', ?_⟩)
      by_contra hk
      have hird : A.rd i = rd := hkills (hs.rd_live i hi hf') (Bool.not_eq_false _ ▸ hk)
      exact his (hs.slot_eq hw hi hird (hird ▸ hs.rd_live i hi hf')).symm
  · intro i j hi hj hf hij
    have hf' : Function.update A'.rd A'.cur freeRd i ≠ freeRd := hf
    have hij' : Function.update A'.rd A'.cur freeRd i = Function.update A'.rd A'.cur freeRd j := hij
    by_cases his : i = slotOf A.rd rd
    · exact absurd (by rw [his, hcur]; exact Function.update_self _ _ _) hf'
    by_cases hjs : j = slotOf A.rd rd
    · exact absurd (hij'.trans (by rw [hjs, hcur]; exact Function.update_self _ _ _)) hf'
    rw [hupd i his] at hf' hij'
    rw [hupd j hjs] at hij'
    exact hs.rd_inj i j hi hj hf' hij'
  · intro i hi k x hx
    by_cases his : i = slotOf A.rd rd
    · exact absurd hx (hempty i hi his k x)
    · obtain ⟨o, ho, rfl, hor⟩ := hs.live i hi k x ((hsub i hi k).subset hx)
      refine ⟨o, RmmState.mem_apply_objs.mpr (Or.inl ⟨ho, ?_⟩), rfl, hor.trans (hupd i his).symm⟩
      by_contra hk
      have hord := hkills ho (Bool.not_eq_false _ ▸ hk)
      exact his (hs.slot_eq hw hi (hor.symm.trans hord) (hord ▸ hw.owner o ho)).symm
  · exact fun i hi k => (hs.nodup i hi k).sublist (hsub i hi k)

/-! ## 5. Commands that make an object, and the rest -/

/-- An object that can be made is not there yet. -/
theorem notMem_of_canMake {o : Obj} (h : R.CanMake o) : o ∉ R.objs := by
  intro ho
  cases hpa : o.pa with
  | some a => exact (h.1 a hpa).2 o ho hpa
  | none =>
    have hself := h.2.2 o ho
    cases o <;> simp_all [Obj.pa, Obj.clash]

/-- **RECs, data, RTTs, auxiliary RTTs, unprotected mappings**: a node joins the slot of the
command's realm, which for a realm without one is slot 0. -/
theorem make (hs : Sound A R) {rd : UInt64} {k : GranType} {d : Cell} {o : Obj}
    (hl : R.Legal c) (hm : c.makes = some o) (hobj : objOf k d.2 = some o) (hrd : o.rd = rd) :
    Sound (A.push (slotOf A.rd rd, k) d) (R.apply c) := by
  have hgrow : Sound A (R.apply c) := hs.grow fun o' ho' =>
    RmmState.mem_apply_objs.mpr (Or.inl ⟨ho', RmmState.kills_of_makes hm o'⟩)
  refine hgrow.push hobj (RmmState.mem_apply_objs.mpr (Or.inr hm)) ?_ ?_
  · intro hi
    rw [hrd, slotOf_rd hi]
  · intro hi hx
    obtain ⟨o', ho', hoo', -⟩ := hs.live _ hi k _ hx
    rw [← Option.some.inj hoo'] at ho'
    exact notMem_of_canMake (RmmState.canMake_of_makes hl hm) ho'

/-- The search for a slot, for a realm that has none: the first free one, if there is one. -/
theorem addRealm_cases {pa : UInt64} (hfresh : ∀ i, i ≠ 0 → A.rd i ≠ pa) :
    (A.addRealm pa = A ∧ ∀ i, i ≠ 0 → A.rd i ≠ freeRd) ∨
      ∃ i, i ≠ 0 ∧ A.rd i = freeRd ∧
        A.addRealm pa = { A with rd := Function.update A.rd i pa, cur := i } := by
  unfold Lists.addRealm
  cases hf : slots.find? fun i => A.rd i == pa || A.rd i == freeRd with
  | none =>
    refine Or.inl ⟨rfl, fun i hi hfree => ?_⟩
    have hno := List.find?_eq_none.mp hf i (mem_slots.mpr hi)
    exact hno (by simp [hfree])
  | some i =>
    have hi : i ≠ 0 := mem_slots.mp (List.mem_of_find?_eq_some hf)
    have hor := List.find?_some hf
    simp only [Bool.or_eq_true, beq_iff_eq] at hor
    exact Or.inr ⟨i, hi, hor.resolve_left (hfresh i hi), if_neg (hfresh i hi)⟩

/-- A live realm takes a free slot, with the node of its RD in it. -/
theorem openSlot {B : Lists} (hs : Sound A R) (hw : R.Wf) {i : Fin maxRealms} {rd : UInt64}
    {d : Cell} (hi : i ≠ 0) (hfree : A.rd i = freeRd) (hlive : Obj.realm rd ∈ R.objs)
    (hfresh : ∀ j, j ≠ 0 → A.rd j ≠ rd) (hrd : B.rd = Function.update A.rd i rd)
    (hlists : B.lists = Function.update A.lists (i, .rd) [d]) (hd : d.2.pa = rd) : Sound B R := by
  have hrdi : ∀ j, j ≠ i → B.rd j = A.rd j := fun j hj => by
    rw [hrd, Function.update_of_ne hj]
  have hrds : B.rd i = rd := by rw [hrd, Function.update_self]
  have hobjs : ∀ j k, (j, k) ≠ (i, GranType.rd) → B.objs (j, k) = A.objs (j, k) := by
    intro j k hjk
    rw [Lists.objs, hlists, Function.update_of_ne hjk]
    rfl
  have hself : B.objs (i, .rd) = [some (.realm rd)] := by
    rw [Lists.objs, hlists, Function.update_self, List.map_singleton, objOf, hd]
  refine ⟨?_, ?_, ?_, ?_⟩
  · intro j hj hfr
    by_cases hji : j = i
    · rw [hji, hrds]
      exact hlive
    · rw [hrdi j hji] at hfr ⊢
      exact hs.rd_live j hj hfr
  · intro j j' hj hj' hfr hjj
    by_cases hji : j = i <;> by_cases hji' : j' = i
    · rw [hji, hji']
    · rw [hji, hrds, hrdi j' hji'] at hjj
      exact absurd hjj.symm (hfresh j' hj')
    · rw [hji', hrds, hrdi j hji] at hjj
      exact absurd hjj (hfresh j hj)
    · rw [hrdi j hji] at hfr hjj
      rw [hrdi j' hji'] at hjj
      exact hs.rd_inj j j' hj hj' hfr hjj
  · intro j hj k x hx
    by_cases hjk : (j, k) = (i, GranType.rd)
    · obtain ⟨rfl, rfl⟩ := Prod.mk.inj hjk
      rw [hself] at hx
      exact ⟨.realm rd, hlive, List.mem_singleton.mp hx, hrds.symm⟩
    · rw [hobjs j k hjk] at hx
      by_cases hji : j = i
      · -- the slot was free, so nothing else is in it
        subst hji
        rw [Lists.objs, hs.free_empty hw hj hfree k] at hx
        exact absurd hx List.not_mem_nil
      · obtain ⟨o, ho, hxo, hor⟩ := hs.live j hj k x hx
        exact ⟨o, ho, hxo, hor.trans (hrdi j hji).symm⟩
  · intro j hj k
    by_cases hjk : (j, k) = (i, GranType.rd)
    · rw [hjk, hself]
      exact List.nodup_singleton _
    · rw [hobjs j k hjk]
      exact hs.nodup j hj k

/-- No slot is taken by a realm that can still be made. -/
theorem rd_ne_of_canMake (hs : Sound A R) (hw : R.Wf) {rd params : UInt64}
    (hl : R.Legal (.realmCreate rd params)) {i : Fin maxRealms} (hi : i ≠ 0) : A.rd i ≠ rd := by
  rintro rfl
  have hlive : Obj.realm (A.rd i) ∈ (R.apply (.realmCreate (A.rd i) params)).objs :=
    RmmState.mem_apply_objs.mpr (Or.inr rfl)
  exact notMem_of_canMake hl (hs.rd_live i hi (ne_freeRd (hw.apply hl) hlive))

/-- **Realms**: the first free slot, or slot 0. -/
theorem realmCreate (hs : Sound A R) (hw : R.Wf) {rd params : UInt64} {d : Cell}
    (hl : R.Legal (.realmCreate rd params)) (hd : d.2.pa = rd) :
    Sound (((A.enter rd).addRealm rd).set (((A.enter rd).addRealm rd).cur, .rd) [d])
      (R.apply (.realmCreate rd params)) := by
  have hgrow : Sound A (R.apply (.realmCreate rd params)) := hs.grow fun o' ho' =>
    RmmState.mem_apply_objs.mpr (Or.inl ⟨ho', rfl⟩)
  have hfresh : ∀ i, i ≠ 0 → (A.enter rd).rd i ≠ rd := fun i hi => hs.rd_ne_of_canMake hw hl hi
  rcases addRealm_cases hfresh with ⟨heq, -⟩ | ⟨i, hi, hfree, heq⟩
  · have hcur : (A.enter rd).cur = 0 := by
      by_contra hne
      exact hfresh _ hne (slotOf_rd hne)
    rw [heq, hcur]
    exact (hgrow.enter rd).set_zero .rd [d]
  · rw [heq]
    exact (hgrow.enter rd).openSlot (hw.apply hl) hi hfree
      (RmmState.mem_apply_objs.mpr (Or.inr rfl)) hfresh rfl rfl hd

/-- A payload change that does not touch what a node stands for. -/
theorem modify (hs : Sound A R) (a : Ptr) {f : Granule → Granule}
    (hf : ∀ k g, objOf k (f g) = objOf k g) : Sound (A.modify a f) R := by
  refine hs.congr (fun _ _ => rfl) fun i _ k => ?_
  simp only [Lists.objs, Lists.modify_lists, modifyAt, List.map_map]
  refine List.map_congr_left fun c _ => ?_
  dsimp only [Function.comp]
  split
  · exact hf k c.2
  · rfl

/-! ## 6. Every accepted command -/

/-- `val_host_update_granule_state` for every object but a realm. -/
theorem update (hs : Sound A R) {rd pa ipa level idx : UInt64} {state : GranuleState}
    {k : GranType} {o : Obj} (fresh : Cell) (hl : R.Legal c) (hm : c.makes = some o)
    (hk : state.granType = some k) (hkr : k ≠ .rd) (ho : o.rd = rd)
    (hmoved : ∀ g, g.pa = pa → objOf k (movedGranule rd state ipa level idx g) = some o)
    (hmapped : state = .unprotected →
      ∀ g, objOf k (mappedGranule rd state pa ipa level idx g) = some o) :
    Sound (A.update fresh rd state pa ipa level idx) (R.apply c) := by
  have hgrow : Sound A (R.apply c) := hs.grow fun o' ho' =>
    RmmState.mem_apply_objs.mpr (Or.inl ⟨ho', RmmState.kills_of_makes hm o'⟩)
  cases hf : A.find nsRef (Lists.byPa pa) with
  | none =>
    rw [Lists.update_of_none _ _ _ _ _ _ _ hf]
    by_cases hu : state = .unprotected
    · rw [if_pos hu]
      have hkv : k = .validNs := by
        rw [hu] at hk
        exact (Option.some.inj hk).symm
      rw [← hkv]
      exact (hs.enter rd).make (d := (fresh.1, mappedGranule rd state pa ipa level idx fresh.2))
        hl hm (hmapped hu _) ho
    · rw [if_neg hu]
      exact hgrow.enter rd
  | some d =>
    rw [Lists.update_of_some _ _ _ _ _ hf hk, if_neg hkr]
    exact ((hs.enter rd).set_zero .ns _).make
      (d := (d.1, movedGranule rd state ipa level idx d.2)) hl hm (hmoved _ (Lists.pa_of_find hf)) ho

theorem undelegate (hs : Sound A R) (pa : UInt64) : Sound (A.undelegate pa) R := by
  unfold Lists.undelegate
  split
  · exact hs
  · split
    · exact hs.set_zero .ns _
    · split
      · exact hs.modify _ fun k g => by cases k <;> rfl
      · exact hs

theorem auxInfo (hs : Sound A R) (granState : GranuleState) (val : Bool) {rd index ipa : UInt64}
    (he : A.auxInfo granState rd index ipa val = some A') : Sound A' R := by
  rcases Lists.auxInfo_cases he with rfl | ⟨a, i, rfl⟩
  · exact hs.enter rd
  · exact (hs.enter rd).modify a fun k g => by cases k <;> rfl

/-- A command that makes and ends nothing. -/
theorem idle (hs : Sound A R) (hm : c.makes = none) (hk : ∀ o, c.kills o = false) :
    Sound A (R.apply c) :=
  hs.grow fun o ho => by rw [RmmState.apply_objs_of_idle hm hk]; exact ho

/-- **Every accepted legal command keeps the slots sound.** -/
theorem effect {fresh : Cell} (hs : Sound A R) (hw : R.Wf) (hl : R.Legal c)
    (he : Granules.effect fresh A c = some A') : Sound A' (R.apply c) := by
  cases hp : place c with
  | some p =>
    have hok := place_spec hp
    rw [effect_of_place fresh A hp] at he
    obtain rfl := Option.some.inj he
    exact hs.update fresh hl hok.makes hok.granType hok.kind_ne hok.rd hok.moved fun _ => hok.mapped
  | none =>
    cases hq : entry c with
    | some q =>
      rw [effect_of_entry fresh A hq] at he
      exact hs.giveBack hw (entry_ne_ns hq) (fun _ _ _ => entry_kills hq)
        (fun _ _ _ _ => entry_clash hq) (entry_keeps_realms hq) he
    | none =>
      cases c with
      | granuleDelegate addr =>
        obtain rfl := Option.some.inj he
        exact (hs.set_zero .ns _).idle rfl fun _ => rfl
      | granuleUndelegate addr =>
        obtain rfl := Option.some.inj he
        exact (hs.undelegate addr).idle rfl fun _ => rfl
      | realmCreate rd params =>
        obtain rfl := Option.some.inj he
        cases hf : A.find nsRef (Lists.byPa rd) with
        | none =>
          rw [Lists.update_of_none _ _ _ _ _ _ _ hf, if_neg (by decide)]
          exact (hs.enter rd).grow fun o ho => RmmState.mem_apply_objs.mpr (Or.inl ⟨ho, rfl⟩)
        | some d =>
          rw [Lists.update_of_some _ _ _ _ _ hf (k := .rd) rfl, if_pos rfl]
          exact (hs.set_zero .ns _).realmCreate hw hl
            (d := (d.1, movedGranule rd .rd 0 0 0 d.2)) (Lists.pa_of_find hf :)
      | realmDestroy rd =>
        simp only [Granules.effect, Lists.destroy, reduceCtorEq, if_false, ne_eq, not_false_iff,
          if_true] at he
        obtain ⟨B, hB, rfl⟩ := Option.map_eq_some_iff.mp he
        exact hs.realmDestroy hw hl hB
      | recDestroy pa =>
        obtain rfl := Option.some.inj he
        exact hs.giveBackRec hw pa .delegated
      | rttAuxMapProtected rd ipa index =>
        exact (hs.auxInfo .data true he).idle rfl fun _ => rfl
      | rttAuxMapUnprotected rd ipa index =>
        exact (hs.auxInfo .unprotected true he).idle rfl fun _ => rfl
      | rttAuxUnmapProtected rd ipa index =>
        exact (hs.auxInfo .data false he).idle rfl fun _ => rfl
      | rttAuxUnmapUnprotected rd ipa index =>
        exact (hs.auxInfo .unprotected false he).idle rfl fun _ => rfl
      | features index =>
        obtain rfl := Option.some.inj he
        exact hs.idle rfl fun _ => rfl
      | _ => simp [place, entry] at hp hq

end Sound

/-! ## 7. The nodes of one slot -/

section Effects

variable {t : Tracker} {A A' : Lists} {R : RmmState} {i : Fin maxRealms}

/-- Undelegation touches the NS list only. -/
theorem undelegate_lists (hrep : Repr t A) (pa : UInt64) :
    (A.undelegate pa).cur = A.cur ∧ (A.undelegate pa).rd = A.rd ∧
      ∀ r, r ≠ nsRef → (A.undelegate pa).lists r = A.lists r := by
  unfold Lists.undelegate
  cases hf : A.find nsRef (Lists.byPa pa) with
  | none => exact ⟨rfl, rfl, fun _ _ => rfl⟩
  | some d =>
    dsimp only
    split
    · exact ⟨rfl, rfl, fun r hr => Lists.drop_lists_of_ne _ _ hr⟩
    · split
      · refine ⟨rfl, rfl, fun r hr => ?_⟩
        rw [Lists.modify_lists]
        exact modifyAt_of_notMem (hrep.notMem_of_mem (List.mem_of_find?_eq_some hf) hr)
      · exact ⟨rfl, rfl, fun _ _ => rfl⟩

/-- A node that is given back, when none before it has the key. -/
theorem giveBack_at {r : ListRef} {key : Granule → Bool} {state : GranuleState}
    {kept rest : List Cell} {d : Cell} (hr : r ≠ nsRef) (hl : A.lists r = kept ++ d :: rest)
    (hkept : ∀ e ∈ kept, key e.2 = false) (hkey : key d.2 = true)
    (he : A.giveBack r key state = some A') :
    A'.lists r = kept ++ rest ∧ (d.1, withState state d.2) ∈ A'.lists nsRef ∧
      (∀ r', r' ≠ r → r' ≠ nsRef → A'.lists r' = A.lists r') ∧ A'.cur = A.cur ∧ A'.rd = A.rd := by
  have hfind : A.find r key = some d := by
    rw [Lists.find, hl]
    exact List.find?_eq_some_iff_append.mpr ⟨hkey, kept, rest, rfl, fun e he => by simp [hkept e he]⟩
  obtain ⟨d', hd', rfl⟩ := Option.map_eq_some_iff.mp he
  obtain rfl := Option.some.inj (hfind.symm.trans hd')
  refine ⟨?_, ?_, ?_, rfl, rfl⟩
  · rw [Lists.push_lists_of_ne _ _ hr, Lists.drop_lists_self, hl,
      List.eraseP_append_right _ (fun e he => by simp [hkept e he]),
      List.eraseP_cons_of_pos (p := fun c : Cell => key c.2) hkey]
  · rw [Lists.push_lists_self]
    exact List.mem_append_right _ List.mem_cons_self
  · intro r' hr' hns
    rw [Lists.push_lists_of_ne _ _ hns, Lists.drop_lists_of_ne _ _ hr']

/-- In a sound list the nodes before `d` have none of the keys that mean the object of `d`. -/
theorem Sound.before (hs : Sound A R) (hi : i ≠ 0) {k : GranType} {kept rest : List Cell}
    {d : Cell} (hl : A.lists (i, k) = kept ++ d :: rest) (key : Granule → Bool)
    (hsame : ∀ e ∈ A.lists (i, k), key e.2 = true → objOf k e.2 = objOf k d.2) :
    ∀ e ∈ kept, key e.2 = false := by
  intro e he
  by_contra hk
  have hn := hs.nodup i hi k
  have hse := hsame e (by rw [hl]; exact List.mem_append_left _ he) (Bool.not_eq_false _ ▸ hk)
  rw [Lists.objs, hl, List.map_append, List.map_cons] at hn
  have hdis := List.disjoint_of_nodup_append hn
  exact hdis (List.mem_map_of_mem he) (by rw [hse]; exact List.mem_cons_self)

theorem objOf_rd {k : GranType} {g : Granule} {o : Obj} (hk : k ≠ .rd) (h : objOf k g = some o) :
    o.rd = g.rd := by
  cases k with
  | ns => exact absurd h (by simp [objOf])
  | rd => exact absurd rfl hk
  | validNs =>
    obtain ⟨-, rfl⟩ := objOf_validNs h
    rfl
  | _ =>
    obtain rfl := Option.some.inj h
    rfl

/-- The slot of the realm a node names is the slot the node is in. -/
theorem Sound.slot_of_node (hs : Sound A R) (hw : R.Wf) (hi : i ≠ 0) {k : GranType}
    (hk : k ≠ .rd) {d : Cell} (hd : d ∈ A.lists (i, k)) : slotOf A.rd d.2.rd = i := by
  obtain ⟨o, ho, hdo, hrd⟩ := hs.live_cell hi hd
  rw [← objOf_rd hk hdo]
  exact hs.slot_eq hw hi hrd.symm (hw.owner o ho)

/-- Two nodes of a slot for objects with one key stand for one object. -/
theorem Sound.same_of_clash (hs : Sound A R) (hw : R.Wf) (hi : i ≠ 0) {k : GranType}
    {d e : Cell} (hd : d ∈ A.lists (i, k)) (he : e ∈ A.lists (i, k))
    (hclash : ∀ o o', objOf k e.2 = some o → objOf k d.2 = some o' → o.rd = o'.rd →
      o.clash o' = true) : objOf k e.2 = objOf k d.2 := by
  obtain ⟨o, ho, heo, hre⟩ := hs.live_cell hi he
  obtain ⟨o', ho', hdo, hrd⟩ := hs.live_cell hi hd
  rw [heo, hdo, hw.key_inj o ho o' ho' (hclash o o' heo hdo (hre.trans hrd.symm))]

/-- Two REC nodes with one PA, in whichever slots, stand for one REC. -/
theorem Sound.same_of_pa (hs : Sound A R) (hw : R.Wf) {j : Fin maxRealms} (hi : i ≠ 0)
    (hj : j ≠ 0) {d e : Cell} (hd : d ∈ A.lists (i, .recg)) (he : e ∈ A.lists (j, .recg))
    (hpa : e.2.pa = d.2.pa) :
    objOf .recg e.2 = objOf .recg d.2 ∧ j = i := by
  obtain ⟨o, ho, heo, hre⟩ := hs.live_cell hj he
  obtain ⟨o', ho', hdo, hrd⟩ := hs.live_cell hi hd
  have hoo : o = o' := by
    refine hw.pa_inj o ho o' ho' d.2.pa ?_ ?_
    · rw [← Option.some.inj heo, ← hpa]
      rfl
    · rw [← Option.some.inj hdo]
      rfl
  refine ⟨by rw [heo, hdo, hoo], hs.rd_inj j i hj hi ?_ (hre.symm.trans (hoo ▸ hrd))⟩
  rw [← hre]
  exact ne_freeRd hw (hw.owner o ho)

/-- A REC is given back from the slot it is in, though every slot is asked. -/
theorem Sound.giveBackRec_eq (hs : Sound A R) (hw : R.Wf) (hi : i ≠ 0) {d : Cell}
    (hd : d ∈ A.lists (i, .recg)) (state : GranuleState) :
    some (A.giveBackRec state d.2.pa slots) = A.giveBack (i, .recg) (Lists.byPa d.2.pa) state := by
  -- no other slot has a REC at the PA
  have hnone : ∀ j, j ≠ 0 → j ≠ i → A.find (j, .recg) (Lists.byPa d.2.pa) = none := by
    intro j hj hji
    refine List.find?_eq_none.mpr fun e he hk => hji ?_
    exact (hs.same_of_pa hw hi hj hd he (by simpa [Lists.byPa] using hk)).2
  have hsome : ∃ e, A.find (i, .recg) (Lists.byPa d.2.pa) = some e := by
    cases hf : A.find (i, .recg) (Lists.byPa d.2.pa) with
    | some e => exact ⟨e, rfl⟩
    | none => exact absurd (List.find?_eq_none.mp hf d hd) (by simp [Lists.byPa])
  obtain ⟨e, he⟩ := hsome
  have main : ∀ is : List (Fin maxRealms), (∀ j ∈ is, j ≠ 0) → i ∈ is →
      some (A.giveBackRec state d.2.pa is)
        = A.giveBack (i, .recg) (Lists.byPa d.2.pa) state := by
    intro is
    induction is with
    | nil => exact fun _ hmem => absurd hmem List.not_mem_nil
    | cons j is ih =>
      intro hslots hmem
      unfold Lists.giveBackRec
      by_cases hji : j = i
      · subst hji
        simp [Lists.giveBack, he]
      · have hno := hnone j (hslots j List.mem_cons_self) hji
        rw [show A.giveBack (j, .recg) (Lists.byPa d.2.pa) state = none by
          simp [Lists.giveBack, hno]]
        exact ih (fun j' hj' => hslots j' (List.mem_cons_of_mem _ hj'))
          ((List.mem_cons.mp hmem).resolve_left fun h => hji h.symm)
  exact main slots (fun j hj => mem_slots.mp hj) (mem_slots.mpr hi)

end Effects

end RmmAcs.Granules
