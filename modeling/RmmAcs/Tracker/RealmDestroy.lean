/-
# `val_host_realm_destroy` tears down exactly one realm

The function is a sequence of loops, and each loop shortens the list it walks.  What makes it
work is that a node leaves its list only when its own command is accepted, and that the key the
callee looks for -- a PA, an IPA, an IPA and a level -- picks no other node of the list: two live
objects of one realm never share a key.

So every command the function will issue can be read off the lists it STARTS with.  `Pass` is one
loop, `Pass.script` the commands it issues over a list; `Tearing` says how far the function has
come, and section 3 puts the loops together.
-/
import RmmAcs.Tracker.Run

namespace RmmAcs.Granules

open RmmAcs Lib Rmm

/-! ## 1. The script -/

/-- One loop: the list it walks, the nodes it acts on, and the commands it issues for one. -/
structure Pass where
  kind : GranType
  pick : Granule → Bool
  cmds : Granule → List Cmd

/-- The commands of the loop over `has_auxiliary`. -/
def auxCmds (f : UInt64 → Cmd) (g : Granule) : List Cmd :=
  ((List.finRange maxAuxPlanes).filter g.hasAuxiliary).map fun i => f (UInt64.ofNat (i.val + 1))

def recPass : Pass :=
  ⟨.recg, fun _ => true, fun g => [.recDestroy g.pa, .granuleUndelegate g.pa]⟩

def dataPass (sliced : UInt8) : Pass :=
  ⟨.data, fun g => g.isGranuleSliced == sliced, fun g =>
    auxCmds (.rttAuxUnmapProtected g.rd g.ipa) g ++
      [.dataDestroy g.rd g.ipa, .granuleUndelegate g.pa]⟩

def validNsPass : Pass :=
  ⟨.validNs, fun _ => true, fun g =>
    auxCmds (.rttAuxUnmapUnprotected g.rd g.ipa) g ++ [.rttUnmapUnprotected g.rd g.ipa g.level]⟩

def rttPass (level : UInt64) : Pass :=
  ⟨.rtt, fun g => g.level == level, fun g =>
    [.rttDestroy g.rd g.ipa g.level, .granuleUndelegate g.pa]⟩

def rttAuxPass (index level : UInt64) : Pass :=
  ⟨.rttAux, fun g => g.level == level && g.rttTreeIdx == index, fun g =>
    [.rttAuxDestroy g.rd g.ipa g.level index, .granuleUndelegate g.pa]⟩

/-- What a loop issues over a list. -/
def Pass.script (p : Pass) (l : List Cell) : List Cmd :=
  (l.filter fun c => p.pick c.2).flatMap fun c => p.cmds c.2

/-- The loops of the primary tree. -/
def primaryPasses : List Pass :=
  [recPass, dataPass 1, dataPass 0, validNsPass, rttPass 3, rttPass 2, rttPass 1]

/-- The loops of the auxiliary trees. -/
def auxPasses : List Pass :=
  [1, 2, 3].flatMap fun index => [3, 2, 1].map fun level => rttAuxPass index level

/-- What a sequence of loops issues over the lists of a slot. -/
def scriptOf (ps : List Pass) (L : GranType → List Cell) : List Cmd :=
  ps.flatMap fun p => p.script (L p.kind)

/-- The command of the cleanup that destroys an object. -/
def destroyCmd : Obj → Cmd
  | .realm rd => .realmDestroy rd
  | .recg _ pa => .recDestroy pa
  | .data rd ipa _ => .dataDestroy rd ipa
  | .rtt rd ipa level _ => .rttDestroy rd ipa level
  | .rttAux rd ipa level index _ => .rttAuxDestroy rd ipa level index
  | .unprotected rd ipa level => .rttUnmapUnprotected rd ipa level

/-- The cleanup does not fold RTTs, nor make or delegate anything. -/
def Cleans (c : Cmd) : Prop :=
  Ends c ∧ (∀ rd ipa level, c ≠ .rttFold rd ipa level) ∧
    ∀ rd ipa level index, c ≠ .rttAuxFold rd ipa level index

/-- Among its commands, one alone destroys a given object. -/
theorem kills_iff_of_cleans {c : Cmd} (hc : Cleans c) (o : Obj) :
    c.kills o = true ↔ c = destroyCmd o := by
  obtain ⟨-, hfold, haux⟩ := hc
  cases c with
  | rttFold rd ipa level => exact absurd rfl (hfold rd ipa level)
  | rttAuxFold rd ipa level index => exact absurd rfl (haux rd ipa level index)
  | _ => cases o <;> simp [Cmd.kills, destroyCmd, and_assoc]

/-! ## 2. How far the function has come -/

/-- **`val_host_realm_destroy` at work** on slot `i`, started in `h₀` with the lists `A₀`: the
slot's lists are `L`, the commands `cmds` have been issued and accepted, and no other slot has
changed. -/
structure Tearing (h₀ : Host) (A₀ : Lists) (i : Fin maxRealms) (L : GranType → List Cell)
    (cmds : List Cmd) (h : Host) (A : Lists) : Prop where
  holds : Holds Sound h A
  cur : A.cur = i
  rd : A.rd = A₀.rd
  own : ∀ k, A.lists (i, k) = L k
  other : ∀ j, j ≠ 0 → j ≠ i → ∀ k, A.lists (j, k) = A₀.lists (j, k)
  trace : ∃ seg : Trace, h.trace = h₀.trace ++ seg ∧ seg.map Prod.fst = cmds ∧
    ∀ e ∈ seg, Cleans e.1 ∧ (e.2.x0 = 0 ∨ e.1 = .features 0)

section Loops

variable {rmm : Monitor} {h₀ h h' : Host} {A₀ A A' : Lists} {i : Fin maxRealms}
  {L : GranType → List Cell} {cmds : List Cmd} {c : Cmd}

/-- The lists of a slot change like this when a command has these effects on them. -/
structure SlotEffect (i : Fin maxRealms) (L' : GranType → List Cell) (A A' : Lists) : Prop where
  cur : A'.cur = i
  rd : A'.rd = A.rd
  own : ∀ k, A'.lists (i, k) = L' k
  other : ∀ j, j ≠ 0 → j ≠ i → ∀ k, A'.lists (j, k) = A.lists (j, k)

/-- The effect of a node that is given back, when none before it has the key. -/
theorem slotEffect_of_giveBack {k : GranType} {key : Granule → Bool} {state : GranuleState}
    {kept rest : List Cell} {d : Cell} (hi0 : i ≠ 0) (hk : k ≠ .ns) (hcur : A.cur = i)
    (hown : ∀ k, A.lists (i, k) = L k) (hl : L k = kept ++ d :: rest)
    (hkept : ∀ e ∈ kept, key e.2 = false) (hkey : key d.2 = true)
    (he : A.giveBack (i, k) key state = some A') :
    SlotEffect i (Function.update L k (kept ++ rest)) A A' ∧
      (d.1, withState state d.2) ∈ A'.lists nsRef := by
  obtain ⟨hself, hmem, hother, hcur', hrd⟩ :=
    giveBack_at (Repr.ne_nsRef hk) ((hown k).trans hl) hkept hkey he
  refine ⟨⟨hcur'.trans hcur, hrd, fun k' => ?_, fun j hj hji k' => ?_⟩, hmem⟩
  · by_cases hk' : k' = k
    · subst hk'
      rw [Function.update_self]
      exact hself
    · rw [Function.update_of_ne hk', hother _ (fun he => hk' (congrArg Prod.snd he))
        (fun he => hi0 (congrArg Prod.fst he))]
      exact hown k'
  · exact hother _ (fun he => hji (congrArg Prod.fst he)) fun he => hj (congrArg Prod.fst he)

/-- An accepted command that has an effect on the slot. -/
theorem Tearing.step (ht : Tearing h₀ A₀ i L cmds h A) (hr : LegalMonitor rmm) (hc : Cleans c)
    (hi : issue rmm c h = .ok (true, h')) :
    ∃ A', Holds Sound h' A' ∧ (replay h.trace).Legal c ∧
      effect (freshCell h.tracker) A c = some A' ∧
      ∀ L', SlotEffect i L' A A' → Tearing h₀ A₀ i L' (cmds ++ [c]) h' A' := by
  obtain ⟨r, hcall, hb⟩ := issue_ok hi
  have h0 : r.x0 = 0 := by simpa using hb.symm
  obtain ⟨A', hA'⟩ := ht.holds.call stable_sound hr (fun _ => trivial) hcall
  refine ⟨A', hA'.holds, hA'.legal h0, hA'.effect h0, fun L' hs => ?_⟩
  obtain ⟨seg, hseg, hcmds, hall⟩ := ht.trace
  refine ⟨hA'.holds, hs.cur, hs.rd.trans ht.rd, hs.own,
    fun j hj hji k => (hs.other j hj hji k).trans (ht.other j hj hji k), seg ++ [(c, r)], ?_, ?_, ?_⟩
  · rw [hA'.trace, hseg, List.append_assoc]
  · rw [List.map_append, hcmds]
    rfl
  · intro e he
    rcases List.mem_append.mp he with he | he
    · exact hall e he
    · rw [List.mem_singleton.mp he]
      exact ⟨hc, Or.inl h0⟩

theorem Tearing.node_eq (ht : Tearing h₀ A₀ i L cmds h A) {k : GranType} {d : Cell}
    (hd : d ∈ L k) : node d.1 h = d.2 :=
  (ht.holds.rep.chain (i, k)).data_eq (by rw [ht.own k]; exact hd)

/-- The undelegation of a granule does not touch the slot. -/
theorem Tearing.undelegate (ht : Tearing h₀ A₀ i L cmds h A) (hr : LegalMonitor rmm)
    (hi0 : i ≠ 0) {pa : UInt64} (hi : issue rmm (.granuleUndelegate pa) h = .ok (true, h')) :
    ∃ A', Tearing h₀ A₀ i L (cmds ++ [.granuleUndelegate pa]) h' A' := by
  obtain ⟨A', -, -, heff, hT⟩ := ht.step hr ⟨⟨rfl, by simp⟩, by simp, by simp⟩ hi
  obtain rfl := Option.some.inj heff
  obtain ⟨hcur, hrd, hlists⟩ := undelegate_lists ht.holds.rep pa
  have hne : ∀ j : Fin maxRealms, j ≠ 0 → ∀ k, ((j, k) : ListRef) ≠ nsRef := fun j hj k he =>
    hj (congrArg Prod.fst he)
  exact ⟨_, hT L ⟨hcur.trans ht.cur, hrd, fun k => (hlists _ (hne i hi0 k)).trans (ht.own k),
    fun j hj _ k => hlists _ (hne j hj k)⟩⟩

/-- **A destroy command takes its own node out of the slot.** -/
theorem Tearing.destroyNode (ht : Tearing h₀ A₀ i L cmds h A) (hr : LegalMonitor rmm)
    (hi0 : i ≠ 0) {q : Entry} (hq : entry c = some q) {kept rest : List Cell} {d : Cell}
    (hl : L q.kind = kept ++ d :: rest) (hkr : q.kind ≠ .rd) (hrd : q.rd = d.2.rd)
    (hkey : q.key d.2 = true) (hc : Cleans c) (hi : issue rmm c h = .ok (true, h')) :
    ∃ A', Tearing h₀ A₀ i (Function.update L q.kind (kept ++ rest)) (cmds ++ [c]) h' A' ∧
      node d.1 h' = withState q.state d.2 := by
  obtain ⟨A', hA', -, heff, hT⟩ := ht.step hr hc hi
  have hs := ht.holds.inv
  have hw := ht.holds.wf
  have hlA : A.lists (i, q.kind) = kept ++ d :: rest := (ht.own _).trans hl
  have hd : d ∈ A.lists (i, q.kind) := by rw [hlA]; simp
  have hslot : slotOf A.rd q.rd = i := by rw [hrd]; exact hs.slot_of_node hw hi0 hkr hd
  rw [effect_of_entry _ _ hq, hslot] at heff
  have hkept := hs.before hi0 hlA q.key fun e he hke =>
    hs.same_of_clash hw hi0 hd he fun o o' heo hdo hor => entry_clash hq heo hdo hke hkey hor
  obtain ⟨hse, hmem⟩ := slotEffect_of_giveBack (A := A.enter q.rd) hi0 (entry_ne_ns hq) hslot
    ht.own hl hkept hkey heff
  exact ⟨A', hT _ ⟨hse.cur, hse.rd, hse.own, hse.other⟩, (hA'.rep.chain nsRef).data_eq hmem⟩

/-- **REC_DESTROY** does too. -/
theorem Tearing.destroyRec (ht : Tearing h₀ A₀ i L cmds h A) (hr : LegalMonitor rmm)
    (hi0 : i ≠ 0) {kept rest : List Cell} {d : Cell} (hl : L .recg = kept ++ d :: rest)
    (hi : issue rmm (.recDestroy d.2.pa) h = .ok (true, h')) :
    ∃ A', Tearing h₀ A₀ i (Function.update L .recg (kept ++ rest))
        (cmds ++ [.recDestroy d.2.pa]) h' A' ∧ node d.1 h' = withState .delegated d.2 := by
  obtain ⟨A', hA', -, heff, hT⟩ := ht.step hr ⟨⟨rfl, by simp⟩, by simp, by simp⟩ hi
  have hs := ht.holds.inv
  have hw := ht.holds.wf
  have hlA : A.lists (i, .recg) = kept ++ d :: rest := (ht.own _).trans hl
  have hd : d ∈ A.lists (i, .recg) := by rw [hlA]; simp
  have heff' : A.giveBack (i, .recg) (Lists.byPa d.2.pa) .delegated = some A' := by
    rw [← hs.giveBackRec_eq hw hi0 hd]
    exact heff
  have hkept := hs.before hi0 hlA (Lists.byPa d.2.pa) fun e he hke =>
    (hs.same_of_pa hw hi0 hi0 hd he (by simpa [Lists.byPa] using hke)).1
  obtain ⟨hse, hmem⟩ := slotEffect_of_giveBack hi0 (by decide) ht.cur ht.own hl hkept
    (by simp [Lists.byPa]) heff'
  exact ⟨A', hT _ hse, (hA'.rep.chain nsRef).data_eq hmem⟩

/-- A node of the slot with its flags changed. -/
def withFlags (x : Fin maxAuxPlanes → Bool) (d : Cell) : Cell :=
  (d.1, { d.2 with hasAuxiliary := x })

/-- Two mappings of a Realm at one IPA clash. -/
theorem clash_of_ipa {k : GranType} (hk : k = .data ∨ k = .validNs) {g g' : Granule} {o o' : Obj}
    (ho : objOf k g = some o) (ho' : objOf k g' = some o') (hrd : o.rd = o'.rd)
    (hipa : g.ipa = g'.ipa) : o.clash o' = true := by
  rcases hk with rfl | rfl
  · obtain rfl := Option.some.inj ho
    obtain rfl := Option.some.inj ho'
    have hgrd : g.rd = g'.rd := hrd
    simp [Obj.clash, hgrd, hipa]
  · obtain ⟨-, rfl⟩ := objOf_validNs ho
    obtain ⟨-, rfl⟩ := objOf_validNs ho'
    have hgrd : g.rd = g'.rd := hrd
    simp [Obj.clash, hgrd, hipa]

/-- **An auxiliary mapping is unmapped**: the flag of the node is cleared, and nothing else in the
slot changes. -/
theorem Tearing.unmapAux (ht : Tearing h₀ A₀ i L cmds h A) (hr : LegalMonitor rmm) (hi0 : i ≠ 0)
    {granState : GranuleState} {k : GranType} {index : Fin maxAuxPlanes} {kept rest : List Cell}
    {d : Cell} (hgran : granState = .data ∧ k = .data ∨ granState = .unprotected ∧ k = .validNs)
    (hl : L k = kept ++ d :: rest) (hc : Cleans c)
    (heffect : ∀ fresh A, effect fresh A c =
      A.auxInfo granState d.2.rd (UInt64.ofNat (index + 1)) d.2.ipa false)
    (hi : issue rmm c h = .ok (true, h')) :
    ∃ A', Tearing h₀ A₀ i (Function.update L k (kept ++
        withFlags (Function.update d.2.hasAuxiliary index false) d :: rest)) (cmds ++ [c]) h' A' := by
  obtain ⟨A', -, -, heff, hT⟩ := ht.step hr hc hi
  have hs := ht.holds.inv
  have hw := ht.holds.wf
  have hlA : A.lists (i, k) = kept ++ d :: rest := (ht.own _).trans hl
  have hd : d ∈ A.lists (i, k) := by rw [hlA]; simp
  have hkr : k ≠ .rd := by rcases hgran with ⟨-, rfl⟩ | ⟨-, rfl⟩ <;> decide
  have hslot : slotOf A.rd d.2.rd = i := hs.slot_of_node hw hi0 hkr hd
  have hkept := hs.before hi0 hlA (fun g => g.ipa == d.2.ipa) fun e he hke =>
    hs.same_of_clash hw hi0 hd he fun o o' heo hdo hor =>
      clash_of_ipa (hgran.imp And.right And.right) heo hdo hor (by simpa using hke)
  have hfind : A.find (slotOf A.rd d.2.rd, k) (fun g => g.ipa == d.2.ipa) = some d := by
    rw [hslot, Lists.find, hlA]
    exact List.find?_eq_some_iff_append.mpr
      ⟨by simp, kept, rest, rfl, fun e he => by simp [hkept e he]⟩
  obtain ⟨hidx, hval⟩ : ∃ hidx : (UInt64.ofNat (index + 1) - 1).toNat < maxAuxPlanes,
      (⟨_, hidx⟩ : Fin maxAuxPlanes) = index := by
    clear heffect heff hT
    revert index
    decide
  rw [heffect, Lists.auxInfo_of_find false hgran hidx hfind, hval] at heff
  obtain rfl := Option.some.inj heff
  have hnd := ht.holds.rep.nodup (i, k)
  rw [hlA] at hnd
  refine ⟨_, hT _ ⟨hslot, rfl, fun k' => ?_, fun j hj hji k' => ?_⟩⟩
  · by_cases hk' : k' = k
    · subst hk'
      rw [Function.update_self, Lists.modify_lists]
      show modifyAt d.1 _ (A.lists (i, k')) = _
      rw [hlA]
      exact modifyAt_middle _ hnd
    · rw [Function.update_of_ne hk', Lists.modify_lists]
      refine Eq.trans (modifyAt_of_notMem ?_) (ht.own k')
      exact ht.holds.rep.notMem_of_mem hd fun he => hk' (congrArg Prod.snd he)
  · rw [Lists.modify_lists]
    exact modifyAt_of_notMem
      (ht.holds.rep.notMem_of_mem hd fun he => hji (congrArg Prod.fst he))

/-- `Tearing` for some lists. -/
def Torn (h₀ : Host) (A₀ : Lists) (i : Fin maxRealms) (L : GranType → List Cell)
    (cmds : List Cmd) (h : Host) : Prop := ∃ A, Tearing h₀ A₀ i L cmds h A

/-- **The loop over `has_auxiliary`** clears every flag it finds, and issues the commands of the
flags the node had at the start. -/
theorem success_unmapAuxiliary (hr : LegalMonitor rmm) (hi0 : i ≠ 0) {granState : GranuleState}
    {k : GranType} {f : Granule → UInt64 → Cmd} {kept rest : List Cell} {d : Cell}
    (hgran : granState = .data ∧ k = .data ∨ granState = .unprotected ∧ k = .validNs)
    (hc : ∀ g j, Cleans (f g j))
    (heffect : ∀ g j fresh A, effect fresh A (f g j) = A.auxInfo granState g.rd j g.ipa false)
    (hflags : ∀ x j, f (withFlags x d).2 j = f d.2 j) (hl : L k = kept ++ d :: rest) :
    Proc.Success (Torn h₀ A₀ i L cmds) (unmapAuxiliary rmm d.1 f) fun h =>
      ∃ x, Torn h₀ A₀ i (Function.update L k (kept ++ withFlags x d :: rest))
        (cmds ++ auxCmds (f d.2) d.2) h := by
  -- over the indices that are left, whose flags are still those of the start
  have main : ∀ (is : List (Fin maxAuxPlanes)) (x : Fin maxAuxPlanes → Bool) (cmds : List Cmd),
      is.Nodup → (∀ j ∈ is, x j = d.2.hasAuxiliary j) →
      Proc.Success (Torn h₀ A₀ i (Function.update L k (kept ++ withFlags x d :: rest)) cmds)
        (Proc.all (is.map fun j => Proc.guarded (fun h => (node d.1 h).hasAuxiliary j)
          (issueFor rmm d.1 fun g => f g (UInt64.ofNat (j + 1)))))
        fun h => ∃ x, Torn h₀ A₀ i (Function.update L k (kept ++ withFlags x d :: rest))
          (cmds ++ (is.filter d.2.hasAuxiliary).map fun j => f d.2 (UInt64.ofNat (j.val + 1))) h := by
    intro is
    induction is with
    | nil => exact fun x cmds _ _ => Proc.Success.skip fun h ht => ⟨x, by simpa using ht⟩
    | cons j is ih =>
      intro x cmds hnd hx h h'' ht hrun
      obtain ⟨hj, hnd'⟩ := List.nodup_cons.mp hnd
      obtain ⟨h', h₁, h₂⟩ := Proc.seq_success hrun
      obtain ⟨A, ht⟩ := ht
      have hmem : withFlags x d ∈ Function.update L k (kept ++ withFlags x d :: rest) k := by simp
      have hnode : node d.1 h = (withFlags x d).2 := ht.node_eq hmem
      have hxj : x j = d.2.hasAuxiliary j := hx j List.mem_cons_self
      have hx' : ∀ j' ∈ is, x j' = d.2.hasAuxiliary j' := fun j' hj' =>
        hx j' (List.mem_cons_of_mem _ hj')
      rcases Proc.guarded_success h₁ with ⟨hflag, h₁⟩ | ⟨hflag, rfl⟩
      · unfold issueFor at h₁
        rw [hnode] at h₁ hflag
        obtain ⟨A', ht'⟩ := ht.unmapAux hr hi0 hgran (by rw [Function.update_self]) (hc _ _)
          (heffect _ _) h₁
        rw [Function.update_idem, hflags] at ht'
        have hih := ih (Function.update x j false) (cmds ++ [f d.2 (UInt64.ofNat (j + 1))]) hnd'
          fun j' hj' => by
            have hne : j' ≠ j := fun he => hj (he ▸ hj')
            rw [Function.update_of_ne hne]
            exact hx' j' hj'
        obtain ⟨x', hx'⟩ := hih h' h'' ⟨A', ht'⟩ h₂
        refine ⟨x', ?_⟩
        rw [List.filter_cons_of_pos (hxj.symm.trans hflag)]
        simpa using hx'
      · rw [hnode] at hflag
        obtain ⟨x', hx'⟩ := ih x cmds hnd' hx' h' h'' ⟨A, ht⟩ h₂
        refine ⟨x', ?_⟩
        rw [List.filter_cons_of_neg (by simp [← hxj, show x j = false from hflag])]
        exact hx'
  have hL : Function.update L k (kept ++ withFlags d.2.hasAuxiliary d :: rest) = L := by
    rw [show withFlags d.2.hasAuxiliary d = d from rfl, ← hl, Function.update_eq_self]
  have hstart := main (List.finRange maxAuxPlanes) d.2.hasAuxiliary cmds (List.nodup_finRange _)
    fun _ _ => rfl
  rw [hL] at hstart
  exact hstart

/-- The body of a loop does what its pass says to the node it is on. -/
def PassOk (h₀ : Host) (A₀ : Lists) (i : Fin maxRealms) (p : Pass)
    (body : Ptr → Proc Host Fault) : Prop :=
  ∀ L cmds kept d rest, L p.kind = kept ++ d :: rest →
    Proc.Success (Torn h₀ A₀ i L cmds) (body d.1)
      (if p.pick d.2 then
        Torn h₀ A₀ i (Function.update L p.kind (kept ++ rest)) (cmds ++ p.cmds d.2)
      else Torn h₀ A₀ i L cmds)

/-- It is enough to look at the nodes the loop acts on, if its body is guarded like its pass. -/
theorem PassOk.guarded {p : Pass} {body : Ptr → Proc Host Fault}
    (h : ∀ L cmds kept d rest, L p.kind = kept ++ d :: rest → p.pick d.2 = true →
      Proc.Success (Torn h₀ A₀ i L cmds) (body d.1)
        (Torn h₀ A₀ i (Function.update L p.kind (kept ++ rest)) (cmds ++ p.cmds d.2))) :
    PassOk h₀ A₀ i p fun a => Proc.guarded (fun h => p.pick (node a h)) (body a) := by
  intro L cmds kept d rest hl s s' ht hrun
  have hnode : node d.1 s = d.2 := ht.choose_spec.node_eq (by rw [hl]; simp)
  rcases Proc.guarded_success hrun with ⟨hb, hrun⟩ | ⟨hb, rfl⟩
  · rw [hnode] at hb
    rw [if_pos hb]
    exact h L cmds kept d rest hl hb s s' ht hrun
  · rw [hnode] at hb
    rw [if_neg (by simp [hb])]
    exact ht

/-- A loop that acts on every node. -/
theorem PassOk.every {p : Pass} (hp : ∀ g, p.pick g = true) {body : Ptr → Proc Host Fault}
    (h : ∀ L cmds kept d rest, L p.kind = kept ++ d :: rest →
      Proc.Success (Torn h₀ A₀ i L cmds) (body d.1)
        (Torn h₀ A₀ i (Function.update L p.kind (kept ++ rest)) (cmds ++ p.cmds d.2))) :
    PassOk h₀ A₀ i p body := by
  intro L cmds kept d rest hl
  rw [if_pos (hp d.2)]
  exact h L cmds kept d rest hl

/-- A destroy command and the undelegation of the granule it frees. -/
theorem success_destroy_undelegate (hr : LegalMonitor rmm) (hi0 : i ≠ 0) {f : Granule → Cmd}
    {L' : GranType → List Cell} {k : GranType} {d : Cell} (hd : d ∈ L k)
    (hf : ∀ h h' A, Tearing h₀ A₀ i L cmds h A → issue rmm (f d.2) h = .ok (true, h') →
      ∃ A', Tearing h₀ A₀ i L' (cmds ++ [f d.2]) h' A' ∧
        node d.1 h' = withState .delegated d.2) :
    Proc.Success (Torn h₀ A₀ i L cmds)
      (Proc.seq (issueFor rmm d.1 f) (undelegateNode rmm d.1))
      (Torn h₀ A₀ i L' (cmds ++ [f d.2, .granuleUndelegate d.2.pa])) := by
  rintro h h'' ⟨A, ht⟩ hrun
  obtain ⟨h', h₁, h₂⟩ := Proc.seq_success hrun
  unfold issueFor at h₁
  rw [ht.node_eq hd] at h₁
  obtain ⟨A', ht', hnode⟩ := hf h h' A ht h₁
  unfold undelegateNode issueFor at h₂
  rw [hnode] at h₂
  obtain ⟨A'', ht''⟩ := ht'.undelegate hr hi0 h₂
  refine ⟨A'', ?_⟩
  rw [List.append_assoc] at ht''
  exact ht''

theorem mem_of_split {k : GranType} {kept rest : List Cell} {d : Cell}
    (hl : L k = kept ++ d :: rest) : d ∈ L k := by rw [hl]; simp

theorem recPass_ok (hr : LegalMonitor rmm) (hi0 : i ≠ 0) :
    PassOk h₀ A₀ i recPass fun a =>
      Proc.seq (issueFor rmm a fun g => .recDestroy g.pa) (undelegateNode rmm a) :=
  .every (fun _ => rfl) fun _ _ _ _ _ hl =>
    success_destroy_undelegate hr hi0 (mem_of_split hl) fun _ _ _ ht hi =>
      ht.destroyRec hr hi0 hl hi

theorem rttPass_ok (hr : LegalMonitor rmm) (hi0 : i ≠ 0) (level : UInt64) :
    PassOk h₀ A₀ i (rttPass level) fun a =>
      Proc.guarded (fun h => (node a h).level == level)
        (Proc.seq (issueFor rmm a fun g => .rttDestroy g.rd g.ipa g.level)
          (undelegateNode rmm a)) := by
  refine PassOk.guarded (p := rttPass level) fun L cmds kept d rest hl _ => ?_
  refine success_destroy_undelegate (f := fun g => .rttDestroy g.rd g.ipa g.level) hr hi0
    (mem_of_split hl) fun h h' A ht hi => ?_
  exact ht.destroyNode hr hi0 (q := ⟨d.2.rd, .rtt, _, .delegated⟩) rfl hl (by simp) rfl
    (by simp) ⟨⟨rfl, by simp⟩, by simp, by simp⟩ hi

theorem rttAuxPass_ok (hr : LegalMonitor rmm) (hi0 : i ≠ 0) (index level : UInt64) :
    PassOk h₀ A₀ i (rttAuxPass index level) fun a =>
      Proc.guarded (fun h => (node a h).level == level && (node a h).rttTreeIdx == index)
        (Proc.seq (issueFor rmm a fun g => .rttAuxDestroy g.rd g.ipa g.level index)
          (undelegateNode rmm a)) := by
  refine PassOk.guarded (p := rttAuxPass index level) fun L cmds kept d rest hl hpick => ?_
  -- the index of the loop is the index of the node
  have hidx : d.2.rttTreeIdx = index := by simpa using (Bool.and_eq_true_iff.mp hpick).2
  refine success_destroy_undelegate (f := fun g => .rttAuxDestroy g.rd g.ipa g.level index) hr
    hi0 (mem_of_split hl) fun h h' A ht hi => ?_
  exact ht.destroyNode hr hi0 (q := ⟨d.2.rd, .rttAux, _, .delegated⟩) rfl hl (by simp) rfl
    (by simp [hidx]) ⟨⟨rfl, by simp⟩, by simp, by simp⟩ hi

theorem dataPass_ok (hr : LegalMonitor rmm) (hi0 : i ≠ 0) (sliced : UInt8) :
    PassOk h₀ A₀ i (dataPass sliced) fun a =>
      Proc.guarded (fun h => (node a h).isGranuleSliced == sliced) (destroyData rmm a) := by
  refine PassOk.guarded (p := dataPass sliced) fun L cmds kept d rest hl _ => ?_
  intro h h'' ht hrun
  obtain ⟨h', h₁, h₂⟩ := Proc.seq_success hrun
  obtain ⟨x, hx⟩ := success_unmapAuxiliary hr hi0 (Or.inl ⟨rfl, rfl⟩)
    (fun g j => ⟨⟨rfl, by simp⟩, by simp, by simp⟩) (fun _ _ _ _ => rfl) (fun _ _ => rfl) hl
    h h' ht h₁
  have hl' : Function.update L .data (kept ++ withFlags x d :: rest) .data
      = kept ++ withFlags x d :: rest := Function.update_self _ _ _
  have htorn := success_destroy_undelegate (d := withFlags x d)
    (f := fun g => .dataDestroy g.rd g.ipa) hr hi0
    (mem_of_split hl') (fun h h' A ht hi => ht.destroyNode hr hi0
      (q := ⟨d.2.rd, .data, _, .delegated⟩) rfl hl' (by simp) rfl (by simp [withFlags])
      ⟨⟨rfl, by simp⟩, by simp, by simp⟩ hi) h' h'' hx h₂
  rw [Function.update_idem, List.append_assoc] at htorn
  exact htorn

theorem validNsPass_ok (hr : LegalMonitor rmm) (hi0 : i ≠ 0) :
    PassOk h₀ A₀ i validNsPass fun a =>
      Proc.seq (unmapAuxiliary rmm a fun g j => .rttAuxUnmapUnprotected g.rd g.ipa j)
        (issueFor rmm a fun g => .rttUnmapUnprotected g.rd g.ipa g.level) := by
  refine PassOk.every (fun _ => rfl) fun L cmds kept d rest hl => ?_
  intro h h'' ht hrun
  obtain ⟨h', h₁, h₂⟩ := Proc.seq_success hrun
  obtain ⟨x, A, hx⟩ := success_unmapAuxiliary hr hi0 (Or.inr ⟨rfl, rfl⟩)
    (fun g j => ⟨⟨rfl, by simp⟩, by simp, by simp⟩) (fun _ _ _ _ => rfl) (fun _ _ => rfl) hl
    h h' ht h₁
  have hl' : Function.update L .validNs (kept ++ withFlags x d :: rest) .validNs
      = kept ++ withFlags x d :: rest := Function.update_self _ _ _
  unfold issueFor at h₂
  rw [show node d.1 h' = (withFlags x d).2 from hx.node_eq (mem_of_split hl')] at h₂
  -- the key is the IPA, in the place of the PA
  have hpa : d.2.pa = d.2.ipa := by
    have hd : withFlags x d ∈ A.lists (i, .validNs) := by rw [hx.own]; exact mem_of_split hl'
    obtain ⟨o, -, hdo, -⟩ := hx.holds.inv.live_cell hi0 hd
    exact (objOf_validNs hdo).1
  obtain ⟨A', ht', -⟩ := hx.destroyNode hr hi0 (q := ⟨d.2.rd, .validNs, _, .undelegated⟩) rfl hl'
    (by simp) rfl (by simp [withFlags, Lists.byPa, hpa]) ⟨⟨rfl, by simp⟩, by simp, by simp⟩ h₂
  rw [Function.update_idem, List.append_assoc] at ht'
  exact ⟨A', ht'⟩

/-- **One loop.**  It issues the script of its list, and leaves the nodes it did not act on. -/
theorem success_walk {p : Pass} {body : Ptr → Proc Host Fault} (hp : PassOk h₀ A₀ i p body) :
    Proc.Success (Torn h₀ A₀ i L cmds) (walkCurrent p.kind body)
      (Torn h₀ A₀ i (Function.update L p.kind ((L p.kind).filter fun c => !p.pick c.2))
        (cmds ++ p.script (L p.kind))) := by
  -- with `rest` still ahead, the nodes behind that are left are those the loop skipped
  let J : List Cell → Host → Prop := fun rest h => ∃ done, L p.kind = done ++ rest ∧
    Torn h₀ A₀ i (Function.update L p.kind ((done.filter fun c => !p.pick c.2) ++ rest))
      (cmds ++ p.script done) h
  have hnext : ∀ c l h, J (c :: l) h → (h.tracker.mem c.1).next = (l.head?).map Prod.fst := by
    rintro c l h ⟨done, -, A, ht⟩
    have hch := ht.holds.rep.chain (i, p.kind)
    rw [ht.own, Function.update_self] at hch
    rw [hch.next_eq.head?_eq, addrs, List.head?_map]
  have hbody : ∀ c l, Proc.Success (J (c :: l)) (body c.1) (J l) := by
    rintro c l h h' ⟨done, hl, ht⟩ hrun
    refine ⟨done ++ [c], by rw [hl]; simp, ?_⟩
    have hstep := hp _ _ _ c l (Function.update_self _ _ _) h h' ht hrun
    cases hpick : p.pick c.2 with
    | true =>
      rw [hpick, if_pos rfl, Function.update_idem, List.append_assoc] at hstep
      simpa [Pass.script, hpick] using hstep
    | false =>
      rw [hpick, if_neg (by simp)] at hstep
      simpa [Pass.script, hpick] using hstep
  rintro h h' ⟨A, ht⟩ hrun
  have hlist : h.tracker.list (h.tracker.currentRealm, p.kind)
      = ((L p.kind).head?).map Prod.fst := by
    rw [ht.holds.rep.cur, ht.cur, (ht.holds.rep.chain (i, p.kind)).head?_eq, ht.own, addrs,
      List.head?_map]
  unfold walkCurrent walk at hrun
  rw [hlist] at hrun
  have hstart : J (L p.kind) h := by
    refine ⟨[], rfl, ?_⟩
    rw [List.filter_nil, List.nil_append, Function.update_eq_self,
      show p.script [] = [] from rfl, List.append_nil]
    exact ⟨A, ht⟩
  obtain ⟨done, hl, hdone⟩ := Proc.Success.forEachNode hnext hbody _ _ h h' hstart hrun
  rw [List.append_nil] at hl hdone
  rw [hl]
  exact hdone

/-! ## 3. All loops -/

/-- No node is for both loops. -/
def Exclusive (p q : Pass) : Prop := p.kind = q.kind → ∀ g, q.pick g = true → p.pick g = false

/-- The nodes that no loop of `ps` acts on. -/
def leftBy (ps : List Pass) (L : GranType → List Cell) (k : GranType) : List Cell :=
  (L k).filter fun c => ps.all fun p => decide (p.kind ≠ k) || !p.pick c.2

theorem leftBy_snoc (ps : List Pass) (p : Pass) (L : GranType → List Cell) :
    leftBy (ps ++ [p]) L = Function.update (leftBy ps L) p.kind
      ((leftBy ps L p.kind).filter fun c => !p.pick c.2) := by
  funext k
  by_cases hk : k = p.kind
  · subst hk
    rw [Function.update_self]
    simp [leftBy, List.filter_filter, Bool.and_comm]
  · rw [Function.update_of_ne hk]
    simp [leftBy, Ne.symm hk]

/-- Earlier loops leave a loop the nodes it acts on. -/
theorem script_leftBy {ps : List Pass} {p : Pass} (hp : ∀ q ∈ ps, Exclusive q p)
    (L : GranType → List Cell) : p.script (leftBy ps L p.kind) = p.script (L p.kind) := by
  unfold Pass.script leftBy
  rw [List.filter_filter]
  refine congrArg (List.flatMap _) (List.filter_congr fun c _ => ?_)
  cases hpick : p.pick c.2 with
  | false => rfl
  | true =>
    rw [Bool.true_and, List.all_eq_true]
    intro q hq
    by_cases hk : q.kind = p.kind
    · simp [hp q hq hk c.2 hpick]
    · simp [hk]

/-- **A sequence of loops** issues their scripts over the lists it starts with. -/
theorem success_passes :
    ∀ (xs : List (Pass × Proc Host Fault)) (done : List Pass) (cmds : List Cmd),
      (∀ x ∈ xs, ∀ L cmds, Proc.Success (Torn h₀ A₀ i L cmds) x.2
        (Torn h₀ A₀ i (Function.update L x.1.kind ((L x.1.kind).filter fun c => !x.1.pick c.2))
          (cmds ++ x.1.script (L x.1.kind)))) →
      (done ++ xs.map Prod.fst).Pairwise Exclusive →
      Proc.Success (Torn h₀ A₀ i (leftBy done L) cmds) (Proc.all (xs.map Prod.snd))
        (Torn h₀ A₀ i (leftBy (done ++ xs.map Prod.fst) L)
          (cmds ++ scriptOf (xs.map Prod.fst) L))
  | [], done, cmds, _, _ => Proc.Success.skip fun h ht => by simpa [scriptOf] using ht
  | (p, q) :: xs, done, cmds, hxs, hex => by
    have hp : ∀ q ∈ done, Exclusive q p := fun q hq =>
      (List.pairwise_append.mp hex).2.2 q hq p List.mem_cons_self
    have hfirst := hxs (p, q) List.mem_cons_self (leftBy done L) cmds
    rw [← leftBy_snoc, script_leftBy hp] at hfirst
    have hex' : ((done ++ [p]) ++ xs.map Prod.fst).Pairwise Exclusive := by simpa using hex
    have hrest := success_passes xs (done ++ [p]) (cmds ++ p.script (L p.kind))
      (fun x hx => hxs x (List.mem_cons_of_mem _ hx)) hex'
    have hseq := hfirst.seq hrest
    simpa [scriptOf, Proc.all] using hseq

theorem exclusive_of_kind_ne {p q : Pass} (h : p.kind ≠ q.kind) : Exclusive p q :=
  fun hk => absurd hk h

theorem rttAuxPass_exclusive {x y : UInt64 × UInt64} (h : x ≠ y) :
    Exclusive (rttAuxPass x.1 x.2) (rttAuxPass y.1 y.2) := by
  intro _ g hg
  by_contra hp
  simp only [rttAuxPass, Bool.and_eq_true, beq_iff_eq, Bool.not_eq_false] at hg hp
  exact h (Prod.ext (hp.2.symm.trans hg.2) (hp.1.symm.trans hg.1))

theorem primaryPasses_exclusive : primaryPasses.Pairwise Exclusive := by
  simp +contextual [primaryPasses, Exclusive, recPass, dataPass, validNsPass, rttPass]

theorem auxPasses_exclusive : auxPasses.Pairwise Exclusive := by
  have hpairs : auxPasses =
      ([1, 2, 3] ×ˢ [3, 2, 1]).map fun x => rttAuxPass x.1 x.2 := rfl
  have hnodup : ([1, 2, 3] ×ˢ [3, 2, 1] : List (UInt64 × UInt64)).Nodup := by decide
  rw [hpairs, List.pairwise_map]
  exact hnodup.imp rttAuxPass_exclusive

theorem passes_exclusive : (primaryPasses ++ auxPasses).Pairwise Exclusive := by
  have hprimary : ∀ p ∈ primaryPasses, p.kind ≠ .rttAux := by
    simp [primaryPasses, recPass, dataPass, validNsPass, rttPass]
  have haux : ∀ q ∈ auxPasses, q.kind = .rttAux := by
    simp [auxPasses, rttAuxPass]
  refine List.pairwise_append.mpr ⟨primaryPasses_exclusive, auxPasses_exclusive, ?_⟩
  intro p hp q hq
  exact exclusive_of_kind_ne fun hk => hprimary p hp (hk.trans (haux q hq))

/-- `RMI_FEATURES` changes nothing, whatever its status. -/
theorem Tearing.features (ht : Tearing h₀ A₀ i L cmds h A) (hr : LegalMonitor rmm) {r : SmcRet}
    (hc : valHostRmi rmm (.features 0) h = .ok (r, h')) :
    Torn h₀ A₀ i L (cmds ++ [Cmd.features 0]) h' := by
  obtain ⟨A', hA'⟩ := ht.holds.call stable_sound hr (fun _ => trivial) hc
  have hAA : A' = A := by
    by_cases h0 : r.x0 = 0
    · exact (Option.some.inj (hA'.effect h0)).symm
    · exact hA'.refused h0
  subst hAA
  obtain ⟨seg, hseg, hcmds, hall⟩ := ht.trace
  refine ⟨A', hA'.holds, ht.cur, ht.rd, ht.own, ht.other, seg ++ [(.features 0, r)], ?_, ?_, ?_⟩
  · rw [hA'.trace, hseg, List.append_assoc]
  · rw [List.map_append, hcmds]
    rfl
  · intro e he
    rcases List.mem_append.mp he with he | he
    · exact hall e he
    · rw [List.mem_singleton.mp he]
      exact ⟨⟨⟨rfl, by simp⟩, by simp, by simp⟩, Or.inr rfl⟩

/-- What is left when the realm itself is destroyed. -/
structure Gone (h₀ : Host) (A₀ : Lists) (i : Fin maxRealms) (L : GranType → List Cell)
    (cmds : List Cmd) (h : Host) (A : Lists) : Prop where
  holds : Holds Sound h A
  rd : A.rd = Function.update A₀.rd i freeRd
  live : .realm (A₀.rd i) ∈ (replay h₀.trace).objs
  none_left : ∀ o ∈ (replay h.trace).objs, o.rd ≠ A₀.rd i
  empty : ∀ k, k ≠ .rd → L k = []
  other : ∀ j, j ≠ 0 → j ≠ i → ∀ k, A.lists (j, k) = A₀.lists (j, k)
  trace : ∃ seg : Trace, h.trace = h₀.trace ++ seg ∧
    seg.map Prod.fst = cmds ++ [.realmDestroy (A₀.rd i)] ∧
    ∀ e ∈ seg, Cleans e.1 ∧ (e.2.x0 = 0 ∨ e.1 = .features 0)

/-- Objects do not appear while things are only cleaned up. -/
theorem mem_objs_of_cleans {tr : Trace} {o : Obj} :
    ∀ {seg : Trace}, (∀ e ∈ seg, Cleans e.1) → o ∈ (replay (tr ++ seg)).objs →
      o ∈ (replay tr).objs := by
  intro seg
  induction seg using List.reverseRecOn with
  | nil => exact fun _ ho => by simpa using ho
  | append_singleton seg e ih =>
    intro hall ho
    rw [← List.append_assoc, replay_snoc] at ho
    refine ih (fun e he => hall e (List.mem_append_left _ he)) ?_
    split at ho
    · rcases RmmState.mem_apply_objs.mp ho with ⟨ho, -⟩ | hm
      · exact ho
      · exact absurd ((hall e (by simp)).1.1.symm.trans hm) (by simp)
    · exact ho

/-- **The last command.**  It is accepted only when the realm owns nothing any more. -/
theorem Tearing.realmDestroy (ht : Tearing h₀ A₀ i L cmds h A) (hr : LegalMonitor rmm)
    (hi0 : i ≠ 0)
    (hi : issue rmm (.realmDestroy (h.tracker.rd h.tracker.currentRealm)) h = .ok (true, h')) :
    ∃ A', Gone h₀ A₀ i L cmds h' A' := by
  have hrd : h.tracker.rd h.tracker.currentRealm = A₀.rd i := by
    rw [ht.holds.rep.rd, ht.holds.rep.cur, ht.cur, ht.rd]
  rw [hrd] at hi
  obtain ⟨r, hcall, hb⟩ := issue_ok hi
  have h0 : r.x0 = 0 := by simpa using hb.symm
  obtain ⟨A', hA'⟩ := ht.holds.call stable_sound hr (fun _ => trivial) hcall
  obtain ⟨hlive, howns⟩ := hA'.legal h0
  have hs := ht.holds.inv
  have hrdA : A.rd i = A₀.rd i := by rw [ht.rd]
  have hslot : slotOf A.rd (A₀.rd i) = i := hs.slot_eq ht.holds.wf hi0 hrdA hlive
  have heff := hA'.effect h0
  simp only [Granules.effect, Lists.destroy, reduceCtorEq, if_false, ne_eq, not_false_iff,
    if_true] at heff
  obtain ⟨B, hB, hBA⟩ := Option.map_eq_some_iff.mp heff
  obtain ⟨d, -, rfl⟩ := Option.map_eq_some_iff.mp hB
  have hcur : (A.enter (A₀.rd i)).cur = i := hslot
  rw [hcur] at hBA
  subst hBA
  obtain ⟨seg, hseg, hcmds, hall⟩ := ht.trace
  have hreplay : replay h'.trace = (replay h.trace).apply (.realmDestroy (A₀.rd i)) := by
    rw [hA'.trace, replay_snoc, if_pos h0]
  refine ⟨_, hA'.holds, ?_, ?_, ?_, ?_, ?_, seg ++ [(.realmDestroy (A₀.rd i), r)], ?_, ?_, ?_⟩
  · show Function.update A.rd _ freeRd = _
    rw [Lists.push_cur, Lists.drop_cur, hcur, ht.rd]
  · exact mem_objs_of_cleans (fun e he => (hall e he).1) (hseg ▸ hlive)
  · intro o ho hor
    rw [hreplay] at ho
    rcases RmmState.mem_apply_objs.mp ho with ⟨ho, hk⟩ | hm
    · rw [howns o ho hor] at hk
      exact absurd hk (by simp [Cmd.kills])
    · exact absurd hm (by simp [Cmd.makes])
  · -- a node of the slot stands for an object of the realm
    intro k hk
    rw [← ht.own k]
    refine List.eq_nil_iff_forall_not_mem.mpr fun e he => hk ?_
    obtain ⟨o, ho, heo, hor⟩ := hs.live_cell hi0 he
    rw [howns o ho (hor.trans hrdA)] at heo
    exact objOf_eq_realm heo
  · intro j hj hji k
    rw [← ht.other j hj hji k]
    show (((A.enter (A₀.rd i)).drop _ _).push _ _).lists (j, k) = _
    rw [Lists.push_lists_of_ne _ _ (fun he => hj (congrArg Prod.fst he)),
      Lists.drop_lists_of_ne _ _ (fun he => hji (congrArg Prod.fst he))]
    rfl
  · rw [hA'.trace, hseg, List.append_assoc]
  · rw [List.map_append, hcmds]
    rfl
  · intro e he
    rcases List.mem_append.mp he with he | he
    · exact hall e he
    · rw [List.mem_singleton.mp he]
      exact ⟨⟨⟨rfl, by simp⟩, by simp, by simp⟩, Or.inl h0⟩

/-- The loops of the primary tree, each with its pass. -/
def primaryLoops (rmm : Monitor) : List (Pass × Proc Host Fault) :=
  [ (recPass, walkCurrent .recg fun a =>
      Proc.seq (issueFor rmm a fun g => .recDestroy g.pa) (undelegateNode rmm a)),
    (dataPass 1, walkCurrent .data fun a =>
      Proc.guarded (fun h => (node a h).isGranuleSliced == 1) (destroyData rmm a)),
    (dataPass 0, walkCurrent .data fun a =>
      Proc.guarded (fun h => (node a h).isGranuleSliced == 0) (destroyData rmm a)),
    (validNsPass, walkCurrent .validNs fun a =>
      Proc.seq (unmapAuxiliary rmm a fun g i => .rttAuxUnmapUnprotected g.rd g.ipa i)
        (issueFor rmm a fun g => .rttUnmapUnprotected g.rd g.ipa g.level)),
    (rttPass 3, fun h => valHostDestroyRttLevels rmm 3 h.tracker.currentRealm h),
    (rttPass 2, fun h => valHostDestroyRttLevels rmm 2 h.tracker.currentRealm h),
    (rttPass 1, fun h => valHostDestroyRttLevels rmm 1 h.tracker.currentRealm h) ]

/-- The loops of the auxiliary trees. -/
def auxLoops (rmm : Monitor) : List (Pass × Proc Host Fault) :=
  [1, 2, 3].flatMap fun index => [3, 2, 1].map fun level =>
    (rttAuxPass index level, fun h =>
      valHostDestroyAuxRttLevels rmm level h.tracker.currentRealm index h)

theorem success_primaryLoops (hr : LegalMonitor rmm) (hi0 : i ≠ 0) :
    Proc.Success (Torn h₀ A₀ i L []) (Proc.all ((primaryLoops rmm).map Prod.snd))
      (Torn h₀ A₀ i (leftBy primaryPasses L) (scriptOf primaryPasses L)) := by
  have hL : leftBy [] L = L := funext fun k => by simp [leftBy]
  have hloops : ∀ x ∈ primaryLoops rmm, ∀ L cmds, Proc.Success (Torn h₀ A₀ i L cmds) x.2
      (Torn h₀ A₀ i (Function.update L x.1.kind ((L x.1.kind).filter fun c => !x.1.pick c.2))
        (cmds ++ x.1.script (L x.1.kind))) := by
    intro x hx L cmds
    simp only [primaryLoops, List.mem_cons, List.not_mem_nil, or_false] at hx
    rcases hx with rfl | rfl | rfl | rfl | rfl | rfl | rfl
    · exact success_walk (recPass_ok hr hi0)
    · exact success_walk (dataPass_ok hr hi0 1)
    · exact success_walk (dataPass_ok hr hi0 0)
    · exact success_walk (validNsPass_ok hr hi0)
    · exact success_walk (rttPass_ok hr hi0 3)
    · exact success_walk (rttPass_ok hr hi0 2)
    · exact success_walk (rttPass_ok hr hi0 1)
  have h := success_passes (L := L) (primaryLoops rmm) [] [] hloops
    (passes_exclusive.sublist (List.sublist_append_left primaryPasses auxPasses))
  rw [hL] at h
  exact h

theorem success_auxLoops (hr : LegalMonitor rmm) (hi0 : i ≠ 0) :
    Proc.Success (Torn h₀ A₀ i (leftBy primaryPasses L) cmds) (destroyAuxTrees rmm)
      (Torn h₀ A₀ i (leftBy (primaryPasses ++ auxPasses) L) (cmds ++ scriptOf auxPasses L)) := by
  refine success_passes (L := L) (auxLoops rmm) primaryPasses cmds ?_ passes_exclusive
  intro x hx L cmds
  obtain ⟨index, -, hx⟩ := List.mem_flatMap.mp hx
  obtain ⟨level, -, rfl⟩ := List.mem_map.mp hx
  exact success_walk (rttAuxPass_ok hr hi0 index level)

/-- **A successful `val_host_realm_destroy`.**  Everything it did can be read off the lists of
the realm's slot at the start. -/
theorem realmDestroy_success {rmmV11 : Bool} {rd : UInt64} (hr : LegalMonitor rmm)
    (hh : Holds Sound h A) (hi0 : slotOf A.rd rd ≠ 0)
    (hrun : valHostRealmDestroy rmm rmmV11 rd h = .ok (true, h')) :
    ∃ A' pre aux, (pre = [] ∨ pre = [.features 0]) ∧ (aux = [] ∨ aux = auxPasses) ∧
      Gone h A (slotOf A.rd rd)
        (leftBy (primaryPasses ++ aux) fun k => A.lists (slotOf A.rd rd, k))
        (scriptOf primaryPasses (fun k => A.lists (slotOf A.rd rd, k)) ++ pre ++
          scriptOf aux fun k => A.lists (slotOf A.rd rd, k)) h' A' := by
  have hsplit : valHostRealmDestroy rmm rmmV11 rd = Proc.all (enterRealm rd ::
      ((primaryLoops rmm).map Prod.snd ++
        [Proc.guarded (fun _ => rmmV11) (ifPlanes rmm (destroyAuxTrees rmm)),
          fun h => issue rmm (.realmDestroy (h.tracker.rd h.tracker.currentRealm)) h])) := rfl
  rw [hsplit] at hrun
  obtain ⟨h₁, henter, hrun⟩ := Proc.seq_success hrun
  obtain ⟨h₂, hprimary, hrun⟩ := Proc.all_append_success hrun
  obtain ⟨h₃, haux, hrun⟩ := Proc.seq_success hrun
  obtain ⟨h₄, hlast, hskip⟩ := Proc.seq_success hrun
  obtain rfl : h₄ = h' := by simpa [Proc.all, Proc.skip] using hskip
  simp only [enterRealm, Proc.skip, Except.ok.injEq, Prod.mk.injEq, true_and] at henter
  subst henter
  have hstart : Tearing h A (slotOf A.rd rd) (fun k => A.lists (slotOf A.rd rd, k)) []
      { h with tracker := { h.tracker with currentRealm := valHostGetCurrRealm rd h.tracker } }
      (A.enter rd) :=
    ⟨⟨hh.rep.enter rd, hh.legal, hh.inv.enter rd⟩, rfl, rfl, fun _ => rfl, fun _ _ _ _ => rfl,
      [], by simp, rfl, by simp⟩
  have htorn := success_primaryLoops hr hi0 _ _ ⟨_, hstart⟩ hprimary
  -- whether there was something to do for the auxiliary trees
  have hafter : ∃ pre aux, (pre = [] ∨ pre = [Cmd.features 0]) ∧ (aux = [] ∨ aux = auxPasses) ∧
      Torn h A (slotOf A.rd rd)
        (leftBy (primaryPasses ++ aux) fun k => A.lists (slotOf A.rd rd, k))
        (scriptOf primaryPasses (fun k => A.lists (slotOf A.rd rd, k)) ++ pre ++
          scriptOf aux fun k => A.lists (slotOf A.rd rd, k)) h₃ := by
    rcases Proc.guarded_success haux with ⟨-, haux⟩ | ⟨-, rfl⟩
    · unfold ifPlanes at haux
      cases hc : valHostRmi rmm (.features 0) h₂ with
      | error e =>
        rw [hc] at haux
        exact absurd haux (by simp [bind, Except.bind])
      | ok x =>
        rw [hc] at haux
        simp only [bind, Except.bind] at haux
        obtain ⟨B, hB⟩ := htorn
        have hfeat := hB.features hr hc
        split at haux
        · exact ⟨_, _, Or.inr rfl, Or.inr rfl, success_auxLoops hr hi0 _ _ hfeat haux⟩
        · simp only [Proc.skip, Except.ok.injEq, Prod.mk.injEq, true_and] at haux
          subst haux
          refine ⟨_, [], Or.inr rfl, Or.inl rfl, ?_⟩
          simpa [scriptOf] using hfeat
    · refine ⟨[], [], Or.inl rfl, Or.inl rfl, ?_⟩
      simpa [scriptOf] using htorn
  obtain ⟨pre, aux, hpre, haux', B, hB⟩ := hafter
  obtain ⟨A', hA'⟩ := hB.realmDestroy hr hi0 hlast
  exact ⟨A', pre, aux, hpre, haux', hA'⟩

end Loops

/-! ## 4. Exactly one realm -/

section Exact

variable {h₀ h : Host} {A₀ A : Lists} {i : Fin maxRealms} {ps : List Pass}
  {L : GranType → List Cell} {cmds : List Cmd}

theorem Gone.slot_empty (hg : Gone h₀ A₀ i L cmds h A) (hi0 : i ≠ 0) (k : GranType) :
    A.lists (i, k) = [] :=
  hg.holds.inv.free_empty hg.holds.wf hi0 (by rw [hg.rd, Function.update_self]) k

/-- Since nothing was left, every node was picked by some loop. -/
theorem Gone.picked (hg : Gone h₀ A₀ i (leftBy ps L) cmds h A) {k : GranType} (hk : k ≠ .rd)
    {d : Cell} (hd : d ∈ L k) : ∃ p ∈ ps, p.kind = k ∧ p.pick d.2 = true := by
  by_contra hno
  have hmem : d ∈ leftBy ps L k := by
    refine List.mem_filter.mpr ⟨hd, List.all_eq_true.mpr fun p hp => ?_⟩
    by_cases hpk : p.kind = k
    · have hpick : p.pick d.2 = false := by
        by_contra h
        exact hno ⟨p, hp, hpk, Bool.not_eq_false _ ▸ h⟩
      simp [hpick]
    · simp [hpk]
  rw [hg.empty k hk] at hmem
  exact absurd hmem List.not_mem_nil

/-- A loop issues the commands of a node it picks. -/
theorem cmds_sublist_script {p : Pass} {l : List Cell} {d : Cell} (hd : d ∈ l)
    (hp : p.pick d.2 = true) : (p.cmds d.2).Sublist (p.script l) := by
  obtain ⟨l₁, l₂, hl⟩ := List.append_of_mem (List.mem_filter.mpr ⟨hd, hp⟩ :
    d ∈ l.filter fun c => p.pick c.2)
  rw [Pass.script, hl, List.flatMap_append, List.flatMap_cons]
  exact (List.sublist_append_left _ _).trans (List.sublist_append_right _ _)

/-- Loops in this order issue their commands in this order. -/
theorem scripts_sublist {qs : List Pass} (h : qs.Sublist ps) :
    (scriptOf qs L).Sublist (scriptOf ps L) := h.flatMap _

/-- The commands for two nodes, of two loops one after the other. -/
theorem cmds_in_order {p q : Pass} {d e : Cell} (hpq : [p, q].Sublist ps) (hd : d ∈ L p.kind)
    (hp : p.pick d.2 = true) (he : e ∈ L q.kind) (hq : q.pick e.2 = true) :
    (p.cmds d.2 ++ q.cmds e.2).Sublist (scriptOf ps L) := by
  refine List.Sublist.trans ?_ (scripts_sublist hpq)
  simp only [scriptOf, List.flatMap_cons, List.flatMap_nil, List.append_nil]
  exact (cmds_sublist_script hd hp).append (cmds_sublist_script he hq)

/-- In the cleanup an object that goes has its own command issued once. -/
theorem Gone.once (hg : Gone h₀ A₀ i L cmds h A) (htr : LegalTrace h₀.trace) {o : Obj}
    (ho : o ∈ (replay h₀.trace).objs) (hrd : o.rd = A₀.rd i) {seg : Trace}
    (hseg : h.trace = h₀.trace ++ seg)
    (hall : ∀ e ∈ seg, Cleans e.1 ∧ (e.2.x0 = 0 ∨ e.1 = .features 0)) :
    (seg.map Prod.fst).count (destroyCmd o) = 1 := by
  have hlegal : LegalTrace (h₀.trace ++ seg) := hseg ▸ hg.holds.legal
  have hgone : o ∉ (replay (h₀.trace ++ seg)).objs := fun hmem =>
    hg.none_left o (hseg ▸ hmem) hrd
  have hone := object_ends_once hlegal htr (fun e he => (hall e he).1.1) ho hgone
  have hcount : (seg.map Prod.fst).count (destroyCmd o)
      = (accepted seg).countP fun c => c.kills o := by
    rw [List.count, accepted, List.countP_map, List.countP_map, List.countP_filter]
    refine List.countP_congr fun e he => ?_
    obtain ⟨hc, hst⟩ := hall e he
    have hiff := kills_iff_of_cleans hc o
    simp only [Function.comp_apply, beq_iff_eq, Bool.and_eq_true, decide_eq_true_eq, hiff]
    refine ⟨fun heq => ⟨heq, hst.resolve_right fun hf => ?_⟩, And.left⟩
    rw [hf] at heq
    cases o <;> exact absurd heq (by simp [destroyCmd])
  rw [hcount, hone]

end Exact

/-- **What a teardown of the realm in slot `i` has done**: `A` and `A'` are the lists before and
after, `seg` the commands in between, each of which was accepted (the feature register is asked for
its value). -/
structure TornDown (i : Fin maxRealms) (A A' : Lists) (seg : Trace) : Prop where
  accepted : ∀ e ∈ seg, e.2.x0 = 0 ∨ e.1 = .features 0
  empty : ∀ k, A'.lists (i, k) = []
  free : A'.rd i = freeRd
  once : ∀ k, ∀ d ∈ A.lists (i, k),
    ∃ o, objOf k d.2 = some o ∧ (seg.map Prod.fst).count (destroyCmd o) = 1
  aux_first : ∀ d ∈ A.lists (i, .data), ∀ j, d.2.hasAuxiliary j = true →
    [.rttAuxUnmapProtected d.2.rd d.2.ipa (UInt64.ofNat (j.val + 1)),
      .dataDestroy d.2.rd d.2.ipa].Sublist (seg.map Prod.fst)
  aux_first_unprotected : ∀ d ∈ A.lists (i, .validNs), ∀ j, d.2.hasAuxiliary j = true →
    [.rttAuxUnmapUnprotected d.2.rd d.2.ipa (UInt64.ofNat (j.val + 1)),
      .rttUnmapUnprotected d.2.rd d.2.ipa d.2.level].Sublist (seg.map Prod.fst)
  leaves_first : ∀ d ∈ A.lists (i, .rtt), ∀ e ∈ A.lists (i, .rtt), d.2.level = e.2.level + 1 →
    [.rttDestroy d.2.rd d.2.ipa d.2.level,
      .rttDestroy e.2.rd e.2.ipa e.2.level].Sublist (seg.map Prod.fst)
  leaves_first_aux : ∀ d ∈ A.lists (i, .rttAux), ∀ e ∈ A.lists (i, .rttAux),
    d.2.rttTreeIdx = e.2.rttTreeIdx → d.2.level = e.2.level + 1 →
    [.rttAuxDestroy d.2.rd d.2.ipa d.2.level d.2.rttTreeIdx,
      .rttAuxDestroy e.2.rd e.2.ipa e.2.level e.2.rttTreeIdx].Sublist (seg.map Prod.fst)
  others : ∀ j, j ≠ 0 → j ≠ i → A'.rd j = A.rd j ∧ ∀ k, A'.lists (j, k) = A.lists (j, k)

/-- The commands before a node's own, and then its own. -/
theorem aux_then_primary (f : UInt64 → Cmd) {g : Granule} {j : Fin maxAuxPlanes}
    (hj : g.hasAuxiliary j = true) (c : Cmd) (cs : List Cmd) :
    [f (UInt64.ofNat (j.val + 1)), c].Sublist (auxCmds f g ++ c :: cs) := by
  have hmem : f (UInt64.ofNat (j.val + 1)) ∈ auxCmds f g :=
    List.mem_map.mpr ⟨j, List.mem_filter.mpr ⟨List.mem_finRange j, hj⟩, rfl⟩
  exact (List.singleton_sublist.mpr hmem).append
    (List.singleton_sublist.mpr (List.mem_cons_self (l := cs)))

/-- The levels the loops over a tree know. -/
def levels : List UInt64 := [3, 2, 1]

/-- Two neighbouring levels come in the order of the loops. -/
theorem levels_in_order {l m : UInt64} (hl : l ∈ levels) (hm : m ∈ levels) (h : l = m + 1) :
    [l, m].Sublist levels := by
  simp only [levels, List.mem_cons, List.not_mem_nil, or_false] at hl hm
  rcases hm with rfl | rfl | rfl
  · rcases hl with rfl | rfl | rfl <;> exact absurd h (by decide)
  · subst h
    decide
  · subst h
    decide

theorem rttPasses_in_order {l m : UInt64} (h : [l, m].Sublist levels) :
    [rttPass l, rttPass m].Sublist primaryPasses := by
  have hmap : (levels.map rttPass).Sublist primaryPasses :=
    List.sublist_append_right [recPass, dataPass 1, dataPass 0, validNsPass] _
  exact (h.map rttPass).trans hmap

theorem auxPasses_in_order {index l m : UInt64} (hi : index ∈ [1, 2, 3])
    (h : [l, m].Sublist levels) :
    [rttAuxPass index l, rttAuxPass index m].Sublist auxPasses := by
  refine (h.map (rttAuxPass index)).trans ?_
  obtain ⟨pre, post, hsplit⟩ := List.append_of_mem hi
  rw [auxPasses, hsplit, List.flatMap_append, List.flatMap_cons]
  exact (List.sublist_append_left _ _).trans (List.sublist_append_right _ _)

/-- The auxiliary loops pick nodes of auxiliary tables only. -/
theorem kind_of_mem_aux {aux : List Pass} (haux : aux = [] ∨ aux = auxPasses) {p : Pass}
    (hp : p ∈ aux) : p.kind = .rttAux := by
  rcases haux with rfl | rfl
  · exact absurd hp List.not_mem_nil
  · simp only [auxPasses, List.mem_flatMap, List.mem_map] at hp
    obtain ⟨index, -, level, -, rfl⟩ := hp
    rfl

/-- Which loop picked a node. -/
theorem picked_rtt {aux : List Pass} (haux : aux = [] ∨ aux = auxPasses) {g : Granule}
    (h : ∃ p ∈ primaryPasses ++ aux, p.kind = .rtt ∧ p.pick g = true) : g.level ∈ levels := by
  obtain ⟨p, hp, hk, hpick⟩ := h
  rcases List.mem_append.mp hp with hp | hp
  · simp only [primaryPasses, List.mem_cons, List.not_mem_nil, or_false] at hp
    rcases hp with rfl | rfl | rfl | rfl | rfl | rfl | rfl <;>
      simp_all [recPass, dataPass, validNsPass, rttPass, levels]
  · rw [kind_of_mem_aux haux hp] at hk
    exact absurd hk (by simp)

theorem picked_data {aux : List Pass} (haux : aux = [] ∨ aux = auxPasses) {g : Granule}
    (h : ∃ p ∈ primaryPasses ++ aux, p.kind = .data ∧ p.pick g = true) :
    dataPass g.isGranuleSliced ∈ primaryPasses := by
  obtain ⟨p, hp, hk, hpick⟩ := h
  rcases List.mem_append.mp hp with hp | hp
  · simp only [primaryPasses, List.mem_cons, List.not_mem_nil, or_false] at hp
    rcases hp with rfl | rfl | rfl | rfl | rfl | rfl | rfl
    · exact absurd hk (by simp [recPass])
    · rw [show g.isGranuleSliced = 1 by simpa [dataPass] using hpick]
      simp [primaryPasses]
    · rw [show g.isGranuleSliced = 0 by simpa [dataPass] using hpick]
      simp [primaryPasses]
    all_goals exact absurd hk (by simp [validNsPass, rttPass])
  · rw [kind_of_mem_aux haux hp] at hk
    exact absurd hk (by simp)

theorem picked_rttAux {aux : List Pass} (haux : aux = [] ∨ aux = auxPasses) {g : Granule}
    (h : ∃ p ∈ primaryPasses ++ aux, p.kind = .rttAux ∧ p.pick g = true) :
    aux = auxPasses ∧ g.rttTreeIdx ∈ [1, 2, 3] ∧ g.level ∈ levels := by
  obtain ⟨p, hp, hk, hpick⟩ := h
  rcases List.mem_append.mp hp with hp | hp
  · simp only [primaryPasses, List.mem_cons, List.not_mem_nil, or_false] at hp
    rcases hp with rfl | rfl | rfl | rfl | rfl | rfl | rfl <;>
      exact absurd hk (by simp [recPass, dataPass, validNsPass, rttPass])
  · rcases haux with rfl | rfl
    · exact absurd hp List.not_mem_nil
    · simp only [auxPasses, List.mem_flatMap, List.mem_map] at hp
      obtain ⟨index, hindex, level, hlevel, rfl⟩ := hp
      obtain ⟨hl, hi⟩ := Bool.and_eq_true_iff.mp hpick
      rw [beq_iff_eq] at hl hi
      exact ⟨rfl, hi ▸ hindex, hl ▸ hlevel⟩

/-- The script of the whole function has all of it. -/
theorem Gone.tornDown {h₀ h : Host} {A₀ A : Lists} {i : Fin maxRealms} {pre : List Cmd}
    {aux : List Pass} (hi0 : i ≠ 0) (hh : Holds Sound h₀ A₀) (haux : aux = [] ∨ aux = auxPasses)
    (hg : Gone h₀ A₀ i (leftBy (primaryPasses ++ aux) fun k => A₀.lists (i, k))
      (scriptOf primaryPasses (fun k => A₀.lists (i, k)) ++ pre ++
        scriptOf aux fun k => A₀.lists (i, k)) h A) :
    ∃ seg, h.trace = h₀.trace ++ seg ∧ TornDown i A₀ A seg := by
  obtain ⟨seg, hseg, hcmds, hall⟩ := hg.trace
  have hprimary : (scriptOf primaryPasses fun k => A₀.lists (i, k)).Sublist
      (seg.map Prod.fst) := by
    rw [hcmds, List.append_assoc, List.append_assoc]
    exact List.sublist_append_left _ _
  have hauxs : (scriptOf aux fun k => A₀.lists (i, k)).Sublist (seg.map Prod.fst) := by
    rw [hcmds]
    exact (List.sublist_append_right _ _).trans (List.sublist_append_left _ _)
  refine ⟨seg, hseg, fun e he => (hall e he).2, hg.slot_empty hi0,
    by rw [hg.rd, Function.update_self], ?_, ?_, ?_, ?_, ?_, ?_⟩
  · intro k d hd
    obtain ⟨o, ho, hdo, hrd⟩ := hh.inv.live_cell hi0 hd
    exact ⟨o, hdo, hg.once hh.legal ho hrd hseg hall⟩
  · intro d hd j hj
    have hmem := picked_data haux (hg.picked (by decide) hd)
    have hscript : ((dataPass d.2.isGranuleSliced).cmds d.2).Sublist
        (scriptOf primaryPasses fun k => A₀.lists (i, k)) := by
      have hone := scripts_sublist (L := fun k => A₀.lists (i, k))
        (List.singleton_sublist.mpr hmem)
      rw [scriptOf, List.flatMap_singleton] at hone
      exact (cmds_sublist_script (p := dataPass d.2.isGranuleSliced) hd (by simp [dataPass])).trans
        hone
    exact ((aux_then_primary _ hj _ _).trans hscript).trans hprimary
  · intro d hd j hj
    have hmem : validNsPass ∈ primaryPasses := by simp [primaryPasses]
    have hone := scripts_sublist (L := fun k => A₀.lists (i, k))
      (List.singleton_sublist.mpr hmem)
    rw [scriptOf, List.flatMap_singleton] at hone
    exact ((aux_then_primary _ hj _ []).trans
      ((cmds_sublist_script (p := validNsPass) hd rfl).trans hone)).trans hprimary
  · intro d hd e he hlev
    have hsub := levels_in_order (picked_rtt haux (hg.picked (by decide) hd))
      (picked_rtt haux (hg.picked (by decide) he)) hlev
    have hord := cmds_in_order (L := fun k => A₀.lists (i, k)) (rttPasses_in_order hsub) hd
      (by simp [rttPass]) he (by simp [rttPass])
    exact (List.Sublist.trans (by simp [rttPass]) hord).trans hprimary
  · intro d hd e he hidx hlev
    obtain ⟨rfl, hdi, hdl⟩ := picked_rttAux haux (hg.picked (by decide) hd)
    obtain ⟨-, -, hel⟩ := picked_rttAux haux (hg.picked (by decide) he)
    have hord := cmds_in_order (L := fun k => A₀.lists (i, k))
      (auxPasses_in_order hdi (levels_in_order hdl hel hlev)) hd (by simp [rttAuxPass]) he
      (by simp [rttAuxPass, hidx])
    refine (List.Sublist.trans ?_ hord).trans hauxs
    rw [← hidx]
    simp [rttAuxPass]
  · intro j hj hji
    exact ⟨by rw [hg.rd, Function.update_of_ne hji], hg.other j hj hji⟩

/-- **`val_host_realm_destroy` tears down exactly one realm.**  In every run, against every RMM
that accepts only what is legal: if the function succeeds for a realm that has a slot, the slot is
free and empty; each of its nodes had its own command issued once, auxiliary mappings before the
primary one and RTTs from the leaves up; and every other slot is as it was. -/
theorem realm_destroy_tears_down_one_realm {rmm : Monitor} {h h' : Host} {rd : UInt64}
    (hr : LegalMonitor rmm) (hreach : Reachable rmm true (fun _ _ => True) h)
    (htracked : valHostGetCurrRealm rd h.tracker ≠ 0)
    (hrun : valHostRealmDestroy rmm true rd h = .ok (true, h')) :
    ∃ A A' seg, Repr h.tracker A ∧ Repr h'.tracker A' ∧ h'.trace = h.trace ++ seg ∧
      h.tracker.rd (valHostGetCurrRealm rd h.tracker) = rd ∧
      TornDown (valHostGetCurrRealm rd h.tracker) A A' seg := by
  obtain ⟨A, hh⟩ := hreach.sound hr
  have hslot : valHostGetCurrRealm rd h.tracker = slotOf A.rd rd := by
    rw [valHostGetCurrRealm, hh.rep.rd]
  rw [hslot] at htracked ⊢
  obtain ⟨A', pre, aux, -, haux, hg⟩ := realmDestroy_success hr hh htracked hrun
  obtain ⟨seg, hseg, ht⟩ := hg.tornDown htracked hh haux
  exact ⟨A, A', seg, hh.rep, hg.holds.rep, hseg, by rw [hh.rep.rd]; exact slotOf_rd htracked, ht⟩

/-- Two realms, one of them with a REC, RTTs of two levels, an auxiliary RTT, and a data granule and
an unprotected page that are both mapped in an auxiliary tree. -/
def twoRealms : List Act :=
  [0x1000, 0x2000, 0x3000, 0x4000, 0x5000, 0x6000, 0x7000].map (fun a => .call (.granuleDelegate a))
    ++ [.call (.realmCreate 0x1000 0), .call (.realmCreate 0x7000 0),
      .call (.recCreate 0x1000 0x2000 0), .call (.rttCreate 0x1000 0x3000 0 2),
      .call (.rttCreate 0x1000 0x4000 0 3), .call (.rttAuxCreate 0x1000 0x5000 0 3 1),
      .call (.dataCreateUnknown 0x1000 0x6000 0), .call (.rttAuxMapProtected 0x1000 0 1),
      .call (.rttMapUnprotected 0x1000 0x80000000 3 0),
      .call (.rttAuxMapUnprotected 0x1000 0x80000000 2)]

theorem realm_destroy_tears_down_one_of_two :
    ∃ h h', Reachable (exactMonitor 0x200000000000) true (fun _ _ => True) h ∧
      valHostGetCurrRealm 0x1000 h.tracker ≠ 0 ∧
      valHostRealmDestroy (exactMonitor 0x200000000000) true 0x1000 h = .ok (true, h') ∧
      ∃ A A' seg, Repr h.tracker A ∧ Repr h'.tracker A' ∧ h'.trace = h.trace ++ seg ∧
        h.tracker.rd (valHostGetCurrRealm 0x1000 h.tracker) = 0x1000 ∧
        TornDown (valHostGetCurrRealm 0x1000 h.tracker) A A' seg := by
  obtain ⟨h, hreach, hp⟩ := reachable_of_runActs (exactMonitor 0x200000000000) true
    (fun _ a => a.plain)
    (fun _ _ ha => ⟨Act.fits_of_plain ha, trivial⟩) twoRealms
    (fun h => valHostGetCurrRealm 0x1000 h.tracker != 0 &&
      succeeded (valHostRealmDestroy (exactMonitor 0x200000000000) true 0x1000 h))
    (by decide +kernel)
  obtain ⟨htracked, hrun⟩ := Bool.and_eq_true_iff.mp hp
  obtain ⟨h', hrun⟩ := ok_of_succeeded hrun
  have htracked : valHostGetCurrRealm 0x1000 h.tracker ≠ 0 := by simpa using htracked
  exact ⟨h, h', hreach, htracked, hrun,
    realm_destroy_tears_down_one_realm (exactMonitor_legal _) hreach htracked hrun⟩

end RmmAcs.Granules
