/-
# A cleanup fails only when it is refused

`Postamble.lean` says what a cleanup that SUCCEEDS leaves.  That would be little if the cleanup
got in its own way: if it looked for a node that is gone, issued a command that no RMM may accept,
or took a table away while something still hangs below it.

This file is the other half.  From every state a test can reach with a complete tracker the
cleanup returns; each of its commands comes when the RMM may accept it (`Ready`): it names what is
there, and all that could hang below it is gone; and the cleanup stops with an error in one case
only, when the RMM refuses such a command.

The loops look for RTTs of the levels 1 to 3, and for the auxiliary trees 1 to 3 only where the RMM
says that it has them.  That the RMM makes no other tables is the one thing asked of it (`Known`).
-/
import RmmAcs.Tracker.Postamble

namespace RmmAcs.Granules

open RmmAcs Lib Rmm

/-! ## 1. Commands that come in time -/

/-- What could hang below a table that a command takes away: a mapping of the realm, or a table of
a deeper level of the same tree. -/
def above : Cmd → Obj → Bool
  | .rttDestroy rd _ _, .data rd' _ _ => rd == rd'
  | .rttDestroy rd _ _, .unprotected rd' _ _ => rd == rd'
  | .rttDestroy rd _ level, .rtt rd' _ level' _ => rd == rd' && decide (level < level')
  | .rttAuxDestroy rd _ _ _, .data rd' _ _ => rd == rd'
  | .rttAuxDestroy rd _ _ _, .unprotected rd' _ _ => rd == rd'
  | .rttAuxDestroy rd _ level index, .rttAux rd' _ level' index' _ =>
    rd == rd' && index == index' && decide (level < level')
  | _, _ => false

/-- **The RMM may accept the command**: it is legal, and nothing hangs below what it takes away. -/
def Ready (R : RmmState) (c : Cmd) : Prop := R.Legal c ∧ ∀ o ∈ R.objs, above c o = false

/-- From the history `tr` on, every command came in time and was accepted; `RMI_FEATURES` changes
nothing, so that its status does not matter. -/
inductive Orderly (tr : Trace) : Trace → Prop where
  | start : Orderly tr tr
  | next {tr' : Trace} {c : Cmd} {r : SmcRet} (h : Orderly tr tr') (hc : Ready (replay tr') c)
      (hr : r.x0 = 0 ∨ c = .features 0) : Orderly tr (tr' ++ [(c, r)])

/-- After an orderly stretch a command that came in time was refused. -/
def Stopped (tr tr' : Trace) : Prop :=
  ∃ tr₁ c r, Orderly tr tr₁ ∧ Ready (replay tr₁) c ∧ r.x0 ≠ 0 ∧ tr' = tr₁ ++ [(c, r)]

/-- The tables the cleanup looks for. -/
def Known (planes : Prop) : Obj → Prop
  | .rtt _ _ level _ => level ∈ levels
  | .rttAux _ _ level index _ => planes ∧ index ∈ [1, 2, 3] ∧ level ∈ levels
  | _ => True

/-- The tracker is complete, and the RMM has no other tables. -/
structure Swept (U : UInt64 → Prop) (planes : Prop) (A : Lists) (R : RmmState) : Prop where
  complete : Complete U A R
  known : ∀ o ∈ R.objs, Known planes o

theorem stable_swept (U : UInt64 → Prop) (planes : Prop) : Stable (Swept U planes) fun A _ c =>
    CanTrack U A c ∧ ∀ o, c.makes = some o → Known planes o where
  enter := fun rd hs => ⟨(stable_complete U).enter rd hs.complete, hs.known⟩
  effect := fun hrep hw hl hs hok he => by
    refine ⟨hs.complete.effect hrep hw hl hok.1 he, fun o ho => ?_⟩
    rcases RmmState.mem_apply_objs.mp ho with ⟨ho, -⟩ | hm
    · exact hs.known o ho
    · exact hok.2 o hm
  ends := fun {A R c} he =>
    ⟨(stable_complete U).ends (A := A) (R := R) he, fun o hm => absurd (he.1.symm.trans hm) (by simp)⟩

theorem slices_swept (U : UInt64 → Prop) (planes : Prop) : Slices (Swept U planes) :=
  fun A R i d hs hd => ⟨slices_complete U A R i d hs.complete hd, hs.known⟩

/-! ## 2. What ends something allocates nothing -/

/-- The heap was not asked, or it answered. -/
def NoAlloc {α : Type} (x : Except Fault α) : Prop := x ≠ .error .noMemory

section NoAlloc

variable {α β : Type}

theorem NoAlloc.bind {x : Except Fault α} {f : α → Except Fault β} (hx : NoAlloc x)
    (hf : ∀ a, NoAlloc (f a)) : NoAlloc (x >>= f) := by
  cases x with
  | error e => exact fun h => hx (by rw [show e = .noMemory from Except.error.inj h])
  | ok a => exact hf a

theorem noAlloc_ok (a : α) : NoAlloc (.ok a : Except Fault α) := by simp [NoAlloc]

theorem noAlloc_removeGranuleBy (key : Granule → Bool) (r : ListRef) (t : Tracker) :
    NoAlloc (removeGranuleBy key r t) := by
  unfold removeGranuleBy NoAlloc
  dsimp only
  split
  · split <;> simp
  · split <;> simp

theorem noAlloc_findGranule (pa : UInt64) (t : Tracker) : NoAlloc (valHostFindGranule pa t) := by
  unfold valHostFindGranule NoAlloc
  split <;> simp

theorem noAlloc_deref (p : Option Ptr) : NoAlloc (deref p) := by
  unfold deref NoAlloc
  split <;> simp

theorem noAlloc_addNode (a : Ptr) (t : Tracker) : NoAlloc (addNode a t) := by
  unfold addNode NoAlloc
  split
  · simp
  · split <;> simp

theorem noAlloc_giveBack (state : GranuleState) (r : Option Ptr × Tracker) :
    NoAlloc (giveBack state r) :=
  (noAlloc_deref r.1).bind fun _ => noAlloc_addNode _ _

theorem noAlloc_giveBackRec (state : GranuleState) (pa : UInt64) :
    ∀ (is : List (Fin maxRealms)) (t : Tracker), NoAlloc (giveBackRec state pa is t)
  | [], t => noAlloc_ok t
  | _ :: is, _ => (noAlloc_removeGranuleBy _ _ _).bind fun r => by
    by_cases hr : r.1 = none
    · rw [if_pos hr]
      exact noAlloc_giveBackRec state pa is r.2
    · rw [if_neg hr]
      exact noAlloc_giveBack state r

theorem noAlloc_destroy (rd pa ipa level : UInt64) (state listState : GranuleState) (idx : UInt64)
    (t : Tracker) :
    NoAlloc (valHostUpdateDestroyGranuleState rd pa ipa level state listState idx t) := by
  unfold valHostUpdateDestroyGranuleState
  split
  · refine (noAlloc_findGranule pa t).bind fun p => ?_
    cases p with
    | none => exact noAlloc_ok t
    | some a =>
      dsimp only
      split
      · exact (noAlloc_removeGranuleBy _ _ _).bind fun r =>
          (noAlloc_deref r.1).bind fun _ => noAlloc_ok _
      · split <;> exact noAlloc_ok _
  · cases listState with
    | undelegated | delegated => exact noAlloc_ok _
    | recg => exact noAlloc_giveBackRec _ _ _ _
    | rd =>
      exact (noAlloc_removeGranuleBy _ _ _).bind fun r =>
        (noAlloc_giveBack _ r).bind fun _ => noAlloc_ok _
    | _ => exact (noAlloc_removeGranuleBy _ _ _).bind fun r => noAlloc_giveBack _ r

theorem noAlloc_trackAux (granState : GranuleState) (rd index ipa : UInt64) (val : Bool)
    (t : Tracker) : NoAlloc (trackAux granState rd index ipa val t) := by
  have hinfo : NoAlloc (valHostUpdateAuxRttInfo granState rd index ipa val t) := by
    unfold valHostUpdateAuxRttInfo NoAlloc
    dsimp only
    split
    · split
      · simp
      · split
        · simp
        · simp
        · split <;> simp
    · simp
  unfold trackAux
  cases hx : valHostUpdateAuxRttInfo granState rd index ipa val t with
  | error e =>
    rw [hx] at hinfo
    exact fun h => hinfo (by rw [show e = .noMemory from Except.error.inj h])
  | ok x => exact noAlloc_ok _

/-- **A command of a cleanup needs no memory.** -/
theorem noAlloc_rmi (rmm : Monitor) {c : Cmd} (hc : Ends c) (h : Host) :
    NoAlloc (valHostRmi rmm c h) := by
  have hshape : ∀ {track : Tracker → Except Fault Tracker}, (∀ t, NoAlloc (track t)) →
      NoAlloc (rmiCall rmm c track h) := by
    intro track ht
    unfold rmiCall
    dsimp only
    split
    · exact noAlloc_ok _
    · exact (ht _).bind fun _ => noAlloc_ok _
  obtain ⟨hm, hd⟩ := hc
  cases c with
  | granuleDelegate a => exact absurd rfl (hd a)
  | granuleUndelegate | realmDestroy | recDestroy | dataDestroy | rttDestroy | rttFold |
    rttUnmapUnprotected | rttAuxDestroy | rttAuxFold => exact hshape (noAlloc_destroy _ _ _ _ _ _ _)
  | rttAuxMapProtected | rttAuxMapUnprotected | rttAuxUnmapProtected | rttAuxUnmapUnprotected =>
    exact hshape (noAlloc_trackAux _ _ _ _ _)
  | features => exact hshape fun t => noAlloc_ok t
  | _ => exact absurd hm (by simp [Cmd.makes])

end NoAlloc

/-! ## 3. One command -/

section Teardown

variable {rmm : Monitor} {rmmV11 : Bool} {U : UInt64 → Prop} {planes : Prop} {tr : Trace}
  {h₀ h h' : Host} {A₀ A : Lists} {i : Fin maxRealms} {L L' : GranType → List Cell} {c : Cmd}

theorem Holds.of_swept (hh : Holds (Swept U planes) h A) : Holds (Complete U) h A :=
  ⟨hh.rep, hh.legal, hh.inv.complete⟩

/-- **A command that comes in time** is accepted, or the cleanup stops there. -/
theorem issue_returns (hr : LegalMonitor rmm) (hc : Ends c) (hh : Holds (Swept U planes) h A)
    (ho : Orderly tr h.trace) (hready : Ready (replay h.trace) c) :
    (∃ h', issue rmm c h = .ok (true, h') ∧ Kept (Swept U planes) h' ∧ Orderly tr h'.trace ∧
        replay h'.trace = (replay h.trace).apply c) ∨
      ∃ h', issue rmm c h = .ok (false, h') ∧ Stopped tr h'.trace := by
  have hfound : (rmm h.trace c).x0 = 0 → effect (freshCell h.tracker) A c ≠ none := fun _ =>
    hh.inv.complete.effect_ne_none hh.wf hready.1 _
  obtain ⟨r, h', hcall⟩ := (valHostRmi_total hh.rep hfound).resolve_left (noAlloc_rmi rmm hc h)
  obtain ⟨A', hA'⟩ := hh.call (stable_swept U planes) hr
    (fun _ => (stable_swept U planes).ends (R := replay h.trace) hc) hcall
  have hi : issue rmm c h = .ok (r.x0 == 0, h') := by
    unfold issue
    rw [hcall]
    rfl
  by_cases h0 : r.x0 = 0
  · refine Or.inl ⟨h', by rw [hi, h0]; rfl, ⟨A', hA'.holds⟩, ?_, ?_⟩
    · rw [hA'.trace]
      exact ho.next hready (Or.inl h0)
    · rw [hA'.trace, replay_snoc, if_pos h0]
  · exact Or.inr ⟨h', by rw [hi, beq_false_of_ne h0], _, c, r, ho, hready, h0, hA'.trace⟩

/-- The teardown of slot `i` in an orderly cleanup, with the lists `L` left in the slot. -/
structure Working (tr : Trace) (U : UInt64 → Prop) (planes : Prop) (h₀ : Host) (A₀ : Lists)
    (i : Fin maxRealms) (L : GranType → List Cell) (h : Host) : Prop where
  torn : ∃ cmds, Torn h₀ A₀ i L cmds h
  kept : Kept (Swept U planes) h
  orderly : Orderly tr h.trace

/-- One family of lists for both. -/
theorem Working.lists (hw : Working tr U planes h₀ A₀ i L h) :
    ∃ A cmds, Tearing h₀ A₀ i L cmds h A ∧ Holds (Swept U planes) h A := by
  obtain ⟨⟨cmds, A, ht⟩, ⟨B, hB⟩, -⟩ := hw
  obtain rfl : A = B := ht.holds.rep.unique hB.rep
  exact ⟨A, cmds, ht, hB⟩

/-- A step of the teardown whose effect is known, and that returns. -/
theorem Working.step {p : Proc Host Fault}
    (hp : Proc.Returns (Working tr U planes h₀ A₀ i L) p (fun h => Orderly tr h.trace)
      fun h => Stopped tr h.trace)
    (hs : ∀ cmds, ∃ cmds', Proc.Success (Torn h₀ A₀ i L cmds) p (Torn h₀ A₀ i L' cmds'))
    (hk : Proc.Keeps (Kept (Swept U planes)) p) :
    Proc.Returns (Working tr U planes h₀ A₀ i L) p (Working tr U planes h₀ A₀ i L')
      fun h => Stopped tr h.trace := by
  intro h hw
  refine (hp h hw).imp_left fun ⟨h', hrun, ho⟩ => ⟨h', hrun, ?_, ?_, ho⟩
  · obtain ⟨cmds, ht⟩ := hw.torn
    obtain ⟨cmds', hs⟩ := hs cmds
    exact ⟨cmds', hs h h' ht hrun⟩
  · exact hk h true h' hw.kept hrun

/-- What a node of the slot stands for. -/
theorem Working.obj_of_node (hw : Working tr U planes h₀ A₀ i L h) (hi0 : i ≠ 0) {k : GranType}
    {d : Cell} (hd : d ∈ L k) :
    ∃ o ∈ (replay h.trace).objs, objOf k d.2 = some o ∧ o.rd = A₀.rd i := by
  obtain ⟨A, cmds, ht, -⟩ := hw.lists
  obtain ⟨o, ho, hdo, hrd⟩ := ht.holds.inv.live_cell hi0 (ht.own k ▸ hd)
  exact ⟨o, ho, hdo, by rw [hrd, ht.rd]⟩

/-- The node an object of the realm has in the slot. -/
theorem Working.node_of_obj (hw : Working tr U planes h₀ A₀ i L h) (hi0 : i ≠ 0) {o : Obj}
    (ho : o ∈ (replay h.trace).objs) (hrd : o.rd = A₀.rd i) :
    ∃ e ∈ L (objKind o), objOf (objKind o) e.2 = some o ∧ CellOk U (objKind o) e.2 := by
  obtain ⟨A, cmds, ht, hh⟩ := hw.lists
  obtain ⟨-, e, he, heo⟩ := hh.inv.complete.full.tracked o ho
  have hslot : slotOf A.rd o.rd = i :=
    ht.holds.inv.slot_eq hh.wf hi0 (by rw [ht.rd, hrd]) (hh.wf.owner o ho)
  rw [hslot] at he
  refine ⟨e, ht.own _ ▸ he, heo, hh.inv.complete.full.cell i _ (fun hk => ?_) e he⟩
  exact absurd heo (by rw [hk]; simp [objOf])

/-- The payload of a node of the slot. -/
theorem Working.node_eq (hw : Working tr U planes h₀ A₀ i L h) {k : GranType} {d : Cell}
    (hd : d ∈ L k) : node d.1 h = d.2 := by
  obtain ⟨A, cmds, ht, -⟩ := hw.lists
  exact ht.node_eq hd

/-! ## 4. One loop -/

/-- The command that destroys an object, on an RMM that has it. -/
theorem endsObj_destroyCmd {R : RmmState} {o : Obj} (ho : o ∈ R.objs)
    (hne : ∀ rd, o ≠ .realm rd) : EndsObj R (destroyCmd o) o ∧ R.Legal (destroyCmd o) ∧
      Cleans (destroyCmd o) := by
  have hclean : Cleans (destroyCmd o) := by
    cases o <;> exact ⟨⟨rfl, by simp [destroyCmd]⟩, by simp [destroyCmd], by simp [destroyCmd]⟩
  have hkills : (destroyCmd o).kills o = true := (kills_iff_of_cleans hclean o).mpr rfl
  refine ⟨⟨ho, hkills, hclean.1.1, ?_⟩, ?_, hclean⟩
  · cases o <;> rfl
  · cases o with
    | realm rd => exact absurd rfl (hne rd)
    | _ => exact ⟨_, ho, hkills⟩

/-- The loops `ps` have nothing to act on any more. -/
def Cleared (ps : List Pass) (L : GranType → List Cell) : Prop :=
  ∀ p ∈ ps, ∀ d ∈ L p.kind, p.pick d.2 = false

theorem Cleared.shrink {ps : List Pass} (hc : Cleared ps L) {k : GranType} {l : List Cell}
    (hl : ∀ d ∈ l, d ∈ L k) : Cleared ps (Function.update L k l) := by
  intro p hp d hd
  by_cases hk : p.kind = k
  · rw [hk, Function.update_self] at hd
    exact hc p hp d (hk ▸ hl d hd)
  · rw [Function.update_of_ne hk] at hd
    exact hc p hp d hd

/-- A destroy command that is accepted, and the undelegation of the granule it frees. -/
theorem returns_destroy_undelegate (hr : LegalMonitor rmm) (hi0 : i ≠ 0) {f : Granule → Cmd}
    {k : GranType} {d : Cell} (hd : d ∈ L k) (hk : k ≠ .validNs)
    (hf : ∀ o, objOf k d.2 = some o → f d.2 = destroyCmd o ∧ ∀ rd, o ≠ .realm rd)
    (hbare : ∀ h, Working tr U planes h₀ A₀ i L h →
      ∀ o ∈ (replay h.trace).objs, above (f d.2) o = false)
    (hs : ∀ h h' A cmds, Tearing h₀ A₀ i L cmds h A → issue rmm (f d.2) h = .ok (true, h') →
      ∃ A', Tearing h₀ A₀ i L' (cmds ++ [f d.2]) h' A' ∧
        node d.1 h' = withState .delegated d.2) :
    Proc.Returns (Working tr U planes h₀ A₀ i L)
      (Proc.seq (issueFor rmm d.1 f) (undelegateNode rmm d.1))
      (Working tr U planes h₀ A₀ i L') fun h => Stopped tr h.trace := by
  -- in between, the granule of the node is spare
  refine Proc.Returns.seq (Q := fun h => Working tr U planes h₀ A₀ i L' h ∧
    node d.1 h = withState .delegated d.2 ∧ Spare (replay h.trace) d.2.pa) ?_ ?_
  · intro h hw
    obtain ⟨A, cmds, ht, hh⟩ := hw.lists
    obtain ⟨o, ho, hdo, -⟩ := hw.obj_of_node hi0 hd
    obtain ⟨hcmd, hne⟩ := hf o hdo
    obtain ⟨he, hlegal, hclean⟩ := endsObj_destroyCmd ho hne
    have hready : Ready (replay h.trace) (f d.2) := ⟨hcmd ▸ hlegal, hbare h hw⟩
    unfold issueFor
    rw [hw.node_eq hd]
    refine (issue_returns hr (hcmd ▸ hclean.1) hh hw.orderly hready).imp_left ?_
    rintro ⟨h', hi, hk', ho', hreplay⟩
    obtain ⟨A', ht', hnode⟩ := hs h h' A cmds ht hi
    refine ⟨h', hi, ⟨⟨_, A', ht'⟩, hk', ho'⟩, hnode, ?_⟩
    rw [hreplay, hcmd]
    exact (he.spare hh.wf (objOf_pa hk hdo)).mpr (Or.inr rfl)
  · rintro h ⟨hw, hnode, hspare⟩
    obtain ⟨A, cmds, ht, hh⟩ := hw.lists
    have hready : Ready (replay h.trace) (.granuleUndelegate d.2.pa) :=
      ⟨hspare, fun o _ => rfl⟩
    unfold undelegateNode issueFor
    rw [hnode]
    refine (issue_returns hr ⟨rfl, by simp⟩ hh hw.orderly hready).imp_left ?_
    rintro ⟨h', hi, hk', ho', -⟩
    obtain ⟨A', ht'⟩ := ht.undelegate hr hi0 hi
    exact ⟨h', hi, ⟨_, A', ht'⟩, hk', ho'⟩

/-- The body of a loop returns, when the loops `done` have run before. -/
def PassReturns (tr : Trace) (U : UInt64 → Prop) (planes : Prop) (h₀ : Host)
    (A₀ : Lists) (i : Fin maxRealms) (done : List Pass) (p : Pass)
    (body : Ptr → Proc Host Fault) : Prop :=
  ∀ L kept d rest, L p.kind = kept ++ d :: rest → Cleared done L →
    Proc.Returns (Working tr U planes h₀ A₀ i L) (body d.1)
      (if p.pick d.2 then Working tr U planes h₀ A₀ i (Function.update L p.kind (kept ++ rest))
      else Working tr U planes h₀ A₀ i L) fun h => Stopped tr h.trace

theorem PassReturns.guarded {done : List Pass} {p : Pass} {body : Ptr → Proc Host Fault}
    (hb : ∀ L kept d rest, L p.kind = kept ++ d :: rest → Cleared done L → p.pick d.2 = true →
      Proc.Returns (Working tr U planes h₀ A₀ i L) (body d.1)
        (Working tr U planes h₀ A₀ i (Function.update L p.kind (kept ++ rest)))
        fun h => Stopped tr h.trace) :
    PassReturns tr U planes h₀ A₀ i done p fun a =>
      Proc.guarded (fun h => p.pick (node a h)) (body a) := by
  intro L kept d rest hl hc
  have hd : d ∈ L p.kind := mem_of_split hl
  cases hpick : p.pick d.2 with
  | true =>
    rw [if_pos rfl]
    refine Proc.Returns.guarded ((hb L kept d rest hl hc hpick).mono (fun _ h => h.1)
      (fun _ h => h) fun _ h => h) fun h hw hno => ?_
    rw [hw.node_eq hd, hpick] at hno
    exact absurd hno (by simp)
  | false =>
    rw [if_neg (by simp)]
    refine Proc.Returns.guarded (fun h hw => ?_) fun h hw _ => hw
    have hyes := hw.2
    rw [hw.1.node_eq hd, hpick] at hyes
    exact absurd hyes (by simp)

theorem PassReturns.every {done : List Pass} {p : Pass} (hp : ∀ g, p.pick g = true)
    {body : Ptr → Proc Host Fault}
    (hb : ∀ L kept d rest, L p.kind = kept ++ d :: rest → Cleared done L →
      Proc.Returns (Working tr U planes h₀ A₀ i L) (body d.1)
        (Working tr U planes h₀ A₀ i (Function.update L p.kind (kept ++ rest)))
        fun h => Stopped tr h.trace) :
    PassReturns tr U planes h₀ A₀ i done p body := by
  intro L kept d rest hl hc
  rw [if_pos (hp d.2)]
  exact hb L kept d rest hl hc

/-- An object of the realm that some loop was for is gone. -/
theorem Working.gone (hw : Working tr U planes h₀ A₀ i L h) (hi0 : i ≠ 0) {done : List Pass}
    (hc : Cleared done L) {o : Obj} (ho : o ∈ (replay h.trace).objs)
    (hpick : ∀ g, objOf (objKind o) g = some o → CellOk U (objKind o) g →
      ∃ p ∈ done, p.kind = objKind o ∧ p.pick g = true) : o.rd ≠ A₀.rd i := by
  intro hrd
  obtain ⟨e, he, heo, hcell⟩ := hw.node_of_obj hi0 ho hrd
  obtain ⟨p, hp, hk, hyes⟩ := hpick e.2 heo hcell
  rw [hc p hp e (hk ▸ he)] at hyes
  exact absurd hyes (by simp)

/-- The loops over the mappings of a realm are done. -/
structure Unmapped (done : List Pass) : Prop where
  sliced : dataPass 1 ∈ done
  whole : dataPass 0 ∈ done
  validNs : validNsPass ∈ done

/-- Then no mapping of the realm is left. -/
theorem Working.no_mapping (hw : Working tr U planes h₀ A₀ i L h) (hi0 : i ≠ 0)
    {done : List Pass} (hc : Cleared done L) (hu : Unmapped done) {o : Obj}
    (ho : o ∈ (replay h.trace).objs) (hk : objKind o = .data ∨ objKind o = .validNs) :
    o.rd ≠ A₀.rd i := by
  refine hw.gone hi0 hc ho fun g _ hcell => ?_
  rcases hk with hk | hk
  · rw [hk] at hcell ⊢
    rcases hcell.2 with hm | hm
    · exact ⟨_, hu.whole, rfl, by simp [dataPass, hm]⟩
    · exact ⟨_, hu.sliced, rfl, by simp [dataPass, hm]⟩
  · rw [hk]
    exact ⟨_, hu.validNs, rfl, rfl⟩

/-- **Nothing hangs below an RTT** when the mappings and the deeper levels are done. -/
theorem Working.bare_rtt (hw : Working tr U planes h₀ A₀ i L h) (hi0 : i ≠ 0) {done : List Pass}
    (hc : Cleared done L) (hu : Unmapped done) {level : UInt64}
    (hdone : ∀ m ∈ levels, level < m → rttPass m ∈ done) {d : Cell} (hd : d ∈ L .rtt)
    (hl : d.2.level = level) :
    ∀ o ∈ (replay h.trace).objs, above (.rttDestroy d.2.rd d.2.ipa d.2.level) o = false := by
  obtain ⟨o', -, hdo, hrd⟩ := hw.obj_of_node hi0 hd
  obtain rfl := Option.some.inj hdo
  have hrd : d.2.rd = A₀.rd i := hrd
  obtain ⟨B, hB⟩ := hw.kept
  intro o ho
  by_contra hno
  cases o with
  | data rd ipa pa =>
    have hreq : d.2.rd = rd := by simpa [above] using hno
    exact hw.no_mapping hi0 hc hu ho (Or.inl rfl) (hreq ▸ hrd)
  | unprotected rd ipa lev =>
    have hreq : d.2.rd = rd := by simpa [above] using hno
    exact hw.no_mapping hi0 hc hu ho (Or.inr rfl) (hreq ▸ hrd)
  | rtt rd ipa lev pa =>
    obtain ⟨hreq, hlt⟩ : d.2.rd = rd ∧ d.2.level < lev := by simpa [above] using hno
    have hknown : lev ∈ levels := hB.inv.known _ ho
    refine hw.gone hi0 hc ho (fun g hg _ => ?_) (hreq ▸ hrd)
    obtain ⟨-, -, hlev, -⟩ := Obj.rtt.inj (Option.some.inj hg)
    exact ⟨_, hdone lev hknown (hl ▸ hlt), rfl, by simp [rttPass, hlev]⟩
  | _ => exact absurd hno (by simp [above])

/-- **Nothing hangs below an auxiliary RTT** either. -/
theorem Working.bare_rttAux (hw : Working tr U planes h₀ A₀ i L h) (hi0 : i ≠ 0)
    {done : List Pass} (hc : Cleared done L) (hu : Unmapped done) {index level : UInt64}
    (hdone : ∀ m ∈ levels, level < m → rttAuxPass index m ∈ done) {d : Cell} (hd : d ∈ L .rttAux)
    (hl : d.2.level = level) :
    ∀ o ∈ (replay h.trace).objs,
      above (.rttAuxDestroy d.2.rd d.2.ipa d.2.level index) o = false := by
  obtain ⟨o', -, hdo, hrd⟩ := hw.obj_of_node hi0 hd
  obtain rfl := Option.some.inj hdo
  have hrd : d.2.rd = A₀.rd i := hrd
  obtain ⟨B, hB⟩ := hw.kept
  intro o ho
  by_contra hno
  cases o with
  | data rd ipa pa =>
    have hreq : d.2.rd = rd := by simpa [above] using hno
    exact hw.no_mapping hi0 hc hu ho (Or.inl rfl) (hreq ▸ hrd)
  | unprotected rd ipa lev =>
    have hreq : d.2.rd = rd := by simpa [above] using hno
    exact hw.no_mapping hi0 hc hu ho (Or.inr rfl) (hreq ▸ hrd)
  | rttAux rd ipa lev idx pa =>
    obtain ⟨hreq, hidx, hlt⟩ : d.2.rd = rd ∧ index = idx ∧ d.2.level < lev := by
      simpa [above] using hno
    obtain ⟨-, -, hknown⟩ := hB.inv.known _ ho
    refine hw.gone hi0 hc ho (fun g hg _ => ?_) (hreq ▸ hrd)
    obtain ⟨-, -, hlev, hgidx, -⟩ := Obj.rttAux.inj (Option.some.inj hg)
    exact ⟨_, hdone lev hknown (hl ▸ hlt), rfl, by simp [rttAuxPass, hlev, hgidx, hidx]⟩
  | _ => exact absurd hno (by simp [above])

/-! ## 5. The bodies of the loops -/

theorem recPass_returns (hr : LegalMonitor rmm) (hi0 : i ≠ 0) (done : List Pass) :
    PassReturns tr U planes h₀ A₀ i done recPass fun a =>
      Proc.seq (issueFor rmm a fun g => .recDestroy g.pa) (undelegateNode rmm a) := by
  refine PassReturns.every (fun _ => rfl) fun L kept d rest hl _ => ?_
  refine returns_destroy_undelegate (k := .recg) hr hi0 (mem_of_split hl) (by decide) ?_
    (fun _ _ _ _ => rfl) fun _ _ _ _ ht hi => ht.destroyRec hr hi0 hl hi
  intro o ho
  obtain rfl := Option.some.inj ho
  exact ⟨rfl, by simp⟩

theorem rttPass_returns (hr : LegalMonitor rmm) (hi0 : i ≠ 0) {done : List Pass}
    (hu : Unmapped done) {level : UInt64}
    (hdone : ∀ m ∈ levels, level < m → rttPass m ∈ done) :
    PassReturns tr U planes h₀ A₀ i done (rttPass level) fun a =>
      Proc.guarded (fun h => (node a h).level == level)
        (Proc.seq (issueFor rmm a fun g => .rttDestroy g.rd g.ipa g.level)
          (undelegateNode rmm a)) := by
  refine PassReturns.guarded (p := rttPass level) fun L kept d rest hl hc hpick => ?_
  refine returns_destroy_undelegate (k := .rtt) (f := fun g => .rttDestroy g.rd g.ipa g.level) hr
    hi0 (mem_of_split hl) (by decide) ?_ (fun h hw => ?_) fun _ _ _ _ ht hi => ?_
  · intro o ho
    obtain rfl := Option.some.inj ho
    exact ⟨rfl, by simp⟩
  · exact hw.bare_rtt hi0 hc hu hdone (mem_of_split hl) (by simpa [rttPass] using hpick)
  · exact ht.destroyNode hr hi0 (q := ⟨d.2.rd, .rtt, _, .delegated⟩) rfl hl (by simp) rfl
      (by simp) ⟨⟨rfl, by simp⟩, by simp, by simp⟩ hi

theorem rttAuxPass_returns (hr : LegalMonitor rmm) (hi0 : i ≠ 0) {done : List Pass}
    (hu : Unmapped done) {index level : UInt64}
    (hdone : ∀ m ∈ levels, level < m → rttAuxPass index m ∈ done) :
    PassReturns tr U planes h₀ A₀ i done (rttAuxPass index level) fun a =>
      Proc.guarded (fun h => (node a h).level == level && (node a h).rttTreeIdx == index)
        (Proc.seq (issueFor rmm a fun g => .rttAuxDestroy g.rd g.ipa g.level index)
          (undelegateNode rmm a)) := by
  refine PassReturns.guarded (p := rttAuxPass index level) fun L kept d rest hl hc hpick => ?_
  obtain ⟨hlev, hidx⟩ : d.2.level = level ∧ d.2.rttTreeIdx = index := by
    simpa [rttAuxPass] using hpick
  refine returns_destroy_undelegate (k := .rttAux)
    (f := fun g => .rttAuxDestroy g.rd g.ipa g.level index) hr hi0 (mem_of_split hl) (by decide)
    ?_ (fun h hw => ?_) fun _ _ _ _ ht hi => ?_
  · intro o ho
    obtain rfl := Option.some.inj ho
    exact ⟨by rw [destroyCmd, hidx], by simp⟩
  · exact hw.bare_rttAux hi0 hc hu hdone (mem_of_split hl) hlev
  · exact ht.destroyNode hr hi0 (q := ⟨d.2.rd, .rttAux, _, .delegated⟩) rfl hl (by simp) rfl
      (by simp [hidx]) ⟨⟨rfl, by simp⟩, by simp, by simp⟩ hi

/-- **The loop over `has_auxiliary` returns.** -/
theorem returns_unmapAuxiliary (hr : LegalMonitor rmm) (hi0 : i ≠ 0) {granState : GranuleState}
    {k : GranType} {f : Granule → UInt64 → Cmd} {kept rest : List Cell} {d : Cell}
    (hgran : granState = .data ∧ k = .data ∨ granState = .unprotected ∧ k = .validNs)
    (hc : ∀ g j, Cleans (f g j))
    (heffect : ∀ g j fresh A, effect fresh A (f g j) = A.auxInfo granState g.rd j g.ipa false)
    (hready : ∀ R o x (j : Fin maxAuxPlanes), o ∈ R.objs →
      objOf k (withFlags x d).2 = some o → Ready R (f (withFlags x d).2 (UInt64.ofNat (j + 1))))
    (hl : L k = kept ++ d :: rest) :
    Proc.Returns (Working tr U planes h₀ A₀ i L) (unmapAuxiliary rmm d.1 f)
      (fun h => ∃ x, Working tr U planes h₀ A₀ i
        (Function.update L k (kept ++ withFlags x d :: rest)) h)
      fun h => Stopped tr h.trace := by
  have hL : Function.update L k (kept ++ withFlags d.2.hasAuxiliary d :: rest) = L := by
    rw [show withFlags d.2.hasAuxiliary d = d from rfl, ← hl, Function.update_eq_self]
  refine Proc.Returns.mono (P := fun h => ∃ x, Working tr U planes h₀ A₀ i
    (Function.update L k (kept ++ withFlags x d :: rest)) h) (.all ?_)
    (fun h hw => ⟨d.2.hasAuxiliary, hL.symm ▸ hw⟩) (fun _ h => h) fun _ h => h
  intro p hp
  obtain ⟨j, -, rfl⟩ := List.mem_map.mp hp
  refine .guarded ?_ fun _ hw _ => hw
  rintro h ⟨⟨x, hw⟩, -⟩
  have hmem : withFlags x d ∈ Function.update L k (kept ++ withFlags x d :: rest) k := by simp
  obtain ⟨A, cmds, ht, hh⟩ := hw.lists
  obtain ⟨o, ho, hdo, -⟩ := hw.obj_of_node hi0 hmem
  unfold issueFor
  rw [show node d.1 h = (withFlags x d).2 from hw.node_eq hmem]
  refine (issue_returns hr (hc _ _).1 hh hw.orderly (hready _ o x j ho hdo)).imp_left ?_
  rintro ⟨h', hi, hk', ho', -⟩
  obtain ⟨A', ht'⟩ := ht.unmapAux hr hi0 hgran (by rw [Function.update_self]) (hc _ _)
    (heffect _ _) hi
  rw [Function.update_idem] at ht'
  exact ⟨h', hi, Function.update x j false, ⟨_, A', ht'⟩, hk', ho'⟩

/-- The index of an auxiliary tree that the loop computes. -/
theorem auxIndex_ok (j : Fin maxAuxPlanes) :
    1 ≤ UInt64.ofNat (j + 1) ∧ UInt64.ofNat (j + 1) ≤ 3 := by
  revert j
  decide

theorem dataPass_returns (hr : LegalMonitor rmm) (hi0 : i ≠ 0) (done : List Pass)
    (sliced : UInt8) :
    PassReturns tr U planes h₀ A₀ i done (dataPass sliced) fun a =>
      Proc.guarded (fun h => (node a h).isGranuleSliced == sliced) (destroyData rmm a) := by
  refine PassReturns.guarded (p := dataPass sliced) fun L kept d rest hl _ _ => ?_
  refine Proc.Returns.seq (returns_unmapAuxiliary (f := fun g j => .rttAuxUnmapProtected g.rd g.ipa j)
    hr hi0 (Or.inl ⟨rfl, rfl⟩) (fun g j => ⟨⟨rfl, by simp⟩, by simp, by simp⟩)
    (fun _ _ _ _ => rfl) (fun R o x j ho hdo => ?_) hl) ?_
  · obtain rfl := Option.some.inj hdo
    obtain ⟨hlo, hhi⟩ := auxIndex_ok j
    exact ⟨⟨hlo, hhi, _, ho, by simp [RmmState.isData]⟩, fun _ _ => rfl⟩
  · rintro h ⟨x, hw⟩
    have hl' : Function.update L .data (kept ++ withFlags x d :: rest) .data
        = kept ++ withFlags x d :: rest := Function.update_self _ _ _
    have hret : Proc.Returns
        (Working tr U planes h₀ A₀ i (Function.update L .data (kept ++ withFlags x d :: rest)))
        (Proc.seq (issueFor rmm d.1 fun g => .dataDestroy g.rd g.ipa) (undelegateNode rmm d.1))
        (Working tr U planes h₀ A₀ i (Function.update
          (Function.update L .data (kept ++ withFlags x d :: rest)) .data (kept ++ rest)))
        fun h => Stopped tr h.trace := by
      refine returns_destroy_undelegate (d := withFlags x d) (k := .data) hr hi0
        (mem_of_split hl') (by decide) (fun o ho => ?_) (fun _ _ _ _ => rfl)
        fun _ _ _ _ ht hi => ht.destroyNode hr hi0 (q := ⟨d.2.rd, .data, _, .delegated⟩) rfl hl'
          (by simp) rfl (by simp [withFlags]) ⟨⟨rfl, by simp⟩, by simp, by simp⟩ hi
      obtain rfl := Option.some.inj ho
      exact ⟨rfl, by simp⟩
    rw [Function.update_idem] at hret
    exact hret h hw

theorem validNsPass_returns (hr : LegalMonitor rmm) (hi0 : i ≠ 0) (done : List Pass) :
    PassReturns tr U planes h₀ A₀ i done validNsPass fun a =>
      Proc.seq (unmapAuxiliary rmm a fun g j => .rttAuxUnmapUnprotected g.rd g.ipa j)
        (issueFor rmm a fun g => .rttUnmapUnprotected g.rd g.ipa g.level) := by
  refine PassReturns.every (fun _ => rfl) fun L kept d rest hl _ => ?_
  refine Proc.Returns.seq (returns_unmapAuxiliary
    (f := fun g j => .rttAuxUnmapUnprotected g.rd g.ipa j) hr hi0 (Or.inr ⟨rfl, rfl⟩)
    (fun g j => ⟨⟨rfl, by simp⟩, by simp, by simp⟩) (fun _ _ _ _ => rfl)
    (fun R o x j ho hdo => ?_) hl) ?_
  · obtain ⟨-, rfl⟩ := objOf_validNs hdo
    obtain ⟨hlo, hhi⟩ := auxIndex_ok j
    exact ⟨⟨hlo, hhi, _, ho, by simp [RmmState.isUnprotected]⟩, fun _ _ => rfl⟩
  · rintro h ⟨x, hw⟩
    have hl' : Function.update L .validNs (kept ++ withFlags x d :: rest) .validNs
        = kept ++ withFlags x d :: rest := Function.update_self _ _ _
    obtain ⟨A, cmds, ht, hh⟩ := hw.lists
    obtain ⟨o, ho, hdo, -⟩ := hw.obj_of_node hi0 (mem_of_split hl')
    -- the key is the IPA, in the place of the PA
    obtain ⟨hpa, rfl⟩ := objOf_validNs hdo
    obtain ⟨-, hlegal, hclean⟩ := endsObj_destroyCmd ho (by simp)
    unfold issueFor
    rw [show node d.1 h = (withFlags x d).2 from hw.node_eq (mem_of_split hl')]
    refine (issue_returns hr hclean.1 hh hw.orderly ⟨hlegal, fun _ _ => rfl⟩).imp_left ?_
    rintro ⟨h', hi, hk', ho', -⟩
    obtain ⟨A', ht', -⟩ := ht.destroyNode hr hi0 (q := ⟨d.2.rd, .validNs, _, .undelegated⟩) rfl hl'
      (by simp) rfl (by simp [Lists.byPa, hpa]) hclean hi
    rw [Function.update_idem] at ht'
    exact ⟨h', hi, ⟨_, A', ht'⟩, hk', ho'⟩

/-! ## 6. The loops -/

/-- **One loop returns**, when the loops `done` have run before. -/
theorem returns_walk {done : List Pass} {p : Pass} {body : Ptr → Proc Host Fault}
    (hp : PassReturns tr U planes h₀ A₀ i done p body) (hL : Cleared done L) :
    Proc.Returns (Working tr U planes h₀ A₀ i L) (walkCurrent p.kind body)
      (Working tr U planes h₀ A₀ i
        (Function.update L p.kind ((L p.kind).filter fun c => !p.pick c.2)))
      fun h => Stopped tr h.trace := by
  let J : List Cell → Host → Prop := fun rest h => ∃ behind, L p.kind = behind ++ rest ∧
    Working tr U planes h₀ A₀ i
      (Function.update L p.kind ((behind.filter fun c => !p.pick c.2) ++ rest)) h
  have hnext : ∀ c l h, J (c :: l) h → (h.tracker.mem c.1).next = (l.head?).map Prod.fst := by
    rintro c l h ⟨behind, -, hw⟩
    obtain ⟨A, cmds, ht, -⟩ := hw.lists
    have hch := ht.holds.rep.chain (i, p.kind)
    rw [ht.own, Function.update_self] at hch
    rw [hch.next_eq.head?_eq, addrs, List.head?_map]
  have hbody : ∀ c l, Proc.Returns (J (c :: l)) (body c.1) (J l)
      fun h => Stopped tr h.trace := by
    rintro c l h ⟨behind, hl, hw⟩
    have hclear : Cleared done
        (Function.update L p.kind ((behind.filter fun c => !p.pick c.2) ++ c :: l)) := by
      refine hL.shrink fun d hd => ?_
      rw [hl]
      exact (List.filter_sublist.append (List.Sublist.refl _)).subset hd
    refine (hp _ _ c l (Function.update_self _ _ _) hclear h hw).imp_left ?_
    rintro ⟨h', hrun, hw'⟩
    refine ⟨h', hrun, behind ++ [c], by rw [hl]; simp, ?_⟩
    cases hpick : p.pick c.2 with
    | true =>
      rw [hpick, if_pos rfl, Function.update_idem] at hw'
      simpa [hpick] using hw'
    | false =>
      rw [hpick, if_neg (by simp)] at hw'
      simpa [hpick] using hw'
  intro h hw
  obtain ⟨A, cmds, ht, -⟩ := hw.lists
  have hlist : h.tracker.list (h.tracker.currentRealm, p.kind)
      = ((L p.kind).head?).map Prod.fst := by
    rw [ht.holds.rep.cur, ht.cur, (ht.holds.rep.chain (i, p.kind)).head?_eq, ht.own, addrs,
      List.head?_map]
  have hlen : (L p.kind).length < loopFuel := by
    rw [← ht.own]
    exact ht.holds.rep.length_lt _
  have hstart : J (L p.kind) h := by
    refine ⟨[], rfl, ?_⟩
    rw [List.filter_nil, List.nil_append, Function.update_eq_self]
    exact hw
  unfold walkCurrent walk
  rw [hlist]
  refine (Proc.Returns.forEachNode hnext hbody _ _ hlen h hstart).imp_left ?_
  rintro ⟨h', hrun, behind, hl, hw'⟩
  rw [List.append_nil] at hl hw'
  exact ⟨h', hrun, hl ▸ hw'⟩

/-- A sequence of loops, each with what the ones before it have done. -/
def PassesReturn (tr : Trace) (U : UInt64 → Prop) (planes : Prop) (h₀ : Host) (A₀ : Lists)
    (i : Fin maxRealms) : List Pass → List (Pass × Proc Host Fault) → Prop
  | _, [] => True
  | done, x :: xs =>
    (∀ L, Cleared done L → Proc.Returns (Working tr U planes h₀ A₀ i L) x.2
      (Working tr U planes h₀ A₀ i
        (Function.update L x.1.kind ((L x.1.kind).filter fun c => !x.1.pick c.2)))
      fun h => Stopped tr h.trace) ∧ PassesReturn tr U planes h₀ A₀ i (done ++ [x.1]) xs

/-- The slot with nothing left for the loops `ps`. -/
def Bare (tr : Trace) (U : UInt64 → Prop) (planes : Prop) (h₀ : Host) (A₀ : Lists)
    (i : Fin maxRealms) (ps : List Pass) (h : Host) : Prop :=
  ∃ L, Cleared ps L ∧ Working tr U planes h₀ A₀ i L h

/-- **A sequence of loops returns**, and leaves nothing for any of them. -/
theorem returns_passes : ∀ {xs : List (Pass × Proc Host Fault)} {done : List Pass},
    PassesReturn tr U planes h₀ A₀ i done xs →
      Proc.Returns (Bare tr U planes h₀ A₀ i done) (Proc.all (xs.map Prod.snd))
        (Bare tr U planes h₀ A₀ i (done ++ xs.map Prod.fst)) fun h => Stopped tr h.trace
  | [], done, _ => .skip fun h hb => by simpa using hb
  | (p, q) :: xs, done, ⟨hfirst, hrest⟩ => by
    have hq : Proc.Returns (Bare tr U planes h₀ A₀ i done) q
        (Bare tr U planes h₀ A₀ i (done ++ [p])) fun h => Stopped tr h.trace := by
      rintro h ⟨L, hL, hw⟩
      refine (hfirst L hL h hw).imp_left ?_
      rintro ⟨h', hrun, hw'⟩
      refine ⟨h', hrun, _, fun p' hp' => ?_, hw'⟩
      rcases List.mem_append.mp hp' with hp' | hp'
      · exact hL.shrink (fun d hd => (List.mem_filter.mp hd).1) p' hp'
      · rw [List.mem_singleton.mp hp', Function.update_self]
        intro d hd
        simpa using (List.mem_filter.mp hd).2
    have hall := hq.seq (returns_passes hrest)
    simpa [Proc.all] using hall

/-- What holds of the three levels holds of the deeper ones. -/
theorem forall_deeper {level : UInt64} {P : UInt64 → Prop} (h3 : level < 3 → P 3)
    (h2 : level < 2 → P 2) (h1 : level < 1 → P 1) : ∀ m ∈ levels, level < m → P m := by
  intro m hm
  simp only [levels, List.mem_cons, List.not_mem_nil, or_false] at hm
  rcases hm with rfl | rfl | rfl
  · exact h3
  · exact h2
  · exact h1

theorem Unmapped.append {done : List Pass} (hu : Unmapped done) (ps : List Pass) :
    Unmapped (done ++ ps) :=
  ⟨List.mem_append_left _ hu.sliced, List.mem_append_left _ hu.whole,
    List.mem_append_left _ hu.validNs⟩

theorem unmapped_primary : Unmapped primaryPasses :=
  ⟨by simp [primaryPasses], by simp [primaryPasses], by simp [primaryPasses]⟩

theorem primary_return (hr : LegalMonitor rmm) (hi0 : i ≠ 0) :
    PassesReturn tr U planes h₀ A₀ i [] (primaryLoops rmm) := by
  have hu : ∀ ps, Unmapped ([recPass, dataPass 1, dataPass 0, validNsPass] ++ ps) := fun ps =>
    ⟨by simp, by simp, by simp⟩
  refine ⟨fun L => returns_walk (recPass_returns hr hi0 _),
    fun L => returns_walk (dataPass_returns hr hi0 _ 1),
    fun L => returns_walk (dataPass_returns hr hi0 _ 0),
    fun L => returns_walk (validNsPass_returns hr hi0 _),
    fun L => returns_walk (rttPass_returns hr hi0 (hu []) ?_),
    fun L => returns_walk (rttPass_returns hr hi0 (hu [rttPass 3]) ?_),
    fun L => returns_walk (rttPass_returns hr hi0 (hu [rttPass 3, rttPass 2]) ?_), trivial⟩
  · exact forall_deeper (fun h => absurd h (by decide)) (fun h => absurd h (by decide))
      fun h => absurd h (by decide)
  · exact forall_deeper (fun _ => by simp) (fun h => absurd h (by decide))
      fun h => absurd h (by decide)
  · exact forall_deeper (fun _ => by simp) (fun _ => by simp) fun h => absurd h (by decide)

/-- The loops of one auxiliary tree. -/
theorem aux_return_index (hr : LegalMonitor rmm) (hi0 : i ≠ 0) {done : List Pass}
    (hu : Unmapped done) (index : UInt64) {rest : List (Pass × Proc Host Fault)}
    (hrest : PassesReturn tr U planes h₀ A₀ i
      (done ++ [rttAuxPass index 3] ++ [rttAuxPass index 2] ++ [rttAuxPass index 1]) rest) :
    PassesReturn tr U planes h₀ A₀ i done (([3, 2, 1].map fun level =>
      (rttAuxPass index level, fun h =>
        valHostDestroyAuxRttLevels rmm level h.tracker.currentRealm index h)) ++ rest) := by
  refine ⟨fun L => returns_walk (rttAuxPass_returns hr hi0 hu ?_),
    fun L => returns_walk (rttAuxPass_returns hr hi0 (hu.append _) ?_),
    fun L => returns_walk (rttAuxPass_returns hr hi0 ((hu.append _).append _) ?_), hrest⟩
  · exact forall_deeper (fun h => absurd h (by decide)) (fun h => absurd h (by decide))
      fun h => absurd h (by decide)
  · exact forall_deeper (fun _ => by simp) (fun h => absurd h (by decide))
      fun h => absurd h (by decide)
  · exact forall_deeper (fun _ => by simp) (fun _ => by simp) fun h => absurd h (by decide)

theorem aux_return (hr : LegalMonitor rmm) (hi0 : i ≠ 0) :
    PassesReturn tr U planes h₀ A₀ i primaryPasses (auxLoops rmm) := by
  have hu := unmapped_primary
  refine aux_return_index hr hi0 hu 1 (aux_return_index hr hi0 ?_ 2
    (aux_return_index hr hi0 ?_ 3 (show PassesReturn tr U planes h₀ A₀ i _ [] from trivial)))
  · exact ((hu.append _).append _).append _
  · exact (((((hu.append _).append _).append _).append _).append _).append _

/-! ## 7. A realm -/

/-- The auxiliary loops have run, where there is something for them. -/
def BareAll (tr : Trace) (U : UInt64 → Prop) (planes : Prop) (h₀ : Host) (A₀ : Lists)
    (i : Fin maxRealms) (h : Host) : Prop :=
  ∃ aux, (planes → aux = auxPasses) ∧ Bare tr U planes h₀ A₀ i (primaryPasses ++ aux) h

/-- `RMI_FEATURES` in a teardown. -/
theorem Bare.features {ps : List Pass} (hr : LegalMonitor rmm)
    (hb : Bare tr U planes h₀ A₀ i ps h) :
    ∃ r h', valHostRmi rmm (.features 0) h = .ok (r, h') ∧ r = rmm h.trace (.features 0) ∧
      Bare tr U planes h₀ A₀ i ps h' := by
  obtain ⟨L, hL, hw⟩ := hb
  obtain ⟨A, cmds, ht, hh⟩ := hw.lists
  have hends : Ends (.features 0) := ⟨rfl, by simp⟩
  obtain ⟨r, h', hcall⟩ := (valHostRmi_total hh.rep fun _ => by simp [effect]).resolve_left
    (noAlloc_rmi rmm hends h)
  obtain ⟨A', hA'⟩ := hh.call (stable_swept U planes) hr
    (fun _ => (stable_swept U planes).ends (R := replay h.trace) hends) hcall
  refine ⟨r, h', hcall, (valHostRmi_ok hh.rep hcall).ret, L, hL, ⟨_, ht.features hr hcall⟩,
    ⟨A', hA'.holds⟩, ?_⟩
  rw [hA'.trace]
  exact hw.orderly.next ⟨trivial, fun _ _ => rfl⟩ (Or.inr rfl)

theorem returns_auxTrees (hr : LegalMonitor rmm) (hi0 : i ≠ 0)
    (hplanes : planes → rmmV11 = true ∧ ∀ t, planesSupported (rmm t (.features 0)).x1 = true) :
    Proc.Returns (Bare tr U planes h₀ A₀ i primaryPasses)
      (Proc.guarded (fun _ => rmmV11) (ifPlanes rmm (destroyAuxTrees rmm)))
      (BareAll tr U planes h₀ A₀ i) fun h => Stopped tr h.trace := by
  refine .guarded ?_ fun h hb hno => ⟨[], fun hp => ?_, by rwa [List.append_nil]⟩
  · rintro h ⟨hb, -⟩
    obtain ⟨r, h', hcall, hret, hb'⟩ := hb.features hr
    unfold ifPlanes
    rw [hcall]
    simp only [bind, Except.bind]
    split
    · refine (returns_passes (aux_return hr hi0) h' hb').imp_left ?_
      rintro ⟨h'', hrun, hb''⟩
      exact ⟨h'', hrun, auxPasses, fun _ => rfl, hb''⟩
    · rename_i hno
      refine Or.inl ⟨h', rfl, [], fun hp => ?_, by rwa [List.append_nil]⟩
      exact absurd ((hplanes hp).2 h.trace) (hret ▸ hno)
  · exact absurd ((hplanes hp).1.symm.trans hno) (by simp)

/-- **The last command comes in time**: the realm is all that is left of it. -/
theorem Working.realm_ready (hw : Working tr U planes h₀ A₀ i L h) (hi0 : i ≠ 0)
    (hrd : A₀.rd i ≠ freeRd) {aux : List Pass} (haux : planes → aux = auxPasses)
    (hc : Cleared (primaryPasses ++ aux) L) :
    Ready (replay h.trace) (.realmDestroy (A₀.rd i)) := by
  obtain ⟨A, cmds, ht, hh⟩ := hw.lists
  have hlive : Obj.realm (A₀.rd i) ∈ (replay h.trace).objs := by
    have h := ht.holds.inv.rd_live i hi0 (by rwa [ht.rd])
    rwa [ht.rd] at h
  refine ⟨⟨hlive, fun o ho hrdo => ?_⟩, fun _ _ => rfl⟩
  have hmem : ∀ p ∈ primaryPasses, p ∈ primaryPasses ++ aux := fun p hp =>
    List.mem_append_left _ hp
  cases o with
  | realm rd => rw [show rd = A₀.rd i from hrdo]
  | recg rd pa =>
    refine absurd hrdo (hw.gone hi0 hc ho fun g _ _ => ⟨recPass, hmem _ ?_, rfl, rfl⟩)
    simp [primaryPasses]
  | data rd ipa pa =>
    exact absurd hrdo (hw.no_mapping hi0 hc (unmapped_primary.append aux) ho (Or.inl rfl))
  | unprotected rd ipa level =>
    exact absurd hrdo (hw.no_mapping hi0 hc (unmapped_primary.append aux) ho (Or.inr rfl))
  | rtt rd ipa level pa =>
    have hknown : level ∈ levels := hh.inv.known _ ho
    refine absurd hrdo (hw.gone hi0 hc ho fun g hg _ => ⟨rttPass level, hmem _ ?_, rfl, ?_⟩)
    · simp only [levels, List.mem_cons, List.not_mem_nil, or_false] at hknown
      rcases hknown with rfl | rfl | rfl <;> simp [primaryPasses]
    · obtain ⟨-, -, hlev, -⟩ := Obj.rtt.inj (Option.some.inj hg)
      simp [rttPass, hlev]
  | rttAux rd ipa level index pa =>
    obtain ⟨hp, hindex, hlevel⟩ := hh.inv.known _ ho
    refine absurd hrdo (hw.gone hi0 hc ho fun g hg _ => ⟨rttAuxPass index level, ?_, rfl, ?_⟩)
    · rw [haux hp]
      exact List.mem_append_right _ (List.mem_flatMap.mpr ⟨index, hindex,
        List.mem_map.mpr ⟨level, hlevel, rfl⟩⟩)
    · obtain ⟨-, -, hlev, hidx, -⟩ := Obj.rttAux.inj (Option.some.inj hg)
      simp [rttAuxPass, hlev, hidx]

theorem returns_lastCommand (hr : LegalMonitor rmm) (hi0 : i ≠ 0) (hrd : A₀.rd i ≠ freeRd) :
    Proc.Returns (BareAll tr U planes h₀ A₀ i)
      (fun h => issue rmm (.realmDestroy (h.tracker.rd h.tracker.currentRealm)) h)
      (fun h => Orderly tr h.trace) fun h => Stopped tr h.trace := by
  rintro h ⟨aux, haux, L, hL, hw⟩
  obtain ⟨A, cmds, ht, hh⟩ := hw.lists
  have hcur : h.tracker.rd h.tracker.currentRealm = A₀.rd i := by
    rw [ht.holds.rep.rd, ht.holds.rep.cur, ht.cur, ht.rd]
  dsimp only
  rw [hcur]
  refine (issue_returns hr ⟨rfl, by simp⟩ hh hw.orderly
    (hw.realm_ready hi0 hrd haux hL)).imp_left ?_
  rintro ⟨h', hi, -, ho', -⟩
  exact ⟨h', hi, ho'⟩

/-- **`val_host_realm_destroy` returns**, and fails only when it is refused. -/
theorem realmDestroy_returns {rd : UInt64} (hr : LegalMonitor rmm)
    (hplanes : planes → rmmV11 = true ∧ ∀ t, planesSupported (rmm t (.features 0)).x1 = true)
    (hh : Holds (Swept U planes) h A) (hi0 : slotOf A.rd rd ≠ 0) (hrd : rd ≠ freeRd)
    (ho : Orderly tr h.trace) :
    (∃ h', valHostRealmDestroy rmm rmmV11 rd h = .ok (true, h') ∧ Orderly tr h'.trace) ∨
      ∃ h', valHostRealmDestroy rmm rmmV11 rd h = .ok (false, h') ∧ Stopped tr h'.trace := by
  have hsplit : valHostRealmDestroy rmm rmmV11 rd = Proc.seq (enterRealm rd) (Proc.all
      ((primaryLoops rmm).map Prod.snd ++
        [Proc.guarded (fun _ => rmmV11) (ifPlanes rmm (destroyAuxTrees rmm)),
          fun h => issue rmm (.realmDestroy (h.tracker.rd h.tracker.currentRealm)) h])) := rfl
  have hslot : A.rd (slotOf A.rd rd) ≠ freeRd := by rwa [slotOf_rd hi0]
  have hprimary : PassesReturn tr U planes h A (slotOf A.rd rd) [] (primaryLoops rmm) :=
    primary_return hr hi0
  have hrest := (returns_passes hprimary).seq ((returns_auxTrees hr hi0 hplanes).seq
    ((returns_lastCommand hr hi0 hslot).seq (.skip fun _ h => h)))
  have hstart : Bare tr U planes h A (slotOf A.rd rd) [] { h with tracker :=
      { h.tracker with currentRealm := valHostGetCurrRealm rd h.tracker } } := by
    refine ⟨fun k => A.lists (slotOf A.rd rd, k), fun p hp => absurd hp List.not_mem_nil,
      ⟨[], A.enter rd, ?_⟩,
      ⟨A.enter rd, hh.rep.enter rd, hh.legal, (stable_swept U planes).enter rd hh.inv⟩, ho⟩
    exact ⟨⟨hh.rep.enter rd, hh.legal, hh.inv.complete.sound.enter rd⟩, rfl, rfl, fun _ => rfl,
      fun _ _ _ _ => rfl, [], by simp, rfl, by simp⟩
  rw [hsplit, Proc.all_append]
  exact hrest _ hstart

/-! ## 8. The three phases -/

/-- The cleanup begun in `h₀` has freed the slots `done`, in order. -/
def Sweeping (U : UInt64 → Prop) (planes : Prop) (h₀ : Host) (done : List (Fin maxRealms))
    (h : Host) : Prop :=
  Cleaning U h₀ done h ∧ Kept (Swept U planes) h ∧ Orderly h₀.trace h.trace

theorem returns_slot (hr : LegalMonitor rmm)
    (hplanes : planes → rmmV11 = true ∧ ∀ t, planesSupported (rmm t (.features 0)).x1 = true)
    (hi0 : i ≠ 0) (done : List (Fin maxRealms)) :
    Proc.Returns (Sweeping U planes h₀ done)
      (Proc.guarded (fun h => h.tracker.rd i != freeRd)
        fun h => valHostRealmDestroy rmm rmmV11 (h.tracker.rd i) h)
      (Sweeping U planes h₀ (done ++ [i])) fun h => Stopped h₀.trace h.trace := by
  intro h hs
  have hkeep : Proc.Keeps (Kept (Swept U planes)) (Proc.guarded
      (fun h => h.tracker.rd i != freeRd)
      fun h => valHostRealmDestroy rmm rmmV11 (h.tracker.rd i) h) :=
    .guarded (.reading fun _ => keeps_realmDestroy (stable_swept U planes) hr _)
  have hret : Proc.Returns (Sweeping U planes h₀ done) (Proc.guarded
      (fun h => h.tracker.rd i != freeRd)
      fun h => valHostRealmDestroy rmm rmmV11 (h.tracker.rd i) h)
      (fun h => Orderly h₀.trace h.trace) fun h => Stopped h₀.trace h.trace := by
    refine .guarded ?_ fun h hs _ => hs.2.2
    rintro h ⟨⟨-, ⟨A, hA⟩, ho⟩, hb⟩
    have hne : A.rd i ≠ freeRd := by
      rw [hA.rep.rd] at hb
      simpa using hb
    have hslot : slotOf A.rd (A.rd i) = i :=
      hA.inv.complete.sound.slot_eq hA.wf hi0 rfl (hA.inv.complete.sound.rd_live i hi0 hne)
    dsimp only
    rw [hA.rep.rd]
    exact realmDestroy_returns hr hplanes hA (by rwa [hslot]) hne ho
  refine (hret h hs).imp_left ?_
  rintro ⟨h', hrun, ho⟩
  exact ⟨h', hrun, success_slot hr hi0 done h h' hs.1 hrun, hkeep h true h' hs.2.1 hrun, ho⟩

theorem returns_slots (hr : LegalMonitor rmm)
    (hplanes : planes → rmmV11 = true ∧ ∀ t, planesSupported (rmm t (.features 0)).x1 = true) :
    ∀ (is done : List (Fin maxRealms)), (∀ i ∈ is, i ≠ 0) →
      Proc.Returns (Sweeping U planes h₀ done)
        (Proc.all (is.map fun i => Proc.guarded (fun h => h.tracker.rd i != freeRd)
          fun h => valHostRealmDestroy rmm rmmV11 (h.tracker.rd i) h))
        (Sweeping U planes h₀ (done ++ is)) fun h => Stopped h₀.trace h.trace
  | [], done, _ => .skip fun h hs => by rwa [List.append_nil]
  | i :: is, done, hi => by
    have hrest := returns_slots hr hplanes is (done ++ [i])
      fun j hj => hi j (List.mem_cons_of_mem _ hj)
    rw [List.append_assoc] at hrest
    exact (returns_slot hr hplanes (hi i List.mem_cons_self) done).seq hrest

/-- The second phase, in order. -/
theorem returns_undelegate (hr : LegalMonitor rmm) (d : Cell) (rest : List Cell) :
    Proc.Returns (fun h => Undelegating U h₀ (d :: rest) h ∧ Kept (Swept U planes) h ∧
        Orderly h₀.trace h.trace)
      (Proc.guarded (fun h => decide ((node d.1 h).state = .delegated)) (undelegateNode rmm d.1))
      (fun h => Undelegating U h₀ rest h ∧ Kept (Swept U planes) h ∧ Orderly h₀.trace h.trace)
      fun h => Stopped h₀.trace h.trace := by
  rintro h ⟨hu, hk, ho⟩
  have hret : Proc.Returns (fun s => s = h) (Proc.guarded
      (fun h => decide ((node d.1 h).state = .delegated)) (undelegateNode rmm d.1))
      (fun h => Kept (Swept U planes) h ∧ Orderly h₀.trace h.trace)
      fun h => Stopped h₀.trace h.trace := by
    refine .guarded ?_ fun s hs _ => hs ▸ ⟨hk, ho⟩
    rintro s ⟨rfl, hb⟩
    obtain ⟨-, A, kept, hA, -, hl, -⟩ := hu
    obtain ⟨B, hB⟩ := hk
    have hd : d ∈ A.lists nsRef := by rw [hl]; simp
    have hnode : node d.1 s = d.2 := (hA.rep.chain nsRef).data_eq hd
    have hst : d.2.state = .delegated := hnode ▸ of_decide_eq_true hb
    -- a node in state `GRANULE_DELEGATED` stands for a spare granule
    have hspare : Spare (replay s.trace) d.2.pa := by
      rcases hA.inv.full.ns.cell d hd with ⟨-, hs, -⟩ | ⟨hun, -⟩
      · exact hs
      · exact absurd (hst.symm.trans hun) (by decide)
    unfold undelegateNode issueFor
    rw [hnode]
    have hready : Ready (replay s.trace) (.granuleUndelegate d.2.pa) := ⟨hspare, fun _ _ => rfl⟩
    refine (issue_returns hr ⟨rfl, by simp⟩ hB ho hready).imp_left ?_
    rintro ⟨h', hi, hk', ho', -⟩
    exact ⟨h', hi, hk', ho'⟩
  exact (hret h rfl).imp_left fun ⟨h', hrun, hk', ho'⟩ =>
    ⟨h', hrun, success_undelegate hr d rest h h' hu hrun, hk', ho'⟩

/-- The third phase cannot fail. -/
theorem returns_free (d : Cell) (rest : List Cell) :
    Proc.Returns (Freeing h₀ (d :: rest))
      (Proc.guarded (fun h => decide ((node d.1 h).state = .undelegated)) (freeNode d.1))
      (Freeing h₀ rest) fun h => Stopped tr h.trace := by
  refine Proc.Returns.mono (Q := fun h => True ∧ Freeing h₀ rest h)
    (Proc.Returns.and_success (Q := fun _ => True) (.guarded ?_ fun _ _ _ => trivial)
      (success_free d rest)) (fun _ h => h) (fun _ h => h.2) fun _ h => h
  rintro h ⟨⟨-, A, hA, -, hl, -⟩, -⟩
  have hd : d ∈ A.lists nsRef := by rw [hl]; simp
  have hnode : node d.1 h = d.2 := (hA.rep.chain nsRef).data_eq hd
  have hfind : A.find nsRef (fun g => g.pa == d.2.pa) = some d := by
    rw [Lists.find, hl]
    exact List.find?_cons_of_pos (by simp)
  obtain ⟨t', ht', -, -⟩ := hA.rep.remove_some hfind
  unfold freeNode valHostRemoveGranule
  rw [hnode, ht']
  exact Or.inl ⟨_, rfl, trivial⟩

/-- **`val_host_postamble` returns**, and fails only when it is refused. -/
theorem postamble_returns (hr : LegalMonitor rmm)
    (hplanes : planes → rmmV11 = true ∧ ∀ t, planesSupported (rmm t (.features 0)).x1 = true)
    (hh : Holds (Swept U planes) h A) :
    (∃ h', valHostPostamble rmm rmmV11 h = .ok (true, h') ∧ Orderly h.trace h'.trace) ∨
      ∃ h', valHostPostamble rmm rmmV11 h = .ok (false, h') ∧ Stopped h.trace h'.trace := by
  have hslots : Proc.Returns (Sweeping U planes h [])
      (Proc.all (slots.map fun i => Proc.guarded (fun h => h.tracker.rd i != freeRd)
        fun h => valHostRealmDestroy rmm rmmV11 (h.tracker.rd i) h))
      (Sweeping U planes h ([] ++ slots)) fun s => Stopped h.trace s.trace :=
    returns_slots hr hplanes slots [] fun i hi => mem_slots.mp hi
  have hfirst : Proc.Returns (Sweeping U planes h ([] ++ slots)) (walk nsRef fun a =>
      Proc.guarded (fun h => decide ((node a h).state = .delegated)) (undelegateNode rmm a))
      (fun s => Undelegating U h [] s ∧ Kept (Swept U planes) s ∧ Orderly h.trace s.trace)
      fun s => Stopped h.trace s.trace := by
    rintro s ⟨⟨hfol, B, hB, hrd⟩, hk, ho⟩
    unfold walk
    rw [nsRef_head hB.rep]
    refine Proc.Returns.forEachNode (J := fun l s => Undelegating U h l s ∧
      Kept (Swept U planes) s ∧ Orderly h.trace s.trace) ?_ (returns_undelegate hr) _ _
      (hB.rep.length_lt nsRef) s ⟨⟨hfol, B, [], hB, fun i hi => hrd i (mem_slots.mpr hi), rfl,
        fun d hd => absurd hd List.not_mem_nil⟩, hk, ho⟩
    rintro c l s ⟨⟨-, C, k, hC, -, hl, -⟩, -, -⟩
    exact nsRef_next hC.rep hl
  have hsecond : Proc.Returns (fun s => Undelegating U h [] s ∧ Kept (Swept U planes) s ∧
      Orderly h.trace s.trace) (walk nsRef fun a =>
      Proc.guarded (fun h => decide ((node a h).state = .undelegated)) (freeNode a))
      (fun s => Orderly h.trace s.trace) fun s => Stopped h.trace s.trace := by
    rintro s ⟨⟨-, B, kept, hB, hrd, hl, hkept⟩, -, ho⟩
    rw [List.append_nil] at hl
    unfold walk
    rw [nsRef_head hB.rep]
    refine (Proc.Returns.forEachNode (J := Freeing s) ?_ (fun d rest => returns_free d rest) _ _
      (hB.rep.length_lt nsRef) s ⟨rfl, B, hB.sound, hrd, rfl, fun d hd => hkept d (hl ▸ hd)⟩).imp_left
      fun ⟨s', hrun, htr, _⟩ => ⟨s', hrun, by dsimp only; rwa [htr]⟩
    rintro c l s ⟨-, C, hC, -, hl, -⟩
    exact nsRef_next hC.rep (show _ = [] ++ c :: l from hl)
  refine (hslots.seq (hfirst.seq (hsecond.seq (.skip fun _ h => h)))) h
    ⟨⟨Follows.refl h, A, hh.of_swept, fun i hi => absurd hi List.not_mem_nil⟩, ⟨A, hh⟩, .start⟩

end Teardown

/-! ## 9. Every run -/

/-- A test whose tracker can follow it, on an RMM that makes no tables but the known ones.  The
auxiliary trees are there only if the RMM says that it has planes, and the suite is built for
them. -/
def Sweepable (rmm : Monitor) (rmmV11 : Bool) (U : UInt64 → Prop) (h : Host) (a : Act) : Prop :=
  Tracks rmm U h a ∧ ∀ c o, a = .call c → (rmm h.trace c).x0 = 0 → c.makes = some o →
    Known (rmmV11 = true ∧ ∀ t, planesSupported (rmm t (.features 0)).x1 = true) o

theorem Reachable.swept {rmm : Monitor} {rmmV11 : Bool} {U : UInt64 → Prop} {h : Host}
    (hreach : Reachable rmm rmmV11 (Sweepable rmm rmmV11 U) h) (hr : LegalMonitor rmm) :
    ∃ A, Holds (Swept U (rmmV11 = true ∧
      ∀ t, planesSupported (rmm t (.features 0)).x1 = true)) h A := by
  obtain ⟨mem, heap, acts, hheap, hrun⟩ := hreach
  refine hrun.invariant (I := Kept (Swept U _)) (holds_start mem hheap fun A hl hrd =>
    ⟨complete_start U hl hrd, fun o ho => absurd ho List.not_mem_nil⟩) ?_
  rintro s a s' hk ⟨hfits, ⟨⟨huse, hroom⟩, hknown⟩, he⟩
  refine hk.exec (stable_swept U _) hr hfits ?_ (fun _ _ _ => slices_swept U _) ?_ he
  · rintro c rfl A hh h0
    exact ⟨canTrack_of_hasRoom hh.rep (huse h0) (hroom c rfl h0), fun o ho => hknown c o rfl h0 ho⟩
  · rintro rfl
    exact absurd huse not_false

/-- **The cleanup**, where the tracker is complete. -/
theorem Holds.cleanup {rmm : Monitor} {rmmV11 : Bool} {U : UInt64 → Prop} {h : Host} {A : Lists}
    (hr : LegalMonitor rmm) (hh : Holds (Swept U (rmmV11 = true ∧
      ∀ t, planesSupported (rmm t (.features 0)).x1 = true)) h A) :
    (∃ h', valHostPostamble rmm rmmV11 h = .ok (true, h') ∧ Orderly h.trace h'.trace ∧
        (replay h'.trace).objs = [] ∧ (replay h'.trace).delegated = []) ∨
      ∃ h', valHostPostamble rmm rmmV11 h = .ok (false, h') ∧ Stopped h.trace h'.trace := by
  refine (postamble_returns hr (fun hp => hp) hh).imp_left ?_
  rintro ⟨h', hrun, ho⟩
  obtain ⟨A', -, hh', hfree, -, hdel⟩ := postamble_success hr hh.of_swept hrun
  refine ⟨h', hrun, ho, List.eq_nil_iff_forall_not_mem.mpr fun o hmem => ?_, hdel⟩
  -- an object is made from a granule, or its realm is
  have hrealm := hh'.wf.pa_delegated _ (hh'.wf.owner o hmem) o.rd rfl
  rw [hdel] at hrealm
  exact absurd hrealm List.not_mem_nil

/-- **A cleanup fails only when it is refused.**  In every run whose commands the tracker can
follow, `val_host_postamble` returns.  If it returns success, the RMM has no object and no granule
any more, and every command of the cleanup came when the RMM could accept it; if it returns an
error, the last command was one the RMM could have accepted, and it did not. -/
theorem cleanup_fails_only_when_refused {rmm : Monitor} {rmmV11 : Bool} {U : UInt64 → Prop}
    {h : Host} (hr : LegalMonitor rmm) (hreach : Reachable rmm rmmV11 (Sweepable rmm rmmV11 U) h) :
    (∃ h', valHostPostamble rmm rmmV11 h = .ok (true, h') ∧ Orderly h.trace h'.trace ∧
        (replay h'.trace).objs = [] ∧ (replay h'.trace).delegated = []) ∨
      ∃ h', valHostPostamble rmm rmmV11 h = .ok (false, h') ∧ Stopped h.trace h'.trace := by
  obtain ⟨A, hh⟩ := hreach.swept hr
  exact hh.cleanup hr

/-- Whether a test makes no tables but the known ones. -/
def Act.knownTables : Act → Bool
  | .call (.rttCreate _ _ _ level) => levels.contains level
  | .call (.rttAuxCreate _ _ _ level index) => [1, 2, 3].contains index && levels.contains level
  | _ => true

theorem known_of_knownTables {planes : Prop} (hp : planes) {c : Cmd} {o : Obj}
    (h : (Act.call c).knownTables = true) (hm : c.makes = some o) : Known planes o := by
  cases c with
  | rttCreate rd rtt ipa level =>
    obtain rfl := Option.some.inj hm
    exact List.contains_iff_mem.mp h
  | rttAuxCreate rd rtt ipa level index =>
    obtain rfl := Option.some.inj hm
    obtain ⟨hi, hl⟩ := Bool.and_eq_true_iff.mp h
    exact ⟨hp, List.contains_iff_mem.mp hi, List.contains_iff_mem.mp hl⟩
  | realmCreate | recCreate | dataCreate | dataCreateUnknown | rttMapUnprotected =>
    obtain rfl := Option.some.inj hm
    trivial
  | _ => exact absurd hm (by simp [Cmd.makes])

theorem cleanup_fails_only_when_refused_two_realms :
    ∃ h, Reachable (exactMonitor 0x200000000000) true
        (Sweepable (exactMonitor 0x200000000000) true (· = 0x80000000)) h ∧
      (replay h.trace).objs.length = 8 ∧
      ((∃ h', valHostPostamble (exactMonitor 0x200000000000) true h = .ok (true, h') ∧
          Orderly h.trace h'.trace ∧ (replay h'.trace).objs = [] ∧
          (replay h'.trace).delegated = []) ∨
        ∃ h', valHostPostamble (exactMonitor 0x200000000000) true h = .ok (false, h') ∧
          Stopped h.trace h'.trace) := by
  have hplanes : true = true ∧ ∀ t, planesSupported
      ((exactMonitor 0x200000000000) t (.features 0)).x1 = true :=
    ⟨rfl, fun t => by rw [exactMonitor, if_pos (show (replay t).Legal (.features 0) from trivial)]; decide⟩
  have hok : ∀ h a, (a.plain && decide (Usable (exactMonitor 0x200000000000) (· = 0x80000000) h a)
      && a.hasRoom h && a.knownTables) = true → a.Fits ∧
        Sweepable (exactMonitor 0x200000000000) true (· = 0x80000000) h a := by
    intro h a ha
    obtain ⟨ha, hk⟩ := Bool.and_eq_true_iff.mp ha
    obtain ⟨ha, hroom⟩ := Bool.and_eq_true_iff.mp ha
    obtain ⟨hp, hu⟩ := Bool.and_eq_true_iff.mp ha
    refine ⟨Act.fits_of_plain hp, ⟨of_decide_eq_true hu, ?_⟩, ?_⟩
    · rintro c rfl -
      exact hroom
    · rintro c o rfl - hm
      exact known_of_knownTables hplanes hk hm
  obtain ⟨h, hreach, hp⟩ := reachable_of_runActs (exactMonitor 0x200000000000) true _ hok twoRealms
    (fun h => (replay h.trace).objs.length == 8) (by decide +kernel)
  exact ⟨h, hreach, by simpa using hp,
    cleanup_fails_only_when_refused (exactMonitor_legal _) hreach⟩

end RmmAcs.Granules
