/-
# Unprotected mappings and delegated granules

The tracker keeps unprotected mappings next to granules.  A mapping has no PA it knows, so its IPA
stands in for one; and the wrapper of the map command first asks the NS list for a node with that
"PA".  If the number happens to be the PA of a delegated granule that is not in use, the node it
gets is the GRANULE's: it moves to the realm's list of mappings, and the granule is forgotten.

So whether a mapping leaves the granules alone is decided by the lookup, and by nothing else.  The
unmap command takes its node from the list of mappings, and so disturbs no node that stands for a
granule when it is called.  After a map that took a granule's node this is no comfort: the node it
takes is that one, and it goes back as UNDELEGATED although its granule is delegated.
-/
import RmmAcs.Tracker.Run

namespace RmmAcs.Granules

open RmmAcs Lib Rmm

/-! ## 1. What must not change -/

/-- A node of the list `r` stands for a delegated granule: it has the PA, it is not left over from
an earlier delegation, and it is not in a list of mappings. -/
def Standing (R : RmmState) (r : ListRef) (g : Granule) : Prop :=
  r.2 ≠ .validNs ∧ g.pa ∈ R.delegated ∧ g.state ≠ .undelegated

/-- Every node that stands for a delegated granule is in its list, in its state. -/
def Undisturbed (R : RmmState) (A A' : Lists) : Prop :=
  ∀ r, ∀ d ∈ A.lists r, Standing R r d.2 → d ∈ A'.lists r

/-- What is new in a list is the realm's mapping of `ipa`. -/
def AddsOnlyMapping (rd ipa level : UInt64) (A A' : Lists) : Prop :=
  ∀ r, ∀ d ∈ A'.lists r, d ∈ A.lists r ∨
    r = (slotOf A.rd rd, .validNs) ∧ objOf .validNs d.2 = some (.unprotected rd ipa level)

/-- `val_host_find_granule(ipa)` finds no node of a delegated granule. -/
def FindsNoGranule (ipa : UInt64) (h : Host) : Prop :=
  ∀ a, valHostFindGranule ipa h.tracker = .ok (some a) →
    ¬ Standing (replay h.trace) nsRef (h.tracker.mem a).data

/-! ## 2. On lists -/

section OnLists

variable {A A' : Lists} {R : RmmState} {t : Tracker} {rd ipa level : UInt64} {fresh : Cell}

/-- The mapping joins the list of mappings, and the node the lookup found leaves the NS list. -/
theorem mapUnprotected_lists (A : Lists) (fresh : Cell) (rd ipa level : UInt64) :
    ∃ d, objOf .validNs d.2 = some (.unprotected rd ipa level) ∧
      A.update fresh rd .unprotected ipa ipa level 0
        = ((A.enter rd).drop nsRef (Lists.byPa ipa)).push (slotOf A.rd rd, .validNs) d := by
  cases hf : A.find nsRef (Lists.byPa ipa) with
  | none =>
    refine ⟨(fresh.1, mappedGranule rd .unprotected ipa ipa level 0 fresh.2), ?_, ?_⟩
    · simp [objOf, mappedGranule]
    · have hdrop : (A.enter rd).drop nsRef (Lists.byPa ipa) = A.enter rd := by
        have hno : ∀ c ∈ A.lists nsRef, ¬ (Lists.byPa ipa c.2 = true) := by
          simpa [Lists.find] using hf
        unfold Lists.drop
        rw [show (A.enter rd).lists nsRef = A.lists nsRef from rfl,
          List.eraseP_of_forall_not hno]
        exact congrArg (fun L => { A.enter rd with lists := L }) (Function.update_eq_self nsRef _)
      rw [Lists.update_of_none _ _ _ _ _ _ _ hf, if_pos rfl, hdrop]
  | some c =>
    refine ⟨(c.1, movedGranule rd .unprotected ipa level 0 c.2), ?_, ?_⟩
    · have hpa : c.2.pa = ipa := Lists.pa_of_find hf
      simp [objOf, movedGranule, hpa]
    · rw [Lists.update_of_some _ _ _ _ _ hf (k := .validNs) rfl, if_neg (by decide)]

theorem mapUnprotected_adds :
    AddsOnlyMapping rd ipa level A (A.update fresh rd .unprotected ipa ipa level 0) := by
  obtain ⟨e, heo, heq⟩ := mapUnprotected_lists A fresh rd ipa level
  intro r d hd
  rw [heq] at hd
  -- what a drop leaves was there
  have hold : ∀ r, ∀ d ∈ ((A.enter rd).drop nsRef (Lists.byPa ipa)).lists r, d ∈ A.lists r := by
    intro r d hd
    by_cases hr : r = nsRef
    · subst hr
      rw [Lists.drop_lists_self] at hd
      exact List.eraseP_sublist.subset hd
    · rwa [Lists.drop_lists_of_ne _ _ hr] at hd
  by_cases hr : r = (slotOf A.rd rd, .validNs)
  · subst hr
    rw [Lists.push_lists_self] at hd
    rcases List.mem_append.mp hd with hd | hd
    · exact Or.inl (hold _ d hd)
    · rw [List.mem_singleton.mp hd]
      exact Or.inr ⟨rfl, heo⟩
  · rw [Lists.push_lists_of_ne _ _ hr] at hd
    exact Or.inl (hold r d hd)

/-- **The map command disturbs the node it finds**, if that stands for a granule, and no other. -/
theorem mapUnprotected_undisturbed_iff (hrep : Repr t A) :
    Undisturbed R A (A.update fresh rd .unprotected ipa ipa level 0) ↔
      ∀ d, A.find nsRef (Lists.byPa ipa) = some d → ¬ Standing R nsRef d.2 := by
  obtain ⟨e, -, heq⟩ := mapUnprotected_lists A fresh rd ipa level
  have hns : (A.update fresh rd .unprotected ipa ipa level 0).lists nsRef
      = (A.lists nsRef).eraseP fun c => Lists.byPa ipa c.2 := by
    rw [heq, Lists.push_lists_of_ne _ _ (Ne.symm (Repr.ne_nsRef (by decide))),
      Lists.drop_lists_self]
    rfl
  constructor
  · intro hun d hf hst
    -- the node that was found is in the NS list no more
    have hd : d ∈ A.lists nsRef := List.mem_of_find?_eq_some hf
    have hmem := hun nsRef d hd hst
    rw [hns] at hmem
    obtain ⟨hkey, pre, post, hsplit, hpre⟩ := List.find?_eq_some_iff_append.mp hf
    have hnd := List.Nodup.of_map _ (hrep.nodup nsRef)
    rw [hsplit] at hmem hnd
    rw [List.eraseP_append_right _ (by simpa using hpre),
      List.eraseP_cons_of_pos (p := fun c : Cell => Lists.byPa ipa c.2) hkey] at hmem
    exact (List.nodup_cons.mp (List.nodup_middle.mp hnd)).1 hmem
  · intro hno r d hd hst
    by_cases hr : r = nsRef
    · subst hr
      rw [hns]
      cases hf : A.find nsRef (Lists.byPa ipa) with
      | none =>
        have hkeep : ∀ c ∈ A.lists nsRef, ¬ (Lists.byPa ipa c.2 = true) := by
          simpa [Lists.find] using hf
        rw [List.eraseP_of_forall_not hkeep]
        exact hd
      | some c =>
        obtain ⟨hkey, pre, post, hsplit, hpre⟩ := List.find?_eq_some_iff_append.mp hf
        rw [hsplit] at hd ⊢
        rw [List.eraseP_append_right _ (by simpa using hpre),
          List.eraseP_cons_of_pos (p := fun c : Cell => Lists.byPa ipa c.2) hkey]
        have hne : d ≠ c := fun h => hno c hf (h ▸ hst)
        rcases List.mem_append.mp hd with hd | hd
        · exact List.mem_append_left _ hd
        · exact List.mem_append_right _ ((List.mem_cons.mp hd).resolve_left hne)
    · have hv : r ≠ (slotOf A.rd rd, .validNs) := fun h => hst.1 (by rw [h])
      rw [heq, Lists.push_lists_of_ne _ _ hv, Lists.drop_lists_of_ne _ _ hr]
      exact hd

/-- **The unmap command disturbs no node that still stands for a granule.**  (A node in a list of
mappings does not, even if the map command took it from a granule.) -/
theorem unmapUnprotected_undisturbed
    (he : A.destroy rd ipa 0 0 .unprotected .unprotected 0 = some A') : Undisturbed R A A' := by
  have hgb : (A.enter rd).giveBack (slotOf A.rd rd, .validNs) (Lists.byPa ipa) .undelegated
      = some A' := he
  obtain ⟨c, -, rfl⟩ := Option.map_eq_some_iff.mp hgb
  intro r d hd hst
  have hv : r ≠ (slotOf A.rd rd, .validNs) := fun h => hst.1 (by rw [h])
  have hkeep : d ∈ ((A.enter rd).drop (slotOf A.rd rd, .validNs) (Lists.byPa ipa)).lists r := by
    rw [Lists.drop_lists_of_ne _ _ hv]
    exact hd
  by_cases hr : r = nsRef
  · subst hr
    rw [Lists.push_lists_self]
    exact List.mem_append_left _ hkeep
  · rw [Lists.push_lists_of_ne _ _ hr]
    exact hkeep

end OnLists

/-! ## 3. In every run -/

/-- The lookup of the tracker and the lookup in the list. -/
theorem findsNoGranule_iff {h : Host} {A : Lists} {ipa : UInt64} (hrep : Repr h.tracker A) :
    FindsNoGranule ipa h ↔ ∀ d, A.find nsRef (Lists.byPa ipa) = some d →
      ¬ Standing (replay h.trace) nsRef d.2 := by
  have hfind : valHostFindGranule ipa h.tracker
      = .ok ((A.find nsRef (Lists.byPa ipa)).map Prod.fst) := hrep.find_eq ipa
  unfold FindsNoGranule
  rw [hfind]
  constructor
  · intro hno d hd
    have hdata := (hrep.chain nsRef).data_eq (List.mem_of_find?_eq_some hd)
    rw [← hdata]
    exact hno d.1 (by rw [hd]; rfl)
  · intro hno a ha
    obtain ⟨d, hd, rfl⟩ := Option.map_eq_some_iff.mp (Except.ok.inj ha)
    rw [(hrep.chain nsRef).data_eq (List.mem_of_find?_eq_some hd)]
    exact hno d hd

theorem mapUnprotected_call {rmm : Monitor} {h h' : Host} {A : Lists} {r : SmcRet}
    {rd ipa level desc : UInt64} (hrep : Repr h.tracker A)
    (hc : valHostRmi rmm (.rttMapUnprotected rd ipa level desc) h = .ok (r, h')) (h0 : r.x0 = 0) :
    ∃ A', Repr h'.tracker A' ∧ AddsOnlyMapping rd ipa level A A' ∧
      (Undisturbed (replay h'.trace) A A' ↔ FindsNoGranule ipa h) := by
  have hcall := valHostRmi_ok hrep hc
  obtain ⟨A', heff, hrep'⟩ := hcall.accepted h0
  obtain rfl := Option.some.inj heff
  refine ⟨_, hrep', mapUnprotected_adds, ?_⟩
  rw [hcall.trace, replay_snoc, if_pos h0, findsNoGranule_iff hrep]
  exact mapUnprotected_undisturbed_iff hrep

/-- **Mapping unprotected memory**, in every state of every run: a successful map adds only the
realm's mapping, and leaves the delegated granules alone if and only if the lookup finds none of
them; a successful unmap always does. -/
theorem unprotected_mapping_undisturbed_iff {rmm : Monitor} {rmmV11 : Bool} {h : Host}
    (hr : LegalMonitor rmm) (hreach : Reachable rmm rmmV11 (fun _ _ => True) h)
    (rd ipa level desc : UInt64) :
    (∀ r h', valHostRmi rmm (.rttMapUnprotected rd ipa level desc) h = .ok (r, h') → r.x0 = 0 →
      ∃ A A', Repr h.tracker A ∧ Repr h'.tracker A' ∧ AddsOnlyMapping rd ipa level A A' ∧
        (Undisturbed (replay h'.trace) A A' ↔ FindsNoGranule ipa h)) ∧
    ∀ r h', valHostRmi rmm (.rttUnmapUnprotected rd ipa level) h = .ok (r, h') → r.x0 = 0 →
      ∃ A A', Repr h.tracker A ∧ Repr h'.tracker A' ∧ Undisturbed (replay h'.trace) A A' := by
  obtain ⟨A, hh⟩ := hreach.sound hr
  refine ⟨fun r h' hc h0 => ?_, fun r h' hc h0 => ?_⟩
  · obtain ⟨A', hrep', hadds, hiff⟩ := mapUnprotected_call hh.rep hc h0
    exact ⟨A, A', hh.rep, hrep', hadds, hiff⟩
  · have hcall := valHostRmi_ok hh.rep hc
    obtain ⟨A', heff, hrep'⟩ := hcall.accepted h0
    exact ⟨A, A', hh.rep, hrep', unmapUnprotected_undisturbed heff⟩

/-- A realm, and a granule that is delegated and not in use. -/
def realmAndSpare : List Act :=
  [.call (.granuleDelegate 0x1000), .call (.granuleDelegate 0x2000), .call (.realmCreate 0x1000 0)]

/-- The state the run leads to, with a call that is accepted. -/
theorem realmAndSpare_call {c : Cmd} {p : Host → Bool}
    (hrun : (runActs (exactMonitor 0) true (fun _ a => a.plain) realmAndSpare
      (Host.start blankMem valHostMemAllocInit)).any (fun h => p h &&
        match valHostRmi (exactMonitor 0) c h with
        | .ok (r, _) => r.x0 == 0
        | .error _ => false) = true) :
    ∃ h r h', Reachable (exactMonitor 0) true (fun _ _ => True) h ∧ p h = true ∧
      valHostRmi (exactMonitor 0) c h = .ok (r, h') ∧ r.x0 = 0 := by
  obtain ⟨h, hreach, hp⟩ := reachable_of_runActs (exactMonitor 0) true (fun _ a => a.plain)
    (fun _ _ ha => ⟨Act.fits_of_plain ha, trivial⟩) realmAndSpare _ hrun
  obtain ⟨hp, hc⟩ := Bool.and_eq_true_iff.mp hp
  cases hcall : valHostRmi (exactMonitor 0) c h with
  | error e =>
    rw [hcall] at hc
    exact absurd hc (by simp)
  | ok x =>
    rw [hcall] at hc
    exact ⟨h, x.1, x.2, hreach, hp, hcall, by simpa using hc⟩

/-- An IPA that is no PA of a granule. -/
theorem unprotected_mapping_undisturbed_elsewhere :
    ∃ h r h' A A', Reachable (exactMonitor 0) true (fun _ _ => True) h ∧
      valHostRmi (exactMonitor 0) (.rttMapUnprotected 0x1000 0x80000000 3 0) h = .ok (r, h') ∧
      r.x0 = 0 ∧ Repr h.tracker A ∧ Repr h'.tracker A' ∧
      AddsOnlyMapping 0x1000 0x80000000 3 A A' ∧
      (Undisturbed (replay h'.trace) A A' ↔ FindsNoGranule 0x80000000 h) := by
  obtain ⟨h, r, h', hreach, -, hc, h0⟩ := realmAndSpare_call (p := fun _ => true)
    (c := .rttMapUnprotected 0x1000 0x80000000 3 0) (by decide +kernel)
  obtain ⟨A, A', hrep, hrep', hadds, hiff⟩ :=
    (unprotected_mapping_undisturbed_iff (exactMonitor_legal 0) hreach 0x1000 0x80000000 3 0).1
      r h' hc h0
  exact ⟨h, r, h', A, A', hreach, hc, h0, hrep, hrep', hadds, hiff⟩

instance (R : RmmState) (r : ListRef) (g : Granule) : Decidable (Standing R r g) :=
  inferInstanceAs (Decidable (_ ∧ _ ∧ _))

/-- The lookup finds the node of a delegated granule. -/
def findsGranule (ipa : UInt64) (h : Host) : Bool :=
  match valHostFindGranule ipa h.tracker with
  | .ok (some a) => decide (Standing (replay h.trace) nsRef (h.tracker.mem a).data)
  | _ => false

/-- **An IPA that is the PA of the spare granule**: its node is taken for the mapping. -/
theorem unprotected_mapping_takes_granule :
    ∃ h r h' A A', Reachable (exactMonitor 0) true (fun _ _ => True) h ∧
      valHostRmi (exactMonitor 0) (.rttMapUnprotected 0x1000 0x2000 3 0) h = .ok (r, h') ∧
      r.x0 = 0 ∧ Repr h.tracker A ∧ Repr h'.tracker A' ∧
      ¬ Undisturbed (replay h'.trace) A A' := by
  obtain ⟨h, r, h', hreach, hp, hc, h0⟩ := realmAndSpare_call (p := findsGranule 0x2000)
    (c := .rttMapUnprotected 0x1000 0x2000 3 0) (by decide +kernel)
  obtain ⟨A, hh⟩ := hreach.sound (exactMonitor_legal 0)
  obtain ⟨A', hrep', -, hiff⟩ := mapUnprotected_call hh.rep hc h0
  refine ⟨h, r, h', A, A', hreach, hc, h0, hh.rep, hrep', fun hun => ?_⟩
  unfold findsGranule at hp
  split at hp
  · rename_i a ha
    exact hiff.mp hun a ha (of_decide_eq_true hp)
  · exact absurd hp (by simp)

end RmmAcs.Granules
