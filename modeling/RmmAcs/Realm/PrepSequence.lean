/-
# The preparation sequences of the command tests

A command test needs a page in a certain state before it can ask for the wrong thing, and a
preparation sequence brings one about: it maps tables, takes a granule for the data and one for the
source, and issues `DATA_CREATE`.  Each step may fail, and a failure is to be handed on.

The layers below do hand it on, but not in ONE way.  `val_host_delegate_granule` and
`val_host_undelegate_granule` return `VAL_ERROR`, which is 1, in the place of an address;
`create_mapping` compares with that and is right (`createMapping_ends`).  The sequences compare with
`VAL_TEST_PREP_SEQ_FAILED`, which is all ones, so 1 passes for a granule and is given to the RMM.  A
sequence propagates what fails if and only if these two granules do not fail
(`prep_sequences_propagate_iff`).
-/
import RmmAcs.Realm.Tables

namespace RmmAcs.Realm

open RmmAcs Lib Rmm

/-! ## 1. The sequences -/

/-- `VAL_TEST_PREP_SEQ_FAILED`. -/
def valTestPrepSeqFailed : UInt64 := 0xFFFFFFFFFFFFFFFF

/-- `IPA_ADDR_PROTECTED_ASSIGNED_RAM`. -/
def ipaAddrProtectedAssignedRam : UInt64 := pageSize

/-- `IPA_ADDR_PROTECTED_ASSIGNED_EMPTY`. -/
def ipaAddrProtectedAssignedEmpty : UInt64 := 4 * pageSize

/-- `IPA_ADDR_DESTROYED`. -/
def ipaAddrDestroyed : UInt64 := 2 * pageSize

section Sequences

variable (env : Env)

/-- `val_host_undelegate_granule`: it allocates, and undelegates nothing. -/
def valHostUndelegateGranule (l : Log) : UInt64 × Log :=
  let (gran, l) := env.malloc pageSize pageSize l
  if gran = 0 then (valError, l) else (gran, l)

/-- `g_delegated_prep_sequence`. -/
def gDelegatedPrepSequence (l : Log) : UInt64 × Log := valHostDelegateGranule env l

/-- `g_undelegated_prep_sequence`. -/
def gUndelegatedPrepSequence (l : Log) : UInt64 × Log := valHostUndelegateGranule env l

variable (rd : UInt64)

/-- What three of the sequences have in common, down to `DATA_CREATE`: the granule of the data, or
`none` where they return `VAL_TEST_PREP_SEQ_FAILED`. -/
def assignRam (ipa : UInt64) (l : Log) : Option UInt64 × Log :=
  let (failed, l) := createMapping env rd ipa true l
  if failed.isSome then (none, l)
  else
    let (data, l) := gDelegatedPrepSequence env l
    if data = valTestPrepSeqFailed then (none, l)
    else
      let (src, l) := gUndelegatedPrepSequence env l
      if src = valTestPrepSeqFailed then (none, l)
      else
        let (ret, l) := env.rmi (.dataCreate rd data ipa src rmiNoMeasureContent) l
        if ret ≠ 0 then (none, l) else (some data, l)

/-- `g_data_prep_sequence`. -/
def gDataPrepSequence (ipa : UInt64) (l : Log) : UInt64 × Log :=
  match assignRam env rd ipa l with
  | (none, l) => (valTestPrepSeqFailed, l)
  | (some data, l) => (data, l)

/-- `ipa_protected_assigned_ram_prep_sequence`. -/
def ipaProtectedAssignedRamPrepSequence (l : Log) : UInt64 × Log :=
  match assignRam env rd ipaAddrProtectedAssignedRam l with
  | (none, l) => (valTestPrepSeqFailed, l)
  | (some _, l) => (ipaAddrProtectedAssignedRam, l)

/-- `ipa_protected_assigned_empty_prep_sequence`: no RIPAS, and no source. -/
def ipaProtectedAssignedEmptyPrepSequence (l : Log) : UInt64 × Log :=
  let (failed, l) := createMapping env rd ipaAddrProtectedAssignedEmpty false l
  if failed.isSome then (valTestPrepSeqFailed, l)
  else
    let (data, l) := gDelegatedPrepSequence env l
    if data = valTestPrepSeqFailed then (valTestPrepSeqFailed, l)
    else
      let (ret, l) := env.rmi (.dataCreateUnknown rd data ipaAddrProtectedAssignedEmpty) l
      if ret ≠ 0 then (valTestPrepSeqFailed, l) else (ipaAddrProtectedAssignedEmpty, l)

/-- `ipa_protected_destroyed_prep_sequence`. -/
def ipaProtectedDestroyedPrepSequence (l : Log) : UInt64 × Log :=
  match assignRam env rd ipaAddrDestroyed l with
  | (none, l) => (valTestPrepSeqFailed, l)
  | (some _, l) =>
    let (ret, l) := env.rmi (.dataDestroy rd ipaAddrDestroyed) l
    if ret ≠ 0 then (valTestPrepSeqFailed, l) else (ipaAddrDestroyed, l)

end Sequences

/-! ## 2. What is asked of them -/

/-- An allocation or a command that failed. -/
def Event.failed : Event → Bool
  | .smc _ r => r.x0 != 0
  | .alloc _ _ addr => addr == 0
  | _ => false

def Event.isSmc : Event → Bool
  | .smc _ _ => true
  | _ => false

/-- The granule a `DATA_CREATE` or `DATA_CREATE_UNKNOWN` makes the data from. -/
def Event.dataGranule : Event → Option UInt64
  | .smc (.rmi (.dataCreate _ data _ _ _)) _ => some data
  | .smc (.rmi (.dataCreateUnknown _ data _)) _ => some data
  | _ => none

/-- The granule a `DATA_CREATE` copies the data from. -/
def Event.dataSource : Event → Option UInt64
  | .smc (.rmi (.dataCreate _ _ _ src _)) _ => some src
  | _ => none

/-- The events before this one gave the granules it names: the one allocated and delegated, the other
allocated. -/
def Event.Obtained (pre : Log) (e : Event) : Prop :=
  (∀ a ∈ e.dataGranule, a ∈ allocations pre ∧ a ∈ delegations pre) ∧
    ∀ a ∈ e.dataSource, a ∈ allocations pre

/-- No command after a failure. -/
def Stops (seg : Log) : Prop := seg.Pairwise fun e e' => e.failed = true → e'.isSmc = false

/-- No `DATA_CREATE` with a granule that was not obtained before. -/
def Sourced (seg : Log) : Prop := ∀ pre e post, seg = pre ++ e :: post → e.Obtained pre

/-- **A sequence that hands on every failure**: of what it did, `seg`, and what it returned. -/
structure Propagates (seg : Log) (ret : UInt64) : Prop where
  returns : ∀ e ∈ seg, e.failed = true → ret = valTestPrepSeqFailed
  stops : Stops seg
  sourced : Sourced seg

/-- The same of a call on a log. -/
def PropagatesFrom (l : Log) (result : UInt64 × Log) : Prop :=
  Propagates (own l result.2) result.1

/-- The granule of the data is handed out, and the RMM accepts its delegation. -/
def DataGranted (env : Env) (l : Log) : Prop :=
  (env.malloc pageSize pageSize l).1 ≠ 0 ∧
    (env.rmi (.granuleDelegate (env.malloc pageSize pageSize l).1)
      (env.malloc pageSize pageSize l).2).1 = 0

/-- After that, the granule of the source is handed out. -/
def SourceGranted (env : Env) (l : Log) : Prop :=
  (env.malloc pageSize pageSize (gDelegatedPrepSequence env l).2).1 ≠ 0

/-- If the tables are there, the two granules do not fail. -/
def GranulesGranted (env : Env) (rd ipa : UInt64) (l : Log) : Prop :=
  (createMapping env rd ipa true l).1 = none →
    DataGranted env (createMapping env rd ipa true l).2 ∧
      SourceGranted env (createMapping env rd ipa true l).2

/-- What `val_host_mem_alloc` is asked for: pages. -/
def Env.PageAligned (env : Env) : Prop :=
  ∀ l, pageSize.toNat ∣ (env.alloc l pageSize pageSize).toNat

/-! ## 3. Stretches of a log -/

section Stretches

variable {seg : Log} {e : Event}

/-- What is no `DATA_CREATE` names no granule. -/
theorem Event.obtained_of_quiet (h : e.dataGranule = none) (pre : Log) : e.Obtained pre := by
  unfold Event.dataGranule at h
  unfold Event.Obtained Event.dataGranule Event.dataSource
  split at h <;> simp_all

theorem sourced_nil : Sourced [] := by
  intro pre e post h
  exact absurd h (by simp)

theorem Sourced.snoc (h : Sourced seg) (he : e.Obtained seg) : Sourced (seg ++ [e]) := by
  intro pre e' post hsplit
  rcases List.eq_nil_or_concat post with rfl | ⟨post, e'', rfl⟩
  · obtain ⟨rfl, heq⟩ := List.append_inj' hsplit rfl
    rw [← List.singleton_inj.mp heq]
    exact he
  · have hsplit' : seg ++ [e] = (pre ++ e' :: post) ++ [e''] := by simpa using hsplit
    exact h pre e' post (List.append_inj' hsplit' rfl).1

theorem stops_of_forall (h : ∀ e ∈ seg, e.failed = false) : Stops seg :=
  List.pairwise_of_forall_mem_list fun e he _ _ hf => absurd (h e he) (by simp [hf])

/-- The last event may fail. -/
theorem stops_snoc (h : ∀ e ∈ seg, e.failed = false) (e : Event) : Stops (seg ++ [e]) := by
  refine List.pairwise_append.mpr ⟨stops_of_forall h, List.pairwise_singleton _ _, ?_⟩
  intro e' he' _ _ hf
  exact absurd (h e' he') (by simp [hf])

/-- A failure that a command follows is one too many, whatever comes after. -/
theorem not_stops {pre post : Log} {c : Smc} {r : SmcRet} (h : ∃ e ∈ pre, e.failed = true) :
    ¬ Stops (pre ++ .smc c r :: post) := by
  intro hstops
  obtain ⟨e, he, hf⟩ := h
  have hno : (Event.smc c r).isSmc = false :=
    (List.pairwise_append.mp hstops).2.2 e he _ List.mem_cons_self hf
  exact absurd hno (by simp [Event.isSmc])

end Stretches

/-- Since `l` nothing has failed. -/
def Running (l L : Log) : Prop :=
  ∃ seg, L = l ++ seg ∧ (∀ e ∈ seg, e.failed = false) ∧ Sourced seg

/-- Since `l` no command has come after a failure. -/
def Ended (l L : Log) : Prop := ∃ seg, L = l ++ seg ∧ Stops seg ∧ Sourced seg

/-- Since `l` something has failed. -/
def Failed (l L : Log) : Prop := ∃ seg, L = l ++ seg ∧ ∃ e ∈ seg, e.failed = true

/-- Since `l` a command has come after a failure. -/
def Offends (l L : Log) : Prop :=
  ∃ pre c r post, L = l ++ (pre ++ .smc c r :: post) ∧ ∃ e ∈ pre, e.failed = true

section Stretches

variable {env : Env} {l L : Log} {e : Event}

theorem Running.refl (l : Log) : Running l l :=
  ⟨[], by simp, fun e he => absurd he List.not_mem_nil, sourced_nil⟩

theorem Running.snoc (h : Running l L) (hok : e.failed = false) (he : e.Obtained (own l L)) :
    Running l (L ++ [e]) := by
  obtain ⟨seg, rfl, hseg, hsourced⟩ := h
  rw [own_append] at he
  refine ⟨seg ++ [e], by simp, fun e' he' => ?_, hsourced.snoc he⟩
  rcases List.mem_append.mp he' with he' | he'
  · exact hseg e' he'
  · rw [List.mem_singleton.mp he']
    exact hok

theorem Running.ended (h : Running l L) : Ended l L := by
  obtain ⟨seg, rfl, hseg, hsourced⟩ := h
  exact ⟨seg, rfl, stops_of_forall hseg, hsourced⟩

theorem Running.last (h : Running l L) (he : e.Obtained (own l L)) : Ended l (L ++ [e]) := by
  obtain ⟨seg, rfl, hseg, hsourced⟩ := h
  rw [own_append] at he
  exact ⟨seg ++ [e], by simp, stops_snoc hseg e, hsourced.snoc he⟩

theorem Running.failed (h : Running l L) (he : e.failed = true) : Failed l (L ++ [e]) := by
  obtain ⟨seg, rfl, -, -⟩ := h
  exact ⟨seg ++ [e], by simp, e, by simp, he⟩

theorem Failed.append (h : Failed l L) (post : Log) : Failed l (L ++ post) := by
  obtain ⟨seg, rfl, e, he, hf⟩ := h
  exact ⟨seg ++ post, by simp, e, List.mem_append_left _ he, hf⟩

theorem Failed.offends (h : Failed l L) (c : Smc) (r : SmcRet) : Offends l (L ++ [.smc c r]) := by
  obtain ⟨seg, rfl, hf⟩ := h
  exact ⟨seg, c, r, [], by simp, hf⟩

theorem Offends.append (h : Offends l L) (post : Log) : Offends l (L ++ post) := by
  obtain ⟨pre, c, r, post', rfl, hf⟩ := h
  exact ⟨pre, c, r, post' ++ post, by simp, hf⟩

theorem Running.propagates (h : Running l L) (ret : UInt64) : Propagates (own l L) ret := by
  obtain ⟨seg, rfl, hseg, hsourced⟩ := h
  rw [own_append]
  exact ⟨fun e he hf => absurd (hseg e he) (by simp [hf]), stops_of_forall hseg, hsourced⟩

theorem Ended.propagates (h : Ended l L) : Propagates (own l L) valTestPrepSeqFailed := by
  obtain ⟨seg, rfl, hstops, hsourced⟩ := h
  rw [own_append]
  exact ⟨fun _ _ _ => rfl, hstops, hsourced⟩

theorem Offends.not_propagates (h : Offends l L) (ret : UInt64) : ¬ Propagates (own l L) ret := by
  obtain ⟨pre, c, r, post, rfl, hf⟩ := h
  rw [own_append]
  exact fun hp => not_stops hf hp.stops

theorem Running.call (h : Running l L) {c : Smc} (hok : (env.call c L).1.x0 = 0)
    (hno : ∀ r, (Event.smc c r).dataGranule = none) : Running l (env.call c L).2 :=
  h.snoc (bne_eq_false_iff_eq.mpr hok) (Event.obtained_of_quiet (hno _) _)

theorem Running.created (h : Running l L) {c : Cmd} (hok : (env.rmi c L).1 = 0)
    (hc : ∀ r, (Event.smc (.rmi c) r).Obtained (own l L)) : Running l (env.rmi c L).2 :=
  h.snoc (bne_eq_false_iff_eq.mpr hok) (hc _)

theorem Running.malloc (h : Running l L) (hok : (env.malloc pageSize pageSize L).1 ≠ 0) :
    Running l (env.malloc pageSize pageSize L).2 :=
  h.snoc (beq_eq_false_iff_ne.mpr hok) (Event.obtained_of_quiet rfl _)

theorem Running.lastQuiet (h : Running l L) (hno : e.dataGranule = none) : Ended l (L ++ [e]) :=
  h.last (Event.obtained_of_quiet hno _)

end Stretches

/-! ## 4. The layers below hand their failures on -/

section Mapping

variable {env : Env} {l L : Log}

/-- A granule that is not granted: the failure was the last event. -/
theorem valHostDelegateGranule_refused (h : Running l L) (hno : ¬ DataGranted env L) :
    (valHostDelegateGranule env L).1 = valError ∧ Ended l (valHostDelegateGranule env L).2 ∧
      Failed l (valHostDelegateGranule env L).2 := by
  unfold valHostDelegateGranule
  dsimp only
  rcases eq_or_ne (env.malloc pageSize pageSize L).1 0 with hnull | hgran
  · rw [if_pos hnull]
    exact ⟨rfl, h.lastQuiet rfl, h.failed (beq_iff_eq.mpr hnull)⟩
  · have hrefused : (env.rmi (.granuleDelegate (env.malloc pageSize pageSize L).1)
        (env.malloc pageSize pageSize L).2).1 ≠ 0 := fun hok => hno ⟨hgran, hok⟩
    rw [if_neg hgran, if_pos hrefused]
    have hrun := h.malloc hgran
    exact ⟨rfl, hrun.lastQuiet rfl, hrun.failed (bne_iff_ne.mpr hrefused)⟩

/-- A granule that is granted. -/
theorem valHostDelegateGranule_granted (h : Running l L) (hg : DataGranted env L) :
    valHostDelegateGranule env L = ((env.malloc pageSize pageSize L).1,
        (env.rmi (.granuleDelegate (env.malloc pageSize pageSize L).1)
          (env.malloc pageSize pageSize L).2).2) ∧
      Running l (valHostDelegateGranule env L).2 := by
  obtain ⟨hgran, hok⟩ := hg
  unfold valHostDelegateGranule
  dsimp only
  rw [if_neg hgran, if_neg (not_not.mpr hok)]
  exact ⟨rfl, (h.malloc hgran).call hok fun _ => rfl⟩

theorem createMappingLevel_ends (rd ipa size level : UInt64) :
    Code.Triple (Running l) (createMappingLevel env rd ipa size level) (Running l)
      fun _ => Ended l := by
  intro L hL
  unfold createMappingLevel
  dsimp only
  rcases em (DataGranted env L) with hg | hno
  · have hrun := (valHostDelegateGranule_granted hL hg).2
    split_ifs with herr hrefused
    · exact hrun.ended
    · exact hrun.lastQuiet rfl
    · exact hrun.call (not_not.mp hrefused) fun _ => rfl
  · obtain ⟨herr, hended, -⟩ := valHostDelegateGranule_refused hL hno
    rw [if_pos herr]
    exact hended

theorem createMappingRipas_ends (rd ipa : UInt64) :
    Code.Triple (Running l) (createMappingRipas env rd ipa) (Running l) fun _ => Ended l := by
  intro L hL
  unfold createMappingRipas
  dsimp only
  split_ifs with hrefused
  · exact hL.lastQuiet rfl
  · exact hL.call (not_not.mp hrefused) fun _ => rfl

/-- **`create_mapping`** goes on only while nothing fails. -/
theorem createMapping_ends (rd ipa : UInt64) (ripasInit : Bool) :
    Code.Triple (Running l) (createMapping env rd ipa ripasInit) (Running l) fun _ => Ended l := by
  intro L hL
  unfold createMapping
  dsimp only
  split_ifs with hrefused
  · exact hL.lastQuiet rfl
  · have hread : Running l (env.call (.rttReadEntry rd ipa 3) L).2 :=
      hL.call (not_not.mp hrefused) fun _ => rfl
    have hpart : ∀ (b : Log → Bool) {p : Code Log Unit}, Code.Triple (Running l) p (Running l)
        (fun _ => Ended l) → Code.Triple (Running l) (Code.guarded b p) (Running l) fun _ => Ended l :=
      fun b p hp => Code.Triple.guarded (hp.conseq (fun _ h => h.1) (fun _ h => h) fun _ _ h => h)
        fun _ h _ => h
    exact (Code.Triple.cons (hpart _ (createMappingLevel_ends rd ipa l0Size 1))
      (Code.Triple.cons (hpart _ (createMappingLevel_ends rd ipa l1Size 2))
      (Code.Triple.cons (hpart _ (createMappingLevel_ends rd ipa l2Size 3))
      (Code.Triple.cons (hpart _ (createMappingRipas_ends rd ipa)) Code.triple_nil)))) _ hread

/-- The two ways out of it. -/
theorem createMapping_cases (env : Env) (l : Log) (rd ipa : UInt64) (ripasInit : Bool) :
    ((createMapping env rd ipa ripasInit l).1.isSome = true ∧
        Ended l (createMapping env rd ipa ripasInit l).2) ∨
      ((createMapping env rd ipa ripasInit l).1 = none ∧
        Running l (createMapping env rd ipa ripasInit l).2) := by
  have h : Code.Exit (Running l) (fun _ => Ended l) (createMapping env rd ipa ripasInit l) :=
    createMapping_ends rd ipa ripasInit l (Running.refl l)
  rcases hr : createMapping env rd ipa ripasInit l with ⟨(_ | u), L⟩
  · rw [hr] at h
    exact .inr ⟨rfl, h⟩
  · rw [hr] at h
    exact .inl ⟨rfl, h⟩

/-- The granule it hands back was allocated and delegated here. -/
theorem obtained_after_grant (h : Running l L) (hg : DataGranted env L) :
    (valHostDelegateGranule env L).1 ∈ allocations (own l (valHostDelegateGranule env L).2) ∧
      (valHostDelegateGranule env L).1 ∈ delegations (own l (valHostDelegateGranule env L).2) := by
  obtain ⟨heq, -⟩ := valHostDelegateGranule_granted h hg
  obtain ⟨seg, rfl, -, -⟩ := h
  obtain ⟨hgran, hok⟩ := hg
  have hlog : (valHostDelegateGranule env (l ++ seg)).2 = l ++ (seg ++
      [.alloc pageSize pageSize (env.malloc pageSize pageSize (l ++ seg)).1,
        .smc (.rmi (.granuleDelegate (env.malloc pageSize pageSize (l ++ seg)).1))
          (env.smc (env.malloc pageSize pageSize (l ++ seg)).2
            (.rmi (.granuleDelegate (env.malloc pageSize pageSize (l ++ seg)).1)))]) := by
    rw [heq]
    simp [Env.rmi, Env.call, Env.malloc]
  rw [hlog, own_append, heq, allocations_append, delegations_append]
  constructor
  · refine List.mem_append_right _ ?_
    simp [allocations, Event.served, hgran]
  · refine List.mem_append_right _ ?_
    have hok' : (env.smc (env.malloc pageSize pageSize (l ++ seg)).2
        (.rmi (.granuleDelegate (env.malloc pageSize pageSize (l ++ seg)).1))).x0 = 0 := hok
    simp [delegations, Event.delegated, hok']

end Mapping

/-! ## 5. The sequences -/

section Sequences

variable {env : Env} {l L : Log}

/-- No page is at the address that stands for a failure. -/
theorem Env.PageAligned.malloc_ne (halign : env.PageAligned) (L : Log) :
    (env.malloc pageSize pageSize L).1 ≠ valTestPrepSeqFailed := by
  intro h
  have hdvd := halign L
  have heq : env.alloc L pageSize pageSize = valTestPrepSeqFailed := h
  rw [heq] at hdvd
  exact absurd hdvd (by decide)

theorem valHostUndelegateGranule_ne (halign : env.PageAligned) (L : Log) :
    (valHostUndelegateGranule env L).1 ≠ valTestPrepSeqFailed := by
  unfold valHostUndelegateGranule
  dsimp only
  have hne : valError ≠ valTestPrepSeqFailed := by decide
  split_ifs with hnull
  · exact hne
  · exact halign.malloc_ne L

theorem valHostUndelegateGranule_snd (L : Log) :
    (valHostUndelegateGranule env L).2 = (env.malloc pageSize pageSize L).2 := by
  unfold valHostUndelegateGranule
  dsimp only
  split_ifs <;> rfl

/-- A source that is granted. -/
theorem valHostUndelegateGranule_granted (h : Running l L)
    (hgran : (env.malloc pageSize pageSize L).1 ≠ 0) :
    Running l (valHostUndelegateGranule env L).2 ∧
      allocations (own l (valHostUndelegateGranule env L).2)
        = allocations (own l L) ++ [(valHostUndelegateGranule env L).1] ∧
      delegations (own l (valHostUndelegateGranule env L).2) = delegations (own l L) := by
  have hrun := h.malloc hgran
  unfold valHostUndelegateGranule
  dsimp only
  rw [if_neg hgran]
  have hown : own l (env.malloc pageSize pageSize L).2
      = own l L ++ [.alloc pageSize pageSize (env.malloc pageSize pageSize L).1] := by
    obtain ⟨seg, rfl, -, -⟩ := h
    exact own_snoc ⟨seg, rfl⟩ _
  refine ⟨hrun, ?_, ?_⟩
  · rw [hown, allocations_append]
    simp [allocations, Event.served, hgran]
  · rw [hown, delegations_append]
    simp [delegations, Event.delegated]

/-- **Down to `DATA_CREATE`**, with the granules granted. -/
theorem assignRam_ends {rd ipa : UInt64} (hgranted : GranulesGranted env rd ipa l) :
    ((assignRam env rd ipa l).1 = none ∧ Ended l (assignRam env rd ipa l).2) ∨
      ∃ data, (assignRam env rd ipa l).1 = some data ∧ Running l (assignRam env rd ipa l).2 := by
  unfold assignRam gDelegatedPrepSequence gUndelegatedPrepSequence
  dsimp only
  rcases createMapping_cases env l rd ipa true with ⟨hmap, hended⟩ | ⟨hmap, hrun⟩
  · rw [if_pos hmap]
    exact .inl ⟨rfl, hended⟩
  rw [if_neg (by simp [hmap])]
  obtain ⟨hdata, hsource⟩ := hgranted hmap
  have hrunData := (valHostDelegateGranule_granted hrun hdata).2
  obtain ⟨halloc, hdelegated⟩ := obtained_after_grant hrun hdata
  obtain ⟨hrunSource, hallocs, hdelegs⟩ := valHostUndelegateGranule_granted hrunData hsource
  have hobtained : ∀ r, (Event.smc (.rmi (.dataCreate rd
      (valHostDelegateGranule env (createMapping env rd ipa true l).2).1 ipa
      (valHostUndelegateGranule env
        (valHostDelegateGranule env (createMapping env rd ipa true l).2).2).1
      rmiNoMeasureContent)) r).Obtained (own l (valHostUndelegateGranule env
        (valHostDelegateGranule env (createMapping env rd ipa true l).2).2).2) := by
    intro r
    refine ⟨fun a ha => ?_, fun a ha => ?_⟩
    · rw [← Option.some_inj.mp ha, hallocs, hdelegs]
      exact ⟨List.mem_append_left _ halloc, hdelegated⟩
    · rw [← Option.some_inj.mp ha, hallocs]
      exact List.mem_append_right _ List.mem_cons_self
  split_ifs with hdataFailed hsourceFailed hrefused
  · exact .inl ⟨rfl, hrunData.ended⟩
  · exact .inl ⟨rfl, hrunSource.ended⟩
  · exact .inl ⟨rfl, hrunSource.last (hobtained _)⟩
  · exact .inr ⟨_, rfl, hrunSource.created (not_not.mp hrefused) hobtained⟩

/-- **Where a granule is not granted**, `DATA_CREATE` is issued all the same. -/
theorem assignRam_offends (halign : env.PageAligned) {rd ipa : UInt64}
    (hno : ¬ GranulesGranted env rd ipa l) : Offends l (assignRam env rd ipa l).2 := by
  obtain ⟨hmap, hrefused⟩ := Classical.not_imp.mp hno
  have hrun : Running l (createMapping env rd ipa true l).2 := by
    rcases createMapping_cases env l rd ipa true with ⟨hsome, -⟩ | ⟨-, hrun⟩
    · exact absurd hsome (by simp [hmap])
    · exact hrun
  -- neither granule is all ones, and one of the two has failed
  have hdata : (valHostDelegateGranule env (createMapping env rd ipa true l).2).1
      ≠ valTestPrepSeqFailed := by
    rcases em (DataGranted env (createMapping env rd ipa true l).2) with hg | hg
    · rw [(valHostDelegateGranule_granted hrun hg).1]
      exact halign.malloc_ne _
    · rw [(valHostDelegateGranule_refused hrun hg).1]
      decide
  have hfailed : Failed l (valHostUndelegateGranule env
      (valHostDelegateGranule env (createMapping env rd ipa true l).2).2).2 := by
    rw [valHostUndelegateGranule_snd]
    rcases em (DataGranted env (createMapping env rd ipa true l).2) with hg | hg
    · have hsource := not_not.mp fun h => hrefused ⟨hg, h⟩
      exact (valHostDelegateGranule_granted hrun hg).2.failed (beq_iff_eq.mpr hsource)
    · exact (valHostDelegateGranule_refused hrun hg).2.2.append _
  unfold assignRam gDelegatedPrepSequence gUndelegatedPrepSequence
  dsimp only
  rw [if_neg (by simp [hmap]), if_neg hdata, if_neg (valHostUndelegateGranule_ne halign _)]
  split_ifs
  · exact hfailed.offends _ _
  · exact hfailed.offends _ _

/-- **The three sequences that use it**: they return `VAL_TEST_PREP_SEQ_FAILED` on `none`, and go on
with `k` on a granule. -/
theorem assignRam_then_iff (halign : env.PageAligned) (rd ipa : UInt64)
    {k : UInt64 → Log → UInt64 × Log} (hk : ∀ data L, Running l L → PropagatesFrom l (k data L))
    (hlog : ∀ data L, ∃ post, (k data L).2 = L ++ post) :
    PropagatesFrom l (match assignRam env rd ipa l with
        | (none, L) => (valTestPrepSeqFailed, L)
        | (some data, L) => k data L) ↔
      GranulesGranted env rd ipa l := by
  constructor
  · intro hp
    by_contra hno
    have hoffends := assignRam_offends halign hno
    rcases hr : assignRam env rd ipa l with ⟨(_ | data), L⟩
    · rw [hr] at hp hoffends
      exact hoffends.not_propagates _ hp
    · rw [hr] at hp hoffends
      obtain ⟨post, hpost⟩ := hlog data L
      have hoffends' := hoffends.append post
      rw [← hpost] at hoffends'
      exact hoffends'.not_propagates _ hp
  · intro hgranted
    rcases hr : assignRam env rd ipa l with ⟨(_ | data), L⟩
    · rcases assignRam_ends hgranted with ⟨-, hended⟩ | ⟨data, heq, -⟩
      · rw [hr] at hended
        exact hended.propagates
      · rw [hr] at heq
        exact absurd heq (by simp)
    · rcases assignRam_ends hgranted with ⟨heq, -⟩ | ⟨data, -, hrun⟩
      · rw [hr] at heq
        exact absurd heq (by simp)
      · rw [hr] at hrun
        exact hk _ _ hrun

theorem gDataPrepSequence_iff (halign : env.PageAligned) (rd ipa : UInt64) (l : Log) :
    PropagatesFrom l (gDataPrepSequence env rd ipa l) ↔ GranulesGranted env rd ipa l :=
  assignRam_then_iff halign rd ipa (fun _ _ hrun => hrun.propagates _) fun _ L => ⟨[], by simp⟩

theorem assignedRam_iff (halign : env.PageAligned) (rd : UInt64) (l : Log) :
    PropagatesFrom l (ipaProtectedAssignedRamPrepSequence env rd l) ↔
      GranulesGranted env rd ipaAddrProtectedAssignedRam l :=
  assignRam_then_iff halign rd _ (fun _ _ hrun => hrun.propagates _) fun _ L => ⟨[], by simp⟩

theorem destroyed_iff (halign : env.PageAligned) (rd : UInt64) (l : Log) :
    PropagatesFrom l (ipaProtectedDestroyedPrepSequence env rd l) ↔
      GranulesGranted env rd ipaAddrDestroyed l := by
  refine assignRam_then_iff halign rd _ (fun _ L hrun => ?_) fun _ L => ?_
  · dsimp only
    split_ifs with hrefused
    · exact (hrun.lastQuiet rfl).propagates
    · exact (hrun.call (not_not.mp hrefused) fun _ => rfl).propagates _
  · dsimp only
    split_ifs
    · exact ⟨_, rfl⟩
    · exact ⟨_, rfl⟩

/-- The sequence without a source. -/
theorem assignedEmpty_iff (rd : UInt64) (l : Log) :
    PropagatesFrom l (ipaProtectedAssignedEmptyPrepSequence env rd l) ↔
      ((createMapping env rd ipaAddrProtectedAssignedEmpty false l).1 = none →
        DataGranted env (createMapping env rd ipaAddrProtectedAssignedEmpty false l).2) := by
  unfold ipaProtectedAssignedEmptyPrepSequence gDelegatedPrepSequence
  dsimp only
  rcases createMapping_cases env l rd ipaAddrProtectedAssignedEmpty false with
    ⟨hmap, hended⟩ | ⟨hmap, hrun⟩
  · rw [if_pos hmap]
    refine ⟨fun _ hnone => absurd hmap (by simp [hnone]), fun _ => hended.propagates⟩
  rw [if_neg (by simp [hmap])]
  rcases em (DataGranted env (createMapping env rd ipaAddrProtectedAssignedEmpty false l).2) with hg | hg
  · refine ⟨fun _ _ => hg, fun _ => ?_⟩
    have hrunData := (valHostDelegateGranule_granted hrun hg).2
    have hobtained : ∀ r, (Event.smc (.rmi (.dataCreateUnknown rd
        (valHostDelegateGranule env
          (createMapping env rd ipaAddrProtectedAssignedEmpty false l).2).1
        ipaAddrProtectedAssignedEmpty)) r).Obtained (own l (valHostDelegateGranule env
          (createMapping env rd ipaAddrProtectedAssignedEmpty false l).2).2) := by
      intro r
      refine ⟨fun a ha => ?_, fun a ha => absurd ha (by simp [Event.dataSource])⟩
      rw [← Option.some_inj.mp ha]
      exact obtained_after_grant hrun hg
    split_ifs with hall hrefused
    · exact hrunData.ended.propagates
    · exact (hrunData.last (hobtained _)).propagates
    · exact (hrunData.created (not_not.mp hrefused) hobtained).propagates _
  · obtain ⟨herr, -, hfailed⟩ := valHostDelegateGranule_refused hrun hg
    have hne : valError ≠ valTestPrepSeqFailed := by decide
    refine ⟨fun hp => ?_, fun h => absurd (h hmap) hg⟩
    rw [herr, if_neg hne] at hp
    split_ifs at hp
    · exact absurd hp ((hfailed.offends _ _).not_propagates _)
    · exact absurd hp ((hfailed.offends _ _).not_propagates _)

end Sequences

/-- The heap of the suite hands out pages. -/
theorem heapEnv_pageAligned (heap : HeapState) (smc : Log → Smc → SmcRet) :
    (heapEnv heap smc).PageAligned := by
  intro l
  have hpage : pageSize.toNat = 2 ^ 12 := by decide
  change pageSize.toNat ∣ (valHostMemAlloc pageSize pageSize _).1.toNat
  unfold valHostMemAlloc memAlloc
  dsimp only
  split_ifs
  · exact Nat.dvd_zero _
  · exact Nat.dvd_zero _
  · exact Nat.dvd_zero _
  · rw [addrAlign, toNat_mask_eq_alignDown _ hpage, hpage]
    exact Nat.dvd_mul_left _ _

/-- **Which failures are handed on.**  In each of the four sequences every failure is, if and only if,
once the tables are there, the granule of the data is allocated and its delegation accepted and, where
there is one, the granule of the source is allocated. -/
theorem prep_sequences_propagate_iff {env : Env} (halign : env.PageAligned) (rd ipa : UInt64) (l : Log) :
    (PropagatesFrom l (gDataPrepSequence env rd ipa l) ↔ GranulesGranted env rd ipa l) ∧
    (PropagatesFrom l (ipaProtectedAssignedRamPrepSequence env rd l) ↔
      GranulesGranted env rd ipaAddrProtectedAssignedRam l) ∧
    (PropagatesFrom l (ipaProtectedAssignedEmptyPrepSequence env rd l) ↔
      ((createMapping env rd ipaAddrProtectedAssignedEmpty false l).1 = none →
        DataGranted env (createMapping env rd ipaAddrProtectedAssignedEmpty false l).2)) ∧
    (PropagatesFrom l (ipaProtectedDestroyedPrepSequence env rd l) ↔
      GranulesGranted env rd ipaAddrDestroyed l) :=
  ⟨gDataPrepSequence_iff halign rd ipa l, assignedRam_iff halign rd l, assignedEmpty_iff rd l,
    destroyed_iff halign rd l⟩

/-- An RMM that finds the tables at level 3 and refuses only what is not legal. -/
def prepRmm : Log → Smc → SmcRet := faultyRmm (fun _ _ => false) fun _ => ⟨0, 3, 0⟩

/-- On the fresh heap nothing fails before `DATA_CREATE`; that there is no realm is handed on. -/
theorem prep_sequences_propagate_fresh :
    PropagatesFrom []
      (gDataPrepSequence (heapEnv valHostMemAllocInit prepRmm) 0x88600000 0x1000 []) :=
  (prep_sequences_propagate_iff (heapEnv_pageAligned _ _) 0x88600000 0x1000 []).1.mpr
    fun _ => ⟨⟨by decide, by decide⟩, by unfold SourceGranted; decide⟩

/-- The heap when all of it is handed out. -/
def spentHeap : HeapState := ⟨0x8B200000, 0x8B200000⟩

/-- **On a spent heap** `DATA_CREATE` is issued with the address 1 in the place of both granules, and
none of the sequences stops at the failure. -/
theorem prep_sequences_go_on :
    Event.smc (.rmi (.dataCreate 0x88600000 1 0x1000 1 0)) ⟨1, 0, 0⟩ ∈
        (gDataPrepSequence (heapEnv spentHeap prepRmm) 0x88600000 0x1000 []).2 ∧
      ¬ PropagatesFrom [] (gDataPrepSequence (heapEnv spentHeap prepRmm) 0x88600000 0x1000 []) ∧
      ¬ PropagatesFrom [] (ipaProtectedAssignedRamPrepSequence (heapEnv spentHeap prepRmm) 0x88600000 []) ∧
      ¬ PropagatesFrom []
          (ipaProtectedAssignedEmptyPrepSequence (heapEnv spentHeap prepRmm) 0x88600000 []) ∧
      ¬ PropagatesFrom []
          (ipaProtectedDestroyedPrepSequence (heapEnv spentHeap prepRmm) 0x88600000 []) := by
  have halign := heapEnv_pageAligned spentHeap prepRmm
  refine ⟨by decide, ?_, ?_, ?_, ?_⟩
  · rw [gDataPrepSequence_iff halign]
    exact fun h => (h (by decide)).1.1 (by decide)
  · rw [assignedRam_iff halign]
    exact fun h => (h (by decide)).1.1 (by decide)
  · rw [assignedEmpty_iff]
    exact fun h => (h (by decide)).1 (by decide)
  · rw [destroyed_iff halign]
    exact fun h => (h (by decide)).1.1 (by decide)

end RmmAcs.Realm
