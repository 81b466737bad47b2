/-
# When protected mapping succeeds

Against an RMM that follows its specification, `val_host_map_protected_data` is asked to map a
range of unassigned IPAs to undelegated pages.  It creates the tables that are missing, but only
down to the level of the mapping's SIZE: 3 for one page, 2 for two megabytes.  DATA_CREATE needs a
level 3 table whatever the size.  So a single page can always be mapped, and two megabytes only
where the level 3 table is already there (`map_protected_data_succeeds`).

One detail stands in the way of the single page: the entry that the retry looks at is the one of
the IPA cut to 40 bits.  For a realm with more IPA bits than that it is another entry.
-/
import RmmAcs.Realm.Walk

namespace RmmAcs.Realm

open RmmAcs Lib Rmm

/-! ## 1. Requests -/

/-- Page `k` of a range. -/
def pageOf (a : UInt64) (k : ℕ) : UInt64 := a + UInt64.ofNat (4096 * k)

/-- **What can be mapped**: a range of `n` pages of the protected half of a live realm, with
undelegated pages to map and to copy from, below which the tree has any shape but nothing is
mapped. -/
structure Mappable (R : RmmState) (rd : UInt64) (start width : ℕ) (ram : UInt64 → Prop)
    (targetPa ipa srcPa : UInt64) (n : ℕ) : Prop where
  realm : .realm rd ∈ R.objs
  start_le : start ≤ 3
  width_le : width ≤ 64
  inside : ipa.toNat + 4096 * n ≤ 2 ^ (width - 1)
  target : ∀ k < n, ram (pageOf targetPa k) ∧ 4096 ∣ (pageOf targetPa k).toNat ∧
    pageOf targetPa k ∉ R.delegated
  source : ∀ k < n, 4096 ∣ (pageOf srcPa k).toNat ∧ pageOf srcPa k ∉ R.delegated ∧
    ∀ j < n, pageOf srcPa k ≠ pageOf targetPa j
  rooted : ∀ k < n, Rooted R rd start (pageOf ipa k)
  unassigned : ∀ k < n,
    assigned R rd (walkLevel R rd start (pageOf ipa k) 3) (pageOf ipa k) = false

/-- **A heap with room**: whatever a call asks for it gets, delegable pages that are neither in use
nor part of the request. -/
def ServedWell (ram : UInt64 → Prop) (targetPa srcPa : UInt64) (n : ℕ) (l seg : Log) : Prop :=
  ∀ pre alignment size a post, seg = pre ++ .alloc alignment size a :: post →
    a ≠ 0 ∧ ram a ∧ 4096 ∣ a.toNat ∧ a ∉ (replay (trace (l ++ pre))).delegated ∧
      ∀ k < n, a ≠ pageOf targetPa k ∧ a ≠ pageOf srcPa k

def isDataCreate : Cmd → Bool
  | .dataCreate _ _ _ _ _ => true
  | _ => false

/-- The successful DATA_CREATEs of a stretch of the log. -/
def dataCreates (seg : Log) : List Cmd := (accepted (trace seg)).filter isDataCreate

/-- The DATA_CREATEs of the first `n` pages. -/
def wanted (rd targetPa ipa srcPa : UInt64) (n : ℕ) : List Cmd :=
  (List.range n).map fun k =>
    .dataCreate rd (pageOf targetPa k) (pageOf ipa k) (pageOf srcPa k) rmiNoMeasureContent

theorem ServedWell.of_append {ram : UInt64 → Prop} {targetPa srcPa : UInt64} {n : ℕ}
    {l seg seg' : Log} (h : ServedWell ram targetPa srcPa n l (seg ++ seg')) :
    ServedWell ram targetPa srcPa n l seg := by
  intro pre alignment size a post hseg
  exact h pre alignment size a (post ++ seg') (by rw [hseg]; simp)

theorem dataCreates_rmi (seg : Log) (c : Cmd) (r : SmcRet) :
    dataCreates (seg ++ [.smc (.rmi c) r])
      = if r.x0 = 0 ∧ isDataCreate c = true then dataCreates seg ++ [c] else dataCreates seg := by
  have htrace : trace [Event.smc (.rmi c) r] = [(c, r)] := rfl
  rw [dataCreates, trace_append, htrace, accepted_snoc]
  by_cases h0 : r.x0 = 0
  · rw [if_pos h0, List.filter_append]
    cases hc : isDataCreate c with
    | true => simp [h0, hc, dataCreates]
    | false => simp [hc, dataCreates]
  · rw [if_neg h0, if_neg fun h => h0 h.1]
    rfl

theorem dataCreates_other (seg : Log) {e : Event} (he : e.command = none) :
    dataCreates (seg ++ [e]) = dataCreates seg := by
  rw [dataCreates, trace_append_other seg he]
  rfl

/-- Since `l` the DATA_CREATEs `done` have succeeded, and no others. -/
def Created (l : Log) (done : List Cmd) (L : Log) : Prop :=
  ∃ seg, L = l ++ seg ∧ dataCreates seg = done

section Created

variable {env : Env} {l L : Log} {done : List Cmd} {c : Cmd}

theorem Created.append (h : Created l done L) {e : Event} (he : e.command = none) :
    Created l done (L ++ [e]) := by
  obtain ⟨seg, rfl, hdone⟩ := h
  exact ⟨seg ++ [e], by simp, by rw [dataCreates_other seg he, hdone]⟩

theorem Created.rmi_refused (h : Created l done L) (h0 : (env.rmi c L).1 ≠ 0) :
    Created l done (env.rmi c L).2 := by
  obtain ⟨seg, rfl, hdone⟩ := h
  refine ⟨seg ++ [.smc (.rmi c) (env.smc (l ++ seg) (.rmi c))], by simp [Env.rmi, Env.call], ?_⟩
  rw [dataCreates_rmi, if_neg fun hno => h0 hno.1, hdone]

theorem Created.rmi_other (h : Created l done L) (env : Env) (hc : isDataCreate c = false) :
    Created l done (env.rmi c L).2 := by
  obtain ⟨seg, rfl, hdone⟩ := h
  refine ⟨seg ++ [.smc (.rmi c) (env.smc (l ++ seg) (.rmi c))], by simp [Env.rmi, Env.call], ?_⟩
  rw [dataCreates_rmi, hc, if_neg fun hno => absurd hno.2 (by decide), hdone]

theorem Created.rmi_accepted (h : Created l done L) (h0 : (env.rmi c L).1 = 0)
    (hc : isDataCreate c = true) : Created l (done ++ [c]) (env.rmi c L).2 := by
  obtain ⟨seg, rfl, hdone⟩ := h
  refine ⟨seg ++ [.smc (.rmi c) (env.smc (l ++ seg) (.rmi c))], by simp [Env.rmi, Env.call], ?_⟩
  rw [dataCreates_rmi, if_pos ⟨h0, hc⟩, hdone]

end Created

theorem wanted_succ (rd targetPa ipa srcPa : UInt64) (n : ℕ) :
    wanted rd targetPa ipa srcPa (n + 1) = wanted rd targetPa ipa srcPa n ++
      [.dataCreate rd (pageOf targetPa n) (pageOf ipa n) (pageOf srcPa n) rmiNoMeasureContent] := by
  simp [wanted, List.range_succ]

/-! ## 2. A page that can be mapped -/

/-- The granule of a page is delegated and everything else is in place. -/
structure Granted (R : RmmState) (rd phys ipa src : UInt64) : Prop where
  realm : .realm rd ∈ R.objs
  delegated : phys ∈ R.delegated
  unused : R.Unused phys
  free : ∀ o ∈ R.objs, Obj.clash (.data rd ipa phys) o = false
  source : src ∉ R.delegated

section Granted

variable {R : RmmState} {rd phys ipa src a : UInt64} {width : ℕ}

theorem Granted.dataOk (h : Granted R rd phys ipa src) (hipa : 4096 ∣ ipa.toNat)
    (hinside : ipa.toNat < 2 ^ (width - 1)) (hsrc : 4096 ∣ src.toNat) :
    DataOk R rd width phys ipa src := by
  refine ⟨⟨?_, Or.inr h.realm, h.free⟩, hipa, hinside, hsrc, h.source⟩
  intro b hb
  obtain rfl : phys = b := by simpa [Obj.pa] using hb
  exact ⟨h.delegated, h.unused⟩

/-- A further granule is delegated. -/
theorem Granted.delegate (h : Granted R rd phys ipa src) (hne : a ≠ src) :
    Granted (R.apply (.granuleDelegate a)) rd phys ipa src := by
  have hobjs : (R.apply (.granuleDelegate a)).objs = R.objs :=
    RmmState.apply_objs_of_idle rfl fun _ => rfl
  refine ⟨?_, List.mem_cons_of_mem _ h.delegated, ?_, ?_, ?_⟩
  · rw [hobjs]
    exact h.realm
  · intro o ho
    rw [hobjs] at ho
    exact h.unused o ho
  · intro o ho
    rw [hobjs] at ho
    exact h.free o ho
  · intro hmem
    rcases List.mem_cons.mp hmem with rfl | hmem
    · exact hne rfl
    · exact h.source hmem

/-- A table is made from another granule. -/
theorem Granted.rttCreate (h : Granted R rd phys ipa src) {base level : UInt64} (hne : a ≠ phys) :
    Granted (R.apply (.rttCreate rd a base level)) rd phys ipa src := by
  have hobjs : ∀ {o}, o ∈ (R.apply (.rttCreate rd a base level)).objs →
      o ∈ R.objs ∨ o = .rtt rd base level a := by
    intro o ho
    rcases RmmState.mem_apply_objs.mp ho with ⟨ho, -⟩ | ho
    · exact Or.inl ho
    · exact Or.inr (Option.some.inj ho).symm
  refine ⟨?_, h.delegated, ?_, ?_, h.source⟩
  · exact RmmState.mem_apply_objs.mpr (Or.inl ⟨h.realm, rfl⟩)
  · intro o ho
    rcases hobjs ho with ho | rfl
    · exact h.unused o ho
    · simpa [Obj.pa] using hne
  · intro o ho
    rcases hobjs ho with ho | rfl
    · exact h.free o ho
    · rfl

end Granted

theorem pageOf_inj {a : UInt64} {j k : ℕ} (hj : j ≤ 512) (hk : k ≤ 512)
    (h : pageOf a j = pageOf a k) : j = k := by
  have heq := congrArg UInt64.toNat (add_left_cancel h)
  rw [toNat_offset hj, toNat_offset hk] at heq
  omega

theorem toNat_pageOf {a : UInt64} {k : ℕ} (hk : k ≤ 512) (h : a.toNat + 4096 * k < 2 ^ 64) :
    (pageOf a k).toNat = a.toNat + 4096 * k := by
  rw [pageOf, UInt64.toNat_add, toNat_offset hk, Nat.mod_eq_of_lt h]

theorem pageOf_succ (a : UInt64) (k : ℕ) : pageOf a (k + 1) = pageOf a k + pageSize := by
  rw [pageOf, pageOf, Nat.mul_add, UInt64.ofNat_add, ← add_assoc]
  rfl

/-- The pages from `k` on are as the request found them. -/
structure Ready (R : RmmState) (rd targetPa ipa srcPa : UInt64) (n k : ℕ) : Prop where
  wf : R.Wf
  realm : .realm rd ∈ R.objs
  target : ∀ j, k ≤ j → j < n → pageOf targetPa j ∉ R.delegated
  source : ∀ j < n, pageOf srcPa j ∉ R.delegated
  free : ∀ j, k ≤ j → j < n → ∀ o ∈ R.objs, ∀ pa,
    Obj.clash (.data rd (pageOf ipa j) pa) o = false

section Ready

variable {R : RmmState} {rd targetPa ipa srcPa : UInt64} {start width n k : ℕ}
  {ram : UInt64 → Prop}

theorem entryBase_le (level : ℕ) (x : UInt64) : (entryBase level x).toNat ≤ x.toNat := by
  rw [toNat_entryBase]
  exact Nat.div_mul_le_self _ _

theorem lt_entryBase_add (level : ℕ) (x : UInt64) :
    x.toNat < (entryBase level x).toNat + 2 ^ entryShift level := by
  have hmod := Nat.mod_lt x.toNat (Nat.two_pow_pos (entryShift level))
  have hdiv := Nat.div_add_mod x.toNat (2 ^ entryShift level)
  rw [toNat_entryBase, Nat.mul_comm]
  omega

theorem Mappable.ready (h : Mappable R rd start width ram targetPa ipa srcPa n) (hwf : R.Wf) :
    Ready R rd targetPa ipa srcPa n 0 where
  wf := hwf
  realm := h.realm
  target := fun j _ hj => (h.target j hj).2.2
  source := fun j hj => (h.source j hj).2.1
  free := by
    intro j _ hj o ho pa
    have hnone := h.unassigned j hj
    rw [assigned, List.any_eq_false] at hnone
    have hmapped := hnone o ho
    by_contra hclash
    rw [Bool.not_eq_false] at hclash
    cases o with
    | data rd' ipa' pa' =>
      simp only [Obj.clash, Bool.and_eq_true, beq_iff_eq] at hclash
      obtain ⟨rfl, rfl⟩ := hclash
      exact hmapped (by simp [isMapped, entryBase_le, lt_entryBase_add])
    | _ => exact absurd hclash (by simp [Obj.clash])

/-- Once its granule is delegated, the next page can be mapped. -/
theorem Ready.granted (h : Ready R rd targetPa ipa srcPa n k) (hk : k < n)
    (hsrc : pageOf srcPa k ≠ pageOf targetPa k) :
    Granted (R.apply (.granuleDelegate (pageOf targetPa k))) rd (pageOf targetPa k) (pageOf ipa k)
      (pageOf srcPa k) := by
  have hobjs : (R.apply (.granuleDelegate (pageOf targetPa k))).objs = R.objs :=
    RmmState.apply_objs_of_idle rfl fun _ => rfl
  refine ⟨?_, List.mem_cons_self, ?_, ?_, ?_⟩
  · rw [hobjs]
    exact h.realm
  · intro o ho hpa
    rw [hobjs] at ho
    exact h.target k (le_refl k) hk (h.wf.pa_delegated o ho _ hpa)
  · intro o ho
    rw [hobjs] at ho
    exact h.free k (le_refl k) hk o ho _
  · intro hmem
    rcases List.mem_cons.mp hmem with heq | hmem
    · exact hsrc heq
    · exact h.source k hk hmem

/-- **From one page to the next.** -/
theorem Ready.next (h : Ready R rd targetPa ipa srcPa n k) (hk : k < n) (hn : n ≤ 512)
    (hsrc : ∀ j < n, pageOf srcPa j ≠ pageOf targetPa k) {src flags : UInt64}
    (hwf : ((R.apply (.granuleDelegate (pageOf targetPa k))).apply
      (.dataCreate rd (pageOf targetPa k) (pageOf ipa k) src flags)).Wf) :
    Ready ((R.apply (.granuleDelegate (pageOf targetPa k))).apply
      (.dataCreate rd (pageOf targetPa k) (pageOf ipa k) src flags)) rd targetPa ipa srcPa n
      (k + 1) := by
  have hobjs : ∀ {o}, o ∈ ((R.apply (.granuleDelegate (pageOf targetPa k))).apply
      (.dataCreate rd (pageOf targetPa k) (pageOf ipa k) src flags)).objs →
      o ∈ R.objs ∨ o = .data rd (pageOf ipa k) (pageOf targetPa k) := by
    intro o ho
    rcases RmmState.mem_apply_objs.mp ho with ⟨ho, -⟩ | ho
    · rw [RmmState.apply_objs_of_idle rfl fun _ => rfl] at ho
      exact Or.inl ho
    · exact Or.inr (Option.some.inj ho).symm
  refine ⟨hwf, ?_, ?_, ?_, ?_⟩
  · refine RmmState.mem_apply_objs.mpr (Or.inl ⟨?_, rfl⟩)
    rw [RmmState.apply_objs_of_idle rfl fun _ => rfl]
    exact h.realm
  · intro j hkj hj hmem
    rcases List.mem_cons.mp hmem with heq | hmem
    · have hjk := pageOf_inj (by omega) (by omega) heq
      omega
    · exact h.target j (by omega) hj hmem
  · intro j hj hmem
    rcases List.mem_cons.mp hmem with heq | hmem
    · exact hsrc j hj heq
    · exact h.source j hj hmem
  · intro j hkj hj o ho pa
    rcases hobjs ho with ho | rfl
    · exact h.free j (by omega) hj o ho pa
    · have hne : pageOf ipa j ≠ pageOf ipa k := by
        intro heq
        have hjk := pageOf_inj (by omega) (by omega) heq
        omega
      simp [Obj.clash, hne]

end Ready

/-! ## 3. Where the tables are there -/

/-- A command that ends no object, and makes none that matters here. -/
theorem any_apply_objs {R : RmmState} {c : Cmd} {f : Obj → Bool} (hk : ∀ o, c.kills o = false)
    (hm : ∀ o, c.makes = some o → f o = false) : (R.apply c).objs.any f = R.objs.any f := by
  have hmakes : c.makes.toList.any f = false := by
    rw [List.any_eq_false]
    intro o ho
    rw [hm o (Option.mem_toList.mp ho)]
    decide
  have hfilter : R.objs.filter (fun o => !c.kills o) = R.objs :=
    List.filter_eq_self.mpr fun o _ => by rw [hk o]; rfl
  have hobjs : (R.apply c).objs = R.objs.filter (fun o => !c.kills o) ++ c.makes.toList := rfl
  rw [hobjs, List.any_append, hfilter, hmakes, Bool.or_false]

/-- A command that ends no object, and makes no table of this level for this IPA. -/
theorem hasTable_apply {R : RmmState} {rd ipa : UInt64} {level : ℕ} {c : Cmd}
    (hk : ∀ o, c.kills o = false)
    (hm : ∀ o, c.makes = some o →
      isTable rd (entryBase (level - 1) ipa) (UInt64.ofNat level) o = false) :
    hasTable (R.apply c) rd level ipa = hasTable R rd level ipa :=
  any_apply_objs hk hm

section Tables

variable {env : Env} {rd targetPa ipa srcPa : UInt64} {start width n : ℕ} {ram : UInt64 → Prop}
  {l : Log}

/-- The command of `val_host_map_protected_data`. -/
def dataCreateCmd (rd : UInt64) (s : MapState) : Cmd :=
  .dataCreate rd s.phys s.ipa s.srcPa rmiNoMeasureContent

/-- A page whose DATA_CREATE succeeds at once. -/
theorem mapPage_of_created {create : MapState → Cmd} {level : UInt64} {s : MapState}
    (hdel : (s.rmi env (.granuleDelegate s.phys)).ret = 0)
    (hcreate : ((s.rmi env (.granuleDelegate s.phys)).rmi env
      (create (s.rmi env (.granuleDelegate s.phys)))).ret = 0) :
    mapPage env rd create level s
      = (none, ((s.rmi env (.granuleDelegate s.phys)).rmi env
          (create (s.rmi env (.granuleDelegate s.phys)))).advance) := by
  simp [mapPage, Code.block, Code.seq, Code.act, exitOnError, Code.guarded, Code.skip, hdel,
    hcreate, rmiStatus, rmiErrorRtt]

/-- The first `k` pages are mapped, the others can be, and all have their level 3 table. -/
structure OnTrack (l : Log) (rd targetPa ipa srcPa : UInt64) (start n k : ℕ) (s : MapState) :
    Prop where
  at_ : s.At targetPa ipa k
  src : s.srcPa = pageOf srcPa k
  log : Created l (wanted rd targetPa ipa srcPa k) s.log
  ready : Ready (replay (trace s.log)) rd targetPa ipa srcPa n k
  tables : ∀ j < n, walkLevel (replay (trace s.log)) rd start (pageOf ipa j) 3 = 3

theorem replay_rmi (env : Env) (c : Cmd) (s : MapState) :
    replay (trace (s.rmi env c).log)
      = if (s.rmi env c).ret = 0 then (replay (trace s.log)).apply c else replay (trace s.log) :=
  replay_rmi_call env c s.log

/-- **A page with its tables there.** -/
theorem mapPage_onTrack (hspec : SpecRmm env rd start width ram) {R₀ : RmmState}
    (hin : Mappable R₀ rd start width ram targetPa ipa srcPa n) (hn : n ≤ 512)
    (hipa : 4096 ∣ ipa.toNat) {k : ℕ} (hk : k < n) (level : UInt64) :
    Code.Triple (OnTrack l rd targetPa ipa srcPa start n k)
      (mapPage env rd (dataCreateCmd rd) level)
      (OnTrack l rd targetPa ipa srcPa start n (k + 1)) fun _ _ => False := by
  intro s hs
  obtain ⟨hram, htalign, -⟩ := hin.target k hk
  obtain ⟨hsalign, -, hsrc⟩ := hin.source k hk
  have hphys : s.phys = pageOf targetPa k := hs.at_.phys
  have hsipa : s.ipa = pageOf ipa k := hs.at_.ipa
  have hpow : (2 : ℕ) ^ (width - 1) ≤ 2 ^ 64 :=
    Nat.pow_le_pow_right (by omega) (by have := hin.width_le; omega)
  have hinside := hin.inside
  have hipaNat : (pageOf ipa k).toNat = ipa.toNat + 4096 * k := toNat_pageOf (by omega) (by omega)
  -- the granule is delegated
  have hdel : (s.rmi env (.granuleDelegate s.phys)).ret = 0 := by
    rw [hphys]
    exact hspec.delegate s.log _ hram htalign (hs.ready.target k (le_refl k) hk)
  have hR₁ := replay_rmi env (.granuleDelegate s.phys) s
  rw [if_pos hdel] at hR₁
  have hgranted := hs.ready.granted hk (hsrc k hk)
  rw [← hphys, ← hR₁, ← hsipa, ← hs.src] at hgranted
  -- and the data granule created
  have hok : DataOk (replay (trace (s.rmi env (.granuleDelegate s.phys)).log)) rd width s.phys s.ipa
      s.srcPa := by
    refine hgranted.dataOk ?_ ?_ ?_
    · rw [hsipa, hipaNat]
      exact dvd_add hipa (Dvd.intro _ rfl)
    · rw [hsipa, hipaNat]
      omega
    · rw [hs.src]
      exact hsalign
  have hwalk : ∀ j < n, walkLevel (replay (trace (s.rmi env (.granuleDelegate s.phys)).log)) rd
      start (pageOf ipa j) 3 = 3 := by
    intro j hj
    rw [hR₁]
    refine (walkLevel_congr fun m _ _ => ?_).trans (hs.tables j hj)
    exact hasTable_apply (fun _ => rfl) (by simp [Cmd.makes])
  have hcreate : ((s.rmi env (.granuleDelegate s.phys)).rmi env
      (dataCreateCmd rd (s.rmi env (.granuleDelegate s.phys)))).ret = 0 := by
    have hret := hspec.dataCreate _ _ _ _ hok
    rw [hsipa, if_pos (hwalk k hk), ← hsipa] at hret
    exact hret
  have hcmd : dataCreateCmd rd (s.rmi env (.granuleDelegate s.phys))
      = .dataCreate rd (pageOf targetPa k) (pageOf ipa k) (pageOf srcPa k) rmiNoMeasureContent := by
    rw [← hphys, ← hsipa, ← hs.src]
    rfl
  have hR₂ := replay_rmi env (dataCreateCmd rd (s.rmi env (.granuleDelegate s.phys)))
    (s.rmi env (.granuleDelegate s.phys))
  rw [if_pos hcreate, hR₁, hcmd, hphys] at hR₂
  have hwf : (((replay (trace s.log)).apply (.granuleDelegate (pageOf targetPa k))).apply
      (.dataCreate rd (pageOf targetPa k) (pageOf ipa k) (pageOf srcPa k)
        rmiNoMeasureContent)).Wf := by
    have hlegal := hspec.legal _ _ hcreate
    rw [hR₁, hcmd, hphys] at hlegal
    rw [hphys] at hdel
    exact (hs.ready.wf.apply (hspec.legal _ _ hdel)).apply hlegal
  rw [mapPage_of_created hdel hcreate]
  refine ⟨?_, ?_, ?_, ?_, ?_⟩
  · exact MapState.At.advance ⟨hs.at_.phys, hs.at_.ipa, hs.at_.size⟩
  · rw [MapState.advance_srcPa, pageOf_succ, ← hs.src]
    rfl
  · have hdone := (hs.log.rmi_other env (c := .granuleDelegate s.phys) rfl).rmi_accepted hcreate rfl
    rw [MapState.advance_log, wanted_succ, ← hcmd]
    exact hdone
  · rw [MapState.advance_log, hcmd, hphys, hR₂]
    exact hs.ready.next hk hn (fun j hj => (hin.source j hj).2.2 k hk) hwf
  · intro j hj
    rw [MapState.advance_log, hcmd, hphys, hR₂]
    refine (walkLevel_congr fun m _ _ => ?_).trans (hs.tables j hj)
    rw [hasTable_apply (fun _ => rfl) (by simp [Cmd.makes, isTable]),
      hasTable_apply (fun _ => rfl) (by simp [Cmd.makes])]

/-- **With the level 3 tables there, the call succeeds**, one DATA_CREATE a page. -/
theorem map_of_tables (hspec : SpecRmm env rd start width ram) (hl : LegalTrace (trace l))
    {rttMapSize : UInt64} (hsize : rttMapSize = pageSize ∨ rttMapSize = valRttL2BlockSize)
    (hin : Mappable (replay (trace l)) rd start width ram targetPa ipa srcPa
      (rttMapSize / pageSize).toNat)
    (halign : addrIsAligned ipa rttMapSize = true) (hipa : 4096 ∣ ipa.toNat)
    (htables : ∀ j < (rttMapSize / pageSize).toNat,
      walkLevel (replay (trace l)) rd start (pageOf ipa j) 3 = 3) :
    (valHostMapProtectedData env rd targetPa ipa rttMapSize srcPa l).1 = true ∧
      Created l (wanted rd targetPa ipa srcPa (rttMapSize / pageSize).toNat)
        (valHostMapProtectedData env rd targetPa ipa rttMapSize srcPa l).2 := by
  obtain ⟨level, n, hlevel, -, hn, hbytes, hrounds⟩ := mapLevel_pages hsize
  rw [hrounds] at hin htables
  have htri := Code.triple_whileLoop (b := fun s => s.size < rttMapSize) (n := n)
    (I := OnTrack l rd targetPa ipa srcPa start n) (E := fun (_ : MapExit) _ => False)
    (fun i hi s hs => size_guard hn hbytes hi hs.at_)
    (fun i hi => mapPage_onTrack hspec hin hn hipa hi level)
  have hstart := htri ⟨targetPa, ipa, srcPa, 0, 0, 0, 0, l⟩
    ⟨⟨by simp, by simp, by simp⟩, by simp [pageOf], ⟨[], by simp, rfl⟩, hin.ready hl.wf, htables⟩
  unfold valHostMapProtectedData mapProtected
  rw [halign, hlevel, hrounds]
  simp only [Bool.not_true, Bool.false_eq_true, if_false]
  match hr : Code.whileLoop (fun s => s.size < rttMapSize) (mapPage env rd (dataCreateCmd rd) level)
      n ⟨targetPa, ipa, srcPa, 0, 0, 0, 0, l⟩ with
  | (none, s) =>
    rw [hr] at hstart
    unfold dataCreateCmd at hr
    rw [hr]
    exact ⟨rfl, hstart.1.log⟩
  | (some e, s) =>
    rw [hr] at hstart
    exact False.elim hstart

end Tables

/-! ## 4. Where tables are missing -/

/-- A command that ends no object and maps nothing. -/
theorem assigned_apply {R : RmmState} {rd ipa : UInt64} {level : ℕ} {c : Cmd}
    (hk : ∀ o, c.kills o = false)
    (hm : ∀ o, c.makes = some o → isMapped rd (entryBase level ipa) (entryShift level) o = false) :
    assigned (R.apply c) rd level ipa = assigned R rd level ipa :=
  any_apply_objs hk hm

/-- An entry lies within the entries above it. -/
theorem entry_within {w level : ℕ} (h : w ≤ level) (ipa : UInt64) :
    (entryBase w ipa).toNat ≤ (entryBase level ipa).toNat ∧
      (entryBase level ipa).toNat + 2 ^ entryShift level
        ≤ (entryBase w ipa).toNat + 2 ^ entryShift w := by
  have hbase : (entryBase w ipa).toNat
      = (entryBase level ipa).toNat / 2 ^ entryShift w * 2 ^ entryShift w := by
    rw [← toNat_entryBase, entryBase_entryBase h]
  have hdvd : 2 ^ entryShift level ∣ 2 ^ entryShift w :=
    Nat.pow_dvd_pow 2 (by unfold entryShift; omega)
  refine ⟨by rw [hbase]; exact Nat.div_mul_le_self _ _, ?_⟩
  -- the next entry of the finer level is not past the end of the coarser one
  obtain ⟨c, hc⟩ := hdvd
  have hlt := lt_entryBase_add w (entryBase level ipa)
  rw [entryBase_entryBase h] at hlt
  rw [toNat_entryBase level, toNat_entryBase w] at hlt ⊢
  rw [hc] at hlt ⊢
  have hpos := Nat.two_pow_pos (entryShift level)
  generalize 2 ^ entryShift level = a at *
  generalize ipa.toNat / a = x at *
  generalize ipa.toNat / (a * c) = y at *
  have hlt' : x * a < (y * c + c) * a := by
    calc x * a < y * (a * c) + a * c := hlt
      _ = (y * c + c) * a := by ring
  have hxy : x + 1 ≤ y * c + c := Nat.lt_of_mul_lt_mul_right hlt'
  calc x * a + a = (x + 1) * a := by ring
    _ ≤ (y * c + c) * a := Nat.mul_le_mul_right a hxy
    _ = y * (a * c) + a * c := by ring

theorem assigned_of_within {R : RmmState} {rd ipa : UInt64} {w level : ℕ} (h : w ≤ level)
    (hempty : assigned R rd w ipa = false) : assigned R rd level ipa = false := by
  obtain ⟨hlow, hhigh⟩ := entry_within h ipa
  rw [assigned, List.any_eq_false] at hempty ⊢
  intro o ho hmapped
  refine hempty o ho ?_
  cases o with
  | data rd' ipa' pa =>
    simp only [isMapped, Bool.and_eq_true, decide_eq_true_eq] at hmapped ⊢
    exact ⟨⟨hmapped.1.1, by omega⟩, by omega⟩
  | unprotected rd' ipa' level' =>
    simp only [isMapped, Bool.and_eq_true, decide_eq_true_eq] at hmapped ⊢
    exact ⟨⟨hmapped.1.1, by omega⟩, by omega⟩
  | _ => exact absurd hmapped (by simp [isMapped])

/-- The page is granted, and its tables go down to `level` and no further; nothing is mapped in the
entry where the walk first stopped. -/
structure Growing (R : RmmState) (rd phys ipa src : UInt64) (start w level : ℕ) : Prop where
  wf : R.Wf
  granted : Granted R rd phys ipa src
  reaches : Reaches R rd start ipa level
  below : ∀ k, level < k → k ≤ 3 → hasTable R rd k ipa = false
  empty : assigned R rd w ipa = false

section Growing

variable {R : RmmState} {rd phys ipa src a : UInt64} {start width w level : ℕ}

/-- A granule for the next table is delegated. -/
theorem Growing.delegate (h : Growing R rd phys ipa src start w level) (hne : a ≠ src)
    (hlegal : R.Legal (.granuleDelegate a)) :
    Growing (R.apply (.granuleDelegate a)) rd phys ipa src start w level := by
  have htable : ∀ k, hasTable (R.apply (.granuleDelegate a)) rd k ipa = hasTable R rd k ipa :=
    fun k => hasTable_apply (fun _ => rfl) (by simp [Cmd.makes])
  refine ⟨h.wf.apply hlegal, h.granted.delegate hne, ⟨h.reaches.1, ?_⟩, ?_, ?_⟩
  · intro k hk
    rw [htable]
    exact h.reaches.2 k hk
  · intro k hk hk3
    rw [htable]
    exact h.below k hk hk3
  · rw [assigned_apply (fun _ => rfl) (by simp [Cmd.makes])]
    exact h.empty

/-- **The next table can be created.** -/
theorem Growing.rttOk (h : Growing R rd phys ipa src start w level) (hw : w ≤ level)
    (hlevel : level < 3) (hinside : ipa.toNat < 2 ^ width) (ha : a ∈ R.delegated)
    (hunused : R.Unused a) :
    RttOk R rd start width a (entryBase level ipa) (level + 1) := by
  have htable : ∀ k ≤ level + 1, hasTable R rd k (entryBase level ipa) = hasTable R rd k ipa := by
    intro k hk
    rw [hasTable, hasTable, entryBase_entryBase (by omega)]
  refine ⟨⟨?_, Or.inr h.granted.realm, ?_⟩, Nat.lt_succ_of_le h.reaches.1, hlevel, ?_, ?_, ?_, ?_⟩
  · intro b hb
    obtain rfl : a = b := by simpa [Obj.pa] using hb
    exact ⟨ha, hunused⟩
  · -- a clash would be the missing table
    intro o ho
    have hnone := h.below (level + 1) (Nat.lt_succ_self level) hlevel
    rw [hasTable, List.any_eq_false] at hnone
    rw [clash_rtt]
    exact Bool.not_eq_true _ ▸ hnone o ho
  · exact entryBase_entryBase (le_refl _) ipa
  · exact lt_of_le_of_lt (entryBase_le level ipa) hinside
  · refine ⟨h.reaches.1, fun k hk => ?_⟩
    have hk' := Finset.mem_Ioc.mp hk
    rw [htable k (by omega)]
    exact h.reaches.2 k hk
  · have hnext := h.below (level + 1) (Nat.lt_succ_self level) hlevel
    rw [← htable (level + 1) (le_refl _)] at hnext
    have hempty := assigned_of_within hw h.empty
    rw [assigned, ← entryBase_entryBase (le_refl level) ipa, ← assigned] at hempty
    simp [entryState, hnext, hempty]

/-- **The next table is created.** -/
theorem Growing.rttCreate (h : Growing R rd phys ipa src start w level) (hlevel : level < 3)
    (hne : a ≠ phys)
    (hlegal : R.Legal (.rttCreate rd a (entryBase level ipa) (UInt64.ofNat (level + 1)))) :
    Growing (R.apply (.rttCreate rd a (entryBase level ipa) (UInt64.ofNat (level + 1)))) rd phys ipa
      src start w (level + 1) := by
  have htable : ∀ k, k ≤ 3 → k ≠ level + 1 →
      hasTable (R.apply (.rttCreate rd a (entryBase level ipa) (UInt64.ofNat (level + 1)))) rd k ipa
        = hasTable R rd k ipa := by
    intro k hk hne
    refine hasTable_apply (fun _ => rfl) fun o ho => ?_
    obtain rfl := Option.some.inj ho
    have hlevels : UInt64.ofNat k ≠ UInt64.ofNat (level + 1) := by
      intro heq
      have heq' := congrArg UInt64.toNat heq
      rw [UInt64.toNat_ofNat_of_lt' (by simp only [UInt64.size]; omega),
        UInt64.toNat_ofNat_of_lt' (by simp only [UInt64.size]; omega)] at heq'
      exact hne heq'
    simp only [isTable, beq_eq_false_iff_ne.mpr hlevels, Bool.and_false]
  have hnew : hasTable (R.apply (.rttCreate rd a (entryBase level ipa) (UInt64.ofNat (level + 1))))
      rd (level + 1) ipa = true := by
    rw [hasTable, List.any_eq_true]
    exact ⟨.rtt rd (entryBase level ipa) (UInt64.ofNat (level + 1)) a,
      RmmState.mem_apply_objs.mpr (Or.inr rfl), by simp [isTable]⟩
  refine ⟨h.wf.apply hlegal, h.granted.rttCreate hne, ⟨Nat.le_succ_of_le h.reaches.1, ?_⟩, ?_, ?_⟩
  · intro k hk
    rw [Finset.mem_Ioc] at hk
    by_cases hk' : k = level + 1
    · rw [hk']
      exact hnew
    · rw [htable k (by omega) hk']
      exact h.reaches.2 k (Finset.mem_Ioc.mpr ⟨hk.1, by omega⟩)
  · intro k hk hk3
    rw [htable k hk3 (by omega)]
    exact h.below k (by omega) hk3
  · rw [assigned_apply (fun _ => rfl) (by simp [Cmd.makes, isMapped])]
    exact h.empty

end Growing

section Missing

variable {env : Env} {rd targetPa ipa srcPa : UInt64} {start width n w : ℕ} {ram : UInt64 → Prop}
  {l : Log}

/-- So far no DATA_CREATE has succeeded, and as long as the heap serves well the tables of the
first page go down to `level`. -/
def GrownTo (l : Log) (rd targetPa ipa srcPa : UInt64) (ram : UInt64 → Prop)
    (start n w level : ℕ) (L : Log) : Prop :=
  ∃ seg, L = l ++ seg ∧ dataCreates seg = [] ∧
    (ServedWell ram targetPa srcPa n l seg →
      Growing (replay (trace L)) rd (pageOf targetPa 0) ipa (pageOf srcPa 0) start w level)

/-- The heap has not served well. -/
def Starved (l : Log) (targetPa srcPa : UInt64) (ram : UInt64 → Prop) (n : ℕ) (L : Log) : Prop :=
  ∃ seg, L = l ++ seg ∧ ¬ ServedWell ram targetPa srcPa n l seg

theorem Starved.extend {L es : Log} (h : Starved l targetPa srcPa ram n L) :
    Starved l targetPa srcPa ram n (L ++ es) := by
  obtain ⟨seg, rfl, hno⟩ := h
  exact ⟨seg ++ es, List.append_assoc _ _ _, fun hserved => hno hserved.of_append⟩

/-- Then nothing is promised of the tables. -/
theorem Starved.grownTo {L : Log} {level : ℕ} (h : Starved l targetPa srcPa ram n L)
    (hdone : Created l [] L) : GrownTo l rd targetPa ipa srcPa ram start n w level L := by
  obtain ⟨seg, rfl, hcreates⟩ := hdone
  refine ⟨seg, rfl, hcreates, fun hserved => ?_⟩
  obtain ⟨seg', hL, hno⟩ := h
  exact absurd (List.append_cancel_left hL ▸ hserved) hno

/-- **One table**, with a heap that serves well. -/
theorem createRttLevel_grows (hspec : SpecRmm env rd start width ram) (hn : 0 < n) {level : ℕ}
    (hw : w ≤ level) (hlevel : level < 3) (hinside : ipa.toNat < 2 ^ width) :
    Code.Triple (GrownTo l rd targetPa ipa srcPa ram start n w level)
      (createRttLevel env rd ipa pageSize (UInt64.ofNat (level + 1)))
      (GrownTo l rd targetPa ipa srcPa ram start n w (level + 1))
      fun _ => Starved l targetPa srcPa ram n := by
  rintro L ⟨seg, rfl, hcreates, hgrow⟩
  unfold createRttLevel
  dsimp only
  rw [ofNat_level_pred, addrAlignDown_eq_entryBase hlevel]
  have hmalloc : (env.malloc pageSize pageSize (l ++ seg)).2
      = l ++ (seg ++ [.alloc pageSize pageSize (env.malloc pageSize pageSize (l ++ seg)).1]) := by
    simp [Env.malloc]
  rw [hmalloc]
  generalize (env.malloc pageSize pageSize (l ++ seg)).1 = a
  by_cases hserved : ServedWell ram targetPa srcPa n l (seg ++ [.alloc pageSize pageSize a])
  · obtain ⟨ha0, hram, halign, hfresh, hothers⟩ := hserved seg pageSize pageSize a [] rfl
    have hG := hgrow hserved.of_append
    have hR : replay (trace (l ++ (seg ++ [.alloc pageSize pageSize a])))
        = replay (trace (l ++ seg)) := replay_append_other l seg rfl
    generalize hL₁ : l ++ (seg ++ [.alloc pageSize pageSize a]) = L₁ at hR
    -- the granule is delegated
    have hdel : (env.rmi (.granuleDelegate a) L₁).1 = 0 :=
      hspec.delegate L₁ a hram halign (by rw [hR]; exact hfresh)
    have hR₂ : replay (trace (env.rmi (.granuleDelegate a) L₁).2)
        = (replay (trace (l ++ seg))).apply (.granuleDelegate a) := by
      rw [replay_rmi_call, if_pos hdel, hR]
    have hlegal₂ : (replay (trace (l ++ seg))).Legal (.granuleDelegate a) :=
      hR ▸ hspec.legal L₁ _ hdel
    have hG₂ := hG.delegate (hothers 0 hn).2 hlegal₂
    -- and the table created
    have hok : RttOk (replay (trace (env.rmi (.granuleDelegate a) L₁).2)) rd start width a
        (entryBase level ipa) (level + 1) := by
      rw [hR₂]
      refine hG₂.rttOk hw hlevel hinside List.mem_cons_self ?_
      intro o ho hpa
      rw [RmmState.apply_objs_of_idle rfl fun _ => rfl] at ho
      exact hfresh (hG.wf.pa_delegated o ho a hpa)
    have hcreate : (env.rmi (.rttCreate rd a (entryBase level ipa) (UInt64.ofNat (level + 1)))
        (env.rmi (.granuleDelegate a) L₁).2).1 = 0 := hspec.rttCreate _ _ _ _ hok
    have hlegal₃ := hspec.legal _ _ hcreate
    rw [hR₂] at hlegal₃
    rw [if_neg ha0, if_neg (not_not.mpr hdel), if_neg (not_not.mpr hcreate)]
    have hdone : Created l [] L₁ := ⟨_, hL₁.symm, by rw [dataCreates_other seg rfl, hcreates]⟩
    obtain ⟨seg₃, hL₃, hcreates₃⟩ := (hdone.rmi_other env (c := .granuleDelegate a) rfl).rmi_other env
      (c := .rttCreate rd a (entryBase level ipa) (UInt64.ofNat (level + 1))) rfl
    refine ⟨seg₃, hL₃, hcreates₃, fun _ => ?_⟩
    have hR₃ : replay (trace (env.rmi (.rttCreate rd a (entryBase level ipa)
        (UInt64.ofNat (level + 1))) (env.rmi (.granuleDelegate a) L₁).2).2)
        = ((replay (trace (l ++ seg))).apply (.granuleDelegate a)).apply
          (.rttCreate rd a (entryBase level ipa) (UInt64.ofNat (level + 1))) := by
      rw [replay_rmi_call, if_pos hcreate, hR₂]
    rw [hR₃]
    exact hG₂.rttCreate hlevel (hothers 0 hn).1 hlegal₃
  · -- however it goes on, the heap has failed
    have hstarved : Starved l targetPa srcPa ram n
        (l ++ (seg ++ [.alloc pageSize pageSize a])) := ⟨_, rfl, hserved⟩
    have hdone : Created l [] (l ++ (seg ++ [.alloc pageSize pageSize a])) :=
      ⟨_, rfl, by rw [dataCreates_other seg rfl, hcreates]⟩
    generalize l ++ (seg ++ [.alloc pageSize pageSize a]) = L₁ at *
    split
    · exact hstarved
    · split
      · exact hstarved.extend
      · split
        · exact hstarved.extend.extend.extend
        · have hdone₃ := (hdone.rmi_other env (c := .granuleDelegate a) rfl).rmi_other env
            (c := .rttCreate rd a (entryBase level ipa) (UInt64.ofNat (level + 1))) rfl
          exact hstarved.extend.extend.grownTo hdone₃

/-- **The tables of a page**, with a heap that serves well. -/
theorem valHostCreateRttLevels_grows (hspec : SpecRmm env rd start width ram) (hn : 0 < n)
    (hw : w < 3) (hinside : ipa.toNat < 2 ^ width) :
    Code.Triple (GrownTo l rd targetPa ipa srcPa ram start n w w)
      (valHostCreateRttLevels env rd ipa (UInt64.ofNat w) 3 pageSize)
      (GrownTo l rd targetPa ipa srcPa ram start n w 3)
      fun _ => Starved l targetPa srcPa ram n :=
  valHostCreateRttLevels_triple (le_of_lt hw) fun _ hle hlt =>
    createRttLevel_grows hspec hn hle hlt hinside

/-! ## 5. The retry -/

/-- The state after the first DATA_CREATE of a page has been refused and the entry read. -/
def afterRead (env : Env) (rd : UInt64) (s : MapState) : MapState :=
  let s₁ := s.rmi env (.granuleDelegate s.phys)
  let s₂ := s₁.rmi env (dataCreateCmd rd s₁)
  s₂.readEntry env rd (valHostAddrAlignToLevel s₂.ipa (rmiIndex s₂.ret)) (rmiIndex s₂.ret)

/-- What is left of a page then. -/
def afterMissing (env : Env) (rd level : UInt64) : Code MapState MapExit :=
  Code.block
    [Code.block
        [Code.guarded (fun s => s.state == rmiUnassigned)
          (Code.block
            [createMissing env rd level, Code.act fun s => s.rmi env (dataCreateCmd rd s)])],
      exitOnError .error, Code.act MapState.advance]

/-- **A page whose table is missing.** -/
theorem mapPage_of_missing {level : UInt64} {s s₁ s₂ : MapState}
    (hs₁ : s.rmi env (.granuleDelegate s.phys) = s₁) (hs₂ : s₁.rmi env (dataCreateCmd rd s₁) = s₂)
    (hdel : s₁.ret = 0) (hcreate : rmiStatus s₂.ret = rmiErrorRtt)
    (hread : (afterRead env rd s).ret = 0) :
    mapPage env rd (dataCreateCmd rd) level s
      = afterMissing env rd level (afterRead env rd s) := by
  have hafter : s₂.readEntry env rd (valHostAddrAlignToLevel s₂.ipa (rmiIndex s₂.ret))
      (rmiIndex s₂.ret) = afterRead env rd s := by
    rw [← hs₂, ← hs₁]
    rfl
  simp only [mapPage, afterMissing, retry, Code.block, Code.seq, Code.act, exitOnError,
    Code.guarded, Code.skip, hs₁, hdel, hs₂, hcreate, hafter, hread, bne_self_eq_false,
    Bool.false_eq_true, if_false, beq_self_eq_true, if_true]

/-- The IPA that the retry reads the entry of, -/
def readIpa (R : RmmState) (rd : UInt64) (start : ℕ) (ipa : UInt64) : UInt64 :=
  valHostAddrAlignToLevel ipa (UInt64.ofNat (walkLevel R rd start ipa 3))

/-- and the level at which that walk stops. -/
def readLevel (R : RmmState) (rd : UInt64) (start : ℕ) (ipa : UInt64) : ℕ :=
  walkLevel R rd start (readIpa R rd start ipa) (walkLevel R rd start ipa 3)

/-- **The entry that the retry reads** is at the level where the walk for the IPA has stopped, and
is unassigned. -/
def Readable (R : RmmState) (rd : UInt64) (start : ℕ) (ipa : UInt64) : Prop :=
  readLevel R rd start ipa = walkLevel R rd start ipa 3 ∧
    entryState R rd (readLevel R rd start ipa) (readIpa R rd start ipa) = rmiUnassigned

/-- Below 40 bits it always is. -/
theorem readable_of_lt {R : RmmState} (hstart : start ≤ 3) (hw : walkLevel R rd start ipa 3 < 3)
    (hempty : assigned R rd (walkLevel R rd start ipa 3) ipa = false)
    (hipa : ipa.toNat < 2 ^ 40) : Readable R rd start ipa := by
  have hreach : Reaches R rd start ipa (walkLevel R rd start ipa 3) := reaches_walkLevel hstart
  have hstop : hasTable R rd (walkLevel R rd start ipa 3 + 1) ipa = false :=
    hasTable_of_stop hstart hw
  unfold Readable readLevel readIpa
  generalize walkLevel R rd start ipa 3 = w at *
  rw [valHostAddrAlignToLevel_eq_entryBase (by omega) hipa]
  have htable : ∀ k ≤ w + 1, hasTable R rd k (entryBase w ipa) = hasTable R rd k ipa := by
    intro k hk
    rw [hasTable, hasTable, entryBase_entryBase (by omega)]
  have hlevel : walkLevel R rd start (entryBase w ipa) w = w := by
    rw [walkLevel_congr fun k _ hk => htable k (by omega)]
    exact (walkLevel_eq_iff hreach.1).mpr hreach
  have hnone : assigned R rd w (entryBase w ipa) = false := by
    rw [assigned, entryBase_entryBase (le_refl w)]
    exact hempty
  refine ⟨hlevel, ?_⟩
  rw [hlevel]
  simp [entryState, htable (w + 1) (le_refl _), hstop, hnone]

/-- The variables for the first page. -/
def AtFirst (targetPa ipa srcPa : UInt64) (s : MapState) : Prop :=
  s.phys = targetPa ∧ s.ipa = ipa ∧ s.srcPa = srcPa ∧ s.size = 0

/-- The first page, when the entry has been read: only the granule is delegated. -/
structure Stopped (R : RmmState) (l : Log) (rd targetPa ipa srcPa : UInt64) (start : ℕ)
    (s : MapState) : Prop where
  first : AtFirst targetPa ipa srcPa s
  ret : s.ret = 0
  log : Created l [] s.log
  rmm : replay (trace s.log) = R.apply (.granuleDelegate targetPa)
  level : s.walkLevel = UInt64.ofNat (readLevel R rd start ipa)
  entry : s.state = entryState R rd (readLevel R rd start ipa) (readIpa R rd start ipa)

@[simp] theorem pageOf_zero (a : UInt64) : pageOf a 0 = a := by simp [pageOf]

/-- Delegating a granule changes no table and no mapping. -/
theorem tables_delegate (R : RmmState) (rd : UInt64) (start : ℕ) (a x : UInt64) (limit : ℕ) :
    walkLevel (R.apply (.granuleDelegate a)) rd start x limit = walkLevel R rd start x limit ∧
      entryState (R.apply (.granuleDelegate a)) rd limit x = entryState R rd limit x := by
  have htable : ∀ k, hasTable (R.apply (.granuleDelegate a)) rd k x = hasTable R rd k x :=
    fun k => hasTable_apply (fun _ => rfl) (by simp [Cmd.makes])
  have hassigned : assigned (R.apply (.granuleDelegate a)) rd limit x = assigned R rd limit x :=
    assigned_apply (fun _ => rfl) (by simp [Cmd.makes])
  constructor
  · exact walkLevel_congr fun k _ _ => htable k
  · rw [entryState, entryState, htable, hassigned]

/-- **Where the first page's table is missing**, its DATA_CREATE is refused and the entry read. -/
theorem first_page_stops (hspec : SpecRmm env rd start width ram) (hl : LegalTrace (trace l))
    (hin : Mappable (replay (trace l)) rd start width ram targetPa ipa srcPa n) (hn : 0 < n)
    (hipa : 4096 ∣ ipa.toNat) (hw : walkLevel (replay (trace l)) rd start ipa 3 < 3)
    (level : UInt64) :
    ∃ s, mapPage env rd (dataCreateCmd rd) level ⟨targetPa, ipa, srcPa, 0, 0, 0, 0, l⟩
        = afterMissing env rd level s ∧
      Stopped (replay (trace l)) l rd targetPa ipa srcPa start s := by
  obtain ⟨hram, htalign, hfresh⟩ := hin.target 0 hn
  obtain ⟨hsalign, -, hsrc⟩ := hin.source 0 hn
  have hinside := hin.inside
  rw [pageOf_zero] at hram htalign hfresh hsalign
  have hstart := hin.start_le
  have hreach : Reaches (replay (trace l)) rd start ipa _ := reaches_walkLevel hstart
  -- the granule is delegated
  have hdel : (env.rmi (.granuleDelegate targetPa) l).1 = 0 := hspec.delegate l _ hram htalign hfresh
  have hR₁ := replay_rmi_call env (.granuleDelegate targetPa) l
  rw [if_pos hdel] at hR₁
  have hgranted := (hin.ready hl.wf).granted hn (hsrc 0 hn)
  rw [pageOf_zero, pageOf_zero, pageOf_zero, ← hR₁] at hgranted
  -- the data granule is not created
  have hinside' : ipa.toNat < 2 ^ (width - 1) := by omega
  have hok := hgranted.dataOk hipa hinside' hsalign
  have hcreate : (env.rmi (.dataCreate rd targetPa ipa srcPa rmiNoMeasureContent)
      (env.rmi (.granuleDelegate targetPa) l).2).1
        = rttError (walkLevel (replay (trace l)) rd start ipa 3) := by
    have hret := hspec.dataCreate _ _ _ _ hok
    rw [hR₁, (tables_delegate _ rd start targetPa ipa 3).1, if_neg (by omega)] at hret
    exact hret
  obtain ⟨hne, hstatus, hindex⟩ := rttError_fields hw.le
  have hR₂ := replay_rmi_call env (.dataCreate rd targetPa ipa srcPa rmiNoMeasureContent)
    (env.rmi (.granuleDelegate targetPa) l).2
  rw [if_neg (by rw [hcreate]; exact hne), hR₁] at hR₂
  -- and the entry read
  have hxle : (readIpa (replay (trace l)) rd start ipa).toNat ≤ ipa.toNat :=
    valHostAddrAlignToLevel_le hw.le ipa
  have hpow : (2 : ℕ) ^ (width - 1) ≤ 2 ^ width := Nat.pow_le_pow_right (by omega) (by omega)
  have hread := hspec.readEntry (env.rmi (.dataCreate rd targetPa ipa srcPa rmiNoMeasureContent)
    (env.rmi (.granuleDelegate targetPa) l).2).2 _ _ hreach.1 hw.le
    (entryBase_valHostAddrAlignToLevel hw.le ipa) (by unfold readIpa at hxle; omega)
  rw [hR₂, (tables_delegate _ rd start targetPa _ _).1,
    (tables_delegate _ rd start targetPa _ _).2] at hread
  set s₂ : MapState := (MapState.rmi env (.granuleDelegate targetPa)
    ⟨targetPa, ipa, srcPa, 0, 0, 0, 0, l⟩).rmi env
    (.dataCreate rd targetPa ipa srcPa rmiNoMeasureContent) with hs₂
  have hs₂ret : s₂.ret = rttError (walkLevel (replay (trace l)) rd start ipa 3) := hcreate
  have hafter : afterRead env rd ⟨targetPa, ipa, srcPa, 0, 0, 0, 0, l⟩
      = s₂.readEntry env rd (readIpa (replay (trace l)) rd start ipa)
          (UInt64.ofNat (walkLevel (replay (trace l)) rd start ipa 3)) := by
    rw [readIpa, ← hindex, ← hs₂ret]
    rfl
  have hanswer : env.smc s₂.log (.rttReadEntry rd (readIpa (replay (trace l)) rd start ipa)
      (UInt64.ofNat (walkLevel (replay (trace l)) rd start ipa 3))) = _ := hread
  refine ⟨_, mapPage_of_missing rfl rfl hdel ?_ ?_, ?_⟩
  · exact (congrArg rmiStatus hs₂ret).trans hstatus
  · rw [hafter]
    exact congrArg SmcRet.x0 hanswer
  · rw [hafter]
    refine ⟨⟨rfl, rfl, rfl, rfl⟩, congrArg SmcRet.x0 hanswer, ?_, ?_, congrArg SmcRet.x1 hanswer,
      congrArg SmcRet.x2 hanswer⟩
    · have hnone : Created l [] l := ⟨[], by simp, rfl⟩
      have hrefused : (env.rmi (.dataCreate rd targetPa ipa srcPa rmiNoMeasureContent)
          (env.rmi (.granuleDelegate targetPa) l).2).1 ≠ 0 := by
        rw [hcreate]
        exact hne
      exact ((hnone.rmi_other env (c := .granuleDelegate targetPa) rfl).rmi_refused hrefused).append
        rfl
    · have hlog : trace (s₂.readEntry env rd (readIpa (replay (trace l)) rd start ipa)
          (UInt64.ofNat (walkLevel (replay (trace l)) rd start ipa 3))).log = trace s₂.log :=
        trace_append_other s₂.log rfl
      rw [hlog]
      exact hR₂

/-- The one DATA_CREATE of a single page. -/
theorem wanted_one (rd targetPa ipa srcPa : UInt64) :
    wanted rd targetPa ipa srcPa 1
      = [.dataCreate rd targetPa ipa srcPa rmiNoMeasureContent] := by
  simp [wanted]

/-- **The missing tables are created**, or the heap has failed. -/
theorem createMissing_grows (hspec : SpecRmm env rd start width ram) (hw : w < 3)
    (hinside : ipa.toNat < 2 ^ width) :
    Code.Triple
      (fun s => AtFirst targetPa ipa srcPa s ∧ s.walkLevel = UInt64.ofNat w ∧
        GrownTo l rd targetPa ipa srcPa ram start 1 w w s.log)
      (createMissing env rd 3)
      (fun s => AtFirst targetPa ipa srcPa s ∧ GrownTo l rd targetPa ipa srcPa ram start 1 w 3 s.log)
      fun e s => e = .error ∧ s.size = 0 ∧ Starved l targetPa srcPa ram 1 s.log := by
  rintro s ⟨hfirst, hlevel, hlog⟩
  have hcut : (UInt64.ofNat w).toUInt32.toUInt64 = UInt64.ofNat w := by
    interval_cases w <;> decide
  have hexit := valHostCreateRttLevels_grows hspec Nat.zero_lt_one hw hinside s.log hlog
  unfold createMissing
  rw [hlevel, hcut, hfirst.2.1]
  match hr : valHostCreateRttLevels env rd ipa (UInt64.ofNat w) 3 pageSize s.log with
  | (none, l') =>
    rw [hr] at hexit
    exact ⟨⟨hfirst.1, rfl, hfirst.2.2⟩, hexit⟩
  | (some (), l') =>
    rw [hr] at hexit
    exact ⟨rfl, hfirst.2.2.2, hexit⟩

/-- **The second DATA_CREATE** succeeds, or the heap has failed. -/
theorem dataCreate_grown (hspec : SpecRmm env rd start width ram) (hstart : start ≤ 3)
    (hipa : 4096 ∣ ipa.toNat) (hinside : ipa.toNat < 2 ^ (width - 1)) (hsrc : 4096 ∣ srcPa.toNat)
    {L : Log} (h : GrownTo l rd targetPa ipa srcPa ram start 1 w 3 L) :
    (env.rmi (.dataCreate rd targetPa ipa srcPa rmiNoMeasureContent) L).1 = 0 ∧
        Created l (wanted rd targetPa ipa srcPa 1)
          (env.rmi (.dataCreate rd targetPa ipa srcPa rmiNoMeasureContent) L).2 ∨
      Starved l targetPa srcPa ram 1
        (env.rmi (.dataCreate rd targetPa ipa srcPa rmiNoMeasureContent) L).2 := by
  obtain ⟨seg, rfl, hcreates, hgrow⟩ := h
  by_cases hserved : ServedWell ram targetPa srcPa 1 l seg
  · left
    have hG := hgrow hserved
    rw [pageOf_zero, pageOf_zero] at hG
    have hok := hG.granted.dataOk hipa hinside hsrc
    have hret := hspec.dataCreate _ _ _ _ hok
    rw [if_pos ((walkLevel_eq_iff hstart).mpr hG.reaches)] at hret
    have hdone : Created l [] (l ++ seg) := ⟨seg, rfl, hcreates⟩
    rw [wanted_one]
    exact ⟨hret, hdone.rmi_accepted hret rfl⟩
  · right
    have hstarved : Starved l targetPa srcPa ram 1 (l ++ seg) := ⟨seg, rfl, hserved⟩
    exact hstarved.extend

/-- **The first page is on its way**: its granule delegated, its tables as they were. -/
theorem Stopped.grownTo (hspec : SpecRmm env rd start width ram) (hl : LegalTrace (trace l))
    (hin : Mappable (replay (trace l)) rd start width ram targetPa ipa srcPa 1) {s : MapState}
    (hs : Stopped (replay (trace l)) l rd targetPa ipa srcPa start s) :
    GrownTo l rd targetPa ipa srcPa ram start 1 (walkLevel (replay (trace l)) rd start ipa 3)
      (walkLevel (replay (trace l)) rd start ipa 3) s.log := by
  obtain ⟨seg, hlog, hcreates⟩ := hs.log
  refine ⟨seg, hlog, hcreates, fun _ => ?_⟩
  obtain ⟨hram, htalign, hfresh⟩ := hin.target 0 Nat.zero_lt_one
  have hdel := hspec.delegate l _ hram htalign hfresh
  have htable : ∀ k, hasTable ((replay (trace l)).apply (.granuleDelegate targetPa)) rd k ipa
      = hasTable (replay (trace l)) rd k ipa :=
    fun k => hasTable_apply (fun _ => rfl) (by simp [Cmd.makes])
  have hreach : Reaches (replay (trace l)) rd start ipa _ := reaches_walkLevel hin.start_le
  have hgranted := (hin.ready hl.wf).granted Nat.zero_lt_one
    ((hin.source 0 Nat.zero_lt_one).2.2 0 Nat.zero_lt_one)
  have hrooted := hin.rooted 0 Nat.zero_lt_one
  have hempty := hin.unassigned 0 Nat.zero_lt_one
  simp only [pageOf_zero] at hgranted hrooted hempty hdel
  rw [hs.rmm, pageOf_zero, pageOf_zero]
  refine ⟨hl.wf.apply (hspec.legal _ _ hdel), hgranted, ⟨hreach.1, fun k hk => ?_⟩, ?_, ?_⟩
  · rw [htable]
    exact hreach.2 k hk
  · intro k hk hk3
    rw [htable]
    exact hrooted.hasTable_below hin.start_le hk hk3
  · rw [assigned_apply (fun _ => rfl) (by simp [Cmd.makes])]
    exact hempty

/-- A single page is mapped, unless the heap has failed. -/
def MappedOne (l : Log) (rd targetPa ipa srcPa : UInt64) (ram : UInt64 → Prop) (L : Log) : Prop :=
  Created l (wanted rd targetPa ipa srcPa 1) L ∨ Starved l targetPa srcPa ram 1 L

/-- **The retry of a single page** ends with the page mapped, or with a heap that has failed. -/
theorem afterMissing_maps (hspec : SpecRmm env rd start width ram) (hl : LegalTrace (trace l))
    (hin : Mappable (replay (trace l)) rd start width ram targetPa ipa srcPa 1)
    (hipa : 4096 ∣ ipa.toNat) (hw : walkLevel (replay (trace l)) rd start ipa 3 < 3)
    (hreadable : Readable (replay (trace l)) rd start ipa) {s : MapState}
    (hs : Stopped (replay (trace l)) l rd targetPa ipa srcPa start s) :
    Code.Exit (fun s => MappedOne l rd targetPa ipa srcPa ram s.log)
      (fun e s => e = .error ∧ s.size = 0 ∧ Starved l targetPa srcPa ram 1 s.log)
      (afterMissing env rd 3 s) := by
  have hinside : ipa.toNat < 2 ^ (width - 1) := by
    have h := hin.inside
    omega
  have hpow : (2 : ℕ) ^ (width - 1) ≤ 2 ^ width := Nat.pow_le_pow_right (by omega) (by omega)
  have hsrc : 4096 ∣ srcPa.toNat := by simpa using (hin.source 0 Nat.zero_lt_one).1
  have hgrown := hs.grownTo hspec hl hin
  generalize hwdef : walkLevel (replay (trace l)) rd start ipa 3 = w at *
  have htri : Code.Triple
      (fun s => AtFirst targetPa ipa srcPa s ∧ s.walkLevel = UInt64.ofNat w ∧
        s.state = rmiUnassigned ∧ GrownTo l rd targetPa ipa srcPa ram start 1 w w s.log)
      (afterMissing env rd 3) (fun s => MappedOne l rd targetPa ipa srcPa ram s.log)
      fun e s => e = .error ∧ s.size = 0 ∧ Starved l targetPa srcPa ram 1 s.log := by
    refine Code.Triple.cons (R := fun s => s.size = 0 ∧
      (s.ret = 0 ∧ Created l (wanted rd targetPa ipa srcPa 1) s.log ∨
        Starved l targetPa srcPa ram 1 s.log)) ?_ (Code.Triple.cons
      (R := fun s => MappedOne l rd targetPa ipa srcPa ram s.log) ?_
      (Code.Triple.cons (Code.triple_act ?_) Code.triple_nil))
    · refine Code.Triple.cons (Code.Triple.guarded ?_ ?_) Code.triple_nil
      · refine Code.Triple.cons ((createMissing_grows hspec hw (by omega)).conseq
          (fun s h => ⟨h.1.1, h.1.2.1, h.1.2.2.2⟩) (fun _ h => h) fun _ _ h => h)
          (Code.Triple.cons (Code.triple_act ?_) Code.triple_nil)
        rintro s ⟨⟨hphys, hsipa, hssrc, hsize⟩, hlog⟩
        refine ⟨hsize, ?_⟩
        have hcmd : dataCreateCmd rd s
            = .dataCreate rd targetPa ipa srcPa rmiNoMeasureContent := by
          rw [dataCreateCmd, hphys, hsipa, hssrc]
        rw [hcmd]
        exact dataCreate_grown hspec hin.start_le hipa hinside hsrc hlog
      · intro s h hno
        rw [h.2.2.1] at hno
        exact absurd hno (by decide)
    · refine (Code.triple_jump ?_).guarded ?_
      · rintro s ⟨⟨hsize, hlog⟩, hret⟩
        refine ⟨rfl, hsize, hlog.resolve_left fun h => ?_⟩
        rw [h.1] at hret
        exact absurd hret (by decide)
      · exact fun s h _ => h.2.imp And.right id
    · intro s h
      rw [MapState.advance_log]
      exact h
  refine htri s ⟨hs.first, ?_, ?_, hgrown⟩
  · rw [hs.level, hreadable.1, hwdef]
  · rw [hs.entry]
    exact hreadable.2

/-- How a call ends once its loop has. -/
def finish (env : Env) (rd : UInt64) : Option MapExit × MapState → Bool × Log
  | (none, s) => (true, s.log)
  | (some .ret, s) => (false, s.log)
  | (some .error, s) => (false, (rollback env rd s).2.log)

theorem map_eq_finish {rttMapSize level : UInt64} (hlevel : mapLevel rttMapSize = some level)
    (halign : addrIsAligned ipa rttMapSize = true) :
    valHostMapProtectedData env rd targetPa ipa rttMapSize srcPa l
      = finish env rd (Code.whileLoop (fun s => s.size < rttMapSize)
          (mapPage env rd (dataCreateCmd rd) level) (rttMapSize / pageSize).toNat
          ⟨targetPa, ipa, srcPa, 0, 0, 0, 0, l⟩) := by
  unfold valHostMapProtectedData mapProtected
  rw [halign, hlevel]
  rfl

/-- A single page is one round. -/
theorem map_one_page (halign : addrIsAligned ipa pageSize = true) :
    valHostMapProtectedData env rd targetPa ipa pageSize srcPa l
      = finish env rd (mapPage env rd (dataCreateCmd rd) 3
          ⟨targetPa, ipa, srcPa, 0, 0, 0, 0, l⟩) := by
  rw [map_eq_finish (by decide : mapLevel pageSize = some 3) halign]
  have hrounds : (pageSize / pageSize).toNat = 1 := by decide
  rw [hrounds]
  match hr : mapPage env rd (dataCreateCmd rd) 3 ⟨targetPa, ipa, srcPa, 0, 0, 0, 0, l⟩ with
  | (none, s) => simp [Code.whileLoop, Code.guarded, Code.seq, hr, Code.skip, pageSize]
  | (some e, s) => simp [Code.whileLoop, Code.guarded, Code.seq, hr, pageSize]

/-- Before the second page there is nothing to take back. -/
theorem rollback_zero {s : MapState} (h : s.size = 0) : rollback env rd s = (none, s) := by
  unfold rollback
  rw [h]
  rfl

/-- **A single page is mapped**, where its tables are missing and the retry reads the right
entry. -/
theorem map_of_readable (hspec : SpecRmm env rd start width ram) (hl : LegalTrace (trace l))
    (hin : Mappable (replay (trace l)) rd start width ram targetPa ipa srcPa 1)
    (halign : addrIsAligned ipa pageSize = true) (hipa : 4096 ∣ ipa.toNat)
    (hw : walkLevel (replay (trace l)) rd start ipa 3 < 3)
    (hreadable : Readable (replay (trace l)) rd start ipa)
    (hserved : ServedWell ram targetPa srcPa 1 l
      (own l (valHostMapProtectedData env rd targetPa ipa pageSize srcPa l).2)) :
    (valHostMapProtectedData env rd targetPa ipa pageSize srcPa l).1 = true ∧
      Created l (wanted rd targetPa ipa srcPa 1)
        (valHostMapProtectedData env rd targetPa ipa pageSize srcPa l).2 := by
  obtain ⟨s, hpage, hs⟩ := first_page_stops hspec hl hin Nat.zero_lt_one hipa hw 3
  have hexit := afterMissing_maps hspec hl hin hipa hw hreadable hs
  rw [map_one_page halign, hpage] at hserved ⊢
  have hfed : ∀ L, ServedWell ram targetPa srcPa 1 l (own l L) →
      ¬ Starved l targetPa srcPa ram 1 L := by
    rintro L hserved ⟨seg, rfl, hno⟩
    rw [own_append] at hserved
    exact hno hserved
  match hr : afterMissing env rd 3 s with
  | (none, s') =>
    rw [hr] at hexit hserved
    exact ⟨rfl, hexit.resolve_right (hfed _ hserved)⟩
  | (some e, s') =>
    rw [hr] at hexit hserved
    obtain ⟨rfl, hsize, hstarved⟩ := hexit
    rw [finish, rollback_zero hsize] at hserved
    exact absurd hstarved (hfed _ hserved)

/-! ## 6. Two megabytes without a table -/

/-- There is no level 3 table for the IPA, and no DATA_CREATE for it has succeeded since `l`. -/
def Bare (l : Log) (rd ipa : UInt64) (L : Log) : Prop :=
  ∃ seg, L = l ++ seg ∧ hasTable (replay (trace L)) rd 3 ipa = false ∧
    ∀ data src flags, .dataCreate rd data ipa src flags ∉ dataCreates seg

/-- Only RTT_CREATE makes a table. -/
theorem rttCreate_of_makes {c : Cmd} {o : Obj} {base level : UInt64} (hm : c.makes = some o)
    (ho : isTable rd base level o = true) : ∃ rtt, c = .rttCreate rd rtt base level := by
  cases o with
  | rtt rd' base' level' rtt =>
    simp only [isTable, Bool.and_eq_true, beq_iff_eq] at ho
    obtain ⟨⟨rfl, rfl⟩, rfl⟩ := ho
    cases c <;> simp [Cmd.makes] at hm
    obtain ⟨rfl, rfl, rfl, rfl⟩ := hm
    exact ⟨_, rfl⟩
  | _ => exact absurd ho (by simp [isTable])

theorem Bare.append {L : Log} (h : Bare l rd ipa L) {e : Event} (he : e.command = none) :
    Bare l rd ipa (L ++ [e]) := by
  obtain ⟨seg, rfl, htable, hnone⟩ := h
  refine ⟨seg ++ [e], by simp, ?_, ?_⟩
  · rw [List.append_assoc, replay_append_other l seg he]
    exact htable
  · rw [dataCreates_other seg he]
    exact hnone

/-- **Without the table no DATA_CREATE succeeds**, and no other command makes the table. -/
theorem Bare.rmi (hspec : SpecRmm env rd start width ram) (hstart : start < 3) {L : Log}
    (h : Bare l rd ipa L) {c : Cmd} (hc : ∀ rtt base, c ≠ .rttCreate rd rtt base 3) :
    Bare l rd ipa (env.rmi c L).2 := by
  obtain ⟨seg, rfl, htable, hnone⟩ := h
  refine ⟨seg ++ [.smc (.rmi c) (env.smc (l ++ seg) (.rmi c))], by simp [Env.rmi, Env.call], ?_, ?_⟩
  · rw [replay_rmi_call]
    split
    · rw [hasTable, List.any_eq_false] at htable ⊢
      intro o ho hmade
      rcases RmmState.mem_apply_objs.mp ho with ⟨ho, -⟩ | ho
      · exact htable o ho hmade
      · obtain ⟨rtt, rfl⟩ := rttCreate_of_makes ho hmade
        exact hc rtt _ rfl
    · exact htable
  · intro data src flags hmem
    rw [dataCreates_rmi] at hmem
    split at hmem
    · rename_i h0
      rcases List.mem_append.mp hmem with hmem | hmem
      · exact hnone data src flags hmem
      · obtain rfl := List.mem_singleton.mp hmem
        have hwalk := hspec.dataCreate_table _ _ _ _ _ h0.1
        have hreach := (walkLevel_eq_iff hstart.le).mp hwalk
        have hthere := hreach.2 3 (Finset.mem_Ioc.mpr ⟨hstart, le_refl 3⟩)
        rw [htable] at hthere
        exact absurd hthere (by decide)
    · exact hnone data src flags hmem

theorem createRttLevel_bare (hspec : SpecRmm env rd start width ram) (hstart : start < 3)
    (rttIpa rttAlignment : UInt64) {level : UInt64} (hlevel : level ≠ 3) :
    Code.Triple (Bare l rd ipa) (createRttLevel env rd rttIpa rttAlignment level) (Bare l rd ipa)
      fun _ => Bare l rd ipa := by
  intro L hL
  unfold createRttLevel
  dsimp only
  have h₁ : Bare l rd ipa (env.malloc rttAlignment pageSize L).2 := hL.append rfl
  split
  · exact h₁
  · have h₂ := h₁.rmi hspec hstart
      (c := .granuleDelegate (env.malloc rttAlignment pageSize L).1) (by simp)
    split
    · exact h₂
    · have h₃ := h₂.rmi hspec hstart (c := .rttCreate rd (env.malloc rttAlignment pageSize L).1
        (addrAlignDown rttIpa (valHostRttLevelMapsize (level - 1))) level) (by simp [hlevel])
      split
      · exact h₃.rmi hspec hstart (by simp)
      · exact h₃

theorem valHostCreateRttLevels_bare (hspec : SpecRmm env rd start width ram) (hstart : start < 3)
    (rttIpa rttLevel rttAlignment : UInt64) :
    Code.Triple (Bare l rd ipa) (valHostCreateRttLevels env rd rttIpa rttLevel 2 rttAlignment)
      (Bare l rd ipa) fun _ => Bare l rd ipa := by
  intro L hL
  unfold valHostCreateRttLevels
  split
  · exact hL
  · rename_i hle
    refine Code.triple_loop (I := fun _ => Bare l rd ipa) (fun i hi => ?_) L hL
    refine createRttLevel_bare hspec hstart rttIpa rttAlignment fun h3 => ?_
    have hle' : rttLevel.toNat ≤ 2 := by
      simpa [UInt64.lt_iff_toNat_lt] using hle
    have hsub : (2 - rttLevel).toNat = 2 - rttLevel.toNat :=
      UInt64.toNat_sub_of_le _ _ (UInt64.le_iff_toNat_le.mpr hle')
    rw [hsub] at hi
    have hsum := congrArg UInt64.toNat h3
    simp only [UInt64.toNat_add, UInt64.toNat_ofNat', UInt64.toNat_ofNat] at hsum
    omega

theorem createMissing_bare (hspec : SpecRmm env rd start width ram) (hstart : start < 3) :
    Code.Triple (fun s => Bare l rd ipa s.log) (createMissing env rd 2)
      (fun s => Bare l rd ipa s.log) fun _ s => Bare l rd ipa s.log := by
  intro s hs
  have hexit := valHostCreateRttLevels_bare hspec hstart s.ipa s.walkLevel.toUInt32.toUInt64 pageSize
    s.log hs
  unfold createMissing
  match hr : valHostCreateRttLevels env rd s.ipa s.walkLevel.toUInt32.toUInt64 2 pageSize s.log with
  | (none, l') =>
    rw [hr] at hexit
    exact hexit
  | (some (), l') =>
    rw [hr] at hexit
    exact hexit

/-- **Neither a page of two megabytes** nor its retry gets anywhere. -/
theorem mapPage_bare (hspec : SpecRmm env rd start width ram) (hstart : start < 3) :
    Code.Triple (fun s => Bare l rd ipa s.log) (mapPage env rd (dataCreateCmd rd) 2)
      (fun s => Bare l rd ipa s.log) fun _ s => Bare l rd ipa s.log := by
  have hcreate : Code.Triple (fun s : MapState => Bare l rd ipa s.log)
      (Code.act fun s => s.rmi env (dataCreateCmd rd s)) (fun s => Bare l rd ipa s.log)
      fun (_ : MapExit) s => Bare l rd ipa s.log :=
    Code.triple_act fun s hs => hs.rmi hspec hstart (by simp [dataCreateCmd])
  have hretry : Code.Triple (fun s => Bare l rd ipa s.log) (retry env rd (dataCreateCmd rd) 2)
      (fun s => Bare l rd ipa s.log) fun _ s => Bare l rd ipa s.log := by
    refine Code.Triple.cons (R := fun s => Bare l rd ipa s.log) (Code.triple_act ?_)
      ((exitOnError_triple .ret).cons (Code.Triple.cons ?_ Code.triple_nil))
    · exact fun s hs => hs.append rfl
    · refine Code.Triple.guarded ?_ fun s hs _ => hs
      exact ((createMissing_bare hspec hstart).conseq (fun _ h => h.1) (fun _ h => h)
        fun _ _ h => h).cons (hcreate.cons Code.triple_nil)
  refine Code.Triple.cons (R := fun s => Bare l rd ipa s.log) (Code.triple_act ?_)
    ((exitOnError_triple .ret).cons (hcreate.cons (Code.Triple.cons ?_
      ((exitOnError_triple .error).cons (Code.Triple.cons (Code.triple_act ?_) Code.triple_nil)))))
  · exact fun s hs => hs.rmi hspec hstart (by simp)
  · exact (hretry.conseq (fun _ h => h.1) (fun _ h => h) fun _ _ h => h).guarded fun _ h _ => h
  · intro s hs
    rw [MapState.advance_log]
    exact hs

theorem rollback_bare (hspec : SpecRmm env rd start width ram) (hstart : start < 3) {s : MapState}
    (hs : Bare l rd ipa s.log) : Bare l rd ipa (rollback env rd s).2.log := by
  have hbody : Code.Triple (fun s => Bare l rd ipa s.log) (unmapPage env rd)
      (fun s => Bare l rd ipa s.log) fun _ _ => False := by
    refine Code.triple_act fun s hs => ?_
    rw [MapState.retreat_log]
    exact (hs.rmi hspec hstart (c := .dataDestroy rd s.ipa) (by simp)).rmi hspec hstart
      (c := .granuleUndelegate s.phys) (by simp)
  exact (Code.triple_whileLoop_inv hbody _ s hs).falls

/-- **Two megabytes where the level 3 table is missing**: the first page is never mapped. -/
theorem map_of_bare (hspec : SpecRmm env rd start width ram) (hstart : start < 3)
    (halign : addrIsAligned ipa valRttL2BlockSize = true)
    (hbare : hasTable (replay (trace l)) rd 3 ipa = false) :
    Bare l rd ipa (valHostMapProtectedData env rd targetPa ipa valRttL2BlockSize srcPa l).2 := by
  rw [map_eq_finish (by decide : mapLevel valRttL2BlockSize = some 2) halign]
  have hpage : Code.Triple (fun s => Bare l rd ipa s.log) (mapPage env rd (dataCreateCmd rd) 2)
      (fun s => Bare l rd ipa s.log) fun _ s => Bare l rd ipa s.log := mapPage_bare hspec hstart
  have hloop := Code.triple_whileLoop_inv (b := fun s => s.size < valRttL2BlockSize) hpage
    (valRttL2BlockSize / pageSize).toNat
    ⟨targetPa, ipa, srcPa, 0, 0, 0, 0, l⟩ ⟨[], by simp, hbare, by simp [dataCreates, accepted]⟩
  rcases hr : Code.whileLoop (fun s => s.size < valRttL2BlockSize)
      (mapPage env rd (dataCreateCmd rd) 2) (valRttL2BlockSize / pageSize).toNat
      ⟨targetPa, ipa, srcPa, 0, 0, 0, 0, l⟩ with ⟨_ | _ | _, s⟩
  · rw [hr] at hloop
    exact hloop
  · rw [hr] at hloop
    exact hloop
  · rw [hr] at hloop
    exact rollback_bare hspec hstart hloop

/-! ## 7. A page above 40 bits -/

/-- **The table is already there.** -/
theorem createRttLevel_clashes (henv : env.Legal) {level : ℕ} (hlevel : level < 3) :
    Code.Triple
      (fun L => Created l [] L ∧ hasTable (replay (trace L)) rd (level + 1) ipa = true)
      (createRttLevel env rd ipa pageSize (UInt64.ofNat (level + 1))) (fun _ => False)
      fun _ => Created l [] := by
  rintro L ⟨hL, htable⟩
  unfold createRttLevel
  dsimp only
  rw [ofNat_level_pred, addrAlignDown_eq_entryBase hlevel]
  have h₁ : Created l [] (env.malloc pageSize pageSize L).2 := hL.append rfl
  have hR₁ : replay (trace (env.malloc pageSize pageSize L).2) = replay (trace L) :=
    congrArg replay (trace_append_other L rfl)
  generalize (env.malloc pageSize pageSize L).1 = a
  split
  · exact h₁
  · have h₂ := h₁.rmi_other env (c := .granuleDelegate a) rfl
    split
    · exact h₂
    · rename_i hdel
      have h₃ := h₂.rmi_other env
        (c := .rttCreate rd a (entryBase level ipa) (UInt64.ofNat (level + 1))) rfl
      split
      · exact h₃.rmi_other env (c := .granuleUndelegate a) rfl
      · rename_i hcreate
        obtain ⟨-, -, hfree⟩ := henv _ _ (not_not.mp hcreate)
        have hR₂ := replay_rmi_call env (.granuleDelegate a) (env.malloc pageSize pageSize L).2
        rw [if_pos (not_not.mp hdel), hR₁] at hR₂
        rw [hasTable, List.any_eq_true] at htable
        obtain ⟨o, ho, hmade⟩ := htable
        rw [hR₂, RmmState.apply_objs_of_idle rfl fun _ => rfl] at hfree
        have hclash := hfree o ho
        rw [clash_rtt] at hclash
        exact absurd (hmade.symm.trans hclash) (by decide)

theorem valHostCreateRttLevels_clashes (henv : env.Legal) {level : ℕ} (hlevel : level < 3) {L : Log}
    (hL : Created l [] L) (htable : hasTable (replay (trace L)) rd (level + 1) ipa = true) :
    Code.Exit (fun _ => False) (fun _ => Created l [])
      (valHostCreateRttLevels env rd ipa (UInt64.ofNat level) 3 pageSize L) := by
  -- the first round is the last
  refine (valHostCreateRttLevels_triple (le_of_lt hlevel) (I := fun k L => k = level ∧ Created l [] L ∧
    hasTable (replay (trace L)) rd (level + 1) ipa = true) (fun k _ _ => ?_) L ⟨rfl, hL, htable⟩).mono
    (fun _ h => by omega) fun _ _ h => h
  rintro L ⟨rfl, hL⟩
  exact (createRttLevel_clashes henv hlevel L hL).mono (fun _ h => False.elim h) fun _ _ h => h

/-- **The retry that read another entry** maps nothing. -/
theorem afterMissing_misread (henv : env.Legal)
    (hstart : start ≤ 3) (hw : walkLevel (replay (trace l)) rd start ipa 3 < 3)
    (hno : ¬ Readable (replay (trace l)) rd start ipa) {s : MapState}
    (hs : Stopped (replay (trace l)) l rd targetPa ipa srcPa start s) :
    Code.Exit (fun s => Created l [] s.log) (fun _ s => s.size = 0 ∧ Created l [] s.log)
      (afterMissing env rd 3 s) := by
  by_cases hstate : s.state = rmiUnassigned
  · -- an entry further up: its table is there, and cannot be created again
    have hreach : Reaches (replay (trace l)) rd start ipa _ := reaches_walkLevel hstart
    have hlow : start ≤ readLevel (replay (trace l)) rd start ipa := (reaches_walkLevel hreach.1).1
    have hle : readLevel (replay (trace l)) rd start ipa
        ≤ walkLevel (replay (trace l)) rd start ipa 3 := walkLevel_le
    have hne : readLevel (replay (trace l)) rd start ipa
        ≠ walkLevel (replay (trace l)) rd start ipa 3 :=
      fun heq => hno ⟨heq, hs.entry ▸ hstate⟩
    have htable : hasTable (replay (trace s.log)) rd
        (readLevel (replay (trace l)) rd start ipa + 1) ipa = true := by
      rw [hs.rmm, hasTable_apply (fun _ => rfl) (by simp [Cmd.makes])]
      exact hreach.2 _ (Finset.mem_Ioc.mpr ⟨by omega, by omega⟩)
    have hcut : (UInt64.ofNat (readLevel (replay (trace l)) rd start ipa)).toUInt32.toUInt64
        = UInt64.ofNat (readLevel (replay (trace l)) rd start ipa) := by
      have hlt : readLevel (replay (trace l)) rd start ipa < 3 := by omega
      generalize readLevel (replay (trace l)) rd start ipa = k at hlt
      interval_cases k <;> decide
    have hexit := valHostCreateRttLevels_clashes henv (by omega) hs.log htable
    rw [← hcut, ← hs.level, ← hs.first.2.1] at hexit
    rcases hr : valHostCreateRttLevels env rd s.ipa s.walkLevel.toUInt32.toUInt64 3 pageSize s.log
      with ⟨_ | _, l'⟩
    · rw [hr] at hexit
      exact False.elim hexit
    · rw [hr] at hexit
      simp only [afterMissing, Code.block, Code.seq, Code.guarded, createMissing, hr, hstate,
        beq_self_eq_true, if_true]
      exact ⟨hs.first.2.2.2, hexit⟩
  · -- an entry in use: the status of reading it passes for that of the DATA_CREATE
    have hskip : afterMissing env rd 3 s = (none, s.advance) := by
      simp [afterMissing, Code.block, Code.seq, Code.guarded, Code.skip, exitOnError, Code.act,
        hstate, hs.ret]
    rw [hskip]
    change Created l [] s.advance.log
    rw [MapState.advance_log]
    exact hs.log

/-- **A single page above 40 bits** of which the retry reads another entry is not mapped. -/
theorem map_of_misread (hspec : SpecRmm env rd start width ram) (hl : LegalTrace (trace l))
    (hin : Mappable (replay (trace l)) rd start width ram targetPa ipa srcPa 1)
    (halign : addrIsAligned ipa pageSize = true) (hipa : 4096 ∣ ipa.toNat)
    (hw : walkLevel (replay (trace l)) rd start ipa 3 < 3)
    (hno : ¬ Readable (replay (trace l)) rd start ipa) :
    Created l [] (valHostMapProtectedData env rd targetPa ipa pageSize srcPa l).2 := by
  obtain ⟨s, hpage, hs⟩ := first_page_stops hspec hl hin Nat.zero_lt_one hipa hw 3
  have hexit := afterMissing_misread hspec.legal hin.start_le hw hno hs
  rw [map_one_page halign, hpage]
  match hr : afterMissing env rd 3 s with
  | (none, s') =>
    rw [hr] at hexit
    exact hexit
  | (some .ret, s') =>
    rw [hr] at hexit
    exact hexit.2
  | (some .error, s') =>
    rw [hr] at hexit
    rw [finish, rollback_zero hexit.1]
    exact hexit.2

/-! ## 8. When a mapping succeeds -/

theorem addrIsAligned_iff {a b : UInt64} {k : ℕ} (hb : b.toNat = 2 ^ k) :
    addrIsAligned a b = true ↔ 2 ^ k ∣ a.toNat := by
  have hpred : (b - 1).toNat = 2 ^ k - 1 := by
    rw [toNat_pred hb, hb]
  have hmod : (a &&& (b - 1)).toNat = a.toNat % 2 ^ k := by
    rw [UInt64.toNat_and, hpred]
    exact Nat.and_two_pow_sub_one_eq_mod a.toNat k
  rw [addrIsAligned, beq_iff_eq, ← UInt64.toNat_inj, hmod]
  exact Nat.dvd_iff_mod_eq_zero.symm

/-- The pages of an aligned block of two megabytes share their level 3 table. -/
theorem hasTable_pageOf {R : RmmState} (hipa : 2 ^ 21 ∣ ipa.toNat) {j k : ℕ} (hj : j < 512)
    (hinside : ipa.toNat + 4096 * 512 < 2 ^ 64) (hk : k ≤ 3) :
    hasTable R rd k (pageOf ipa j) = hasTable R rd k ipa := by
  have hblock : entryBase 2 (pageOf ipa j) = ipa := by
    refine UInt64.toNat_inj.mp ?_
    rw [toNat_entryBase, toNat_pageOf (by omega) (by omega)]
    have hshift : entryShift 2 = 21 := rfl
    rw [hshift]
    omega
  rw [hasTable, hasTable]
  have hbase : entryBase (k - 1) (pageOf ipa j) = entryBase (k - 1) ipa := by
    rw [← entryBase_entryBase (by omega : k - 1 ≤ 2) (pageOf ipa j), hblock]
  rw [hbase]

theorem Created.own {done : List Cmd} {L : Log} (h : Created l done L) :
    dataCreates (Realm.own l L) = done := by
  obtain ⟨seg, rfl, hdone⟩ := h
  rw [own_append, hdone]

/-- Without a DATA_CREATE for the first page, not all pages are mapped. -/
theorem wanted_ne {done : List Cmd} (hn : 0 < n)
    (h : ∀ data src flags, .dataCreate rd data ipa src flags ∉ done) :
    done ≠ wanted rd targetPa ipa srcPa n := by
  rintro rfl
  refine h targetPa srcPa rmiNoMeasureContent ?_
  exact List.mem_map.mpr ⟨0, List.mem_range.mpr hn, by simp⟩

/-- A single page: its table is there, or the retry finds where the walk stopped. -/
theorem map_page_iff (hspec : SpecRmm env rd start width ram) (hl : LegalTrace (trace l))
    (hin : Mappable (replay (trace l)) rd start width ram targetPa ipa srcPa
      (pageSize / pageSize).toNat)
    (halign : addrIsAligned ipa pageSize = true)
    (hserved : ServedWell ram targetPa srcPa (pageSize / pageSize).toNat l
      (own l (valHostMapProtectedData env rd targetPa ipa pageSize srcPa l).2)) :
    ((valHostMapProtectedData env rd targetPa ipa pageSize srcPa l).1 = true ∧
        dataCreates (own l (valHostMapProtectedData env rd targetPa ipa pageSize srcPa l).2)
          = wanted rd targetPa ipa srcPa (pageSize / pageSize).toNat) ↔
      walkLevel (replay (trace l)) rd start ipa 3 = 3 ∨
        ipa.toNat < 2 ^ 40 ∨ Readable (replay (trace l)) rd start ipa := by
  have hwle : walkLevel (replay (trace l)) rd start ipa 3 ≤ 3 := walkLevel_le
  have hipa : 4096 ∣ ipa.toNat := (addrIsAligned_iff (k := 12) (by decide)).mp halign
  by_cases hw : walkLevel (replay (trace l)) rd start ipa 3 = 3
  · have htables : ∀ j < (pageSize / pageSize).toNat,
        walkLevel (replay (trace l)) rd start (pageOf ipa j) 3 = 3 := by
      intro j hj
      obtain rfl : j = 0 := Nat.lt_one_iff.mp hj
      rwa [pageOf_zero]
    obtain ⟨hret, hlog⟩ := map_of_tables hspec hl (Or.inl rfl) hin halign hipa htables
    exact iff_of_true ⟨hret, hlog.own⟩ (Or.inl hw)
  · have hempty : assigned (replay (trace l)) rd _ (pageOf ipa 0) = false :=
      hin.unassigned 0 (by decide)
    rw [pageOf_zero] at hempty
    have hiff : (ipa.toNat < 2 ^ 40 ∨ Readable (replay (trace l)) rd start ipa) ↔
        Readable (replay (trace l)) rd start ipa :=
      or_iff_right_of_imp (readable_of_lt hin.start_le (by omega) hempty)
    rw [hiff]
    by_cases hreadable : Readable (replay (trace l)) rd start ipa
    · obtain ⟨hret, hlog⟩ :=
        map_of_readable hspec hl hin halign hipa (by omega) hreadable hserved
      exact iff_of_true ⟨hret, hlog.own⟩ (Or.inr hreadable)
    · have hlog := map_of_misread hspec hl hin halign hipa (by omega) hreadable
      refine iff_of_false (fun h => ?_) (by simp [hw, hreadable])
      exact wanted_ne (by decide) (by simp) (hlog.own.symm.trans h.2)

/-- Two megabytes: the level 3 table of the range is there, and no retry helps. -/
theorem map_two_megabytes_iff (hspec : SpecRmm env rd start width ram) (hl : LegalTrace (trace l))
    (hin : Mappable (replay (trace l)) rd start width ram targetPa ipa srcPa
      (valRttL2BlockSize / pageSize).toNat)
    (halign : addrIsAligned ipa valRttL2BlockSize = true) :
    ((valHostMapProtectedData env rd targetPa ipa valRttL2BlockSize srcPa l).1 = true ∧
        dataCreates (own l
          (valHostMapProtectedData env rd targetPa ipa valRttL2BlockSize srcPa l).2)
          = wanted rd targetPa ipa srcPa (valRttL2BlockSize / pageSize).toNat) ↔
      walkLevel (replay (trace l)) rd start ipa 3 = 3 := by
  have hwle : walkLevel (replay (trace l)) rd start ipa 3 ≤ 3 := walkLevel_le
  have hipa : 2 ^ 21 ∣ ipa.toNat := (addrIsAligned_iff (k := 21) (by decide)).mp halign
  have hpages : (valRttL2BlockSize / pageSize).toNat = 512 := by decide
  by_cases hw : walkLevel (replay (trace l)) rd start ipa 3 = 3
  · have htables : ∀ j < (valRttL2BlockSize / pageSize).toNat,
        walkLevel (replay (trace l)) rd start (pageOf ipa j) 3 = 3 := by
      intro j hj
      have hinside := hin.inside
      rw [hpages] at hj hinside
      have hpow : (2 : ℕ) ^ (width - 1) ≤ 2 ^ 63 :=
        Nat.pow_le_pow_right (by omega) (by have := hin.width_le; omega)
      rw [walkLevel_congr fun k _ hk => hasTable_pageOf hipa hj (by omega) hk]
      exact hw
    obtain ⟨hret, hlog⟩ := map_of_tables hspec hl (Or.inr rfl) hin halign
      (dvd_trans (by decide) hipa) htables
    exact iff_of_true ⟨hret, hlog.own⟩ hw
  · have hreach : Reaches (replay (trace l)) rd start ipa _ := reaches_walkLevel hin.start_le
    have hstart : start < 3 := lt_of_le_of_lt hreach.1 (by omega)
    have hrooted := hin.rooted 0 (by decide)
    rw [pageOf_zero] at hrooted
    have hbare := hrooted.hasTable_below hin.start_le (k := 3) (by omega) (le_refl 3)
    obtain ⟨seg, hlog, -, hnone⟩ : Bare l rd ipa
        (valHostMapProtectedData env rd targetPa ipa valRttL2BlockSize srcPa l).2 :=
      map_of_bare hspec hstart halign hbare
    refine iff_of_false (fun h => ?_) hw
    rw [hlog, own_append] at h
    exact wanted_ne (by decide) hnone h.2

/-- **When a protected mapping succeeds.**  Of an RMM that follows its specification, with
everything there that a mapping needs, a call returns `VAL_SUCCESS` having made exactly the data
granules of its pages if and only if the IPA is aligned and either the level 3 table of the range is
already there, or the range is a SINGLE page and the retry reads the entry where the walk stopped
-- as it does for every IPA of 40 bits. -/
theorem map_protected_data_succeeds (hspec : SpecRmm env rd start width ram)
    (hl : LegalTrace (trace l)) {rttMapSize : UInt64}
    (hsize : rttMapSize = pageSize ∨ rttMapSize = valRttL2BlockSize)
    (hin : Mappable (replay (trace l)) rd start width ram targetPa ipa srcPa
      (rttMapSize / pageSize).toNat)
    (hserved : ServedWell ram targetPa srcPa (rttMapSize / pageSize).toNat l
      (own l (valHostMapProtectedData env rd targetPa ipa rttMapSize srcPa l).2)) :
    ((valHostMapProtectedData env rd targetPa ipa rttMapSize srcPa l).1 = true ∧
        dataCreates (own l (valHostMapProtectedData env rd targetPa ipa rttMapSize srcPa l).2)
          = wanted rd targetPa ipa srcPa (rttMapSize / pageSize).toNat) ↔
      addrIsAligned ipa rttMapSize = true ∧
        (walkLevel (replay (trace l)) rd start ipa 3 = 3 ∨
          rttMapSize = pageSize ∧
            (ipa.toNat < 2 ^ 40 ∨ Readable (replay (trace l)) rd start ipa)) := by
  by_cases halign : addrIsAligned ipa rttMapSize = true
  · rw [and_iff_right halign]
    rcases hsize with rfl | rfl
    · rw [map_page_iff hspec hl hin halign hserved, and_iff_right rfl]
    · have hne : valRttL2BlockSize ≠ pageSize := by decide
      rw [map_two_megabytes_iff hspec hl hin halign, or_iff_left fun h => hne h.1]
  · refine iff_of_false (fun h => ?_) fun h => halign h.1
    unfold valHostMapProtectedData mapProtected at h
    rw [Bool.not_eq_true] at halign
    simp [halign] at h

end Missing

/-! ## 9. One realm with no tables below its starting level -/

theorem oneRealm_replay : replay (trace oneRealm) = ⟨[0x88500000], [.realm 0x88500000]⟩ := by
  decide +kernel

theorem oneRealm_legal : LegalTrace (trace oneRealm) := by
  have hdel : LegalTrace [(.granuleDelegate 0x88500000, ⟨0, 0, 0⟩)] :=
    legalTrace_snoc.mpr ⟨legalTrace_nil, fun _ => by decide +kernel⟩
  exact legalTrace_snoc.mpr ⟨hdel, fun _ => by decide +kernel⟩

/-- The realm has a starting level of 1 and 40 bits of IPA; anything up to two megabytes can be
mapped at 4MB. -/
theorem oneRealm_mappable {n : ℕ} (hn : n ≤ 512) :
    Mappable (replay (trace oneRealm)) 0x88500000 1 40 (fun _ => True) 0x88800000 0x400000
      0x88A00000 n := by
  have htarget : ∀ k < n, (pageOf 0x88800000 k).toNat = 0x88800000 + 4096 * k := fun k hk =>
    toNat_pageOf (by omega) (by have h : (0x88800000 : UInt64).toNat = 0x88800000 := rfl; omega)
  have hsource : ∀ k < n, (pageOf 0x88A00000 k).toNat = 0x88A00000 + 4096 * k := fun k hk =>
    toNat_pageOf (by omega) (by have h : (0x88A00000 : UInt64).toNat = 0x88A00000 := rfl; omega)
  have hrd : (0x88500000 : UInt64).toNat = 0x88500000 := rfl
  have htable : ∀ k x, hasTable ⟨[0x88500000], [.realm 0x88500000]⟩ 0x88500000 k x = false := by
    simp [hasTable, isTable]
  rw [oneRealm_replay]
  refine ⟨by simp, by omega, by omega, ?_, ?_, ?_, ?_, ?_⟩
  · have h : (0x400000 : UInt64).toNat = 0x400000 := rfl
    rw [h]
    omega
  · intro k hk
    refine ⟨trivial, by rw [htarget k hk]; omega, fun hmem => ?_⟩
    have heq := congrArg UInt64.toNat (List.mem_singleton.mp hmem)
    rw [htarget k hk, hrd] at heq
    omega
  · intro k hk
    refine ⟨by rw [hsource k hk]; omega, fun hmem => ?_, fun j hj heq => ?_⟩
    · have heq := congrArg UInt64.toNat (List.mem_singleton.mp hmem)
      rw [hsource k hk, hrd] at heq
      omega
    · have heq' := congrArg UInt64.toNat heq
      rw [hsource k hk, htarget j hj] at heq'
      omega
  · intro k _ j _ _ hno
    rw [htable] at hno
    exact absurd hno (by decide)
  · intro k _
    simp [assigned, isMapped]

/-- An allocation of a log that is as `ServedWell` has it. -/
def fitsAt (targetPa srcPa : UInt64) (n : ℕ) (l seg : Log) (i : ℕ) : Bool :=
  match seg[i]? with
  | some (.alloc _ _ a) =>
    decide (a ≠ 0 ∧ 4096 ∣ a.toNat ∧ a ∉ (replay (trace (l ++ seg.take i))).delegated ∧
      ∀ k < n, a ≠ pageOf targetPa k ∧ a ≠ pageOf srcPa k)
  | _ => true

theorem servedWell_of_fits {targetPa srcPa : UInt64} {n : ℕ} {l seg : Log}
    (h : ∀ i < seg.length, fitsAt targetPa srcPa n l seg i = true) :
    ServedWell (fun _ => True) targetPa srcPa n l seg := by
  rintro pre alignment size a post rfl
  have hfit := h pre.length (by simp)
  have hat : (pre ++ .alloc alignment size a :: post)[pre.length]?
      = some (.alloc alignment size a) := by simp
  rw [fitsAt, hat] at hfit
  obtain ⟨ha0, halign, hfresh, hothers⟩ := of_decide_eq_true hfit
  rw [List.take_left] at hfresh
  exact ⟨ha0, trivial, halign, hfresh, hothers⟩

theorem map_protected_data_succeeds_one_page :
    SpecRmm specEnv 0x88500000 1 40 (fun _ => True) ∧
      (valHostMapProtectedData specEnv 0x88500000 0x88800000 0x400000 pageSize 0x88A00000
        oneRealm).1 = true ∧
      dataCreates (own oneRealm (valHostMapProtectedData specEnv 0x88500000 0x88800000 0x400000
        pageSize 0x88A00000 oneRealm).2) = wanted 0x88500000 0x88800000 0x400000 0x88A00000 1 := by
  have hspec : SpecRmm specEnv 0x88500000 1 40 (fun _ => True) := referenceRmm_spec _ _ _ _
  refine ⟨hspec, (map_protected_data_succeeds hspec oneRealm_legal (Or.inl rfl)
    (oneRealm_mappable (by decide)) (servedWell_of_fits (by decide +kernel))).mpr ?_⟩
  exact ⟨by decide, Or.inr ⟨rfl, Or.inl (by decide)⟩⟩

/-- **Two megabytes cannot be mapped** where the walk stops above level 3, however well everything
else goes. -/
theorem map_two_megabytes_fails :
    SpecRmm specEnv 0x88500000 1 40 (fun _ => True) ∧ LegalTrace (trace oneRealm) ∧
      Mappable (replay (trace oneRealm)) 0x88500000 1 40 (fun _ => True) 0x88800000 0x400000
        0x88A00000 (valRttL2BlockSize / pageSize).toNat ∧
      addrIsAligned 0x400000 valRttL2BlockSize = true ∧
      ServedWell (fun _ => True) 0x88800000 0x88A00000 (valRttL2BlockSize / pageSize).toNat oneRealm
        (own oneRealm (valHostMapProtectedData specEnv 0x88500000 0x88800000 0x400000
          valRttL2BlockSize 0x88A00000 oneRealm).2) ∧
      (valHostMapProtectedData specEnv 0x88500000 0x88800000 0x400000 valRttL2BlockSize 0x88A00000
        oneRealm).1 = false :=
  ⟨referenceRmm_spec _ _ _ _, oneRealm_legal, oneRealm_mappable (by decide), by decide,
    servedWell_of_fits (by decide +kernel), by decide +kernel⟩

end RmmAcs.Realm
