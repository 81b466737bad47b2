/-
# Creating the RECs: `val_host_rec_create`

For each REC the function allocates a run page, allocates and delegates the granule of the REC,
allocates and delegates its auxiliary granules, and creates the REC.  If anything fails it jumps
to `free_rec_params`, where a loop counts the index of the failing REC down to 1 and undelegates
the granules recorded there.

No REC is ever destroyed, and the granules of index 0 are never looked at.  So a call that fails
has given back what it took only if it had taken nothing, that is, if it fails no later than at
the delegation of the first REC (`failed_rec_create_releases`).
-/
import RmmAcs.Realm.Steps

namespace RmmAcs.Realm

open RmmAcs Lib Rmm

/-! ## 1. The function -/

/-- `VAL_MAX_REC_COUNT`. -/
def valMaxRecCount : UInt64 := 8

/-- `VAL_MAX_REC_AUX_GRANULES`. -/
def valMaxRecAuxGranules : UInt64 := 16

/-- `VAL_PLANE0_IMAGE_BASE_IPA`. -/
def valPlane0ImageBaseIpa : UInt64 := 0x400000

/-- The points at which the function can fail; `i` counts RECs, `j` auxiliary granules. -/
inductive RecPoint where
  | recCount
  | auxCount
  | maxAux
  | params
  | run (i : ℕ)
  | recAlloc (i : ℕ)
  | recDelegate (i : ℕ)
  | auxAlloc (i j : ℕ)
  | auxDelegate (i j : ℕ)
  | recCreate (i : ℕ)
deriving DecidableEq, Repr

/-- The variables of the function.  `aux` is the array of the parameter page. -/
structure RecVars where
  realm : HostRealm
  auxCount : UInt64
  recParams : UInt64
  aux : ℕ → UInt64

namespace RecVars

def setRun (i : ℕ) (a : UInt64) (v : RecVars) : RecVars :=
  { v with realm := { v.realm with runPa := Function.update v.realm.runPa i a } }

def setRec (i : ℕ) (a : UInt64) (v : RecVars) : RecVars :=
  { v with realm := { v.realm with recPa := Function.update v.realm.recPa i a } }

def setAux (j : ℕ) (a : UInt64) (v : RecVars) : RecVars :=
  { v with aux := Function.update v.aux j a }

/-- `realm->aux_count = aux_count`. -/
def recordCount (v : RecVars) : RecVars :=
  { v with realm := { v.realm with auxCount := v.auxCount } }

/-- `realm->rec_aux_granules[j + (i * aux_count)] = rec_params->aux[j]`. -/
def recordAux (i j : ℕ) (v : RecVars) : RecVars :=
  { v with
    realm :=
      { v.realm with
        recAuxGranules :=
          Function.update v.realm.recAuxGranules (j + i * v.auxCount.toNat) (v.aux j) } }

/-- The parameter page of REC `i`: only the first is runnable. -/
def params (i : ℕ) (v : RecVars) : RecParams where
  flags := if i = 0 then 1 else 0
  mpidr := UInt64.ofNat i
  pc := valPlane0ImageBaseIpa
  numAux := v.auxCount
  aux := (List.range v.auxCount.toNat).map v.aux

end RecVars

section Functions

variable (env : Env)

/-- `PAGE_SIZE`, as an argument. -/
def page (_ : RecVars) : UInt64 := pageSize

/-- `val_host_rmi_rec_aux_count`; the count is an output also when the command fails. -/
def recAuxCount : Code (Call RecVars) RecPoint := fun s =>
  let (r, l) := env.call (.recAuxCount s.vars.realm.rd) s.log
  (if r.x0 ≠ 0 then some .auxCount else none, ⟨{ s.vars with auxCount := r.x1 }, l⟩)

/-- The body of the inner loop: one auxiliary granule. -/
def createAux (i j : ℕ) : Code (Call RecVars) RecPoint :=
  Code.block
    [allocate env page page (RecVars.setAux j) (.auxAlloc i j),
      command env (fun v => .granuleDelegate (v.aux j)) (.auxDelegate i j),
      assign (RecVars.recordAux i j)]

/-- The body of the loop: one REC. -/
def createRec (i : ℕ) : Code (Call RecVars) RecPoint :=
  Code.block
    [allocate env page page (RecVars.setRun i) (.run i),
      allocate env page page (RecVars.setRec i) (.recAlloc i),
      command env (fun v => .granuleDelegate (v.realm.recPa i)) (.recDelegate i),
      Code.forTo (fun s => s.vars.auxCount.toNat) (createAux env i),
      store fun v => .recParams v.recParams (v.params i),
      command env (fun v => .recCreate v.realm.rd (v.realm.recPa i) v.recParams) (.recCreate i)]

/-- The function down to `free_rec_params`. -/
def recCreateBody : Code (Call RecVars) RecPoint :=
  Code.block
    [Code.guarded (fun s => s.vars.realm.recCount > valMaxRecCount) (Code.jump .recCount),
      recAuxCount env,
      Code.guarded (fun s => s.vars.auxCount > valMaxRecAuxGranules) (Code.jump .maxAux),
      allocate env page page (fun a v => { v with recParams := a }) .params,
      assign RecVars.recordCount,
      Code.forTo (fun s => s.vars.realm.recCount.toNat) (createRec env)]

/-- The body of the cleanup loop. -/
def undelegateRec (i : ℕ) : Code (Call RecVars) RecPoint :=
  Code.block
    [undelegate env fun v => v.realm.recPa i,
      Code.forTo (fun s => s.vars.auxCount.toNat) fun j =>
        undelegate env fun v => v.realm.recAuxGranules (j + i * v.auxCount.toNat)]

/-- `free_rec_params:`.  The loop leaves when the index has come down to 0, by its guard or by the
break at its end. -/
def freeRecParams : ℕ → Code (Call RecVars) RecPoint
  | 0 => Code.skip
  | i + 1 => Code.seq (undelegateRec env (i + 1)) (freeRecParams i)

end Functions

/-- The index at which `free_rec_params` starts, for the points that jump there. -/
def RecPoint.index : RecPoint → Option ℕ
  | .run i => some i
  | .recAlloc i => some i
  | .recDelegate i => some i
  | .auxAlloc i _ => some i
  | .auxDelegate i _ => some i
  | .recCreate i => some i
  | _ => none

/-- The variables on entry. -/
def RecVars.start (realm : HostRealm) : RecVars := ⟨realm, 0, 0, fun _ => 0⟩

/-- The point at which the RMM or the allocator lets a call fail, if they do. -/
def recCreateFailsAt (env : Env) (realm : HostRealm) (l : Log) : Option RecPoint :=
  (recCreateBody env ⟨.start realm, l⟩).1

/-- `val_host_rec_create`; `true` is `VAL_SUCCESS`. -/
def valHostRecCreate (env : Env) (realm : HostRealm) (l : Log) : Bool × HostRealm × Log :=
  match recCreateBody env ⟨.start realm, l⟩ with
  | (none, s) => (true, s.vars.realm, s.log)
  | (some p, s) =>
    match p.index with
    | none => (false, s.vars.realm, s.log)
    | some i =>
      let s := (freeRecParams env i s).2
      (false, s.vars.realm, s.log)

/-! ## 2. What a call has taken at each point -/

/-- Nothing delegated, nothing made, nothing asked back. -/
def Nothing (seg : Log) : Prop := held seg = .init ∧ undelegations seg = []

/-- A granule is held. -/
def HasGranule (seg : Log) : Prop := ∃ a, a ∈ (held seg).delegated

/-- A REC is alive. -/
def HasRec (rd : UInt64) (seg : Log) : Prop := ∃ pa, .recg rd pa ∈ (held seg).objs

/-- What a call has taken when it has gone through `i` RECs. -/
def Taken (rd : UInt64) (i : ℕ) (seg : Log) : Prop := if i = 0 then Nothing seg else HasRec rd seg

/-- What it has taken once the granule of REC `i` is delegated as well. -/
def TakenMore (rd : UInt64) (i : ℕ) (seg : Log) : Prop :=
  if i = 0 then HasGranule seg else HasRec rd seg

section Taken

variable {rd : UInt64} {i : ℕ} {seg : Log}

/-- Events that are no command. -/
theorem Taken.append (h : Taken rd i seg) {e : Event} (he : e.command = none) :
    Taken rd i (seg ++ [e]) := by
  unfold Taken at h ⊢
  split at h
  · rename_i hi
    have hund : e.undelegated = none := by
      cases e with
      | smc c r => cases c <;> first | rfl | exact absurd he (by simp [Event.command])
      | _ => rfl
    rw [if_pos hi]
    refine ⟨by rw [held_append_other seg he]; exact h.1, ?_⟩
    rw [undelegations_append, h.2, List.nil_append, undelegations,
      List.filterMap_cons_none hund, List.filterMap_nil]
  · rename_i hi
    rw [if_neg hi, HasRec, held_append_other seg he]
    exact h

theorem TakenMore.append (h : TakenMore rd i seg) {e : Event} (he : e.command = none) :
    TakenMore rd i (seg ++ [e]) := by
  unfold TakenMore HasGranule HasRec at h ⊢
  rw [held_append_other seg he]
  exact h

/-- The delegation of a granule that the RMM refuses. -/
theorem Taken.refused (h : Taken rd i seg) (a : UInt64) {r : SmcRet} (h0 : r.x0 ≠ 0) :
    Taken rd i (seg ++ [.smc (.rmi (.granuleDelegate a)) r]) := by
  unfold Taken at h ⊢
  split at h
  · rename_i hi
    rw [if_pos hi]
    refine ⟨by rw [held_rmi, if_neg h0]; exact h.1, ?_⟩
    rw [undelegations_append, h.2]
    rfl
  · rename_i hi
    obtain ⟨pa, hpa⟩ := h
    rw [if_neg hi]
    exact ⟨pa, held_objs_rmi hpa rfl r⟩

/-- The delegation of the granule of a REC. -/
theorem Taken.delegate (h : Taken rd i seg) (a : UInt64) {r : SmcRet} (h0 : r.x0 = 0) :
    TakenMore rd i (seg ++ [.smc (.rmi (.granuleDelegate a)) r]) := by
  unfold Taken at h
  unfold TakenMore
  split at h
  · rename_i hi
    rw [if_pos hi]
    exact ⟨a, by rw [held_rmi, if_pos h0]; exact List.mem_cons_self⟩
  · rename_i hi
    obtain ⟨pa, hpa⟩ := h
    rw [if_neg hi]
    exact ⟨pa, held_objs_rmi hpa rfl r⟩

/-- The commands that come after it, accepted or not. -/
theorem TakenMore.rmi (h : TakenMore rd i seg) {c : Cmd} (hc : ∀ a, c ≠ .granuleUndelegate a)
    (hk : ∀ o, c.kills o = false) (r : SmcRet) :
    TakenMore rd i (seg ++ [.smc (.rmi c) r]) := by
  unfold TakenMore at h ⊢
  split at h
  · rename_i hi
    obtain ⟨a, ha⟩ := h
    rw [if_pos hi]
    exact ⟨a, held_delegated_rmi ha (hc a) r⟩
  · rename_i hi
    obtain ⟨pa, hpa⟩ := h
    rw [if_neg hi]
    exact ⟨pa, held_objs_rmi hpa (hk _) r⟩

end Taken

/-- The points at which nothing has been taken yet. -/
def RecPoint.early : RecPoint → Bool
  | .recCount => true
  | .auxCount => true
  | .maxAux => true
  | .params => true
  | .run i => i == 0
  | .recAlloc i => i == 0
  | .recDelegate i => i == 0
  | _ => false

/-- What a call has taken at the point where it fails. -/
def TakenAt (rd : UInt64) (p : RecPoint) (seg : Log) : Prop :=
  if p.early then Nothing seg
  else if p.index = some 0 then HasGranule seg
  else HasRec rd seg

section Body

variable {env : Env} {l₀ : Log} {rd : UInt64}

/-- A fact about the log of a call for the realm `rd`. -/
def OfRealm (rd : UInt64) (P : Log → Prop) (v : RecVars) (seg : Log) : Prop :=
  v.realm.rd = rd ∧ P seg

/-- Failing before the granule of REC `i` is delegated. -/
theorem Taken.takenAt {i : ℕ} {seg : Log} (h : Taken rd i seg) {p : RecPoint}
    (hearly : p.early = (i == 0)) (hindex : p.index = some i) : TakenAt rd p seg := by
  unfold Taken at h
  unfold TakenAt
  cases i with
  | zero => simpa [hearly, hindex] using h
  | succ i => simpa [hearly, hindex] using h

/-- Failing after it. -/
theorem TakenMore.takenAt {i : ℕ} {seg : Log} (h : TakenMore rd i seg) {p : RecPoint}
    (hearly : p.early = false) (hindex : p.index = some i) : TakenAt rd p seg := by
  unfold TakenMore at h
  unfold TakenAt
  cases i with
  | zero => simpa [hearly, hindex] using h
  | succ i => simpa [hearly, hindex] using h

theorem createAux_taken (i j : ℕ) :
    Code.Triple (Since l₀ (OfRealm rd (TakenMore rd i))) (createAux env i j)
      (Since l₀ (OfRealm rd (TakenMore rd i))) fun p => Since l₀ (OfRealm rd (TakenAt rd p)) := by
  refine (allocate_triple (Q := OfRealm rd (TakenMore rd i)) ?_ ?_).cons
    ((command_triple (Q := OfRealm rd (TakenMore rd i)) ?_ ?_).cons
      ((assign_triple ?_).cons Code.triple_nil))
  · exact fun v seg a h _ _ => ⟨h.1, h.2.append rfl⟩
  · exact fun v seg h => ⟨h.1, (h.2.append rfl).takenAt rfl rfl⟩
  · exact fun v seg h _ => ⟨h.1, h.2.rmi (by simp) (fun _ => rfl) _⟩
  · exact fun v seg r h _ => ⟨h.1, (h.2.rmi (by simp) (fun _ => rfl) r).takenAt rfl rfl⟩
  · exact fun v seg h => h

/-- **One REC**: after it a REC is alive. -/
theorem createRec_taken (i : ℕ) :
    Code.Triple (Since l₀ (OfRealm rd (Taken rd i))) (createRec env i)
      (Since l₀ (OfRealm rd (Taken rd (i + 1)))) fun p => Since l₀ (OfRealm rd (TakenAt rd p)) := by
  refine (allocate_triple (Q := OfRealm rd (Taken rd i)) ?_ ?_).cons
    ((allocate_triple (Q := OfRealm rd (Taken rd i)) ?_ ?_).cons
      ((command_triple (Q := OfRealm rd (TakenMore rd i)) ?_ ?_).cons
        (Code.Triple.cons (R := Since l₀ (OfRealm rd (TakenMore rd i))) ?_
          ((store_triple (Q := OfRealm rd (TakenMore rd i)) ?_).cons
            ((command_triple ?_ ?_).cons Code.triple_nil)))))
  · exact fun v seg a h _ _ => ⟨h.1, h.2.append rfl⟩
  · exact fun v seg h => ⟨h.1, (h.2.append rfl).takenAt rfl rfl⟩
  · exact fun v seg a h _ _ => ⟨h.1, h.2.append rfl⟩
  · exact fun v seg h => ⟨h.1, (h.2.append rfl).takenAt rfl rfl⟩
  · exact fun v seg h h0 => ⟨h.1, h.2.delegate _ h0⟩
  · exact fun v seg r h h0 => ⟨h.1, (h.2.refused _ h0).takenAt rfl rfl⟩
  · refine Code.triple_forTo fun N => ?_
    exact (Code.triple_loop (I := fun _ => Since l₀ (OfRealm rd (TakenMore rd i)))
      fun j _ => createAux_taken i j).conseq (fun _ h => h.1) (fun _ h => h) fun _ _ h => h
  · exact fun v seg h => ⟨h.1, h.2.append rfl⟩
  · intro v seg h h0
    refine ⟨h.1, ?_⟩
    rw [Taken, if_neg (Nat.succ_ne_zero i)]
    refine ⟨v.realm.recPa i, ?_⟩
    rw [held_rmi, if_pos h0, ← h.1]
    exact RmmState.mem_apply_objs.mpr (Or.inr rfl)
  · exact fun v seg r h _ => ⟨h.1, (h.2.rmi (by simp) (fun _ => rfl) r).takenAt rfl rfl⟩

/-- **The body**: what a call has taken when it jumps. -/
theorem recCreateBody_taken :
    Code.Triple (Since l₀ (OfRealm rd Nothing)) (recCreateBody env) (Since l₀ fun _ _ => True)
      fun p => Since l₀ (OfRealm rd (TakenAt rd p)) := by
  have happ : ∀ {seg : Log} {e : Event}, Taken rd 0 seg → e.command = none →
      Taken rd 0 (seg ++ [e]) := fun h he => h.append he
  refine Code.Triple.cons (R := Since l₀ (OfRealm rd Nothing))
    ((Code.triple_jump fun s hs => hs.1).guarded fun _ h _ => h)
    (Code.Triple.cons (R := Since l₀ (OfRealm rd Nothing)) ?_
      (Code.Triple.cons (R := Since l₀ (OfRealm rd Nothing))
        ((Code.triple_jump fun s hs => hs.1).guarded fun _ h _ => h)
        ((allocate_triple (Q := OfRealm rd Nothing) ?_ ?_).cons
          ((assign_triple (Q := OfRealm rd Nothing) ?_).cons
            (Code.Triple.cons (R := Since l₀ fun _ _ => True) ?_ Code.triple_nil)))))
  · rintro ⟨v, _⟩ ⟨seg, rfl, h⟩
    unfold recAuxCount Env.call
    dsimp only
    split
    · exact ⟨_, List.append_assoc _ _ _, h.1, happ h.2 rfl⟩
    · exact ⟨_, List.append_assoc _ _ _, h.1, happ h.2 rfl⟩
  · exact fun v seg a h _ _ => ⟨h.1, happ h.2 rfl⟩
  · exact fun v seg h => ⟨h.1, happ h.2 rfl⟩
  · exact fun v seg h => h
  · refine Code.triple_forTo fun N => ?_
    exact (Code.triple_loop (I := fun i => Since l₀ (OfRealm rd (Taken rd i)))
      fun i _ => createRec_taken i).conseq (fun _ h => h.1)
        (fun s hs => hs.mono fun _ _ _ => trivial) fun _ _ h => h

/-- **The cleanup destroys no REC.** -/
theorem freeRecParams_hasRec (i : ℕ) :
    Code.Triple (Since l₀ fun _ seg => HasRec rd seg) (freeRecParams env i)
      (Since l₀ fun _ seg => HasRec rd seg) fun _ _ => False := by
  have hund : ∀ addr : RecVars → UInt64,
      Code.Triple (Since l₀ fun _ seg => HasRec rd seg) (undelegate env addr)
        (Since l₀ fun _ seg => HasRec rd seg) fun (_ : RecPoint) _ => False := by
    intro addr
    refine (undelegate_triple (E := fun _ _ _ => False) fun v seg h => ?_).conseq (fun _ h => h)
      (fun _ h => h) fun _ _ ⟨_, _, h⟩ => h
    obtain ⟨pa, hpa⟩ := h
    exact ⟨pa, held_objs_rmi hpa rfl _⟩
  induction i with
  | zero => exact Code.triple_skip
  | succ i ih =>
    refine Code.Triple.seq ((hund _).cons
      (Code.Triple.cons (R := Since l₀ fun _ seg => HasRec rd seg) ?_ Code.triple_nil)) ih
    refine Code.triple_forTo fun N => ?_
    exact (Code.triple_loop (I := fun _ => Since l₀ fun _ seg => HasRec rd seg)
      fun j _ => hund _).conseq (fun _ h => h.1) (fun _ h => h) fun _ _ h => h

end Body

/-! ## 3. Failed calls -/

/-- What a failed call is to have done: every REC it created is destroyed, every granule it
delegated is undelegated, and no other undelegation was asked for. -/
structure RecReleased (rd : UInt64) (seg : Log) : Prop where
  recs : ∀ pa, .recg rd pa ∉ (held seg).objs
  granules : ∀ a ∈ delegations seg, a ∉ (held seg).delegated
  others : ∀ a ∈ undelegations seg, a ∈ delegations seg

/-- What is held was delegated. -/
theorem mem_delegations_of_held {seg : Log} {a : UInt64} (h : a ∈ (held seg).delegated) :
    a ∈ delegations seg := by
  induction seg using List.reverseRecOn with
  | nil => exact absurd h List.not_mem_nil
  | append_singleton seg e ih =>
    rw [delegations_append, List.mem_append]
    cases hcmd : e.command with
    | none =>
      rw [held_append_other seg hcmd] at h
      exact Or.inl (ih h)
    | some cr =>
      obtain ⟨c, r⟩ := cr
      obtain rfl : e = .smc (.rmi c) r := by
        cases e with
        | smc c' r' =>
          cases c' with
          | rmi c'' =>
            obtain ⟨rfl, rfl⟩ := Prod.mk.inj (Option.some.inj hcmd)
            rfl
          | _ => exact absurd hcmd (by simp [Event.command])
        | _ => exact absurd hcmd (by simp [Event.command])
      rw [held_rmi] at h
      split at h
      · rename_i h0
        cases c with
        | granuleDelegate b =>
          rcases List.mem_cons.mp h with rfl | h
          · exact Or.inr (by simp [delegations, Event.delegated, h0])
          · exact Or.inl (ih h)
        | granuleUndelegate b => exact Or.inl (ih (List.mem_filter.mp h).1)
        | _ => exact Or.inl (ih h)
      · exact Or.inl (ih h)

theorem RecPoint.index_of_early {p : RecPoint} (h : p.early = true) :
    p.index = none ∨ p.index = some 0 := by
  cases p <;> simp_all [RecPoint.early, RecPoint.index]

theorem RecPoint.index_of_late {p : RecPoint} (h : p.early = false) : ∃ i, p.index = some i := by
  cases p <;> simp_all [RecPoint.early, RecPoint.index]

theorem Nothing.recReleased {rd : UInt64} {seg : Log} (h : Nothing seg) : RecReleased rd seg := by
  refine ⟨?_, ?_, ?_⟩
  · intro pa
    rw [h.1]
    exact List.not_mem_nil
  · intro a _
    rw [h.1]
    exact List.not_mem_nil
  · intro a ha
    rw [h.2] at ha
    exact absurd ha List.not_mem_nil

/-- **A failed call has released what it took exactly if it had taken nothing**: if it failed no
later than at the delegation of the first REC. -/
theorem failed_rec_create_releases {env : Env} {realm realm' : HostRealm} {l l' : Log}
    (h : valHostRecCreate env realm l = (false, realm', l')) :
    RecReleased realm.rd (own l l') ↔
      ∃ p, recCreateFailsAt env realm l = some p ∧ p.early = true := by
  have hbody : Code.Exit (Since l fun _ _ => True)
      (fun p => Since l (OfRealm realm.rd (TakenAt realm.rd p)))
      (recCreateBody env ⟨.start realm, l⟩) :=
    recCreateBody_taken _ ⟨[], by simp, rfl, rfl, rfl⟩
  unfold recCreateFailsAt
  unfold valHostRecCreate at h
  match hr : recCreateBody env ⟨.start realm, l⟩ with
  | (none, s) =>
    rw [hr] at h
    exact absurd h (by simp)
  | (some p, s) =>
    rw [hr] at h hbody
    obtain ⟨seg, hlog, -, htaken⟩ := hbody
    simp only [Option.some.injEq, exists_eq_left']
    dsimp only at h
    unfold TakenAt at htaken
    cases hearly : p.early with
    | true =>
      -- the cleanup, if there is one, starts at index 0
      have hlog' : s.log = l' := by
        rcases RecPoint.index_of_early hearly with hi | hi
        · rw [hi] at h
          exact (Prod.mk.inj (Prod.mk.inj h).2).2
        · rw [hi] at h
          exact (Prod.mk.inj (Prod.mk.inj h).2).2
      rw [if_pos hearly] at htaken
      rw [← hlog', hlog, own_append]
      exact ⟨fun _ => rfl, fun _ => htaken.recReleased⟩
    | false =>
      obtain ⟨i, hi⟩ := RecPoint.index_of_late hearly
      rw [hearly, if_neg Bool.false_ne_true, hi] at htaken
      rw [hi] at h
      have hlog' : (freeRecParams env i s).2.log = l' := (Prod.mk.inj (Prod.mk.inj h).2).2
      refine ⟨fun hrel => ?_, fun hno => absurd hno (by decide)⟩
      cases i with
      | zero =>
        -- nothing is cleaned up: the granule of the first REC is still delegated
        rw [if_pos rfl] at htaken
        obtain ⟨a, ha⟩ := htaken
        have hown : own l l' = seg := by rw [← hlog', freeRecParams, Code.skip, hlog, own_append]
        rw [hown] at hrel
        exact absurd ha (hrel.granules a (mem_delegations_of_held ha))
      | succ i =>
        -- the first REC is alive
        rw [if_neg (by simp)] at htaken
        obtain ⟨seg', hseg', pa, hpa⟩ := (freeRecParams_hasRec (i + 1) s ⟨seg, hlog, htaken⟩).falls
        rw [← hlog', hseg', own_append] at hrel
        exact absurd hpa (hrel.recs pa)

/-! ## 4. Two RECs, the second refused -/

/-- A realm with its RD at the start of the heap, that is to have two RECs. -/
def twoRecs : HostRealm := { HostRealm.cleared with rd := 0x88500000, recCount := 2 }

/-- A history with that realm. -/
def twoRecsLog : Log :=
  [.smc (.rmi (.granuleDelegate 0x88500000)) ⟨0, 0, 0⟩,
    .smc (.rmi (.realmCreate 0x88500000 0x88501000)) ⟨0, 0, 0⟩,
    .alloc 0x1000 0x2000 0x88500000]

/-- The RMM asks for one auxiliary granule each, and refuses to create a second REC. -/
def refusingSecondRec : Env :=
  heapEnv valHostMemAllocInit
    (faultyRmm
      (fun tr c =>
        match c with
        | .recCreate _ _ _ => (replay tr).objs.length > 1
        | _ => false)
      fun _ => ⟨0, 1, 0⟩)

/-- The first REC stays, with its granule and its auxiliary granule; of the second, both granules
are undelegated. -/
theorem failed_rec_create_keeps_first_rec :
    ∃ realm' l', valHostRecCreate refusingSecondRec twoRecs twoRecsLog = (false, realm', l') ∧
      ¬ RecReleased twoRecs.rd (own twoRecsLog l') ∧
      .recg twoRecs.rd (realm'.recPa 0) ∈ (held (own twoRecsLog l')).objs ∧
      (delegations (own twoRecsLog l')).length = 4 ∧
      (held (own twoRecsLog l')).delegated = [realm'.recAuxGranules 0, realm'.recPa 0] := by
  have hrec : Obj.recg twoRecs.rd
        ((valHostRecCreate refusingSecondRec twoRecs twoRecsLog).2.1.recPa 0)
      ∈ (held (own twoRecsLog
        (valHostRecCreate refusingSecondRec twoRecs twoRecsLog).2.2)).objs := by
    decide +kernel
  exact ⟨_, _, failed_eq (by decide +kernel), fun h => h.recs _ hrec, hrec,
    by decide +kernel, by decide +kernel⟩

theorem failed_rec_create_releases_second_refused :
    ¬ RecReleased twoRecs.rd
        (own twoRecsLog (valHostRecCreate refusingSecondRec twoRecs twoRecsLog).2.2) := by
  rw [failed_rec_create_releases (failed_eq (by decide +kernel))]
  have hpoint : recCreateFailsAt refusingSecondRec twoRecs twoRecsLog = some (.recCreate 1) := by
    decide +kernel
  simp [hpoint, RecPoint.early]

end RmmAcs.Realm
