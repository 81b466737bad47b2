/-
# The other side of the SMC: what an RMM may accept

The Realm Management Monitor is not part of the suite; it is what the suite TESTS.  All the host
has of it are the commands it issues and the status that comes back.  So the RMM is a parameter
of the model, an arbitrary function from the history of commands to an answer, and the only thing
ever assumed of it is that it accepts a command when, and only when it chooses to, the command is
LEGAL: a granule is delegated before it is used, an object is made from a delegated granule nothing
else uses, there is one object for each key, and only a live object is destroyed -- a realm last
of all, when it owns nothing any more.

What the RMM knows is read off the history: `replay` runs the accepted commands.  A real RMM uses
further granules -- the starting RTTs of a realm, the auxiliary granules of a REC -- and refuses
commands for further reasons; it is one of the RMMs this file allows.
-/
import Mathlib

namespace RmmAcs.Rmm

/-! ## 1. Commands -/

/-- The RMI commands of the granule tracker's wrappers, with their arguments. -/
inductive Cmd where
  | granuleDelegate (addr : UInt64)
  | granuleUndelegate (addr : UInt64)
  | realmCreate (rd paramsPtr : UInt64)
  | realmDestroy (rd : UInt64)
  | recCreate (rd recPa paramsPtr : UInt64)
  | recDestroy (recPa : UInt64)
  | dataCreate (rd data ipa src flags : UInt64)
  | dataCreateUnknown (rd data ipa : UInt64)
  | dataDestroy (rd ipa : UInt64)
  | rttCreate (rd rtt ipa level : UInt64)
  | rttDestroy (rd ipa level : UInt64)
  | rttFold (rd ipa level : UInt64)
  | rttMapUnprotected (rd ipa level desc : UInt64)
  | rttUnmapUnprotected (rd ipa level : UInt64)
  | rttAuxCreate (rd rtt ipa level index : UInt64)
  | rttAuxDestroy (rd ipa level index : UInt64)
  | rttAuxFold (rd ipa level index : UInt64)
  | rttAuxMapProtected (rd ipa index : UInt64)
  | rttAuxMapUnprotected (rd ipa index : UInt64)
  | rttAuxUnmapProtected (rd ipa index : UInt64)
  | rttAuxUnmapUnprotected (rd ipa index : UInt64)
  | features (index : UInt64)
deriving DecidableEq, Repr

/-- The registers a command returns in: the status and the outputs. -/
structure SmcRet where
  x0 : UInt64
  x1 : UInt64
  x2 : UInt64
deriving DecidableEq, Repr

/-- A history of commands and answers, oldest first. -/
abbrev Trace := List (Cmd × SmcRet)

/-! ## 2. Objects -/

/-- What an accepted command can bring to life: a realm, a REC, a data granule, an RTT, an
auxiliary RTT, a mapping of unprotected memory.  Every object but the last is made from a granule,
given by its PA; the realm's is its `rd`. -/
inductive Obj where
  | realm (rd : UInt64)
  | recg (rd pa : UInt64)
  | data (rd ipa pa : UInt64)
  | rtt (rd ipa level pa : UInt64)
  | rttAux (rd ipa level index pa : UInt64)
  | unprotected (rd ipa level : UInt64)
deriving DecidableEq, Repr

/-- The realm an object belongs to. -/
def Obj.rd : Obj → UInt64
  | .realm rd => rd
  | .recg rd _ => rd
  | .data rd _ _ => rd
  | .rtt rd _ _ _ => rd
  | .rttAux rd _ _ _ _ => rd
  | .unprotected rd _ _ => rd

/-- The granule an object is made from. -/
def Obj.pa : Obj → Option UInt64
  | .realm rd => some rd
  | .recg _ pa => some pa
  | .data _ _ pa => some pa
  | .rtt _ _ _ pa => some pa
  | .rttAux _ _ _ _ pa => some pa
  | .unprotected _ _ _ => none

/-- Two objects with one key.  (RECs and realms are known by their granules.) -/
def Obj.clash : Obj → Obj → Bool
  | .data rd ipa _, .data rd' ipa' _ => rd == rd' && ipa == ipa'
  | .rtt rd ipa level _, .rtt rd' ipa' level' _ => rd == rd' && ipa == ipa' && level == level'
  | .rttAux rd ipa level index _, .rttAux rd' ipa' level' index' _ =>
    rd == rd' && ipa == ipa' && level == level' && index == index'
  | .unprotected rd ipa _, .unprotected rd' ipa' _ => rd == rd' && ipa == ipa'
  | _, _ => false

/-- The object a command makes. -/
def Cmd.makes : Cmd → Option Obj
  | .realmCreate rd _ => some (.realm rd)
  | .recCreate rd recPa _ => some (.recg rd recPa)
  | .dataCreate rd data ipa _ _ => some (.data rd ipa data)
  | .dataCreateUnknown rd data ipa => some (.data rd ipa data)
  | .rttCreate rd rtt ipa level => some (.rtt rd ipa level rtt)
  | .rttMapUnprotected rd ipa level _ => some (.unprotected rd ipa level)
  | .rttAuxCreate rd rtt ipa level index => some (.rttAux rd ipa level index rtt)
  | _ => none

/-- The object a command ends: the one with the key it names. -/
def Cmd.kills : Cmd → Obj → Bool
  | .realmDestroy rd, .realm rd' => rd == rd'
  | .recDestroy pa, .recg _ pa' => pa == pa'
  | .dataDestroy rd ipa, .data rd' ipa' _ => rd == rd' && ipa == ipa'
  | .rttDestroy rd ipa level, .rtt rd' ipa' level' _ => rd == rd' && ipa == ipa' && level == level'
  | .rttFold rd ipa level, .rtt rd' ipa' level' _ => rd == rd' && ipa == ipa' && level == level'
  | .rttAuxDestroy rd ipa level index, .rttAux rd' ipa' level' index' _ =>
    rd == rd' && ipa == ipa' && level == level' && index == index'
  | .rttAuxFold rd ipa level index, .rttAux rd' ipa' level' index' _ =>
    rd == rd' && ipa == ipa' && level == level' && index == index'
  | .rttUnmapUnprotected rd ipa level, .unprotected rd' ipa' level' =>
    rd == rd' && ipa == ipa' && level == level'
  | _, _ => false

/-! ## 3. Legality -/

/-- What the accepted commands amount to. -/
structure RmmState where
  delegated : List UInt64
  objs : List Obj
deriving DecidableEq, Repr

namespace RmmState

def init : RmmState := ⟨[], []⟩

/-- No object is made from the granule at `a`. -/
def Unused (R : RmmState) (a : UInt64) : Prop := ∀ o ∈ R.objs, o.pa ≠ some a

/-- An object can be made: its granule is delegated and unused, its realm is alive, its key is
free. -/
def CanMake (R : RmmState) (o : Obj) : Prop :=
  (∀ a ∈ o.pa, a ∈ R.delegated ∧ R.Unused a) ∧
    (o = .realm o.rd ∨ .realm o.rd ∈ R.objs) ∧ ∀ o' ∈ R.objs, o.clash o' = false

/-- An auxiliary mapping needs its primary mapping, and an index of an auxiliary tree. -/
def AuxOk (R : RmmState) (primary : Obj → Bool) (index : UInt64) : Prop :=
  1 ≤ index ∧ index ≤ 3 ∧ ∃ o ∈ R.objs, primary o = true

/-- The data granule a realm has at an IPA. -/
def isData (rd ipa : UInt64) : Obj → Bool
  | .data rd' ipa' _ => rd == rd' && ipa == ipa'
  | _ => false

/-- The unprotected mapping a realm has at an IPA. -/
def isUnprotected (rd ipa : UInt64) : Obj → Bool
  | .unprotected rd' ipa' _ => rd == rd' && ipa == ipa'
  | _ => false

/-- **Legal commands.** -/
def Legal (R : RmmState) (c : Cmd) : Prop :=
  match c with
  | .granuleDelegate a => 4096 ∣ a.toNat ∧ a ∉ R.delegated
  | .granuleUndelegate a => a ∈ R.delegated ∧ R.Unused a
  | .realmCreate rd _ => R.CanMake (.realm rd)
  | .realmDestroy rd => .realm rd ∈ R.objs ∧ ∀ o ∈ R.objs, o.rd = rd → o = .realm rd
  | .recCreate rd recPa _ => R.CanMake (.recg rd recPa)
  | .dataCreate rd data ipa _ _ => R.CanMake (.data rd ipa data)
  | .dataCreateUnknown rd data ipa => R.CanMake (.data rd ipa data)
  | .rttCreate rd rtt ipa level => R.CanMake (.rtt rd ipa level rtt)
  | .rttMapUnprotected rd ipa level _ => R.CanMake (.unprotected rd ipa level)
  | .rttAuxCreate rd rtt ipa level index => R.CanMake (.rttAux rd ipa level index rtt)
  | .rttAuxMapProtected rd ipa index => R.AuxOk (isData rd ipa) index
  | .rttAuxUnmapProtected rd ipa index => R.AuxOk (isData rd ipa) index
  | .rttAuxMapUnprotected rd ipa index => R.AuxOk (isUnprotected rd ipa) index
  | .rttAuxUnmapUnprotected rd ipa index => R.AuxOk (isUnprotected rd ipa) index
  | .features _ => True
  | _ => ∃ o ∈ R.objs, c.kills o = true

instance (R : RmmState) (a : UInt64) : Decidable (R.Unused a) :=
  inferInstanceAs (Decidable (∀ o ∈ R.objs, _))

instance (R : RmmState) (o : Obj) : Decidable (R.CanMake o) :=
  -- not through the finitely many values of the type
  haveI : Decidable (∀ a ∈ o.pa, a ∈ R.delegated ∧ R.Unused a) := Option.decidableForallMem o.pa
  inferInstanceAs (Decidable (_ ∧ _ ∧ _))

instance (R : RmmState) (p : Obj → Bool) (index : UInt64) : Decidable (R.AuxOk p index) :=
  inferInstanceAs (Decidable (_ ∧ _ ∧ ∃ o ∈ R.objs, _))

instance (R : RmmState) : (c : Cmd) → Decidable (R.Legal c)
  | .granuleDelegate _ => inferInstanceAs (Decidable (_ ∧ _))
  | .granuleUndelegate _ => inferInstanceAs (Decidable (_ ∧ _))
  | .realmCreate _ _ => inferInstanceAs (Decidable (R.CanMake _))
  | .realmDestroy _ => inferInstanceAs (Decidable (_ ∧ ∀ o ∈ R.objs, _))
  | .recCreate _ _ _ => inferInstanceAs (Decidable (R.CanMake _))
  | .recDestroy _ => inferInstanceAs (Decidable (∃ o ∈ R.objs, _))
  | .dataCreate _ _ _ _ _ => inferInstanceAs (Decidable (R.CanMake _))
  | .dataCreateUnknown _ _ _ => inferInstanceAs (Decidable (R.CanMake _))
  | .dataDestroy _ _ => inferInstanceAs (Decidable (∃ o ∈ R.objs, _))
  | .rttCreate _ _ _ _ => inferInstanceAs (Decidable (R.CanMake _))
  | .rttDestroy _ _ _ => inferInstanceAs (Decidable (∃ o ∈ R.objs, _))
  | .rttFold _ _ _ => inferInstanceAs (Decidable (∃ o ∈ R.objs, _))
  | .rttMapUnprotected _ _ _ _ => inferInstanceAs (Decidable (R.CanMake _))
  | .rttUnmapUnprotected _ _ _ => inferInstanceAs (Decidable (∃ o ∈ R.objs, _))
  | .rttAuxCreate _ _ _ _ _ => inferInstanceAs (Decidable (R.CanMake _))
  | .rttAuxDestroy _ _ _ _ => inferInstanceAs (Decidable (∃ o ∈ R.objs, _))
  | .rttAuxFold _ _ _ _ => inferInstanceAs (Decidable (∃ o ∈ R.objs, _))
  | .rttAuxMapProtected _ _ _ => inferInstanceAs (Decidable (R.AuxOk _ _))
  | .rttAuxMapUnprotected _ _ _ => inferInstanceAs (Decidable (R.AuxOk _ _))
  | .rttAuxUnmapProtected _ _ _ => inferInstanceAs (Decidable (R.AuxOk _ _))
  | .rttAuxUnmapUnprotected _ _ _ => inferInstanceAs (Decidable (R.AuxOk _ _))
  | .features _ => inferInstanceAs (Decidable True)

/-- The effect of an accepted command. -/
def apply (R : RmmState) (c : Cmd) : RmmState where
  delegated :=
    match c with
    | .granuleDelegate a => a :: R.delegated
    | .granuleUndelegate a => R.delegated.filter (· ≠ a)
    | _ => R.delegated
  objs := R.objs.filter (fun o => !c.kills o) ++ c.makes.toList

end RmmState

/-- The state after a history: the accepted commands, in order. -/
def replay (tr : Trace) : RmmState :=
  tr.foldl (fun R e => if e.2.x0 = 0 then R.apply e.1 else R) .init

theorem replay_snoc (tr : Trace) (c : Cmd) (r : SmcRet) :
    replay (tr ++ [(c, r)]) = if r.x0 = 0 then (replay tr).apply c else replay tr := by
  simp [replay]

/-- An RMM: an answer for every command after every history. -/
abbrev Monitor := Trace → Cmd → SmcRet

/-- **The only assumption on the RMM**: what it accepts is legal. -/
def LegalMonitor (rmm : Monitor) : Prop :=
  ∀ tr c, (rmm tr c).x0 = 0 → (replay tr).Legal c

/-- The RMM that accepts exactly the legal commands; `features` is what it says of itself. -/
def exactMonitor (features : UInt64) : Monitor := fun tr c =>
  if (replay tr).Legal c then ⟨0, features, 0⟩ else ⟨1, 0, 0⟩

theorem exactMonitor_legal (features : UInt64) : LegalMonitor (exactMonitor features) := by
  intro tr c h
  by_contra hno
  rw [exactMonitor, if_neg hno] at h
  exact absurd h (by decide)

/-! ## 4. What legality keeps -/

namespace RmmState

variable {R : RmmState} {c : Cmd} {o o' : Obj}

theorem mem_apply_objs :
    o ∈ (R.apply c).objs ↔ (o ∈ R.objs ∧ c.kills o = false) ∨ c.makes = some o := by
  simp [apply, Option.mem_toList]

theorem kills_of_makes (h : c.makes = some o) (o' : Obj) : c.kills o' = false := by
  cases c <;> first | rfl | exact absurd h (by simp [Cmd.makes])

theorem canMake_of_makes (hl : R.Legal c) (h : c.makes = some o) : R.CanMake o := by
  cases c <;> first | (simp [Cmd.makes] at h; done) | (obtain rfl := Option.some.inj h; exact hl)

theorem delegated_of_makes (h : c.makes = some o) : (R.apply c).delegated = R.delegated := by
  cases c <;> first | rfl | exact absurd h (by simp [Cmd.makes])

theorem clash_symm (h : o.clash o' = true) : o'.clash o = true := by
  cases o <;> cases o' <;> simp_all [Obj.clash]

/-- The objects of an RMM: each is made from a delegated granule of its own, no two have one key,
and the realm of each is alive. -/
structure Wf (R : RmmState) : Prop where
  pa_delegated : ∀ o ∈ R.objs, ∀ a, o.pa = some a → a ∈ R.delegated
  pa_inj : ∀ o ∈ R.objs, ∀ o' ∈ R.objs, ∀ a, o.pa = some a → o'.pa = some a → o = o'
  key_inj : ∀ o ∈ R.objs, ∀ o' ∈ R.objs, o.clash o' = true → o = o'
  owner : ∀ o ∈ R.objs, .realm o.rd ∈ R.objs
  aligned : ∀ a ∈ R.delegated, 4096 ∣ a.toNat

theorem wf_init : Wf .init where
  pa_delegated := fun _ ho => absurd ho List.not_mem_nil
  pa_inj := fun _ ho => absurd ho List.not_mem_nil
  key_inj := fun _ ho => absurd ho List.not_mem_nil
  owner := fun _ ho => absurd ho List.not_mem_nil
  aligned := fun _ ha => absurd ha List.not_mem_nil

/-- A command that makes nothing and kills nothing leaves the objects alone. -/
theorem apply_objs_of_idle (hm : c.makes = none) (hk : ∀ o, c.kills o = false) :
    (R.apply c).objs = R.objs := by
  simp [apply, hm, hk]

theorem Wf.make (h : R.Wf) (hl : R.Legal c) (hm : c.makes = some o) : (R.apply c).Wf := by
  obtain ⟨hpa, hrealm, hkey⟩ := canMake_of_makes hl hm
  have hobjs : ∀ {o'}, o' ∈ (R.apply c).objs ↔ o' ∈ R.objs ∨ o' = o := by
    intro o'
    rw [mem_apply_objs, kills_of_makes hm, hm]
    simp [eq_comm]
  have hdel := delegated_of_makes (R := R) hm
  refine ⟨?_, ?_, ?_, ?_, ?_⟩
  · intro o₁ h₁ a ha
    rw [hdel]
    rcases hobjs.mp h₁ with h₁ | rfl
    · exact h.pa_delegated o₁ h₁ a ha
    · exact (hpa a ha).1
  · intro o₁ h₁ o₂ h₂ a ha₁ ha₂
    rcases hobjs.mp h₁ with h₁ | rfl <;> rcases hobjs.mp h₂ with h₂ | rfl
    · exact h.pa_inj o₁ h₁ o₂ h₂ a ha₁ ha₂
    · exact absurd ha₁ ((hpa a ha₂).2 o₁ h₁)
    · exact absurd ha₂ ((hpa a ha₁).2 o₂ h₂)
    · rfl
  · intro o₁ h₁ o₂ h₂ hc
    rcases hobjs.mp h₁ with h₁ | rfl <;> rcases hobjs.mp h₂ with h₂ | rfl
    · exact h.key_inj o₁ h₁ o₂ h₂ hc
    · exact absurd (clash_symm hc) (by rw [hkey o₁ h₁]; decide)
    · exact absurd hc (by rw [hkey o₂ h₂]; decide)
    · rfl
  · intro o₁ h₁
    rcases hobjs.mp h₁ with h₁ | rfl
    · exact hobjs.mpr (Or.inl (h.owner o₁ h₁))
    · exact hobjs.mpr (hrealm.symm.imp id Eq.symm)
  · rw [hdel]
    exact h.aligned

/-- A command that makes nothing: some objects may go, no granule in use may. -/
theorem Wf.kill (h : R.Wf) (hl : R.Legal c) (hm : c.makes = none) : (R.apply c).Wf := by
  have hobjs : ∀ {o'}, o' ∈ (R.apply c).objs ↔ o' ∈ R.objs ∧ c.kills o' = false := by
    intro o'
    rw [mem_apply_objs, hm]
    simp
  refine ⟨?_, ?_, ?_, ?_, ?_⟩
  · intro o₁ h₁ a ha
    have hd := h.pa_delegated o₁ (hobjs.mp h₁).1 a ha
    cases c with
    | granuleDelegate b => exact List.mem_cons_of_mem _ hd
    | granuleUndelegate b =>
      refine List.mem_filter.mpr ⟨hd, ?_⟩
      have hne : a ≠ b := fun hab => hl.2 o₁ (hobjs.mp h₁).1 (hab ▸ ha)
      simpa using hne
    | _ => exact hd
  · exact fun o₁ h₁ o₂ h₂ => h.pa_inj o₁ (hobjs.mp h₁).1 o₂ (hobjs.mp h₂).1
  · exact fun o₁ h₁ o₂ h₂ => h.key_inj o₁ (hobjs.mp h₁).1 o₂ (hobjs.mp h₂).1
  · intro o₁ h₁
    refine hobjs.mpr ⟨h.owner o₁ (hobjs.mp h₁).1, ?_⟩
    cases c with
    | realmDestroy rd =>
      -- the realm goes only when nothing else of it is left
      by_contra hk
      have hrd : rd = o₁.rd := by simpa [Cmd.kills] using hk
      have ho : o₁ = .realm rd := hl.2 o₁ (hobjs.mp h₁).1 hrd.symm
      have hkill := (hobjs.mp h₁).2
      rw [ho] at hkill
      exact absurd hkill (by simp [Cmd.kills])
    | _ => rfl
  · intro a ha
    cases c with
    | granuleDelegate b =>
      rcases List.mem_cons.mp ha with rfl | ha
      · exact hl.1
      · exact h.aligned a ha
    | granuleUndelegate b => exact h.aligned a (List.mem_filter.mp ha).1
    | _ => exact h.aligned a ha

/-- **Legal commands keep the RMM well formed.** -/
theorem Wf.apply (h : R.Wf) (hl : R.Legal c) : (R.apply c).Wf := by
  cases hm : c.makes with
  | none => exact h.kill hl hm
  | some o => exact h.make hl hm

/-- A command ends at most one object. -/
theorem Wf.kills_inj (h : R.Wf) (ho : o ∈ R.objs) (ho' : o' ∈ R.objs) (hk : c.kills o = true)
    (hk' : c.kills o' = true) : o = o' := by
  have hpa : ∀ a, o.pa = some a → o'.pa = some a → o = o' := h.pa_inj o ho o' ho'
  have hkey : o.clash o' = true → o = o' := h.key_inj o ho o' ho'
  cases c <;> cases o <;> first | (simp [Cmd.kills] at hk; done) | skip
  all_goals cases o' <;> first | (simp [Cmd.kills] at hk'; done) | skip
  all_goals simp_all [Cmd.kills, Obj.clash, Obj.pa]

end RmmState

/-! ## 5. Histories -/

/-- Every command the history says was accepted was legal when it came. -/
def LegalTrace (tr : Trace) : Prop :=
  ∀ pre c r post, tr = pre ++ (c, r) :: post → r.x0 = 0 → (replay pre).Legal c

theorem legalTrace_nil : LegalTrace [] := fun _ _ _ _ h => absurd h (by simp)

theorem legalTrace_snoc {tr : Trace} {c : Cmd} {r : SmcRet} :
    LegalTrace (tr ++ [(c, r)]) ↔ LegalTrace tr ∧ (r.x0 = 0 → (replay tr).Legal c) := by
  constructor
  · intro h
    refine ⟨fun pre c' r' post ht => h pre c' r' (post ++ [(c, r)]) (by rw [ht]; simp), ?_⟩
    exact h tr c r [] rfl
  · rintro ⟨h, hl⟩ pre c' r' post ht
    rcases List.eq_nil_or_concat post with rfl | ⟨post', e, rfl⟩
    · obtain ⟨rfl, hcr⟩ := List.append_inj' ht rfl
      obtain ⟨rfl, rfl⟩ := Prod.mk.inj (List.singleton_inj.mp hcr)
      exact hl
    · have ht' : tr ++ [(c, r)] = (pre ++ (c', r') :: post') ++ [e] := by simpa using ht
      exact h pre c' r' post' (List.append_inj' ht' rfl).1

/-- **Along a legal history the RMM is well formed.** -/
theorem LegalTrace.wf {tr : Trace} (h : LegalTrace tr) : (replay tr).Wf := by
  induction tr using List.reverseRecOn with
  | nil => exact RmmState.wf_init
  | append_singleton tr e ih =>
    obtain ⟨h', hl⟩ := legalTrace_snoc.mp h
    rw [replay_snoc]
    split
    · rename_i h0
      exact (ih h').apply (hl h0)
    · exact ih h'

/-- The commands of a cleanup make nothing and delegate nothing. -/
def Ends (c : Cmd) : Prop := c.makes = none ∧ ∀ a, c ≠ .granuleDelegate a

/-- The commands of a history that were accepted. -/
def accepted (tr : Trace) : List Cmd := (tr.filter fun e => e.2.x0 = 0).map Prod.fst

theorem accepted_snoc (tr : Trace) (c : Cmd) (r : SmcRet) :
    accepted (tr ++ [(c, r)]) = if r.x0 = 0 then accepted tr ++ [c] else accepted tr := by
  by_cases h0 : r.x0 = 0 <;> simp [accepted, h0]

/-- **What ends, ends once.**  `alive` is something commands can only end, and exactly those do
that are a `hit`; over a stretch of the history that ends it there is one accepted hit. -/
theorem ends_once (alive : RmmState → Prop) (hit : Cmd → Bool) {tr : Trace}
    (hstep : ∀ {R c}, R.Legal c → Ends c → (∀ o ∈ R.objs, o ∈ (replay tr).objs) →
      (hit c = true → alive R) ∧ (alive (R.apply c) ↔ alive R ∧ hit c = false))
    (halive : alive (replay tr)) {seg : Trace} (hlegal : LegalTrace (tr ++ seg))
    (hends : ∀ e ∈ seg, Ends e.1) (hdead : ¬ alive (replay (tr ++ seg))) :
    (accepted seg).countP hit = 1 := by
  -- along the stretch: no object is new, and the hits so far are none or one
  have main : ∀ {seg : Trace}, LegalTrace (tr ++ seg) → (∀ e ∈ seg, Ends e.1) →
      (∀ o ∈ (replay (tr ++ seg)).objs, o ∈ (replay tr).objs) ∧
        (alive (replay (tr ++ seg)) → (accepted seg).countP hit = 0) ∧
        (¬ alive (replay (tr ++ seg)) → (accepted seg).countP hit = 1) := by
    intro seg
    induction seg using List.reverseRecOn with
    | nil =>
      intro _ _
      rw [List.append_nil]
      exact ⟨fun o ho => ho, fun _ => rfl, fun hno => absurd halive hno⟩
    | append_singleton seg e ih =>
      intro hlegal hends
      rw [← List.append_assoc] at hlegal ⊢
      obtain ⟨hlegal', hl⟩ := legalTrace_snoc.mp hlegal
      obtain ⟨hsub, hzero, hone⟩ := ih hlegal' fun e he => hends e (List.mem_append_left _ he)
      rw [replay_snoc, accepted_snoc]
      by_cases h0 : e.2.x0 = 0
      · rw [if_pos h0, if_pos h0, List.countP_append]
        have he : Ends e.1 := hends e (by simp)
        obtain ⟨hhit, hiff⟩ := hstep (hl h0) he hsub
        refine ⟨fun o ho => ?_, fun ha => ?_, fun hna => ?_⟩
        · rcases RmmState.mem_apply_objs.mp ho with ⟨ho, -⟩ | hm
          · exact hsub o ho
          · exact absurd (he.1.symm.trans hm) (by simp)
        · obtain ⟨ha', hno⟩ := hiff.mp ha
          rw [hzero ha', List.countP_singleton, hno]
          rfl
        · cases hc : hit e.1 with
          | true => rw [hzero (hhit hc), List.countP_singleton, hc]; rfl
          | false =>
            rw [hone fun ha => hna (hiff.mpr ⟨ha, hc⟩), List.countP_singleton, hc]
            rfl
      · rw [if_neg h0, if_neg h0]
        exact ⟨hsub, hzero, hone⟩
  exact (main hlegal hends).2.2 hdead

/-- An object that goes is destroyed by one accepted command. -/
theorem object_ends_once {tr seg : Trace} {o : Obj} (hlegal : LegalTrace (tr ++ seg))
    (htr : LegalTrace tr) (hends : ∀ e ∈ seg, Ends e.1) (ho : o ∈ (replay tr).objs)
    (hgone : o ∉ (replay (tr ++ seg)).objs) :
    (accepted seg).countP (fun c => c.kills o) = 1 := by
  refine ends_once (fun R => o ∈ R.objs) (fun c => c.kills o) ?_ ho hlegal hends hgone
  intro R c hl he hsub
  constructor
  · intro hk
    -- what the command ends was there at the start, and so is `o`
    have hlive : ∃ o' ∈ R.objs, c.kills o' = true := by
      cases c <;> first | exact hl | (cases o <;> simp [Cmd.kills] at hk; done) | skip
      case realmDestroy rd => exact ⟨_, hl.1, by simp [Cmd.kills]⟩
    obtain ⟨o', ho', hk'⟩ := hlive
    rw [htr.wf.kills_inj ho (hsub o' ho') hk hk']
    exact ho'
  · rw [RmmState.mem_apply_objs, he.1]
    simp

/-- A granule that is given back is undelegated by one accepted command. -/
theorem granule_ends_once {tr seg : Trace} {a : UInt64} (hlegal : LegalTrace (tr ++ seg))
    (hends : ∀ e ∈ seg, Ends e.1) (ha : a ∈ (replay tr).delegated)
    (hgone : a ∉ (replay (tr ++ seg)).delegated) :
    (accepted seg).count (.granuleUndelegate a) = 1 := by
  refine ends_once (fun R => a ∈ R.delegated) (· == .granuleUndelegate a) ?_ ha hlegal hends hgone
  intro R c hl he _
  cases c with
  | granuleDelegate b => exact absurd rfl (he.2 b)
  | granuleUndelegate b =>
    constructor
    · intro hb
      obtain rfl : b = a := by simpa using hb
      exact hl.1
    · have hne : (Cmd.granuleUndelegate b == Cmd.granuleUndelegate a) = false ↔ a ≠ b := by
        rw [beq_eq_false_iff_ne, ne_eq, Cmd.granuleUndelegate.injEq]
        exact ⟨Ne.symm, Ne.symm⟩
      rw [hne]
      simp [RmmState.apply]
  | _ => exact ⟨fun h => absurd h (by simp), by simp [RmmState.apply]⟩

end RmmAcs.Rmm
