/-
# The statements that can fail

`val_host_realm_create` and `val_host_rec_create` are sequences of three kinds of statements that
can fail -- an allocation, a delegation, a command that makes an object -- each followed by a
`goto`.  The labels of the model are the POINTS at which a call can fail; which label of the
source a point jumps to, the cleanup says.

What is known in the middle of such a call is known of its variables and of the part of the log
that is its own (`Since`), and each kind of statement has a rule that extends it.
-/
import RmmAcs.Lib.Goto
import RmmAcs.Realm.Env

namespace RmmAcs.Realm

open RmmAcs Lib Rmm

/-! ## 1. The realm structure -/

/-- `val_host_realm_state_te`. -/
inductive RealmState where
  | null
  | new
  | active
  | systemOff
deriving DecidableEq, Repr

/-- `val_host_realm_ts`, without the tables of mapped granules and the vector length, which the
functions of this directory do not use.  An array is a function from the index.  The arrays of
the auxiliary planes have `VAL_MAX_AUX_PLANES` entries. -/
structure HostRealm where
  flags : UInt64
  flags1 : UInt64
  s2sz : UInt8
  numBps : UInt8
  numWps : UInt8
  pmuNumCtrs : UInt8
  hashAlgo : UInt8
  rpv : List UInt8
  vmid : UInt16
  s2StartingLevel : UInt64
  numS2SlRtts : UInt32
  recCount : UInt64
  numAuxPlanes : UInt8
  mecid : UInt64
  imagePaBase : UInt64
  auxImagePaBase : ℕ → UInt64
  imagePaSize : UInt64
  rd : UInt64
  rttL0Addr : UInt64
  rttAuxL0Addr : ℕ → UInt64
  /-- `rec[]` and `run[]`. -/
  recPa : ℕ → UInt64
  runPa : ℕ → UInt64
  auxCount : UInt64
  recAuxGranules : ℕ → UInt64
  state : RealmState
  numAuxPlanes_le : numAuxPlanes.toNat ≤ 3

/-- A realm structure that a test has cleared, with its RTTs, RECs and planes still to be set. -/
def HostRealm.cleared : HostRealm where
  flags := 0
  flags1 := 0
  s2sz := 40
  numBps := 0
  numWps := 0
  pmuNumCtrs := 0
  hashAlgo := 0
  rpv := []
  vmid := 0
  s2StartingLevel := 0
  numS2SlRtts := 1
  recCount := 1
  numAuxPlanes := 0
  mecid := 0
  imagePaBase := 0
  auxImagePaBase := fun _ => 0
  imagePaSize := 0
  rd := 0
  rttL0Addr := 0
  rttAuxL0Addr := fun _ => 0
  recPa := fun _ => 0
  runPa := fun _ => 0
  auxCount := 0
  recAuxGranules := fun _ => 0
  state := .null
  numAuxPlanes_le := by decide

/-- A failed call, as the three things it returns. -/
theorem failed_eq {α β : Type} {r : Bool × α × β} (h : r.1 = false) :
    r = (false, r.2.1, r.2.2) := by
  obtain ⟨b, a, c⟩ := r
  obtain rfl : b = false := h
  rfl

/-! ## 2. Statements -/

variable {τ ℓ : Type}

/-- The variables of a call, and the log. -/
structure Call (τ : Type) where
  vars : τ
  log : Log

/-- `x = val_host_mem_alloc(..); if (!x) goto fail`. -/
def allocate (env : Env) (alignment size : τ → UInt64) (set : UInt64 → τ → τ) (fail : ℓ) :
    Code (Call τ) ℓ := fun s =>
  let (addr, l) := env.malloc (alignment s.vars) (size s.vars) s.log
  (if addr = 0 then some fail else none, ⟨set addr s.vars, l⟩)

/-- `ret = val_host_rmi_..(..); if (ret) goto fail`. -/
def command (env : Env) (c : τ → Cmd) (fail : ℓ) : Code (Call τ) ℓ := fun s =>
  let (ret, l) := env.rmi (c s.vars) s.log
  (if ret ≠ 0 then some fail else none, ⟨s.vars, l⟩)

/-- A statement on the variables alone. -/
def assign (f : τ → τ) : Code (Call τ) ℓ := Code.act fun s => ⟨f s.vars, s.log⟩

/-- A parameter page, as it is when the RMM comes to read it. -/
def store (e : τ → Event) : Code (Call τ) ℓ := Code.act fun s => ⟨s.vars, s.log ++ [e s.vars]⟩

/-- `val_host_rmi_granule_undelegate`, whose status is only logged. -/
def undelegate (env : Env) (addr : τ → UInt64) : Code (Call τ) ℓ :=
  Code.act fun s => ⟨s.vars, (env.rmi (.granuleUndelegate (addr s.vars)) s.log).2⟩

/-! ## 3. Rules -/

/-- What holds of the variables and of the log since `l₀`. -/
def Since (l₀ : Log) (P : τ → Log → Prop) (s : Call τ) : Prop :=
  ∃ seg, s.log = l₀ ++ seg ∧ P s.vars seg

section Rules

variable {env : Env} {l₀ : Log} {P Q : τ → Log → Prop} {E : ℓ → τ → Log → Prop} {fail : ℓ}

theorem Since.mono {s : Call τ} (h : Since l₀ P s) (hPQ : ∀ v seg, P v seg → Q v seg) :
    Since l₀ Q s := by
  obtain ⟨seg, hl, hP⟩ := h
  exact ⟨seg, hl, hPQ _ _ hP⟩

theorem allocate_triple {alignment size : τ → UInt64} {set : UInt64 → τ → τ}
    (hQ : ∀ v seg a, P v seg → a = env.alloc (l₀ ++ seg) (alignment v) (size v) → a ≠ 0 →
      Q (set a v) (seg ++ [.alloc (alignment v) (size v) a]))
    (hE : ∀ v seg, P v seg → E fail (set 0 v) (seg ++ [.alloc (alignment v) (size v) 0])) :
    Code.Triple (Since l₀ P) (allocate env alignment size set fail) (Since l₀ Q)
      fun l => Since l₀ (E l) := by
  rintro ⟨v, _⟩ ⟨seg, rfl, hP⟩
  unfold allocate Env.malloc
  dsimp only
  by_cases h0 : env.alloc (l₀ ++ seg) (alignment v) (size v) = 0
  · rw [if_pos h0, h0]
    exact ⟨_, List.append_assoc _ _ _, hE v seg hP⟩
  · rw [if_neg h0]
    exact ⟨_, List.append_assoc _ _ _, hQ v seg _ hP rfl h0⟩

theorem command_triple {c : τ → Cmd}
    (hQ : ∀ v seg, P v seg → (env.smc (l₀ ++ seg) (.rmi (c v))).x0 = 0 →
      Q v (seg ++ [.smc (.rmi (c v)) (env.smc (l₀ ++ seg) (.rmi (c v)))]))
    (hE : ∀ v seg r, P v seg → r.x0 ≠ 0 → E fail v (seg ++ [.smc (.rmi (c v)) r])) :
    Code.Triple (Since l₀ P) (command env c fail) (Since l₀ Q) fun l => Since l₀ (E l) := by
  rintro ⟨v, _⟩ ⟨seg, rfl, hP⟩
  unfold command Env.rmi Env.call
  dsimp only
  by_cases h0 : (env.smc (l₀ ++ seg) (.rmi (c v))).x0 = 0
  · rw [if_neg (not_not.mpr h0)]
    exact ⟨_, List.append_assoc _ _ _, hQ v seg hP h0⟩
  · rw [if_pos h0]
    exact ⟨_, List.append_assoc _ _ _, hE v seg _ hP h0⟩

theorem store_triple {e : τ → Event} (hQ : ∀ v seg, P v seg → Q v (seg ++ [e v])) :
    Code.Triple (Since l₀ P) (store e) (Since l₀ Q) fun (l : ℓ) => Since l₀ (E l) := by
  refine Code.triple_act ?_
  rintro ⟨v, _⟩ ⟨seg, rfl, hP⟩
  exact ⟨_, List.append_assoc _ _ _, hQ v seg hP⟩

theorem undelegate_triple {addr : τ → UInt64}
    (hQ : ∀ v seg, P v seg → Q v (seg ++ [.smc (.rmi (.granuleUndelegate (addr v)))
      (env.smc (l₀ ++ seg) (.rmi (.granuleUndelegate (addr v))))])) :
    Code.Triple (Since l₀ P) (undelegate env addr) (Since l₀ Q) fun (l : ℓ) => Since l₀ (E l) := by
  refine Code.triple_act ?_
  rintro ⟨v, _⟩ ⟨seg, rfl, hP⟩
  exact ⟨_, List.append_assoc _ _ _, hQ v seg hP⟩

theorem assign_triple {f : τ → τ} (hQ : ∀ v seg, P v seg → Q (f v) seg) :
    Code.Triple (Since l₀ P) (assign f) (Since l₀ Q) fun (l : ℓ) => Since l₀ (E l) := by
  refine Code.triple_act ?_
  rintro ⟨v, _⟩ ⟨seg, rfl, hP⟩
  exact ⟨seg, rfl, hQ v seg hP⟩

end Rules

/-! ## 4. What a statement leaves alone of the variables -/

section Keeps

variable {I : τ → Prop} {fail : ℓ}

theorem allocate_keeps (env : Env) (alignment size : τ → UInt64) {set : UInt64 → τ → τ}
    (hset : ∀ a v, I v → I (set a v)) :
    Code.Keeps (fun s => I s.vars) (allocate env alignment size set fail) :=
  fun s hs => Code.exit_same_iff.mpr (hset _ s.vars hs)

theorem command_keeps (env : Env) (c : τ → Cmd) :
    Code.Keeps (fun s => I s.vars) (command env c fail) :=
  fun _ hs => Code.exit_same_iff.mpr hs

theorem assign_keeps {f : τ → τ} (hf : ∀ v, I v → I (f v)) :
    Code.Keeps (fun s => I s.vars) (assign f : Code (Call τ) ℓ) :=
  fun s hs => hf s.vars hs

theorem store_keeps (e : τ → Event) :
    Code.Keeps (fun s => I s.vars) (store e : Code (Call τ) ℓ) :=
  fun _ hs => hs

end Keeps

end RmmAcs.Realm
