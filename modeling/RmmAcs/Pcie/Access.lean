/-
# What is done to one function

The routines that program BARs and windows work on ONE function, through reads and writes of its
registers; how these reach it does not matter to them.  So whatever they do through one access they
do through another that it simulates (`palPcieProgramBarReg_sim` and its companions): through the
configuration space, where each access is routed through the hierarchy, or on the function at hand.

They end, because each round moves on by at least one register; and what every write keeps, they
keep.
-/
import RmmAcs.Pcie.Enumerate

namespace RmmAcs.Pcie

/-! ## 1. One access for another -/

/-- The state of the loop, under `h`. -/
def BarState.map {σ τ : Type} (h : σ → τ) (st : BarState σ) : BarState τ :=
  ⟨h st.cfg, st.g, st.offset, st.last⟩

section Sim

variable {σ τ : Type} {a : Access σ} {b : Access τ} {h : σ → τ}

theorem probe32_sim (hsim : a.Sim b h) (offset : ℕ) (s : σ) :
    probe32 b offset (h s) = ((probe32 a offset s).1, h (probe32 a offset s).2) := by
  simp only [probe32, hsim.read, hsim.write]

theorem probe64_sim (hsim : a.Sim b h) (offset : ℕ) (s : σ) :
    probe64 b offset (h s) = ((probe64 a offset s).1, h (probe64 a offset s).2) := by
  simp only [probe64, hsim.read, hsim.write]

@[simp] theorem BarState.map_offset (st : BarState σ) : (st.map h).offset = st.offset := rfl

@[simp] theorem BarState.map_cfg (st : BarState σ) : (st.map h).cfg = h st.cfg := rfl

theorem BarState.withCfg_map (st : BarState σ) (s : σ) :
    (st.map h).withCfg (h s) = (st.withCfg s).map h := rfl

theorem BarState.moveOn_map (st : BarState σ) (n : ℕ) :
    (st.map h).moveOn n = (st.moveOn n).map h := rfl

theorem BarState.place_map (st : BarState σ) (kind : PoolKind) (bus barSize : ℕ) :
    (st.map h).place kind bus barSize
      = ((st.place kind bus barSize).1, (st.place kind bus barSize).2.map h) := rfl

theorem writeBar64_sim (hsim : a.Sim b h) (start : ℕ) (st : BarState σ) :
    writeBar64 b start (st.map h) = (writeBar64 a start st).map h := by
  simp only [writeBar64, BarState.map_offset, BarState.map_cfg, hsim.write, BarState.withCfg_map,
    BarState.moveOn_map]

theorem writeBar32_sim (hsim : a.Sim b h) (start : ℕ) (st : BarState σ) :
    writeBar32 b start (st.map h) = (writeBar32 a start st).map h := by
  simp only [writeBar32, BarState.map_offset, BarState.map_cfg, hsim.write, BarState.withCfg_map,
    BarState.moveOn_map]

theorem writeBarIo_sim (hsim : a.Sim b h) (start : ℕ) (st : BarState σ) :
    writeBarIo b start (st.map h) = (writeBarIo a start st).map h := by
  simp only [writeBarIo, BarState.map_offset, BarState.map_cfg, hsim.write, hsim.read,
    BarState.withCfg_map, BarState.moveOn_map]
  exact (apply_ite (BarState.map h) _ _ _).symm

theorem programBar64_sim (hsim : a.Sim b h) (bus : ℕ) (st : BarState σ) :
    programBar64 b bus (st.map h) = (programBar64 a bus st).map h := by
  simp only [programBar64, BarState.map_offset, BarState.map_cfg, probe64_sim hsim,
    BarState.withCfg_map, BarState.moveOn_map, BarState.place_map, writeBar64_sim hsim]
  exact (apply_ite (BarState.map h) _ _ _).symm

theorem programBar32_sim (hsim : a.Sim b h) (bus : ℕ) (st : BarState σ) :
    programBar32 b bus (st.map h) = (programBar32 a bus st).map h := by
  simp only [programBar32, BarState.map_offset, BarState.map_cfg, probe32_sim hsim,
    BarState.withCfg_map, BarState.moveOn_map, BarState.place_map, writeBar32_sim hsim]
  exact (apply_ite (BarState.map h) _ _ _).symm

theorem programBarIo_sim (hsim : a.Sim b h) (bus : ℕ) (st : BarState σ) :
    programBarIo b bus (st.map h) = (programBarIo a bus st).map h := by
  simp only [programBarIo, BarState.map_offset, BarState.map_cfg, probe32_sim hsim,
    BarState.withCfg_map, BarState.moveOn_map, BarState.place_map, writeBarIo_sim hsim]
  exact (apply_ite (BarState.map h) _ _ _).symm

theorem barRound_sim (hsim : a.Sim b h) (bus : ℕ) (st : BarState σ) :
    barRound b bus (st.map h) = (barRound a bus st).map h := by
  simp only [barRound, BarState.map_offset, BarState.map_cfg, hsim.read, programBar64_sim hsim,
    programBar32_sim hsim, programBarIo_sim hsim, apply_ite (BarState.map h)]

theorem barLoop_sim (hsim : a.Sim b h) (bus n : ℕ) (st : BarState σ) :
    barLoop b bus n (st.map h) = (barLoop a bus n st).map (BarState.map h) := by
  induction n generalizing st with
  | zero =>
    by_cases hle : st.offset ≤ 0x24
    · simp [barLoop, hle]
    · simp [barLoop, hle]
  | succ n ih =>
    simp only [barLoop, BarState.map_offset, barRound_sim hsim, ih,
      apply_ite (Option.map (BarState.map h)), Option.map_some]

theorem palPcieProgramBarReg_sim (hsim : a.Sim b h) (bus : ℕ) (s : σ) (g : Globals) :
    palPcieProgramBarReg b bus (h s) g
      = (palPcieProgramBarReg a bus s g).map fun r => (h r.1, r.2) := by
  have hloop := barLoop_sim hsim bus 6 ⟨s, g, 0x10, fun _ => 0⟩
  simp only [palPcieProgramBarReg, Option.map_map]
  rw [BarState.map] at hloop
  rw [hloop, Option.map_map]
  rfl

theorem rpBarRound_sim (hsim : a.Sim b h) (st : σ × UInt32 × ℕ) (rpBar64 : UInt64) :
    rpBarRound b (h st.1, st.2) rpBar64
      = (h (rpBarRound a st rpBar64).1, (rpBarRound a st rpBar64).2) := by
  obtain ⟨s, rpBar32, offset⟩ := st
  simp only [rpBarRound, hsim.read, probe64_sim hsim, probe32_sim hsim, hsim.write]
  split <;> split <;> rfl

theorem rpBarLoop_sim (hsim : a.Sim b h) (rpBar64 : UInt64) (n : ℕ) (st : σ × UInt32 × ℕ) :
    rpBarLoop b rpBar64 n (h st.1, st.2)
      = (rpBarLoop a rpBar64 n st).map fun r => (h r.1, r.2) := by
  induction n generalizing st with
  | zero =>
    simp only [rpBarLoop]
    split <;> rfl
  | succ n ih =>
    simp only [rpBarLoop, rpBarRound_sim hsim, ih]
    split <;> rfl

theorem palPcieRpProgramBar_sim (hsim : a.Sim b h) (s : σ) (g : Globals) :
    palPcieRpProgramBar b (h s) g = (palPcieRpProgramBar a s g).map fun r => (h r.1, r.2) := by
  have hloop := rpBarLoop_sim hsim g.rpBar64 2 (s, g.rpBar32, 0x10)
  simp only [palPcieRpProgramBar, Option.map_map]
  rw [hloop, Option.map_map]
  rfl

theorem resourceBase32_sim (hsim : a.Sim b h) (kind : PoolKind) (offset base limit : ℕ) (s : σ)
    (g : Globals) :
    resourceBase32 b kind offset base limit (h s) g
      = (h (resourceBase32 a kind offset base limit s g).1,
          (resourceBase32 a kind offset base limit s g).2) := by
  simp only [resourceBase32, hsim.read, hsim.write]
  split <;> rfl

theorem getResourceBase32_sim (hsim : a.Sim b h) (pBase npBase pLimit npLimit : ℕ) (s : σ)
    (g : Globals) :
    getResourceBase32 b pBase npBase pLimit npLimit (h s) g
      = (h (getResourceBase32 a pBase npBase pLimit npLimit s g).1,
          (getResourceBase32 a pBase npBase pLimit npLimit s g).2) := by
  simp only [getResourceBase32, resourceBase32_sim hsim]

theorem getResourceBase64_sim (hsim : a.Sim b h) (base limit : ℕ) (s : σ) (g : Globals) :
    getResourceBase64 b base limit (h s) g
      = (h (getResourceBase64 a base limit s g).1, (getResourceBase64 a base limit s g).2) := by
  simp only [getResourceBase64, hsim.write]
  split <;> rfl

theorem enterBridge_sim (hsim : a.Sim b h) (bus sec : ℕ) (g : Globals) (s : σ) :
    enterBridge b bus sec g (h s) = h (enterBridge a bus sec g s) := by
  simp only [enterBridge, hsim.read, hsim.write]

theorem leaveBridge_sim (hsim : a.Sim b h) (bus sub sec : ℕ) (base : PoolKind → ℕ) (s : σ)
    (g : Globals) :
    leaveBridge b bus sub sec base (h s) g
      = (leaveBridge a bus sub sec base s g).map fun r => (h r.1, r.2) := by
  simp only [leaveBridge, hsim.write, getResourceBase32_sim hsim, getResourceBase64_sim hsim,
    palPcieRpProgramBar_sim hsim]

end Sim

/-! ## 2. The loops end -/

section Ends

variable {σ : Type} (acc : Access σ)

/-- A round moves on by a register at least. -/
theorem barRound_offset (bus : ℕ) (st : BarState σ) :
    st.offset + 4 ≤ (barRound acc bus st).offset := by
  have hmove : ∀ {n : ℕ} (st : BarState σ), 4 ≤ n → st.offset + 4 ≤ (st.moveOn n).offset :=
    fun st hn => Nat.add_le_add_left hn st.offset
  have hwrite : ∀ start (st : BarState σ), st.offset + 4 ≤ (writeBarIo acc start st).offset := by
    intro start st
    unfold writeBarIo
    dsimp only
    split
    · exact hmove (st.withCfg _) (by decide)
    · exact hmove (st.withCfg _) (by decide)
  unfold barRound
  dsimp only
  split
  · split
    · unfold programBar64
      dsimp only
      split
      · exact hmove (st.withCfg _) (by decide)
      · exact hmove (BarState.withCfg _ ((st.withCfg _).place .p64 bus _).2) (by decide)
    · unfold programBar32
      dsimp only
      split
      · exact hmove (st.withCfg _) (by decide)
      · exact hmove (BarState.withCfg _ ((st.withCfg _).place .p bus _).2) (by decide)
  · unfold programBarIo
    dsimp only
    split
    · exact hmove (st.withCfg _) (by split <;> decide)
    · refine le_trans (le_of_eq ?_) (hwrite _ _)
      rfl

theorem barLoop_ends (bus n : ℕ) (st : BarState σ) (hn : 0x24 < st.offset + 4 * n) :
    (barLoop acc bus n st).isSome := by
  induction n generalizing st with
  | zero =>
    unfold barLoop
    rw [if_neg (by omega)]
    rfl
  | succ n ih =>
    unfold barLoop
    split
    · have hround := barRound_offset acc bus st
      exact ih _ (by omega)
    · rfl

theorem palPcieProgramBarReg_ends (bus : ℕ) (s : σ) (g : Globals) :
    ∃ s' g', palPcieProgramBarReg acc bus s g = some (s', g') := by
  obtain ⟨st, hst⟩ := Option.isSome_iff_exists.mp
    (barLoop_ends acc bus 6 ⟨s, g, 0x10, fun _ => 0⟩ (by norm_num))
  exact ⟨st.cfg, st.g.setMax, by rw [palPcieProgramBarReg, hst]; rfl⟩

theorem rpBarRound_offset (st : σ × UInt32 × ℕ) (rpBar64 : UInt64) :
    st.2.2 + 4 ≤ (rpBarRound acc st rpBar64).2.2 := by
  obtain ⟨s, rpBar32, offset⟩ := st
  simp only [rpBarRound]
  split <;> split <;> dsimp only <;> omega

theorem rpBarLoop_ends (rpBar64 : UInt64) (n : ℕ) (st : σ × UInt32 × ℕ)
    (hn : 0x14 < st.2.2 + 4 * n) : (rpBarLoop acc rpBar64 n st).isSome := by
  induction n generalizing st with
  | zero =>
    unfold rpBarLoop
    rw [if_neg (by omega)]
    rfl
  | succ n ih =>
    unfold rpBarLoop
    split
    · have hround := rpBarRound_offset acc st rpBar64
      exact ih _ (by omega)
    · rfl

theorem palPcieRpProgramBar_ends (s : σ) (g : Globals) :
    ∃ s' g', palPcieRpProgramBar acc s g = some (s', g') := by
  obtain ⟨r, hr⟩ := Option.isSome_iff_exists.mp
    (rpBarLoop_ends acc g.rpBar64 2 (s, g.rpBar32, 0x10) (by norm_num))
  exact ⟨r.1, { g with rpBar32 := r.2 }, by rw [palPcieRpProgramBar, hr]; rfl⟩

end Ends

/-! ## 3. What every write keeps -/

section Keeps

variable {σ : Type} {acc : Access σ} {I : σ → Prop}

theorem barRound_keeps (hI : ∀ offset v s, I s → I (acc.write offset v s)) (bus : ℕ)
    {st : BarState σ} (hst : I st.cfg) : I (barRound acc bus st).cfg := by
  have hwrite : ∀ start (st : BarState σ), I st.cfg → I (writeBarIo acc start st).cfg := by
    intro start st hst
    unfold writeBarIo
    dsimp only
    split
    · exact hI _ _ _ (hI _ _ _ hst)
    · exact hI _ _ _ hst
  have h32 : I (probe32 acc st.offset st.cfg).2 := hI _ _ _ hst
  have h64 : I (probe64 acc st.offset st.cfg).2 := hI _ _ _ (hI _ _ _ hst)
  unfold barRound
  dsimp only
  split
  · split
    · unfold programBar64
      dsimp only
      split
      · exact h64
      · exact hI _ _ _ (hI _ _ _ h64)
    · unfold programBar32
      dsimp only
      split
      · exact h32
      · exact hI _ _ _ h32
  · unfold programBarIo
    dsimp only
    split
    · exact h32
    · exact hwrite _ ((st.withCfg _).place .np bus _).2 h32

theorem barLoop_keeps (hI : ∀ offset v s, I s → I (acc.write offset v s)) (bus n : ℕ)
    {st st' : BarState σ} (hst : I st.cfg) (h : barLoop acc bus n st = some st') : I st'.cfg := by
  induction n generalizing st with
  | zero =>
    unfold barLoop at h
    split at h
    · exact absurd h (by simp)
    · obtain rfl := Option.some.inj h
      exact hst
  | succ n ih =>
    unfold barLoop at h
    split at h
    · exact ih (barRound_keeps hI bus hst) h
    · obtain rfl := Option.some.inj h
      exact hst

theorem palPcieProgramBarReg_keeps (hI : ∀ offset v s, I s → I (acc.write offset v s)) {bus : ℕ}
    {s s' : σ} {g g' : Globals} (hs : I s)
    (h : palPcieProgramBarReg acc bus s g = some (s', g')) : I s' := by
  obtain ⟨st, hst, heq⟩ := Option.map_eq_some_iff.mp h
  obtain ⟨rfl, -⟩ := Prod.mk.inj heq
  exact barLoop_keeps hI bus 6 hs hst

end Keeps

end RmmAcs.Pcie
