/-
# Plane permissions: `val_realm_plane_perm_init`

A realm with planes gives a plane its access permissions range by range.  RSI_MEM_SET_PERM_INDEX
does as much of `[base, top)` as it can and answers where it stopped, with a cookie to be passed
next time; the loop goes on from there until it is at `top`.

The answers come from the RMM, which is a parameter.  Of the ways a call can fail the loop knows
two, RSI_ERROR_INPUT and a REJECT; with any other it takes the `x1` of a failed call for the place
where it stopped.  So a call that returns `VAL_SUCCESS` has initialised its range if and only if no
such answer has moved it (`plane_perm_init_complete`).
-/
import RmmAcs.Lib.Tiling

namespace RmmAcs.Planes

open RmmAcs Lib

/-! ## 1. The realm's side of the RSI -/

/-- The two commands of the function. -/
inductive RsiCall where
  | memSetPermValue (planeIndex permIndex value : UInt64)
  | memSetPermIndex (base top permIndex cookie : UInt64)
deriving DecidableEq, Repr

/-- The registers a command returns in. -/
structure RsiRet where
  x0 : UInt64
  x1 : UInt64
  x2 : UInt64
  x3 : UInt64
deriving DecidableEq, Repr

/-- The commands so far with their answers, oldest first. -/
abbrev RsiLog := List (RsiCall × RsiRet)

/-- The RMM: an answer to every command after every history. -/
abbrev Rsi := RsiLog → RsiCall → RsiRet

/-- `RSI_SUCCESS`. -/
def rsiSuccess : UInt64 := 0

/-- `RSI_ERROR_INPUT`. -/
def rsiErrorInput : UInt64 := 1

/-- `RSI_ERROR_STATE`. -/
def rsiErrorState : UInt64 := 2

/-- `RSI_ACCEPT`. -/
def rsiAccept : UInt64 := 0

/-- `RSI_REJECT`. -/
def rsiReject : UInt64 := 1

/-- `S2_AP_RW_upX`. -/
def s2ApRwUpX : UInt64 := 15

/-! ## 2. The function -/

/-- `while (base != top)`; `none` is a loop that has not ended after so many rounds. -/
def permLoop (rsi : Rsi) (permIdx top : UInt64) :
    ℕ → UInt64 → UInt64 → RsiLog → Option (Bool × RsiLog)
  | 0, _, _, _ => none
  | n + 1, base, cookieValue, l =>
    if base = top then some (true, l)
    else
      let cmdRet := rsi l (.memSetPermIndex base top permIdx cookieValue)
      let l := l ++ [(.memSetPermIndex base top permIdx cookieValue, cmdRet)]
      if cmdRet.x0 = rsiErrorInput ∨ cmdRet.x2 = rsiReject then some (false, l)
      else permLoop rsi permIdx top n cmdRet.x1 cmdRet.x3 l

/-- `val_realm_plane_perm_init`; `true` is `VAL_SUCCESS`. -/
def valRealmPlanePermInit (rsi : Rsi) (fuel : ℕ) (planeIdx permIdx base top : UInt64) (l : RsiLog) :
    Option (Bool × RsiLog) :=
  let cmdRet := rsi l (.memSetPermValue planeIdx permIdx s2ApRwUpX)
  let l := l ++ [(.memSetPermValue planeIdx permIdx s2ApRwUpX, cmdRet)]
  if cmdRet.x0 ≠ 0 then some (false, l) else permLoop rsi permIdx top fuel base 0 l

/-! ## 3. What a call has initialised -/

/-- A RSI_MEM_SET_PERM_INDEX as the loop sees it.  Only RSI_SUCCESS with response ACCEPT is a
success. -/
def attempt : RsiCall × RsiRet → Option (Attempt ℕ)
  | (.memSetPermIndex base _ _ _, r) =>
    some ⟨base.toNat, r.x1.toNat, r.x0 == rsiSuccess && r.x2 == rsiAccept⟩
  | _ => none

def attempts (l : RsiLog) : List (Attempt ℕ) := l.filterMap attempt

/-- Each RSI_MEM_SET_PERM_INDEX passes the cookie that the one before returned. -/
def Threaded : UInt64 → RsiLog → Prop
  | _, [] => True
  | cookie, (.memSetPermIndex _ _ _ cookie', r) :: l => cookie' = cookie ∧ Threaded r.x3 l
  | cookie, _ :: l => Threaded cookie l

/-- **The range is initialised**: the calls that succeeded tile it, the cookies are passed on, and
a call that failed has contributed nothing. -/
structure Initialised (base top : UInt64) (seg : RsiLog) : Prop where
  tiles : Tiles base.toNat (done (attempts seg)) top.toNat
  cookies : Threaded 0 seg
  failed : ∀ c ∈ attempts seg, c.ok = false → c.next = c.start

/-- **The loop**: the calls are linked, whatever the answers. -/
theorem permLoop_linked {rsi : Rsi} {permIdx top : UInt64} {n : ℕ} {base cookie : UInt64}
    {l l' : RsiLog} (h : permLoop rsi permIdx top n base cookie l = some (true, l')) :
    ∃ seg, l' = l ++ seg ∧ Linked base.toNat (attempts seg) top.toNat ∧ Threaded cookie seg := by
  induction n generalizing base cookie l with
  | zero => exact absurd h (by simp [permLoop])
  | succ n ih =>
    unfold permLoop at h
    split at h
    · rename_i hend
      obtain rfl := (Prod.mk.inj (Option.some.inj h)).2
      exact ⟨[], by simp, congrArg UInt64.toNat hend, trivial⟩
    · dsimp only at h
      split at h
      · exact absurd h (by simp)
      · obtain ⟨seg, rfl, hlinked, hcookies⟩ := ih h
        refine ⟨(.memSetPermIndex base top permIdx cookie,
          rsi l (.memSetPermIndex base top permIdx cookie)) :: seg, by simp, ?_, ?_⟩
        · exact ⟨rfl, hlinked⟩
        · exact ⟨rfl, hcookies⟩

/-- **When a successful call has initialised its range.**  Exactly if every
RSI_MEM_SET_PERM_INDEX of it that succeeded answered an end not below its base, and every other one
answered its own base. -/
theorem plane_perm_init_complete {rsi : Rsi} {fuel : ℕ} {planeIdx permIdx base top : UInt64}
    {l l' : RsiLog}
    (h : valRealmPlanePermInit rsi fuel planeIdx permIdx base top l = some (true, l')) :
    Initialised base top (l'.drop l.length) ↔ ∀ c ∈ attempts (l'.drop l.length), c.Sane := by
  unfold valRealmPlanePermInit at h
  dsimp only at h
  split at h
  · exact absurd h (by simp)
  · obtain ⟨seg, rfl, hlinked, hcookies⟩ := permLoop_linked h
    rw [List.append_assoc, List.drop_left, List.singleton_append]
    -- the command before the loop is no attempt
    have hseg : attempts ((.memSetPermValue planeIdx permIdx s2ApRwUpX,
        rsi l (.memSetPermValue planeIdx permIdx s2ApRwUpX)) :: seg) = attempts seg :=
      List.filterMap_cons_none rfl
    constructor
    · rintro ⟨htiles, -, hfailed⟩
      rw [hseg] at htiles hfailed ⊢
      exact (tiles_iff hlinked).mp ⟨htiles, hfailed⟩
    · intro hsane
      rw [hseg] at hsane
      obtain ⟨htiles, hfailed⟩ := (tiles_iff hlinked).mpr hsane
      exact ⟨by rwa [hseg], hcookies, by rwa [hseg]⟩

/-- An RMM that does two pages at a time, and hands out cookies. -/
def twoPages : Rsi := fun l c =>
  match c with
  | .memSetPermValue _ _ _ => ⟨0, 0, 0, 0⟩
  | .memSetPermIndex base top _ _ =>
    ⟨0, if base + 0x2000 < top then base + 0x2000 else top, 0, UInt64.ofNat l.length⟩

theorem plane_perm_init_complete_in_two_calls :
    ∃ l', valRealmPlanePermInit twoPages 3 1 1 0x1000 0x4000 [] = some (true, l') ∧
      Initialised 0x1000 0x4000 l' := by
  have hrun : valRealmPlanePermInit twoPages 3 1 1 0x1000 0x4000 [] = some (true,
      [(.memSetPermValue 1 1 15, ⟨0, 0, 0, 0⟩), (.memSetPermIndex 0x1000 0x4000 1 0, ⟨0, 0x3000, 0, 1⟩),
        (.memSetPermIndex 0x3000 0x4000 1 1, ⟨0, 0x4000, 0, 2⟩)]) := by decide
  exact ⟨_, hrun, (plane_perm_init_complete hrun).mpr (by decide)⟩

/-- An RMM in which the realm is in the wrong state. -/
def wrongState : Rsi := fun _ c =>
  match c with
  | .memSetPermValue _ _ _ => ⟨0, 0, 0, 0⟩
  | .memSetPermIndex _ top _ _ => ⟨rsiErrorState, top, 0, 0⟩

/-- A call of which every RSI_MEM_SET_PERM_INDEX fails returns `VAL_SUCCESS`. -/
theorem plane_perm_init_of_errors :
    ∃ l', valRealmPlanePermInit wrongState 2 1 1 0x1000 0x4000 [] = some (true, l') ∧
      ¬ Initialised 0x1000 0x4000 l' ∧ done (attempts l') = [] := by
  refine ⟨_, rfl, fun h => ?_, by decide⟩
  exact absurd (h.failed ⟨0x1000, 0x4000, false⟩ (by decide) rfl) (by decide)

end RmmAcs.Planes
