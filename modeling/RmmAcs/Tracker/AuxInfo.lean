/-
# Bookkeeping of auxiliary mappings

A data granule or an unprotected mapping can be mapped in the auxiliary trees of its realm too,
and its node remembers in which.  `val_host_update_aux_rtt_info` looks for the node in the slot of
the realm and writes one flag of it.

It is prepared for a list that is empty, and for a state it has no list for.  It is NOT prepared for
a search without result: after the loop it writes through the cursor, which is then NULL.  Nor does
it look at the index of the tree.  So the function does what it is for exactly if one of the two
things it checks is the case, or the node is there and the index is one of an auxiliary tree
(`aux_info_kept_iff`).  This holds of any memory, circular lists included.
-/
import RmmAcs.Tracker.Run

namespace RmmAcs.Granules

open RmmAcs Lib Rmm

/-! ## 1. What the function is for -/

/-- The list that has the nodes of a state. -/
def auxList : GranuleState → Option GranType
  | .data => some .data
  | .unprotected => some .validNs
  | _ => none

/-- `b` is the first node with this IPA in the list of this state in the realm's slot. -/
def FindsNode (granState : GranuleState) (rd ipa : UInt64) (t : Tracker) (b : Ptr) : Prop :=
  ∃ k l, auxList granState = some k ∧
    Leads t.mem (fun g => g.ipa == ipa) (t.list (valHostGetCurrRealm rd t, k)) l b

/-- The indices of the auxiliary trees. -/
def AuxIndex (rttIndex : UInt64) : Prop := 1 ≤ rttIndex.toNat ∧ rttIndex.toNat ≤ maxAuxPlanes

/-- **The contract.**  If there is the node and the index, one flag of that node is written and the
function succeeds; if not, it fails and no node is written. -/
structure AuxInfoKept (granState : GranuleState) (rd rttIndex ipa : UInt64) (val : Bool)
    (t : Tracker) : Prop where
  found : ∀ b, FindsNode granState rd ipa t b → ∀ i : Fin maxAuxPlanes, rttIndex.toNat = i + 1 →
    valHostUpdateAuxRttInfo granState rd rttIndex ipa val t
      = .ok (true, { t with currentRealm := valHostGetCurrRealm rd t }.modify b
          (withAuxiliary i val))
  missing : (¬ ∃ b, FindsNode granState rd ipa t b ∧ AuxIndex rttIndex) →
    ∃ t', valHostUpdateAuxRttInfo granState rd rttIndex ipa val t = .ok (false, t') ∧
      t'.mem = t.mem

/-! ## 2. What it does -/

section Cases

variable {granState : GranuleState} {rd rttIndex ipa : UInt64} {val : Bool} {t : Tracker}
  {k : GranType}

/-- The index as the array sees it. -/
theorem auxIndex_iff : AuxIndex rttIndex ↔ (rttIndex - 1).toNat < maxAuxPlanes := by
  have hplanes : maxAuxPlanes = 3 := rfl
  have hlt := rttIndex.toNat_lt
  rw [AuxIndex, hplanes, UInt64.toNat_sub, UInt64.toNat_one]
  omega

theorem auxInfo_none (h : auxList granState = none) :
    valHostUpdateAuxRttInfo granState rd rttIndex ipa val t
      = .ok (false, { t with currentRealm := valHostGetCurrRealm rd t }) := by
  unfold valHostUpdateAuxRttInfo
  cases granState <;> first | rfl | exact absurd h (by simp [auxList])

/-- With a list there is, the function is its search. -/
theorem auxInfo_some (h : auxList granState = some k) :
    valHostUpdateAuxRttInfo granState rd rttIndex ipa val t
      = match t.list (valHostGetCurrRealm rd t, k) with
        | none => .ok (false, { t with currentRealm := valHostGetCurrRealm rd t })
        | some a =>
          match scan t.mem (fun g => g.ipa == ipa) loopFuel none (some a) with
          | none => .error .endless
          | some (_, none) => .error .nullDeref
          | some (_, some b) =>
            if h : (rttIndex - 1).toNat < maxAuxPlanes then
              .ok (true, { t with currentRealm := valHostGetCurrRealm rd t }.modify b
                (withAuxiliary ⟨(rttIndex - 1).toNat, h⟩ val))
            else .error .outOfBounds := by
  unfold valHostUpdateAuxRttInfo
  cases granState <;> first | (obtain rfl := Option.some.inj h; rfl) | exact absurd h (by simp [auxList])

/-- The node is there. -/
theorem auxInfo_found {b : Ptr} (h : FindsNode granState rd ipa t b) :
    valHostUpdateAuxRttInfo granState rd rttIndex ipa val t
      = if h : (rttIndex - 1).toNat < maxAuxPlanes then
          .ok (true, { t with currentRealm := valHostGetCurrRealm rd t }.modify b
            (withAuxiliary ⟨(rttIndex - 1).toNat, h⟩ val))
        else .error .outOfBounds := by
  obtain ⟨k, l, hk, hl⟩ := h
  obtain ⟨r, hscan⟩ := hl.scan (q := none) (length_lt_of_nodup hl.nodup)
  rw [auxInfo_some hk]
  cases hp : t.list (valHostGetCurrRealm rd t, k) with
  | none =>
    rw [hp] at hscan
    exact absurd hscan (by simp [loopFuel, scan])
  | some a =>
    rw [hp] at hscan
    simp only [hscan]

/-- The node is not there, in a list that is not empty. -/
theorem auxInfo_lost (hk : auxList granState = some k)
    (hp : t.list (valHostGetCurrRealm rd t, k) ≠ none)
    (hno : ∀ b, ¬ FindsNode granState rd ipa t b) :
    ∃ e, valHostUpdateAuxRttInfo granState rd rttIndex ipa val t = .error e := by
  obtain ⟨a, ha⟩ := Option.ne_none_iff_exists'.mp hp
  rw [auxInfo_some hk, ha]
  match hs : scan t.mem (fun g => g.ipa == ipa) loopFuel none (some a) with
  | none => exact ⟨.endless, by simp only [hs]⟩
  | some (r, none) => exact ⟨.nullDeref, by simp only [hs]⟩
  | some (r, some b) =>
    obtain ⟨l, hl⟩ := leads_of_scan hs
    exact absurd ⟨k, l, hk, ha ▸ hl⟩ (hno b)

end Cases

/-! ## 3. When it does what it is for -/

/-- **The contract is kept exactly if** there is no list for the state, or the list is empty, or
the node is in the list and the index is one of an auxiliary tree. -/
theorem aux_info_kept_iff (granState : GranuleState) (rd rttIndex ipa : UInt64) (val : Bool)
    (t : Tracker) :
    AuxInfoKept granState rd rttIndex ipa val t ↔
      auxList granState = none ∨
        (∃ k, auxList granState = some k ∧ t.list (valHostGetCurrRealm rd t, k) = none) ∨
        (∃ b, FindsNode granState rd ipa t b) ∧ AuxIndex rttIndex := by
  constructor
  · intro hkept
    cases hk : auxList granState with
    | none => exact Or.inl rfl
    | some k =>
      right
      by_cases hp : t.list (valHostGetCurrRealm rd t, k) = none
      · exact Or.inl ⟨k, rfl, hp⟩
      · right
        by_contra hno
        obtain ⟨t', hret, -⟩ := hkept.missing fun ⟨b, hb, hi⟩ => hno ⟨⟨b, hb⟩, hi⟩
        by_cases hfound : ∃ b, FindsNode granState rd ipa t b
        · -- a node, and an index outside the array
          obtain ⟨b, hb⟩ := hfound
          have hidx : ¬ (rttIndex - 1).toNat < maxAuxPlanes :=
            fun hi => hno ⟨⟨b, hb⟩, auxIndex_iff.mpr hi⟩
          rw [auxInfo_found hb, dif_neg hidx] at hret
          exact absurd hret (by simp)
        · obtain ⟨e, he⟩ : ∃ e, valHostUpdateAuxRttInfo granState rd rttIndex ipa val t = .error e :=
            auxInfo_lost hk hp fun b hb => hfound ⟨b, hb⟩
          rw [he] at hret
          exact absurd hret (by simp)
  · intro hcond
    constructor
    · intro b hb i hi
      have hidx : (rttIndex - 1).toNat < maxAuxPlanes :=
        auxIndex_iff.mp ⟨by omega, by have := i.isLt; omega⟩
      have hi' : (⟨(rttIndex - 1).toNat, hidx⟩ : Fin maxAuxPlanes) = i := by
        refine Fin.ext ?_
        change (rttIndex - 1).toNat = i
        rw [UInt64.toNat_sub, UInt64.toNat_one]
        have hlt := rttIndex.toNat_lt
        omega
      rw [auxInfo_found hb, dif_pos hidx, hi']
    · intro hnone
      rcases hcond with hk | ⟨k, hk, hp⟩ | ⟨⟨b, hb⟩, hi⟩
      · exact ⟨_, auxInfo_none hk, rfl⟩
      · rw [auxInfo_some hk, hp]
        exact ⟨_, rfl, rfl⟩
      · exact absurd ⟨b, hb, hi⟩ hnone

/-- A realm with one data granule, at IPA 0. -/
def realmWithData : List Act :=
  [.call (.granuleDelegate 0x1000), .call (.granuleDelegate 0x2000), .call (.realmCreate 0x1000 0),
    .call (.dataCreateUnknown 0x1000 0x2000 0)]

/-- The search for IPA 0x5000 ends in a NULL pointer. -/
def derefsNull (h : Host) : Bool :=
  match valHostUpdateAuxRttInfo .data 0x1000 1 0x5000 true h.tracker with
  | .error .nullDeref => true
  | _ => false

/-- **An IPA that has no node**: the function neither fails nor succeeds. -/
theorem aux_info_null_pointer :
    ∃ h, Reachable (exactMonitor 0) true (fun _ _ => True) h ∧
      valHostUpdateAuxRttInfo .data 0x1000 1 0x5000 true h.tracker = .error .nullDeref ∧
      ¬ AuxInfoKept .data 0x1000 1 0x5000 true h.tracker := by
  obtain ⟨h, hreach, hp⟩ := reachable_of_runActs (exactMonitor 0) true (fun _ a => a.plain)
    (fun _ _ ha => ⟨Act.fits_of_plain ha, trivial⟩) realmWithData derefsNull (by decide +kernel)
  have hnull : valHostUpdateAuxRttInfo .data 0x1000 1 0x5000 true h.tracker = .error .nullDeref := by
    unfold derefsNull at hp
    split at hp
    · assumption
    · exact absurd hp (by decide)
  refine ⟨h, hreach, hnull, fun hkept => ?_⟩
  by_cases hfound : ∃ b, FindsNode .data 0x1000 0x5000 h.tracker b
  · obtain ⟨b, hb⟩ := hfound
    rw [hkept.found b hb 0 (by decide)] at hnull
    exact absurd hnull (by simp)
  · obtain ⟨t', hret, -⟩ := hkept.missing fun ⟨b, hb, _⟩ => hfound ⟨b, hb⟩
    rw [hret] at hnull
    exact absurd hnull (by simp)

end RmmAcs.Granules
