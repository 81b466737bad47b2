/-
# What a verdict owes to the calls before it

The counters of `attestation_realm.c` are never cleared between calls.  Two of them decide the
verdict directly; the third, the fields of a software component, decides the first component of
a call when the call before was abandoned inside one.

Nothing else of a call outlives it, and what is left in the counters can be told from the token
(`Undisturbed`): the fields of the first component that is read pass the test with the left-over
added if and only if they pass it alone, and, if all items are in the expected format, the counts of
the claims pass the two tests at the end with the left-overs added if and only if they do alone.
-/
import RmmAcs.Attest.Verdict
import RmmAcs.Lib.Run

namespace RmmAcs.Attest

open RmmAcs Lib

/-! ## 1. Two runs of one call -/

/-- The test after the first component that is read to its end comes out as it would without the `k`
fields counted before. -/
def FirstComponentKept (k : UInt32) (es : List Event) : Prop :=
  ∀ c ∈ (readComponents es).head?,
    (UInt32.ofNat c.2.length < 2 ↔ UInt32.ofNat c.2.length + k < 2)

theorem firstComponentKept_zero (es : List Event) : FirstComponentKept 0 es := fun _ _ => by
  rw [UInt32.add_zero]

/-- **What is left in the count of fields** matters to the first component only: its test clears the
count. -/
theorem platformVerdict_congr {k : UInt32} {es : List Event} (h : FirstComponentKept k es) :
    platformVerdict k es = platformVerdict 0 es := by
  induction es with
  | nil => rfl
  | cons e es ih =>
    cases e with
    | claim pos it =>
      rw [platformVerdict, platformVerdict, ih h]
    | component start fields =>
      have htest : UInt32.ofNat fields.length < 2 ↔ UInt32.ofNat fields.length + k < 2 :=
        h (start, fields) rfl
      rw [platformVerdict, platformVerdict, UInt32.add_zero]
      simp only [htest]
    | broken => rfl
    | stop st =>
      rw [platformVerdict, platformVerdict, ih h]

/-- If the platform parser accepts from either count, the test came out the same. -/
theorem firstComponentKept_of_success {k : UInt32} {es : List Event}
    (hk : platformVerdict k es = some .success) (h : platformVerdict 0 es = some .success) :
    FirstComponentKept k es := by
  induction es with
  | nil => exact fun _ hc => nomatch hc
  | cons e es ih =>
    cases e with
    | claim pos it =>
      rw [platformVerdict] at hk h
      by_cases hformed : it.platformFormed = true
      · rw [if_pos hformed] at hk h
        exact ih hk h
      · rw [if_neg hformed] at hk
        nomatch hk
    | component start fields =>
      have hpass (j : UInt32)
          (hj : platformVerdict j (.component start fields :: es) = some .success) :
          ¬ UInt32.ofNat fields.length + j < 2 := by
        rw [platformVerdict] at hj
        intro hfew
        rw [if_neg fun hall => hall.2 hfew] at hj
        nomatch hj
      have hnone := hpass 0 h
      rw [UInt32.add_zero] at hnone
      intro c hc
      obtain rfl := Option.some.inj hc
      exact iff_of_false hnone (hpass k hk)
    | broken => nomatch h
    | stop st =>
      rw [platformVerdict] at hk h
      by_cases hend : endStatus st = .success
      · rw [if_pos hend] at hk h
        exact ih hk h
      · rw [if_neg hend] at hk
        nomatch hk

variable (qcbor : Bytes → Decoded) (verifySignature : Bytes → Status)

/-- What earlier calls left in the counters turns over no test made on this token. -/
def Undisturbed (c : Counters) (a : Call) : Prop :=
  verifySignature a.token = .success → ∀ p ∈ platformMap qcbor a.token,
    FirstComponentKept c.swCompFields (platformItems p) ∧
    ((∀ e ∈ platformItems p, e.PlatformFormed) →
      ∀ r ∈ realmMap qcbor a.token, (∀ e ∈ realmItems r, e.RealmFormed qcbor a.challenge) →
        (c.realmClaims + claimCount (realmItems r) = 7 ∧
            8 ≤ c.platformClaims + claimCount (platformItems p) ↔
          claimCount (realmItems r) = 7 ∧ 8 ≤ claimCount (platformItems p)))

theorem undisturbed_zero (a : Call) : Undisturbed qcbor verifySignature Counters.zero a := by
  refine fun _ p _ => ⟨firstComponentKept_zero _, fun _ r _ _ => ?_⟩
  rw [Counters.zero, UInt32.zero_add, UInt32.zero_add]

theorem finalStatus_congr {c d : Counters} : finalStatus c = finalStatus d ↔
    (c.realmClaims = 7 ∧ 8 ≤ c.platformClaims ↔ d.realmClaims = 7 ∧ 8 ≤ d.platformClaims) := by
  have hcases : ∀ e : Counters, finalStatus e = .success ∨ finalStatus e = .error := by
    intro e
    rw [finalStatus]
    split_ifs <;> simp
  rw [← finalStatus_eq_success, ← finalStatus_eq_success]
  rcases hcases c with hc | hc <;> rcases hcases d with hd | hd <;> simp [hc, hd]

/-- The realm half of two calls: only the tests at the end can differ. -/
theorem realmStatus_congr {challenge realmToken : Bytes} {c d : Counters}
    (h : ∀ r ∈ signedMap qcbor realmToken, (∀ e ∈ realmItems r, e.RealmFormed qcbor challenge) →
      finalStatus ⟨c.realmClaims + claimCount (realmItems r), c.platformClaims, 0⟩ =
        finalStatus ⟨d.realmClaims + claimCount (realmItems r), d.platformClaims, 0⟩) :
    realmStatus qcbor challenge realmToken c.realmClaims c.platformClaims =
      realmStatus qcbor challenge realmToken d.realmClaims d.platformClaims := by
  unfold realmStatus
  cases hcose : coseSign1Payload qcbor realmToken with
  | error st => rfl
  | ok payload =>
    dsimp only
    cases hmap : claimMap qcbor payload with
    | none => rfl
    | some r =>
      dsimp only
      split
      · rename_i hsuccess
        rw [h r (mem_signedMap hcose hmap) (realmVerdict_eq_success.mp hsuccess)]
      · rfl

/-- **One call.**  It returns the status of a first call if it is undisturbed. -/
theorem status_of_undisturbed {c : Counters} {a : Call} (h : Undisturbed qcbor verifySignature c a) :
    status qcbor verifySignature a c = status qcbor verifySignature a Counters.zero := by
  rw [status_eq_tokenStatus, status_eq_tokenStatus]
  unfold tokenStatus
  cases hopen : openToken qcbor a.token with
  | none => rfl
  | some ts =>
    obtain ⟨platformToken, realmToken⟩ := ts
    dsimp only
    cases hcose : coseSign1Payload qcbor platformToken with
    | error st => rfl
    | ok payload =>
      dsimp only
      by_cases hsig : verifySignature a.token ≠ .success
      · rw [if_pos hsig, if_pos hsig]
      rw [if_neg hsig, if_neg hsig]
      cases hmap : claimMap qcbor payload with
      | none => rfl
      | some p =>
        dsimp only
        have hp : p ∈ platformMap qcbor a.token :=
          Option.bind_eq_some_iff.mpr ⟨_, hopen, mem_signedMap hcose hmap⟩
        obtain ⟨hfirst, hcounts⟩ := h (not_not.mp hsig) p hp
        have hzero : Counters.zero.swCompFields = 0 := rfl
        rw [platformVerdict_congr hfirst, hzero]
        split
        · rename_i hsuccess
          refine realmStatus_congr qcbor
            (c := ⟨c.realmClaims, c.platformClaims + claimCount (platformItems p), 0⟩)
            (d := ⟨0, 0 + claimCount (platformItems p), 0⟩) fun r hr hformed => ?_
          have hr' : r ∈ realmMap qcbor a.token := Option.bind_eq_some_iff.mpr ⟨_, hopen, hr⟩
          refine finalStatus_congr.mpr ?_
          rw [UInt32.zero_add, UInt32.zero_add]
          exact hcounts (platformVerdict_eq_success.mp hsuccess) r hr' hformed
        · rfl

/-- Where no field is left over, only then. -/
theorem undisturbed_of_status {c : Counters} {a : Call} (hsw : c.swCompFields = 0)
    (h : status qcbor verifySignature a c = status qcbor verifySignature a Counters.zero) :
    Undisturbed qcbor verifySignature c a := by
  rw [status_eq_tokenStatus, status_eq_tokenStatus] at h
  intro hsig p hp
  rw [hsw]
  refine ⟨firstComponentKept_zero _, fun hplatform r hr hrealm => ?_⟩
  have hpv := platformVerdict_eq_success.mpr hplatform
  have hrv := realmVerdict_eq_success.mpr hrealm
  rw [tokenStatus_of_formed hsig hp hr (hsw ▸ hpv) hrv, tokenStatus_of_formed hsig hp hr hpv hrv] at h
  have htests := finalStatus_congr.mp (Option.some.inj h)
  rwa [Counters.zero, UInt32.zero_add, UInt32.zero_add] at htests

/-- And where both calls accept the token. -/
theorem undisturbed_of_success {c : Counters} {a : Call}
    (hc : status qcbor verifySignature a c = some .success)
    (h : status qcbor verifySignature a Counters.zero = some .success) :
    Undisturbed qcbor verifySignature c a := by
  rw [status_eq_tokenStatus] at hc h
  obtain ⟨p, hp, r, hr, hpv, -, hreal, hplat⟩ := exists_of_tokenStatus_success hc
  obtain ⟨p', hp', r', hr', hpv', -, hreal', hplat'⟩ := exists_of_tokenStatus_success h
  obtain rfl := Option.some.inj (hp.symm.trans hp')
  obtain rfl := Option.some.inj (hr.symm.trans hr')
  intro _ q hq
  obtain rfl := Option.some.inj (hp.symm.trans hq)
  refine ⟨firstComponentKept_of_success hpv hpv', fun _ u hu _ => ?_⟩
  obtain rfl := Option.some.inj (hr.symm.trans hu)
  rw [Counters.zero, UInt32.zero_add] at hreal' hplat'
  exact iff_of_true ⟨hreal, hplat⟩ ⟨hreal', hplat'⟩

/-! ## 2. Runs of calls -/

/-- One call of a run. -/
def CallStep (cnt : Counters) (a : Call) (cnt' : Counters) : Prop :=
  ∃ v, valAttestationVerifyToken qcbor verifySignature a cnt = some v ∧ v.cnt = cnt'

/-- **When verdicts do not depend on history.**  In every run of calls from start-up in which
what earlier calls left in the counters turns over no test, every call returns the status it
would return as the first call.  Nothing weaker will do where the count of fields is zero, or for a
token that a first call accepts: there a call returns that status only if it is undisturbed. -/
theorem verdicts_free_of_history (l : List Call)
    (hu : ∀ pre a post c, l = pre ++ a :: post →
      Reach (CallStep qcbor verifySignature) Counters.zero pre c →
        Undisturbed qcbor verifySignature c a) :
    (∀ pre a post c, l = pre ++ a :: post →
      Reach (CallStep qcbor verifySignature) Counters.zero pre c →
        status qcbor verifySignature a c = status qcbor verifySignature a Counters.zero) ∧
    ∀ a c, Reach (CallStep qcbor verifySignature) Counters.zero l c →
      c.swCompFields = 0 ∨ status qcbor verifySignature a Counters.zero = some .success →
        status qcbor verifySignature a c = status qcbor verifySignature a Counters.zero →
          Undisturbed qcbor verifySignature c a := by
  constructor
  · intro pre a post c hl hr
    exact status_of_undisturbed qcbor verifySignature (hu pre a post c hl hr)
  · rintro a c _ (hsw | hfirst) hst
    · exact undisturbed_of_status qcbor verifySignature hsw hst
    · exact undisturbed_of_success qcbor verifySignature (hst.trans hfirst) hfirst

/-- The decoder and the calls of the runs below: a valid token, and an empty one. -/
def sampleQcbor : Bytes → Decoded := docQcbor (tokenDocs platformDoc realmDoc)
def sampleSignature (_ : Bytes) : Status := .success
def validCall : Call := docCall platformDoc realmDoc
def emptyCall : Call := ⟨sampleChallenge, [], emptyToken⟩

theorem validCall_step {c : Counters} :
    CallStep sampleQcbor sampleSignature Counters.zero validCall c ↔ c = ⟨7, 8, 0⟩ := by
  have hrun : (valAttestationVerifyToken sampleQcbor sampleSignature validCall Counters.zero).map
      Verdict.cnt = some ⟨7, 8, 0⟩ := by decide +kernel
  obtain ⟨v, hv, hcnt⟩ := Option.map_eq_some_iff.mp hrun
  constructor
  · rintro ⟨w, hw, rfl⟩
    rw [hv, Option.some.injEq] at hw
    rw [← hw, hcnt]
  · rintro rfl
    exact ⟨v, hv, hcnt⟩

/-- **The same valid token twice.**  The first call accepts it; the second counts fourteen realm
claims and rejects it. -/
theorem second_verdict_differs :
    ∃ c, Reach (CallStep sampleQcbor sampleSignature) Counters.zero [validCall] c ∧
      status sampleQcbor sampleSignature validCall Counters.zero = some .success ∧
      status sampleQcbor sampleSignature validCall c = some .error :=
  ⟨⟨7, 8, 0⟩, Reach.nil.snoc (l := []) (validCall_step.mpr rfl), by decide +kernel,
    by decide +kernel⟩

/-- A malformed token after a valid one gets the verdict it would get alone. -/
theorem verdicts_free_of_history_malformed :
    ∃ c, Reach (CallStep sampleQcbor sampleSignature) Counters.zero [validCall] c ∧
      c ≠ Counters.zero ∧ status sampleQcbor sampleSignature emptyCall c =
        status sampleQcbor sampleSignature emptyCall Counters.zero := by
  have hreach : Reach (CallStep sampleQcbor sampleSignature) Counters.zero [validCall] ⟨7, 8, 0⟩ :=
    Reach.nil.snoc (l := []) (validCall_step.mpr rfl)
  have hnone : (platformMap sampleQcbor emptyCall.token).isSome = false := by decide +kernel
  refine ⟨⟨7, 8, 0⟩, hreach, by decide, ?_⟩
  refine (verdicts_free_of_history sampleQcbor sampleSignature [validCall, emptyCall] ?_).1
    [validCall] emptyCall [] ⟨7, 8, 0⟩ rfl hreach
  intro pre a post c hl hr
  match pre, hl, hr with
  | [], _, hr =>
    rw [hr.of_nil]
    exact undisturbed_zero _ _ a
  | [b], hl, hr =>
    obtain ⟨hb, ha, -⟩ : validCall = b ∧ emptyCall = a ∧ [] = post := by simpa using hl
    subst hb ha
    intro _ p hp
    rw [Option.mem_def.mp hp] at hnone
    nomatch hnone
  | _ :: _ :: b :: _, hl, _ => simp at hl
  | [_, _], hl, _ => simp at hl

end RmmAcs.Attest
