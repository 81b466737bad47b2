/-
# The verdict, from the items

`val_attestation_verify_token` in the terms of its token: what is decoded of it, which items the two
parsers come across, and how many claims are among them.  The counters enter in three places only,
the first component and the two tests at the end.
-/
import RmmAcs.Attest.RealmItems
import RmmAcs.Attest.PlatformItems

namespace RmmAcs.Attest

variable (qcbor : Bytes → Decoded) (verifySignature : Bytes → Status)

/-- The status a call returns from given counters. -/
def status (a : Call) (cnt : Counters) : Option Status :=
  (valAttestationVerifyToken qcbor verifySignature a cnt).map Verdict.status

/-! ## 1. What is decoded of a token -/

/-- What is delivered of a payload, if it begins with a map. -/
def claimMap (payload : Bytes) : Option Decoded :=
  if (Ctx.init (qcbor payload)).getNext.1.2.uDataType = .map then some (qcbor payload) else none

/-- What is delivered of the payload in a `COSE_Sign1` structure. -/
def signedMap (bytes : Bytes) : Option Decoded :=
  (coseSign1Payload qcbor bytes).toOption.bind (claimMap qcbor)

/-- The platform claim map of a token. -/
def platformMap (token : Bytes) : Option Decoded :=
  (openToken qcbor token).bind fun t => signedMap qcbor t.1

/-- The realm claim map of a token. -/
def realmMap (token : Bytes) : Option Decoded :=
  (openToken qcbor token).bind fun t => signedMap qcbor t.2

/-- How many claims a parser comes across. -/
def claimCount (es : List Event) : UInt32 := UInt32.ofNat (claims es).length

/-! ## 2. The verdict -/

/-- The verdict on the realm token, `p` platform claims having been counted. -/
def realmStatus (challenge realmToken : Bytes) (realm platform : UInt32) : Option Status :=
  match coseSign1Payload qcbor realmToken with
  | .error st => some st
  | .ok payload =>
    match claimMap qcbor payload with
    | none => some .error
    | some r =>
      match realmVerdict qcbor challenge (realmItems r) with
      | some .success => some (finalStatus ⟨realm + claimCount (realmItems r), platform, 0⟩)
      | o => o

/-- The verdict on a token. -/
def tokenStatus (a : Call) (c : Counters) : Option Status :=
  match openToken qcbor a.token with
  | none => some .error
  | some (platformToken, realmToken) =>
    match coseSign1Payload qcbor platformToken with
    | .error st => some st
    | .ok payload =>
      if verifySignature a.token ≠ .success then some (verifySignature a.token)
      else
        match claimMap qcbor payload with
        | none => some .error
        | some p =>
          match platformVerdict c.swCompFields (platformItems p) with
          | some .success =>
            realmStatus qcbor a.challenge realmToken c.realmClaims
              (c.platformClaims + claimCount (platformItems p))
          | o => o

/-- The tests at the end. -/
def Verdict.final (v : Verdict) : Status :=
  if v.status = .success then finalStatus v.cnt else v.status

theorem status_eq (a : Call) (cnt : Counters) : status qcbor verifySignature a cnt =
    (parseToken qcbor verifySignature a cnt).map Verdict.final := by
  rw [status, valAttestationVerifyToken]
  cases parseToken qcbor verifySignature a cnt <;> rfl

theorem coseSign1Payload_error {bytes : Bytes} {st : Status}
    (h : coseSign1Payload qcbor bytes = .error st) : st ≠ .success := by
  simp only [coseSign1Payload] at h
  split_ifs at h with h1 h2
  · rw [Except.error.injEq] at h
    rw [← h]
    exact h1
  · rw [Except.error.injEq] at h
    rw [← h]
    decide

/-- A parser starts behind the header of the map, with all items ahead. -/
theorem openMap_items {payload : Bytes} (cnt : Counters) (out : AttestationToken) :
    (openMap qcbor payload cnt out = none ∧ claimMap qcbor payload = none) ∨
    ∃ s d, openMap qcbor payload cnt out = some s ∧ claimMap qcbor payload = some d ∧ s.cnt = cnt ∧
      s.ctx.realmAhead 0 = realmItems d ∧ s.ctx.platformAhead .claims = platformItems d := by
  unfold openMap claimMap
  dsimp only
  by_cases hmap : (Ctx.init (qcbor payload)).getNext.1.2.uDataType = .map
  · rw [if_neg (not_not.mpr hmap), if_pos hmap]
    refine Or.inr ⟨_, _, rfl, rfl, rfl, ?_⟩
    unfold Ctx.realmAhead Ctx.platformAhead realmItems platformItems Ctx.init Ctx.getNext
    cases (qcbor payload).results with
    | nil => exact ⟨rfl, rfl⟩
    | cons r rs => exact ⟨rfl, rfl⟩
  · rw [if_pos hmap, if_neg hmap]
    exact Or.inl ⟨rfl, rfl⟩

theorem finalStatus_congr_claims {c d : Counters} (hr : c.realmClaims = d.realmClaims)
    (hp : c.platformClaims = d.platformClaims) : finalStatus c = finalStatus d := by
  rw [finalStatus, finalStatus, hr, hp]

/-- **The realm half.** -/
theorem parseRealm_status (challenge realmToken : Bytes) (cnt : Counters) (out : AttestationToken) :
    (parseRealm qcbor challenge realmToken cnt out).map Verdict.final =
      realmStatus qcbor challenge realmToken cnt.realmClaims cnt.platformClaims := by
  unfold parseRealm realmStatus
  cases hcose : coseSign1Payload qcbor realmToken with
  | error st => exact congrArg some (if_neg (coseSign1Payload_error qcbor hcose))
  | ok payload =>
    dsimp only
    rcases openMap_items qcbor cnt out with ⟨hopen, hmap⟩ | ⟨s, r, hopen, hmap, hcnt, hitems, -⟩
    · rw [hopen, hmap]
      rfl
    · rw [hopen, hmap]
      have hend := @parseClaimsRealmToken_ends qcbor challenge s
      rw [hitems] at hend
      dsimp only
      generalize parseClaimsRealmToken qcbor challenge s = res at hend
      cases hend with
      | @success s' hv ht =>
        have hv' : realmVerdict qcbor challenge (realmItems r) = some .success := hv
        obtain ⟨hrc, hpc⟩ := Prod.mk.inj ht
        rw [hv']
        refine congrArg some ((if_pos rfl).trans (finalStatus_congr_claims ?_ ?_))
        · rw [← hcnt]
          exact (UInt32.add_zero _).symm.trans hrc
        · rw [← hcnt]
          exact hpc
      | error hv =>
        have hv' : realmVerdict qcbor challenge (realmItems r) = some .error := hv
        rw [hv']
        rfl
      | fault hv =>
        have hv' : realmVerdict qcbor challenge (realmItems r) = none := hv
        rw [hv']
        rfl

/-- **The status of every call**, from whatever counters. -/
theorem status_eq_tokenStatus (a : Call) (c : Counters) :
    status qcbor verifySignature a c = tokenStatus qcbor verifySignature a c := by
  rw [status_eq]
  unfold parseToken tokenStatus
  cases openToken qcbor a.token with
  | none => rfl
  | some ts =>
    obtain ⟨platformToken, realmToken⟩ := ts
    dsimp only
    cases hcose : coseSign1Payload qcbor platformToken with
    | error st => exact congrArg some (if_neg (coseSign1Payload_error qcbor hcose))
    | ok payload =>
      dsimp only
      by_cases hsig : verifySignature a.token ≠ .success
      · rw [if_pos hsig, if_pos hsig]
        exact congrArg some (if_neg hsig)
      rw [if_neg hsig, if_neg hsig]
      rcases openMap_items qcbor c a.out with ⟨hopen, hmap⟩ | ⟨s, p, hopen, hmap, hcnt, -, hitems⟩
      · rw [hopen, hmap]
        rfl
      · rw [hopen, hmap]
        have hend := parseClaimsPlatformToken_ends s
        rw [hitems] at hend
        dsimp only
        generalize parseClaimsPlatformToken s = res at hend
        cases hend with
        | @success s' hv ht =>
          have hv' : platformVerdict c.swCompFields (platformItems p) = some .success := hcnt ▸ hv
          obtain ⟨hrc, hpc⟩ := Prod.mk.inj ht
          have hpc' : s'.cnt.platformClaims = c.platformClaims + claimCount (platformItems p) := by
            rw [← hcnt]
            exact (UInt32.add_zero _).symm.trans hpc
          have hrc' : s'.cnt.realmClaims = c.realmClaims := by
            rw [← hcnt]
            exact hrc
          rw [hv', ← hpc', ← hrc']
          exact parseRealm_status qcbor a.challenge realmToken s'.cnt s'.out
        | error hv =>
          have hv' : platformVerdict c.swCompFields (platformItems p) = some .error := hcnt ▸ hv
          rw [hv']
          rfl
        | fault hv =>
          have hv' : platformVerdict c.swCompFields (platformItems p) = none := hcnt ▸ hv
          rw [hv']
          rfl

/-! ## 3. Accepted tokens -/

section Accepted

variable {qcbor : Bytes → Decoded} {verifySignature : Bytes → Status} {a : Call} {c : Counters}

theorem mem_signedMap {bytes payload : Bytes} {d : Decoded}
    (hcose : coseSign1Payload qcbor bytes = .ok payload) (hmap : claimMap qcbor payload = some d) :
    d ∈ signedMap qcbor bytes := by
  rw [signedMap, hcose]
  exact hmap

theorem exists_of_mem_signedMap {bytes : Bytes} {d : Decoded} (h : d ∈ signedMap qcbor bytes) :
    ∃ payload, coseSign1Payload qcbor bytes = .ok payload ∧ claimMap qcbor payload = some d := by
  unfold signedMap at h
  cases hcose : coseSign1Payload qcbor bytes with
  | error st =>
    rw [hcose] at h
    nomatch h
  | ok payload =>
    rw [hcose] at h
    exact ⟨payload, rfl, h⟩

/-- A token in the expected format is judged by the counts. -/
theorem tokenStatus_of_formed {p r : Decoded} (hsig : verifySignature a.token = .success)
    (hp : p ∈ platformMap qcbor a.token) (hr : r ∈ realmMap qcbor a.token)
    (hpv : platformVerdict c.swCompFields (platformItems p) = some .success)
    (hrv : realmVerdict qcbor a.challenge (realmItems r) = some .success) :
    tokenStatus qcbor verifySignature a c =
      some (finalStatus ⟨c.realmClaims + claimCount (realmItems r),
        c.platformClaims + claimCount (platformItems p), 0⟩) := by
  obtain ⟨ts, hopen, hp⟩ := Option.bind_eq_some_iff.mp hp
  obtain ⟨us, hopen', hr⟩ := Option.bind_eq_some_iff.mp hr
  obtain rfl := Option.some.inj (hopen.symm.trans hopen')
  obtain ⟨platformToken, realmToken⟩ := ts
  obtain ⟨payload, hcose, hmap⟩ := exists_of_mem_signedMap hp
  obtain ⟨payload', hcose', hmap'⟩ := exists_of_mem_signedMap hr
  dsimp only at hcose hcose'
  simp only [tokenStatus, realmStatus, hopen, hcose, hcose', hmap, hmap', hpv, hrv, hsig, ne_eq,
    not_true_eq_false, if_false]

theorem finalStatus_eq_success {c : Counters} :
    finalStatus c = .success ↔ c.realmClaims = 7 ∧ 8 ≤ c.platformClaims := by
  rw [finalStatus]
  split_ifs <;> simp_all

/-- **What acceptance says**: both maps are there, in the expected format, and the counts suffice. -/
theorem exists_of_tokenStatus_success (h : tokenStatus qcbor verifySignature a c = some .success) :
    ∃ p ∈ platformMap qcbor a.token, ∃ r ∈ realmMap qcbor a.token,
      platformVerdict c.swCompFields (platformItems p) = some .success ∧
      realmVerdict qcbor a.challenge (realmItems r) = some .success ∧
      c.realmClaims + claimCount (realmItems r) = 7 ∧
      8 ≤ c.platformClaims + claimCount (platformItems p) := by
  unfold tokenStatus at h
  cases hopen : openToken qcbor a.token with
  | none =>
    rw [hopen] at h
    nomatch h
  | some ts =>
    obtain ⟨platformToken, realmToken⟩ := ts
    rw [hopen] at h
    dsimp only at h
    cases hcose : coseSign1Payload qcbor platformToken with
    | error st =>
      rw [hcose] at h
      exact absurd (Option.some.inj h) (coseSign1Payload_error qcbor hcose)
    | ok payload =>
      rw [hcose] at h
      dsimp only at h
      by_cases hsig : verifySignature a.token ≠ .success
      · rw [if_pos hsig] at h
        exact absurd (Option.some.inj h) hsig
      rw [if_neg hsig] at h
      cases hmap : claimMap qcbor payload with
      | none =>
        rw [hmap] at h
        nomatch h
      | some p =>
        rw [hmap] at h
        dsimp only at h
        have hpv : platformVerdict c.swCompFields (platformItems p) = some .success := by
          by_contra hne
          split at h
          · exact hne ‹_›
          · exact hne h
        rw [hpv] at h
        unfold realmStatus at h
        cases hcose' : coseSign1Payload qcbor realmToken with
        | error st =>
          rw [hcose'] at h
          exact absurd (Option.some.inj h) (coseSign1Payload_error qcbor hcose')
        | ok payload' =>
          rw [hcose'] at h
          dsimp only at h
          cases hmap' : claimMap qcbor payload' with
          | none =>
            rw [hmap'] at h
            nomatch h
          | some r =>
            rw [hmap'] at h
            dsimp only at h
            have hrv : realmVerdict qcbor a.challenge (realmItems r) = some .success := by
              by_contra hne
              split at h
              · exact hne ‹_›
              · exact hne h
            rw [hrv] at h
            refine ⟨p, ?_, r, ?_, hpv, hrv, finalStatus_eq_success.mp (Option.some.inj h)⟩
            · exact Option.bind_eq_some_iff.mpr ⟨_, hopen, mem_signedMap hcose hmap⟩
            · exact Option.bind_eq_some_iff.mpr ⟨_, hopen, mem_signedMap hcose' hmap'⟩

end Accepted

end RmmAcs.Attest
