/-
# What an accepted token contains

The parsers of `attestation_realm.c` do not look for claims, they COUNT recognised labels: seven
realm claims exactly, eight platform claims or more, two fields or more in each software
component.  A count says less than presence.  A label may be counted twice; an optional label is
counted like a mandatory one; and since the decoder walks the items of a map depth first, so is a
label inside a nested map.

An item that is counted without being the one occurrence of a mandatory label among the entries of
its own map is a STAND-IN.  Where there are none, the tests on the counts say what they are meant to:
as many different labels as there are mandatory ones are all of them (`NoStandIn.exists_counted`).

Nesting is read off the nesting levels the decoder delivers: the entries of a map are the items
one level below it, up to the next item that is not below it.
-/
import RmmAcs.Attest.Verdict

namespace RmmAcs.Attest

open RmmAcs Lib

/-! ## 1. Entries and labels -/

def levelAt (d : Decoded) (j : ℕ) : ℕ :=
  match d.results[j]? with
  | some (_, it) => it.uNestingLevel
  | none => 0

/-- The integer label of a delivered item. -/
def labelAt (d : Decoded) (j : ℕ) : Option ℤ :=
  match d.results[j]? with
  | some (.success, it) => if it.uLabelType = .int64 then some it.label else none
  | _ => none

/-- The items of the map or array at position `m`. -/
def entries (d : Decoded) (m : ℕ) : List ℕ :=
  (List.range d.results.length).filter fun j =>
    m < j && (List.range' (m + 1) (j - m)).all (fun k => levelAt d m < levelAt d k) &&
      levelAt d j == levelAt d m + 1

/-- The map at `m` has an entry for every label of `ls`. -/
def Contains (d : Decoded) (m : ℕ) (ls : List ℤ) : Prop :=
  ∀ L ∈ ls, ∃ j ∈ entries d m, labelAt d j = some L

instance (d : Decoded) (m : ℕ) (ls : List ℤ) : Decidable (Contains d m ls) :=
  inferInstanceAs (Decidable (∀ L ∈ ls, ∃ j ∈ entries d m, _))

/-- The elements of the software components arrays of a platform map. -/
def components (d : Decoded) : List ℕ :=
  ((entries d 0).filter fun m => labelAt d m == some ccaPlatformSwComponents).flatMap (entries d)

/-! ## 2. Stand-ins -/

/-- Every counted item is an entry of the map at `m` with a label in `ls`, and no two have the same
label. -/
def NoStandIn (d : Decoded) (m : ℕ) (ls : List ℤ) (counted : List ℕ) : Prop :=
  (∀ j ∈ counted, j ∈ entries d m ∧ ∃ L ∈ ls, labelAt d j = some L) ∧
    (counted.map (labelAt d)).Nodup

instance (d : Decoded) (m : ℕ) (ls : List ℤ) (counted : List ℕ) :
    Decidable (NoStandIn d m ls counted) :=
  inferInstanceAs (Decidable ((∀ j ∈ counted, _ ∧ ∃ L ∈ ls, _) ∧ _))

/-- Every entry of the map at `m` with a label in `ls` was counted. -/
def Examined (d : Decoded) (m : ℕ) (ls : List ℤ) (counted : List ℕ) : Prop :=
  ∀ j ∈ entries d m, ∀ L ∈ ls, labelAt d j = some L → j ∈ counted

section StandIns

variable {d : Decoded} {m : ℕ} {ls : List ℤ} {counted : List ℕ}

/-- **Enough without stand-ins is all.**  The counted items have different labels, all in `ls`; if
there are as many as in `ls`, every label of `ls` is on one of them. -/
theorem NoStandIn.exists_counted (h : NoStandIn d m ls counted) (hlen : ls.length ≤ counted.length)
    {L : ℤ} (hL : L ∈ ls) : ∃ j ∈ counted, j ∈ entries d m ∧ labelAt d j = some L := by
  have hsub : counted.map (labelAt d) ⊆ ls.map some := by
    intro o ho
    obtain ⟨j, hj, rfl⟩ := List.mem_map.mp ho
    obtain ⟨-, L', hL', hlab⟩ := h.1 j hj
    exact List.mem_map.mpr ⟨L', hL', hlab.symm⟩
  have hperm : (counted.map (labelAt d)).Perm (ls.map some) := by
    refine (h.2.subperm hsub).perm_of_length_le ?_
    rwa [List.length_map, List.length_map]
  obtain ⟨j, hj, hlab⟩ := List.mem_map.mp (hperm.mem_iff.mpr (List.mem_map.mpr ⟨L, hL, rfl⟩))
  exact ⟨j, hj, (h.1 j hj).1, hlab⟩

theorem NoStandIn.contains (h : NoStandIn d m ls counted) (hlen : ls.length ≤ counted.length) :
    Contains d m ls := by
  intro L hL
  obtain ⟨j, -, hj, hlab⟩ := h.exists_counted hlen hL
  exact ⟨j, hj, hlab⟩

/-- **No more than all leaves no room for a stand-in.** -/
theorem Contains.noStandIn (h : Contains d m ls) (hnd : ls.Nodup) (hex : Examined d m ls counted)
    (hlen : counted.length ≤ ls.length) : NoStandIn d m ls counted := by
  have hcounted (L : ℤ) (hL : L ∈ ls) : ∃ j ∈ counted, j ∈ entries d m ∧ labelAt d j = some L := by
    obtain ⟨j, hj, hlab⟩ := h L hL
    exact ⟨j, hex j hj L hL hlab, hj, hlab⟩
  have hsub : ls.map some ⊆ counted.map (labelAt d) := by
    intro o ho
    obtain ⟨L, hL, rfl⟩ := List.mem_map.mp ho
    obtain ⟨j, hj, -, hlab⟩ := hcounted L hL
    exact List.mem_map.mpr ⟨j, hj, hlab⟩
  have hsome : (ls.map some).Nodup := hnd.map (Option.some_injective ℤ)
  have hperm : (ls.map some).Perm (counted.map (labelAt d)) := by
    refine (hsome.subperm hsub).perm_of_length_le ?_
    rwa [List.length_map, List.length_map]
  have honce : (counted.map (labelAt d)).Nodup := hperm.nodup_iff.mp hsome
  refine ⟨fun j hj => ?_, honce⟩
  obtain ⟨L, hL, hlab⟩ := List.mem_map.mp (hperm.mem_iff.mpr (List.mem_map.mpr ⟨j, hj, rfl⟩))
  -- the entry with this label is the item itself
  obtain ⟨j', hj', hentry, hlab'⟩ := hcounted L hL
  obtain rfl : j' = j := List.inj_on_of_nodup_map honce hj' hj (hlab'.trans hlab)
  exact ⟨hentry, L, hL, hlab'⟩

end StandIns

theorem realmMandatory_nodup : realmMandatory.Nodup := by decide
theorem platformMandatory_nodup : platformMandatory.Nodup := by decide
theorem componentMandatory_nodup : componentMandatory.Nodup := by decide

/-! ## 3. What is said of the two maps -/

/-- The positions of the claims a parser comes across. -/
def claimsAt (es : List Event) : List ℕ := (claims es).map Prod.fst

/-- The realm claim map has the seven mandatory claims, the challenge being the given one. -/
def RealmContains (d : Decoded) (challenge : Bytes) : Prop :=
  Contains d 0 realmMandatory ∧
    ∃ j ∈ entries d 0, ∃ it, d.results[j]? = some (.success, it) ∧
      labelAt d j = some ccaRealmChallenge ∧ it.string = challenge

/-- The platform claim map has the eight mandatory claims, and every software component its
measurement value and signer id. -/
def PlatformContains (d : Decoded) : Prop :=
  Contains d 0 platformMandatory ∧ ∀ e ∈ components d, Contains d e componentMandatory

/-- No stand-in among the realm claims. -/
def RealmGenuine (d : Decoded) : Prop :=
  NoStandIn d 0 realmMandatory (claimsAt (realmItems d))

/-- No stand-in among the platform claims, and every software component is read, without a stand-in
among its fields. -/
def PlatformGenuine (d : Decoded) : Prop :=
  NoStandIn d 0 platformMandatory (claimsAt (platformItems d)) ∧
    ∀ e ∈ components d, ∃ c ∈ readComponents (platformItems d), c.1 = e ∧
      NoStandIn d e componentMandatory (c.2.map Prod.fst)

instance (d : Decoded) : Decidable (RealmGenuine d) :=
  inferInstanceAs (Decidable (NoStandIn _ _ _ _))

instance (d : Decoded) : Decidable (PlatformGenuine d) :=
  inferInstanceAs (Decidable (_ ∧ ∀ e ∈ components d, ∃ c ∈ readComponents (platformItems d), _))

/-- The parser comes across every entry with a mandatory label, and counts no more than it must. -/
def RealmExact (d : Decoded) : Prop :=
  Examined d 0 realmMandatory (claimsAt (realmItems d)) ∧ (claims (realmItems d)).length = 7

def PlatformExact (d : Decoded) : Prop :=
  Examined d 0 platformMandatory (claimsAt (platformItems d)) ∧
    (claims (platformItems d)).length = 8 ∧
    ∀ e ∈ components d, ∃ c ∈ readComponents (platformItems d), c.1 = e ∧
      Examined d e componentMandatory (c.2.map Prod.fst) ∧ c.2.length = 2

/-! ## 4. From the counts -/

theorem mem_claims {es : List Event} {j : ℕ} {it : Item} :
    (j, it) ∈ claims es ↔ Event.claim j it ∈ es := by
  unfold claims
  rw [List.mem_filterMap]
  constructor
  · rintro ⟨e, he, heq⟩
    cases e with
    | claim pos it' =>
      obtain ⟨rfl, rfl⟩ := Prod.mk.inj (Option.some.inj heq)
      exact he
    | _ => nomatch heq
  · exact fun h => ⟨_, h, rfl⟩

theorem mem_readComponents {es : List Event} {c : ℕ × List (ℕ × Item)} :
    c ∈ readComponents es ↔ Event.component c.1 c.2 ∈ es := by
  unfold readComponents
  rw [List.mem_filterMap]
  constructor
  · rintro ⟨e, he, heq⟩
    cases e with
    | component start fields =>
      obtain rfl := Option.some.inj heq
      exact he
    | _ => nomatch heq
  · exact fun h => ⟨_, h, rfl⟩

/-- A realm claim is the item delivered at its position. -/
theorem realmItems_claim {d : Decoded} {j : ℕ} {it : Item} (h : Event.claim j it ∈ realmItems d) :
    d.results[j]? = some (.success, it) := by
  rcases mem_scanFrom h with ⟨skip, i, ⟨st, it'⟩, hget, he⟩ | ⟨skip, hend⟩
  · rw [List.getElem?_drop] at hget
    match skip with
    | 0 =>
      by_cases hst : st = .success
      · by_cases hclaim : it'.IsClaim realmMandatory
        · rw [realmStep_claim hst hclaim] at he
          obtain ⟨rfl, rfl⟩ := Event.claim.inj (List.mem_singleton.mp he)
          rw [hget, hst]
        · rw [realmStep_other hst hclaim] at he
          nomatch he
      · rw [realmStep_stop hst] at he
        nomatch List.mem_singleton.mp he
    | 1 =>
      by_cases hst : st = .success
      · rw [realmStep_last hst] at he
        nomatch he
      · rw [realmStep_last_stop hst] at he
        nomatch List.mem_singleton.mp he
    | skip + 2 => nomatch he
  · nomatch hend

/-- The tests are on counters of 32 bits; what they say of the number itself. -/
theorem le_of_le_ofNat {n k : ℕ} (h : UInt32.ofNat k ≤ UInt32.ofNat n) (hk : k < 2 ^ 32) : k ≤ n := by
  have hle := UInt32.le_iff_toNat_le.mp h
  rw [UInt32.toNat_ofNat', UInt32.toNat_ofNat', Nat.mod_eq_of_lt hk] at hle
  exact hle.trans (Nat.mod_le _ _)

section Accepted

variable {qcbor : Bytes → Decoded} {challenge : Bytes} {d : Decoded}

/-- **The realm map**, from its seven claims. -/
theorem RealmGenuine.contains (h : RealmGenuine d)
    (hformed : ∀ e ∈ realmItems d, e.RealmFormed qcbor challenge)
    (hseven : claimCount (realmItems d) = 7) : RealmContains d challenge := by
  have hlen : realmMandatory.length ≤ (claimsAt (realmItems d)).length := by
    unfold claimsAt
    rw [List.length_map]
    refine le_of_le_ofNat ?_ (by decide)
    rw [← claimCount, hseven]
    decide
  refine ⟨NoStandIn.contains h hlen, ?_⟩
  have hmem : ccaRealmChallenge ∈ realmMandatory := by decide
  obtain ⟨j, hj, hentry, hlab⟩ := NoStandIn.exists_counted h hlen hmem
  obtain ⟨⟨j, it⟩, hclaim, rfl⟩ := List.mem_map.mp hj
  have hget := realmItems_claim (mem_claims.mp hclaim)
  refine ⟨j, hentry, it, hget, hlab, ?_⟩
  -- its format includes the comparison with the given challenge
  have hit : it.label = ccaRealmChallenge := by
    simp only [labelAt, hget] at hlab
    split at hlab
    · exact Option.some.inj hlab
    · nomatch hlab
  have hok : it.realmFormed qcbor challenge = true := hformed _ (mem_claims.mp hclaim)
  rw [Item.realmFormed, if_pos hit] at hok
  by_contra hne
  simp [usefulBufCompare, hne] at hok

/-- **The platform map**, from its eight claims and the fields of each component. -/
theorem PlatformGenuine.contains (h : PlatformGenuine d)
    (hformed : ∀ e ∈ platformItems d, e.PlatformFormed)
    (height : 8 ≤ claimCount (platformItems d)) : PlatformContains d := by
  refine ⟨h.1.contains ?_, fun e he => ?_⟩
  · unfold claimsAt
    rw [List.length_map]
    exact le_of_le_ofNat height (by decide)
  · obtain ⟨c, hc, -, hno⟩ := h.2 e he
    refine hno.contains ?_
    have htwo : ¬ UInt32.ofNat c.2.length < 2 := (hformed _ (mem_readComponents.mp hc)).2
    rw [List.length_map]
    exact le_of_le_ofNat (UInt32.not_lt.mp htwo) (by decide)

theorem RealmContains.genuine (h : RealmContains d challenge) (hex : RealmExact d) :
    RealmGenuine d := by
  refine h.1.noStandIn realmMandatory_nodup hex.1 ?_
  unfold claimsAt
  rw [List.length_map, hex.2]
  decide

theorem PlatformContains.genuine (h : PlatformContains d) (hex : PlatformExact d) :
    PlatformGenuine d := by
  obtain ⟨hclaims, height, hcomponents⟩ := hex
  refine ⟨h.1.noStandIn platformMandatory_nodup hclaims ?_, fun e he => ?_⟩
  · unfold claimsAt
    rw [List.length_map, height]
    decide
  · obtain ⟨c, hc, hce, hfields, htwo⟩ := hcomponents e he
    refine ⟨c, hc, hce, (h.2 e he).noStandIn componentMandatory_nodup hfields ?_⟩
    rw [List.length_map, htwo]
    decide

end Accepted

/-- **When acceptance implies presence.**  A token accepted from cleared counters contains every
mandatory claim, the given challenge and every mandatory component field, if there is no stand-in
among the items its parsers count: the tests for seven, for eight and for two then say so.  Where the
parsers come across every entry with a mandatory label and count no more than that, it does only
then. -/
theorem accepted_contains {qcbor : Bytes → Decoded} {verifySignature : Bytes → Status} {a : Call}
    (h : (valAttestationVerifyToken qcbor verifySignature a Counters.zero).map Verdict.status =
      some .success) :
    ∃ p ∈ platformMap qcbor a.token, ∃ r ∈ realmMap qcbor a.token,
      (PlatformGenuine p → PlatformContains p) ∧
      (RealmGenuine r → RealmContains r a.challenge) ∧
      (PlatformExact p → PlatformContains p → PlatformGenuine p) ∧
      (RealmExact r → RealmContains r a.challenge → RealmGenuine r) := by
  have hstatus : tokenStatus qcbor verifySignature a Counters.zero = some .success := by
    rw [← status_eq_tokenStatus]
    exact h
  obtain ⟨p, hp, r, hr, hpv, hrv, hseven, height⟩ := exists_of_tokenStatus_success hstatus
  rw [Counters.zero, UInt32.zero_add] at hseven height
  exact ⟨p, hp, r, hr,
    fun hgenuine => hgenuine.contains (platformVerdict_eq_success.mp hpv) height,
    fun hgenuine => hgenuine.contains (realmVerdict_eq_success.mp hrv) hseven,
    fun hexact hcontains => hcontains.genuine hexact,
    fun hexact hcontains => hcontains.genuine hexact⟩

/-- Eight platform claims with the optional verification service in place of the configuration,
and a software component that has a type and a version only. -/
def optionalPlatformDoc : Doc :=
  [⟨0, none, .map 8, none⟩,
    ⟨1, some 265, .text [0x70], none⟩,
    ⟨1, some 10, .bytes (List.replicate 32 5), none⟩,
    ⟨1, some 239, .bytes (List.replicate 32 6), none⟩,
    ⟨1, some 256, .bytes (List.replicate 33 7), none⟩,
    ⟨1, some 2400, .text [0x76], none⟩,
    ⟨1, some 2395, .uint 12288, none⟩,
    ⟨1, some 2399, .array 1, none⟩,
    ⟨2, none, .map 2, none⟩,
    ⟨3, some 1, .text [0x74], none⟩,
    ⟨3, some 4, .text [0x34], none⟩,
    ⟨1, some 2402, .text [0x73], none⟩]

/-- Six realm claims, and the challenge inside the map of some other claim. -/
def nestedRealmDoc : Doc :=
  [⟨0, none, .map 7, none⟩,
    ⟨1, some 99, .map 1, none⟩,
    ⟨2, some 10, .bytes sampleChallenge, none⟩,
    ⟨1, some 44235, .bytes (List.replicate 64 1), none⟩,
    ⟨1, some 44238, .bytes (List.replicate 32 2), none⟩,
    ⟨1, some 44239, .array 1, none⟩,
    ⟨2, none, .bytes (List.replicate 32 3), none⟩,
    ⟨1, some 44236, .text [0x73], none⟩,
    ⟨1, some 44237, .bytes keyDoc.encode, none⟩,
    ⟨1, some 44240, .text [0x73], none⟩]

/-- **Accepted without its claims.**  A well-formed token, no label twice in a map, is accepted
although its realm map has no challenge, its platform map no configuration, and its software
component neither measurement nor signer. -/
theorem accepted_without_claims :
    (valAttestationVerifyToken (docQcbor (tokenDocs optionalPlatformDoc nestedRealmDoc))
      (fun _ => .success) (docCall optionalPlatformDoc nestedRealmDoc) Counters.zero).map
        Verdict.status = some .success ∧
    ∃ p r, platformMap (docQcbor (tokenDocs optionalPlatformDoc nestedRealmDoc))
        (docCall optionalPlatformDoc nestedRealmDoc).token = some p ∧
      realmMap (docQcbor (tokenDocs optionalPlatformDoc nestedRealmDoc))
        (docCall optionalPlatformDoc nestedRealmDoc).token = some r ∧
      ¬ Contains p 0 platformMandatory ∧
      ¬ (∀ e ∈ components p, Contains p e componentMandatory) ∧
      ¬ Contains r 0 realmMandatory := by
  have hplatform : (platformMap (docQcbor (tokenDocs optionalPlatformDoc nestedRealmDoc))
      (docCall optionalPlatformDoc nestedRealmDoc).token).map (fun p =>
        decide (¬ Contains p 0 platformMandatory ∧
          ¬ (∀ e ∈ components p, Contains p e componentMandatory))) = some true := by decide +kernel
  have hrealm : (realmMap (docQcbor (tokenDocs optionalPlatformDoc nestedRealmDoc))
      (docCall optionalPlatformDoc nestedRealmDoc).token).map (fun r =>
        decide (¬ Contains r 0 realmMandatory)) = some true := by decide +kernel
  obtain ⟨p, hp, hpfails⟩ := Option.map_eq_some_iff.mp hplatform
  obtain ⟨r, hr, hrfails⟩ := Option.map_eq_some_iff.mp hrealm
  obtain ⟨hclaims, hfields⟩ := of_decide_eq_true hpfails
  exact ⟨by decide +kernel, p, r, hp, hr, hclaims, hfields, of_decide_eq_true hrfails⟩

/-- The token with exactly the mandatory claims. -/
theorem accepted_contains_sample :
    ∃ p ∈ platformMap (docQcbor (tokenDocs platformDoc realmDoc)) (docCall platformDoc realmDoc).token,
      ∃ r ∈ realmMap (docQcbor (tokenDocs platformDoc realmDoc)) (docCall platformDoc realmDoc).token,
        PlatformContains p ∧ RealmContains r sampleChallenge := by
  have hplatform : (platformMap (docQcbor (tokenDocs platformDoc realmDoc))
      (docCall platformDoc realmDoc).token).map (fun p => decide (PlatformGenuine p)) = some true := by
    decide +kernel
  have hrealm : (realmMap (docQcbor (tokenDocs platformDoc realmDoc))
      (docCall platformDoc realmDoc).token).map (fun r => decide (RealmGenuine r)) = some true := by
    decide +kernel
  have haccepted : (valAttestationVerifyToken (docQcbor (tokenDocs platformDoc realmDoc))
      (fun _ => .success) (docCall platformDoc realmDoc) Counters.zero).map Verdict.status =
        some .success := by decide +kernel
  obtain ⟨p, hp, r, hr, hpc, hrc, -, -⟩ := accepted_contains haccepted
  rw [Option.mem_def.mp hp, Option.map_some, Option.some.injEq] at hplatform
  rw [Option.mem_def.mp hr, Option.map_some, Option.some.injEq] at hrealm
  exact ⟨p, hp, r, hr, hpc (of_decide_eq_true hplatform), hrc (of_decide_eq_true hrealm)⟩

end RmmAcs.Attest
