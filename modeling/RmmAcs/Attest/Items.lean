/-
# The items a parser looks at

Which items of a payload the parsers of `attestation_realm.c` look at is decided by the payload alone:
by the labels, by the counts of the arrays, whose elements are read by inner loops, and by the calls
that fail.  This file reads it off the decoder's results in one SCAN for each parser: the recognised
claims, the software components that were read to their end with the recognised fields of each, and
the status the loop ended with.

What a verdict depends on is then said of these items: that every one is in the expected format, how
many claims there are, and how many fields each component has, the first one together with what was
left in the file-level counter.
-/
import RmmAcs.Attest.Token
import RmmAcs.Lib.Scan

namespace RmmAcs.Attest

open RmmAcs Lib

/-! ## 1. Labels and formats -/

def realmMandatory : List ℤ :=
  [ccaRealmChallenge, ccaRealmPersonalizationValue, ccaRealmInitialMeasurement,
    ccaRealmExtensibleMeasurement, ccaRealmHashAlgoId, ccaRealmPublicKey,
    ccaRealmPublicKeyHashAlgoId]

def platformMandatory : List ℤ :=
  [ccaPlatformProfile, ccaPlatformChallenge, ccaPlatformImplementationId, ccaPlatformInstanceId,
    ccaPlatformConfig, ccaPlatformLifecycle, ccaPlatformSwComponents, ccaPlatformHashAlgoId]

/-- An optional claim is recognised like a mandatory one. -/
def platformLabels : List ℤ := ccaPlatformVerificationService :: platformMandatory

def componentMandatory : List ℤ :=
  [ccaPlatformSwComponentMeasurementValue, ccaPlatformSwComponentSignerId]

/-- And so are the optional fields of a component. -/
def componentLabels : List ℤ :=
  [ccaPlatformSwComponentType, ccaPlatformSwComponentVersion, ccaPlatformSwComponentAlgorithmId]
    ++ componentMandatory

/-- The item has an integer label, and it is one of these. -/
def Item.IsClaim (labels : List ℤ) (it : Item) : Prop := it.uLabelType = .int64 ∧ it.label ∈ labels

instance (labels : List ℤ) (it : Item) : Decidable (it.IsClaim labels) :=
  inferInstanceAs (Decidable (_ ∧ _))

/-- More extensible measurements than `rem` has room for. -/
def Item.Overruns (it : Item) : Prop :=
  it.label = ccaRealmExtensibleMeasurement ∧ it.uDataType = .array ∧ 4 < it.uCount

instance (it : Item) : Decidable it.Overruns := inferInstanceAs (Decidable (_ ∧ _ ∧ _))

/-- The format of a realm claim, the comparison of the challenge included. -/
def Item.realmFormed (qcbor : Bytes → Decoded) (challenge : Bytes) (it : Item) : Bool :=
  if it.label = ccaRealmChallenge then it.isBytesOf [64] && usefulBufCompare it.string challenge == 0
  else if it.label = ccaRealmPersonalizationValue then it.isBytesOf [64]
  else if it.label = ccaRealmInitialMeasurement then it.isBytesOf [32, 48, 64]
  else if it.label = ccaRealmPublicKey then
    it.isBytes && validateRealmPubKey qcbor it.string == .success
  else if it.label = ccaRealmExtensibleMeasurement then it.uDataType == .array && it.uCount ≤ 4
  else it.isText

def Item.platformFormed (it : Item) : Bool :=
  if it.label = ccaPlatformChallenge then it.isBytesOf [32, 48, 64]
  else if it.label = ccaPlatformImplementationId then it.isBytesOf [32]
  else if it.label = ccaPlatformInstanceId then it.isBytesOf [33]
  else if it.label = ccaPlatformConfig then it.isBytes
  else if it.label = ccaPlatformLifecycle then it.uDataType == .int64
  else if it.label = ccaPlatformSwComponents then it.uDataType == .array
  else it.isText

def Item.fieldFormed (it : Item) : Bool :=
  if it.label ∈ componentMandatory then it.isBytes else it.isText

/-! ## 2. The two scans -/

/-- What a parser comes across.  Items come with their positions. -/
inductive Event where
  | claim (pos : ℕ) (it : Item)
  /-- a software component read to its end, and its recognised fields -/
  | component (start : ℕ) (fields : List (ℕ × Item))
  /-- a software component that ends before its last field -/
  | broken
  /-- the call that ends the loop -/
  | stop (status : Status)
deriving DecidableEq, Repr

/-- The claims among the events. -/
def claims (es : List Event) : List (ℕ × Item) :=
  es.filterMap fun
    | .claim pos it => some (pos, it)
    | _ => none

/-- The components among the events. -/
def readComponents (es : List Event) : List (ℕ × List (ℕ × Item)) :=
  es.filterMap fun
    | .component start fields => some (start, fields)
    | _ => none

/-- One item of the realm token; the place is the number of extensible measurements still to come.
Only the status of the last one is looked at. -/
def realmStep : ℕ → ℕ → Status × Item → List Event × Option ℕ
  | 0, pos, (st, it) =>
    if st ≠ .success then ([.stop st], none)
    else if it.IsClaim realmMandatory then
      ([.claim pos it], some (if it.label = ccaRealmExtensibleMeasurement then it.uCount else 0))
    else ([], some 0)
  | 1, _, (st, _) => if st ≠ .success then ([.stop st], none) else ([], some 0)
  | n + 2, _, _ => ([], some (n + 1))

/-- Where a parser stands in the platform token. -/
inductive Place where
  | claims
  /-- before a software component, with `more` to come after it -/
  | component (more : ℕ)
  /-- inside one, which has `left` items after the next -/
  | field (start : ℕ) (seen : List (ℕ × Item)) (left more : ℕ)

/-- Before so many components. -/
def Place.before : ℕ → Place
  | 0 => .claims
  | n + 1 => .component n

/-- An item of a component, with `left` after it: its own header is one too. -/
def fieldStep (start : ℕ) (seen : List (ℕ × Item)) (left more pos : ℕ) (it : Item) :
    List Event × Option Place :=
  let seen := if it.label ∈ componentLabels then seen ++ [(pos, it)] else seen
  match left with
  | 0 => ([.component start seen], some (.before more))
  | left + 1 => ([], some (.field start seen left more))

/-- One item of the platform token.  A component whose header cannot be read is passed over, and only
the status of the last one is looked at. -/
def platformStep : Place → ℕ → Status × Item → List Event × Option Place
  | .claims, pos, (st, it) =>
    if st ≠ .success then ([.stop st], none)
    else if it.IsClaim platformLabels then
      ([.claim pos it],
        some (if it.label = ccaPlatformSwComponents then .before it.uCount else .claims))
    else ([], some .claims)
  | .component more, pos, (st, it) =>
    if st ≠ .success then
      match more with
      | 0 => ([.stop st], none)
      | more + 1 => ([], some (.component more))
    else fieldStep pos [] it.uCount more pos it
  | .field start seen left more, pos, (st, it) =>
    if st ≠ .success then ([.broken], none) else fieldStep start seen left more pos it

/-- Past the end of the input every call fails. -/
def realmFinish (last : Status) (_ : ℕ) : Event := .stop last

def platformFinish (last : Status) : Place → Event
  | .field .. => .broken
  | _ => .stop last

/-- What the realm parser comes across in a payload; the first item is the claim map. -/
def realmItems (d : Decoded) : List Event :=
  scanFrom realmStep (realmFinish d.last.1) 0 1 (d.results.drop 1)

def platformItems (d : Decoded) : List Event :=
  scanFrom platformStep (platformFinish d.last.1) .claims 1 (d.results.drop 1)

/-! ## 3. What the items say -/

/-- The loops must have run into the end of the input. -/
def endStatus (st : Status) : Status :=
  if st = .hitEnd ∨ st = .noMoreItems then .success else .error

/-- How the realm parser ends. -/
def realmVerdict (qcbor : Bytes → Decoded) (challenge : Bytes) : List Event → Option Status
  | [] => some .success
  | .claim _ it :: es =>
    if it.realmFormed qcbor challenge then realmVerdict qcbor challenge es
    else if it.Overruns then none
    else some .error
  | .stop st :: es =>
    if endStatus st = .success then realmVerdict qcbor challenge es else some .error
  | _ :: _ => some .error

/-- How the platform parser ends, if the count of fields begins at `k`. -/
def platformVerdict : UInt32 → List Event → Option Status
  | _, [] => some .success
  | k, .claim _ it :: es => if it.platformFormed then platformVerdict k es else some .error
  | k, .component _ fields :: es =>
    if (∀ f ∈ fields, f.2.fieldFormed = true) ∧ ¬ UInt32.ofNat fields.length + k < 2 then
      platformVerdict 0 es
    else some .error
  | k, .stop st :: es =>
    if endStatus st = .success then platformVerdict k es else some .error
  | _, .broken :: _ => some .error

/-- A realm claim in the expected format, or the end of the input. -/
def Event.RealmFormed (qcbor : Bytes → Decoded) (challenge : Bytes) : Event → Prop
  | .claim _ it => it.realmFormed qcbor challenge = true
  | .stop st => endStatus st = .success
  | _ => False

/-- A platform claim in the expected format, a component with two fields in the expected format, or
the end of the input. -/
def Event.PlatformFormed : Event → Prop
  | .claim _ it => it.platformFormed = true
  | .component _ fields =>
    (∀ f ∈ fields, f.2.fieldFormed = true) ∧ ¬ UInt32.ofNat fields.length < 2
  | .broken => False
  | .stop st => endStatus st = .success

theorem realmVerdict_eq_success {qcbor : Bytes → Decoded} {challenge : Bytes} {es : List Event} :
    realmVerdict qcbor challenge es = some .success ↔ ∀ e ∈ es, e.RealmFormed qcbor challenge := by
  induction es with
  | nil => simp [realmVerdict]
  | cons e es ih =>
    rw [List.forall_mem_cons, ← ih]
    cases e with
    | claim pos it =>
      rw [realmVerdict]
      by_cases hformed : it.realmFormed qcbor challenge = true
      · simp [hformed, Event.RealmFormed]
      · by_cases hover : it.Overruns <;> simp [hformed, hover, Event.RealmFormed]
    | stop st => by_cases hst : endStatus st = .success <;> simp [realmVerdict, hst, Event.RealmFormed]
    | component start fields => simp [realmVerdict, Event.RealmFormed]
    | broken => simp [realmVerdict, Event.RealmFormed]

theorem platformVerdict_eq_success {es : List Event} :
    platformVerdict 0 es = some .success ↔ ∀ e ∈ es, e.PlatformFormed := by
  induction es with
  | nil => simp [platformVerdict]
  | cons e es ih =>
    rw [List.forall_mem_cons, ← ih]
    cases e with
    | claim pos it =>
      by_cases hformed : it.platformFormed = true <;>
        simp [platformVerdict, hformed, Event.PlatformFormed]
    | component start fields =>
      rw [platformVerdict, add_zero, Event.PlatformFormed]
      split
      · rename_i hboth
        exact (and_iff_right hboth).symm
      · rename_i hboth
        exact iff_of_false (by simp) fun h => hboth h.1
    | broken => simp [platformVerdict, Event.PlatformFormed]
    | stop st =>
      by_cases hst : endStatus st = .success <;> simp [platformVerdict, hst, Event.PlatformFormed]

end RmmAcs.Attest
