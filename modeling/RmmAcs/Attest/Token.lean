/-
# Attestation tokens: `attestation_realm.c`

`val_attestation_verify_token` decodes a CCA attestation token: a tagged map of two byte strings,
the platform token and the realm token, each a `COSE_Sign1` array whose third element is a map of
claims.  Each map is read item by item.  A mandatory claim is not looked up: every item with a
recognised label raises one of three FILE-LEVEL counters, and the verdict at the end is a test on
the counters.

The CBOR decoder is outside this repository and is the parameter `qcbor`: a function from bytes
to what successive calls of `QCBORDecode_GetNext` deliver.  A call may fail and a later one
succeed; past the end of the input every call fails.  `pal_verify_signature` is the parameter
`verifySignature`.

The counters are the only state that outlives a call.
-/
import Mathlib

namespace RmmAcs.Attest

/-! ## 1. The decoder's interface -/

abbrev Bytes := List UInt8

/-- `VAL_SUCCESS` and `QCBOR_SUCCESS` are both zero; `error` is `VAL_ERROR`. -/
inductive Status where
  | success
  | error
  | hitEnd
  | noMoreItems
  | other (code : ℕ)
deriving DecidableEq, Repr

inductive DataType where
  | map
  | array
  | byteString
  | textString
  | int64
  | other (code : ℕ)
deriving DecidableEq, Repr

inductive LabelType where
  | int64
  | other (code : ℕ)
deriving DecidableEq, Repr

/-- `QCBORItem`.  `label` and `uCount` are what reading `label.int64` and `val.uCount` gives,
whatever the item is. -/
structure Item where
  uDataType : DataType
  uLabelType : LabelType
  label : ℤ
  uNestingLevel : ℕ
  uCount : ℕ
  string : Bytes
  tags : List ℕ
deriving DecidableEq, Repr

/-- What the decoder delivers for one input. -/
structure Decoded where
  results : List (Status × Item)
  /-- from the end of the input on -/
  last : Status × Item
  lastFails : last.1 ≠ .success
  /-- `QCBORDecode_Finish` after so many results -/
  finish : ℕ → Status

/-- `QCBORDecodeContext`: `pos` results have been delivered, `rest` have not. -/
structure Ctx where
  dec : Decoded
  pos : ℕ
  rest : List (Status × Item)

/-- `QCBORDecode_Init`. -/
def Ctx.init (d : Decoded) : Ctx := ⟨d, 0, d.results⟩

/-- `QCBORDecode_GetNext`. -/
def Ctx.getNext (c : Ctx) : (Status × Item) × Ctx :=
  match c.rest with
  | [] => (c.dec.last, c)
  | r :: rs => (r, { c with pos := c.pos + 1, rest := rs })

/-- `UsefulBuf_Compare`: zero exactly on equal buffers. -/
def usefulBufCompare (a b : Bytes) : ℤ := if a = b then 0 else 1

/-! ## 2. Labels -/

def ccaPlatformToken : ℤ := 44234
def ccaRealmToken : ℤ := 44241

def ccaPlatformProfile : ℤ := 265
def ccaPlatformChallenge : ℤ := 10
def ccaPlatformImplementationId : ℤ := 239
def ccaPlatformInstanceId : ℤ := 256
def ccaPlatformConfig : ℤ := 2401
def ccaPlatformLifecycle : ℤ := 2395
def ccaPlatformSwComponents : ℤ := 2399
def ccaPlatformVerificationService : ℤ := 2400
def ccaPlatformHashAlgoId : ℤ := 2402

def ccaPlatformSwComponentType : ℤ := 1
def ccaPlatformSwComponentMeasurementValue : ℤ := 2
def ccaPlatformSwComponentVersion : ℤ := 4
def ccaPlatformSwComponentSignerId : ℤ := 5
def ccaPlatformSwComponentAlgorithmId : ℤ := 6

def ccaRealmChallenge : ℤ := 10
def ccaRealmPersonalizationValue : ℤ := 44235
def ccaRealmInitialMeasurement : ℤ := 44238
def ccaRealmExtensibleMeasurement : ℤ := 44239
def ccaRealmHashAlgoId : ℤ := 44236
def ccaRealmPublicKey : ℤ := 44237
def ccaRealmPublicKeyHashAlgoId : ℤ := 44240

def ccaRealmPublicKeyType : ℤ := 1

/-- `CBOR_TAG_COSE_SIGN1`. -/
def cborTagCoseSign1 : ℕ := 18

/-! ## 3. State -/

/-- The three file-level counters. -/
structure Counters where
  realmClaims : UInt32
  platformClaims : UInt32
  swCompFields : UInt32
deriving DecidableEq, Repr

/-- The counters at start-up. -/
def Counters.zero : Counters := ⟨0, 0, 0⟩

/-- `attestation_token_ts`; `rem` has four elements. -/
structure AttestationToken where
  challenge : Bytes
  rpv : Bytes
  realmInitialMeasurement : Bytes
  platformAttestChallenge : Bytes
  rem : List Bytes
deriving DecidableEq, Repr

/-- The local variables of a parser, the counters and the token structure. -/
structure St where
  ctx : Ctx
  status : Status
  item : Item
  cnt : Counters
  out : AttestationToken

/-- How a piece of a parser ends. -/
inductive Ctl where
  | next (s : St)
  | ret (status : Status) (s : St)
  /-- a write past the end of `rem` -/
  | fault

/-- `status = QCBORDecode_GetNext(decode_context, &item)`. -/
def St.fetch (s : St) : St :=
  { s with ctx := s.ctx.getNext.2, status := s.ctx.getNext.1.1, item := s.ctx.getNext.1.2 }

def St.countRealm (s : St) : St := { s with cnt.realmClaims := s.cnt.realmClaims + 1 }

def St.countPlatform (s : St) : St := { s with cnt.platformClaims := s.cnt.platformClaims + 1 }

def St.countField (s : St) : St := { s with cnt.swCompFields := s.cnt.swCompFields + 1 }

def St.clearFields (s : St) : St := { s with cnt.swCompFields := 0 }

/-- Write to the token structure. -/
def St.setOut (f : AttestationToken → AttestationToken) (s : St) : St := { s with out := f s.out }

/-- Return `VAL_ERROR` unless the claim has the expected format. -/
def expect (ok : Bool) (s : St) : Ctl := if ok then .next s else .ret .error s

def Item.isBytes (it : Item) : Bool := it.uDataType == .byteString
def Item.isText (it : Item) : Bool := it.uDataType == .textString

/-- A byte string of one of the given sizes. -/
def Item.isBytesOf (it : Item) (sizes : List ℕ) : Bool :=
  it.isBytes && sizes.contains it.string.length

/-! ## 4. The realm token -/

variable (qcbor : Bytes → Decoded)

/-- The loop of `validate_realm_pub_key`: whether the key type was seen, and how many results
were read when a call first failed. -/
def keyLoop : List (Status × Item) → ℕ → Bool → Bool × ℕ
  | [], n, seen => (seen, n)
  | (st, it) :: rs, n, seen =>
    if st = .success then
      keyLoop rs (n + 1)
        (seen || (it.uLabelType == .int64 && it.label == ccaRealmPublicKeyType))
    else (seen, n + 1)

def validateRealmPubKey (key : Bytes) : Status :=
  let d := qcbor key
  let (r, c) := (Ctx.init d).getNext
  if r.1 ≠ .success then r.1
  else if r.2.uDataType ≠ .map then .error
  else
    let (seen, n) := keyLoop c.rest c.pos false
    if d.finish n ≠ .success then .error
    else if !seen then .error
    else .success

/-- `for (i = 0; i < count; i++)` over the extensible measurements: `n` of them still to come.
The status of each call replaces the one before. -/
def remLoop : ℕ → ℕ → St → Ctl
  | 0, _, s => .next s
  | n + 1, i, s =>
    if i < 4 then
      remLoop n (i + 1)
        (s.fetch.setOut fun o => { o with rem := o.rem.set i s.fetch.item.string })
    else .fault

/-- One claim of the realm token. -/
def realmClaim (challenge : Bytes) (s : St) : Ctl :=
  if s.item.uLabelType ≠ .int64 then .next s
  else if s.item.label = ccaRealmChallenge then
    if s.item.isBytesOf [64] then
      expect (usefulBufCompare s.item.string challenge == 0)
        (s.countRealm.setOut fun o => { o with challenge := s.item.string })
    else .ret .error s.countRealm
  else if s.item.label = ccaRealmPersonalizationValue then
    if s.item.isBytesOf [64] then .next (s.countRealm.setOut fun o => { o with rpv := s.item.string })
    else .ret .error s.countRealm
  else if s.item.label = ccaRealmInitialMeasurement then
    if s.item.isBytesOf [32, 48, 64] then
      .next (s.countRealm.setOut fun o => { o with realmInitialMeasurement := s.item.string })
    else .ret .error s.countRealm
  else if s.item.label = ccaRealmPublicKey then
    expect (s.item.isBytes && validateRealmPubKey qcbor s.item.string == .success) s.countRealm
  else if s.item.label = ccaRealmHashAlgoId ∨ s.item.label = ccaRealmPublicKeyHashAlgoId then
    expect s.item.isText s.countRealm
  else if s.item.label = ccaRealmExtensibleMeasurement then
    if s.item.uDataType = .array then remLoop s.item.uCount 0 s.countRealm
    else .ret .error s.countRealm
  else .next s

/-- `while (status == VAL_SUCCESS)` over the items of a payload, `body` for each.  It is entered
with one more than the results left, which is enough (`claimLoop_ends`). -/
def claimLoop (body : St → Ctl) : ℕ → St → Ctl
  | 0, _ => .fault
  | n + 1, s =>
    if s.fetch.status ≠ .success then .next s.fetch
    else
      match body s.fetch with
      | .next s' => if s'.status = .success then claimLoop body n s' else .next s'
      | r => r

/-- The end of both parsers: the loop must have run into the end of the input. -/
def Ctl.atEnd : Ctl → Ctl
  | .next s =>
    if s.status = .hitEnd ∨ s.status = .noMoreItems then .ret .success s else .ret .error s
  | r => r

def parseClaimsRealmToken (challenge : Bytes) (s : St) : Ctl :=
  (claimLoop (realmClaim qcbor challenge) (s.ctx.rest.length + 1) s).atEnd

/-! ## 5. The platform token -/

/-- One item of a software component. -/
def componentField (s : St) : Ctl :=
  if s.item.label = ccaPlatformSwComponentType ∨ s.item.label = ccaPlatformSwComponentVersion ∨
      s.item.label = ccaPlatformSwComponentAlgorithmId then
    expect s.item.isText s.countField
  else if s.item.label = ccaPlatformSwComponentMeasurementValue ∨
      s.item.label = ccaPlatformSwComponentSignerId then
    expect s.item.isBytes s.countField
  else .next s

/-- `for (i = 0; i <= count; i++)`: the current item, and `n` more. -/
def fieldLoop : ℕ → St → Ctl
  | 0, s => componentField s
  | n + 1, s =>
    match componentField s with
    | .next s' => if s'.fetch.status ≠ .success then .ret .error s'.fetch else fieldLoop n s'.fetch
    | r => r

/-- `for (index = 0; index < sw_comp_count; index++)`: `n` components still to come. -/
def componentLoop : ℕ → St → Ctl
  | 0, s => .next s
  | n + 1, s =>
    if s.fetch.status ≠ .success then componentLoop n s.fetch
    else
      match fieldLoop s.fetch.item.uCount s.fetch with
      | .next s' =>
        if s'.cnt.swCompFields < 2 then .ret .error s'
        else componentLoop n s'.clearFields
      | r => r

/-- One claim of the platform token. -/
def platformClaim (s : St) : Ctl :=
  if s.item.uLabelType ≠ .int64 then .next s
  else if s.item.label = ccaPlatformProfile ∨ s.item.label = ccaPlatformVerificationService ∨
      s.item.label = ccaPlatformHashAlgoId then
    expect s.item.isText s.countPlatform
  else if s.item.label = ccaPlatformChallenge then
    if s.item.isBytesOf [32, 48, 64] then
      .next (s.countPlatform.setOut fun o => { o with platformAttestChallenge := s.item.string })
    else .ret .error s.countPlatform
  else if s.item.label = ccaPlatformImplementationId then
    expect (s.item.isBytesOf [32]) s.countPlatform
  else if s.item.label = ccaPlatformInstanceId then
    expect (s.item.isBytesOf [33]) s.countPlatform
  else if s.item.label = ccaPlatformConfig then
    expect s.item.isBytes s.countPlatform
  else if s.item.label = ccaPlatformLifecycle then
    expect (s.item.uDataType == .int64) s.countPlatform
  else if s.item.label = ccaPlatformSwComponents then
    if s.item.uDataType = .array then componentLoop s.item.uCount s.countPlatform
    else .ret .error s.countPlatform
  else .next s

def parseClaimsPlatformToken (s : St) : Ctl :=
  (claimLoop platformClaim (s.ctx.rest.length + 1) s).atEnd

/-! ## 6. The token -/

/-- The two byte strings of the outer map.  The first three calls of `GetNext` are not checked,
only what they deliver is. -/
def openToken (token : Bytes) : Option (Bytes × Bytes) :=
  let (h, c) := (Ctx.init (qcbor token)).getNext
  let (p, c) := c.getNext
  let (r, _) := c.getNext
  if h.2.uDataType ≠ .map ∨ h.2.uCount ≠ 2 ∨ 399 ∉ h.2.tags then none
  else if !p.2.isBytes || p.2.label ≠ ccaPlatformToken then none
  else if !r.2.isBytes || r.2.label ≠ ccaRealmToken then none
  else some (p.2.string, r.2.string)

/-- The payload of a `COSE_Sign1` structure. -/
def coseSign1Payload (bytes : Bytes) : Except Status Bytes :=
  let (h, c) := (Ctx.init (qcbor bytes)).getNext
  if h.1 ≠ .success then .error h.1
  else if h.2.uDataType ≠ .array ∨ h.2.uCount ≠ 4 ∨ cborTagCoseSign1 ∉ h.2.tags then .error .error
  else
    let (_, c) := c.getNext
    let (_, c) := c.getNext
    let (r, _) := c.getNext
    .ok r.2.string

/-- Start decoding a payload: its first item must be a map. -/
def openMap (payload : Bytes) (cnt : Counters) (out : AttestationToken) : Option St :=
  let (h, c) := (Ctx.init (qcbor payload)).getNext
  if h.2.uDataType ≠ .map then none
  else some ⟨c, h.1, h.2, cnt, out⟩

variable (verifySignature : Bytes → Status)

/-- One call's arguments; `out` is the structure the caller passes in. -/
structure Call where
  challenge : Bytes
  token : Bytes
  out : AttestationToken
deriving DecidableEq, Repr

/-- What a call leaves: its status, the counters, the token structure. -/
structure Verdict where
  status : Status
  cnt : Counters
  out : AttestationToken
deriving DecidableEq, Repr

/-- The part of a call that reads the realm token. -/
def parseRealm (challenge realmToken : Bytes) (cnt : Counters) (out : AttestationToken) :
    Option Verdict :=
  match coseSign1Payload qcbor realmToken with
  | .error st => some ⟨st, cnt, out⟩
  | .ok payload =>
    match openMap qcbor payload cnt out with
    | none => some ⟨.error, cnt, out⟩
    | some s =>
      match parseClaimsRealmToken qcbor challenge s with
      | .ret st s => some ⟨st, s.cnt, s.out⟩
      | _ => none

/-- A call up to the tests on the counters. -/
def parseToken (a : Call) (cnt : Counters) : Option Verdict :=
  match openToken qcbor a.token with
  | none => some ⟨.error, cnt, a.out⟩
  | some (platformToken, realmToken) =>
    match coseSign1Payload qcbor platformToken with
    | .error st => some ⟨st, cnt, a.out⟩
    | .ok payload =>
      if verifySignature a.token ≠ .success then some ⟨verifySignature a.token, cnt, a.out⟩
      else
        match openMap qcbor payload cnt a.out with
        | none => some ⟨.error, cnt, a.out⟩
        | some s =>
          match parseClaimsPlatformToken s with
          | .ret st s =>
            if st = .success then parseRealm qcbor a.challenge realmToken s.cnt s.out
            else some ⟨st, s.cnt, s.out⟩
          | _ => none

/-- The two tests at the end. -/
def finalStatus (cnt : Counters) : Status :=
  if cnt.realmClaims ≠ 7 then .error
  else if ¬ 8 ≤ cnt.platformClaims then .error
  else .success

/-- `val_attestation_verify_token`, from the counters as the calls before left them; `none` if
it writes past the end of `rem`. -/
def valAttestationVerifyToken (a : Call) (cnt : Counters) : Option Verdict :=
  match parseToken qcbor verifySignature a cnt with
  | some v => some { v with status := if v.status = .success then finalStatus v.cnt else v.status }
  | none => none

/-! ## 7. Documents

A CBOR document as the list of its data items in the order they stand in the input, with what
the decoder delivers for it. -/

inductive Head where
  | uint (n : ℕ)
  | bytes (b : Bytes)
  | text (b : Bytes)
  | array (n : ℕ)
  | map (n : ℕ)
deriving DecidableEq, Repr

/-- A data item, with its label if it is a map entry. -/
structure Node where
  level : ℕ
  label : Option ℕ
  head : Head
  tag : Option ℕ
deriving DecidableEq, Repr

abbrev Doc := List Node

/-- The initial bytes of a data item with an argument below `2^16`. -/
def cborHead (major n : ℕ) : Bytes :=
  if n < 24 then [UInt8.ofNat (32 * major + n)]
  else if n < 256 then [UInt8.ofNat (32 * major + 24), UInt8.ofNat n]
  else [UInt8.ofNat (32 * major + 25), UInt8.ofNat (n / 256), UInt8.ofNat (n % 256)]

def Head.encode : Head → Bytes
  | .uint n => cborHead 0 n
  | .bytes b => cborHead 2 b.length ++ b
  | .text b => cborHead 3 b.length ++ b
  | .array n => cborHead 4 n
  | .map n => cborHead 5 n

def Node.encode (n : Node) : Bytes :=
  (n.label.map (cborHead 0)).getD [] ++ (n.tag.map (cborHead 6)).getD [] ++ n.head.encode

def Doc.encode (d : Doc) : Bytes := d.flatMap Node.encode

def Node.item (n : Node) : Item where
  uDataType := match n.head with
    | .uint _ => .int64
    | .bytes _ => .byteString
    | .text _ => .textString
    | .array _ => .array
    | .map _ => .map
  uLabelType := if n.label.isSome then .int64 else .other 0
  label := n.label.getD 0
  uNestingLevel := n.level
  uCount := match n.head with
    | .array k | .map k => k
    | .uint k => k % 2 ^ 16
    | .bytes _ | .text _ => 0
  string := match n.head with
    | .bytes b | .text b => b
    | _ => []
  tags := n.tag.toList

def Item.none : Item := ⟨.other 0, .other 0, 0, 0, 0, [], []⟩

def Doc.decoded (d : Doc) : Decoded where
  results := d.map fun n => (.success, n.item)
  last := (.noMoreItems, .none)
  lastFails := by decide
  finish n := if d.length ≤ n then .success else .other 10

/-- The decoder on a few documents; anything else is not well-formed to it. -/
def docQcbor (docs : List Doc) (b : Bytes) : Decoded :=
  match docs.find? fun d => d.encode == b with
  | some d => d.decoded
  | none => ⟨[], (.hitEnd, .none), by decide, fun _ => .other 10⟩

/-- A `COSE_Sign1` structure around a payload. -/
def coseDoc (payload : Bytes) : Doc :=
  [⟨0, none, .array 4, some cborTagCoseSign1⟩, ⟨1, none, .bytes [0xa0], none⟩,
    ⟨1, none, .map 0, none⟩, ⟨1, none, .bytes payload, none⟩,
    ⟨1, none, .bytes (List.replicate 64 0x5a), none⟩]

/-- The token around the two payloads. -/
def tokenDoc (platform realm : Doc) : Doc :=
  [⟨0, none, .map 2, some 399⟩,
    ⟨1, some 44234, .bytes (coseDoc platform.encode).encode, none⟩,
    ⟨1, some 44241, .bytes (coseDoc realm.encode).encode, none⟩]

/-- A public key: `{1: 2}`. -/
def keyDoc : Doc := [⟨0, none, .map 1, none⟩, ⟨1, some 1, .uint 2, none⟩]

/-- All documents a token is made of. -/
def tokenDocs (platform realm : Doc) : List Doc :=
  [tokenDoc platform realm, coseDoc platform.encode, coseDoc realm.encode, platform, realm, keyDoc]

def sampleChallenge : Bytes := List.replicate 64 0xab

def emptyToken : AttestationToken := ⟨[], [], [], [], [[], [], [], []]⟩

/-- The seven realm claims. -/
def realmDoc : Doc :=
  [⟨0, none, .map 7, none⟩,
    ⟨1, some 10, .bytes sampleChallenge, none⟩,
    ⟨1, some 44235, .bytes (List.replicate 64 1), none⟩,
    ⟨1, some 44238, .bytes (List.replicate 32 2), none⟩,
    ⟨1, some 44239, .array 2, none⟩,
    ⟨2, none, .bytes (List.replicate 32 3), none⟩,
    ⟨2, none, .bytes (List.replicate 32 4), none⟩,
    ⟨1, some 44236, .text [0x73], none⟩,
    ⟨1, some 44237, .bytes keyDoc.encode, none⟩,
    ⟨1, some 44240, .text [0x73], none⟩]

/-- The eight platform claims, with one software component. -/
def platformDoc : Doc :=
  [⟨0, none, .map 8, none⟩,
    ⟨1, some 265, .text [0x70], none⟩,
    ⟨1, some 10, .bytes (List.replicate 32 5), none⟩,
    ⟨1, some 239, .bytes (List.replicate 32 6), none⟩,
    ⟨1, some 256, .bytes (List.replicate 33 7), none⟩,
    ⟨1, some 2401, .bytes [8], none⟩,
    ⟨1, some 2395, .uint 12288, none⟩,
    ⟨1, some 2399, .array 1, none⟩,
    ⟨2, none, .map 2, none⟩,
    ⟨3, some 2, .bytes (List.replicate 32 9), none⟩,
    ⟨3, some 5, .bytes (List.replicate 32 10), none⟩,
    ⟨1, some 2402, .text [0x73], none⟩]

/-- The call for a token of two documents. -/
def docCall (platform realm : Doc) : Call :=
  ⟨sampleChallenge, (tokenDoc platform realm).encode, emptyToken⟩

end RmmAcs.Attest
