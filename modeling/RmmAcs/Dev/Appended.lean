/-
# What ends up in the cached objects

An exit asks for two things to be cached, a slice of the request and a slice of the response, and has
a flag for each: `If flags.req_cache is true, offset in the device request buffer ...`.  The host looks
at the flags only to decide whether there is anything to cache at ALL.  Once one of them is set, both
slices are appended, whatever the offset and the length of the other one happen to be.

So an object holds exactly what was asked for along the runs in which the slice of a clear flag is
empty.  `communicate_caches_what_is_asked` is that result, for any number of rounds;
`communicate_caches_too_much` is a run with one stray byte.
-/
import RmmAcs.Dev.Communicate

namespace RmmAcs.Dev

open RmmAcs

/-! ## 1. What the RMM asks for -/

/-- The exits of the successful COMMUNICATEs, oldest first, each with the buffers as it left them. -/
def exits : DevLog → List DevCommReturn
  | [] => []
  | .communicate _ _ r :: l => if r.x0 = 0 then exits l ++ [r] else exits l
  | _ :: l => exits l

/-- The slice `[offset, +len)` of a buffer. -/
def Buffer.bytes (buf : Buffer) (offset len : UInt64) : List UInt8 :=
  (List.range len.toNat).map (buf.slice offset)

/-- **What an exit asks to be appended** to the object of a kind: the slices of the flags that are
set. -/
def DevCommReturn.wanted (w : Owner) (k : Kind) (r : DevCommReturn) : List UInt8 :=
  if w.object r.exit.cacheObjId = some k then
    (if r.exit.reqCache then r.req.bytes r.exit.reqCacheOffset r.exit.reqCacheLen else []) ++
      (if r.exit.rspCache then r.rsp.bytes r.exit.rspCacheOffset r.exit.rspCacheLen else [])
  else []

/-- The slice of a clear flag is empty, and what is asked for is inside the buffers and fits into an
object of the owner's; the lengths are integers. -/
structure Acceptable (w : Owner) (lens : Kind → ℕ) (x : DevCommExit) : Prop where
  reqFlag : x.reqCache = false → x.reqCacheLen = 0
  rspFlag : x.rspCache = false → x.rspCacheLen = 0
  reqInside : x.reqCacheLen = 0 ∨
    x.reqCacheOffset.toNat + x.reqCacheLen.toNat ≤ granuleSize.toNat
  rspInside : x.rspCacheLen = 0 ∨
    x.rspCacheOffset.toNat + x.rspCacheLen.toNat ≤ granuleSize.toNat
  room : ∃ k, w.object x.cacheObjId = some k ∧
    lens k + x.reqCacheLen.toNat + x.rspCacheLen.toNat ≤ k.max.toNat

/-- **An exit in order**: no flag is set, or there is nothing to cache, or the object is none of the
owner's -- then nothing is cached -- or it is acceptable. -/
def InOrder (w : Owner) (lens : Kind → ℕ) (x : DevCommExit) : Prop :=
  (x.reqCache = false ∧ x.rspCache = false) ∨ (x.reqCacheLen = 0 ∧ x.rspCacheLen = 0) ∨
    w.object x.cacheObjId = none ∨ Acceptable w lens x

/-- Every exit is in order, given what those before it have asked for. -/
def AllInOrder (w : Owner) : (Kind → ℕ) → List DevCommReturn → Prop
  | _, [] => True
  | lens, r :: rs =>
    InOrder w lens r.exit ∧ AllInOrder w (fun k => lens k + (r.wanted w k).length) rs

theorem allInOrder_snoc {w : Owner} {r : DevCommReturn} {rs : List DevCommReturn}
    {lens : Kind → ℕ} : AllInOrder w lens (rs ++ [r]) ↔ AllInOrder w lens rs ∧
      InOrder w (fun k => lens k + (rs.flatMap (DevCommReturn.wanted w k)).length) r.exit := by
  induction rs generalizing lens with
  | nil => simp [AllInOrder]
  | cons q rs ih =>
    rw [List.cons_append]
    unfold AllInOrder
    rw [ih, and_assoc]
    simp only [List.flatMap_cons, List.length_append, Nat.add_assoc]

/-! ## 2. One exit -/

theorem contents_length (o : CachedObject) : o.contents.length = o.len.toNat := by
  simp [CachedObject.contents]

/-- A slice that does not make the length wrap is appended to what is there. -/
theorem append_contents {o : CachedObject} (buf : ℕ → UInt8) {n : UInt64}
    (h : o.len.toNat + n.toNat < 2 ^ 64) :
    (o.append buf n).contents = o.contents ++ (List.range n.toNat).map buf := by
  have hlen : (o.append buf n).len.toNat = o.len.toNat + n.toNat := by
    have hdef : (o.append buf n).len = o.len + n := rfl
    rw [hdef, UInt64.toNat_add, Nat.mod_eq_of_lt h]
  unfold CachedObject.contents
  rw [hlen, List.range_add, List.map_append, List.map_map]
  congr 1
  · refine List.map_congr_left fun i hi => ?_
    have hi' := List.mem_range.mp hi
    exact if_neg fun hc => by omega
  · refine List.map_congr_left fun i hi => ?_
    have hi' := List.mem_range.mp hi
    change (if o.len.toNat ≤ o.len.toNat + i ∧ o.len.toNat + i < o.len.toNat + n.toNat then
      buf (o.len.toNat + i - o.len.toNat) else o.data (o.len.toNat + i)) = buf i
    rw [if_pos ⟨by omega, by omega⟩, Nat.add_sub_cancel_left]

/-- One slice that is inside and fits. -/
theorem cacheDevObject_appends {w : Owner} {o : DevCache} (buf : Buffer) {id : UInt8}
    {offset len : UInt64} {k : Kind} (hk : w.object id = some k)
    (hin : len = 0 ∨ offset.toNat + len.toNat ≤ granuleSize.toNat)
    (hroom : (o.lens k).toNat + len.toNat ≤ k.max.toNat) :
    ∃ o', valHostDevCacheDevObject w o buf id offset len = (0, o') ∧
      ∀ j, (o'.get j).contents
        = (o.get j).contents ++ if j = k then buf.bytes offset len else [] := by
  have hsize : granuleSize.toNat = 0x1000 := rfl
  have hmax := k.max_le
  have hpass : Passes w o.lens id offset len := by
    refine ⟨hin.imp_right fun hle => ?_, k, hk, ?_⟩
    · rw [UInt64.le_iff_toNat_le, UInt64.toNat_add, Nat.mod_eq_of_lt (by omega)]
      exact hle
    · rw [UInt64.le_iff_toNat_le, UInt64.toNat_add, Nat.mod_eq_of_lt (by omega)]
      exact hroom
  obtain ⟨k', hk', -, heq⟩ := cacheDevObject_of_passes buf hpass
  obtain rfl : k = k' := Option.some.inj (hk.symm.trans hk')
  refine ⟨_, heq, fun j => ?_⟩
  rw [DevCache.get_set]
  split
  · rename_i hj
    rw [hj]
    exact append_contents _ (Nat.lt_of_le_of_lt hroom (by omega))
  · exact (List.append_nil _).symm

/-- A part of an exit that is empty unless its flag is set is the part that is wanted. -/
theorem bytes_eq_wanted (buf : Buffer) {offset len : UInt64} {flag : Bool}
    (h : flag = false → len = 0) :
    buf.bytes offset len = if flag then buf.bytes offset len else [] := by
  cases flag with
  | true => rfl
  | false =>
    rw [h rfl]
    rfl

/-- **One exit in order** is cached as it asks. -/
theorem cacheExit_appends {w : Owner} {o : DevCache} (r : DevCommReturn)
    (h : InOrder w (fun k => (o.lens k).toNat) r.exit) (j : Kind) :
    ((if r.exit.reqCache || r.exit.rspCache then
        (valHostDevCacheDevReqResp w o r.req r.rsp r.exit).2 else o).get j).contents
      = (o.get j).contents ++ r.wanted w j := by
  by_cases hwants : (r.exit.reqCache || r.exit.rspCache) = true
  · rw [if_pos hwants]
    by_cases hzero : r.exit.reqCacheLen = 0 ∧ r.exit.rspCacheLen = 0
    · have hnone : r.wanted w j = [] := by
        unfold DevCommReturn.wanted Buffer.bytes
        rw [hzero.1, hzero.2]
        simp
      rw [cacheDevReqResp_refused (Or.inl hzero), hnone, List.append_nil]
    by_cases hunknown : w.object r.exit.cacheObjId = none
    · have hnone : r.wanted w j = [] := by
        unfold DevCommReturn.wanted
        rw [hunknown]
        exact if_neg nofun
      have hfails : ¬ Passes w o.lens r.exit.cacheObjId r.exit.reqCacheOffset r.exit.reqCacheLen := by
        rintro ⟨-, k, hk, -⟩
        rw [hunknown] at hk
        nomatch hk
      rw [cacheDevReqResp_refused (Or.inr hfails), hnone, List.append_nil]
    · have hacc : Acceptable w (fun k => (o.lens k).toNat) r.exit := by
        rcases h with ⟨h1, h2⟩ | hzero' | hunknown' | hacc
        · rw [h1, h2] at hwants
          exact absurd hwants (by decide)
        · exact absurd hzero' hzero
        · exact absurd hunknown' hunknown
        · exact hacc
      obtain ⟨k, hk, hroom⟩ := hacc.room
      obtain ⟨o₁, hreq, hget₁⟩ := cacheDevObject_appends (o := o) r.req hk hacc.reqInside
        (by omega)
      have hlen₁ : (o₁.lens k).toNat = (o.lens k).toNat + r.exit.reqCacheLen.toNat := by
        have hlength := congrArg List.length (hget₁ k)
        rw [if_pos rfl, List.length_append, contents_length, contents_length] at hlength
        simpa [Buffer.bytes, DevCache.lens] using hlength
      obtain ⟨o₂, hrsp, hget₂⟩ := cacheDevObject_appends (o := o₁) r.rsp hk hacc.rspInside
        (by omega)
      have hresult : (valHostDevCacheDevReqResp w o r.req r.rsp r.exit).2 = o₂ := by
        unfold valHostDevCacheDevReqResp
        rw [if_neg hzero, hreq]
        dsimp only
        rw [if_neg (not_not.mpr rfl), hrsp]
      rw [hresult, hget₂, hget₁, List.append_assoc]
      unfold DevCommReturn.wanted
      rw [hk]
      by_cases hj : j = k
      · rw [if_pos hj, if_pos hj, if_pos (congrArg some hj.symm), ← bytes_eq_wanted _ hacc.reqFlag,
          ← bytes_eq_wanted _ hacc.rspFlag]
      · rw [if_neg hj, if_neg hj, if_neg fun he => hj (Option.some.inj he).symm]
        rfl
  · rw [if_neg hwants]
    simp only [Bool.or_eq_true, not_or, Bool.not_eq_true] at hwants
    have hnone : r.wanted w j = [] := by
      unfold DevCommReturn.wanted
      rw [hwants.1, hwants.2]
      simp
    rw [hnone, List.append_nil]

/-! ## 3. A run -/

section Run

variable {env : DevEnv} {d : Device} {target : UInt64}

/-- What the events of a call have done to the objects, which were `c` before it. -/
def Appended (w : Owner) (c : DevCache) (evs : DevLog) (cache : DevCache) : Prop :=
  AllInOrder w (fun k => (c.lens k).toNat) (exits evs) →
    ∀ k, (cache.get k).contents = (c.get k).contents ++ (exits evs).flatMap (DevCommReturn.wanted w k)

/-- An event that is no exit appends nothing. -/
theorem Appended.other {w : Owner} {c cache : DevCache} {evs evs' : DevLog}
    (h : Appended w c evs cache) (he : exits evs' = exits evs) : Appended w c evs' cache := by
  unfold Appended
  rw [he]
  exact h

/-- An exit appends what it asks for, if it is in order. -/
theorem Appended.exit {w : Owner} {c cache : DevCache} {evs : DevLog} (h : Appended w c evs cache)
    (cmd : DevSmc) (enter : DevCommEnter) {r : DevCommReturn} (hx0 : r.x0 = 0) :
    Appended w c (.communicate cmd enter r :: evs)
      (if r.exit.reqCache || r.exit.rspCache then
        (valHostDevCacheDevReqResp w cache r.req r.rsp r.exit).2 else cache) := by
  have hexits : exits (.communicate cmd enter r :: evs) = exits evs ++ [r] := if_pos hx0
  intro hall k
  rw [hexits] at hall ⊢
  obtain ⟨hbefore, hthis⟩ := allInOrder_snoc.mp hall
  have hcontents := h hbefore
  have hlens : (fun k => (c.lens k).toNat +
      ((exits evs).flatMap (DevCommReturn.wanted w k)).length) = fun k => (cache.lens k).toNat := by
    funext j
    have hlength := congrArg List.length (hcontents j)
    rw [List.length_append, contents_length, contents_length] at hlength
    exact hlength.symm
  rw [hlens] at hthis
  rw [cacheExit_appends r hthis, hcontents k, List.flatMap_append, List.flatMap_singleton,
    List.append_assoc]

/-- The state of a call that began with the objects `c` after the events `l₀`. -/
def AppendedAt (w : Owner) (c : DevCache) (l₀ : DevLog) (s : CommState) : Prop :=
  ∃ evs, s.log = evs ++ l₀ ∧ Appended w c evs s.cache

variable {c : DevCache} {l₀ : DevLog} {s : CommState}

/-- A step that is no exit and caches nothing. -/
theorem AppendedAt.other {w : Owner} (h : AppendedAt w c l₀ s) {e : Event} {s' : CommState}
    (hlog : s'.log = e :: s.log) (hcache : s'.cache = s.cache)
    (he : ∀ evs, exits (e :: evs) = exits evs) : AppendedAt w c l₀ s' := by
  obtain ⟨evs, hevs, happ⟩ := h
  refine ⟨e :: evs, by rw [hlog, hevs]; rfl, ?_⟩
  rw [hcache]
  exact happ.other (he evs)

/-- Before the caching of the exit `r`: everything before it has been cached. -/
def AppendedBefore (w : Owner) (c : DevCache) (l₀ : DevLog) (r : DevCommReturn) (s : CommState) :
    Prop :=
  ∃ evs cmd enter, s.log = .communicate cmd enter r :: evs ++ l₀ ∧ r.x0 = 0 ∧
    Appended w c evs s.cache

/-- The caching of an exit appends what the exit asks for. -/
theorem AppendedBefore.cached {r : DevCommReturn} (h : AppendedBefore d.owner c l₀ r s) :
    AppendedAt d.owner c l₀ (cacheIfAsked d r s).2 := by
  obtain ⟨evs, cmd, enter, hlog, hx0, happ⟩ := h
  have hexit := happ.exit cmd enter hx0
  unfold cacheIfAsked
  split
  · rename_i hwants
    rw [if_pos hwants] at hexit
    refine ⟨.cache (valHostDevCacheDevReqResp d.owner s.cache r.req r.rsp r.exit).1 ::
      .communicate cmd enter r :: evs, ?_, hexit.other rfl⟩
    unfold cacheExit
    dsimp only
    rw [hlog]
    rfl
  · rename_i hwants
    rw [if_neg hwants] at hexit
    exact ⟨.communicate cmd enter r :: evs, hlog, hexit⟩

/-- **Every step of a communication appends what its exit asks for.** -/
theorem appendedAt_keeps (d : Device) (c : DevCache) (l₀ : DevLog) :
    CommKeeps d (AppendedAt d.owner c l₀) (AppendedBefore d.owner c l₀) where
  refused s r h hx0 := h.other rfl rfl fun evs => if_neg hx0
  exit s r h hx0 := by
    obtain ⟨evs, hlog, happ⟩ := h
    exact ⟨evs, d.communicate, s.enter, congrArg _ hlog, hx0, happ⟩
  cached s r h := h.cached
  exchanged s _ _ _ _ _ h := h.other rfl rfl fun _ => rfl
  entered _ _ h := h
  read s _ h := h.other rfl rfl fun _ => rfl

/-- **Cached objects hold what was asked for.**  For every sequence of answers and any number of
rounds: if every exit of the run is in order -- the slice of a clear flag is empty, and what is asked
for is inside the buffers and fits, as integers, or the object is none of the owner's -- then the
bytes appended to each of the four objects are, over the exits in order, the slice of the request if
its flag is set, followed by the slice of the response if its flag is. -/
theorem communicate_caches_what_is_asked (env : DevEnv) (rd : UInt64) (pdevObj : Option PdevObj)
    (vdevObj : Option VdevObj) (targetState : UInt8) (n : ℕ) (s : CommState) :
    ∃ evs, (valHostDevCommunicate env rd pdevObj vdevObj targetState n s).2.log = evs ++ s.log ∧
      (AllInOrder (ownerOf vdevObj) (fun k => (s.cache.lens k).toNat) (exits evs) →
        ∀ k, ((valHostDevCommunicate env rd pdevObj vdevObj targetState n s).2.cache.get k).contents
          = (s.cache.get k).contents ++
            (exits evs).flatMap (DevCommReturn.wanted (ownerOf vdevObj) k)) := by
  have hstart : AppendedAt (ownerOf vdevObj) s.cache s.log s :=
    ⟨[], rfl, fun _ k => (List.append_nil _).symm⟩
  have hkeeps (p : PdevObj) : CommKeeps ⟨rd, p, vdevObj⟩
      (AppendedAt (ownerOf vdevObj) s.cache s.log) (AppendedBefore (ownerOf vdevObj) s.cache s.log) :=
    appendedAt_keeps ⟨rd, p, vdevObj⟩ s.cache s.log
  exact CommKeeps.communicate (fun p _ => hkeeps p) env targetState n hstart

end Run

/-- The RMM asks once for the first byte of the request, as a certificate, and the length of the
other slice happens not to be zero; then it asks for nothing. -/
def strayEnv : DevEnv where
  smc _ _ := ⟨0, 3, 0⟩
  communicate l _ _ :=
    ⟨0, ⟨if (lastExit l).isSome then 0 else reqCacheBit, 0, 1, 0, 1, rmiDevCertificate, 0, 0⟩,
      fun _ => 0x11, fun _ => 0x22⟩
  doe _ _ _ := (0, 0)
  alloc _ _ _ := 0

/-- The run with it: two rounds. -/
def strayRun : Option UInt64 × CommState :=
  valHostDevCommunicate strayEnv 0 (some ⟨0x88000000, 0x88001000⟩) none 3 2
    ⟨⟨.none, 0⟩, .empty, []⟩

/-- **A stray byte.**  Only the flag of the request is set, 0 is returned, and a byte of the response
has been cached with the one that was asked for. -/
theorem communicate_caches_too_much :
    strayRun.1 = some 0 ∧ (strayRun.2.cache.get .certificate).contents = [0x11, 0x22] ∧
      (exits strayRun.2.log).flatMap (DevCommReturn.wanted .pdev .certificate) = [0x11] := by
  decide

end RmmAcs.Dev
