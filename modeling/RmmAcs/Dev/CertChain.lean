/-
# The leaf of a certificate chain

A certificate chain is one DER SEQUENCE after another.  `host_get_leaf_cert_from_cert_chain` walks
over them until `mbedtls_asn1_get_tag` fails, and the last one it has been over is the leaf.

The function of mbedtls is not part of the repository and is a parameter, `getTag`: it is given the
bytes up to the end of the chain, and returns the size of the header and the length in it.  What it
is documented to do is `ReadsSequence`.  Whatever the bytes are, the walk then ends, and it ends
with the last SEQUENCE of the LONGEST run of complete ones that the chain starts with.

`cur_cert_idx` is an `int`.  A SEQUENCE has two bytes at least, so that a chain of less than `2 ^ 32`
bytes cannot make it overflow; the cached chains have at most `VAL_HOST_PDEV_CERT_LEN_MAX`.
-/
import Mathlib

namespace RmmAcs.CertChain

/-! ## 1. `host_get_leaf_cert_from_cert_chain` -/

/-- `mbedtls_asn1_get_tag`, for the tag of a SEQUENCE: how far it has moved `tag_ptr` and what it
has stored as the length, or `none` for an error. -/
abbrev GetTag := List UInt8 → Option (ℕ × ℕ)

/-- The variables of the loop: `cur_cert` as an offset into the chain, `cur_cert_len` and
`cur_cert_idx`. -/
structure Walk where
  cur : ℕ
  len : ℕ
  idx : Int32

/-- `while (true)`; `none` if it takes more than `fuel` rounds. -/
def walkChain (getTag : GetTag) (chain : List UInt8) : ℕ → Walk → Option Walk
  | 0, _ => none
  | fuel + 1, w =>
    match getTag (chain.drop w.cur) with
    | none => some w
    | some (header, asn1Len) =>
      let len := asn1Len + header
      if w.cur + len > chain.length then some ⟨w.cur, len, -1⟩
      else walkChain getTag chain fuel ⟨w.cur + len, len, w.idx + 1⟩

/-- What the function returns, and `*leaf_cert` (as an offset) and `*leaf_cert_len` if it stores
them. -/
structure Leaf where
  rc : ℤ
  leaf : Option (ℕ × ℕ)

def hostGetLeafCertFromCertChain (getTag : GetTag) (fuel : ℕ) (chain : List UInt8) : Option Leaf :=
  (walkChain getTag chain fuel ⟨0, 0, -1⟩).map fun w =>
    if w.idx = -1 then ⟨-1, none⟩ else ⟨0, some (w.cur - w.len, w.len)⟩

/-! ## 2. SEQUENCEs -/

/-- A big-endian number. -/
def beValue (bs : List UInt8) : ℕ := bs.foldl (fun n b => 256 * n + b.toNat) 0

/-- The header of a DER SEQUENCE: how many bytes it has, and the length of the contents.  The
length is one byte below 128, or one to four bytes after their number. -/
def sequenceHeader : List UInt8 → Option (ℕ × ℕ)
  | tag :: l :: rest =>
    if tag ≠ 0x30 then none
    else if l < 0x80 then some (2, l.toNat)
    else
      let n := (l &&& 0x7F).toNat
      if 1 ≤ n ∧ n ≤ 4 ∧ n ≤ rest.length then some (2 + n, beValue (rest.take n)) else none
  | _ => none

/-- **What the parser does**: it succeeds exactly on the header of a SEQUENCE whose contents are
there. -/
def ReadsSequence (getTag : GetTag) : Prop :=
  ∀ bs header len,
    getTag bs = some (header, len) ↔
      sequenceHeader bs = some (header, len) ∧ header + len ≤ bs.length

/-- A complete SEQUENCE and nothing else. -/
def IsSequence (bs : List UInt8) : Prop :=
  ∃ header len, sequenceHeader bs = some (header, len) ∧ header + len = bs.length

/-- A run of adjacent complete SEQUENCEs at the start of a chain. -/
def IsRun (run : List (List UInt8)) (chain : List UInt8) : Prop :=
  (∀ s ∈ run, IsSequence s) ∧ run.flatten <+: chain

/-- The longest of them: every other is the first part of it. -/
def IsLongestRun (run : List (List UInt8)) (chain : List UInt8) : Prop :=
  IsRun run chain ∧ ∀ run', IsRun run' chain → run' <+: run

/-- A header has two bytes or more, and they are there. -/
theorem sequenceHeader_bounds {bs : List UInt8} {header len : ℕ}
    (h : sequenceHeader bs = some (header, len)) : 2 ≤ header ∧ header ≤ bs.length := by
  unfold sequenceHeader at h
  split at h
  · split at h
    · cases h
    · split at h
      · cases h
        simp
      · simp only [Option.ite_none_right_eq_some, Option.some.injEq, Prod.mk.injEq] at h
        obtain ⟨⟨-, -, hn⟩, rfl, -⟩ := h
        simp only [List.length_cons]
        omega
  · cases h

/-- What is behind the header does not matter. -/
theorem sequenceHeader_append {bs : List UInt8} {header len : ℕ}
    (h : sequenceHeader bs = some (header, len)) (t : List UInt8) :
    sequenceHeader (bs ++ t) = some (header, len) := by
  unfold sequenceHeader at h
  split at h
  · rename_i tag l rest
    simp only [sequenceHeader, List.cons_append, List.length_append]
    split at h
    · cases h
    · rename_i htag
      rw [if_neg htag]
      split at h
      · rename_i hl
        rw [if_pos hl, h]
      · rename_i hl
        rw [if_neg hl]
        simp only [Option.ite_none_right_eq_some] at h
        obtain ⟨⟨h1, h4, hn⟩, hval⟩ := h
        rw [if_pos ⟨h1, h4, by omega⟩, List.take_append_of_le_length hn, hval]
  · cases h

theorem sequenceHeader_take {bs : List UInt8} {header len n : ℕ}
    (h : sequenceHeader bs = some (header, len)) (hn : header ≤ n) :
    sequenceHeader (bs.take n) = some (header, len) := by
  unfold sequenceHeader at h
  split at h
  · rename_i tag l rest
    split at h
    · cases h
    · rename_i htag
      split at h
      · rename_i hl
        cases h
        obtain ⟨m, rfl⟩ : ∃ m, n = m + 2 := ⟨n - 2, by omega⟩
        simp [sequenceHeader, htag, hl]
      · rename_i hl
        simp only [Option.ite_none_right_eq_some, Option.some.injEq, Prod.mk.injEq] at h
        obtain ⟨⟨h1, h4, hrest⟩, rfl, rfl⟩ := h
        obtain ⟨m, rfl⟩ : ∃ m, n = m + 2 := ⟨n - 2, by omega⟩
        simp only [List.take_succ_cons, sequenceHeader, if_neg htag, if_neg hl]
        rw [if_pos ⟨h1, h4, by rw [List.length_take]; omega⟩, List.take_take,
          Nat.min_eq_left (by omega)]
  · cases h

/-! ## 3. Runs of SEQUENCEs -/

theorem IsSequence.two_le {s : List UInt8} (h : IsSequence s) : 2 ≤ s.length := by
  obtain ⟨header, len, hs, hlen⟩ := h
  have := sequenceHeader_bounds hs
  omega

/-- A header whose contents are there begins a complete SEQUENCE. -/
theorem isSequence_take {bs : List UInt8} {header len : ℕ}
    (h : sequenceHeader bs = some (header, len)) (hfit : header + len ≤ bs.length) :
    IsSequence (bs.take (header + len)) :=
  ⟨header, len, sequenceHeader_take h (Nat.le_add_right _ _), by
    rw [List.length_take, Nat.min_eq_left hfit]⟩

/-- There is one complete SEQUENCE at the start of a chain, if any. -/
theorem IsSequence.eq_of_heads {s s' chain : List UInt8} (hs : IsSequence s) (hs' : IsSequence s')
    (h : s <+: chain) (h' : s' <+: chain) : s = s' := by
  obtain ⟨t, rfl⟩ := h
  obtain ⟨t', ht'⟩ := h'
  obtain ⟨header, len, hseq, hlen⟩ := hs
  obtain ⟨header', len', hseq', hlen'⟩ := hs'
  have h1 := sequenceHeader_append hseq t
  have h2 := sequenceHeader_append hseq' t'
  rw [ht', h1] at h2
  cases h2
  exact (List.append_inj_left ht' (by omega)).symm

theorem IsRun.starts {run : List (List UInt8)} {chain : List UInt8} (h : IsRun run chain)
    (hne : run ≠ []) : ∃ s, IsSequence s ∧ s <+: chain := by
  obtain ⟨s, run, rfl⟩ := List.exists_cons_of_ne_nil hne
  refine ⟨s, h.1 s List.mem_cons_self, ?_⟩
  have hpre := h.2
  rw [List.flatten_cons] at hpre
  exact (List.prefix_append _ _).trans hpre

/-- **A run is the longest** if no complete SEQUENCE follows it. -/
theorem isLongestRun_of_stop {run : List (List UInt8)} {rest : List UInt8}
    (hrun : ∀ s ∈ run, IsSequence s) (hstop : ¬ ∃ s, IsSequence s ∧ s <+: rest) :
    IsLongestRun run (run.flatten ++ rest) := by
  refine ⟨⟨hrun, List.prefix_append _ _⟩, ?_⟩
  induction run with
  | nil =>
    rintro (_ | ⟨s', run'⟩) ⟨hseq, hpre⟩
    · exact List.nil_prefix
    · exact absurd (IsRun.starts ⟨hseq, hpre⟩ (List.cons_ne_nil _ _)) hstop
  | cons s run ih =>
    rintro (_ | ⟨s', run'⟩) ⟨hseq, hpre⟩
    · exact List.nil_prefix
    · rw [List.flatten_cons] at hpre
      have hs' : s' <+: (s :: run).flatten ++ rest := (List.prefix_append _ _).trans hpre
      have hs : s <+: (s :: run).flatten ++ rest := by
        rw [List.flatten_cons, List.append_assoc]
        exact List.prefix_append _ _
      obtain rfl := (hrun s List.mem_cons_self).eq_of_heads (hseq s' List.mem_cons_self) hs hs'
      rw [List.flatten_cons, List.append_assoc, List.prefix_append_right_inj] at hpre
      have := ih (fun t ht => hrun t (List.mem_cons_of_mem _ ht)) run'
        ⟨fun t ht => hseq t (List.mem_cons_of_mem _ ht), hpre⟩
      exact (List.prefix_cons_inj s).mpr this

theorem two_mul_length_le_flatten {run : List (List UInt8)} (hrun : ∀ s ∈ run, IsSequence s) :
    2 * run.length ≤ run.flatten.length := by
  induction run with
  | nil => simp
  | cons s run ih =>
    have h2 := (hrun s List.mem_cons_self).two_le
    have := ih fun t ht => hrun t (List.mem_cons_of_mem _ ht)
    simp only [List.length_cons, List.flatten_cons, List.length_append]
    omega

/-! ## 4. The walk -/

section Walk

variable {getTag : GetTag} {chain : List UInt8}

/-- **The walk is behind a run**: `cur_cert` is its end, `cur_cert_len` the length of its last
SEQUENCE, and `cur_cert_idx` the index of that. -/
structure Behind (chain : List UInt8) (run : List (List UInt8)) (w : Walk) : Prop where
  seqs : ∀ s ∈ run, IsSequence s
  split : chain = run.flatten ++ chain.drop w.cur
  cur : w.cur = run.flatten.length
  len : ∀ s, run.getLast? = some s → w.len = s.length
  idx : w.idx.toInt = run.length - 1

theorem Behind.cur_le {run : List (List UInt8)} {w : Walk} (h : Behind chain run w) :
    w.cur ≤ chain.length := by
  rw [h.split, List.length_append, h.cur]
  exact Nat.le_add_right _ _

/-- A round over one more SEQUENCE. -/
theorem Behind.step {run : List (List UInt8)} {w : Walk} {header len : ℕ}
    (h : Behind chain run w) (hlt : chain.length < 2 ^ 32)
    (hseq : sequenceHeader (chain.drop w.cur) = some (header, len))
    (hfit : header + len ≤ (chain.drop w.cur).length) :
    Behind chain (run ++ [(chain.drop w.cur).take (header + len)])
      ⟨w.cur + (len + header), len + header, w.idx + 1⟩ := by
  have hs := isSequence_take hseq hfit
  have hlength : ((chain.drop w.cur).take (header + len)).length = header + len := by
    rw [List.length_take, Nat.min_eq_left hfit]
  refine ⟨?_, ?_, ?_, ?_, ?_⟩
  · intro s hmem
    rcases List.mem_append.mp hmem with hmem | hmem
    · exact h.seqs s hmem
    · exact List.mem_singleton.mp hmem ▸ hs
  · have hrest : (chain.drop w.cur).drop (header + len) = chain.drop (w.cur + (len + header)) := by
      rw [List.drop_drop, Nat.add_comm header len]
    rw [List.flatten_append, List.flatten_singleton, List.append_assoc, ← hrest,
      List.take_append_drop]
    exact h.split
  · have hcur := h.cur
    simp only [List.flatten_append, List.flatten_singleton, List.length_append, hlength]
    omega
  · intro s hlast
    rw [List.getLast?_append, List.getLast?_singleton] at hlast
    cases hlast
    rw [hlength]
    exact Nat.add_comm _ _
  · have hrun := two_mul_length_le_flatten h.seqs
    have hcur := h.cur_le
    have hidx := h.idx
    rw [h.cur] at hcur
    have h1 : (1 : Int32).toInt = 1 := by decide
    rw [Int32.toInt_add, h1, hidx, List.length_append, List.length_singleton,
      Int.bmod_eq_of_le (by omega) (by omega)]
    omega

/-- **The walk ends** behind a run that no complete SEQUENCE follows. -/
theorem walkChain_ends (hget : ReadsSequence getTag) (hlt : chain.length < 2 ^ 32) (fuel : ℕ)
    {run : List (List UInt8)} {w : Walk} (h : Behind chain run w)
    (hfuel : chain.length < w.cur + fuel) :
    ∃ w' run', walkChain getTag chain fuel w = some w' ∧ Behind chain run' w' ∧
      getTag (chain.drop w'.cur) = none := by
  induction fuel generalizing run w with
  | zero => exact absurd h.cur_le (by omega)
  | succ fuel ih =>
    cases htag : getTag (chain.drop w.cur) with
    | none =>
      refine ⟨w, run, ?_, h, htag⟩
      rw [walkChain, htag]
    | some p =>
      obtain ⟨header, len⟩ := p
      obtain ⟨hseq, hfit⟩ := (hget _ _ _).mp htag
      have hbounds := sequenceHeader_bounds hseq
      have hdrop : (chain.drop w.cur).length = chain.length - w.cur := List.length_drop
      have hcur := h.cur_le
      obtain ⟨w', run', hrun, hb, hnone⟩ := ih (h.step hlt hseq hfit) (by
        simp only
        omega)
      refine ⟨w', run', ?_, hb, hnone⟩
      simp only [walkChain, htag]
      rw [if_neg (by omega), hrun]

theorem getTag_none_iff (hget : ReadsSequence getTag) (bs : List UInt8) :
    getTag bs = none ↔ ¬ ∃ s, IsSequence s ∧ s <+: bs := by
  constructor
  · rintro hnone ⟨s, ⟨header, len, hseq, hlen⟩, t, rfl⟩
    have := (hget (s ++ t) header len).mpr
      ⟨sequenceHeader_append hseq t, by rw [List.length_append]; omega⟩
    rw [hnone] at this
    cases this
  · intro hno
    cases htag : getTag bs with
    | none => rfl
    | some p =>
      obtain ⟨hseq, hfit⟩ := (hget bs p.1 p.2).mp htag
      exact absurd ⟨_, isSequence_take hseq hfit, List.take_prefix _ _⟩ hno

end Walk

/-- **Leaf certificate selection.**  For a parser that reads SEQUENCEs the function returns, within
as many rounds as the chain has bytes and one.  It returns 0 exactly if the chain starts with a
complete SEQUENCE, and then the leaf lies inside the chain and is the last SEQUENCE of the longest
run of adjacent ones that the chain starts with. -/
theorem leaf_cert_is_last_of_longest_run (getTag : GetTag) (hget : ReadsSequence getTag)
    (chain : List UInt8) (hlt : chain.length < 2 ^ 32) (fuel : ℕ) (hfuel : chain.length < fuel) :
    ∃ out, hostGetLeafCertFromCertChain getTag fuel chain = some out ∧
      (out.rc = 0 ∨ out.rc = -1) ∧
      (out.rc = 0 ↔ ∃ s, IsSequence s ∧ s <+: chain) ∧
      (out.rc = 0 → ∃ leaf len run, out.leaf = some (leaf, len) ∧ leaf + len ≤ chain.length ∧
        IsLongestRun (run ++ [(chain.drop leaf).take len]) chain ∧ leaf = run.flatten.length) := by
  have hstart : Behind chain [] ⟨0, 0, -1⟩ := ⟨by simp, by simp, rfl, by simp, by decide⟩
  obtain ⟨w, run, hwalk, hb, hnone⟩ := walkChain_ends hget hlt fuel hstart (by simpa using hfuel)
  have hstop := (getTag_none_iff hget _).mp hnone
  have hlongest := isLongestRun_of_stop hb.seqs hstop
  rw [← hb.split] at hlongest
  have hidx : w.idx = -1 ↔ run = [] := by
    have hm1 : (-1 : Int32).toInt = -1 := by decide
    rw [← Int32.toInt_inj, hb.idx, hm1, ← List.length_eq_zero_iff]
    omega
  rcases List.eq_nil_or_concat run with rfl | ⟨init, s, rfl⟩
  · refine ⟨⟨-1, none⟩, ?_, .inr rfl, ?_, fun h => absurd h (by decide)⟩
    · rw [hostGetLeafCertFromCertChain, hwalk, Option.map_some, if_pos (hidx.mpr rfl)]
    · have hcur : w.cur = 0 := hb.cur
      rw [hcur, List.drop_zero] at hstop
      exact ⟨fun h => absurd h (by decide), fun h => absurd h hstop⟩
  · have hlen : w.len = s.length := hb.len s (by simp)
    have hcur : w.cur = init.flatten.length + s.length := by
      rw [hb.cur]
      simp
    have hchain : chain = init.flatten ++ (s ++ chain.drop w.cur) := by
      rw [← List.append_assoc]
      simpa using hb.split
    have hleaf : (chain.drop (w.cur - w.len)).take w.len = s := by
      rw [hchain, hcur, hlen, Nat.add_sub_cancel, List.drop_left, List.take_left]
    refine ⟨⟨0, some (w.cur - w.len, w.len)⟩, ?_, .inl rfl, ⟨fun _ => ?_, fun _ => rfl⟩,
      fun _ => ⟨w.cur - w.len, w.len, init, rfl, ?_, ?_, by omega⟩⟩
    · rw [hostGetLeafCertFromCertChain, hwalk, Option.map_some,
        if_neg (fun h => by simpa using hidx.mp h)]
    · exact hlongest.1.starts (by simp)
    · have := hb.cur_le
      omega
    · rw [hleaf]
      simpa using hlongest

/-- A parser that does that. -/
def readSequence : GetTag := fun bs =>
  (sequenceHeader bs).filter fun p => p.1 + p.2 ≤ bs.length

theorem readSequence_reads : ReadsSequence readSequence := by
  intro bs header len
  simp [readSequence, Option.filter_eq_some_iff]

/-- Two SEQUENCEs and a byte that is none. -/
theorem leaf_cert_of_two :
    ReadsSequence readSequence ∧
    ([0x30, 1, 0xAA, 0x30, 0, 0xFF] : List UInt8).length < 2 ^ 32 ∧
    ∃ out, hostGetLeafCertFromCertChain readSequence 7 [0x30, 1, 0xAA, 0x30, 0, 0xFF] = some out ∧
      out.leaf = some (3, 2) ∧ (out.rc = 0 ∨ out.rc = -1) := by
  have hlt : ([0x30, 1, 0xAA, 0x30, 0, 0xFF] : List UInt8).length < 2 ^ 32 := by decide
  obtain ⟨out, hout, hrc, -⟩ := leaf_cert_is_last_of_longest_run readSequence readSequence_reads
    [0x30, 1, 0xAA, 0x30, 0, 0xFF] hlt 7 (by decide)
  have hrun : hostGetLeafCertFromCertChain readSequence 7 [0x30, 1, 0xAA, 0x30, 0, 0xFF] =
      some ⟨0, some (3, 2)⟩ := rfl
  rw [hrun] at hout
  cases hout
  exact ⟨readSequence_reads, hlt, _, hrun, rfl, hrc⟩

end RmmAcs.CertChain
