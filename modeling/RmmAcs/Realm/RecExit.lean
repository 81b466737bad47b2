/-
# The check of a REC exit

After an abort the Host looks at what the RMM has written about the exit, an image of 2 KB.
`validate_rec_exit_da` compares some fields of the syndrome and asks for zero in the others, and in all
other bytes of the image that have no meaning here; `validate_rec_exit_ia` does the same for an
instruction abort.  The bytes are compared with zero by ranges, the bits of the syndrome by fields.

Each of the two leaves a hole.  The fields of the syndrome end at bit 31, and the syndrome has 64 bits.
And one range for the instruction abort is a byte too short: it ends before the last byte of the
general-purpose registers.  Nothing else is missing (`rec_exit_tight_iff`).
-/
import Mathlib

namespace RmmAcs.RecExit

/-! ## 1. The image -/

/-- `val_host_rec_exit_ts`, 2 KB by their offset. -/
abbrev Image := ℕ → UInt8

/-- An `unsigned long` of the image. -/
def Image.field64 (image : Image) (offset : ℕ) : ℕ :=
  (List.range 8).foldr (fun i acc => (image (offset + i)).toNat + 256 * acc) 0

def Image.exitReason (image : Image) : ℕ := image.field64 0

def Image.esr (image : Image) : ℕ := image.field64 0x100

def Image.hpfar (image : Image) : ℕ := image.field64 0x110

/-- `VAL_EXTRACT_BITS(data, start, end)` -/
def valExtractBits (data start stop : ℕ) : ℕ :=
  (data >>> start) &&& ((1 <<< (stop - start + 1)) - 1)

/-- `val_memcmp` of a range of the image with zeros: whether there is a difference. -/
def differs (image : Image) (range : ℕ × ℕ) : Bool :=
  (List.range range.2).any fun i => image (range.1 + i) != 0

def RMI_EXIT_SYNC : ℕ := 0
def ESR_ISS_SET_UER : ℕ := 0
def ESR_ISS_EA : ℕ := 0
def ESR_EC_LOWER_EL : ℕ := 0x24
def ESR_IA_EC_LOWER_EL : ℕ := 0x20
def ESR_ISV_VALID : ℕ := 1
def ESR_SAS_WORD : ℕ := 2
def ESR_FnV : ℕ := 0
def ESR_ISS_IFSC_TTF_L3 : ℕ := 7

def VAL_SUCCESS : ℕ := 0
def VAL_ERROR : ℕ := 1

/-- `exception_da_abort_type_te` -/
inductive AbortType where
  | emulatable
  | nonEmulatable
deriving DecidableEq, Repr

/-! ## 2. The checks -/

/-- The fields of the syndrome that are compared after a data abort. -/
def daEsrMatches (esr dfsc wnr : ℕ) : AbortType → Bool
  | .emulatable =>
    valExtractBits esr 11 12 == ESR_ISS_SET_UER && valExtractBits esr 9 9 == ESR_ISS_EA &&
      valExtractBits esr 0 5 == dfsc && valExtractBits esr 26 31 == ESR_EC_LOWER_EL &&
      valExtractBits esr 24 24 == ESR_ISV_VALID && valExtractBits esr 22 23 == ESR_SAS_WORD &&
      valExtractBits esr 6 6 == wnr && valExtractBits esr 10 10 == ESR_FnV
  | .nonEmulatable =>
    valExtractBits esr 11 12 == ESR_ISS_SET_UER && valExtractBits esr 9 9 == ESR_ISS_EA &&
      valExtractBits esr 10 10 == ESR_FnV && valExtractBits esr 0 5 == dfsc &&
      valExtractBits esr 26 31 == ESR_EC_LOWER_EL

/-- The fields that have to be zero. -/
def daEsrMbz : AbortType → List (ℕ × ℕ)
  | .emulatable => [(7, 7), (8, 8), (13, 13), (14, 14), (15, 15), (16, 20), (21, 21), (25, 25)]
  | .nonEmulatable =>
    [(7, 7), (8, 8), (13, 13), (14, 14), (15, 15), (16, 20), (21, 21), (24, 24), (22, 23), (6, 6),
      (25, 25)]

def esrMbzFails (esr : ℕ) (fields : List (ℕ × ℕ)) : Bool :=
  fields.any fun f => valExtractBits esr f.1 f.2 != 0

/-- The ranges that have to be zero, by their offset and length. -/
def daRanges : List (ℕ × ℕ) :=
  [(1, 0xFF), (0x108, 0x8), (0x118, 0xE8), (0x208, 0xF8), (0x398, 0x68), (0x420, 0x2E0),
    (0x701, 0xFF)]

def iaRanges : List (ℕ × ℕ) :=
  [(1, 0xFF), (0x108, 0x8), (0x118, 0x1E7), (0x398, 0x68), (0x420, 0x2E0), (0x701, 0xFF)]

/-- `validate_rec_exit_da`. -/
def validateRecExitDa (image : Image) (hpfar dfsc : ℕ) (abortType : AbortType) (wnr : ℕ) : ℕ :=
  if image.exitReason ≠ RMI_EXIT_SYNC then VAL_ERROR
  else if valExtractBits hpfar 8 63 ≠ image.hpfar then VAL_ERROR
  else if !daEsrMatches image.esr dfsc wnr abortType then VAL_ERROR
  else if esrMbzFails image.esr (daEsrMbz abortType) then VAL_ERROR
  else if daRanges.any (differs image) then VAL_ERROR
  else VAL_SUCCESS

/-- `validate_rec_exit_ia`. -/
def validateRecExitIa (image : Image) (hpfar : ℕ) : ℕ :=
  if image.exitReason ≠ RMI_EXIT_SYNC then VAL_ERROR
  else if !(valExtractBits image.esr 11 12 == ESR_ISS_SET_UER &&
      valExtractBits image.esr 9 9 == ESR_ISS_EA &&
      valExtractBits image.esr 0 5 == ESR_ISS_IFSC_TTF_L3 &&
      valExtractBits image.esr 26 31 == ESR_IA_EC_LOWER_EL) then VAL_ERROR
  else if esrMbzFails image.esr [(7, 7), (10, 10)] then VAL_ERROR
  else if valExtractBits hpfar 8 63 ≠ image.hpfar then VAL_ERROR
  else if iaRanges.any (differs image) then VAL_ERROR
  else VAL_SUCCESS

/-! ## 3. What is asked of the checks -/

/-- The bytes that have a meaning after any abort: the exit reason, the syndrome, the fault address, the
GIC registers, the timers and the PMU status. -/
def meaningful (o : ℕ) : Bool :=
  o < 8 || (0x100 ≤ o && o < 0x108) || (0x110 ≤ o && o < 0x118) || (0x300 ≤ o && o < 0x398) ||
    (0x400 ≤ o && o < 0x420) || o == 0x700

/-- Register 0 is one more after a data abort. -/
def daMeaningful (o : ℕ) : Bool := meaningful o || (0x200 ≤ o && o < 0x208)

/-- The bits of the syndrome that are compared after a data abort. -/
def daEsrCompared : AbortType → ℕ → Bool
  | .emulatable, i => i < 7 || (9 ≤ i && i < 13) || (22 ≤ i && i < 25) || (26 ≤ i && i < 32)
  | .nonEmulatable, i => i < 6 || (9 ≤ i && i < 13) || (26 ≤ i && i < 32)

/-- **After a data abort** all other bytes and all other bits of the syndrome are zero. -/
structure DaTight (image : Image) (abortType : AbortType) : Prop where
  bytes : ∀ o < 0x800, daMeaningful o = false → image o = 0
  esr : ∀ i < 64, daEsrCompared abortType i = false → image.esr.testBit i = false

/-- **After an instruction abort** all other bytes are zero. -/
def IaTight (image : Image) : Prop := ∀ o < 0x800, meaningful o = false → image o = 0

/-- The lower half of the syndrome of a data abort. -/
def daSyndrome (dfsc wnr : ℕ) : AbortType → ℕ
  | .emulatable => 0x24 * 2 ^ 26 + 2 ^ 24 + 2 * 2 ^ 22 + wnr * 2 ^ 6 + dfsc
  | .nonEmulatable => 0x24 * 2 ^ 26 + dfsc

/-- An image as it should be after a data abort, but for the upper half of the syndrome. -/
structure DaShape (image : Image) (hpfar dfsc : ℕ) (abortType : AbortType) (wnr : ℕ) : Prop where
  reason_eq : image.exitReason = RMI_EXIT_SYNC
  hpfar_eq : image.hpfar = valExtractBits hpfar 8 63
  dfsc_lt : dfsc < 64
  wnr_lt : abortType = .emulatable → wnr < 2
  esr_low : image.esr % 2 ^ 32 = daSyndrome dfsc wnr abortType
  bytes : ∀ o < 0x800, daMeaningful o = false → image o = 0

/-- An image as it should be after an instruction abort, but for the last byte of the registers. -/
structure IaShape (image : Image) (hpfar : ℕ) : Prop where
  reason_eq : image.exitReason = RMI_EXIT_SYNC
  hpfar_eq : image.hpfar = valExtractBits hpfar 8 63
  ifsc : image.esr % 2 ^ 6 = ESR_ISS_IFSC_TTF_L3
  ec : image.esr / 2 ^ 26 % 2 ^ 6 = ESR_IA_EC_LOWER_EL
  mbz : image.esr / 2 ^ 7 % 2 = 0 ∧ image.esr / 2 ^ 9 % 2 ^ 4 = 0
  bytes : ∀ o < 0x800, o ≠ 0x2FF → meaningful o = false → image o = 0

/-! ## 4. Fields and ranges -/

theorem valExtractBits_eq (data start stop : ℕ) :
    valExtractBits data start stop = data / 2 ^ start % 2 ^ (stop - start + 1) := by
  rw [valExtractBits, Nat.shiftRight_eq_div_pow, Nat.one_shiftLeft, Nat.and_two_pow_sub_one_eq_mod]

theorem differs_eq_false_iff (image : Image) (range : ℕ × ℕ) :
    differs image range = false ↔ ∀ o, range.1 ≤ o → o < range.1 + range.2 → image o = 0 := by
  simp only [differs, List.any_eq_false, List.mem_range, bne_iff_ne, ne_eq, not_not]
  constructor
  · intro h o hlo hhi
    have := h (o - range.1) (by omega)
    rwa [Nat.add_sub_cancel' hlo] at this
  · intro h i hi
    exact h (range.1 + i) (by omega) (by omega)

/-- The value of bytes in a row, the first one least. -/
theorem foldr_bytes_lt (image : Image) (offset : ℕ) (l : List ℕ) :
    l.foldr (fun i acc => (image (offset + i)).toNat + 256 * acc) 0 < 256 ^ l.length := by
  induction l with
  | nil => exact Nat.one_pos
  | cons i l ih =>
    have hb : (image (offset + i)).toNat < 256 := (image (offset + i)).toNat_lt
    rw [List.foldr_cons, List.length_cons, pow_succ]
    omega

theorem foldr_bytes_eq_zero {image : Image} {offset : ℕ} {l : List ℕ}
    (h : l.foldr (fun i acc => (image (offset + i)).toNat + 256 * acc) 0 = 0) :
    ∀ i ∈ l, image (offset + i) = 0 := by
  induction l with
  | nil => exact fun i hi => absurd hi List.not_mem_nil
  | cons j l ih =>
    rw [List.foldr_cons] at h
    intro i hi
    rcases List.mem_cons.mp hi with rfl | hi
    · exact UInt8.toNat_inj.mp (Nat.eq_zero_of_add_eq_zero_right h)
    · exact ih (by omega) i hi

theorem field64_lt (image : Image) (offset : ℕ) : image.field64 offset < 2 ^ 64 := by
  have h := foldr_bytes_lt image offset (List.range 8)
  rwa [List.length_range, show (256 : ℕ) ^ 8 = 2 ^ 64 by norm_num] at h

/-- A word that is zero has no byte that is not. -/
theorem byte_eq_zero_of_field64 {image : Image} {offset : ℕ} (h : image.field64 offset = 0) {i : ℕ}
    (hi : i < 8) : image (offset + i) = 0 :=
  foldr_bytes_eq_zero h i (List.mem_range.mpr hi)

/-- Ranges are all zero if and only if every byte in one of them is. -/
theorem any_differs_eq_false_iff (image : Image) (ranges : List (ℕ × ℕ)) :
    ranges.any (differs image) = false ↔
      ∀ o, (∃ r ∈ ranges, r.1 ≤ o ∧ o < r.1 + r.2) → image o = 0 := by
  simp only [List.any_eq_false, Bool.not_eq_true, differs_eq_false_iff]
  constructor
  · rintro h o ⟨r, hr, hlo, hhi⟩
    exact h r hr o hlo hhi
  · intro h r hr o hlo hhi
    exact h o ⟨r, hr, hlo, hhi⟩

/-- The ranges after a data abort are the bytes without a meaning and the rest of the exit reason. -/
theorem mem_daRanges_iff (o : ℕ) :
    (∃ r ∈ daRanges, r.1 ≤ o ∧ o < r.1 + r.2) ↔
      (1 ≤ o ∧ o < 8) ∨ (o < 0x800 ∧ daMeaningful o = false) := by
  simp only [daRanges, List.mem_cons, List.not_mem_nil, or_false, exists_eq_or_imp, exists_eq_left,
    daMeaningful, meaningful, Bool.or_eq_false_iff, Bool.and_eq_false_iff, decide_eq_false_iff_not,
    beq_eq_false_iff_ne]
  omega

/-- After an instruction abort they lack the last byte of the registers. -/
theorem mem_iaRanges_iff (o : ℕ) :
    (∃ r ∈ iaRanges, r.1 ≤ o ∧ o < r.1 + r.2) ↔
      (1 ≤ o ∧ o < 8) ∨ (o < 0x800 ∧ o ≠ 0x2FF ∧ meaningful o = false) := by
  simp only [iaRanges, List.mem_cons, List.not_mem_nil, or_false, exists_eq_or_imp, exists_eq_left,
    meaningful, Bool.or_eq_false_iff, Bool.and_eq_false_iff, decide_eq_false_iff_not,
    beq_eq_false_iff_ne]
  omega

/-- With no exit reason, the rest of it needs no check. -/
theorem any_differs_iff_of_reason {image : Image} (h : image.exitReason = RMI_EXIT_SYNC)
    {ranges : List (ℕ × ℕ)} {p : ℕ → Prop}
    (hr : ∀ o, (∃ r ∈ ranges, r.1 ≤ o ∧ o < r.1 + r.2) ↔ (1 ≤ o ∧ o < 8) ∨ p o) :
    ranges.any (differs image) = false ↔ ∀ o, p o → image o = 0 := by
  rw [any_differs_eq_false_iff]
  simp only [hr]
  constructor
  · intro hz o ho
    exact hz o (.inr ho)
  · rintro hz o (⟨-, ho⟩ | ho)
    · rw [← Nat.zero_add o]
      exact byte_eq_zero_of_field64 h ho
    · exact hz o ho

/-! ## 5. The syndrome -/

/-- **The lower half of the syndrome** is fixed by the checks on its fields. -/
theorem daEsr_iff (esr dfsc wnr : ℕ) (abortType : AbortType) :
    (daEsrMatches esr dfsc wnr abortType = true ∧ esrMbzFails esr (daEsrMbz abortType) = false) ↔
      dfsc < 64 ∧ (abortType = .emulatable → wnr < 2) ∧
        esr % 2 ^ 32 = daSyndrome dfsc wnr abortType := by
  rcases abortType with _ | _
  · simp only [daEsrMatches, esrMbzFails, daEsrMbz, List.any_cons, List.any_nil, valExtractBits_eq,
      Bool.and_eq_true, beq_iff_eq, Bool.or_eq_false_iff, bne_eq_false_iff_eq, daSyndrome,
      ESR_ISS_SET_UER, ESR_ISS_EA, ESR_EC_LOWER_EL, ESR_ISV_VALID, ESR_SAS_WORD, ESR_FnV,
      forall_const, and_true]
    omega
  · simp only [daEsrMatches, esrMbzFails, daEsrMbz, List.any_cons, List.any_nil, valExtractBits_eq,
      Bool.and_eq_true, beq_iff_eq, Bool.or_eq_false_iff, bne_eq_false_iff_eq, daSyndrome,
      ESR_ISS_SET_UER, ESR_ISS_EA, ESR_EC_LOWER_EL, ESR_FnV, reduceCtorEq, false_imp_iff, true_and,
      and_true]
    omega

/-- After an instruction abort only some fields are fixed. -/
theorem iaEsr_iff (esr : ℕ) :
    ((valExtractBits esr 11 12 == ESR_ISS_SET_UER && valExtractBits esr 9 9 == ESR_ISS_EA &&
        valExtractBits esr 0 5 == ESR_ISS_IFSC_TTF_L3 && valExtractBits esr 26 31 == ESR_IA_EC_LOWER_EL) =
          true ∧ esrMbzFails esr [(7, 7), (10, 10)] = false) ↔
      esr % 2 ^ 6 = ESR_ISS_IFSC_TTF_L3 ∧ esr / 2 ^ 26 % 2 ^ 6 = ESR_IA_EC_LOWER_EL ∧
        esr / 2 ^ 7 % 2 = 0 ∧ esr / 2 ^ 9 % 2 ^ 4 = 0 := by
  simp only [esrMbzFails, List.any_cons, List.any_nil, valExtractBits_eq, Bool.and_eq_true, beq_iff_eq,
    Bool.or_eq_false_iff, bne_eq_false_iff_eq, ESR_ISS_SET_UER, ESR_ISS_EA, ESR_ISS_IFSC_TTF_L3,
    ESR_IA_EC_LOWER_EL, and_true]
  omega

/-- The bits of the lower half that are not compared are zero. -/
theorem esr_testBit_of_shape {image : Image} {hpfar dfsc wnr : ℕ} {abortType : AbortType}
    (h : DaShape image hpfar dfsc abortType wnr) {i : ℕ} (hi : i < 32)
    (hc : daEsrCompared abortType i = false) : image.esr.testBit i = false := by
  obtain ⟨-, hz⟩ := (daEsr_iff image.esr dfsc wnr abortType).mpr ⟨h.dfsc_lt, h.wnr_lt, h.esr_low⟩
  -- a bit that is not compared lies in a field that has to be zero
  have hfield : ∃ f ∈ daEsrMbz abortType, f.1 ≤ i ∧ i ≤ f.2 := by
    clear hz h
    revert i
    rcases abortType with _ | _ <;> decide
  obtain ⟨f, hf, hlo, hhi⟩ := hfield
  have hzero : valExtractBits image.esr f.1 f.2 = 0 := by
    have := List.any_eq_false.mp hz f hf
    simpa using this
  rw [valExtractBits_eq] at hzero
  have hbit : (image.esr / 2 ^ f.1 % 2 ^ (f.2 - f.1 + 1)).testBit (i - f.1) = false := by
    rw [hzero, Nat.zero_testBit]
  rw [Nat.testBit_mod_two_pow, Nat.testBit_div_two_pow, Nat.sub_add_cancel hlo] at hbit
  simpa [show i - f.1 < f.2 - f.1 + 1 by omega] using hbit

/-- **The upper half of the syndrome** decides whether an image of the right shape is tight. -/
theorem daTight_iff_of_shape {image : Image} {hpfar dfsc wnr : ℕ} {abortType : AbortType}
    (h : DaShape image hpfar dfsc abortType wnr) : DaTight image abortType ↔ image.esr < 2 ^ 32 := by
  constructor
  · intro ht
    refine Nat.lt_pow_two_of_testBit image.esr fun i hi => ?_
    rcases Nat.lt_or_ge i 64 with hlt | hge
    · refine ht.esr i hlt ?_
      rcases abortType with _ | _ <;> simp [daEsrCompared] <;> omega
    · exact Nat.testBit_eq_false_of_lt
        ((field64_lt image 0x100).trans_le (Nat.pow_le_pow_right Nat.two_pos hge))
  · intro hlt
    refine ⟨h.bytes, fun i _ hc => ?_⟩
    rcases Nat.lt_or_ge i 32 with hi | hi
    · exact esr_testBit_of_shape h hi hc
    · exact Nat.testBit_eq_false_of_lt (hlt.trans_le (Nat.pow_le_pow_right Nat.two_pos hi))

/-! ## 6. What passes -/

/-- A check that returns early: it has to fail, and what follows has to succeed. -/
theorem error_ite_iff {p : Prop} [Decidable p] {rest : ℕ} :
    (if p then VAL_ERROR else rest) = VAL_SUCCESS ↔ ¬ p ∧ rest = VAL_SUCCESS := by
  have hne : VAL_ERROR ≠ VAL_SUCCESS := by decide
  rcases em p with hp | hp
  · simp [hp, hne]
  · simp [hp]

/-- **A data abort passes** if and only if its image has the shape. -/
theorem validateRecExitDa_iff (image : Image) (hpfar dfsc : ℕ) (abortType : AbortType) (wnr : ℕ) :
    validateRecExitDa image hpfar dfsc abortType wnr = VAL_SUCCESS ↔
      DaShape image hpfar dfsc abortType wnr := by
  simp only [validateRecExitDa, error_ite_iff, ne_eq, not_not, Bool.not_eq_true', Bool.not_eq_false,
    Bool.not_eq_true, and_true]
  constructor
  · rintro ⟨hreason, hhpfar, hmatch, hmbz, hranges⟩
    obtain ⟨hdfsc, hwnr, hesr⟩ := (daEsr_iff _ _ _ _).mp ⟨hmatch, hmbz⟩
    have hbytes := (any_differs_iff_of_reason hreason mem_daRanges_iff).mp hranges
    exact ⟨hreason, hhpfar.symm, hdfsc, hwnr, hesr, fun o ho hm => hbytes o ⟨ho, hm⟩⟩
  · intro h
    obtain ⟨hmatch, hmbz⟩ :=
      (daEsr_iff image.esr dfsc wnr abortType).mpr ⟨h.dfsc_lt, h.wnr_lt, h.esr_low⟩
    have hranges := (any_differs_iff_of_reason h.reason_eq mem_daRanges_iff).mpr
      fun o ho => h.bytes o ho.1 ho.2
    exact ⟨h.reason_eq, h.hpfar_eq.symm, hmatch, hmbz, hranges⟩

/-- **An instruction abort passes** if and only if its image has the shape. -/
theorem validateRecExitIa_iff (image : Image) (hpfar : ℕ) :
    validateRecExitIa image hpfar = VAL_SUCCESS ↔ IaShape image hpfar := by
  simp only [validateRecExitIa, error_ite_iff, ne_eq, not_not, Bool.not_eq_true', Bool.not_eq_false,
    Bool.not_eq_true, and_true]
  constructor
  · rintro ⟨hreason, hmatch, hmbz, hhpfar, hranges⟩
    obtain ⟨hifsc, hec, hzero⟩ := (iaEsr_iff _).mp ⟨hmatch, hmbz⟩
    have hbytes := (any_differs_iff_of_reason hreason mem_iaRanges_iff).mp hranges
    exact ⟨hreason, hhpfar.symm, hifsc, hec, hzero, fun o ho hne hm => hbytes o ⟨ho, hne, hm⟩⟩
  · intro h
    obtain ⟨hmatch, hmbz⟩ := (iaEsr_iff image.esr).mpr ⟨h.ifsc, h.ec, h.mbz⟩
    have hranges := (any_differs_iff_of_reason h.reason_eq mem_iaRanges_iff).mpr
      fun o ho => h.bytes o ho.1 ho.2.1 ho.2.2
    exact ⟨h.reason_eq, hmatch, hmbz, h.hpfar_eq.symm, hranges⟩

/-- The last byte of the registers decides whether an image of the right shape is tight. -/
theorem iaTight_iff_of_shape {image : Image} {hpfar : ℕ} (h : IaShape image hpfar) :
    IaTight image ↔ image 0x2FF = 0 := by
  constructor
  · intro ht
    exact ht 0x2FF (by decide) (by decide)
  · intro hz o ho hm
    rcases eq_or_ne o 0x2FF with rfl | hne
    · exact hz
    · exact h.bytes o ho hne hm

/-- **What the checks let through.**  A data abort is checked tightly if and only if an image of the
right shape has nothing in the upper half of its syndrome, an instruction abort if and only if such an
image has nothing in byte 0x2FF. -/
theorem rec_exit_tight_iff (image : Image) (hpfar dfsc : ℕ) (abortType : AbortType) (wnr : ℕ) :
    ((validateRecExitDa image hpfar dfsc abortType wnr = VAL_SUCCESS → DaTight image abortType) ↔
      (DaShape image hpfar dfsc abortType wnr → image.esr < 2 ^ 32)) ∧
    ((validateRecExitIa image hpfar = VAL_SUCCESS → IaTight image) ↔
      (IaShape image hpfar → image 0x2FF = 0)) := by
  rw [validateRecExitDa_iff, validateRecExitIa_iff]
  exact ⟨forall_congr' daTight_iff_of_shape, forall_congr' iaTight_iff_of_shape⟩

/-- An image that has the fields of a non-emulatable data abort and one more bit, bit 32. -/
def imageEsrHigh : Image := fun o =>
  if o = 0x100 then 0x07 else if o = 0x103 then 0x90 else if o = 0x104 then 1 else 0

/-- An image that has the fields of an instruction abort and one more byte. -/
def imageLastByte : Image := fun o =>
  if o = 0x100 then 0x07 else if o = 0x103 then 0x80 else if o = 0x2FF then 1 else 0

/-- **Both pass.** -/
theorem rec_exit_not_tight :
    (validateRecExitDa imageEsrHigh 0 7 .nonEmulatable 0 = VAL_SUCCESS ∧
      ¬ DaTight imageEsrHigh .nonEmulatable) ∧
    (validateRecExitIa imageLastByte 0 = VAL_SUCCESS ∧ ¬ IaTight imageLastByte) := by
  refine ⟨⟨by decide +kernel, fun h => ?_⟩, by decide +kernel, fun h => ?_⟩
  · exact absurd (h.esr 32 (by decide) (by decide)) (by decide +kernel)
  · exact absurd (h 0x2FF (by decide) (by decide)) (by decide)

end RmmAcs.RecExit
