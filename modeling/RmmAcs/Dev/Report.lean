/-
# Decoding an interface report

`interface_report_decoding` takes the header fields of a TDISP interface report out of its bytes,
and then the MMIO ranges, one record of sixteen bytes each.  A field is put together from its most
significant byte down: `value = value | report_buff[..] << shift`.

The byte is an `int` when it is shifted.  Up to a shift of `24` that is 32-bit arithmetic, and the
sum of it comes out right when the field has at most four bytes, also when the top bit is set: the
sign is extended into the 64-bit `value`, and the assignment takes the low bits.  For the EIGHT
bytes of `first_page` it is not right: the sign stays, and a shift of an `int` by `32` or more has
no meaning in C at all.  What an implementation makes of it is a parameter here, `wide`, and every
result is for all of them.

The loop over the records goes as far as the report says.  The caller's array has ten elements.
-/
import Mathlib

namespace RmmAcs.Tdisp

/-! ## 1. `interface_report_decoding` -/

/-- The bytes at `report_buff`. -/
abbrev Report := ℕ → BitVec 8

/-- What `(int)b << n` gives where `n` is 32 or more. -/
abbrev WideShift := BitVec 8 → ℕ → BitVec 32

/-- `report_buff[..] << n`, an `int`. -/
def shiftedByte (wide : WideShift) (b : BitVec 8) (n : ℕ) : BitVec 32 :=
  if n < 32 then b.setWidth 32 <<< n else wide b n

/-- The loop over the bytes of a field that ends before `offset`. -/
def fieldValue (wide : WideShift) (report : Report) (offset size : ℕ) : BitVec 64 :=
  (List.range' 1 size).foldl
    (fun value j =>
      value ||| (shiftedByte wide (report (offset - j)) (8 * (size - j))).signExtend 64) 0

/-- `val_host_pci_tdisp_device_interface_report_struct_t`. -/
structure InterfaceReport where
  interfaceInfo : BitVec 16
  reserved : BitVec 16
  msiXMessageControl : BitVec 16
  lnrControl : BitVec 16
  tphControl : BitVec 32
  mmioRangeCount : BitVec 32

/-- `pci_tdisp_mmio_range_t`. -/
structure MmioRange where
  firstPage : BitVec 64
  numberOfPages : BitVec 32
  rangeAttributes : BitVec 16
  rangeId : BitVec 16

def MAX_MMIO_RANGE_COUNT : ℕ := 10

/-- `interface_report_offset` and `interface_report_size_in_bytes`. -/
def headerFields : List (ℕ × ℕ) := [(0, 2), (2, 2), (4, 2), (6, 2), (8, 4), (12, 4)]

/-- `mmio_range_size_in_bytes`. -/
def mmioRangeSizes : List ℕ := [8, 4, 2, 2]

/-- The `i`-th value of the first loop. -/
def headerValue (wide : WideShift) (report : Report) (i : ℕ) : BitVec 64 :=
  let (start, size) := headerFields.getD i (0, 0)
  fieldValue wide report (start + size) size

def decodeHeader (wide : WideShift) (report : Report) : InterfaceReport where
  interfaceInfo := (headerValue wide report 0).setWidth 16
  reserved := (headerValue wide report 1).setWidth 16
  msiXMessageControl := (headerValue wide report 2).setWidth 16
  lnrControl := (headerValue wide report 3).setWidth 16
  tphControl := (headerValue wide report 4).setWidth 32
  mmioRangeCount := (headerValue wide report 5).setWidth 32

/-- The `j`-th value of a record: `offset` has moved over the sizes up to `j`. -/
def rangeValue (wide : WideShift) (report : Report) (i j : ℕ) : BitVec 64 :=
  fieldValue wide report (16 + i * 16 + (mmioRangeSizes.take (j + 1)).sum) (mmioRangeSizes.getD j 0)

def decodeRange (wide : WideShift) (report : Report) (i : ℕ) : MmioRange where
  firstPage := rangeValue wide report i 0 <<< 12
  numberOfPages := (rangeValue wide report i 1).setWidth 32
  rangeAttributes := (rangeValue wide report i 2).setWidth 16
  rangeId := (rangeValue wide report i 3).setWidth 16

/-- What the call leaves in the caller's structures, with the elements of the array it has stored
to. -/
structure Decoded where
  header : InterfaceReport
  ranges : ℕ → MmioRange
  stored : List ℕ

/-- The loop over the records, with `n` rounds to go from `i`. -/
def decodeRanges (wide : WideShift) (report : Report) : (n i : ℕ) → Decoded → Decoded
  | 0, _, d => d
  | n + 1, i, d =>
    decodeRanges wide report n (i + 1)
      { d with
        ranges := Function.update d.ranges i (decodeRange wide report i)
        stored := d.stored ++ [i] }

def VAL_SUCCESS : ℕ := 0
def VAL_ERROR : ℕ := 1

/-- `interface_report_decoding`; `none` is a null pointer, and `d` is what the caller's structures
hold. -/
def interfaceReportDecoding (wide : WideShift) (reportBuff : Option Report) (d : Decoded) :
    ℕ × Decoded :=
  match reportBuff with
  | none => (VAL_ERROR, d)
  | some report =>
    let header := decodeHeader wide report
    (VAL_SUCCESS, decodeRanges wide report header.mmioRangeCount.toNat 0 { d with header })

/-! ## 2. Little-endian values -/

/-- The little-endian value of `n` bytes. -/
def leValue (report : Report) (offset : ℕ) : ℕ → ℕ
  | 0 => 0
  | n + 1 => (report offset).toNat + 256 * leValue report (offset + 1) n

theorem leValue_lt (report : Report) (offset n : ℕ) : leValue report offset n < 256 ^ n := by
  induction n generalizing offset with
  | zero => simp [leValue]
  | succ n ih =>
    have hb := (report offset).isLt
    have := ih (offset + 1)
    rw [leValue, pow_succ]
    omega

theorem leValue_append (report : Report) (offset m n : ℕ) :
    leValue report offset (m + n) =
      leValue report offset m + 256 ^ m * leValue report (offset + m) n := by
  induction m generalizing offset with
  | zero => simp [leValue]
  | succ m ih =>
    rw [Nat.succ_add, leValue, ih, leValue, pow_succ, Nat.add_right_comm offset, Nat.add_assoc offset]
    ring

/-! ## 3. A field -/

/-- The loop, in the 32 bits of an `int`. -/
def fieldBits (wide : WideShift) (report : Report) (offset size : ℕ) (js : List ℕ) : BitVec 32 :=
  js.foldl (fun value j => value ||| shiftedByte wide (report (offset - j)) (8 * (size - j))) 0

/-- The sign of a union is the union of the signs, so the loop can be done in 32 bits. -/
theorem fieldValue_eq (wide : WideShift) (report : Report) (offset size : ℕ) :
    fieldValue wide report offset size =
      (fieldBits wide report offset size (List.range' 1 size)).signExtend 64 := by
  have key : ∀ (js : List ℕ) (v : BitVec 32),
      js.foldl (fun value j => value |||
        (shiftedByte wide (report (offset - j)) (8 * (size - j))).signExtend 64)
          (v.signExtend 64) =
      (js.foldl (fun value j =>
        value ||| shiftedByte wide (report (offset - j)) (8 * (size - j))) v).signExtend 64 := by
    intro js
    induction js with
    | nil => exact fun v => rfl
    | cons j js ih =>
      intro v
      rw [List.foldl_cons, List.foldl_cons, ← BitVec.signExtend_or, ih]
  exact key _ 0

theorem or_shifted (x b m : ℕ) (hb : b < 256) :
    x * 256 ^ (m + 1) ||| b * 256 ^ m = (b + 256 * x) * 256 ^ m := by
  have hpow : ∀ k, 256 ^ k = 2 ^ (8 * k) := fun k => by rw [pow_mul]; norm_num
  have hlt : b * 256 ^ m < 2 ^ (8 * (m + 1)) := by
    rw [← hpow, pow_succ, mul_comm (256 ^ m)]
    exact (Nat.mul_lt_mul_right (by positivity)).mpr hb
  rw [hpow (m + 1), ← Nat.shiftLeft_eq, ← Nat.shiftLeft_add_eq_or_of_lt hlt, Nat.shiftLeft_eq,
    ← hpow, pow_succ]
  ring

/-- The union so far is the value of the top `j` bytes, in its place. -/
theorem fieldBits_top (wide : WideShift) (report : Report) (start size j : ℕ) (hsize : size ≤ 4)
    (hj : j ≤ size) :
    (fieldBits wide report (start + size) size (List.range' 1 j)).toNat =
      leValue report (start + size - j) j * 256 ^ (size - j) := by
  induction j with
  | zero => simp [fieldBits, leValue]
  | succ j ih =>
    obtain ⟨m, rfl⟩ : ∃ m, size = j + 1 + m := Nat.exists_eq_add_of_le hj
    have hb := (report (start + m)).isLt
    have hshift : 8 * m < 32 := by omega
    have hbyte : (shiftedByte wide (report (start + m)) (8 * m)).toNat =
        (report (start + m)).toNat * 256 ^ m := by
      have hpow : 256 ^ m = 2 ^ (8 * m) := by rw [pow_mul]; norm_num
      rw [shiftedByte, if_pos hshift, BitVec.toNat_shiftLeft, BitVec.toNat_setWidth,
        Nat.mod_eq_of_lt (hb.trans (by norm_num)), Nat.shiftLeft_eq, ← hpow]
      refine Nat.mod_eq_of_lt ?_
      calc (report (start + m)).toNat * 256 ^ m
          < 256 * 256 ^ m := (Nat.mul_lt_mul_right (by positivity)).mpr hb
        _ = 256 ^ (m + 1) := by ring
        _ ≤ 256 ^ 4 := Nat.pow_le_pow_right (by norm_num) (by omega)
    have e1 : start + (j + 1 + m) - j = start + m + 1 := by omega
    have e2 : j + 1 + m - j = m + 1 := by omega
    have e3 : start + (j + 1 + m) - (j + 1) = start + m := by omega
    have e4 : j + 1 + m - (j + 1) = m := by omega
    have ih' := ih (by omega)
    rw [e1, e2] at ih'
    rw [fieldBits, List.range'_1_concat, List.foldl_append, List.foldl_cons, List.foldl_nil,
      BitVec.toNat_or, Nat.add_comm 1 j, e3, e4, hbyte, leValue, ← or_shifted _ _ _ hb, ← ih']
    rfl

/-- **A field of at most four bytes** has the little-endian value of its bytes in its low bits. -/
theorem fieldBits_small (wide : WideShift) (report : Report) (start size : ℕ) (hsize : size ≤ 4) :
    (fieldBits wide report (start + size) size (List.range' 1 size)).toNat =
      leValue report start size := by
  have h := fieldBits_top wide report start size size hsize le_rfl
  simpa using h

theorem setWidth_signExtend_toNat (v : BitVec 32) (w : ℕ) (hw : w ≤ 32) :
    ((v.signExtend 64).setWidth w).toNat = v.toNat % 2 ^ w := by
  have : (v.signExtend 64).setWidth w = v.setWidth w := by
    refine BitVec.eq_of_getLsbD_eq fun i hi => ?_
    have h32 : i < 32 := by omega
    have h64 : i < 64 := by omega
    simp only [BitVec.getLsbD_setWidth, BitVec.getLsbD_signExtend, h32, h64, decide_true, if_true,
      Bool.true_and]
  rw [this, BitVec.toNat_setWidth]

/-- The field as it is assigned: `w` bits for `size` bytes. -/
theorem fieldValue_small (wide : WideShift) (report : Report) (start size : ℕ) (hsize : size ≤ 4) :
    ((fieldValue wide report (start + size) size).setWidth (8 * size)).toNat =
      leValue report start size := by
  have hpow : 2 ^ (8 * size) = 256 ^ size := by rw [pow_mul]; norm_num
  rw [fieldValue_eq, setWidth_signExtend_toNat _ _ (by omega), fieldBits_small wide report _ _ hsize,
    hpow]
  exact Nat.mod_eq_of_lt (leValue_lt _ _ _)

/-! ## 4. The first page -/

/-- What the four shifts by 32 and more put into the field. -/
def wideBits (wide : WideShift) (report : Report) (start : ℕ) : BitVec 32 :=
  wide (report (start + 7)) 56 ||| wide (report (start + 6)) 48 |||
    wide (report (start + 5)) 40 ||| wide (report (start + 4)) 32

/-- The eight bytes come out as the lower four and whatever the wide shifts give, SIGN-EXTENDED. -/
theorem fieldBits_eight (wide : WideShift) (report : Report) (start : ℕ) :
    fieldBits wide report (start + 8) 8 (List.range' 1 8) =
      wideBits wide report start ||| BitVec.ofNat 32 (leValue report start 4) := by
  have hlow : BitVec.ofNat 32 (leValue report start 4) =
      fieldBits wide report (start + 4) 4 (List.range' 1 4) := by
    rw [← fieldBits_small wide report start 4 le_rfl, BitVec.ofNat_toNat, BitVec.setWidth_eq]
  rw [hlow]
  simp [fieldBits, List.range', shiftedByte, wideBits, BitVec.or_assoc]

/-- A page number is shifted by 12, so its upper 12 bits do not matter; the 20 bits below them are
all the sign. -/
theorem page_eq_iff (v : BitVec 32) (lo hi : ℕ) (hlo : lo < 2 ^ 32) :
    v.signExtend 64 <<< 12 = BitVec.ofNat 64 (lo + 2 ^ 32 * hi) <<< 12 ↔
      v.toNat = lo ∧ hi % 2 ^ 20 = if lo < 2 ^ 31 then 0 else 2 ^ 20 - 1 := by
  have hv := v.isLt
  rw [← BitVec.toNat_inj, BitVec.toNat_shiftLeft, BitVec.toNat_shiftLeft, BitVec.toNat_signExtend,
    BitVec.toNat_ofNat, Nat.shiftLeft_eq, Nat.shiftLeft_eq, BitVec.toNat_setWidth]
  simp only [BitVec.msb_eq_decide, decide_eq_true_eq]
  split <;> split <;> omega

/-- **A first page that comes out right**: the wide shifts put nothing into the low half that is
not there, and the low 20 bits of the upper half are the sign of the lower half. -/
def PageSurvives (wide : WideShift) (report : Report) (start : ℕ) : Prop :=
  let lo := leValue report start 4
  wideBits wide report start ||| BitVec.ofNat 32 lo = BitVec.ofNat 32 lo ∧
    leValue report (start + 4) 4 % 2 ^ 20 = if lo < 2 ^ 31 then 0 else 2 ^ 20 - 1

theorem firstPage_iff (wide : WideShift) (report : Report) (start : ℕ) :
    fieldValue wide report (start + 8) 8 <<< 12 =
        BitVec.ofNat 64 (leValue report start 8) <<< 12 ↔
      PageSurvives wide report start := by
  have hlo : leValue report start 4 < 2 ^ 32 := leValue_lt report start 4
  have hle : leValue report start 8 =
      leValue report start 4 + 2 ^ 32 * leValue report (start + 4) 4 :=
    leValue_append report start 4 4
  rw [fieldValue_eq, fieldBits_eight, hle, page_eq_iff _ _ _ hlo, PageSurvives]
  have hval : (BitVec.ofNat 32 (leValue report start 4)).toNat = leValue report start 4 := by
    rw [BitVec.toNat_ofNat, Nat.mod_eq_of_lt hlo]
  rw [← BitVec.toNat_inj, hval]

/-! ## 5. The report -/

/-- The header fields have the values of their bytes. -/
def HeaderRight (report : Report) (h : InterfaceReport) : Prop :=
  h.interfaceInfo.toNat = leValue report 0 2 ∧ h.reserved.toNat = leValue report 2 2 ∧
    h.msiXMessageControl.toNat = leValue report 4 2 ∧ h.lnrControl.toNat = leValue report 6 2 ∧
    h.tphControl.toNat = leValue report 8 4 ∧ h.mmioRangeCount.toNat = leValue report 12 4

/-- A range has the values of its record, with the first page shifted by 12. -/
def RangeRight (report : Report) (i : ℕ) (r : MmioRange) : Prop :=
  r.firstPage = BitVec.ofNat 64 (leValue report (16 + 16 * i) 8) <<< 12 ∧
    r.numberOfPages.toNat = leValue report (16 + 16 * i + 8) 4 ∧
    r.rangeAttributes.toNat = leValue report (16 + 16 * i + 12) 2 ∧
    r.rangeId.toNat = leValue report (16 + 16 * i + 14) 2

/-- **What is asked of the decoding** of a report: the header, the ranges that the array has room
for, and no store behind the array. -/
def DecodedRight (report : Report) (d : Decoded) : Prop :=
  HeaderRight report d.header ∧
    (∀ i, i < leValue report 12 4 → i < MAX_MMIO_RANGE_COUNT → RangeRight report i (d.ranges i)) ∧
    ∀ i ∈ d.stored, i < MAX_MMIO_RANGE_COUNT

theorem decodeHeader_right (wide : WideShift) (report : Report) :
    HeaderRight report (decodeHeader wide report) :=
  ⟨fieldValue_small wide report 0 2 (by norm_num), fieldValue_small wide report 2 2 (by norm_num),
    fieldValue_small wide report 4 2 (by norm_num), fieldValue_small wide report 6 2 (by norm_num),
    fieldValue_small wide report 8 4 le_rfl, fieldValue_small wide report 12 4 le_rfl⟩

/-- The shorter fields of a range are always right, and the first page if it survives. -/
theorem decodeRange_right_iff (wide : WideShift) (report : Report) (i : ℕ) :
    RangeRight report i (decodeRange wide report i) ↔ PageSurvives wide report (16 + 16 * i) := by
  have hpages := fieldValue_small wide report (16 + 16 * i + 8) 4 le_rfl
  have hattr := fieldValue_small wide report (16 + 16 * i + 12) 2 (by norm_num)
  have hid := fieldValue_small wide report (16 + 16 * i + 14) 2 (by norm_num)
  rw [← firstPage_iff]
  simp only [RangeRight, decodeRange, rangeValue, mmioRangeSizes, Nat.mul_comm i 16]
  exact ⟨fun h => h.1, fun h => ⟨h, hpages, hattr, hid⟩⟩

theorem decodeRanges_header (wide : WideShift) (report : Report) (n i : ℕ) (d : Decoded) :
    (decodeRanges wide report n i d).header = d.header := by
  induction n generalizing i d with
  | zero => rfl
  | succ n ih => exact ih _ _

/-- The loop stores to the elements from `i` on, in order. -/
theorem decodeRanges_stored (wide : WideShift) (report : Report) (n i : ℕ) (d : Decoded) :
    (decodeRanges wide report n i d).stored = d.stored ++ List.range' i n := by
  induction n generalizing i d with
  | zero => simp [decodeRanges]
  | succ n ih => simp [decodeRanges, ih, List.range'_succ]

theorem decodeRanges_ranges (wide : WideShift) (report : Report) (n i : ℕ) (d : Decoded) (k : ℕ) :
    (decodeRanges wide report n i d).ranges k =
      if i ≤ k ∧ k < i + n then decodeRange wide report k else d.ranges k := by
  induction n generalizing i d with
  | zero => simp [decodeRanges]
  | succ n ih =>
    rw [decodeRanges, ih]
    by_cases hk : k = i
    · subst hk
      simp
    · have hother : Function.update d.ranges i (decodeRange wide report i) k = d.ranges k :=
        Function.update_of_ne hk _ _
      have : i + 1 ≤ k ∧ k < i + 1 + n ↔ i ≤ k ∧ k < i + (n + 1) := by omega
      simp only [this, hother]

/-- **When a report is decoded right**, whatever an implementation makes of a shift by 32 or more:
exactly if it has at most ten ranges, and the first page of each of them survives. -/
theorem decoding_right_iff (wide : WideShift) (report : Report) (header : InterfaceReport)
    (ranges : ℕ → MmioRange) :
    let r := interfaceReportDecoding wide (some report) ⟨header, ranges, []⟩
    DecodedRight report r.2 ↔
      leValue report 12 4 ≤ MAX_MMIO_RANGE_COUNT ∧
        ∀ i < leValue report 12 4, PageSurvives wide report (16 + 16 * i) := by
  have hheader := decodeHeader_right wide report
  have hcount : (decodeHeader wide report).mmioRangeCount.toNat = leValue report 12 4 :=
    hheader.2.2.2.2.2
  simp only [interfaceReportDecoding, hcount, DecodedRight, decodeRanges_header,
    decodeRanges_stored, decodeRanges_ranges, hheader, true_and, List.nil_append,
    List.mem_range'_1, Nat.zero_le, Nat.zero_add, MAX_MMIO_RANGE_COUNT]
  constructor
  · rintro ⟨hranges, hstored⟩
    have hten : leValue report 12 4 ≤ 10 := by
      by_contra hgt
      exact absurd (hstored 10 (by omega)) (by omega)
    refine ⟨hten, fun i hi => ?_⟩
    have := hranges i hi (by omega)
    rwa [if_pos hi, decodeRange_right_iff] at this
  · rintro ⟨hten, hpages⟩
    refine ⟨fun i hi _ => ?_, fun i hi => by omega⟩
    rw [if_pos hi, decodeRange_right_iff]
    exact hpages i hi

/-- One range, at page `2 ^ 32`: no implementation gets it right. -/
theorem decoding_loses_page :
    ¬ ∃ wide header ranges,
      let report : Report := fun k => if k = 12 ∨ k = 20 then 1 else 0
      DecodedRight report
        (interfaceReportDecoding wide (some report) ⟨header, ranges, []⟩).2 := by
  rintro ⟨wide, header, ranges, h⟩
  have hrange := h.2.1 0 (by decide) (by decide)
  have hone : (interfaceReportDecoding wide (some fun k => if k = 12 ∨ k = 20 then 1 else 0)
      ⟨header, ranges, []⟩).2.ranges 0 =
        decodeRange wide (fun k => if k = 12 ∨ k = 20 then 1 else 0) 0 := by
    have hcount : (decodeHeader wide fun k => if k = 12 ∨ k = 20 then 1 else 0).mmioRangeCount.toNat
        = 1 := (decodeHeader_right wide _).2.2.2.2.2
    rw [interfaceReportDecoding, hcount, decodeRanges_ranges]
    rfl
  rw [hone, decodeRange_right_iff] at hrange
  exact absurd hrange.2 (by decide)

end RmmAcs.Tdisp
