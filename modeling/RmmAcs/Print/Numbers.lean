/-
# Numbers print as their value

What `val_vsnprintf` makes of a single conversion, `%d`, `%i`, `%u` or `%x`, with a flag, a width
and any number of `l`s, against what ISO C says it is.

Two things differ.  The digit loop takes the remainder of the LOW HALF of the number,
`(unsigned int)unum % radix`.  For the base 16 that makes no difference.  For the base 10 the digit
is right exactly if the upper half is a multiple of 5, at every round.  And the sign is printed
before the padding and not counted in the width, so that a negative number comes out one character
too wide wherever it is padded.
-/
import RmmAcs.Lib.Digits
import RmmAcs.Print.Vsnprintf

namespace RmmAcs.Print

open RmmAcs.Lib

/-! ## 1. Conversions, and what ISO C says of them -/

/-- At most one flag. -/
inductive Flag where
  | none
  | left
  | zero
deriving DecidableEq

inductive Conv where
  | d
  | i
  | u
  | x
deriving DecidableEq

def Conv.char : Conv → Char
  | .d => 'd'
  | .i => 'i'
  | .u => 'u'
  | .x => 'x'

def Flag.chars : Flag → List Char
  | .none => []
  | .left => ['-']
  | .zero => ['0']

/-- A width; `0` is none. -/
def widthChars (w : ℕ) : List Char := if w = 0 then [] else Nat.toDigits 10 w

/-- A conversion specification: the flag, the width, the `l`s and the conversion. -/
def formatOf (flag : Flag) (w ls : ℕ) (conv : Conv) : List Char :=
  '%' :: (flag.chars ++ (widthChars w ++ (List.replicate ls 'l' ++ [conv.char])))

/-- A field: the sign and the digits are padded to the width, with blanks before or after them, or
with zeros between them. -/
def isoField (flag : Flag) (w : ℕ) (sign digits : List Char) : List Char :=
  let fill := w - (sign.length + digits.length)
  match flag with
  | .none => List.replicate fill ' ' ++ sign ++ digits
  | .left => sign ++ digits ++ List.replicate fill ' '
  | .zero => sign ++ List.replicate fill '0' ++ digits

/-- The argument of a signed conversion: an `int`, or with an `l` a number of 64 bits. -/
def isoSigned (word : UInt64) (ls : ℕ) : ℤ :=
  if ls = 0 then word.toUInt32.toInt32.toInt else word.toInt64.toInt

def isoUnsigned (word : UInt64) (ls : ℕ) : ℕ :=
  if ls = 0 then word.toUInt32.toNat else word.toNat

/-- **What ISO C says** of a conversion. -/
def isoNumber (flag : Flag) (w ls : ℕ) (conv : Conv) (word : UInt64) : List Char :=
  match conv with
  | .d | .i =>
    let v := isoSigned word ls
    isoField flag w (if v < 0 then ['-'] else []) (Nat.toDigits 10 v.natAbs)
  | .u => isoField flag w [] (Nat.toDigits 10 (isoUnsigned word ls))
  | .x => isoField flag w [] (Nat.toDigits 16 (isoUnsigned word ls))

/-! ## 2. The digit loop -/

theorem numBuf_eq_rounds (radix : UInt32) (fuel : ℕ) (unum : UInt64) :
    numBuf radix fuel unum =
      (rounds radix.toNat fuel unum.toNat).map fun m =>
        digitChar (UInt32.ofNat m % radix) := by
  induction fuel generalizing unum with
  | zero => rfl
  | succ fuel ih =>
    have hdiv : (unum / radix.toUInt64).toNat = unum.toNat / radix.toNat := by
      rw [UInt64.toNat_div, UInt32.toNat_toUInt64]
    have hpos : unum / radix.toUInt64 > 0 ↔ unum.toNat / radix.toNat > 0 := by
      rw [gt_iff_lt, UInt64.lt_iff_toNat_lt, hdiv]
      rfl
    have hlow : unum.toUInt32 = UInt32.ofNat unum.toNat := by
      rw [← UInt32.toNat_inj]
      simp
    rw [numBuf, rounds, List.map_cons, hlow]
    by_cases h : unum.toNat / radix.toNat > 0
    · rw [if_pos h, if_pos (hpos.mpr h), ih, hdiv]
    · rw [if_neg h, if_neg (hpos.not.mpr h)]
      rfl

/-- The character of a digit is the one of the digit. -/
theorem digitChar_eq {radix : UInt32} (h0 : 0 < radix.toNat) (h16 : radix.toNat ≤ 16) (m : ℕ) :
    digitChar (UInt32.ofNat m % radix) = Nat.digitChar (m % 2 ^ 32 % radix.toNat) := by
  have key : ∀ k < 16, digitChar (UInt32.ofNat k) = Nat.digitChar k := by decide
  have hval : (UInt32.ofNat m % radix).toNat = m % 2 ^ 32 % radix.toNat := by
    rw [UInt32.toNat_mod, UInt32.toNat_ofNat']
  have := key _ ((Nat.mod_lt (m % 2 ^ 32) h0).trans_le h16)
  rw [← this, ← hval, UInt32.ofNat_toNat]

theorem lt_pow_64 {b : ℕ} (hb : 2 ≤ b) (unum : UInt64) : unum.toNat < b ^ 64 :=
  unum.toNat_lt.trans_le (Nat.pow_le_pow_left hb 64)

/-- As many digits as there should be. -/
theorem numBuf_length (radix : UInt32) (h2 : 2 ≤ radix.toNat) (unum : UInt64) :
    (numBuf radix 64 unum).length = (Nat.toDigits radix.toNat unum.toNat).length := by
  rw [numBuf_eq_rounds, toDigits_eq_rounds h2 (by norm_num) (lt_pow_64 h2 unum)]
  simp

theorem digitChar_inj {a b : ℕ} (ha : a < 16) (hb : b < 16) :
    Nat.digitChar a = Nat.digitChar b ↔ a = b := by
  have key : ∀ a < 16, ∀ b < 16, Nat.digitChar a = Nat.digitChar b → a = b := by decide
  exact ⟨key a ha b hb, fun h => by rw [h]⟩

/-- **The digits are right** exactly if the low half of the number has the remainder of the whole,
at every round. -/
theorem numBuf_right_iff (radix : UInt32) (h2 : 2 ≤ radix.toNat) (h16 : radix.toNat ≤ 16)
    (unum : UInt64) :
    (numBuf radix 64 unum).reverse = Nat.toDigits radix.toNat unum.toNat ↔
      ∀ k, unum.toNat / radix.toNat ^ k % 2 ^ 32 % radix.toNat =
        unum.toNat / radix.toNat ^ k % radix.toNat := by
  have h0 : 0 < radix.toNat := by omega
  rw [numBuf_eq_rounds, toDigits_eq_rounds h2 (by norm_num) (lt_pow_64 h2 unum),
    List.reverse_inj]
  simp only [digitChar_eq h0 h16]
  rw [rounds_map_eq_iff (lt_pow_64 h2 unum) (by simp)]
  refine forall_congr' fun k => digitChar_inj ?_ ?_
  · exact (Nat.mod_lt _ h0).trans_le h16
  · exact (Nat.mod_lt _ h0).trans_le h16

/-- **Where decimal digits are right**: the upper half is a multiple of 5 at every round. -/
def DecimalRight (n : ℕ) : Prop := ∀ k, n / 10 ^ k / 2 ^ 32 % 5 = 0

theorem mod_ten_iff (m : ℕ) : m % 2 ^ 32 % 10 = m % 10 ↔ m / 2 ^ 32 % 5 = 0 := by
  -- the weight of the upper half is 6 modulo 10
  have hm : m % 10 = (6 * (m / 2 ^ 32) + m % 2 ^ 32) % 10 := by
    have hsplit : m = 10 * (429496729 * (m / 2 ^ 32)) + (6 * (m / 2 ^ 32) + m % 2 ^ 32) := by
      have := Nat.div_add_mod m (2 ^ 32)
      omega
    conv_lhs => rw [hsplit]
    exact Nat.mul_add_mod _ _ _
  rw [hm]
  generalize m / 2 ^ 32 = q
  generalize m % 2 ^ 32 = r
  omega

theorem decimal_right_iff (unum : UInt64) :
    (numBuf 10 64 unum).reverse = Nat.toDigits 10 unum.toNat ↔ DecimalRight unum.toNat :=
  (numBuf_right_iff 10 (by decide) (by decide) unum).trans (forall_congr' fun _ => mod_ten_iff _)

theorem hex_right (unum : UInt64) :
    (numBuf 16 64 unum).reverse = Nat.toDigits 16 unum.toNat := by
  refine (numBuf_right_iff 16 (by decide) (by decide) unum).mpr fun k => ?_
  exact Nat.mod_mod_of_dvd _ (Dvd.intro_left (2 ^ 28) rfl)

/-! ## 3. A conversion goes through -/

section Machine

variable {σ : Type} (put : Char → σ → σ) (args : Args)

theorem format_step {mode mode' : Mode} {c : Char} {arg arg' : ℕ}
    (h : step args mode c arg = .print [] mode' arg') (cs : List Char) (out : σ) :
    format put args (c :: cs) mode arg out = format put args cs mode' arg' out := by
  simp [format, h, puts]

/-- A digit of a width. -/
theorem digitChar_digit : ∀ d < 10, isDigit (Nat.digitChar d) ∧
    digitValue (Nat.digitChar d) = d ∧
      (d ≠ 0 → '1' ≤ Nat.digitChar d ∧ Nat.digitChar d ≤ '9') := by decide

/-- One more digit of a width that has been read up to `q`. -/
theorem format_digit {mk : Spec → Mode} (hmk : ReadsWidth args mk) (s : Spec) (q : ℕ) {d : ℕ}
    (hd : d < 10) (cs : List Char) (arg : ℕ) (out : σ) :
    format put args (Nat.digitChar d :: cs) (mk { s with padn := q }) arg out =
      if ((10 * q + d : ℕ) : ℤ) ≤ INT_MAX then
        format put args cs (mk { s with padn := (10 * q + d : ℕ) }) arg out
      else (.overflow, out) := by
  obtain ⟨hdig, hval, -⟩ := digitChar_digit d hd
  have hnew : (Spec.push { s with padn := q } (Nat.digitChar d)) =
      { s with padn := (10 * q + d : ℕ) } := by
    simp only [Spec.push, hval]
    congr 1
    push_cast
    ring
  have hstep := hmk { s with padn := q } _ arg hdig
  rw [hnew] at hstep
  by_cases hmax : ((10 * q + d : ℕ) : ℤ) ≤ INT_MAX
  · rw [if_neg (by simpa using hmax)] at hstep
    rw [if_pos hmax, format_step put args hstep]
  · rw [if_pos (by simpa using hmax)] at hstep
    rw [if_neg hmax]
    simp only [format, hstep]

/-- **A loop over the digits of a width** reads its value, if that is an `int`. -/
theorem format_digits {mk : Spec → Mode} (hmk : ReadsWidth args mk) (w : ℕ) {s : Spec}
    (hs : s.padn = 0) (cs : List Char) (arg : ℕ) (out : σ) :
    format put args (Nat.toDigits 10 w ++ cs) (mk s) arg out =
      if (w : ℤ) ≤ INT_MAX then format put args cs (mk { s with padn := w }) arg out
      else (.overflow, out) := by
  induction w using Nat.strong_induction_on generalizing cs with
  | _ w ih =>
    rw [Nat.toDigits_eq_if (by norm_num)]
    split
    · rename_i hw
      have hzero : s = { s with padn := ((0 : ℕ) : ℤ) } := by
        rw [Nat.cast_zero, ← hs]
      have hdigit := format_digit put args hmk s 0 hw cs arg out
      rw [← hzero] at hdigit
      simpa using hdigit
    · rename_i hw
      rw [List.append_assoc, List.singleton_append, ih (w / 10) (by omega)]
      have hval : 10 * (w / 10) + w % 10 = w := Nat.div_add_mod w 10
      have hdigit := format_digit put args hmk s (w / 10) (Nat.mod_lt w (by norm_num)) cs arg out
      rw [hval] at hdigit
      rw [hdigit]
      by_cases hmax : (w : ℤ) ≤ INT_MAX
      · have : ((w / 10 : ℕ) : ℤ) ≤ INT_MAX := by omega
        rw [if_pos this]
      · rw [if_neg hmax]
        split <;> rfl

/-- A number that is not zero does not begin with a zero. -/
theorem toDigits_head {w : ℕ} (hw : w ≠ 0) :
    ∃ d rest, Nat.toDigits 10 w = Nat.digitChar d :: rest ∧ d ≠ 0 ∧ d < 10 := by
  induction w using Nat.strong_induction_on with
  | _ w ih =>
    rw [Nat.toDigits_eq_if (by norm_num)]
    split
    · rename_i hlt
      exact ⟨w, [], rfl, hw, hlt⟩
    · rename_i hge
      obtain ⟨d, rest, hd, hne, hlt⟩ := ih (w / 10) (by omega) (by omega)
      exact ⟨d, rest ++ [Nat.digitChar (w % 10)], by rw [hd]; rfl, hne, hlt⟩

/-- A width at the label `loop`. -/
theorem format_width {w : ℕ} (hw : w ≠ 0) (s : Spec) (cs : List Char) (arg : ℕ) (out : σ) :
    format put args (Nat.toDigits 10 w ++ cs) (.loop s) arg out =
      if (w : ℤ) ≤ INT_MAX then
        format put args cs (.digits { s with padc := ' ', padn := w }) arg out
      else (.overflow, out) := by
  have hfirst : format put args (Nat.toDigits 10 w ++ cs) (.loop s) arg out =
      format put args (Nat.toDigits 10 w ++ cs) (.digits { s with padc := ' ', padn := 0 }) arg
        out := by
    obtain ⟨d, rest, hd, hne, hlt⟩ := toDigits_head hw
    obtain ⟨hdig, hval, hrange⟩ := digitChar_digit d hlt
    have hmax : ¬ ((d : ℤ) > INT_MAX) := by rw [INT_MAX]; omega
    rw [hd]
    simp only [List.cons_append, format, step, directive, if_pos (hrange hne), if_pos hdig,
      Spec.push, hval, Int.zero_mul, Int.zero_add, if_neg hmax]
  rw [hfirst]
  exact format_digits put args (readsWidth_digits args) w rfl cs arg out

/-- The `l`s before a conversion. -/
theorem format_ls {mode : Mode} {s : Spec} (hs : mode.spec = some s) (k : ℕ) {c : Char}
    (hc : ¬ isDigit c) (cs : List Char) (arg : ℕ) (out : σ) (hl : (s.lCount : ℤ) ≤ INT_MAX) :
    format put args (List.replicate k 'l' ++ c :: cs) mode arg out =
      if (s.lCount : ℤ) + k ≤ INT_MAX then
        format put args (c :: cs) (.loop { s with lCount := s.lCount + k }) arg out
      else (.overflow, out) := by
  induction k generalizing mode s with
  | zero =>
    rw [if_pos (by simpa using hl)]
    simp only [List.replicate_zero, List.nil_append, format, step_of_spec args hs hc,
      Nat.add_zero]
    rfl
  | succ k ih =>
    have hstep : step args mode 'l' arg =
        if (s.lCount : ℤ) + 1 > INT_MAX then .overflow
        else .print [] (.loop { s with lCount := s.lCount + 1 }) arg := by
      rw [step_of_spec args hs (by decide)]
      rfl
    rw [List.replicate_succ, List.cons_append]
    by_cases hmax : (s.lCount : ℤ) + 1 ≤ INT_MAX
    · rw [if_neg (by omega)] at hstep
      have hspec : Mode.spec (.loop { s with lCount := s.lCount + 1 }) = some _ := rfl
      rw [format_step put args hstep, ih hspec (by push_cast; exact hmax)]
      push_cast
      rw [add_assoc, add_comm (1 : ℤ), Nat.add_assoc, Nat.add_comm 1]
    · rw [if_pos (by omega)] at hstep
      rw [if_neg (by push_cast; omega)]
      simp only [format, hstep]

end Machine

/-- The padding that a flag and a width stand for. -/
def padOf (flag : Flag) (w : ℕ) : Char × ℤ :=
  match flag with
  | .none => if w = 0 then (NUL, 0) else (' ', w)
  | .left => if w = 0 then (NUL, 0) else (' ', -w)
  | .zero => ('0', w)

/-- What the code prints for a conversion. -/
def printedNumber (flag : Flag) (w ls : ℕ) (conv : Conv) (word : UInt64) : List Char :=
  let pad := padOf flag w
  match conv with
  | .d | .i => signedNumPrint (getNumVaArgs word ls) pad.1 pad.2
  | .u => unsignedNumPrint (getUnumVaArgs word ls) 10 pad.1 pad.2
  | .x => unsignedNumPrint (getUnumVaArgs word ls) 16 pad.1 pad.2

section Conversion

variable {σ : Type} (put : Char → σ → σ) (args : Args)

/-- Up to the width. -/
theorem format_flag_width (flag : Flag) (w : ℕ) (out : σ) :
    ∃ mode s, mode.spec = some s ∧ s.lCount = 0 ∧ s.padc = (padOf flag w).1 ∧
      s.padn = (padOf flag w).2 ∧
      ∀ cs, format put args ('%' :: (flag.chars ++ (widthChars w ++ cs))) .text 0 out =
        if (w : ℤ) ≤ INT_MAX then format put args cs mode 0 out else (.overflow, out) := by
  have hmax : ((0 : ℕ) : ℤ) ≤ INT_MAX := by decide
  have hpercent : ∀ cs, format put args ('%' :: cs) .text 0 out =
      format put args cs (.loop .start) 0 out := fun cs => format_step put args rfl cs out
  by_cases hw : w = 0
  · subst hw
    cases flag with
    | none =>
      refine ⟨.loop .start, .start, rfl, rfl, rfl, rfl, fun cs => ?_⟩
      rw [hpercent, if_pos hmax]
      rfl
    | left =>
      refine ⟨.loop { Spec.start with left := true }, _, rfl, rfl, rfl, rfl, fun cs => ?_⟩
      rw [hpercent, if_pos hmax]
      exact format_step put args rfl _ out
    | zero =>
      refine ⟨.zeros { Spec.start with padc := '0' }, _, rfl, rfl, rfl, rfl, fun cs => ?_⟩
      rw [hpercent, if_pos hmax]
      exact format_step put args rfl _ out
  · simp only [widthChars, padOf, if_neg hw]
    cases flag with
    | none =>
      refine ⟨.digits { Spec.start with padc := ' ', padn := w }, _, rfl, rfl, rfl, rfl,
        fun cs => ?_⟩
      rw [hpercent]
      exact format_width put args hw _ cs 0 out
    | left =>
      refine ⟨.digits { Spec.start with left := true, padc := ' ', padn := w }, _, rfl, rfl, rfl, rfl,
        fun cs => ?_⟩
      rw [hpercent]
      refine (format_step put args rfl _ out).trans ?_
      exact format_width put args hw _ cs 0 out
    | zero =>
      refine ⟨.zeros { Spec.start with padc := '0', padn := w }, _, rfl, rfl, rfl, rfl,
        fun cs => ?_⟩
      rw [hpercent]
      refine (format_step put args rfl _ out).trans ?_
      exact format_digits put args (readsWidth_zeros args) w rfl cs 0 out

/-- **A conversion is gone through**, if its width and the number of its `l`s are `int`s. -/
theorem render_formatOf (flag : Flag) (w ls : ℕ) (conv : Conv) :
    render args (formatOf flag w ls conv) =
      if (w : ℤ) ≤ INT_MAX ∧ (ls : ℤ) ≤ INT_MAX then
        (.done, printedNumber flag w ls conv (args.word 0))
      else (.overflow, []) := by
  obtain ⟨mode, s, hs, hl, hpadc, hpadn, hrun⟩ :=
    format_flag_width (fun c out => out ++ [c]) args flag w []
  have hc : ¬ isDigit conv.char := by cases conv <;> decide
  rw [render, formatOf, hrun]
  by_cases hw : (w : ℤ) ≤ INT_MAX
  · rw [if_pos hw, format_ls _ args hs ls hc [] 0 [] (by rw [hl]; decide), hl]
    by_cases hls : (ls : ℤ) ≤ INT_MAX
    · rw [if_pos (by simpa using hls), if_pos ⟨hw, hls⟩]
      cases conv <;>
        simp [format, step, directive, Conv.char, printedNumber, hpadc, hpadn]
    · rw [if_neg (by simpa using hls), if_neg fun h => hls h.2]
  · rw [if_neg hw, if_neg fun h => hw h.1]

end Conversion

/-! ## 4. The field -/

theorem unsignedNumPrint_field (unum : UInt64) (radix : UInt32) (flag : Flag) (w : ℕ) :
    unsignedNumPrint unum radix (padOf flag w).1 (padOf flag w).2 =
      isoField flag w [] (numBuf radix 64 unum).reverse := by
  by_cases hw : w = 0
  · subst hw
    cases flag <;> simp [unsignedNumPrint, padOf, isoField]
  · have hneg : ¬ ((w : ℤ) < 0) := by omega
    have hpos : w > 0 := Nat.pos_of_ne_zero hw
    cases flag with
    | none => simp [unsignedNumPrint, padOf, isoField, hw, hneg, hpos]
    | left => simp [unsignedNumPrint, padOf, isoField, hw, hpos]
    | zero => simp [unsignedNumPrint, padOf, isoField, hneg, hpos]

/-- Fields with as many digits are the same only if the digits are. -/
theorem isoField_inj {flag : Flag} {w : ℕ} {sign ds ds' : List Char} (h : ds.length = ds'.length) :
    isoField flag w sign ds = isoField flag w sign ds' ↔ ds = ds' := by
  cases flag <;> simp [isoField, h]

theorem isoField_length (flag : Flag) (w : ℕ) (sign ds : List Char) :
    (isoField flag w sign ds).length = max w (sign.length + ds.length) := by
  cases flag <;> simp [isoField] <;> omega

/-- **A sign that is not counted** is right only where nothing is padded. -/
theorem signed_field_iff {flag : Flag} {w : ℕ} {ds ds' : List Char} (h : ds.length = ds'.length) :
    '-' :: isoField flag w [] ds = isoField flag w ['-'] ds' ↔ w ≤ ds'.length ∧ ds = ds' := by
  by_cases hw : w ≤ ds'.length
  · have h1 : w - ds'.length = 0 := by omega
    have h2 : w - (1 + ds'.length) = 0 := by omega
    cases flag <;> simp [isoField, h, h1, h2, hw]
  · refine iff_of_false (fun heq => ?_) fun hr => hw hr.1
    have hlen := congrArg List.length heq
    simp only [List.length_cons, isoField_length, List.length_nil] at hlen
    omega

theorem getNumVaArgs_eq (word : UInt64) (ls : ℕ) : getNumVaArgs word ls = isoSigned word ls := by
  unfold getNumVaArgs isoSigned
  split_ifs <;> first | rfl | omega

theorem getUnumVaArgs_toNat (word : UInt64) (ls : ℕ) :
    (getUnumVaArgs word ls).toNat = isoUnsigned word ls := by
  unfold getUnumVaArgs isoUnsigned
  split_ifs <;> first | rfl | omega

/-- A signed argument has at most 64 bits. -/
theorem isoSigned_bounds (word : UInt64) (ls : ℕ) :
    -2 ^ 63 ≤ isoSigned word ls ∧ isoSigned word ls < 2 ^ 63 := by
  unfold isoSigned
  split
  · have h1 := word.toUInt32.toInt32.le_toInt
    have h2 := word.toUInt32.toInt32.toInt_lt
    omega
  · exact ⟨word.toInt64.le_toInt, word.toInt64.toInt_lt⟩

theorem ofInt_natAbs {v : ℤ} (h : v < 2 ^ 64) (h0 : 0 ≤ v) : (UInt64.ofInt v).toNat = v.natAbs := by
  rw [UInt64.ofInt, UInt64.toNat_ofNat']
  omega

/-- **Where a number comes out right.** -/
def NumberRight (w ls : ℕ) (conv : Conv) (word : UInt64) : Prop :=
  match conv with
  | .d | .i =>
    let v := isoSigned word ls
    DecimalRight v.natAbs ∧ (v < 0 → w ≤ (Nat.toDigits 10 v.natAbs).length)
  | .u => DecimalRight (isoUnsigned word ls)
  | .x => True

theorem signedNumPrint_iff (flag : Flag) (w : ℕ) {v : ℤ} (hlo : -2 ^ 63 ≤ v) (hhi : v < 2 ^ 63) :
    signedNumPrint v (padOf flag w).1 (padOf flag w).2 =
        isoField flag w (if v < 0 then ['-'] else []) (Nat.toDigits 10 v.natAbs) ↔
      DecimalRight v.natAbs ∧ (v < 0 → w ≤ (Nat.toDigits 10 v.natAbs).length) := by
  by_cases hneg : v < 0
  · have habs : (UInt64.ofInt (-v)).toNat = v.natAbs := by
      rw [ofInt_natAbs (by omega) (by omega), Int.natAbs_neg]
    have hlen := numBuf_length 10 (by decide) (UInt64.ofInt (-v))
    have hright := decimal_right_iff (UInt64.ofInt (-v))
    rw [habs] at hlen hright
    rw [signedNumPrint, if_pos hneg, if_pos hneg, unsignedNumPrint_field,
      signed_field_iff (by rw [List.length_reverse]; exact hlen), hright]
    tauto
  · have habs := ofInt_natAbs (v := v) (by omega) (by omega)
    have hlen := numBuf_length 10 (by decide) (UInt64.ofInt v)
    have hright := decimal_right_iff (UInt64.ofInt v)
    rw [habs] at hlen hright
    rw [signedNumPrint, if_neg hneg, if_neg hneg, unsignedNumPrint_field,
      isoField_inj (by rw [List.length_reverse]; exact hlen), hright]
    tauto

/-- **What is printed is what ISO C says** exactly where a number comes out right. -/
theorem printedNumber_iff (flag : Flag) (w ls : ℕ) (conv : Conv) (word : UInt64) :
    printedNumber flag w ls conv word = isoNumber flag w ls conv word ↔
      NumberRight w ls conv word := by
  have hbounds := isoSigned_bounds word ls
  have hsigned := signedNumPrint_iff flag w hbounds.1 hbounds.2
  have hval := getUnumVaArgs_toNat word ls
  cases conv with
  | d =>
    simp only [printedNumber, isoNumber, NumberRight, getNumVaArgs_eq]
    exact hsigned
  | i =>
    simp only [printedNumber, isoNumber, NumberRight, getNumVaArgs_eq]
    exact hsigned
  | u =>
    have hlen := numBuf_length 10 (by decide) (getUnumVaArgs word ls)
    have hright := decimal_right_iff (getUnumVaArgs word ls)
    rw [hval] at hlen hright
    simp only [printedNumber, isoNumber, NumberRight, unsignedNumPrint_field]
    rw [isoField_inj (by rw [List.length_reverse]; exact hlen), hright]
  | x =>
    have hright := hex_right (getUnumVaArgs word ls)
    rw [hval] at hright
    simp only [printedNumber, isoNumber, NumberRight, unsignedNumPrint_field, hright]

/-! ## 5. In the buffer -/

/-- **A format prints a string**: every buffer that is large enough holds it afterwards. -/
def PrintsAs (args : Args) (fmt : CStr) (cs : List Char) : Prop :=
  ∃ enough : UInt64, ∀ n ≥ enough, ∃ ret stores, valVsnprintf args n fmt = some (ret, stores) ∧
    ∀ buf, HoldsString (written buf stores) cs

/-- A format that is gone through prints its full output, and nothing else. -/
theorem printsAs_iff (args : Args) (fmt : CStr) (hdone : (render args fmt.1).1 = .done)
    (hshort : (render args fmt.1).2.length < 2 ^ 63) {cs : List Char} (hcs : NUL ∉ cs) :
    PrintsAs args fmt cs ↔ (render args fmt.1).2 = cs := by
  have hval : ∀ n : UInt64, (render args fmt.1).2.length + 2 ≤ n.toNat →
      valVsnprintf args n fmt =
        some ((UInt64.ofNat (render args fmt.1).2.length).toUInt32.toInt32,
          placed ((render args fmt.1).2 ++ [NUL])) := by
    intro n hn
    rw [valVsnprintf_large args n fmt (by omega) (by omega), hdone,
      List.take_of_length_le (by omega)]
  constructor
  · rintro ⟨enough, henough⟩
    have hmax : ((-1 : UInt64)).toNat = 2 ^ 64 - 1 := rfl
    have hge : (-1 : UInt64) ≥ enough := by
      rw [ge_iff_le, UInt64.le_iff_toNat_le, hmax]
      have := enough.toNat_lt
      omega
    obtain ⟨ret, stores, hrun, hbuf⟩ := henough _ hge
    rw [hval (-1) (by omega)] at hrun
    cases hrun
    exact (holdsString_placed (fun _ => NUL) _).unique (render_nul_free args fmt) hcs (hbuf _)
  · rintro rfl
    refine ⟨UInt64.ofNat ((render args fmt.1).2.length + 2), fun n hn => ?_⟩
    have hn' : (render args fmt.1).2.length + 2 ≤ n.toNat := by
      have := UInt64.le_iff_toNat_le.mp hn
      rwa [UInt64.toNat_ofNat', Nat.mod_eq_of_lt (by omega)] at this
    exact ⟨_, _, hval n hn', fun buf => holdsString_placed buf _⟩

theorem digitChar_ne : ∀ d < 16, Nat.digitChar d ≠ NUL := by decide

theorem toDigits_nul_free {b : ℕ} (hb : 1 < b) (h16 : b ≤ 16) (n : ℕ) : NUL ∉ Nat.toDigits b n := by
  rw [toDigits_eq_rounds hb (Nat.succ_pos n) ((Nat.lt_pow_self hb).trans_le
    (Nat.pow_le_pow_right (by omega) (Nat.le_succ n))), List.mem_reverse]
  intro hmem
  obtain ⟨m, -, hm⟩ := List.mem_map.mp hmem
  exact digitChar_ne (m % b) ((Nat.mod_lt m (by omega)).trans_le h16) hm

theorem formatOf_nul_free (flag : Flag) (w ls : ℕ) (conv : Conv) :
    NUL ∉ formatOf flag w ls conv := by
  have hpercent : NUL ≠ '%' := by decide
  have hflag : NUL ∉ flag.chars := by cases flag <;> decide
  have hwidth : NUL ∉ widthChars w := by
    unfold widthChars
    split
    · simp
    · exact toDigits_nul_free (by norm_num) (by norm_num) w
  have hls : NUL ∉ List.replicate ls 'l' := fun h => absurd (List.eq_of_mem_replicate h) (by decide)
  have hconv : NUL ≠ conv.char := by cases conv <;> decide
  simp [formatOf, hpercent, hflag, hwidth, hls, hconv]

theorem isoField_nul_free {flag : Flag} {w : ℕ} {sign ds : List Char} (hsign : NUL ∉ sign)
    (hds : NUL ∉ ds) : NUL ∉ isoField flag w sign ds := by
  have hblank : ∀ k, NUL ∉ List.replicate k ' ' := fun k h =>
    absurd (List.eq_of_mem_replicate h) (by decide)
  have hzero : ∀ k, NUL ∉ List.replicate k '0' := fun k h =>
    absurd (List.eq_of_mem_replicate h) (by decide)
  cases flag <;> simp only [isoField, List.mem_append, not_or] <;> simp only [hsign, hds, hblank,
    hzero, not_false_eq_true, and_self]

theorem isoNumber_nul_free (flag : Flag) (w ls : ℕ) (conv : Conv) (word : UInt64) :
    NUL ∉ isoNumber flag w ls conv word := by
  have hsign : NUL ∉ (if isoSigned word ls < 0 then ['-'] else []) := by
    split <;> decide
  have h10 := fun n => toDigits_nul_free (b := 10) (by norm_num) (by norm_num) n
  have h16 := fun n => toDigits_nul_free (b := 16) (by norm_num) (by norm_num) n
  cases conv with
  | d => exact isoField_nul_free hsign (h10 _)
  | i => exact isoField_nul_free hsign (h10 _)
  | u => exact isoField_nul_free (by simp) (h10 _)
  | x => exact isoField_nul_free (by simp) (h16 _)

/-- No more characters than the width, or a sign and 64 digits. -/
theorem printedNumber_length (flag : Flag) (w ls : ℕ) (conv : Conv) (word : UInt64) :
    (printedNumber flag w ls conv word).length ≤ w + 65 := by
  have hfuel : ∀ radix fuel unum, (numBuf radix fuel unum).length ≤ fuel := by
    intro radix fuel
    induction fuel with
    | zero => exact fun _ => le_rfl
    | succ fuel ih =>
      intro unum
      rw [numBuf, List.length_cons]
      split
      · exact Nat.succ_le_succ (ih _)
      · simp
  have hfield : ∀ unum radix,
      (unsignedNumPrint unum radix (padOf flag w).1 (padOf flag w).2).length ≤ w + 64 := by
    intro unum radix
    have := hfuel radix 64 unum
    rw [unsignedNumPrint_field, isoField_length, List.length_reverse, List.length_nil]
    omega
  have hsigned : ∀ v, (signedNumPrint v (padOf flag w).1 (padOf flag w).2).length ≤ w + 65 := by
    intro v
    unfold signedNumPrint
    split
    · exact Nat.succ_le_succ (hfield _ _)
    · exact (hfield _ _).trans (Nat.le_succ _)
  cases conv with
  | d => exact hsigned _
  | i => exact hsigned _
  | u => exact (hfield _ _).trans (Nat.le_succ _)
  | x => exact (hfield _ _).trans (Nat.le_succ _)

/-- **When a number prints as its value.**  Exactly if the width and the number of `l`s are `int`s,
decimal digits have an upper half that is a multiple of 5 at every round, and a negative number is
not padded. -/
theorem number_prints_iff (args : Args) (flag : Flag) (w ls : ℕ) (conv : Conv) :
    PrintsAs args ⟨formatOf flag w ls conv, formatOf_nul_free flag w ls conv⟩
        (isoNumber flag w ls conv (args.word 0)) ↔
      (w : ℤ) ≤ INT_MAX ∧ (ls : ℤ) ≤ INT_MAX ∧ NumberRight w ls conv (args.word 0) := by
  have hrender := render_formatOf args flag w ls conv
  rw [← and_assoc]
  by_cases hint : (w : ℤ) ≤ INT_MAX ∧ (ls : ℤ) ≤ INT_MAX
  · rw [if_pos hint] at hrender
    have hlen := printedNumber_length flag w ls conv (args.word 0)
    have hmax : (w : ℤ) ≤ 2 ^ 31 - 1 := hint.1
    rw [printsAs_iff args _ (by rw [hrender]) (by rw [hrender]; simp only; omega)
      (isoNumber_nul_free flag w ls conv (args.word 0)), hrender, printedNumber_iff]
    exact (and_iff_right hint).symm
  · rw [if_neg hint] at hrender
    refine iff_of_false ?_ fun h => hint h.1
    rintro ⟨enough, henough⟩
    obtain ⟨ret, stores, hrun, -⟩ := henough enough (UInt64.le_refl enough)
    rw [valVsnprintf, format_render, hrender] at hrun
    cases hrun

/-- `%lu` of `2 ^ 32` prints as `4294967290`. -/
theorem number_misprints :
    ¬ PrintsAs ⟨fun _ => 2 ^ 32, fun _ => ⟨[], by simp⟩⟩
      ⟨formatOf .none 0 1 .u, formatOf_nul_free .none 0 1 .u⟩ (isoNumber .none 0 1 .u (2 ^ 32)) := by
  have hrender := render_formatOf ⟨fun _ => 2 ^ 32, fun _ => ⟨[], by simp⟩⟩ .none 0 1 .u
  rw [if_pos (by decide)] at hrender
  have hprinted : printedNumber .none 0 1 .u (2 ^ 32) =
      ['4', '2', '9', '4', '9', '6', '7', '2', '9', '0'] := by decide
  have hiso : isoNumber .none 0 1 .u (2 ^ 32) =
      ['4', '2', '9', '4', '9', '6', '7', '2', '9', '6'] := by decide
  rw [printsAs_iff _ _ (by rw [hrender]) (by rw [hrender, hprinted]; decide)
    (isoNumber_nul_free _ _ _ _ _), hrender, hprinted, hiso]
  decide

end RmmAcs.Print
