/-
# `pal_printf` of the FVP target

A message with up to two data, printed to the UART.  A `%`, an `l` if there is one, and a letter make
a conversion; `%d` and `%x` print a datum, the first of them `data1` and the later ones `data2`.

The message pointer is moved behind the `%`, behind the `l`, and by the loop itself.  If the message
ENDS behind the `%` or the `l`, the loop moves it over the terminator, and goes on reading there.

The digits are collected in a buffer of sixteen.  That is right for the base 16.  A datum of 64 bits
has up to twenty decimal digits.
-/
import RmmAcs.Lib.Digits
import RmmAcs.Print.Buffer

namespace RmmAcs.PalPrintf

open RmmAcs.Lib RmmAcs.Print

/-! ## 1. `pal_printf` -/

/-- The size of `buffer`. -/
def BUFFER_SIZE : ℕ := 16

/-- `while (data != 0)` of `%d`, with at most `fuel` rounds: what is stored to `buffer`, from index
0 on. -/
def decimalLoop : ℕ → UInt64 → List Char
  | 0, _ => []
  | fuel + 1, data =>
    if data ≠ 0 then Char.ofNat ((data % 10).toNat + 48) :: decimalLoop fuel (data / 10) else []

/-- `while (data != 0)` of `%x`. -/
def hexLoop : ℕ → UInt64 → List Char
  | 0, _ => []
  | fuel + 1, data =>
    if data ≠ 0 then
      let j := (data &&& 0xf).toNat
      Char.ofNat (j + if j > 9 then 55 else 48) :: hexLoop fuel (data >>> 4)
    else []

/-- What is stored to `buffer` for a conversion. -/
def stored (c : Char) (data : UInt64) : List Char :=
  if c = 'd' then decimalLoop 64 data
  else if c = 'x' ∨ c = 'X' then hexLoop 64 data
  else []

/-- The conversions that print a datum. -/
def takesDatum (c : Char) : Prop := c = 'd' ∨ c = 'x' ∨ c = 'X'

instance (c : Char) : Decidable (takesDatum c) := inferInstanceAs (Decidable (_ ∨ _ ∨ _))

/-- What goes to the UART: a character of the message, or the digits of a conversion. -/
inductive Piece where
  | text (c : Char)
  | number (conv : Char) (digits : List Char)

/-- The buffer from its end down, or a zero if it is empty. -/
def digitsOut (buffer : List Char) : List Char := if buffer.length > 0 then buffer.reverse else ['0']

/-- Where in the loop: in the text, behind a `%`, or behind a `%` and an `l`. -/
inductive Mode where
  | text
  | percent
  | long
deriving DecidableEq

/-- How the call ends: it returns, it stores behind `buffer`, or it reads behind the message. -/
inductive Ending where
  | returns
  | overflow
  | overread
deriving DecidableEq

/-- The loop over the message, with the datum that is next: how it ends, and what it has printed. -/
def printLoop (data2 : UInt64) : List Char → Mode → UInt64 → Ending × List Piece
  | [], .text, _ => (.returns, [])
  | [], _, _ => (.overread, [.number NUL ['0']])
  | c :: cs, .text, data =>
    if c = '%' then printLoop data2 cs .percent data
    else
      let (ending, out) := printLoop data2 cs .text data
      (ending, .text c :: if c = '\n' then .text '\r' :: out else out)
  | c :: cs, mode, data =>
    if mode = .percent ∧ (c = 'l' ∨ c = 'L') then printLoop data2 cs .long data
    else if (stored c data).length > BUFFER_SIZE then (.overflow, [])
    else
      let (ending, out) := printLoop data2 cs .text (if takesDatum c then data2 else data)
      (ending, .number c (digitsOut (stored c data)) :: out)

/-- `pal_printf`. -/
def palPrintf (msg : CStr) (data1 data2 : UInt64) : Ending × List Piece :=
  printLoop data2 msg.1 .text data1

/-! ## 2. What is asked of it -/

/-- The conversions of a message that print a datum, in order. -/
def conversions : List Char → Mode → List Char
  | [], _ => []
  | c :: cs, .text => conversions cs (if c = '%' then .percent else .text)
  | c :: cs, mode =>
    if mode = .percent ∧ (c = 'l' ∨ c = 'L') then conversions cs .long
    else if takesDatum c then c :: conversions cs .text
    else conversions cs .text

/-- Where a message ends. -/
def endOf : List Char → Mode → Mode
  | [], mode => mode
  | c :: cs, .text => endOf cs (if c = '%' then .percent else .text)
  | c :: cs, mode =>
    if mode = .percent ∧ (c = 'l' ∨ c = 'L') then endOf cs .long else endOf cs .text

/-- The exact digits of a datum. -/
def digitsOf (conv : Char) (data : UInt64) : List Char :=
  if conv = 'd' then Nat.toDigits 10 data.toNat
  else (Nat.toDigits 16 data.toNat).map Char.toUpper

/-- The datum of the `k`-th conversion. -/
def datum (data1 data2 : UInt64) (k : ℕ) : UInt64 := if k = 0 then data1 else data2

/-- The numbers that go out, with their conversions. -/
def numbers (out : List Piece) : List (Char × List Char) :=
  out.filterMap fun
    | .text _ => none
    | .number c digits => if takesDatum c then some (c, digits) else none

/-- What should go out. -/
def expected (convs : List Char) (data1 data2 : UInt64) : List (Char × List Char) :=
  convs.mapIdx fun k c => (c, digitsOf c (datum data1 data2 k))

/-- **What is asked of a call**: it stores to the buffer inside of it, it reads the message up to its
terminator, and every `%d` and `%x` prints the digits of its datum. -/
def InBounds (msg : CStr) (data1 data2 : UInt64) : Prop :=
  (palPrintf msg data1 data2).1 = .returns ∧
    numbers (palPrintf msg data1 data2).2 = expected (conversions msg.1 .text) data1 data2

/-! ## 3. The digits -/

/-- A loop that stores a character of the datum and divides it, while it is not zero. -/
theorem loop_eq_rounds {loop : ℕ → UInt64 → List Char} {char : UInt64 → Char} {next : UInt64 → UInt64}
    {b : ℕ} {f : ℕ → Char} (hzero : ∀ data, loop 0 data = [])
    (hsucc : ∀ fuel data, loop (fuel + 1) data =
      if data ≠ 0 then char data :: loop fuel (next data) else [])
    (hchar : ∀ data, char data = f data.toNat) (hnext : ∀ data, (next data).toNat = data.toNat / b)
    (fuel : ℕ) {data : UInt64} (hdata : data ≠ 0) :
    loop fuel data = (rounds b fuel data.toNat).map f := by
  induction fuel generalizing data with
  | zero => rw [hzero, rounds, List.map_nil]
  | succ fuel ih =>
    rw [hsucc, if_pos hdata, rounds, List.map_cons, hchar]
    by_cases h : next data = 0
    · have hend : loop fuel (next data) = [] := by
        cases fuel with
        | zero => exact hzero _
        | succ fuel => rw [hsucc, if_neg (not_not.mpr h)]
      have hdiv : ¬ data.toNat / b > 0 := by rw [← hnext, h]; decide
      rw [hend, if_neg hdiv, List.map_nil]
    · have hdiv : data.toNat / b > 0 := by
        rw [← hnext]
        exact Nat.pos_of_ne_zero fun h0 => h (UInt64.toNat_inj.mp h0)
      rw [if_pos hdiv, ih h, hnext]

theorem decimalLoop_eq {data : UInt64} (hdata : data ≠ 0) :
    decimalLoop 64 data = (Nat.toDigits 10 data.toNat).reverse := by
  have hdigit : ∀ d < 10, Char.ofNat (d + 48) = Nat.digitChar d := by decide
  have h64 : data.toNat < 10 ^ 64 := data.toNat_lt.trans (by norm_num)
  rw [toDigits_eq_rounds (by norm_num) (by norm_num) h64, List.reverse_reverse]
  refine loop_eq_rounds (fun _ => rfl) (fun _ _ => rfl) (fun data => ?_) (fun data => ?_) 64 hdata
  · rw [← hdigit _ (Nat.mod_lt _ (by norm_num)), UInt64.toNat_mod]
    rfl
  · rw [UInt64.toNat_div]
    rfl

theorem hexLoop_eq {data : UInt64} (hdata : data ≠ 0) :
    hexLoop 64 data = ((Nat.toDigits 16 data.toNat).map Char.toUpper).reverse := by
  have hdigit : ∀ d < 16, Char.ofNat (d + if d > 9 then 55 else 48) =
      (Nat.digitChar d).toUpper := by decide
  have h64 : data.toNat < 16 ^ 64 := data.toNat_lt.trans (by norm_num)
  rw [toDigits_eq_rounds (by norm_num) (by norm_num) h64, List.map_reverse, List.reverse_reverse,
    List.map_map]
  refine loop_eq_rounds (fun _ => rfl) (fun _ _ => rfl) (fun data => ?_) (fun data => ?_) 64 hdata
  · have hlow : (data &&& 0xf).toNat = data.toNat % 16 := by
      rw [UInt64.toNat_and]
      exact Nat.and_two_pow_sub_one_eq_mod _ 4
    simp only [hlow, hdigit _ (Nat.mod_lt _ (by norm_num)), Function.comp_apply]
  · rw [UInt64.toNat_shiftRight, Nat.shiftRight_eq_div_pow]
    rfl

/-- **A conversion that prints a datum** prints its digits. -/
theorem digitsOut_stored {c : Char} (hc : takesDatum c) (data : UInt64) :
    digitsOut (stored c data) = digitsOf c data := by
  by_cases hdata : data = 0
  · subst hdata
    rcases hc with rfl | rfl | rfl <;> decide
  · have hten := decimalLoop_eq hdata
    have hhex := hexLoop_eq hdata
    rcases hc with rfl | hx
    · rw [stored, if_pos rfl, digitsOf, if_pos rfl, digitsOut, hten, List.length_reverse,
        if_pos Nat.length_toDigits_pos, List.reverse_reverse]
    · have hd : c ≠ 'd' := by rcases hx with rfl | rfl <;> decide
      rw [stored, if_neg hd, if_pos hx, digitsOf, if_neg hd, digitsOut, hhex, List.length_reverse,
        List.length_map, if_pos Nat.length_toDigits_pos, List.reverse_reverse]

/-- The buffer is large enough for sixteen digits: for every datum in base 16, and in base 10 below
`10 ^ 16`. -/
theorem stored_fits_iff (c : Char) (data : UInt64) :
    (stored c data).length ≤ BUFFER_SIZE ↔ (c = 'd' → data.toNat < 10 ^ 16) := by
  unfold stored BUFFER_SIZE
  by_cases hdata : data = 0
  · subst hdata
    have h10 : (decimalLoop 64 0).length = 0 := rfl
    have h16 : (hexLoop 64 0).length = 0 := rfl
    split_ifs <;> simp [h10, h16]
  · split_ifs with hd hx
    · rw [decimalLoop_eq hdata, List.length_reverse, Nat.length_toDigits_le_iff (by norm_num)
        (by norm_num)]
      exact ⟨fun h _ => h, fun h => h hd⟩
    · rw [hexLoop_eq hdata, List.length_reverse, List.length_map,
        Nat.length_toDigits_le_iff (by norm_num) (by norm_num)]
      exact iff_of_true data.toNat_lt fun h => absurd h hd
    · exact iff_of_true (by simp) fun h => absurd h hd

/-! ## 4. The message -/

/-- Every `%d` has a datum of at most sixteen digits. -/
def Fits (convs : List Char) (data1 data2 : UInt64) : Prop :=
  ∀ k, convs[k]? = some 'd' → (datum data1 data2 k).toNat < 10 ^ 16

theorem fits_cons (c : Char) (convs : List Char) (data1 data2 : UInt64) :
    Fits (c :: convs) data1 data2 ↔
      (c = 'd' → data1.toNat < 10 ^ 16) ∧ Fits convs data2 data2 := by
  constructor
  · intro h
    refine ⟨fun hc => h 0 (by simp [hc]), fun k hk => ?_⟩
    have := h (k + 1) (by simpa using hk)
    simpa [datum] using this
  · rintro ⟨hfirst, hrest⟩ (_ | k) hk
    · exact hfirst (by simpa using hk)
    · have := hrest k (by simpa using hk)
      simpa [datum] using this

theorem expected_cons (c : Char) (convs : List Char) (data1 data2 : UInt64) :
    expected (c :: convs) data1 data2 = (c, digitsOf c data1) :: expected convs data2 data2 := by
  simp [expected, List.mapIdx_cons, datum]

/-- What is shown of the loop, from a place in the message on. -/
def LoopRight (data2 : UInt64) (cs : List Char) (mode : Mode) (data : UInt64) : Prop :=
  let r := printLoop data2 cs mode data
  (r.1 = .returns ↔ endOf cs mode = .text ∧ Fits (conversions cs mode) data data2) ∧
    (r.1 = .returns → numbers r.2 = expected (conversions cs mode) data data2)

/-- **A letter behind a `%`**, with an `l` between or none: it stores its digits, the message goes on
as text, and it is one of the conversions if it takes a datum. -/
theorem letter_eqs (data2 : UInt64) (cs : List Char) {c : Char} {mode : Mode} (htext : mode ≠ .text)
    (hc : ¬ (mode = .percent ∧ (c = 'l' ∨ c = 'L'))) (data : UInt64) :
    printLoop data2 (c :: cs) mode data =
        (if (stored c data).length > BUFFER_SIZE then (.overflow, [])
        else
          let r := printLoop data2 cs .text (if takesDatum c then data2 else data)
          (r.1, .number c (digitsOut (stored c data)) :: r.2)) ∧
      conversions (c :: cs) mode =
        (if takesDatum c then c :: conversions cs .text else conversions cs .text) ∧
      endOf (c :: cs) mode = endOf cs .text := by
  have hl : mode = .percent → ¬ (c = 'l' ∨ c = 'L') := fun hm h => hc ⟨hm, h⟩
  cases mode with
  | text => exact absurd rfl htext
  | percent => simp only [printLoop, conversions, endOf, hl rfl, and_false, if_false, and_self]
  | long => simp only [printLoop, conversions, endOf, reduceCtorEq, false_and, if_false, and_self]

theorem loopRight_conversion {data2 : UInt64} {cs : List Char} (ih : ∀ data, LoopRight data2 cs .text data)
    {c : Char} {mode : Mode} (htext : mode ≠ .text) (hc : ¬ (mode = .percent ∧ (c = 'l' ∨ c = 'L')))
    (data : UInt64) : LoopRight data2 (c :: cs) mode data := by
  have hfits := stored_fits_iff c data
  obtain ⟨hrun, hconv, hend⟩ := letter_eqs data2 cs htext hc data
  obtain ⟨hreturns, hnumbers⟩ := ih (if takesDatum c then data2 else data)
  rw [LoopRight, hrun, hconv, hend]
  by_cases hfit : (stored c data).length > BUFFER_SIZE
  · -- a datum that does not fit belongs to a `%d`
    have hnot := hfits.not.mp (Nat.not_le.mpr hfit)
    have hd : c = 'd' := by
      by_contra hne
      exact hnot fun h => absurd h hne
    have htakes : takesDatum c := .inl hd
    rw [if_pos hfit, if_pos htakes, fits_cons]
    simp only [reduceCtorEq, false_iff, not_and, false_implies, and_true]
    exact fun _ h => absurd h hnot
  · rw [if_neg hfit]
    have hfit' := hfits.mp (Nat.not_lt.mp hfit)
    by_cases htakes : takesDatum c
    · simp only [if_pos htakes] at hreturns hnumbers ⊢
      rw [fits_cons, expected_cons]
      refine ⟨?_, fun h => ?_⟩
      · rw [hreturns]
        exact and_congr_right fun _ => (and_iff_right hfit').symm
      · rw [← hnumbers h, ← digitsOut_stored htakes]
        simp [numbers, htakes]
    · simp only [if_neg htakes] at hreturns hnumbers ⊢
      refine ⟨hreturns, fun h => ?_⟩
      rw [← hnumbers h]
      simp [numbers, htakes]

/-- **The loop** returns exactly if the message does not end in a conversion and every `%d` fits, and
then prints the digits. -/
theorem loopRight (data2 : UInt64) (cs : List Char) (mode : Mode) (data : UInt64) :
    LoopRight data2 cs mode data := by
  induction cs generalizing mode data with
  | nil =>
    cases mode with
    | text => simp [LoopRight, printLoop, endOf, conversions, Fits, numbers, expected]
    | percent => simp [LoopRight, printLoop, endOf]
    | long => simp [LoopRight, printLoop, endOf]
  | cons c cs ih =>
    cases mode with
    | text =>
      by_cases hc : c = '%'
      · have := ih .percent data
        simpa only [LoopRight, printLoop, conversions, endOf, if_pos hc] using this
      · obtain ⟨hreturns, hnumbers⟩ := ih .text data
        simp only [LoopRight, printLoop, conversions, endOf, if_neg hc]
        refine ⟨hreturns, fun h => ?_⟩
        rw [← hnumbers h]
        split <;> simp [numbers]
    | percent =>
      by_cases hl : c = 'l' ∨ c = 'L'
      · have := ih .long data
        simpa only [LoopRight, printLoop, conversions, endOf, hl, and_self, if_true] using this
      · exact loopRight_conversion (ih .text) (by decide) (fun h => hl h.2) data
    | long =>
      have hlong : ¬ (Mode.long = .percent ∧ (c = 'l' ∨ c = 'L')) := fun h => nomatch h.1
      exact loopRight_conversion (ih .text) (by decide) hlong data

/-- **When `pal_printf` stays in bounds and prints its data.**  Exactly if the message does not end
behind a `%`, or behind a `%` and an `l`, and the datum of every `%d` is below `10 ^ 16`. -/
theorem palPrintf_inBounds_iff (msg : CStr) (data1 data2 : UInt64) :
    InBounds msg data1 data2 ↔
      endOf msg.1 .text = .text ∧
        ∀ k, (conversions msg.1 .text)[k]? = some 'd' →
          (datum data1 data2 k).toNat < 10 ^ 16 := by
  obtain ⟨hreturns, hnumbers⟩ := loopRight data2 msg.1 .text data1
  constructor
  · exact fun h => hreturns.mp h.1
  · intro h
    have hr := hreturns.mpr h
    exact ⟨hr, hnumbers hr⟩

/-- A datum of seventeen digits, and a message that ends with a `%`. -/
theorem palPrintf_overflows :
    ¬ InBounds ⟨['%', 'd'], by decide⟩ (10 ^ 16) 0 ∧
      ¬ InBounds ⟨['1', '0', '0', '%'], by decide⟩ 0 0 := by
  constructor
  · intro h
    exact absurd h.1 (by decide)
  · intro h
    exact absurd h.1 (by decide)

end RmmAcs.PalPrintf
