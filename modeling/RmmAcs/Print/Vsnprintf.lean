/-
# Formatted printing: bounds, terminator, and the value returned

`val_vsnprintf` of `val_libc.c` goes over the format once.  It is always in one of four places: in
the text, at the `loop:` label behind a `%`, or in one of the two loops that read a width.  Whatever
it prints, it prints a character at a time, and always in the same way: store it if `count` is below
the limit, and count it.

So there are two things to know.  WHAT is printed does not depend on the buffer (`render`), and the
buffer holds what fits of it (section 4).  Two returns fall out: a directive that is not known
returns from the middle, and no terminator is written; and `count` is cut to an `int`.

Arithmetic of `int` that overflows, a width or a number of `l`s above `INT_MAX`, has no meaning; the
model stops there without a result.  One overflow is let pass: `-num` for the least `long long` is
2^63 here, which is what it is in the `unsigned long long` it is stored in if the negation wraps.
-/
import RmmAcs.Print.Buffer

namespace RmmAcs.Print

/-! ## 1. What is printed -/

/-- A `va_list`: the argument words in order, and the string at an address. -/
structure Args where
  word : ℕ → UInt64
  str : UInt64 → CStr

/-- `get_num_va_args`. -/
def getNumVaArgs (word : UInt64) (lCount : ℕ) : ℤ :=
  if lCount > 1 then word.toInt64.toInt
  else if lCount = 1 then word.toInt64.toInt
  else word.toUInt32.toInt32.toInt

/-- `get_unum_va_args`. -/
def getUnumVaArgs (word : UInt64) (lCount : ℕ) : UInt64 :=
  if lCount > 1 then word
  else if lCount = 1 then word
  else word.toUInt32.toUInt64

/-- The character of a digit. -/
def digitChar (rem : UInt32) : Char :=
  if rem < 0xa then Char.ofNat ('0'.toNat + rem.toNat) else Char.ofNat ('a'.toNat + (rem.toNat - 0xa))

/-- `num_buf`: the `do` loop, with at most `fuel` rounds.  The remainder is that of the LOW half of
the number, and the division is of all of it. -/
def numBuf (radix : UInt32) : ℕ → UInt64 → List Char
  | 0, _ => []
  | fuel + 1, unum =>
    digitChar (unum.toUInt32 % radix) ::
      if unum / radix.toUInt64 > 0 then numBuf radix fuel (unum / radix.toUInt64) else []

/-- `unsigned_num_print`: what it prints.  A number of 64 bits has at most 64 digits. -/
def unsignedNumPrint (unum : UInt64) (radix : UInt32) (padc : Char) (padn : ℤ) : List Char :=
  let buf := numBuf radix 64 unum
  let width := buf.length
  let before := if padn > 0 then List.replicate (padn.toNat - width) padc else []
  let after := if padn < 0 then List.replicate ((-padn).toNat - width) padc else []
  before ++ buf.reverse ++ after

/-- `%d` and `%i`: the sign goes out first, and is not part of what is padded. -/
def signedNumPrint (num : ℤ) (padc : Char) (padn : ℤ) : List Char :=
  if num < 0 then '-' :: unsignedNumPrint (UInt64.ofInt (-num)) 10 padc padn
  else unsignedNumPrint (UInt64.ofInt num) 10 padc padn

/-- The variables of a directive. -/
structure Spec where
  lCount : ℕ
  left : Bool
  padc : Char
  padn : ℤ
deriving DecidableEq

def Spec.start : Spec := ⟨0, false, NUL, 0⟩

/-- Where in the loop: in the text, at the label `loop`, in the loop of a width, and in that of a
width that starts with a zero. -/
inductive Mode where
  | text
  | loop (s : Spec)
  | digits (s : Spec)
  | zeros (s : Spec)
deriving DecidableEq

/-- What a character of the format does: print, or return in the middle, or overflow an `int`. -/
inductive Step where
  | print (cs : List Char) (mode : Mode) (arg : ℕ)
  | reject
  | overflow

def INT_MAX : ℤ := 2 ^ 31 - 1

def isDigit (c : Char) : Prop := '0' ≤ c ∧ c ≤ '9'

instance (c : Char) : Decidable (isDigit c) := inferInstanceAs (Decidable (_ ∧ _))

def digitValue (c : Char) : ℤ := (c.toNat : ℤ) - '0'.toNat

/-- The `switch` at the label `loop`. -/
def directive (args : Args) (s : Spec) (c : Char) (arg : ℕ) : Step :=
  if '1' ≤ c ∧ c ≤ '9' then
    .print [] (.digits { s with padc := ' ', padn := digitValue c }) arg
  else if c = '-' then
    .print [] (.loop { s with left := true }) arg
  else if c = 'i' ∨ c = 'd' then
    .print (signedNumPrint (getNumVaArgs (args.word arg) s.lCount) s.padc s.padn) .text (arg + 1)
  else if c = 'l' then
    if (s.lCount : ℤ) + 1 > INT_MAX then .overflow
    else .print [] (.loop { s with lCount := s.lCount + 1 }) arg
  else if c = 's' then
    .print (args.str (args.word arg)).1 .text (arg + 1)
  else if c = 'u' then
    .print (unsignedNumPrint (getUnumVaArgs (args.word arg) s.lCount) 10 s.padc s.padn) .text
      (arg + 1)
  else if c = 'x' then
    .print (unsignedNumPrint (getUnumVaArgs (args.word arg) s.lCount) 16 s.padc s.padn) .text
      (arg + 1)
  else if c = '0' then
    .print [] (.zeros { s with padc := '0', padn := 0 }) arg
  else .reject

/-- One more digit of a width. -/
def Spec.push (s : Spec) (c : Char) : Spec := { s with padn := s.padn * 10 + digitValue c }

/-- A character of the format. -/
def step (args : Args) (mode : Mode) (c : Char) (arg : ℕ) : Step :=
  match mode with
  | .text => if c = '%' then .print [] (.loop .start) arg else .print [c] .text arg
  | .loop s => directive args s c arg
  | .digits s =>
    if isDigit c then
      if (s.push c).padn > INT_MAX then .overflow else .print [] (.digits (s.push c)) arg
    else directive args (if s.left then { s with padn := -s.padn } else s) c arg
  | .zeros s =>
    if isDigit c then
      if (s.push c).padn > INT_MAX then .overflow else .print [] (.zeros (s.push c)) arg
    else directive args s c arg

/-! ## 2. `val_vsnprintf` -/

/-- How the loop over the format ends. -/
inductive Ending where
  | done
  | rejected
  | overflow
deriving DecidableEq

/-- Characters go where `put` takes them, one after the other. -/
def puts {σ : Type} (put : Char → σ → σ) (cs : List Char) (out : σ) : σ :=
  cs.foldl (fun out c => put c out) out

/-- The loop over the format.  The terminator is text at the end of the text, and a directive that
is not known anywhere else. -/
def format {σ : Type} (put : Char → σ → σ) (args : Args) :
    List Char → Mode → ℕ → σ → Ending × σ
  | [], .text, _, out => (.done, out)
  | [], _, _, out => (.rejected, out)
  | c :: cs, mode, arg, out =>
    match step args mode c arg with
    | .print printed mode arg => format put args cs mode arg (puts put printed out)
    | .reject => (.rejected, out)
    | .overflow => (.overflow, out)

/-- `s` and `count`: the stores to the buffer so far, where `s` points, and the count. -/
structure Out where
  stores : List (ℕ × Char)
  pos : ℕ
  count : UInt64

/-- A character is stored if `count` is below the limit, and counted. -/
def put (limit : UInt64) (c : Char) (o : Out) : Out :=
  if o.count < limit then ⟨o.stores ++ [(o.pos, c)], o.pos + 1, o.count + 1⟩
  else { o with count := o.count + 1 }

/-- The limit, `n` less the terminator. -/
def limit (n : UInt64) : UInt64 := if n = 0 then 0 else if n = 1 then 0 else n - 1

/-- A buffer of one byte has its terminator at once. -/
def firstStores (n : UInt64) : List (ℕ × Char) := if n = 1 then [(0, NUL)] else []

/-- `val_vsnprintf`: what it returns and its stores to the buffer, or `none` if an `int` has
overflown. -/
def valVsnprintf (args : Args) (n : UInt64) (fmt : CStr) : Option (Int32 × List (ℕ × Char)) :=
  match format (put (limit n)) args fmt.1 .text 0 ⟨firstStores n, 0, 0⟩ with
  | (.overflow, _) => none
  | (.rejected, out) => some (-1, out.stores)
  | (.done, out) =>
    some (out.count.toUInt32.toInt32,
      if limit n > 0 then out.stores ++ [(out.pos, NUL)] else out.stores)

/-- **The full output**: the same loop, with a place to put everything. -/
def render (args : Args) (fmt : List Char) : Ending × List Char :=
  format (fun c out => out ++ [c]) args fmt .text 0 []

/-! ### One character of a directive

A width is read in two loops that differ in what comes behind them.  The invariants below hold of
both for the same reason, so what a character does in either is said once. -/

/-- The variables of a directive where a character that is no digit is next. -/
def Mode.spec : Mode → Option Spec
  | .text => none
  | .loop s => some s
  | .digits s => some (if s.left then { s with padn := -s.padn } else s)
  | .zeros s => some s

/-- A width is being read. -/
def Mode.Width (mode : Mode) (s : Spec) : Prop := mode = .digits s ∨ mode = .zeros s

theorem step_of_spec (args : Args) {mode : Mode} {s : Spec} (hs : mode.spec = some s) {c : Char}
    (hc : ¬ isDigit c) (arg : ℕ) : step args mode c arg = directive args s c arg := by
  cases mode with
  | text => cases hs
  | loop s' =>
    cases hs
    rfl
  | digits s' =>
    cases hs
    simp only [step, if_neg hc]
  | zeros s' =>
    cases hs
    simp only [step, if_neg hc]

/-- A loop that reads a width, one digit after the other. -/
def ReadsWidth (args : Args) (mk : Spec → Mode) : Prop :=
  ∀ s c arg, isDigit c → step args (mk s) c arg =
    if (s.push c).padn > INT_MAX then .overflow else .print [] (mk (s.push c)) arg

theorem readsWidth_digits (args : Args) : ReadsWidth args .digits := by
  intro s c arg hc
  simp only [step, if_pos hc]

theorem readsWidth_zeros (args : Args) : ReadsWidth args .zeros := by
  intro s c arg hc
  simp only [step, if_pos hc]

/-- One more digit of a width. -/
theorem step_of_digit (args : Args) {mode : Mode} {s : Spec} (hw : mode.Width s) {c : Char}
    (hc : isDigit c) (arg : ℕ) :
    ∃ mode' : Mode, mode'.Width (s.push c) ∧ step args mode c arg =
      if (s.push c).padn > INT_MAX then .overflow else .print [] mode' arg := by
  rcases hw with rfl | rfl
  · exact ⟨.digits (s.push c), .inl rfl, readsWidth_digits args s c arg hc⟩
  · exact ⟨.zeros (s.push c), .inr rfl, readsWidth_zeros args s c arg hc⟩

/-- Behind a width, the `switch` finds the padding character and the number of `l`s unchanged. -/
theorem mode_cases (mode : Mode) :
    mode = .text ∨ (∃ s, mode = .loop s) ∨
      ∃ s s', mode.Width s ∧ mode.spec = some s' ∧ s'.padc = s.padc ∧ s'.lCount = s.lCount := by
  cases mode with
  | text => exact .inl rfl
  | loop s => exact .inr (.inl ⟨s, rfl⟩)
  | digits s =>
    refine .inr (.inr ⟨s, _, .inl rfl, rfl, ?_, ?_⟩)
    · split <;> rfl
    · split <;> rfl
  | zeros s => exact .inr (.inr ⟨s, s, .inr rfl, rfl, rfl, rfl⟩)

/-! ## 3. What is printed does not depend on where it goes -/

theorem puts_append {σ : Type} (put : Char → σ → σ) (cs ds : List Char) (out : σ) :
    puts put (cs ++ ds) out = puts put ds (puts put cs out) := List.foldl_append

@[simp] theorem puts_list (cs out : List Char) :
    puts (fun c out => out ++ [c]) cs out = out ++ cs := by
  induction cs generalizing out with
  | nil => simp [puts]
  | cons c cs ih => simpa [puts] using ih (out ++ [c])

/-- The loop puts the characters that it would append to a list. -/
theorem format_eq {σ : Type} (put : Char → σ → σ) (args : Args) (fmt : List Char) (mode : Mode)
    (arg : ℕ) (pre : List Char) (out : σ) :
    format put args fmt mode arg (puts put pre out) =
      ((format (fun c out => out ++ [c]) args fmt mode arg pre).1,
        puts put (format (fun c out => out ++ [c]) args fmt mode arg pre).2 out) := by
  induction fmt generalizing mode arg pre with
  | nil => cases mode <;> rfl
  | cons c cs ih =>
    simp only [format]
    cases step args mode c arg with
    | print printed mode' arg' =>
      simp only [puts_list]
      rw [← puts_append]
      exact ih mode' arg' (pre ++ printed)
    | reject => rfl
    | overflow => rfl

theorem format_render {σ : Type} (put : Char → σ → σ) (args : Args) (fmt : List Char) (out : σ) :
    format put args fmt .text 0 out =
      ((render args fmt).1, puts put (render args fmt).2 out) :=
  format_eq put args fmt .text 0 [] out

/-! ## 4. The buffer -/

theorem count_puts (lim : UInt64) (cs : List Char) (o : Out) :
    (puts (put lim) cs o).count = o.count + UInt64.ofNat cs.length := by
  induction cs generalizing o with
  | nil => simp [puts]
  | cons c cs ih =>
    have hput : (put lim c o).count = o.count + 1 := by
      unfold put
      split <;> rfl
    have := ih (put lim c o)
    rw [hput] at this
    simp only [puts, List.foldl_cons, List.length_cons] at this ⊢
    rw [this, UInt64.ofNat_add, UInt64.add_assoc, UInt64.add_comm 1]
    rfl

/-- **The buffer holds what fits**, as long as `count` has not wrapped. -/
theorem puts_eq (lim : UInt64) (st : List (ℕ × Char)) (cs : List Char) (hcs : cs.length ≤ 2 ^ 64) :
    puts (put lim) cs ⟨st, 0, 0⟩ =
      ⟨st ++ placed (cs.take lim.toNat), min cs.length lim.toNat, UInt64.ofNat cs.length⟩ := by
  induction cs using List.reverseRecOn with
  | nil => simp [puts, placed]
  | append_singleton cs c ih =>
    rw [List.length_append, List.length_singleton] at hcs ⊢
    rw [puts_append, ih (by omega)]
    have hlt : UInt64.ofNat cs.length < lim ↔ cs.length < lim.toNat := by
      rw [UInt64.lt_iff_toNat_lt, UInt64.toNat_ofNat', Nat.mod_eq_of_lt (by omega)]
    have hcount : UInt64.ofNat cs.length + 1 = UInt64.ofNat (cs.length + 1) := by
      rw [UInt64.ofNat_add]
      rfl
    simp only [puts, List.foldl_cons, List.foldl_nil, put, hlt, hcount]
    split
    · rename_i hfit
      rw [List.take_of_length_le (Nat.le_of_lt hfit), List.take_of_length_le (by simp; omega),
        placed_concat, Nat.min_eq_left (Nat.le_of_lt hfit), Nat.min_eq_left (by omega),
        List.append_assoc]
    · rename_i hfull
      rw [List.take_append_of_le_length (by omega), Nat.min_eq_right (by omega),
        Nat.min_eq_right (by omega)]

theorem pos_le_puts (lim : UInt64) (cs : List Char) (o : Out) :
    o.pos ≤ (puts (put lim) cs o).pos := by
  induction cs generalizing o with
  | nil => exact le_rfl
  | cons c cs ih =>
    have hput : o.pos ≤ (put lim c o).pos := by
      unfold put
      split
      · exact Nat.le_succ _
      · exact le_rfl
    exact hput.trans (ih (put lim c o))

/-- When `count` wraps, the next character is stored again, BEHIND the limit. -/
theorem pos_of_wrap (lim : UInt64) (st : List (ℕ × Char)) (cs : List Char) (hlim : lim > 0)
    (hcs : 2 ^ 64 < cs.length) : lim.toNat < (puts (put lim) cs ⟨st, 0, 0⟩).pos := by
  have hlt := lim.toNat_lt
  obtain ⟨c, rest, hdrop⟩ : ∃ c rest, cs.drop (2 ^ 64) = c :: rest :=
    List.exists_cons_of_ne_nil (by rw [Ne, List.drop_eq_nil_iff]; omega)
  have htake : (cs.take (2 ^ 64)).length = 2 ^ 64 := by rw [List.length_take]; omega
  rw [← List.take_append_drop (2 ^ 64) cs, hdrop, puts_append, puts_eq _ _ _ htake.le, htake,
    Nat.min_eq_right hlt.le]
  refine lt_of_lt_of_le ?_ (pos_le_puts lim rest _)
  have hwrap : UInt64.ofNat (2 ^ 64) = 0 := by decide
  have hlim' : 0 < lim := hlim
  simp only [put, hwrap, hlim', if_true]
  exact Nat.lt_succ_self _

/-- With a limit of zero nothing is stored. -/
theorem stores_puts_zero (cs : List Char) (o : Out) :
    (puts (put 0) cs o).stores = o.stores := by
  induction cs generalizing o with
  | nil => rfl
  | cons c cs ih =>
    have hput : (put 0 c o).stores = o.stores := by
      rw [put, if_neg (by simp)]
    exact (ih (put 0 c o)).trans hput

/-! ## 5. No terminator is printed -/

/-- A directive pads with a character that is not the terminator. -/
def Spec.Pads (s : Spec) : Prop := s.padn = 0 ∨ s.padc ≠ NUL

def Mode.Pads : Mode → Prop
  | .text => True
  | .loop s => s.Pads
  | .digits s => s.padc ≠ NUL
  | .zeros s => s.padc ≠ NUL

theorem digitChar_ne_nul {rem : UInt32} (h : rem.toNat < 16) : digitChar rem ≠ NUL := by
  have key : ∀ k < 16, digitChar (UInt32.ofNat k) ≠ NUL := by decide
  have := key rem.toNat h
  rwa [UInt32.ofNat_toNat] at this

theorem numBuf_nul_free (radix : UInt32) (h0 : 0 < radix.toNat) (h16 : radix.toNat ≤ 16) (fuel : ℕ)
    (unum : UInt64) : NUL ∉ numBuf radix fuel unum := by
  induction fuel generalizing unum with
  | zero => simp [numBuf]
  | succ fuel ih =>
    rw [numBuf, List.mem_cons, not_or]
    constructor
    · refine (digitChar_ne_nul ?_).symm
      rw [UInt32.toNat_mod]
      exact (Nat.mod_lt _ h0).trans_le h16
    · split
      · exact ih _
      · simp

theorem unsignedNumPrint_nul_free (unum : UInt64) (radix : UInt32) (h0 : 0 < radix.toNat)
    (h16 : radix.toNat ≤ 16) {s : Spec} (hs : s.Pads) :
    NUL ∉ unsignedNumPrint unum radix s.padc s.padn := by
  have hbuf := numBuf_nul_free radix h0 h16 64 unum
  simp only [unsignedNumPrint, List.mem_append, List.mem_reverse, not_or]
  refine ⟨⟨?_, hbuf⟩, ?_⟩
  · split
    · rename_i hpos
      intro hmem
      rcases hs with hzero | hne
      · omega
      · exact hne (List.eq_of_mem_replicate hmem).symm
    · simp
  · split
    · rename_i hneg
      intro hmem
      rcases hs with hzero | hne
      · omega
      · exact hne (List.eq_of_mem_replicate hmem).symm
    · simp

theorem signedNumPrint_nul_free (num : ℤ) {s : Spec} (hs : s.Pads) :
    NUL ∉ signedNumPrint num s.padc s.padn := by
  have hnum := fun u => unsignedNumPrint_nul_free u 10 (by decide) (by decide) hs
  have hminus : NUL ≠ '-' := by decide
  unfold signedNumPrint
  split
  · simp [hminus, hnum]
  · exact hnum _

/-- **A directive** prints no terminator, and goes on with a padding that is none. -/
theorem directive_nul_free (args : Args) {s : Spec} (hs : s.Pads) (c : Char) (arg : ℕ)
    {cs : List Char} {mode : Mode} {arg' : ℕ} (h : directive args s c arg = .print cs mode arg') :
    NUL ∉ cs ∧ mode.Pads := by
  have hspace : (' ' : Char) ≠ NUL := by decide
  have hzero : ('0' : Char) ≠ NUL := by decide
  unfold directive at h
  split_ifs at h
  · cases h
    exact ⟨by simp, hspace⟩
  · cases h
    exact ⟨by simp, hs⟩
  · cases h
    exact ⟨signedNumPrint_nul_free _ hs, trivial⟩
  · cases h
    exact ⟨by simp, hs⟩
  · cases h
    exact ⟨(args.str _).2, trivial⟩
  · cases h
    exact ⟨unsignedNumPrint_nul_free _ 10 (by decide) (by decide) hs, trivial⟩
  · cases h
    exact ⟨unsignedNumPrint_nul_free _ 16 (by decide) (by decide) hs, trivial⟩
  · cases h
    exact ⟨by simp, hzero⟩

theorem Mode.Width.pads_iff {mode : Mode} {s : Spec} (hw : mode.Width s) :
    mode.Pads ↔ s.padc ≠ NUL := by
  rcases hw with rfl | rfl <;> rfl

theorem step_nul_free (args : Args) {mode : Mode} (hm : mode.Pads) {c : Char} (hc : c ≠ NUL)
    (arg : ℕ) {cs : List Char} {mode' : Mode} {arg' : ℕ}
    (h : step args mode c arg = .print cs mode' arg') : NUL ∉ cs ∧ mode'.Pads := by
  rcases mode_cases mode with rfl | ⟨s, rfl⟩ | ⟨s, s', hw, hs', hpadc, -⟩
  · simp only [step] at h
    split at h
    · cases h
      exact ⟨by simp, .inl rfl⟩
    · cases h
      exact ⟨by simpa using hc.symm, trivial⟩
  · exact directive_nul_free args hm c arg h
  · have hpad : s.padc ≠ NUL := hw.pads_iff.mp hm
    by_cases hdigit : isDigit c
    · obtain ⟨mode₁, hw₁, hstep⟩ := step_of_digit args hw hdigit arg
      rw [hstep] at h
      split at h
      · cases h
      · cases h
        exact ⟨by simp, hw₁.pads_iff.mpr hpad⟩
    · rw [step_of_spec args hs' hdigit] at h
      exact directive_nul_free args (.inr (hpadc ▸ hpad)) c arg h

theorem format_nul_free (args : Args) {fmt : List Char} (hfmt : NUL ∉ fmt) {mode : Mode}
    (hm : mode.Pads) (arg : ℕ) {pre : List Char} (hpre : NUL ∉ pre) :
    NUL ∉ (format (fun c out => out ++ [c]) args fmt mode arg pre).2 := by
  induction fmt generalizing mode arg pre with
  | nil => cases mode <;> exact hpre
  | cons c cs ih =>
    obtain ⟨hc, hcs⟩ := not_or.mp (List.mem_cons.not.mp hfmt)
    simp only [format]
    cases hstep : step args mode c arg with
    | print printed mode' arg' =>
      obtain ⟨hprinted, hm'⟩ := step_nul_free args hm (Ne.symm hc) arg hstep
      simp only [puts_list]
      exact ih hcs hm' arg' (by simp [hpre, hprinted])
    | reject => exact hpre
    | overflow => exact hpre

/-- The full output has no terminator in it. -/
theorem render_nul_free (args : Args) (fmt : CStr) : NUL ∉ (render args fmt.1).2 := by
  have htext : Mode.text.Pads := trivial
  exact format_nul_free args fmt.2 htext 0 (by simp)

/-! ## 6. Bounded, terminated, and the length returned -/

/-- **What is asked of a call**: it stores only inside the buffer; whatever was there before, it
leaves a terminator in a buffer that has room for one; and if it does not return `-1` it returns the
length of the full output, of which the buffer has the first characters. -/
def Bounded (args : Args) (n : UInt64) (fmt : CStr) : Prop :=
  ∃ ret stores, valVsnprintf args n fmt = some (ret, stores) ∧
    (∀ p ∈ stores, p.1 < n.toNat) ∧
    ∀ buf,
      (1 ≤ n.toNat → ∃ i < n.toNat, written buf stores i = NUL) ∧
      (ret ≠ -1 →
        ret.toInt = (render args fmt.1).2.length ∧
        ∀ i < min (n.toNat - 1) (render args fmt.1).2.length,
          written buf stores i = (render args fmt.1).2.getD i NUL)

theorem limit_toNat (n : UInt64) : (limit n).toNat = n.toNat - 1 := by
  unfold limit
  split
  · rename_i h
    rw [h]
    rfl
  · split
    · rename_i h
      rw [h]
      rfl
    · rename_i h0 h1
      have hne : n.toNat ≠ 0 := fun h => h0 (UInt64.toNat_inj.mp h)
      have h1le : (1 : UInt64) ≤ n := by
        rw [UInt64.le_iff_toNat_le]
        exact Nat.one_le_iff_ne_zero.mpr hne
      rw [UInt64.toNat_sub_of_le _ _ h1le]
      rfl

theorem limit_pos_iff (n : UInt64) : limit n > 0 ↔ 2 ≤ n.toNat := by
  rw [gt_iff_lt, UInt64.lt_iff_toNat_lt, limit_toNat]
  have h0 : (0 : UInt64).toNat = 0 := rfl
  omega

theorem limit_eq_zero {n : UInt64} (h : n.toNat ≤ 1) : limit n = 0 := by
  rw [← UInt64.toNat_inj, limit_toNat]
  have h0 : (0 : UInt64).toNat = 0 := rfl
  omega

theorem firstStores_of_two_le {n : UInt64} (h : 2 ≤ n.toNat) : firstStores n = [] := by
  refine if_neg fun h1 => ?_
  rw [h1] at h
  exact absurd h (by decide)

/-- The value returned is `count`, cut to an `int`. -/
theorem returned_toInt (len : ℕ) :
    (UInt64.ofNat len).toUInt32.toInt32.toInt = (len : ℤ).bmod (2 ^ 32) := by
  rw [UInt64.toUInt32_ofNat', UInt32.toInt32_ofNat', Int32.toInt_ofNat']
  rfl

theorem returned_eq_length (len : ℕ) :
    (UInt64.ofNat len).toUInt32.toInt32.toInt = len ↔ len < 2 ^ 31 := by
  rw [returned_toInt, Int.bmod_def]
  split <;> omega

theorem returned_eq_neg_one (len : ℕ) :
    (UInt64.ofNat len).toUInt32.toInt32 = -1 ↔ len % 2 ^ 32 = 2 ^ 32 - 1 := by
  have hneg : (-1 : Int32).toInt = -1 := by decide
  rw [← Int32.toInt_inj, returned_toInt, hneg, Int.bmod_def]
  split <;> omega

/-- **Where the value returned is the length**, or says that there is none. -/
theorem returned_right_iff (len : ℕ) :
    ((UInt64.ofNat len).toUInt32.toInt32 ≠ -1 →
      (UInt64.ofNat len).toUInt32.toInt32.toInt = len) ↔
      len < 2 ^ 31 ∨ len % 2 ^ 32 = 2 ^ 32 - 1 := by
  rw [returned_eq_length, Ne, returned_eq_neg_one]
  omega

section Calls

variable (args : Args) (n : UInt64) (fmt : CStr)

/-- A buffer of at most one byte: nothing is stored but the terminator. -/
theorem valVsnprintf_small (hn : n.toNat ≤ 1) :
    valVsnprintf args n fmt =
      match (render args fmt.1).1 with
      | .overflow => none
      | .rejected => some (-1, firstStores n)
      | .done => some ((UInt64.ofNat (render args fmt.1).2.length).toUInt32.toInt32,
          firstStores n) := by
  have hcount := count_puts 0 (render args fmt.1).2 ⟨firstStores n, 0, 0⟩
  have hstores := stores_puts_zero (render args fmt.1).2 ⟨firstStores n, 0, 0⟩
  rw [UInt64.zero_add] at hcount
  rw [valVsnprintf, format_render, limit_eq_zero hn]
  cases (render args fmt.1).1 with
  | done => simp only [hcount, hstores, gt_iff_lt, UInt64.lt_irrefl, if_false]
  | rejected => simp only [hstores]
  | overflow => rfl

/-- A larger buffer: what fits of the output, and the terminator behind it if the format was gone
through. -/
theorem valVsnprintf_large (hn : 2 ≤ n.toNat) (hlen : (render args fmt.1).2.length ≤ 2 ^ 64) :
    valVsnprintf args n fmt =
      match (render args fmt.1).1 with
      | .overflow => none
      | .rejected => some (-1, placed ((render args fmt.1).2.take (n.toNat - 1)))
      | .done => some ((UInt64.ofNat (render args fmt.1).2.length).toUInt32.toInt32,
          placed ((render args fmt.1).2.take (n.toNat - 1) ++ [NUL])) := by
  have hputs := puts_eq (limit n) [] _ hlen
  rw [limit_toNat, List.nil_append] at hputs
  rw [valVsnprintf, format_render, firstStores_of_two_le hn, hputs]
  cases (render args fmt.1).1 with
  | done =>
    simp only [(limit_pos_iff n).mpr hn, if_true, placed_concat, List.length_take,
      Nat.min_comm (n.toNat - 1)]
  | rejected => rfl
  | overflow => rfl

/-- A terminator that is in the buffer when the call starts to print. -/
theorem firstStores_terminates (hn : n.toNat ≤ 1) :
    (∀ p ∈ firstStores n, p.1 < n.toNat) ∧
      ∀ buf, 1 ≤ n.toNat → ∃ i < n.toNat, written buf (firstStores n) i = NUL := by
  by_cases h : n = 1
  · subst h
    exact ⟨by simp [firstStores], fun buf _ => ⟨0, by decide, by simp [firstStores, written]⟩⟩
  · have h0 : n.toNat = 0 := by
      have : n.toNat ≠ 1 := fun h1 => h (UInt64.toNat_inj.mp h1)
      omega
    exact ⟨by simp [firstStores, h], fun buf h1 => absurd h1 (by omega)⟩

theorem bounded_small (hn : n.toNat ≤ 1) :
    Bounded args n fmt ↔
      (render args fmt.1).1 = .rejected ∨
        (render args fmt.1).1 = .done ∧
          ((render args fmt.1).2.length < 2 ^ 31 ∨
            (render args fmt.1).2.length % 2 ^ 32 = 2 ^ 32 - 1) := by
  obtain ⟨hin, hterm⟩ := firstStores_terminates n hn
  have hmin : ∀ i, ¬ i < min (n.toNat - 1) (render args fmt.1).2.length := by omega
  rw [Bounded, valVsnprintf_small args n fmt hn]
  cases (render args fmt.1).1 with
  | overflow => simp
  | rejected =>
    simp only [true_or, iff_true]
    exact ⟨-1, firstStores n, rfl, hin, fun buf => ⟨hterm buf, fun h => absurd rfl h⟩⟩
  | done =>
    simp only [reduceCtorEq, false_or, true_and]
    constructor
    · rintro ⟨ret, stores, hval, -, hbuf⟩
      cases hval
      exact (returned_right_iff _).mp fun hret => ((hbuf fun _ => NUL).2 hret).1
    · intro hlen
      refine ⟨_, _, rfl, hin, fun buf => ⟨hterm buf, fun hret => ⟨?_, fun i hi => absurd hi (hmin i)⟩⟩⟩
      exact (returned_right_iff _).mpr hlen hret

/-- A store comes from a character that was put. -/
theorem mem_stores_puts {lim : UInt64} {cs : List Char} {o : Out} {p : ℕ × Char}
    (h : p ∈ (puts (put lim) cs o).stores) : p ∈ o.stores ∨ p.2 ∈ cs := by
  induction cs generalizing o with
  | nil => exact .inl h
  | cons c cs ih =>
    have hcs : p ∈ (put lim c o).stores ∨ p.2 ∈ cs := ih h
    rcases hcs with h | h
    · unfold put at h
      split at h
      · rcases List.mem_append.mp h with h | h
        · exact .inl h
        · rw [List.mem_singleton.mp h]
          exact .inr List.mem_cons_self
      · exact .inl h
    · exact .inr (List.mem_cons_of_mem _ h)

/-- **A format that is not gone through** leaves no terminator in a buffer of two bytes or more. -/
theorem not_bounded_of_rejected (hn : 2 ≤ n.toNat) (h : (render args fmt.1).1 = .rejected) :
    ¬ Bounded args n fmt := by
  rintro ⟨ret, stores, hval, -, hbuf⟩
  rw [valVsnprintf, format_render, h, firstStores_of_two_le hn] at hval
  cases hval
  obtain ⟨i, -, hi⟩ := (hbuf fun _ => 'x').1 (by omega)
  refine written_ne_nul (fun _ => by decide) (fun p hp hnul => ?_) i hi
  rcases mem_stores_puts hp with hp | hp
  · cases hp
  · rw [hnul] at hp
    exact render_nul_free args fmt hp

/-- An output that makes `count` wrap has its terminator stored behind the buffer. -/
theorem not_bounded_of_wrap (hn : 2 ≤ n.toNat) (h : (render args fmt.1).1 = .done)
    (hlen : 2 ^ 64 < (render args fmt.1).2.length) : ¬ Bounded args n fmt := by
  rintro ⟨ret, stores, hval, hin, -⟩
  have hlim := (limit_pos_iff n).mpr hn
  have hpos := pos_of_wrap (limit n) (firstStores n) _ hlim hlen
  rw [valVsnprintf, format_render, h] at hval
  simp only [hlim, if_true, Option.some.injEq, Prod.mk.injEq] at hval
  have := hin (_, NUL) (hval.2 ▸ List.mem_append_right _ List.mem_cons_self)
  rw [limit_toNat] at hpos
  omega

theorem bounded_large (hn : 2 ≤ n.toNat) :
    Bounded args n fmt ↔
      (render args fmt.1).1 = .done ∧
        ((render args fmt.1).2.length < 2 ^ 31 ∨
          (render args fmt.1).2.length % 2 ^ 32 = 2 ^ 32 - 1 ∧
            (render args fmt.1).2.length < 2 ^ 64) := by
  cases h : (render args fmt.1).1 with
  | overflow =>
    refine iff_of_false ?_ (by simp)
    rintro ⟨ret, stores, hval, -⟩
    rw [valVsnprintf, format_render, h] at hval
    cases hval
  | rejected => exact iff_of_false (not_bounded_of_rejected args n fmt hn h) (by simp)
  | done =>
    rw [eq_self, true_and]
    by_cases hwrap : 2 ^ 64 < (render args fmt.1).2.length
    · exact iff_of_false (not_bounded_of_wrap args n fmt hn h hwrap) (by omega)
    · have hval := valVsnprintf_large args n fmt hn (by omega)
      rw [h] at hval
      set full := (render args fmt.1).2 with hfull
      constructor
      · rintro ⟨ret, stores, hval', -, hbuf⟩
        rw [hval] at hval'
        cases hval'
        have hright := (returned_right_iff full.length).mp fun hret => ((hbuf fun _ => NUL).2 hret).1
        omega
      · intro hlen
        have hshort : (full.take (n.toNat - 1)).length = min (n.toNat - 1) full.length :=
          List.length_take
        refine ⟨_, _, hval, fun p hp => ?_, fun buf => ⟨fun _ => ?_, fun hret => ⟨?_, fun i hi => ?_⟩⟩⟩
        · have := (mem_placed hp).1
          rw [List.length_append, hshort, List.length_singleton] at this
          omega
        · refine ⟨(full.take (n.toNat - 1)).length, by omega, ?_⟩
          rw [written_placed]
          simp
        · exact (returned_right_iff _).mpr (hlen.imp_right And.left) hret
        · rw [← hfull] at hi ⊢
          rw [written_placed, List.getD_append _ _ _ _ (by omega), List.getD_eq_getElem _ _ (by omega),
            List.getD_eq_getElem _ _ (by omega), List.getElem_take]

end Calls

/-! ## 7. Formats -/

/-- **What a format is**, without its arguments: `none` outside of a directive, and inside of one
the number of `l`s and the width that is being read, if any. -/
def scan : List Char → Option (ℕ × Option ℕ) → Ending
  | [], none => .done
  | [], some _ => .rejected
  | c :: cs, none => if c = '%' then scan cs (some (0, none)) else scan cs none
  | c :: cs, some (ls, width) =>
    if isDigit c then
      let width : ℕ := width.getD 0 * 10 + (c.toNat - '0'.toNat)
      if (width : ℤ) > INT_MAX then .overflow else scan cs (some (ls, some width))
    else if c = '-' then scan cs (some (ls, none))
    else if c = 'l' then
      if (ls : ℤ) + 1 > INT_MAX then .overflow else scan cs (some (ls + 1, none))
    else if c ∈ ['i', 'd', 's', 'u', 'x'] then scan cs none
    else .rejected

/-- A mode, as `scan` sees it. -/
def Mode.scanned : Mode → Option (ℕ × Option ℕ)
  | .text => none
  | .loop s => some (s.lCount, none)
  | .digits s => some (s.lCount, some s.padn.toNat)
  | .zeros s => some (s.lCount, some s.padn.toNat)

/-- A width that is being read is not negative. -/
def Mode.Reads : Mode → Prop
  | .digits s => 0 ≤ s.padn
  | .zeros s => 0 ≤ s.padn
  | _ => True

/-- How the loop goes on after a step. -/
def Step.ending (cs : List Char) : Step → Ending
  | .print _ mode _ => scan cs mode.scanned
  | .reject => .rejected
  | .overflow => .overflow

def Step.Reads : Step → Prop
  | .print _ mode _ => mode.Reads
  | _ => True

theorem digitValue_eq {c : Char} (h : isDigit c) :
    digitValue c = ((c.toNat - '0'.toNat : ℕ) : ℤ) := by
  have : '0'.toNat ≤ c.toNat := h.1
  rw [digitValue]
  omega

theorem isDigit_iff (c : Char) : isDigit c ↔ ('1' ≤ c ∧ c ≤ '9') ∨ c = '0' := by
  have h1 : ('1' ≤ c ↔ 49 ≤ c.toNat) := Iff.rfl
  have h9 : (c ≤ '9' ↔ c.toNat ≤ 57) := Iff.rfl
  have h0 : ('0' ≤ c ↔ 48 ≤ c.toNat) := Iff.rfl
  have he : c = '0' ↔ c.toNat = 48 := ⟨fun h => h ▸ rfl, fun h => Char.toNat_inj.mp h⟩
  rw [isDigit, h1, h9, h0, he]
  omega

/-- Behind a width, a character that is no digit is as behind none. -/
theorem scan_width {c : Char} (hc : ¬ isDigit c) (cs : List Char) (ls : ℕ) (width : Option ℕ) :
    scan (c :: cs) (some (ls, width)) = scan (c :: cs) (some (ls, none)) := by
  simp only [scan, if_neg hc]

/-- A directive ends, and goes on, as `scan` says. -/
theorem directive_ending (args : Args) (s : Spec) (c : Char) (arg : ℕ) (cs : List Char) :
    (directive args s c arg).ending cs = scan (c :: cs) (some (s.lCount, none)) := by
  by_cases hd : isDigit c
  · have hval := digitValue_eq hd
    have h9 : c.toNat ≤ 57 := hd.2
    have hmax : ¬ ((((none : Option ℕ).getD 0 * 10 + (c.toNat - '0'.toNat) : ℕ) : ℤ) > INT_MAX) := by
      have h0 : '0'.toNat = 48 := rfl
      rw [Option.getD_none, INT_MAX]
      omega
    simp only [scan, if_pos hd, if_neg hmax]
    rcases (isDigit_iff c).mp hd with h19 | rfl
    · rw [directive, if_pos h19]
      simp only [Step.ending, Mode.scanned, hval, Int.toNat_natCast, Option.getD_none, Nat.zero_mul,
        Nat.zero_add]
    · rfl
  · have h19 : ¬ ('1' ≤ c ∧ c ≤ '9') := fun h => hd ((isDigit_iff c).mpr (.inl h))
    have h0 : c ≠ '0' := fun h => hd ((isDigit_iff c).mpr (.inr h))
    rw [directive, if_neg h19, scan, if_neg hd]
    split_ifs with hminus hnum hl hmax hs hu hx
    all_goals simp_all [Step.ending, Mode.scanned]

theorem directive_reads (args : Args) (s : Spec) (c : Char) (arg : ℕ) :
    (directive args s c arg).Reads := by
  unfold directive
  split_ifs with h19
  · have h1 : 49 ≤ c.toNat := h19.1
    have h0 : ('0'.toNat : ℤ) = 48 := rfl
    simp only [Step.Reads, Mode.Reads, digitValue]
    omega
  all_goals simp [Step.Reads, Mode.Reads]

theorem push_padn {s : Spec} {c : Char} (hs : 0 ≤ s.padn) (hc : isDigit c) :
    (s.push c).padn = ((s.padn.toNat * 10 + (c.toNat - '0'.toNat) : ℕ) : ℤ) := by
  rw [Spec.push, digitValue_eq hc]
  push_cast
  omega

theorem Mode.Width.scanned_eq {mode : Mode} {s : Spec} (hw : mode.Width s) :
    mode.scanned = some (s.lCount, some s.padn.toNat) := by
  rcases hw with rfl | rfl <;> rfl

theorem Mode.Width.reads_iff {mode : Mode} {s : Spec} (hw : mode.Width s) :
    mode.Reads ↔ 0 ≤ s.padn := by
  rcases hw with rfl | rfl <;> rfl

theorem step_ending (args : Args) {mode : Mode} (hm : mode.Reads) (c : Char) (arg : ℕ)
    (cs : List Char) : (step args mode c arg).ending cs = scan (c :: cs) mode.scanned := by
  rcases mode_cases mode with rfl | ⟨s, rfl⟩ | ⟨s, s', hw, hs', -, hl⟩
  · by_cases hc : c = '%'
    · simp [step, hc, Step.ending, Mode.scanned, scan, Spec.start]
    · simp [step, hc, Step.ending, Mode.scanned, scan]
  · exact directive_ending args s c arg cs
  · rw [hw.scanned_eq]
    by_cases hc : isDigit c
    · have hpush := push_padn (hw.reads_iff.mp hm) hc
      obtain ⟨mode', hw', hstep⟩ := step_of_digit args hw hc arg
      simp only [hstep, scan, if_pos hc, hpush, Option.getD_some]
      split
      · rfl
      · simp only [Step.ending, hw'.scanned_eq, hpush, Int.toNat_natCast]
        rfl
    · rw [step_of_spec args hs' hc, scan_width hc, directive_ending, hl]

theorem step_reads (args : Args) {mode : Mode} (hm : mode.Reads) (c : Char) (arg : ℕ) :
    (step args mode c arg).Reads := by
  rcases mode_cases mode with rfl | ⟨s, rfl⟩ | ⟨s, s', hw, hs', -, -⟩
  · simp only [step]
    split <;> trivial
  · exact directive_reads args s c arg
  · by_cases hc : isDigit c
    · have hpush := push_padn (hw.reads_iff.mp hm) hc
      obtain ⟨mode', hw', hstep⟩ := step_of_digit args hw hc arg
      rw [hstep]
      split
      · trivial
      · refine hw'.reads_iff.mpr ?_
        rw [hpush]
        exact Int.natCast_nonneg _
    · rw [step_of_spec args hs' hc]
      exact directive_reads args s' c arg

/-- **How the loop ends is seen from the format.** -/
theorem format_ending {σ : Type} (put : Char → σ → σ) (args : Args) (fmt : List Char) {mode : Mode}
    (hm : mode.Reads) (arg : ℕ) (out : σ) :
    (format put args fmt mode arg out).1 = scan fmt mode.scanned := by
  induction fmt generalizing mode arg out with
  | nil => cases mode <;> rfl
  | cons c cs ih =>
    have hending := step_ending args hm c arg cs
    have hreads := step_reads args hm c arg
    simp only [format]
    cases hstep : step args mode c arg with
    | print printed mode' arg' =>
      rw [hstep] at hending hreads
      rw [← hending]
      exact ih hreads arg' _
    | reject =>
      rw [hstep] at hending
      exact hending
    | overflow =>
      rw [hstep] at hending
      exact hending

theorem render_ending (args : Args) (fmt : List Char) : (render args fmt).1 = scan fmt none := by
  have htext : Mode.text.Reads := trivial
  exact format_ending _ args fmt htext 0 []

/-- **When formatted printing is bounded, terminated, and returns the length.**  Exactly if no `int`
overflows; a format with a directive that is not known has a buffer of one byte at most; and the
output of a format of known directives is shorter than `2 ^ 31`, or of a length that is returned as
`-1` (with a `count` that has not wrapped, in a buffer of two bytes or more). -/
theorem vsnprintf_bounded_iff (args : Args) (n : UInt64) (fmt : CStr) :
    Bounded args n fmt ↔
      match scan fmt.1 none with
      | .overflow => False
      | .rejected => n.toNat ≤ 1
      | .done => (render args fmt.1).2.length < 2 ^ 31 ∨
          (render args fmt.1).2.length % 2 ^ 32 = 2 ^ 32 - 1 ∧
            (n.toNat ≤ 1 ∨ (render args fmt.1).2.length < 2 ^ 64) := by
  rw [← render_ending args]
  rcases Nat.lt_or_ge 1 n.toNat with hn | hn
  · rw [bounded_large args n fmt hn]
    cases (render args fmt.1).1 with
    | overflow => simp
    | rejected => simp [hn]
    | done => simp [Nat.not_le.mpr hn]
  · rw [bounded_small args n fmt hn]
    cases (render args fmt.1).1 with
    | overflow => simp
    | rejected => simp [hn]
    | done => simp [hn]

/-- A directive that is not known: the buffer is left without a terminator. -/
theorem vsnprintf_unterminated :
    ¬ Bounded ⟨fun _ => 0, fun _ => ⟨[], by simp⟩⟩ 80 ⟨['%', 'q'], by decide⟩ := by
  rintro ⟨ret, stores, hval, -, hbuf⟩
  have hrun : valVsnprintf ⟨fun _ => 0, fun _ => ⟨[], by simp⟩⟩ 80 ⟨['%', 'q'], by decide⟩ =
      some (-1, []) := rfl
  rw [hrun] at hval
  cases hval
  obtain ⟨i, -, hi⟩ := (hbuf fun _ => 'x').1 (by decide)
  have hx : 'x' = NUL := hi
  exact absurd hx (by decide)

end RmmAcs.Print
