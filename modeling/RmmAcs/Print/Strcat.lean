/-
# Appending strings

`val_strcat` looks for the end of `str1`, copies `str2` there character by character, and panics when
a character would go behind the buffer.  The terminator is stored behind the loop, WITHOUT that
check.  So a result that is too long panics, a result that fits is right, and one that is exactly as
long as the buffer has its terminator stored one byte behind it.

`val_host_test_init` appends three times: the suite name, the test name and a newline.  It stops at
the first call that panics: `pal_terminate_simulation` is taken not to come back from its `wfi`.
-/
import RmmAcs.Print.Buffer

namespace RmmAcs.Print

/-! ## 1. `val_strcat` -/

/-- `while (str1[length] != '\0')`, with at most `fuel` rounds to go. -/
def strLength (mem : ℕ → Char) : ℕ → ℕ → ℕ
  | 0, length => length
  | fuel + 1, length => if mem length ≠ NUL then strLength mem fuel (length + 1) else length

/-- The loop over `str2`: the length when it is over, or `none` if it panics, and the stores. -/
def copyLoop (size : ℕ) : List Char → ℕ → List (ℕ × Char) → Option ℕ × List (ℕ × Char)
  | [], length, stores => (some length, stores)
  | c :: cs, length, stores =>
    if length < size then copyLoop size cs (length + 1) (stores ++ [(length, c)])
    else (none, stores)

/-- What a call leaves: whether it panicked, and its stores to `str1`. -/
structure Appended where
  panics : Bool
  stores : List (ℕ × Char)
deriving DecidableEq

/-- `val_strcat`, for a `str1` that ends in its buffer or right behind it. -/
def valStrcat (mem : ℕ → Char) (str2 : CStr) (size : ℕ) : Appended :=
  match copyLoop size str2.1 (strLength mem (size + 1) 0) [] with
  | (none, stores) => ⟨true, stores⟩
  | (some length, stores) => ⟨false, stores ++ [(length, NUL)]⟩

/-- A string in a buffer of a size. -/
structure StrBuf (size : ℕ) where
  mem : ℕ → Char
  str : CStr
  holds : HoldsString mem str.1
  fits : str.1.length < size

/-- **What is asked of a call**: its stores are inside the buffer, and it panics or leaves the
concatenation there. -/
def AppendsInside {size : ℕ} (b : StrBuf size) (str2 : CStr) : Prop :=
  let r := valStrcat b.mem str2 size
  (∀ p ∈ r.stores, p.1 < size) ∧
    (r.panics = true ∨ HoldsString (written b.mem r.stores) (b.str.1 ++ str2.1))

/-! ## 2. The exact fit -/

theorem strLength_eq {mem : ℕ → Char} {cs : CStr} (h : HoldsString mem cs.1) (fuel k : ℕ)
    (hk : k ≤ cs.1.length) (hfuel : cs.1.length < k + fuel) :
    strLength mem fuel k = cs.1.length := by
  induction fuel generalizing k with
  | zero => omega
  | succ fuel ih =>
    rw [strLength]
    by_cases hend : k = cs.1.length
    · rw [hend, if_neg (not_not.mpr h.2)]
    · have hlt : k < cs.1.length := by omega
      have hne : mem k ≠ NUL := by
        rw [h.1 k hlt, List.getD_eq_getElem _ _ hlt]
        intro hnul
        have hmem := List.getElem_mem hlt
        rw [hnul] at hmem
        exact cs.2 hmem
      rw [if_pos hne]
      exact ih (k + 1) hlt (by omega)

/-- **The loop** stores inside the buffer.  It panics if there is a character left at the end of the
buffer, and else the buffer starts with the concatenation. -/
theorem copyLoop_spec (size : ℕ) (mem : ℕ → Char) (cs pre : List Char) (stores : List (ℕ × Char))
    (length : ℕ) (hpre : HoldsPrefix (written mem stores) pre) (hin : ∀ p ∈ stores, p.1 < size)
    (hlength : length = pre.length) (hlen : length ≤ size) :
    let r := copyLoop size cs length stores
    (∀ p ∈ r.2, p.1 < size) ∧
      if pre.length + cs.length ≤ size then
        r.1 = some (pre ++ cs).length ∧ HoldsPrefix (written mem r.2) (pre ++ cs)
      else r.1 = none := by
  induction cs generalizing pre stores length with
  | nil =>
    simp only [copyLoop, List.append_nil, List.length_nil, Nat.add_zero]
    rw [if_pos (hlength ▸ hlen), hlength]
    exact ⟨hin, rfl, hpre⟩
  | cons c cs ih =>
    simp only [copyLoop]
    by_cases hroom : length < size
    · have hpre' : HoldsPrefix (written mem (stores ++ [(length, c)])) (pre ++ [c]) := by
        rw [written_append, hlength]
        exact hpre.snoc c
      have hin' : ∀ p ∈ stores ++ [(length, c)], p.1 < size := by
        intro p hp
        rcases List.mem_append.mp hp with hp | hp
        · exact hin p hp
        · rw [List.mem_singleton.mp hp]
          exact hroom
      have hrest := ih (pre ++ [c]) _ (length + 1) hpre' hin' (by simp [hlength]) hroom
      have hlist : pre ++ [c] ++ cs = pre ++ c :: cs := by simp
      have hsum : (pre ++ [c]).length + cs.length = pre.length + (c :: cs).length := by
        simp only [List.length_append, List.length_cons, List.length_nil]
        omega
      rw [hlist, hsum] at hrest
      rw [if_pos hroom]
      exact hrest
    · rw [if_neg hroom, if_neg (by rw [List.length_cons]; omega)]
      exact ⟨hin, rfl⟩

/-- **A call of `val_strcat`**: too long panics, and otherwise the concatenation is there, with its
terminator behind it. -/
theorem valStrcat_spec {size : ℕ} (b : StrBuf size) (str2 : CStr) :
    let r := valStrcat b.mem str2 size
    if b.str.1.length + str2.1.length ≤ size then
      ∃ stores, (∀ p ∈ stores, p.1 < size) ∧
        r = ⟨false, stores ++ [((b.str.1 ++ str2.1).length, NUL)]⟩ ∧
        HoldsString (written b.mem r.stores) (b.str.1 ++ str2.1)
    else r.panics = true ∧ ∀ p ∈ r.stores, p.1 < size := by
  have hlength := strLength_eq b.holds (size + 1) 0 (Nat.zero_le _) (by have := b.fits; omega)
  obtain ⟨hin, hloop⟩ := copyLoop_spec size b.mem str2.1 b.str.1 [] _ b.holds.1 (by simp) rfl
    b.fits.le
  intro r
  have hr : r = valStrcat b.mem str2 size := rfl
  rw [valStrcat, hlength] at hr
  split at hloop
  · rename_i hle
    obtain ⟨hlen, hpre⟩ := hloop
    rw [if_pos hle]
    generalize copyLoop size str2.1 b.str.1.length [] = out at hr hlen hpre hin
    obtain ⟨o, stores⟩ := out
    cases hlen
    refine ⟨stores, hin, hr, ?_⟩
    rw [hr, written_append]
    exact hpre.terminate
  · rename_i hgt
    rw [if_neg hgt]
    generalize copyLoop size str2.1 b.str.1.length [] = out at hr hloop hin
    obtain ⟨o, stores⟩ := out
    cases hloop
    rw [hr]
    exact ⟨rfl, hin⟩

/-- **A call stays inside its buffer** exactly if the result does not fit exactly. -/
theorem appendsInside_iff {size : ℕ} (b : StrBuf size) (str2 : CStr) :
    AppendsInside b str2 ↔ b.str.1.length + str2.1.length ≠ size := by
  have hspec := valStrcat_spec b str2
  simp only at hspec
  unfold AppendsInside
  simp only
  split at hspec
  · rename_i hle
    obtain ⟨stores, hin, hr, hholds⟩ := hspec
    constructor
    · intro h hexact
      have := h.1 ((b.str.1 ++ str2.1).length, NUL) (by rw [hr]; simp)
      rw [List.length_append] at this
      omega
    · intro hne
      refine ⟨fun p hp => ?_, .inr hholds⟩
      rw [hr] at hp
      rcases List.mem_append.mp hp with hp | hp
      · exact hin p hp
      · rw [List.mem_singleton.mp hp, List.length_append]
        omega
  · rename_i hgt
    exact iff_of_true ⟨hspec.2, .inl hspec.1⟩ (by omega)

/-! ## 3. One append after the other -/

/-- Appending strings one after the other, up to a call that panics. -/
def appendAll (size : ℕ) : (ℕ → Char) → List CStr → Appended
  | _, [] => ⟨false, []⟩
  | mem, s :: rest =>
    let r := valStrcat mem s size
    if r.panics then r
    else
      let r' := appendAll size (written mem r.stores) rest
      ⟨r'.panics, r.stores ++ r'.stores⟩

/-- No string that is appended fits exactly, up to one that does not fit. -/
def NeverExact (size : ℕ) : ℕ → List CStr → Prop
  | _, [] => True
  | len, s :: rest =>
    len + s.1.length ≠ size ∧ (len + s.1.length < size → NeverExact size (len + s.1.length) rest)

/-- The buffer after a string that fits. -/
def StrBuf.append {size : ℕ} (b : StrBuf size) (s : CStr) (stores : List (ℕ × Char))
    (h : HoldsString (written b.mem stores) (b.str.1 ++ s.1))
    (hlt : b.str.1.length + s.1.length < size) : StrBuf size where
  mem := written b.mem stores
  str := ⟨b.str.1 ++ s.1, by
    rw [List.mem_append, not_or]
    exact ⟨b.str.2, s.2⟩⟩
  holds := h
  fits := by rwa [List.length_append]

theorem appendAll_inside_iff {size : ℕ} (b : StrBuf size) (strs : List CStr) :
    (∀ p ∈ (appendAll size b.mem strs).stores, p.1 < size) ↔
      NeverExact size b.str.1.length strs := by
  induction strs generalizing b with
  | nil => simp [appendAll, NeverExact]
  | cons s rest ih =>
    have hspec := valStrcat_spec b s
    simp only at hspec
    rw [appendAll, NeverExact]
    split at hspec
    · rename_i hle
      obtain ⟨stores, hin, hr, hholds⟩ := hspec
      have hpanics : ¬ (valStrcat b.mem s size).panics = true := by simp [hr]
      rw [if_neg hpanics]
      have hfirst : (∀ p ∈ (valStrcat b.mem s size).stores, p.1 < size) ↔
          b.str.1.length + s.1.length ≠ size := by
        rw [hr]
        simp only [List.mem_append, List.mem_singleton, or_imp, forall_and, forall_eq,
          List.length_append]
        exact ⟨fun h => Nat.ne_of_lt h.2, fun h => ⟨hin, by omega⟩⟩
      simp only [List.mem_append, or_imp, forall_and]
      rw [hfirst]
      refine and_congr_right fun hne => ?_
      have hlt : b.str.1.length + s.1.length < size := by omega
      have hrest := ih (b.append s _ hholds hlt)
      simp only [StrBuf.append, List.length_append] at hrest
      rw [hrest]
      exact ⟨fun h _ => h, fun h => h hlt⟩
    · rename_i hgt
      rw [if_pos hspec.1]
      exact iff_of_true hspec.2 ⟨by omega, fun h => absurd h (by omega)⟩

/-! ## 4. The name of a test -/

/-- `PRINT_LIMIT`. -/
def PRINT_LIMIT : ℕ := 80

def newline : CStr := ⟨['\n'], by decide⟩

/-- `char testname[PRINT_LIMIT] = ""`, with what is in memory behind it. -/
def testname (outside : ℕ → Char) (i : ℕ) : Char := if i < PRINT_LIMIT then NUL else outside i

/-- The appends of `val_host_test_init`. -/
def composeTestname (outside : ℕ → Char) (suite test : CStr) : Appended :=
  appendAll PRINT_LIMIT (testname outside) [suite, test, newline]

/-- The empty string at the start. -/
def emptyName (outside : ℕ → Char) : StrBuf PRINT_LIMIT where
  mem := testname outside
  str := ⟨[], by simp⟩
  holds := ⟨fun i hi => absurd hi (by simp), rfl⟩
  fits := by decide

theorem composeTestname_inside_iff (outside : ℕ → Char) (suite test : CStr) :
    (∀ p ∈ (composeTestname outside suite test).stores, p.1 < PRINT_LIMIT) ↔
      suite.1.length ≠ PRINT_LIMIT ∧
        (suite.1.length < PRINT_LIMIT →
          suite.1.length + test.1.length ≠ PRINT_LIMIT ∧
            suite.1.length + test.1.length + 1 ≠ PRINT_LIMIT) := by
  have h := appendAll_inside_iff (emptyName outside) [suite, test, newline]
  have hempty : (emptyName outside).str.1.length = 0 := rfl
  have hnewline : newline.1.length = 1 := rfl
  rw [hempty] at h
  simp only [NeverExact, Nat.zero_add, hnewline, implies_true, and_true] at h
  refine Iff.trans h ?_
  omega

/-- **When appending stays in its buffer.**  A call of `val_strcat` does exactly if the result is not
as long as the buffer; and the name of a test is composed inside its array exactly if neither the
suite name, nor it and the test name, nor these and the newline are. -/
theorem strcat_inside_iff {size : ℕ} (b : StrBuf size) (str2 : CStr) (outside : ℕ → Char)
    (suite test : CStr) :
    (AppendsInside b str2 ↔ b.str.1.length + str2.1.length ≠ size) ∧
      ((∀ p ∈ (composeTestname outside suite test).stores, p.1 < PRINT_LIMIT) ↔
        suite.1.length ≠ PRINT_LIMIT ∧
          (suite.1.length < PRINT_LIMIT →
            suite.1.length + test.1.length ≠ PRINT_LIMIT ∧
              suite.1.length + test.1.length + 1 ≠ PRINT_LIMIT)) :=
  ⟨appendsInside_iff b str2, composeTestname_inside_iff outside suite test⟩

/-- A name of 79 characters: the newline fits, and the terminator does not. -/
theorem testname_overruns :
    ¬ ∀ p ∈ (composeTestname (fun _ => NUL) ⟨List.replicate 40 's', by decide⟩
      ⟨List.replicate 39 't', by decide⟩).stores, p.1 < PRINT_LIMIT := by
  rw [composeTestname_inside_iff]
  intro h
  exact (h.2 (by decide)).2 (by decide)

end RmmAcs.Print
