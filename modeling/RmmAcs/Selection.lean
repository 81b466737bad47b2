/-
# Which tests a build runs: the range and the skipped suites of `val_host_test_dispatch`

A build may name the first and the last test it wants, `SUITE_TEST_RANGE_MIN` and `_MAX`, and a
test of a feature that is not supported is to be passed over.  Both are decided by `val_strcmp`,
which takes a proper PREFIX for an equal string, and the search for the ends of the range does not
stop at a match: it keeps the LAST test whose name is a prefix of the name it was given.

So `cmd_data_create_unknown` finds `cmd_data_create` if that test stands further down the list,
as it does in `test_list.h`, and the range starts there.
-/
import RmmAcs.Framework

namespace RmmAcs.Framework

open RmmAcs

variable (cv : CommonVal) (b : Build) (rmm : RmmSupport) (l : TestList) (fate : ℕ → Fate)

/-! ## 1. What is asked for -/

/-- Number `i` is a test of this name. -/
def Named (name : String) (i : ℕ) : Prop :=
  ∃ t : Test, l.testList[i]? = some ⟨t, true⟩ ∧ t.testName = name

/-- The suites of the features whose `feature_*_supported` is false. -/
def unsupported : List String :=
  [("planes", rmm.planes), ("mec", rmm.mec), ("device_assignment", rmm.da)].filterMap fun f =>
    if featureSupported b f.1 f.2 then none else some f.1

/-- The non-skipped tests from number `a` to number `c` inclusive, in list order, whichever is
first. -/
def fromTo (a c : ℕ) : List ℕ := due b rmm l (min a c) (max a c + 1 - min a c)

/-- The tests that got a verdict, in order. -/
def countedTests (trace : List Event) : List ℕ :=
  trace.filterMap fun
    | .enter _ => none
    | .counted i _ => some i

/-- Of tests started from the `k`-th on, those that no reset keeps from being entered. -/
def reached (k : ℕ) : List ℕ → List ℕ
  | [] => []
  | i :: is => enteredTests (entering fate k i) ++ reached (k + 1) is

/-- From power-on, across all its boots, the build runs the tests from `a` to `c` that are not
skipped, and no other: it gives each its verdict, and enters it unless a reset comes first. -/
def RunsFromTo (fuel : ℕ) (m : Machine) (a c : ℕ) : Prop :=
  ∃ m', boots cv b rmm l fate fuel (valHostTestDispatch cv b rmm l fate m) = some m' ∧
    countedTests m'.trace = countedTests m.trace ++ fromTo b rmm l a c ∧
    enteredTests m'.trace = enteredTests m.trace ++ reached fate m.started (fromTo b rmm l a c)

/-- A test is skipped just if its sub-suite IS the suite of an unsupported feature. -/
def SkipsExactly : Prop :=
  ∀ t ∈ l.tests, skipped b rmm ⟨t, true⟩ = true ↔ t.subSuiteName ∈ unsupported b rmm

/-! ## 2. What the prefixes allow -/

/-- The numbers of the tests whose names are prefixes of `name`. -/
def prefixNamed (name : String) : Set ℕ :=
  {i | ∃ t : Test, l.testList[i]? = some ⟨t, true⟩ ∧ t.testName.toList <+: name.toList}

/-- Of the tests to run, the same lie between `a` and `c` as between the last tests whose names
are prefixes of `lo` and of `hi`. -/
def RangeKept (lo hi : String) (a c : ℕ) : Prop :=
  ∀ a' c', IsGreatest (prefixNamed l lo) a' → IsGreatest (prefixNamed l hi) c' →
    ∀ (i : ℕ) (t : Test), l.testList[i]? = some ⟨t, true⟩ → t.subSuiteName ∉ unsupported b rmm →
      (i ∈ Set.uIcc a c ↔ i ∈ Set.uIcc a' c')

/-- No sub-suite has a proper prefix of an unsupported feature's suite for a name. -/
def SubSuitesApart : Prop :=
  ∀ t ∈ l.tests, ∀ f ∈ unsupported b rmm,
    t.subSuiteName.toList <+: f.toList → t.subSuiteName = f

variable {cv} {b} {rmm} {l}

/-! ## 3. Skipping -/

theorem mem_unsupported {f : String} : f ∈ unsupported b rmm ↔
    (f = "planes" ∧ featureSupported b "planes" rmm.planes = false) ∨
    (f = "mec" ∧ featureSupported b "mec" rmm.mec = false) ∨
    (f = "device_assignment" ∧ featureSupported b "device_assignment" rmm.da = false) := by
  simp only [unsupported, List.mem_filterMap, List.mem_cons, List.not_mem_nil, or_false,
    Option.ite_none_left_eq_some, Bool.not_eq_true, Option.some.injEq, exists_eq_or_imp,
    exists_eq_left]
  simp only [and_comm, eq_comm (b := f)]

/-- **What the loop skips**: the sub-suites that are PREFIXES. -/
theorem skipped_iff {t : Test} : skipped b rmm ⟨t, true⟩ = true ↔
    ∃ f ∈ unsupported b rmm, t.subSuiteName.toList <+: f.toList := by
  simp only [skipped, Bool.or_eq_true, Bool.and_eq_true, Bool.not_eq_true', beq_iff_eq,
    valStrcmp_eq_zero_iff, mem_unsupported]
  constructor
  · rintro ((⟨hf, hp⟩ | ⟨hf, hp⟩) | ⟨hf, hp⟩)
    · exact ⟨"planes", .inl ⟨rfl, hf⟩, hp⟩
    · exact ⟨"mec", .inr (.inl ⟨rfl, hf⟩), hp⟩
    · exact ⟨"device_assignment", .inr (.inr ⟨rfl, hf⟩), hp⟩
  · rintro ⟨f, ⟨rfl, hf⟩ | ⟨rfl, hf⟩ | ⟨rfl, hf⟩, hp⟩
    · exact .inl (.inl ⟨hf, hp⟩)
    · exact .inl (.inr ⟨hf, hp⟩)
    · exact .inr ⟨hf, hp⟩

/-- No feature's suite is a prefix of another's. -/
theorem eq_of_prefix_of_mem_unsupported {f g : String} (hf : f ∈ unsupported b rmm)
    (hg : g ∈ unsupported b rmm) (hp : f.toList <+: g.toList) : f = g := by
  rcases mem_unsupported.mp hf with ⟨rfl, _⟩ | ⟨rfl, _⟩ | ⟨rfl, _⟩ <;>
    rcases mem_unsupported.mp hg with ⟨rfl, _⟩ | ⟨rfl, _⟩ | ⟨rfl, _⟩ <;>
    first | rfl | exact absurd hp (by decide)

theorem skipsExactly_iff : SkipsExactly b rmm l ↔ SubSuitesApart b rmm l := by
  constructor
  · intro h t ht f hf hp
    have hmem : t.subSuiteName ∈ unsupported b rmm := (h t ht).mp (skipped_iff.mpr ⟨f, hf, hp⟩)
    exact eq_of_prefix_of_mem_unsupported hmem hf hp
  · intro h t ht
    rw [skipped_iff]
    constructor
    · rintro ⟨f, hf, hp⟩
      rw [h t ht f hf hp]
      exact hf
    · intro hmem
      exact ⟨_, hmem, List.prefix_rfl⟩

/-! ## 4. The range -/

theorem TestList.mem_of_getElem {i : ℕ} {t : Test} (h : l.testList[i]? = some ⟨t, true⟩) :
    1 ≤ i ∧ i ≤ l.tests.length ∧ t ∈ l.tests := by
  have hmem := List.mem_of_getElem? h
  have ht : t ∈ l.tests := by
    simpa [TestList.testList, TestDb.null] using hmem
  have hlen : i < l.testList.length := (List.getElem?_eq_some_iff.mp h).1
  have htotal := l.totalTests_eq
  rw [TestList.totalTests] at htotal
  refine ⟨?_, ?_, ht⟩
  · rcases Nat.eq_zero_or_pos i with rfl | hpos
    · simp [TestList.testList, TestDb.null] at h
    · exact hpos
  · rcases Nat.lt_or_ge l.tests.length i with hgt | hle
    · obtain rfl : i = l.tests.length + 1 := by omega
      rw [TestList.getElem_last] at h
      simp [TestDb.null] at h
    · exact hle

theorem isDue_iff {i : ℕ} : isDue b rmm l i = true ↔
    ∃ t : Test, l.testList[i]? = some ⟨t, true⟩ ∧ skipped b rmm ⟨t, true⟩ = false := by
  rw [isDue]
  cases h : l.testList[i]? with
  | none => simp
  | some t =>
    obtain ⟨t, hostFn⟩ := t
    cases hostFn <;> simp

/-- **One of the two searches**: the last test whose name is a prefix. -/
theorem findTest_isGreatest {name : String} {i : ℕ} (h : i ∈ prefixNamed l name) :
    IsGreatest (prefixNamed l name) (findTest l name) := by
  have hmem (j : ℕ) : j ∈ searchHits l name ↔ j ∈ prefixNamed l name := by
    rw [mem_searchHits]
    refine exists_congr fun t => and_congr_right fun ht => ?_
    obtain ⟨h1, h2, -⟩ := TestList.mem_of_getElem ht
    simp [h1, h2, valStrcmp_eq_zero_iff]
  have hne : searchHits l name ≠ [] := List.ne_nil_of_mem ((hmem i).mpr h)
  have hlast : findTest l name = (searchHits l name).getLast hne := by
    rw [findTest_eq, List.getLastD_eq_getLast?, List.getLast?_eq_some_getLast hne,
      Option.getD_some]
  have hsorted : (searchHits l name).Pairwise (· ≤ ·) := List.pairwise_le_range'.filter _
  rw [hlast]
  refine ⟨(hmem _).mp (List.getLast_mem hne), ?_⟩
  intro j hj
  exact hsorted.rel_getLast ((hmem j).mpr hj)

theorem Named.mem_prefixNamed {name : String} {i : ℕ} (h : Named l name i) :
    i ∈ prefixNamed l name := by
  obtain ⟨t, ht, rfl⟩ := h
  exact ⟨t, ht, List.prefix_rfl⟩

theorem mem_fromTo {a c i : ℕ} :
    i ∈ fromTo b rmm l a c ↔ i ∈ Set.uIcc a c ∧ isDue b rmm l i = true := by
  rw [fromTo, due, List.mem_filter, List.mem_range'_1, Set.mem_uIcc]
  refine and_congr_left fun _ => ?_
  omega

theorem pairwise_fromTo (a c : ℕ) : (fromTo b rmm l a c).Pairwise (· < ·) :=
  (List.pairwise_lt_range' 1 Nat.one_pos).filter _

/-- Two ranges hold the same tests in the same order just if they hold the same tests. -/
theorem fromTo_eq_iff {a c a' c' : ℕ} : fromTo b rmm l a c = fromTo b rmm l a' c' ↔
    ∀ i, isDue b rmm l i = true → (i ∈ Set.uIcc a c ↔ i ∈ Set.uIcc a' c') := by
  constructor
  · intro h i hi
    have hmem : i ∈ fromTo b rmm l a c ↔ i ∈ fromTo b rmm l a' c' := by rw [h]
    simpa [mem_fromTo, hi] using hmem
  · intro h
    refine (pairwise_fromTo a c).eq_of_mem_iff (pairwise_fromTo a' c') fun i => ?_
    rw [mem_fromTo, mem_fromTo]
    exact and_congr_left (h i)

/-- **When the range is the one asked for.**  The searches find the last prefixes, which differ
from the tests named if a later name is a prefix. -/
theorem fromTo_eq_iff_rangeKept (hskip : SkipsExactly b rmm l) {lo hi : String} {a c : ℕ}
    (ha : Named l lo a) (hc : Named l hi c) :
    fromTo b rmm l (findTest l lo) (findTest l hi) = fromTo b rmm l a c ↔
      RangeKept b rmm l lo hi a c := by
  have hlo := findTest_isGreatest ha.mem_prefixNamed
  have hhi := findTest_isGreatest hc.mem_prefixNamed
  have hdue (i : ℕ) : isDue b rmm l i = true ↔
      ∃ t : Test, l.testList[i]? = some ⟨t, true⟩ ∧ t.subSuiteName ∉ unsupported b rmm := by
    rw [isDue_iff]
    refine exists_congr fun t => and_congr_right fun ht => ?_
    rw [← hskip t (TestList.mem_of_getElem ht).2.2, Bool.not_eq_true]
  rw [eq_comm, fromTo_eq_iff]
  constructor
  · intro h a' c' ha' hc' i t ht hsub
    rw [ha'.unique hlo, hc'.unique hhi]
    exact h i ((hdue i).mpr ⟨t, ht, hsub⟩)
  · intro h i hi
    obtain ⟨t, ht, hsub⟩ := (hdue i).mp hi
    exact h _ _ hlo hhi i t ht hsub

/-- It is enough that no later name is a prefix of either. -/
theorem rangeKept_of_isGreatest {lo hi : String} {a c : ℕ} (ha : IsGreatest (prefixNamed l lo) a)
    (hc : IsGreatest (prefixNamed l hi) c) : RangeKept b rmm l lo hi a c := by
  intro a' c' ha' hc' i t _ _
  rw [ha'.unique ha, hc'.unique hc]

/-- With every feature supported it is also necessary. -/
theorem rangeKept_iff (hall : unsupported b rmm = []) {lo hi : String} {a c : ℕ}
    (ha : Named l lo a) (hc : Named l hi c) :
    RangeKept b rmm l lo hi a c ↔
      IsGreatest (prefixNamed l lo) a ∧ IsGreatest (prefixNamed l hi) c := by
  have hlo := findTest_isGreatest ha.mem_prefixNamed
  have hhi := findTest_isGreatest hc.mem_prefixNamed
  have hale : a ≤ findTest l lo := hlo.2 ha.mem_prefixNamed
  have hcle : c ≤ findTest l hi := hhi.2 hc.mem_prefixNamed
  constructor
  · intro h
    have hsame (i : ℕ) (t : Test) (ht : l.testList[i]? = some ⟨t, true⟩) :
        i ∈ Set.uIcc a c ↔ i ∈ Set.uIcc (findTest l lo) (findTest l hi) :=
      h _ _ hlo hhi i t ht (by simp [hall])
    -- the ends of either range lie in the other, and the searches never move one down
    obtain ⟨ta, hta, -⟩ := ha
    obtain ⟨tc, htc, -⟩ := hc
    obtain ⟨ta', hta', -⟩ := hlo.1
    obtain ⟨tc', htc', -⟩ := hhi.1
    have h1 := (hsame a ta hta).mp Set.left_mem_uIcc
    have h2 := (hsame c tc htc).mp Set.right_mem_uIcc
    have h3 := (hsame _ ta' hta').mpr Set.left_mem_uIcc
    have h4 := (hsame _ tc' htc').mpr Set.right_mem_uIcc
    rw [Set.mem_uIcc] at h1 h2 h3 h4
    obtain ⟨hea, hec⟩ : findTest l lo = a ∧ findTest l hi = c := by omega
    exact ⟨hea ▸ hlo, hec ▸ hhi⟩
  · rintro ⟨hga, hgc⟩
    exact rangeKept_of_isGreatest hga hgc

/-! ## 5. The run -/

theorem enteredTests_once (k t : ℕ) (is : List ℕ) :
    enteredTests (once fate k t is) = reached fate k is := by
  induction is generalizing k t with
  | nil => rfl
  | cons i is ih =>
    rw [reached, ← ih (k + 1) (t + 1), once]
    simp [enteredTests]

theorem countedTests_once (k t : ℕ) (is : List ℕ) : countedTests (once fate k t is) = is := by
  induction is generalizing k t with
  | nil => rfl
  | cons i is ih =>
    have hentering : countedTests (entering fate k i) = [] := by
      unfold entering
      split <;> rfl
    have hcons : countedTests (once fate k t (i :: is)) = countedTests (entering fate k i) ++
        i :: countedTests (once fate (k + 1) (t + 1) is) := by
      simp [once, countedTests]
    rw [hcons, hentering, ih, List.nil_append]

/-- **What the build runs**: the range between the two searches. -/
theorem runs_found (hs : cv.Spec l) {lo hi : String} {a c : ℕ}
    (hrange : b.suiteTestRange = some (lo, hi)) (ha : Named l lo a) (hc : Named l hi c)
    {m : Machine} (fuel : ℕ) (hpower : cv.isRebootRun m.nvm.testProgress = false)
    (hfuel : l.tests.length + 2 ≤ fuel) :
    RunsFromTo cv b rmm l fate fuel m (findTest l lo) (findTest l hi) := by
  have hfound (name : String) (i : ℕ) (h : Named l name i) :
      1 ≤ findTest l name ∧ findTest l name ≤ l.tests.length := by
    obtain ⟨t, ht, -⟩ := (findTest_isGreatest h.mem_prefixNamed).1
    obtain ⟨h1, h2, -⟩ := TestList.mem_of_getElem ht
    exact ⟨h1, h2⟩
  obtain ⟨hlo1, hlo2⟩ := hfound lo a ha
  obtain ⟨hhi1, hhi2⟩ := hfound hi c hc
  have hends : testRange cv b l =
      (min (findTest l lo) (findTest l hi), max (findTest l lo) (findTest l hi)) := by
    simp only [testRange, hrange, hs.sorts]
  have hrounds : max (findTest l lo) (findTest l hi) + 1 - min (findTest l lo) (findTest l hi) ≤
      fuel := by omega
  obtain ⟨m', hb, htrace, -⟩ := boots_power_on b rmm fate hs hends (by omega) (by omega)
    (by omega) hpower hrounds
  refine ⟨m', hb, ?_, ?_⟩
  · rw [htrace, countedTests, List.filterMap_append]
    exact congrArg _ (countedTests_once fate m.started 0 _)
  · rw [htrace, enteredTests, List.filterMap_append]
    exact congrArg _ (enteredTests_once fate m.started 0 _)

/-- A build runs one sequence of tests. -/
theorem RunsFromTo.unique {fuel : ℕ} {m : Machine} {a c a' c' : ℕ}
    (h : RunsFromTo cv b rmm l fate fuel m a c) (h' : RunsFromTo cv b rmm l fate fuel m a' c') :
    fromTo b rmm l a c = fromTo b rmm l a' c' := by
  obtain ⟨m₁, hb₁, htr₁, -⟩ := h
  obtain ⟨m₂, hb₂, htr₂, -⟩ := h'
  obtain rfl : m₁ = m₂ := Option.some.inj (hb₁.symm.trans hb₂)
  exact List.append_cancel_left (htr₁.symm.trans htr₂)

/-- **When a build runs the tests it names.**  Whatever the tests do to the platform: the build
runs exactly the tests from the one to the other that are not skipped, and skips exactly the
suites of the unsupported features, IF AND ONLY IF no sub-suite's name is a proper prefix of such
a suite, and the last tests whose names are prefixes of the two given lie as those two do.  With
every feature supported, that is: the two ARE the last tests whose names are prefixes. -/
theorem selection_exact_iff (hs : cv.Spec l) {lo hi : String} {a c : ℕ}
    (hrange : b.suiteTestRange = some (lo, hi)) (ha : Named l lo a) (hc : Named l hi c)
    {m : Machine} (fuel : ℕ) (hpower : cv.isRebootRun m.nvm.testProgress = false)
    (hfuel : l.tests.length + 2 ≤ fuel) :
    (RunsFromTo cv b rmm l fate fuel m a c ∧ SkipsExactly b rmm l ↔
      RangeKept b rmm l lo hi a c ∧ SubSuitesApart b rmm l) ∧
    (unsupported b rmm = [] → (RangeKept b rmm l lo hi a c ∧ SubSuitesApart b rmm l ↔
      IsGreatest (prefixNamed l lo) a ∧ IsGreatest (prefixNamed l hi) c)) := by
  refine ⟨?_, fun hall => ?_⟩
  swap
  · have hapart : SubSuitesApart b rmm l := by simp [SubSuitesApart, hall]
    rw [and_iff_left hapart, rangeKept_iff hall ha hc]
  have hruns : RunsFromTo cv b rmm l fate fuel m (findTest l lo) (findTest l hi) :=
    runs_found fate hs hrange ha hc fuel hpower hfuel
  rw [← skipsExactly_iff]
  refine and_congr_left fun hskip => ?_
  rw [← fromTo_eq_iff_rangeKept hskip ha hc]
  constructor
  · intro h
    exact hruns.unique fate h
  · intro heq
    obtain ⟨m', hb, hcounted, hentered⟩ := hruns
    exact ⟨m', hb, heq ▸ hcounted, heq ▸ hentered⟩

/-- Five tests, the range from the second to the last, no MEC. -/
theorem selection_exact_sample :
    RunsFromTo sampleVal sampleBuild ⟨true, false, true⟩ sampleList (fun _ => .returns false 2 true)
        7 ⟨⟨77, 88, 99, ⟨5, 6, 7, 8⟩⟩, 0, 0, []⟩ 2 5 ∧
      SkipsExactly sampleBuild ⟨true, false, true⟩ sampleList := by
  have hlo : Named sampleList "cmd_system_reset" 2 := ⟨_, rfl, rfl⟩
  have hhi : Named sampleList "cmd_host_call" 5 := ⟨_, rfl, rfl⟩
  have hfound : findTest sampleList "cmd_system_reset" = 2 ∧
      findTest sampleList "cmd_host_call" = 5 := by decide
  have hkept : RangeKept sampleBuild ⟨true, false, true⟩ sampleList
      "cmd_system_reset" "cmd_host_call" 2 5 :=
    rangeKept_of_isGreatest (hfound.1 ▸ findTest_isGreatest hlo.mem_prefixNamed)
      (hfound.2 ▸ findTest_isGreatest hhi.mem_prefixNamed)
  have hapart : SubSuitesApart sampleBuild ⟨true, false, true⟩ sampleList := by
    unfold SubSuitesApart
    decide
  exact (selection_exact_iff (fun _ => .returns false 2 true) (sampleVal_spec sampleList) rfl
    hlo hhi 7 (by decide) (by decide)).1.mpr ⟨hkept, hapart⟩

/-- Two tests of `test_list.h`, in the order they have there. -/
def shadowedList : TestList where
  tests := [⟨"command", "cmd_data_create_unknown"⟩, ⟨"command", "cmd_data_create"⟩]
  fits := by decide

def shadowedBuild : Build :=
  ⟨"all", some ("cmd_data_create_unknown", "cmd_data_create_unknown"), true, true⟩

/-- **The wrong test.**  Asked for `cmd_data_create_unknown` alone, the build runs
`cmd_data_create` alone. -/
theorem range_runs_other_test :
    (shadowedList.tests.map Test.testName).Nodup ∧ sampleVal.Spec shadowedList ∧
      shadowedBuild.suiteTestRange = some ("cmd_data_create_unknown", "cmd_data_create_unknown") ∧
      Named shadowedList "cmd_data_create_unknown" 1 ∧
      sampleVal.isRebootRun 99 = false ∧
      (boots sampleVal shadowedBuild ⟨true, true, true⟩ shadowedList (fun _ => .returns false 2 true)
        4 (valHostTestDispatch sampleVal shadowedBuild ⟨true, true, true⟩ shadowedList
          (fun _ => .returns false 2 true) ⟨⟨77, 88, 99, ⟨5, 6, 7, 8⟩⟩, 0, 0, []⟩)).map
        (fun m => enteredTests m.trace) = some [2] ∧
      ¬ RunsFromTo sampleVal shadowedBuild ⟨true, true, true⟩ shadowedList
        (fun _ => .returns false 2 true) 4 ⟨⟨77, 88, 99, ⟨5, 6, 7, 8⟩⟩, 0, 0, []⟩ 1 1 := by
  have hruns : (boots sampleVal shadowedBuild ⟨true, true, true⟩ shadowedList
      (fun _ => .returns false 2 true) 4
      (valHostTestDispatch sampleVal shadowedBuild ⟨true, true, true⟩ shadowedList
        (fun _ => .returns false 2 true) ⟨⟨77, 88, 99, ⟨5, 6, 7, 8⟩⟩, 0, 0, []⟩)).map
      (fun m => enteredTests m.trace) = some [2] := by decide
  have hasked : fromTo shadowedBuild ⟨true, true, true⟩ shadowedList 1 1 = [1] := by decide
  refine ⟨by decide, sampleVal_spec _, rfl, ⟨_, rfl, rfl⟩, by decide, hruns, ?_⟩
  rintro ⟨m', hb, -, hentered⟩
  rw [hb, Option.map_some, hentered, hasked] at hruns
  exact absurd hruns (by decide)

end RmmAcs.Framework
