/-
# Test dispatch across reboots: `val_host_framework.c`

The primary CPU runs the tests of `test_list` one after another.  A test may reset the platform,
on purpose or by the watchdog; the next boot then finds in non-volatile memory which test was
running, gives it its verdict WITHOUT running it again, and goes on with the next one.

`valHostTestDispatch` is one boot, from the reset vector to the end of the list or to the next
reset; `boots` is the sequence of boots.  A reset strikes while the watchdog is armed, at any
instant of a test: before its host function is called (`val_host_test_init` clears the tracker
and the heap with the watchdog running) or after.  What the boot after it can see of that instant
is the progress word, which the test may or may not have changed (`val_host_set_reboot_flag`);
it cannot see whether the host function was called, so a test the reset took before that call
gets its verdict without having run.  Which tests reset the platform, and what the others
return, is the parameter `fate`, indexed by the number of tests started so far.

The common layer (`is_reboot_run`, `val_reset_test_info_fields`, `val_update_regression_report`
and the status word) is outside this repository and is the parameter `CommonVal`; `CommonVal.Spec`
is what is assumed of it.  Accesses to non-volatile memory succeed.  `val_host_test_init` also
resets the tracker and the heap, which no word here depends on.
-/
import RmmAcs.Libc

namespace RmmAcs.Framework

open RmmAcs

/-! ## 1. Data -/

/-- The four counters of `regre_report_t`. -/
structure RegreReport where
  totalPass : UInt32
  totalFail : UInt32
  totalSkip : UInt32
  totalError : UInt32
deriving DecidableEq, Repr

def RegreReport.zero : RegreReport := ⟨0, 0, 0, 0⟩

/-- pass + fail + skip + error. -/
def RegreReport.total (r : RegreReport) : ℕ :=
  r.totalPass.toNat + r.totalFail.toNat + r.totalSkip.toNat + r.totalError.toNat

/-- The seven words of non-volatile memory. -/
structure Nvm where
  curTestNum : ℕ
  endTestNum : ℕ
  testProgress : UInt32
  report : RegreReport
deriving DecidableEq, Repr

/-- `test_info_t`. -/
structure TestInfo where
  testNum : ℕ
  endTestNum : ℕ
  testProgress : UInt32
deriving DecidableEq, Repr

/-- What `test_list.h` says of a test: `HOST_TEST_ONLY` gives every one of them a host
function. -/
structure Test where
  subSuiteName : String
  testName : String
deriving DecidableEq, Repr

/-- `test_db_t`; `hostFn` is whether the pointer is non-null. -/
structure TestDb extends Test where
  hostFn : Bool
deriving DecidableEq, Repr

def TestDb.null : TestDb := ⟨⟨"", ""⟩, false⟩

/-- The tests of a build; `total_tests` is a `uint32_t`. -/
structure TestList where
  tests : List Test
  fits : tests.length + 2 < 2 ^ 32

/-- `test_list`: a null entry before the tests and one after. -/
def TestList.testList (l : TestList) : List TestDb :=
  TestDb.null :: (l.tests.map fun t => ⟨t, true⟩) ++ [TestDb.null]

def TestList.totalTests (l : TestList) : ℕ := l.testList.length

/-- The definitions a build is made with: `SUITE`, `SUITE_TEST_RANGE_MIN` and `_MAX` if a range
is given, `RMM_V_1_1`, `TEST_COMBINE`. -/
structure Build where
  suite : String
  suiteTestRange : Option (String × String)
  rmmV11 : Bool
  testCombine : Bool
deriving DecidableEq, Repr

/-- Whether the RMM supports planes, MEC and device assignment. -/
structure RmmSupport where
  planes : Bool
  mec : Bool
  da : Bool
deriving DecidableEq, Repr

/-- The common layer. -/
structure CommonVal where
  testStart : UInt32
  testEnd : UInt32
  testFail : UInt32
  testRebooting : UInt32
  invalidTestNum : ℕ
  statusInvalid : UInt32
  statusError : UInt32
  isRebootRun : UInt32 → Bool
  resetTestInfoFields : TestInfo → TestInfo
  handleRebootResult : UInt32 → UInt32 → UInt32
  reportStatus : UInt32 → UInt32
  updateRegressionReport : UInt32 → RegreReport → RegreReport
  sortIndices : ℕ × ℕ → ℕ × ℕ

/-- What is assumed of the common layer. -/
structure CommonVal.Spec (cv : CommonVal) (l : TestList) : Prop where
  /-- the four progress values and no other -/
  isRebootRun : ∀ w, cv.isRebootRun w = true ↔
    w = cv.testStart ∨ w = cv.testEnd ∨ w = cv.testFail ∨ w = cv.testRebooting
  resets : ∀ i, (cv.resetTestInfoFields i).testNum = cv.invalidTestNum
  /-- no test has the invalid number -/
  invalid : l.totalTests ≤ cv.invalidTestNum
  /-- exactly one counter goes up, by one -/
  updates : ∀ r p, cv.updateRegressionReport r p = { p with totalPass := p.totalPass + 1 } ∨
    cv.updateRegressionReport r p = { p with totalFail := p.totalFail + 1 } ∨
    cv.updateRegressionReport r p = { p with totalSkip := p.totalSkip + 1 } ∨
    cv.updateRegressionReport r p = { p with totalError := p.totalError + 1 }
  sorts : ∀ a b, cv.sortIndices (a, b) = (min a b, max a b)

/-- What becomes of a test once the watchdog is armed.  `rebootFlag`: it called
`val_host_set_reboot_flag`. -/
inductive Fate where
  /-- the host function returns and leaves `status`; `postamble`: the cleanup succeeds -/
  | returns (rebootFlag : Bool) (status : UInt32) (postamble : Bool)
  /-- the platform resets after `val_watchdog_enable` and before `fn_ptr()` -/
  | resetInInit
  /-- the platform resets after `fn_ptr()` was called and before the watchdog is disarmed -/
  | reset (rebootFlag : Bool)
deriving DecidableEq, Repr

/-- What the world sees of a run: a host function entered, a verdict counted (with the new sum
of the counters). -/
inductive Event where
  | enter (testNum : ℕ)
  | counted (testNum total : ℕ)
deriving DecidableEq, Repr

/-- Non-volatile memory, the status word, how many tests were started, and what has been
seen. -/
structure Machine where
  nvm : Nvm
  status : UInt32
  started : ℕ
  trace : List Event
deriving DecidableEq, Repr

/-- How a boot ends. -/
inductive Outcome where
  | standby (m : Machine)
  | reset (m : Machine)
  /-- a read past the end of `test_list` -/
  | outOfBounds
deriving DecidableEq, Repr

/-! ## 2. The code -/

variable (cv : CommonVal) (b : Build) (rmm : RmmSupport) (l : TestList) (fate : ℕ → Fate)

def valHostGetLastRunTestInfo (nvm : Nvm) : TestInfo × Nvm :=
  let testInfo : TestInfo := ⟨nvm.curTestNum, nvm.endTestNum, nvm.testProgress⟩
  if cv.isRebootRun testInfo.testProgress then (testInfo, nvm)
  else
    let testInfo := cv.resetTestInfoFields testInfo
    (testInfo, ⟨testInfo.testNum, testInfo.endTestNum, testInfo.testProgress, .zero⟩)

/-- One of the two searches by name: the LAST test from number 1 on whose name compares equal,
zero if there is none. -/
def findTest (name : String) : ℕ :=
  ((List.range' 1 (l.totalTests - 2)).filter fun i =>
    match l.testList[i]? with
    | some t => valStrcmp t.testName.toList name.toList == 0
    | none => false).getLastD 0

/-- `test_num_start` and `test_num_end` of a first boot. -/
def testRange : ℕ × ℕ :=
  match b.suiteTestRange with
  | some (lo, hi) => cv.sortIndices (findTest l lo, findTest l hi)
  | none => (1, l.totalTests)

def featureSupported (suite : String) (supports : Bool) : Bool :=
  b.rmmV11 && (valStrcmp b.suite.toList "all".toList == 0 ||
    valStrcmp b.suite.toList suite.toList == 0) && supports

/-- The three tests that make the loop `continue`. -/
def skipped (t : TestDb) : Bool :=
  (!featureSupported b "planes" rmm.planes && valStrcmp t.subSuiteName.toList "planes".toList == 0) ||
  (!featureSupported b "mec" rmm.mec && valStrcmp t.subSuiteName.toList "mec".toList == 0) ||
  (!featureSupported b "device_assignment" rmm.da &&
    valStrcmp t.subSuiteName.toList "device_assignment".toList == 0)

/-- `val_host_test_init`, up to the arming of the watchdog. -/
def valHostTestInit (m : Machine) : Machine :=
  { m with status := cv.statusInvalid, nvm.testProgress := cv.testStart }

def valHostSetRebootFlag (m : Machine) : Machine :=
  { m with nvm.testProgress := cv.testRebooting }

/-- `val_host_test_exit`. -/
def valHostTestExit (postamble : Bool) (m : Machine) : Machine :=
  { m with status := if b.testCombine && !postamble then cv.statusError else m.status
           nvm.testProgress := cv.testEnd }

/-- The verdict of test `i`: the counters are read, one is raised, and they are written back. -/
def countResult (i : ℕ) (m : Machine) : Machine :=
  let report := cv.updateRegressionReport (cv.reportStatus m.status) m.nvm.report
  { m with nvm.report := report, trace := m.trace ++ [.counted i report.total] }

/-- The call `fn_ptr()` is reached. -/
def enterHostFn (i : ℕ) (m : Machine) : Machine := { m with trace := m.trace ++ [.enter i] }

/-- A fresh run of test `i`, from the write of its number to the end of `val_host_test_exit`,
or to the reset. -/
def runTest (i : ℕ) (m : Machine) : Machine × Bool :=
  let m := valHostTestInit cv { m with nvm.curTestNum := i }
  let f := fate m.started
  let m := { m with started := m.started + 1 }
  match f with
  | .resetInInit => (m, true)
  | .reset flag =>
    let m := enterHostFn i m
    (if flag then valHostSetRebootFlag cv m else m, true)
  | .returns flag status postamble =>
    let m := enterHostFn i m
    let m := if flag then valHostSetRebootFlag cv m else m
    (valHostTestExit cv b postamble { m with status := status }, false)

/-- The loop `for (i = test_num_start; i <= test_num_end; i++)`, with `n` rounds to go. -/
def dispatchLoop (progress : UInt32) : ℕ → ℕ → Bool → Machine → Outcome
  | 0, _, _, m => .standby m
  | n + 1, i, rebootRun, m =>
    match l.testList[i]? with
    | none => .outOfBounds
    | some t =>
      if !t.hostFn then .standby m
      else if skipped b rmm t then dispatchLoop progress n (i + 1) rebootRun m
      else if rebootRun then
        let m := { m with status := cv.handleRebootResult progress m.status }
        dispatchLoop progress n (i + 1) false (countResult cv i m)
      else
        match runTest cv b fate i m with
        | (m, true) => .reset m
        | (m, false) => dispatchLoop progress n (i + 1) false (countResult cv i m)

/-- `val_host_test_dispatch(true)`. -/
def valHostTestDispatch (m : Machine) : Outcome :=
  let (testInfo, nvm) := valHostGetLastRunTestInfo cv m.nvm
  if testInfo.testNum = cv.invalidTestNum then
    let (start, stop) := testRange cv b l
    dispatchLoop cv b rmm l fate testInfo.testProgress (stop + 1 - start) start false
      { m with nvm := { nvm with endTestNum := stop } }
  else
    dispatchLoop cv b rmm l fate testInfo.testProgress
      (testInfo.endTestNum + 1 - testInfo.testNum) testInfo.testNum true { m with nvm := nvm }

/-- What follows a boot: after a reset the next one, at most `fuel` of them. -/
def boots : ℕ → Outcome → Option Machine
  | _, .standby m => some m
  | _, .outOfBounds => none
  | 0, .reset _ => none
  | fuel + 1, .reset m => boots fuel (valHostTestDispatch cv b rmm l fate m)

/-! ## 3. The tests of a range -/

/-- Number `i` is a test that is not skipped. -/
def isDue (i : ℕ) : Bool :=
  match l.testList[i]? with
  | some t => t.hostFn && !skipped b rmm t
  | none => false

/-- The non-skipped tests among the `n` numbers from `i` on, in list order. -/
def due (i n : ℕ) : List ℕ := (List.range' i n).filter (isDue b rmm l)

/-- The non-skipped tests of the range. -/
def testsOfRange : List ℕ :=
  due b rmm l (testRange cv b l).1 ((testRange cv b l).2 + 1 - (testRange cv b l).1)

/-- If a range is given, each of its names is found. -/
def RangeFound : Prop :=
  ∀ lo hi, b.suiteTestRange = some (lo, hi) → findTest l lo ≠ 0 ∧ findTest l hi ≠ 0

/-- What is seen of the test started `k`-th before its verdict: it is entered, unless the reset
comes before that. -/
def entering (k i : ℕ) : List Event :=
  match fate k with
  | .resetInInit => []
  | _ => [.enter i]

/-- Every test entered at most once and counted once, in order, the tests started from the `k`-th
on and the counters going up from `t` one at a time. -/
def once (k t : ℕ) : List ℕ → List Event
  | [] => []
  | i :: is => entering fate k i ++ .counted i (t + 1) :: once (k + 1) (t + 1) is

/-- The tests entered, in order. -/
def enteredTests (trace : List Event) : List ℕ :=
  trace.filterMap fun
    | .enter i => some i
    | .counted _ _ => none

theorem due_succ (i n : ℕ) : due b rmm l i (n + 1) =
    if isDue b rmm l i then i :: due b rmm l (i + 1) n else due b rmm l (i + 1) n := by
  rw [due, List.range'_succ, List.filter_cons]
  rfl

theorem TestList.totalTests_eq : l.totalTests = l.tests.length + 2 := by
  simp [TestList.totalTests, TestList.testList]

/-- Number `i` between the two null entries. -/
theorem TestList.getElem_test {i : ℕ} (h : 1 ≤ i) (hi : i ≤ l.tests.length) :
    ∃ t, l.testList[i]? = some ⟨t, true⟩ := by
  obtain ⟨k, rfl⟩ : ∃ k, i = k + 1 := ⟨i - 1, by omega⟩
  refine ⟨l.tests[k], ?_⟩
  rw [TestList.testList, List.cons_append, List.getElem?_cons_succ,
    List.getElem?_append_left (by simpa using hi)]
  simp

/-- The null entry behind the tests. -/
theorem TestList.getElem_last : l.testList[l.tests.length + 1]? = some TestDb.null := by
  rw [TestList.testList, List.cons_append, List.getElem?_cons_succ,
    List.getElem?_append_right (by simp)]
  simp

/-- Nothing is due behind the tests. -/
theorem due_last (n : ℕ) : due b rmm l (l.tests.length + 1) n = [] := by
  rw [due, List.filter_eq_nil_iff]
  intro i hi
  have hge : l.tests.length + 1 ≤ i := (List.mem_range'_1.mp hi).1
  rcases Nat.eq_or_lt_of_le hge with rfl | hlt
  · rw [isDue, TestList.getElem_last]
    simp [TestDb.null]
  · have hnone : l.testList[i]? = none := by
      rw [List.getElem?_eq_none_iff]
      have := l.totalTests_eq
      rw [TestList.totalTests] at this
      omega
    rw [isDue, hnone]
    simp

/-! ## 4. One round -/

variable {cv} {l}

/-- One counter raised by one raises the sum by one, short of a wrap. -/
theorem CommonVal.Spec.total_update (hs : cv.Spec l) (r : UInt32) {p : RegreReport}
    (h : p.total + 1 < 2 ^ 32) : (cv.updateRegressionReport r p).total = p.total + 1 := by
  have hadd : ∀ w : UInt32, w.toNat ≤ p.total → (w + 1).toNat = w.toNat + 1 := by
    intro w hw
    have hw1 : (w + 1).toNat = (w.toNat + 1) % 2 ^ 32 := UInt32.toNat_add _ _
    rw [hw1, Nat.mod_eq_of_lt (by omega)]
  have h1 := hadd p.totalPass (by simp only [RegreReport.total]; omega)
  have h2 := hadd p.totalFail (by simp only [RegreReport.total]; omega)
  have h3 := hadd p.totalSkip (by simp only [RegreReport.total]; omega)
  have h4 := hadd p.totalError (by simp only [RegreReport.total]; omega)
  rcases hs.updates r p with hu | hu | hu | hu <;> rw [hu] <;> simp only [RegreReport.total] <;> omega

/-- **Counting a verdict.** -/
theorem CommonVal.Spec.countResult (hs : cv.Spec l) (i : ℕ) {m : Machine}
    (h : m.nvm.report.total + 1 < 2 ^ 32) :
    (countResult cv i m).nvm.report.total = m.nvm.report.total + 1 ∧
      (countResult cv i m).trace = m.trace ++ [.counted i (m.nvm.report.total + 1)] ∧
      (countResult cv i m).nvm.endTestNum = m.nvm.endTestNum ∧
      (countResult cv i m).started = m.started := by
  have ht := hs.total_update (cv.reportStatus m.status) h
  refine ⟨ht, ?_, rfl, rfl⟩
  simp only [Framework.countResult, ht]

/-- **A fresh run of a test** enters it unless the reset comes first, leaves the counters and the
end of the range alone, and if the platform resets leaves its number and a progress value the
next boot recognises, whichever side of the call the reset is on. -/
theorem CommonVal.Spec.runTest (hs : cv.Spec l) (i : ℕ) (m : Machine) :
    (runTest cv b fate i m).1.nvm.report = m.nvm.report ∧
      (runTest cv b fate i m).1.nvm.endTestNum = m.nvm.endTestNum ∧
      (runTest cv b fate i m).1.nvm.curTestNum = i ∧
      (runTest cv b fate i m).1.trace = m.trace ++ entering fate m.started i ∧
      (runTest cv b fate i m).1.started = m.started + 1 ∧
      ((runTest cv b fate i m).2 = true →
        cv.isRebootRun (runTest cv b fate i m).1.nvm.testProgress = true) := by
  have hstart : cv.isRebootRun cv.testStart = true := (hs.isRebootRun _).mpr (.inl rfl)
  have hreboot : cv.isRebootRun cv.testRebooting = true :=
    (hs.isRebootRun _).mpr (.inr (.inr (.inr rfl)))
  simp only [Framework.runTest, valHostTestInit, entering]
  cases fate m.started with
  | resetInInit => simp [hstart]
  | reset flag => cases flag <;> simp [enterHostFn, valHostSetRebootFlag, hstart, hreboot]
  | returns flag status postamble =>
    cases flag <;> simp [enterHostFn, valHostSetRebootFlag, valHostTestExit]

/-! ## 5. The sequence of boots -/

/-- **The boot after a reset** picks the interrupted test up: it counts it and goes on. -/
theorem dispatch_after_reset (hs : cv.Spec l) {i n : ℕ} {m : Machine} {t : Test}
    (ht : l.testList[i]? = some ⟨t, true⟩) (hdue : skipped b rmm ⟨t, true⟩ = false)
    (hcur : m.nvm.curTestNum = i) (hend : m.nvm.endTestNum + 1 = i + (n + 1))
    (hrec : cv.isRebootRun m.nvm.testProgress = true) :
    valHostTestDispatch cv b rmm l fate m =
      dispatchLoop cv b rmm l fate m.nvm.testProgress n (i + 1) false
        (countResult cv i
          { m with status := cv.handleRebootResult m.nvm.testProgress m.status }) := by
  have hvalid : i ≠ cv.invalidTestNum := by
    have hlt : i < l.testList.length := (List.getElem?_eq_some_iff.mp ht).1
    have hle : l.testList.length ≤ cv.invalidTestNum := hs.invalid
    omega
  have hn : m.nvm.endTestNum + 1 - i = n + 1 := by omega
  simp only [valHostTestDispatch, valHostGetLastRunTestInfo, hrec, hcur, if_true, if_neg hvalid, hn]
  rw [dispatchLoop, ht]
  simp [hdue]

/-- **The rest of the regression.**  From a round that starts afresh at number `i`, whatever
resets strike, the boots end, and between them they enter and count what is due from `i` on.  The
induction is on the rounds left: a test that returns and a test that resets both leave the next round
to start afresh, the second one boot later. -/
theorem boots_dispatchLoop (hs : cv.Spec l) {n i fuel : ℕ} {m : Machine} (progress : UInt32)
    (hi : 1 ≤ i) (hil : i ≤ l.tests.length + 1) (hend : m.nvm.endTestNum + 1 = i + n)
    (hsum : m.nvm.report.total < i) (hfuel : n ≤ fuel) :
    ∃ m', boots cv b rmm l fate fuel (dispatchLoop cv b rmm l fate progress n i false m) = some m' ∧
      m'.trace = m.trace ++ once fate m.started m.nvm.report.total (due b rmm l i n) ∧
      m'.nvm.report.total = m.nvm.report.total + (due b rmm l i n).length := by
  induction n generalizing i fuel m progress with
  | zero =>
    refine ⟨m, ?_, ?_, ?_⟩
    · rw [dispatchLoop]
      cases fuel <;> rfl
    · simp [due, once]
    · simp [due]
  | succ n ih =>
    rcases Nat.eq_or_lt_of_le hil with rfl | hlt
    · -- the null entry behind the tests
      refine ⟨m, ?_, ?_, ?_⟩
      · rw [dispatchLoop, TestList.getElem_last]
        cases fuel <;> rfl
      · simp [due_last, once]
      · simp [due_last]
    · obtain ⟨t, ht⟩ := l.getElem_test hi (by omega)
      have hfits := l.fits
      rw [due_succ, dispatchLoop, ht]
      by_cases hskip : skipped b rmm ⟨t, true⟩ = true
      · have hnot : isDue b rmm l i = false := by simp [isDue, ht, hskip]
        simpa [hskip, hnot] using
          ih progress (by omega) (by omega) (by omega) (by omega) (by omega)
      · have hskip' : skipped b rmm ⟨t, true⟩ = false := by simpa using hskip
        have hdue : isDue b rmm l i = true := by simp [isDue, ht, hskip']
        obtain ⟨hrep, hre, hrc, hrt, hrs, hrr⟩ := hs.runTest b fate i m
        simp only [hdue, if_true]
        cases hrun : runTest cv b fate i m with
        | mk m₁ r =>
          simp only [hrun] at hrep hre hrc hrt hrs hrr
          -- from a machine that has started test `i`, counting it leaves the rest to do
          have hrest : ∀ (m₂ : Machine) (p : UInt32) (f : ℕ), n ≤ f → m₂.nvm = m₁.nvm →
              m₂.trace = m₁.trace → m₂.started = m₁.started → ∃ m', boots cv b rmm l fate f
                  (dispatchLoop cv b rmm l fate p n (i + 1) false (countResult cv i m₂)) = some m' ∧
                m'.trace = m.trace ++
                  once fate m.started m.nvm.report.total (i :: due b rmm l (i + 1) n) ∧
                m'.nvm.report.total =
                  m.nvm.report.total + (i :: due b rmm l (i + 1) n).length := by
            intro m₂ p f hf hnvm htr hst
            have hrep₂ : m₂.nvm.report.total = m.nvm.report.total := by rw [hnvm, hrep]
            obtain ⟨hc, hct, hce, hcs⟩ := hs.countResult i (m := m₂) (by omega)
            have hend₂ : (countResult cv i m₂).nvm.endTestNum + 1 = i + 1 + n := by
              rw [hce, hnvm, hre]
              omega
            obtain ⟨m', hb, htrace, htotal⟩ := ih p (by omega) (by omega) hend₂ (by omega) hf
            refine ⟨m', hb, ?_, ?_⟩
            · rw [htrace, hct, hc, hcs, hst, hrs, htr, hrt, hrep₂, once]
              simp
            · rw [htotal, hc, hrep₂, List.length_cons]
              omega
          cases r with
          | false => simpa [hskip'] using hrest m₁ progress fuel (by omega) rfl rfl rfl
          | true =>
            obtain ⟨f, rfl⟩ : ∃ f, fuel = f + 1 := ⟨fuel - 1, by omega⟩
            have hend₁ : m₁.nvm.endTestNum + 1 = i + (n + 1) := by rw [hre, hend]
            have hnext := dispatch_after_reset b rmm fate hs ht hskip' hrc hend₁ (hrr rfl)
            simpa [hskip', boots, hnext] using
              hrest { m₁ with status := cv.handleRebootResult m₁.nvm.testProgress m₁.status }
                m₁.nvm.testProgress f (by omega) rfl rfl rfl

/-- The tests that compare equal in a search by name. -/
def searchHits (l : TestList) (name : String) : List ℕ :=
  (List.range' 1 (l.totalTests - 2)).filter fun i =>
    match l.testList[i]? with
    | some t => valStrcmp t.testName.toList name.toList == 0
    | none => false

theorem findTest_eq (name : String) : findTest l name = (searchHits l name).getLastD 0 := rfl

theorem mem_searchHits {name : String} {i : ℕ} : i ∈ searchHits l name ↔
    ∃ t : Test, l.testList[i]? = some ⟨t, true⟩ ∧ 1 ≤ i ∧ i ≤ l.tests.length ∧
      valStrcmp t.testName.toList name.toList = 0 := by
  rw [searchHits, List.mem_filter, List.mem_range'_1, l.totalTests_eq]
  constructor
  · rintro ⟨⟨h1, h2⟩, heq⟩
    obtain ⟨t, ht⟩ := l.getElem_test h1 (by omega)
    simp only [ht, beq_iff_eq] at heq
    exact ⟨t, ht, h1, by omega, heq⟩
  · rintro ⟨t, ht, h1, h2, heq⟩
    refine ⟨by omega, ?_⟩
    simp [ht, heq]

theorem findTest_le (name : String) : findTest l name ≤ l.tests.length := by
  rw [findTest_eq, List.getLastD_eq_getLast?]
  cases hlast : (searchHits l name).getLast? with
  | none => simp
  | some i =>
    obtain ⟨t, ht, h1, h2, heq⟩ := mem_searchHits.mp (List.mem_of_getLast? hlast)
    exact h2

/-- The range starts at a test and does not end before it. -/
theorem testRange_spec (hs : cv.Spec l) (hfound : RangeFound b l) :
    1 ≤ (testRange cv b l).1 ∧ (testRange cv b l).1 ≤ l.tests.length + 1 ∧
      (testRange cv b l).1 ≤ (testRange cv b l).2 ∧ (testRange cv b l).2 ≤ l.tests.length + 2 := by
  cases hr : b.suiteTestRange with
  | none => simp [testRange, hr, l.totalTests_eq]
  | some r =>
    obtain ⟨lo, hi⟩ := r
    obtain ⟨hlo, hhi⟩ := hfound lo hi hr
    have := findTest_le (l := l) lo
    have := findTest_le (l := l) hi
    simp only [testRange, hr, hs.sorts]
    omega

/-- **From power-on.**  The first boot clears the counters and starts afresh at the start of the
range. -/
theorem boots_power_on (hs : cv.Spec l) {start stop fuel : ℕ} {m : Machine}
    (hrange : testRange cv b l = (start, stop)) (hone : 1 ≤ start)
    (hle : start ≤ l.tests.length + 1) (hss : start ≤ stop)
    (hpower : cv.isRebootRun m.nvm.testProgress = false) (hfuel : stop + 1 - start ≤ fuel) :
    ∃ m', boots cv b rmm l fate fuel (valHostTestDispatch cv b rmm l fate m) = some m' ∧
      m'.trace = m.trace ++ once fate m.started 0 (due b rmm l start (stop + 1 - start)) ∧
      m'.nvm.report.total = (due b rmm l start (stop + 1 - start)).length := by
  have hfirst : ∃ p e, valHostTestDispatch cv b rmm l fate m =
      dispatchLoop cv b rmm l fate p (stop + 1 - start) start false
        { m with nvm := ⟨e, stop, p, RegreReport.zero⟩ } := by
    refine ⟨(cv.resetTestInfoFields
      ⟨m.nvm.curTestNum, m.nvm.endTestNum, m.nvm.testProgress⟩).testProgress,
      cv.invalidTestNum, ?_⟩
    simp [valHostTestDispatch, valHostGetLastRunTestInfo, hpower, hs.resets, hrange]
  obtain ⟨p, e, hdisp⟩ := hfirst
  have hcount : (⟨e, stop, p, RegreReport.zero⟩ : Nvm).endTestNum + 1 =
      start + (stop + 1 - start) := by
    change stop + 1 = _
    omega
  obtain ⟨m', hb, htrace, htotal⟩ := boots_dispatchLoop b rmm fate hs
    (m := { m with nvm := ⟨e, stop, p, RegreReport.zero⟩ }) p hone hle hcount hone hfuel
  have hzero : RegreReport.zero.total = 0 := rfl
  exact ⟨m', by rw [hdisp, hb], htrace, by rw [htotal, hzero, Nat.zero_add]⟩

/-- **Each test counts once across reboots, and runs once unless a reset forestalls it.**  From
power-on, with any test list, any range and any pattern of resets, the boots end, and what they
have done together is to take the non-skipped tests of the range in list order, to enter each of
them once unless the reset struck before `fn_ptr()` -- then not at all -- and to raise the sum of
the counters by one after each. -/
theorem tests_run_once (hs : cv.Spec l) (hfound : RangeFound b l) {m : Machine} (fuel : ℕ)
    (hpower : cv.isRebootRun m.nvm.testProgress = false) (hfuel : l.tests.length + 2 ≤ fuel) :
    ∃ m', boots cv b rmm l fate fuel (valHostTestDispatch cv b rmm l fate m) = some m' ∧
      m'.trace = m.trace ++ once fate m.started 0 (testsOfRange cv b rmm l) ∧
      m'.nvm.report.total = (testsOfRange cv b rmm l).length := by
  obtain ⟨hone, hle, hss, hst⟩ := testRange_spec b hs hfound
  exact boots_power_on b rmm fate hs rfl hone hle hss hpower (by omega)

/-- A common layer with the progress values 1 to 4. -/
def sampleVal : CommonVal where
  testStart := 1
  testEnd := 2
  testFail := 3
  testRebooting := 4
  invalidTestNum := 2 ^ 32 - 1
  statusInvalid := 0
  statusError := 1
  isRebootRun w := w == 1 || w == 2 || w == 3 || w == 4
  resetTestInfoFields i := { i with testNum := 2 ^ 32 - 1 }
  handleRebootResult p _ := if p = 4 then 2 else 1
  reportStatus s := s
  updateRegressionReport r p :=
    if r = 2 then { p with totalPass := p.totalPass + 1 }
    else if r = 1 then { p with totalError := p.totalError + 1 }
    else { p with totalFail := p.totalFail + 1 }
  sortIndices p := (min p.1 p.2, max p.1 p.2)

/-- Five tests, one of a suite the RMM does not support. -/
def sampleList : TestList where
  tests := [⟨"command", "cmd_rmi_version"⟩, ⟨"command", "cmd_system_reset"⟩, ⟨"mec", "mec_rmi"⟩,
    ⟨"command", "cmd_cpu_on"⟩, ⟨"command", "cmd_host_call"⟩]
  fits := by decide

def sampleBuild : Build := ⟨"all", some ("cmd_system_reset", "cmd_host_call"), true, true⟩

theorem sampleVal_spec (l : TestList) : sampleVal.Spec l := by
  constructor
  · intro w
    simp [sampleVal, or_assoc]
  · intro i
    rfl
  · have hfits := l.fits
    have htotal := l.totalTests_eq
    simp only [sampleVal]
    omega
  · intro r p
    simp only [sampleVal]
    split
    · exact .inl rfl
    · split
      · exact .inr (.inr (.inr rfl))
      · exact .inr (.inl rfl)
  · intro a b
    rfl

/-- Power-on with words in non-volatile memory that mean nothing. -/
def samplePowerOn : Machine := ⟨⟨77, 88, 99, ⟨5, 6, 7, 8⟩⟩, 0, 0, []⟩

/-- The first test of the range resets the platform on purpose, the second before its host
function is called. -/
def sampleFate (k : ℕ) : Fate :=
  if k = 0 then .reset true else if k = 1 then .resetInInit else .returns false 2 true

theorem tests_run_once_resets :
    ∃ m', boots sampleVal sampleBuild ⟨true, false, true⟩ sampleList sampleFate 7
        (valHostTestDispatch sampleVal sampleBuild ⟨true, false, true⟩ sampleList sampleFate
          samplePowerOn) = some m' ∧
      m'.trace = [.enter 2, .counted 2 1, .counted 4 2, .enter 5, .counted 5 3] ∧
      m'.nvm.report.total = 3 := by
  have hdue : testsOfRange sampleVal sampleBuild ⟨true, false, true⟩ sampleList = [2, 4, 5] := by
    decide
  have hfound : RangeFound sampleBuild sampleList := by
    intro lo hi h
    obtain ⟨rfl, rfl⟩ : "cmd_system_reset" = lo ∧ "cmd_host_call" = hi := by
      simpa [sampleBuild] using h
    decide
  obtain ⟨m', hb, htrace, htotal⟩ := tests_run_once sampleBuild ⟨true, false, true⟩ sampleFate
    (sampleVal_spec sampleList) hfound (m := samplePowerOn) 7 (by decide) (by decide)
  rw [hdue] at htrace htotal
  exact ⟨m', hb, htrace, htotal⟩

/-- **A reset between the arming of the watchdog and the call costs a test its run.**  Of the
tests 2, 4 and 5 of the range, 4 is never entered. -/
theorem test_counted_without_running :
    ¬ ∃ m', boots sampleVal sampleBuild ⟨true, false, true⟩ sampleList sampleFate 7
        (valHostTestDispatch sampleVal sampleBuild ⟨true, false, true⟩ sampleList sampleFate
          samplePowerOn) = some m' ∧
      enteredTests m'.trace = testsOfRange sampleVal sampleBuild ⟨true, false, true⟩ sampleList := by
  have hrun : (boots sampleVal sampleBuild ⟨true, false, true⟩ sampleList sampleFate 7
      (valHostTestDispatch sampleVal sampleBuild ⟨true, false, true⟩ sampleList sampleFate
        samplePowerOn)).map (fun m' => enteredTests m'.trace) = some [2, 5] := by
    decide +kernel
  have hdue : testsOfRange sampleVal sampleBuild ⟨true, false, true⟩ sampleList = [2, 4, 5] := by
    decide
  rintro ⟨m', hb, he⟩
  rw [hb, Option.map_some, he, hdue] at hrun
  exact absurd hrun (by decide)

end RmmAcs.Framework
