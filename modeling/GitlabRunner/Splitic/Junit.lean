import GitlabRunner.Golang

/-!
# The junit report

`runner.run` saves the test cases of every `go test` run as a junit report with
`Report.Save`; `junit.Merge` joins the reports of several nodes, and the junit timings
provider reads one back with `Load`. Both `Save` and `Merge` go through `Report.write`, which
counts each suite's test cases, failures, errors and skipped cases before encoding.

`write` adds its counts to the counters the report already holds (`count_counters`): a suite
is written with its own counters plus its counts. A report built in
memory has zero counters, so its first save is right; but a report that was saved once, and
every report `Load` reads from a saved file, gets its counts added a second time by the next
`write`, so saving twice or merging a single saved file doubles them
(`write_accumulates_counters`).

The model follows the fields `write` and the modelled callers read. `encoding/xml` writes
each of them and reads it back unchanged, so a saved file is the report `write` left, as
`Load` returns it.
-/

namespace GitlabRunner.Splitic.Junit

/-! ## Reports -/

/-- `junit.Failure`. -/
structure Failure where
  typ : String
  message : String
  contents : String
  deriving DecidableEq, Repr

/-- `junit.TestCase`, its time in the type `τ` of timings. `Assertions`, `SystemOut` and
`SystemErr` are left out: no modelled function reads or sets them. -/
structure TestCase (τ : Type) where
  name : String
  time : τ
  classname : String
  status : String
  skipped : String
  error : List Failure
  failure : List Failure
  deriving DecidableEq, Repr

/-- `junit.TestSuite`. `Time`, `Timestamp`, `Hostname`, `ID`, `Properties`, `SystemOut` and
`SystemErr` are left out: no modelled function reads or sets them. -/
structure TestSuite (τ : Type) where
  name : String
  tests : Int
  failures : Int
  errors : Int
  disabled : Int
  skipped : Int
  package : String
  testCases : List (TestCase τ)
  deriving DecidableEq, Repr

/-- `junit.Report`. -/
structure Report (τ : Type) where
  name : String
  tests : Int
  failures : Int
  disabled : Int
  errors : Int
  suites : List (TestSuite τ)
  deriving DecidableEq, Repr

/-- The four counters of a suite. -/
@[ext] structure Counters where
  tests : Int
  failures : Int
  errors : Int
  skipped : Int
  deriving DecidableEq, Repr

instance : Add Counters := ⟨fun a b =>
  ⟨a.tests + b.tests, a.failures + b.failures, a.errors + b.errors, a.skipped + b.skipped⟩⟩

@[simp] theorem Counters.add_def (a b : Counters) : a + b =
    ⟨a.tests + b.tests, a.failures + b.failures, a.errors + b.errors, a.skipped + b.skipped⟩ :=
  rfl

variable {τ : Type}

/-- The counters a suite holds. -/
def TestSuite.counters (s : TestSuite τ) : Counters :=
  ⟨s.tests, s.failures, s.errors, s.skipped⟩

/-- The counts of a list of test cases: all of them, those with a failure, those with an
error, and the skipped ones. -/
def countedOf (l : List (TestCase τ)) : Counters :=
  ⟨l.length, (l.filter (·.failure ≠ [])).length, (l.filter (·.error ≠ [])).length,
    (l.filter (·.skipped ≠ "")).length⟩

/-- The counts of a suite's test cases. -/
def TestSuite.counted (s : TestSuite τ) : Counters := countedOf s.testCases

/-! ## `write` -/

/-- One test case of `write`'s counting loop (`len(testcase.Skipped) > 0` is `≠ ""`). -/
def countCase (suite : TestSuite τ) (tc : TestCase τ) : TestSuite τ :=
  { suite with
    tests := suite.tests + 1
    skipped := if tc.skipped ≠ "" then suite.skipped + 1 else suite.skipped
    errors := if tc.error ≠ [] then suite.errors + 1 else suite.errors
    failures := if tc.failure ≠ [] then suite.failures + 1 else suite.failures }

/-- `write`'s loop over a suite's test cases, counting into the suite's own counters. -/
def TestSuite.count (suite : TestSuite τ) : TestSuite τ :=
  suite.testCases.foldl countCase suite

/-- Adding a counted suite's counters to the report's. -/
def Report.addSuite (r : Report τ) (suite : TestSuite τ) : Report τ :=
  { r with
    tests := r.tests + suite.tests
    failures := r.failures + suite.failures
    disabled := r.disabled + suite.disabled
    errors := r.errors + suite.errors }

/-- `Report.write` before the encoding: every suite counted in place, and its counters added to
the report's. -/
def Report.write (r : Report τ) : Report τ :=
  (r.suites.map TestSuite.count).foldl Report.addSuite { r with suites := r.suites.map TestSuite.count }

/-- `Report.Save`: the report `write` encodes to the file, which `Load` reads back. -/
def Report.save (r : Report τ) : Report τ := r.write

/-- `junit.Merge` of the reports `Load` read: the suites of each in turn, written as one
report from a zero `Report`. -/
def merge (inputs : List (Report τ)) : Report τ :=
  Report.write ⟨"", 0, 0, 0, 0, (inputs.map Report.suites).flatten⟩

/-! ## What `write` counts -/

theorem countCase_testCases (s : TestSuite τ) (tc : TestCase τ) :
    (countCase s tc).testCases = s.testCases := rfl

theorem Counters.add_assoc (a b c : Counters) : a + b + c = a + (b + c) := by
  simp only [Counters.add_def, Int.add_assoc]

theorem countedOf_append (l₁ l₂ : List (TestCase τ)) :
    countedOf (l₁ ++ l₂) = countedOf l₁ + countedOf l₂ := by
  simp only [countedOf, List.filter_append, List.length_append, Int.natCast_add, Counters.add_def]

theorem length_filter_singleton {α : Type} (p : α → Bool) (a : α) :
    (([a].filter p).length : Int) = if p a then 1 else 0 := by
  cases h : p a <;> simp [h]

/-- One counted test case adds its own counts. -/
theorem countCase_counters (s : TestSuite τ) (tc : TestCase τ) :
    (countCase s tc).counters = s.counters + countedOf [tc] := by
  simp only [countCase, TestSuite.counters, countedOf, Counters.add_def, length_filter_singleton,
    decide_eq_true_eq, add_ite, add_zero, List.length_singleton, Int.natCast_one]

theorem counters_foldl_countCase (l : List (TestCase τ)) (s : TestSuite τ) :
    (l.foldl countCase s).counters = s.counters + countedOf l := by
  induction l generalizing s with
  | nil => simp [TestSuite.counters, countedOf]
  | cons tc l ih =>
    rw [List.foldl_cons, ih, countCase_counters, Counters.add_assoc, ← countedOf_append,
      List.singleton_append]

/-- A counted suite holds its own counters plus the counts of its test cases. -/
theorem count_counters (s : TestSuite τ) : s.count.counters = s.counters + s.counted :=
  counters_foldl_countCase s.testCases s

theorem count_testCases (s : TestSuite τ) : s.count.testCases = s.testCases :=
  List.foldlRecOn (motive := fun s' : TestSuite τ => s'.testCases = s.testCases) s.testCases
    countCase s rfl fun _ h _ _ => h

theorem count_package (s : TestSuite τ) : s.count.package = s.package :=
  List.foldlRecOn (motive := fun s' : TestSuite τ => s'.package = s.package) s.testCases
    countCase s rfl fun _ h _ _ => h

theorem foldl_addSuite_suites (l : List (TestSuite τ)) (r : Report τ) :
    (l.foldl Report.addSuite r).suites = r.suites :=
  List.foldlRecOn (motive := fun r' : Report τ => r'.suites = r.suites) l _ r rfl
    fun _ h _ _ => h

theorem write_suites (r : Report τ) : r.write.suites = r.suites.map TestSuite.count :=
  foldl_addSuite_suites _ _

/-- Writing a report twice, or merging one saved report, adds the counts of every suite twice
to the counters it had. -/
theorem write_accumulates_counters (r : Report τ) :
    r.save.save.suites.map TestSuite.counters =
        r.suites.map (fun s => s.counters + s.counted + s.counted) ∧
      (merge [r.save]).suites.map TestSuite.counters =
        r.suites.map (fun s => s.counters + s.counted + s.counted) := by
  have h : r.save.save.suites.map TestSuite.counters =
      r.suites.map (fun s => s.counters + s.counted + s.counted) := by
    simp [Report.save, write_suites, count_counters, TestSuite.counted, count_testCases]
  exact ⟨h, by simpa [merge, Report.save, write_suites] using h⟩

end GitlabRunner.Splitic.Junit
