import GitlabRunner.Splitic.Buckets
import GitlabRunner.Splitic.Junit

/-!
# Running the groups of a node

`runner.runGroups` runs each group of the node's bucket with `go test` (`runTests`), up to
`FlakyRetries` attempts. After an attempt, every reported test case goes to the junit suite
of its class, and a second loop sorts them: a quarantined test is ignored, a passed one
clears its failure, a failed test listed as flaky is run again in the next attempt, and any
other failed test is recorded in `failures`. `run` returns `ErrRunHadFailures` when
`failures` is not empty, and saves the suites as its junit report, which the junit timings
provider reads back for the next split.

The outcomes of `go test` are an input: `runTests` is any function from the group, the
attempt, the names to run and the packages to the test cases reported or an error, so the
results hold for every sequence of outcomes.

A flaky test that failed is only ever put up for another attempt, never into `failures`:
a flaky test that fails on all its attempts leaves `run` without an error
(`flaky_failure_not_counted`). Which keys `failures` holds after a run is worked out in
`Splitic/Reported.lean`.

The suites carry the class name as `Name` and leave `Package` empty, while the timings
provider reads `Package`: every timing it returns has the empty package, which every package
name ends with, so `getTiming` takes the largest time reported for the test name in any
package (`getTiming_junitTimings_runReport`, `junit_timing_of_other_package`).
-/

namespace GitlabRunner.Splitic

open Junit

/-! ## `runGroups` -/

/-- `flags.Options`, the fields `runGroups` reads. -/
structure Options where
  flakyRetries : Int
  quarantined : List String
  flaky : List String
  deriving DecidableEq, Repr

/-- `FileEntries.Has`. -/
def has (entries : List String) (value : String) : Bool :=
  entries.any (· == value)

/-- `runTests` as `runGroups` sees it: for the group's index, the attempt, the names to run
and the packages, the test cases `go test` reported, or an error. -/
def RunTests (τ : Type) : Type :=
  Nat → Nat → List String → List String → Except String (List (Junit.TestCase τ))

/-- What `runGroups` fills in for `run`: the suites by class name, and the failure keys. -/
structure Recorded (τ : Type) where
  suites : List (String × TestSuite τ)
  failures : List String
  deriving DecidableEq, Repr

variable {τ : Type}

/-- The key of a test case in `failures`: `Classname + " " + Name`. -/
def Junit.TestCase.key (tc : Junit.TestCase τ) : String := tc.classname ++ " " ++ tc.name

/-- The suite `runGroups` makes for a class it has not seen. -/
def newSuite (classname : String) : TestSuite τ := ⟨classname, 0, 0, 0, 0, 0, "", []⟩

/-- One test case of the first loop of an attempt: appended to the suite of its class. -/
def recordCase (suites : List (String × TestSuite τ)) (tc : Junit.TestCase τ) :
    List (String × TestSuite τ) :=
  mapInsert tc.classname
    { (suites.lookup tc.classname).getD (newSuite tc.classname) with
      testCases := ((suites.lookup tc.classname).getD (newSuite tc.classname)).testCases ++ [tc] }
    suites

/-- One test case of the second loop of an attempt; `acc` is the names to run again and the
failure keys. -/
def classify (o : Options) (acc : List String × List String) (tc : Junit.TestCase τ) :
    List String × List String :=
  if has o.quarantined tc.key || has o.quarantined tc.name then acc
  else if tc.error = [] ∧ tc.failure = [] then (acc.1, acc.2.filter (· ≠ tc.key))
  else if has o.flaky tc.key || has o.flaky tc.name then (acc.1 ++ [tc.name], acc.2)
  else (acc.1, if tc.key ∈ acc.2 then acc.2 else acc.2 ++ [tc.key])

/-- The number of attempts: `FlakyRetries`, at least 1. -/
def attemptCount (o : Options) : Nat :=
  if o.flakyRetries < 1 then 1 else o.flakyRetries.toNat

/-- The record after an attempt that reported `testcases`: the test cases appended to their
suites, and the failure keys as the second loop leaves them. -/
def afterAttempt (o : Options) (testcases : List (Junit.TestCase τ)) (st : Recorded τ) :
    Recorded τ :=
  ⟨testcases.foldl recordCase st.suites, (testcases.foldl (classify o) ([], st.failures)).2⟩

/-- The names the second loop of an attempt puts up for the next one. -/
def retryNames (o : Options) (testcases : List (Junit.TestCase τ)) (st : Recorded τ) :
    List String :=
  (testcases.foldl (classify o) ([], st.failures)).1

/-- The attempt loop of one group, from attempt `attempt` on with at most `left` more,
running `run`; an error of `runTests` ends `runGroups`. -/
def attempts (rt : RunTests τ) (o : Options) (idx : Nat) (pkgs : List String) :
    Nat → Nat → List String → Recorded τ → Recorded τ × Option String
  | _, 0, _, st => (st, none)
  | attempt, left + 1, run, st =>
    match rt idx attempt run pkgs with
    | .error e => (st, some e)
    | .ok testcases =>
      if retryNames o testcases st = [] then (afterAttempt o testcases st, none)
      else attempts rt o idx pkgs (attempt + 1) left (retryNames o testcases st)
        (afterAttempt o testcases st)

/-- The loop of `runGroups` over the groups from index `idx` on. -/
def runGroupsFrom (rt : RunTests τ) (o : Options) :
    Nat → List RunGroup → Recorded τ → Recorded τ × Option String
  | _, [], st => (st, none)
  | idx, g :: gs, st =>
    match attempts rt o idx g.packages 1 (attemptCount o) g.run st with
    | (st', some e) => (st', some e)
    | (st', none) => runGroupsFrom rt o (idx + 1) gs st'

/-- `runner.runGroups` from the empty maps of `run`: what it recorded, and its error. -/
def runGroups (rt : RunTests τ) (o : Options) (groups : List RunGroup) :
    Recorded τ × Option String :=
  runGroupsFrom rt o 0 groups ⟨[], []⟩

/-- `ErrRunHadFailures`. -/
def errRunHadFailures : String := "failures/errors occurred during tests"

/-- What `run` returns once the cover profiles are merged and the junit report is saved:
`runGroups`' error first, else `ErrRunHadFailures` when a failure is recorded. -/
def runResult (st : Recorded τ) (runGroupErr : Option String) : Option String :=
  if st.failures ≠ [] then runGroupErr.or (some errRunHadFailures) else runGroupErr

/-- The junit report `run` saves: the recorded suites. -/
def runReport (st : Recorded τ) : Report τ :=
  ⟨"", 0, 0, 0, 0, st.suites.map Prod.snd⟩

/-! ## What a run keeps -/

section Preserves

variable {rt : RunTests τ} {o : Options} (P : Recorded τ → Prop)

/-- A property of the record that every attempt keeps holds after a group's attempts. -/
theorem attempts_preserves {idx : Nat} {pkgs : List String}
    (hstep : ∀ attempt run testcases st, rt idx attempt run pkgs = .ok testcases → P st →
      P (afterAttempt o testcases st))
    (attempt left : Nat) (run : List String) {st : Recorded τ} (h : P st) :
    P (attempts rt o idx pkgs attempt left run st).1 := by
  induction left generalizing attempt run st with
  | zero => exact h
  | succ left ih =>
    unfold attempts
    split
    · exact h
    · rename_i testcases hrt
      split
      · exact hstep _ _ _ _ hrt h
      · exact ih _ _ (hstep _ _ _ _ hrt h)

/-- A property of the record that every attempt keeps holds after `runGroups`. -/
theorem runGroupsFrom_preserves
    (hstep : ∀ idx attempt run pkgs testcases st, rt idx attempt run pkgs = .ok testcases →
      P st → P (afterAttempt o testcases st))
    (idx : Nat) (groups : List RunGroup) {st : Recorded τ} (h : P st) :
    P (runGroupsFrom rt o idx groups st).1 := by
  induction groups generalizing idx st with
  | nil => exact h
  | cons g gs ih =>
    have h' := attempts_preserves P (fun a r => hstep idx a r g.packages) 1 (attemptCount o) g.run h
    unfold runGroupsFrom
    split
    · rename_i heq; rw [heq] at h'; exact h'
    · rename_i heq; rw [heq] at h'; exact ih _ h'

end Preserves

/-! ## A flaky test that fails on every attempt -/

/-- Three attempts, and a test of `helpers` listed as flaky by name. -/
def flakyOptions : Options := ⟨3, [], ["TestDockerPull"]⟩

/-- The group that runs the flaky test. -/
def flakyGroup : RunGroup := ⟨["gitlab.com/gitlab-org/gitlab-runner/helpers"], ["TestDockerPull"]⟩

/-- `go test` reports the test as failed on every attempt. -/
def alwaysFailing : RunTests Nat := fun _ _ _ _ =>
  .ok [⟨"TestDockerPull", 1500, "gitlab.com/gitlab-org/gitlab-runner/helpers", "FAIL", "", [],
    [⟨"", "Failed", "--- FAIL: TestDockerPull"⟩]⟩]

/-- The flaky test fails on all three attempts, each recorded in its suite with a failure, yet
`failures` stays empty and `run` returns no error. -/
theorem flaky_failure_not_counted :
    ((runGroups alwaysFailing flakyOptions [flakyGroup]).1.suites.lookup
        "gitlab.com/gitlab-org/gitlab-runner/helpers").map
        (fun s => s.testCases.map fun tc => tc.failure.length) = some [1, 1, 1] ∧
      (runGroups alwaysFailing flakyOptions [flakyGroup]).1.failures = [] ∧
      runResult (runGroups alwaysFailing flakyOptions [flakyGroup]).1
        (runGroups alwaysFailing flakyOptions [flakyGroup]).2 = none := by
  decide

/-! ## The timings read back from the junit report -/

/-- The junit timings provider's `Get` on the loaded report: one timing per test case, under
its suite's `Package`. -/
def junitTimings (r : Report τ) : List (Timing τ) :=
  r.suites.flatMap fun suite => suite.testCases.map fun tc => ⟨suite.package, tc.name, tc.time⟩

section Timings

variable [LinearOrder τ] [Zero τ]

/-- The largest of `t` and the timings of the entries named `m`. -/
def maxTimeOf (m : String) (l : List (Timing τ)) (t : τ) : τ :=
  l.foldl (fun t tc => if tc.method = m then max t tc.timing else t) t

omit [Zero τ] in
theorem timingStep_of_empty_package (p m : String) (t : τ) {tc : Timing τ}
    (htc : tc.package = "") :
    timingStep p m (0, t) tc = (0, if tc.method = m then max t tc.timing else t) := by
  by_cases hm : tc.method = m
  · have hsize : tc.package.utf8ByteSize = 0 := by rw [htc]; rfl
    rw [timingStep, if_neg (not_not.2 hm), if_pos ⟨by simp [htc, hasSuffix], hm⟩, hsize, if_pos hm]
    by_cases hlt : t < tc.timing
    · rw [if_pos ⟨rfl, hlt⟩, max_eq_right hlt.le]
    · rw [if_neg (fun h => hlt h.2), if_neg (lt_irrefl 0), max_eq_left (not_lt.1 hlt)]
  · simp [timingStep, hm]

omit [Zero τ] in
theorem foldl_timingStep_of_empty_package (p m : String) {l : List (Timing τ)}
    (hl : ∀ tc ∈ l, tc.package = "") (t : τ) :
    l.foldl (timingStep p m) (0, t) = (0, maxTimeOf m l t) := by
  induction l generalizing t with
  | nil => rfl
  | cons tc l ih =>
    rw [List.foldl_cons, timingStep_of_empty_package p m t (hl tc (List.mem_cons_self _ _)),
      ih (fun tc' h => hl tc' (List.mem_cons_of_mem _ h))]
    rfl

/-- When every entry has the empty package, `getTiming` takes the largest timing of the
method in any package. -/
theorem getTiming_of_empty_packages (minTime : τ) {l : List (Timing τ)}
    (hl : ∀ tc ∈ l, tc.package = "") (p m : String) :
    getTiming minTime l p m = ⟨p, m, max minTime (maxTimeOf m l 0)⟩ := by
  rw [getTiming, foldl_timingStep_of_empty_package p m hl]

omit [LinearOrder τ] [Zero τ] in
theorem afterAttempt_packages (o : Options) (testcases : List (Junit.TestCase τ))
    {st : Recorded τ} (hst : ∀ e ∈ st.suites, e.2.package = "") :
    ∀ e ∈ (afterAttempt o testcases st).suites, e.2.package = "" :=
  List.foldlRecOn (motive := fun suites : List (String × TestSuite τ) =>
      ∀ e ∈ suites, e.2.package = "") testcases _ _ hst fun suites h tc _ e he => by
    rcases mem_mapInsert he with rfl | he
    · cases hlook : suites.lookup tc.classname with
      | none => rfl
      | some s => exact h (_, s) (mem_of_lookup_eq_some hlook)
    · exact h e he

omit [LinearOrder τ] [Zero τ] in
/-- Every timing read back from `run`'s junit report has the empty package. -/
theorem junitTimings_runReport_package (rt : RunTests τ) (o : Options) (groups : List RunGroup) :
    ∀ tc ∈ junitTimings (runReport (runGroups rt o groups).1).save, tc.package = "" := by
  have hsuites := @runGroupsFrom_preserves τ rt o
    (fun st => ∀ e ∈ st.suites, e.2.package = "")
    (fun _ _ _ _ testcases _ _ hst => afterAttempt_packages o testcases hst) 0 groups ⟨[], []⟩
    (fun _ h => absurd h (List.not_mem_nil _))
  intro tc htc
  simp only [junitTimings, Report.save, write_suites, runReport, List.mem_flatMap, List.mem_map]
    at htc
  obtain ⟨_, ⟨s, ⟨e, he, rfl⟩, rfl⟩, tc', -, rfl⟩ := htc
  simpa [count_package] using hsuites e he

/-- `getTiming` on the timings read back from `run`'s junit report takes, for every package,
the largest time recorded for the test name in any package. -/
theorem getTiming_junitTimings_runReport (minTime : τ) (rt : RunTests τ) (o : Options)
    (groups : List RunGroup) (p m : String) :
    getTiming minTime (junitTimings (runReport (runGroups rt o groups).1).save) p m =
      ⟨p, m, max minTime (maxTimeOf m (junitTimings (runReport (runGroups rt o groups).1).save) 0)⟩ :=
  getTiming_of_empty_packages minTime (junitTimings_runReport_package rt o groups) p m

end Timings

/-- `go test` reports `TestVersion` of `commands` at 100 ms and of `helpers` at 3000 ms. -/
def versionRun : RunTests Nat := fun _ _ _ _ =>
  .ok [⟨"TestVersion", 100, "gitlab.com/gitlab-org/gitlab-runner/commands", "PASS", "", [], []⟩,
    ⟨"TestVersion", 3000, "gitlab.com/gitlab-org/gitlab-runner/helpers", "PASS", "", [], []⟩]

/-- The junit report `run` saves for the shared group of `commands` and `helpers`. -/
def versionReport : Report Nat :=
  (runReport (runGroups versionRun ⟨3, [], []⟩
    [⟨["gitlab.com/gitlab-org/gitlab-runner/commands", "gitlab.com/gitlab-org/gitlab-runner/helpers"],
      ["TestVersion"]⟩]).1).save

/-- The report records 100 ms for `TestVersion` of `commands`, but `getTiming` reads 3000 ms
for it, the time of `helpers`' test of the same name. -/
theorem junit_timing_of_other_package :
    (∃ s ∈ versionReport.suites, s.name = "gitlab.com/gitlab-org/gitlab-runner/commands" ∧
        s.testCases.map (fun tc => (tc.name, tc.time)) = [("TestVersion", 100)]) ∧
      (getTiming (200 : Nat) (junitTimings versionReport)
        "gitlab.com/gitlab-org/gitlab-runner/commands" "TestVersion").timing = 3000 := by
  decide

end GitlabRunner.Splitic
