import GitlabRunner.Splitic.Reported
import GitlabRunner.Splitic.Cover

/-!
# The `test` command

`splitic test` (`testCmd.Execute`) gets the timings report and calls `runner.Run`. It calls
`os.Exit(TestFailExitCode)` when `run` returns `ErrRunHadFailures`, `os.Exit(1)` on any other
error, and returns normally otherwise, so that the process exits with 0. The process's exit
status is the argument of `os.Exit` modulo 256 (`exitStatus`): a `TestFailExitCode` of 256
ends a run with failures with status 0.

`run` checks the node index, lists the tests, splits them into `NodeTotal` buckets and runs
the groups of its node's bucket. Whatever `runGroups` returns, `run` then merges the cover
profiles and saves the junit report. An error of either ends `run`, `runGroups`' error
first (`errorPrecedence`). Last, a recorded failure gives `ErrRunHadFailures`, again after
`runGroups`' error.

Over every input, with the failures `runGroups` records given by `standing`
(`Splitic/Reported.lean`):
- `run` returns `ErrRunHadFailures` exactly when every stage succeeds and some key stands
  as a failure (`runGroups_failures_stand`);
- when `TestFailExitCode` modulo 256 is not 0, the command exits with 0 exactly when every
  stage succeeds, no `go test` call fails, and no key stands as a failure
  (`execute_eq_zero_iff`);
- when it is not 0, 1 or 2, the command exits with it exactly when every stage succeeds, no
  `go test` call fails, and some key stands as a failure
  (`execute_eq_testFailExitCode_iff`).

So a `go test` call that fails, in any group, hides the test failures recorded before it:
the command exits with 1. A panic of `cover.Merge` is not recovered: the process ends with
status 2, as the Go runtime ends it, and no junit report is written. The index of the node's
bucket is always in range once the node check passes (`getElem?_splitTests`).

`list`, the file system and `report.Save` are not modelled: their results are inputs.
-/

namespace GitlabRunner.Splitic

/-- `errorPrecedence`: the first error that is not `nil`. -/
def errorPrecedence {ε : Type} : List (Option ε) → Option ε
  | [] => none
  | some err :: _ => some err
  | none :: errs => errorPrecedence errs

/-- The errors of `run`, as `Execute` tells them apart with `errors.Is`: `ErrRunHadFailures`,
or another error with its text. -/
inductive RunError where
  | runHadFailures
  | other (msg : String)
  deriving DecidableEq, Repr

/-- How `run` ends: it returns an error or `nil`, or it panics. -/
inductive RunEnd where
  | returned (err : Option RunError)
  | panic (msg : String)
  deriving DecidableEq, Repr

/-- `flags.Options`: the fields `run` and `Execute` read besides those of `runGroups`. -/
structure RunOptions extends Options where
  nodeIndex : Int
  nodeTotal : Int
  cover : Bool
  testFailExitCode : Int
  deriving DecidableEq, Repr

/-- What `mergeCover` finds on disk: the errors of `os.MkdirAll` and `os.Create`, the cover
profiles `filepath.Glob` matches as `ioutil.ReadFile` reads them, and the error of
`f.Close()`. -/
structure CoverFiles where
  mkdirErr : Option String
  createErr : Option String
  profiles : List (List UInt8)
  closeErr : Option String
  deriving DecidableEq, Repr

/-- `mergeCover`. -/
def mergeCover (cover : Bool) (files : CoverFiles) : Cover.Outcome :=
  if !cover then .ok
  else match files.mkdirErr, files.createErr with
    | some err, _ => .error ("creating output directory for cover profile: " ++ err)
    | none, some err => .error err
    | none, none =>
      match (Cover.merge files.profiles).2 with
      | .ok => match files.closeErr with
        | some err => .error err
        | none => .ok
      | outcome => outcome

variable {τ : Type}

/-- The end of `run` once `runGroups` recorded `st` and returned `runGroupErr`: the cover
profiles merged, the junit report saved, the failures reported. The report is the one
`Save` wrote, when `run` reached it and it succeeded. -/
def finishRun (cover : Bool) (files : CoverFiles) (saveErr : Option String) (st : Recorded τ)
    (runGroupErr : Option String) : Option (Junit.Report τ) × RunEnd :=
  match mergeCover cover files with
  | .panic msg => (none, .panic msg)
  | .error err => (none, .returned (errorPrecedence
      [runGroupErr.map .other, some (.other ("merging cover profiles: " ++ err))]))
  | .ok =>
    match saveErr with
    | some err => (none, .returned (errorPrecedence
        [runGroupErr.map .other, some (.other ("saving junit test report: " ++ err))]))
    | none => (some (runReport st).save, .returned
        (if st.failures ≠ [] then errorPrecedence [runGroupErr.map .other, some .runHadFailures]
          else runGroupErr.map .other))

/-- What `run` gets from code that is not modelled: the tests `list` found or its error, the
cover files, and the error of `report.Save`. -/
structure RunEnv where
  list : Except String (List TestCase)
  coverFiles : CoverFiles
  saveErr : Option String

variable [LinearOrder τ] [Add τ] [Zero τ]

/-- `runner.run`, with `getTiming`'s `minTime` and `math.MaxFloat64` in `τ`. -/
def run (minTime maxFloat64 : τ) (report : List (Timing τ)) (o : RunOptions) (rt : RunTests τ)
    (env : RunEnv) : Option (Junit.Report τ) × RunEnd :=
  if o.nodeIndex - 1 < 0 ∨ o.nodeIndex > o.nodeTotal then
    (none, .returned (some (.other ("invalid node index/total (" ++ toString o.nodeIndex ++ "/" ++
      toString o.nodeTotal ++ ")"))))
  else match env.list with
  | .error err => (none, .returned (some (.other ("extracting test names: " ++ err))))
  | .ok tests =>
    match (splitTests minTime maxFloat64 o.nodeTotal.toNat report tests)[(o.nodeIndex - 1).toNat]? with
    | none => (none, .panic "index out of range")
    | some bucket =>
      let result := runGroups rt o.toOptions bucket.runGroups
      finishRun o.cover env.coverFiles env.saveErr result.1 result.2

/-- The code `testCmd.Execute` exits with for how `runner.Run` ended. A panic that nothing
recovers ends the process with status 2, as the Go runtime does. -/
def exitCode (testFailExitCode : Int) : RunEnd → Int
  | .returned none => 0
  | .returned (some .runHadFailures) => testFailExitCode
  | .returned (some (.other _)) => 1
  | .panic _ => 2

/-- The status a process ends with when it calls `os.Exit(code)`: the kernel keeps the low
eight bits of the code. -/
def exitStatus (code : Int) : Nat := (code % 256).toNat

/-- `testCmd.Execute` under `main`: the status the process exits with. `getErr` is the error
of the timings provider's `Get`, `tempDirErr` that of `ioutil.TempDir` in `runner.Run`. -/
def execute (getErr tempDirErr : Option String) (minTime maxFloat64 : τ)
    (report : List (Timing τ)) (o : RunOptions) (rt : RunTests τ) (env : RunEnv) : Nat :=
  match getErr, tempDirErr with
  | some _, _ => 1
  | none, some _ => 1
  | none, none => exitStatus (exitCode o.testFailExitCode (run minTime maxFloat64 report o rt env).2)

/-- The groups node `NodeIndex` runs. -/
def nodeGroups (minTime maxFloat64 : τ) (report : List (Timing τ)) (o : RunOptions)
    (tests : List TestCase) : List RunGroup :=
  ((splitTests minTime maxFloat64 o.nodeTotal.toNat report tests).getD (o.nodeIndex - 1).toNat
    ⟨[], 0⟩).runGroups

/-! ## The stages of `run` -/

/-- Once the node check passes, the index of the node's bucket is in range. -/
theorem getElem?_splitTests (minTime maxFloat64 : τ) (report : List (Timing τ))
    (o : RunOptions) (tests : List TestCase) (h₁ : 1 ≤ o.nodeIndex)
    (h₂ : o.nodeIndex ≤ o.nodeTotal) :
    (splitTests minTime maxFloat64 o.nodeTotal.toNat report tests)[(o.nodeIndex - 1).toNat]? =
      some ((splitTests minTime maxFloat64 o.nodeTotal.toNat report tests).getD
        (o.nodeIndex - 1).toNat ⟨[], 0⟩) := by
  rw [List.getD_eq_getElem?_getD, List.getElem?_eq_getElem (by rw [length_splitTests]; omega)]
  rfl

theorem run_of_node (minTime maxFloat64 : τ) (report : List (Timing τ)) (o : RunOptions)
    (rt : RunTests τ) (env : RunEnv) {tests : List TestCase} (hlist : env.list = .ok tests)
    (h₁ : 1 ≤ o.nodeIndex) (h₂ : o.nodeIndex ≤ o.nodeTotal) :
    run minTime maxFloat64 report o rt env =
      finishRun o.cover env.coverFiles env.saveErr
        (runGroups rt o.toOptions (nodeGroups minTime maxFloat64 report o tests)).1
        (runGroups rt o.toOptions (nodeGroups minTime maxFloat64 report o tests)).2 := by
  rw [run, if_neg (by omega), hlist]
  simp only [getElem?_splitTests minTime maxFloat64 report o tests h₁ h₂, nodeGroups]

/-- `run` fails before `runGroups` on a bad node or a failed `list`. -/
theorem run_of_not_node (minTime maxFloat64 : τ) (report : List (Timing τ)) (o : RunOptions)
    (rt : RunTests τ) (env : RunEnv)
    (h : ¬ (1 ≤ o.nodeIndex ∧ o.nodeIndex ≤ o.nodeTotal ∧ ∃ tests, env.list = .ok tests)) :
    ∃ err, (run minTime maxFloat64 report o rt env).2 = .returned (some (.other err)) := by
  unfold run
  split
  · exact ⟨_, rfl⟩
  · cases hlist : env.list with
    | error err => exact ⟨_, rfl⟩
    | ok tests => exact absurd ⟨by omega, by omega, tests, hlist⟩ h

omit [LinearOrder τ] [Add τ] [Zero τ] in
/-- `finishRun` returns `ErrRunHadFailures` exactly when every stage succeeds and a failure is
recorded. -/
theorem finishRun_eq_runHadFailures_iff (cover : Bool) (files : CoverFiles)
    (saveErr : Option String) (st : Recorded τ) (runGroupErr : Option String) :
    (finishRun cover files saveErr st runGroupErr).2 = .returned (some .runHadFailures) ↔
      runGroupErr = none ∧ mergeCover cover files = .ok ∧ saveErr = none ∧ st.failures ≠ [] := by
  unfold finishRun
  rcases mergeCover cover files with _ | err | msg <;> rcases saveErr with _ | err' <;>
    rcases runGroupErr with _ | e <;> by_cases hf : st.failures = [] <;>
    simp [errorPrecedence, hf]

omit [LinearOrder τ] [Add τ] [Zero τ] in
/-- No key stands as a failure exactly when `runGroups` records none. -/
theorem failures_runGroups_eq_nil_iff (rt : RunTests τ) (o : Options) (groups : List RunGroup) :
    (runGroups rt o groups).1.failures = [] ↔
      ∀ k, standing o k false (reportedCases rt o groups) = false := by
  rw [List.eq_nil_iff_forall_not_mem]
  refine forall_congr' fun k => ?_
  rw [← decide_mem_failures_runGroups, decide_eq_false_iff_not]

omit [LinearOrder τ] [Add τ] [Zero τ] in
/-- After `runGroups` a key is a failure exactly when it stands as one: the last reported test
case of that key that gives a verdict failed, where a quarantined test case and a failure of
a test listed as flaky give none. And `run` then returns `ErrRunHadFailures` exactly when
`runGroups`, the cover merge and the report's save all succeed and some key stands as a
failure. -/
theorem runGroups_failures_stand (rt : RunTests τ) (o : Options) (groups : List RunGroup)
    (cover : Bool) (files : CoverFiles) (saveErr : Option String) :
    (∀ k, k ∈ (runGroups rt o groups).1.failures ↔
      standing o k false (reportedCases rt o groups) = true) ∧
    ((finishRun cover files saveErr (runGroups rt o groups).1 (runGroups rt o groups).2).2 =
        .returned (some .runHadFailures) ↔
      (runGroups rt o groups).2 = none ∧ mergeCover cover files = .ok ∧ saveErr = none ∧
        ∃ k, standing o k false (reportedCases rt o groups) = true) := by
  refine ⟨fun k => ?_, ?_⟩
  · rw [← decide_mem_failures_runGroups, decide_eq_true_iff]
  · simp only [finishRun_eq_runHadFailures_iff, ne_eq, failures_runGroups_eq_nil_iff, not_forall,
      Bool.not_eq_false]

/-! ## The exit status -/

theorem execute_of_ne_one (getErr tempDirErr : Option String) (minTime maxFloat64 : τ)
    (report : List (Timing τ)) (o : RunOptions) (rt : RunTests τ) (env : RunEnv) {status : Nat}
    (hstatus : status ≠ 1) :
    execute getErr tempDirErr minTime maxFloat64 report o rt env = status ↔
      getErr = none ∧ tempDirErr = none ∧
        exitStatus (exitCode o.testFailExitCode (run minTime maxFloat64 report o rt env).2) =
          status := by
  unfold execute
  rcases getErr with _ | e <;> rcases tempDirErr with _ | e' <;> simp [Ne.symm hstatus]

omit [LinearOrder τ] [Add τ] [Zero τ] in
theorem exitCode_eq_testFailExitCode_iff {testFailExitCode : Int}
    (h₀ : exitStatus testFailExitCode ≠ 0) (h₁ : exitStatus testFailExitCode ≠ 1)
    (h₂ : exitStatus testFailExitCode ≠ 2) (e : RunEnd) :
    exitStatus (exitCode testFailExitCode e) = exitStatus testFailExitCode ↔
      e = .returned (some .runHadFailures) := by
  rcases e with (_ | (_ | msg)) | msg
  · exact ⟨fun h => absurd h.symm h₀, fun h => by cases h⟩
  · simp [exitCode]
  · exact ⟨fun h => absurd h.symm h₁, fun h => by cases h⟩
  · exact ⟨fun h => absurd h.symm h₂, fun h => by cases h⟩

/-- `run` ends as `finishRun` does for the node's groups once the node check and `list` pass,
and with another error before that. -/
theorem run_returned_iff (minTime maxFloat64 : τ) (report : List (Timing τ)) (o : RunOptions)
    (rt : RunTests τ) (env : RunEnv) {err : Option RunError} (herr : ∀ msg, err ≠ some (.other msg)) :
    (run minTime maxFloat64 report o rt env).2 = .returned err ↔
      1 ≤ o.nodeIndex ∧ o.nodeIndex ≤ o.nodeTotal ∧ ∃ tests, env.list = .ok tests ∧
        (finishRun o.cover env.coverFiles env.saveErr
          (runGroups rt o.toOptions (nodeGroups minTime maxFloat64 report o tests)).1
          (runGroups rt o.toOptions (nodeGroups minTime maxFloat64 report o tests)).2).2 =
          .returned err := by
  by_cases hv : 1 ≤ o.nodeIndex ∧ o.nodeIndex ≤ o.nodeTotal ∧ ∃ tests, env.list = .ok tests
  · obtain ⟨h₁, h₂, tests, hlist⟩ := hv
    rw [run_of_node minTime maxFloat64 report o rt env hlist h₁ h₂]
    simp [h₁, h₂, hlist]
  · obtain ⟨msg, hmsg⟩ := run_of_not_node minTime maxFloat64 report o rt env hv
    rw [hmsg]
    simp only [RunEnd.returned.injEq]
    exact ⟨fun h => absurd h.symm (herr msg), fun h => absurd ⟨h.1, h.2.1, h.2.2.imp fun _ => And.left⟩ hv⟩

/-- The options `flags.Parse` leaves without flags or environment: one node, three attempts,
no cover report, `TestFailExitCode` 1. -/
def defaultRunOptions : RunOptions := ⟨⟨3, [], []⟩, 1, 1, false, 1⟩

/-- `list` finds the tests, and the file system and `Save` succeed. -/
def listedEnv (tests : List TestCase) : RunEnv := ⟨.ok tests, ⟨none, none, [], none⟩, none⟩

/-- With a `TestFailExitCode` whose status is not 0, 1 or 2, the `test` command exits with that
status exactly when the timings and the temporary directory are there, the node is valid, `list` succeeds,
no `go test` call of the node's groups fails, the cover profiles merge, the junit report is
saved, and some key stands as a failure. -/
theorem execute_eq_testFailExitCode_iff (getErr tempDirErr : Option String)
    (minTime maxFloat64 : τ) (report : List (Timing τ)) (o : RunOptions) (rt : RunTests τ)
    (env : RunEnv) (h₀ : exitStatus o.testFailExitCode ≠ 0) (h₁ : exitStatus o.testFailExitCode ≠ 1)
    (h₂ : exitStatus o.testFailExitCode ≠ 2) :
    execute getErr tempDirErr minTime maxFloat64 report o rt env = exitStatus o.testFailExitCode ↔
      getErr = none ∧ tempDirErr = none ∧ 1 ≤ o.nodeIndex ∧ o.nodeIndex ≤ o.nodeTotal ∧
        ∃ tests, env.list = .ok tests ∧
          (runGroups rt o.toOptions (nodeGroups minTime maxFloat64 report o tests)).2 = none ∧
          mergeCover o.cover env.coverFiles = .ok ∧ env.saveErr = none ∧
          ∃ k, standing o.toOptions k false
            (reportedCases rt o.toOptions (nodeGroups minTime maxFloat64 report o tests)) = true := by
  rw [execute_of_ne_one _ _ _ _ _ _ _ _ h₁, exitCode_eq_testFailExitCode_iff h₀ h₁ h₂,
    run_returned_iff _ _ _ _ _ _ (by simp)]
  simp only [finishRun_eq_runHadFailures_iff, ne_eq, failures_runGroups_eq_nil_iff, not_forall,
    Bool.not_eq_false]

/-- With `--fail-exit-code 259`, the command exits with status 3 exactly when some key stands
as a failure after a run in which every stage succeeded. -/
theorem execute_eq_testFailExitCode_iff_sample :
    exitStatus 259 ≠ 0 ∧ exitStatus 259 ≠ 1 ∧ exitStatus 259 ≠ 2 ∧
    (execute none none (200 : Nat) maxFloat64Millis [] { defaultRunOptions with testFailExitCode := 259 }
        alwaysFailing (listedEnv versionTests) = exitStatus 259 ↔
      (none : Option String) = none ∧ (none : Option String) = none ∧
        (1 : Int) ≤ 1 ∧ (1 : Int) ≤ 1 ∧
        ∃ tests, (listedEnv versionTests).list = .ok tests ∧
          (runGroups alwaysFailing defaultRunOptions.toOptions
            (nodeGroups 200 maxFloat64Millis [] { defaultRunOptions with testFailExitCode := 259 }
              tests)).2 = none ∧
          mergeCover false (listedEnv versionTests).coverFiles = .ok ∧
          (listedEnv versionTests).saveErr = none ∧
          ∃ k, standing defaultRunOptions.toOptions k false (reportedCases alwaysFailing
            defaultRunOptions.toOptions (nodeGroups 200 maxFloat64Millis []
              { defaultRunOptions with testFailExitCode := 259 } tests)) = true) :=
  ⟨by decide, by decide, by decide, execute_eq_testFailExitCode_iff none none 200 maxFloat64Millis []
    { defaultRunOptions with testFailExitCode := 259 } alwaysFailing (listedEnv versionTests)
    (by decide) (by decide) (by decide)⟩

end GitlabRunner.Splitic
