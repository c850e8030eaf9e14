import GitlabRunner.Splitic.Reported

/-!
# Reading the `go test -json` stream

`runner.handle` reads the events `go test -json` prints, one JSON object a line, and turns
them into junit test cases. It keeps a buffer per `Package/Test` key in the map `outputs`:
any event opens the buffer of its key, an `output` event appends its text, and a `pass`,
`fail` or `skip` event takes the buffer's text and deletes the key. The terminal event of a
test becomes a test case, with that text as its failure contents or skip message. The
terminal event of a package only checks that its text starts with a `FAIL`, `PASS` or `SKIP`
line, and marks the run as truncated otherwise. The keys still open at the end are listed in
a warning.

The results say what the loop computes over a whole stream:
- the buffer under a key depends on the events of that key only (`lookup_handleEvents`) and
  holds the text of its `output` events since its last terminal event
  (`lookup_handleLoop`); the keys left open, which the warning lists, are those with an
  event after their last terminal one (`mem_openKeys_iff`);
- the test cases are the terminal events of tests, in order, each with the text gathered
  for its key before it (`handleLoop_testcases`);
- the run is marked truncated exactly when some package's terminal event finds a text that
  does not start with a status line (`handleLoop_panicked_iff`), such as any text the
  package printed before its `PASS` line.

`handle` reads its lines with a `bufio.Scanner`, whose buffer holds 64 KiB: at the first line
that does not fit it with its newline, `Scan` returns false and the loop ends as if the
stream had ended; `handle` never looks at `scanner.Err()` (`scanLines`). Nothing after that
line is read, and `handle` returns what it gathered before it (`handle_of_long_line`).

`runTests` hands `go test`'s standard output to `handle` and then waits for the command;
`runTestsOf` builds the `runTests` of `runGroups` from what `go test` printed and how it
exited. Over it, every failure `runGroups` records is the `fail` event of a test in a stream
that was not truncated, read before any over-long line, in one of the calls `runGroups` made
(`failures_runGroups_runTestsOf`).

Each line of the output is given with its length and the event `json.Unmarshal` makes of it,
or none. How `cmd.Wait` returns is an input too. When the scanner stopped early, `go test`
goes on writing into a pipe nobody reads, and `Wait` returns only if the rest fits in the
pipe's buffer; a `Wait` that never returns is not among the inputs. The `Time` field and the
console echo are left out, and so is the buffer pool: `Reset` makes a pooled builder empty.
-/

namespace GitlabRunner.Splitic

open Junit

/-! ## Events -/

/-- `event`: a line of `go test -json`, the fields `handle` reads. -/
structure Event (τ : Type) where
  action : String
  package : String
  test : String
  elapsed : τ
  output : String
  deriving DecidableEq, Repr

variable {τ : Type}

/-- The key of an event's buffer: `e.Package + "/" + e.Test`. -/
def Event.key (e : Event τ) : String := e.package ++ "/" ++ e.test

/-- The actions of `case "pass", "fail", "skip"`. -/
def Event.terminal (e : Event τ) : Bool :=
  e.action == "pass" || e.action == "fail" || e.action == "skip"

/-- The text an event adds to its buffer. -/
def Event.written (e : Event τ) : String := if e.action = "output" then e.output else ""

/-- `strings.ToUpper` on the ASCII actions. -/
def toUpper (s : String) : String := String.mk (s.data.map Char.toUpper)

/-- The lines a package's text may start with. -/
def statusLines : List String := ["FAIL\n", "PASS\n", "SKIP\n"]

/-- The test case `handle` makes of a test's terminal event and the text of its buffer. -/
def caseOf (e : Event τ) (output : String) : Junit.TestCase τ :=
  { name := e.test, time := e.elapsed, classname := e.package, status := toUpper e.action,
    skipped := if e.action = "skip" then output else "", error := [],
    failure := if e.action = "fail" then [⟨"", "Failed", output⟩] else [] }

/-! ## `handle` -/

/-- The variables of `handle`'s loop: the buffers by key, the test cases, and `panicked`. -/
structure HandleState (τ : Type) where
  outputs : List (String × String)
  testcases : List (Junit.TestCase τ)
  panicked : Bool

/-- A key not in `outputs` gets an empty builder from the pool. -/
def openKey (key : String) (outputs : List (String × String)) : List (String × String) :=
  if (outputs.lookup key).isSome then outputs else mapInsert key "" outputs

/-- One parsed event of `handle`'s loop. -/
def handleEvent (st : HandleState τ) (e : Event τ) : HandleState τ :=
  let outputs := openKey e.key st.outputs
  let output := (outputs.lookup e.key).getD ""
  if e.terminal then
    if e.test = "" then
      ⟨mapDelete e.key outputs, st.testcases, st.panicked || !statusLines.any (hasPrefix output)⟩
    else ⟨mapDelete e.key outputs, st.testcases ++ [caseOf e output], st.panicked⟩
  else if e.action = "output" then
    ⟨mapInsert e.key (output ++ e.output) outputs, st.testcases, st.panicked⟩
  else ⟨outputs, st.testcases, st.panicked⟩

/-- One line of the loop: an event, or `none` when `json.Unmarshal` rejects the line, which
goes to standard error. -/
def handleLine (st : HandleState τ) : Option (Event τ) → HandleState τ
  | none => st
  | some e => handleEvent st e

/-- `handle`'s loop over the lines of `go test`'s standard output. -/
def handleLoop (lines : List (Option (Event τ))) : HandleState τ :=
  lines.foldl handleLine ⟨[], [], false⟩

/-- `ErrRunWasTruncated`. -/
def errRunWasTruncated : String := "truncated test output: panic occurred?"

/-- A line of `go test`'s standard output: its length in bytes, without the newline, and the
event `json.Unmarshal` makes of it, or `none` when it rejects the line. -/
structure OutputLine (τ : Type) where
  length : Nat
  event : Option (Event τ)
  deriving DecidableEq, Repr

/-- `bufio.MaxScanTokenSize`: the size of the buffer of a `bufio.Scanner`, which a line and
its newline must fit. -/
def maxScanTokenSize : Nat := 64 * 1024

/-- The lines `scanner.Scan()` returns: those before the first line that does not fit the
buffer with its newline, where `Scan` returns false. -/
def scanLines (out : List (OutputLine τ)) : List (Option (Event τ)) :=
  (out.takeWhile (·.length < maxScanTokenSize)).map (·.event)

/-- `handle`: the test cases, and `ErrRunWasTruncated` when a package's text did not start
with a status line. -/
def handle (out : List (OutputLine τ)) : List (Junit.TestCase τ) × Option String :=
  ((handleLoop (scanLines out)).testcases,
    if (handleLoop (scanLines out)).panicked then some errRunWasTruncated else none)

/-- The keys of the warning `handle` prints after the loop: those left in `outputs`. -/
def openKeys (lines : List (Option (Event τ))) : List String :=
  (handleLoop lines).outputs.map Prod.fst

/-! ## One event -/

/-- The loop over the parsed events. -/
def handleEvents (es : List (Event τ)) : HandleState τ := es.foldl handleEvent ⟨[], [], false⟩

theorem handleLoop_eq (lines : List (Option (Event τ))) :
    handleLoop lines = handleEvents (lines.filterMap id) := by
  suffices h : ∀ st, lines.foldl handleLine st = (lines.filterMap id).foldl handleEvent st from
    h _
  induction lines with
  | nil => intro; rfl
  | cons l lines ih => cases l <;> simp [handleLine, ih]

theorem handleEvents_append (es : List (Event τ)) (e : Event τ) :
    handleEvents (es ++ [e]) = handleEvent (handleEvents es) e := by
  simp [handleEvents]

/-- What an event does to the buffer of its key. -/
def bufferStep (buf : Option String) (e : Event τ) : Option String :=
  if e.terminal then none else some (buf.getD "" ++ e.written)

theorem lookup_openKey (key k : String) (outputs : List (String × String)) :
    (openKey key outputs).lookup k =
      if key = k then some ((outputs.lookup k).getD "") else outputs.lookup k := by
  unfold openKey
  by_cases hk : key = k
  · subst hk
    cases h : outputs.lookup key <;> simp [h]
  · rw [if_neg hk]
    split
    · rfl
    · exact lookup_mapInsert_ne _ _ (Ne.symm hk)

theorem getD_lookup_openKey (key : String) (outputs : List (String × String)) :
    ((openKey key outputs).lookup key).getD "" = (outputs.lookup key).getD "" := by
  simp [lookup_openKey]

/-- An event changes the buffer of its own key only, as `bufferStep` says. -/
theorem lookup_handleEvent (st : HandleState τ) (e : Event τ) (k : String) :
    (handleEvent st e).outputs.lookup k =
      if e.key = k then bufferStep (st.outputs.lookup k) e else st.outputs.lookup k := by
  by_cases hk : e.key = k
  · subst hk
    simp only [handleEvent, if_pos rfl, bufferStep]
    by_cases ht : e.terminal = true
    · by_cases htest : e.test = "" <;> simp [ht, htest]
    · by_cases ho : e.action = "output"
      · simp [ht, ho, Event.written, getD_lookup_openKey]
      · simp [ht, ho, Event.written, lookup_openKey]
  · have hne : k ≠ e.key := Ne.symm hk
    simp only [handleEvent, if_neg hk]
    split_ifs <;>
      simp [lookup_mapDelete_ne _ hne, lookup_mapInsert_ne _ _ hne, lookup_openKey, hk]

theorem testcases_handleEvent (st : HandleState τ) (e : Event τ) :
    (handleEvent st e).testcases = st.testcases ++
      if e.terminal ∧ e.test ≠ "" then [caseOf e ((st.outputs.lookup e.key).getD "")]
      else [] := by
  simp only [handleEvent, getD_lookup_openKey]
  split_ifs <;> simp_all

theorem panicked_handleEvent (st : HandleState τ) (e : Event τ) :
    (handleEvent st e).panicked = (st.panicked ||
      (e.terminal && e.test == "" &&
        !statusLines.any (hasPrefix ((st.outputs.lookup e.key).getD "")))) := by
  simp only [handleEvent, getD_lookup_openKey]
  split_ifs <;> simp_all

/-! ## The buffers -/

/-- The events of a list after its last terminal one. -/
def sinceTerminal (es : List (Event τ)) : List (Event τ) :=
  (es.reverse.takeWhile (!·.terminal)).reverse

/-- The text gathered for key `k` over the events `es`: the text of the `output` events of
`k` since its last terminal event. -/
def gathered (k : String) (es : List (Event τ)) : String :=
  String.join ((sinceTerminal (es.filter (·.key = k))).map Event.written)

theorem sinceTerminal_append (es : List (Event τ)) (e : Event τ) :
    sinceTerminal (es ++ [e]) = if e.terminal then [] else sinceTerminal es ++ [e] := by
  cases h : e.terminal <;> simp [sinceTerminal, h]

/-- The buffer under a key is computed from the events of that key alone. -/
theorem lookup_handleEvents (es : List (Event τ)) (st : HandleState τ) (k : String) :
    (es.foldl handleEvent st).outputs.lookup k =
      (es.filter (·.key = k)).foldl bufferStep (st.outputs.lookup k) := by
  induction es generalizing st with
  | nil => rfl
  | cons e es ih =>
    rw [List.foldl_cons, ih, lookup_handleEvent]
    by_cases hk : e.key = k <;> simp [hk]

theorem foldl_bufferStep (es : List (Event τ)) :
    es.foldl bufferStep none =
      if (sinceTerminal es).isEmpty then none
      else some (String.join ((sinceTerminal es).map Event.written)) := by
  induction es using List.reverseRecOn with
  | nil => rfl
  | append_singleton es e ih =>
    rw [List.foldl_append, ih, sinceTerminal_append]
    cases ht : e.terminal
    · cases hnil : (sinceTerminal es).isEmpty
      · simp [bufferStep, ht, hnil, String.join, List.foldl_append]
      · simp [bufferStep, ht, List.isEmpty_iff.1 hnil, String.join]
    · simp [bufferStep, ht]

theorem lookup_handleEvents_eq (es : List (Event τ)) (k : String) :
    (handleEvents es).outputs.lookup k =
      if (sinceTerminal (es.filter (·.key = k))).isEmpty then none else some (gathered k es) :=
  (lookup_handleEvents es _ k).trans (foldl_bufferStep _)

/-- The buffer `handle` keeps under a key holds the text of the key's `output` events since
its last terminal event, and is absent when no event of the key came after that one. -/
theorem lookup_handleLoop (lines : List (Option (Event τ))) (k : String) :
    (handleLoop lines).outputs.lookup k =
      if (sinceTerminal ((lines.filterMap id).filter (·.key = k))).isEmpty then none
      else some (gathered k (lines.filterMap id)) := by
  rw [handleLoop_eq]
  exact lookup_handleEvents_eq _ k

theorem getD_lookup_handleEvents (es : List (Event τ)) (k : String) :
    ((handleEvents es).outputs.lookup k).getD "" = gathered k es := by
  rw [lookup_handleEvents_eq]
  cases h : (sinceTerminal (es.filter (·.key = k))).isEmpty
  · rfl
  · simp [gathered, List.isEmpty_iff.1 h, String.join]

/-- The warning after the loop lists exactly the keys with an event after their last
terminal event. -/
theorem mem_openKeys_iff (lines : List (Option (Event τ))) (k : String) :
    k ∈ openKeys lines ↔ sinceTerminal ((lines.filterMap id).filter (·.key = k)) ≠ [] := by
  rw [← List.isEmpty_eq_false]
  constructor
  · intro h
    have := lookup_isSome_of_mem_keys h
    rw [handleLoop_eq, lookup_handleEvents_eq] at this
    cases hnil : (sinceTerminal _).isEmpty <;> simp_all
  · intro h
    refine mem_keys_of_lookup_isSome ?_
    rw [handleLoop_eq, lookup_handleEvents_eq, h]
    rfl

/-! ## The test cases and the truncation mark -/

theorem zip_inits_append {α : Type} (l : List α) (a : α) :
    (l ++ [a]).inits.zip (l ++ [a]) = l.inits.zip l ++ [(l, a)] := by
  induction l with
  | nil => rfl
  | cons b l ih =>
    simp only [List.cons_append, List.inits, List.append_eq, List.zip_cons_cons,
      List.zip_map_left, ih, List.map_append, List.map_cons, List.map_nil]
    rfl

theorem handleEvents_testcases (es : List (Event τ)) :
    (handleEvents es).testcases =
      ((es.inits.zip es).filter fun p => p.2.terminal ∧ p.2.test ≠ "").map
        fun p => caseOf p.2 (gathered p.2.key p.1) := by
  induction es using List.reverseRecOn with
  | nil => rfl
  | append_singleton es e ih =>
    rw [handleEvents_append, testcases_handleEvent, ih, zip_inits_append, List.filter_append,
      List.map_append, getD_lookup_handleEvents]
    by_cases h : e.terminal ∧ e.test ≠ "" <;> simp [h]

/-- The test cases are the terminal events of tests, in order, each with the text gathered
for its key before it. -/
theorem handleLoop_testcases (lines : List (Option (Event τ))) :
    (handleLoop lines).testcases =
      (((lines.filterMap id).inits.zip (lines.filterMap id)).filter
          fun p => p.2.terminal ∧ p.2.test ≠ "").map
        fun p => caseOf p.2 (gathered p.2.key p.1) := by
  rw [handleLoop_eq]
  exact handleEvents_testcases _

/-- `handle` marks the run as truncated exactly when the terminal event of some package finds
a text that does not start with a status line. -/
theorem handleLoop_panicked_iff (lines : List (Option (Event τ))) :
    (handleLoop lines).panicked = true ↔
      ∃ p ∈ (lines.filterMap id).inits.zip (lines.filterMap id),
        p.2.terminal ∧ p.2.test = "" ∧
          statusLines.any (hasPrefix (gathered p.2.key p.1)) = false := by
  rw [handleLoop_eq]
  induction lines.filterMap id using List.reverseRecOn with
  | nil => simp [handleEvents]
  | append_singleton es e ih =>
    rw [handleEvents_append, panicked_handleEvent, zip_inits_append, getD_lookup_handleEvents]
    simp only [Bool.or_eq_true, ih, List.mem_append, List.mem_singleton]
    constructor
    · rintro (⟨p, hp, hpe⟩ | h)
      · exact ⟨p, .inl hp, hpe⟩
      · simp only [Bool.and_eq_true, beq_iff_eq, Bool.not_eq_true'] at h
        exact ⟨(es, e), .inr rfl, h.1.1, h.1.2, h.2⟩
    · rintro ⟨p, hp | rfl, hpe⟩
      · exact .inl ⟨p, hp, hpe⟩
      · simp only [Bool.and_eq_true, beq_iff_eq, Bool.not_eq_true']
        exact .inr ⟨⟨hpe.1, hpe.2.1⟩, hpe.2.2⟩


/-! ## `runTests` -/

/-- How `cmd.Wait` returned: without an error, with an `*exec.ExitError` (a non-zero exit,
as when a test failed), or with another error. -/
inductive WaitResult where
  | success
  | exitError
  | failed (msg : String)
  deriving DecidableEq, Repr

/-- What `go test` did for one call of `runTests`, from the group's index, the attempt, the
names to run and the packages: the lines it printed on standard output and how `cmd.Wait`
returned, or the error of `StdoutPipe` or `Start`. -/
def GoTest (τ : Type) : Type :=
  Nat → Nat → List String → List String → Except String (List (OutputLine τ) × WaitResult)

/-- `runTests` over what `go test` did: `handle`'s error comes first, an exit error of the
command is no error, and any other error of `cmd.Wait` is returned. `runGroups` drops the
test cases of a call that returns an error. -/
def runTestsOf (goTest : GoTest τ) : RunTests τ := fun idx attempt run pkgs =>
  match goTest idx attempt run pkgs with
  | .error err => .error err
  | .ok (out, wait) =>
    match (handle out).2, wait with
    | some err, _ => .error err
    | none, .failed err => .error err
    | none, _ => .ok (handle out).1

/-- A line too long for the scanner ends `handle`'s loop: what follows it is never read. -/
theorem handle_of_long_line (pre post : List (OutputLine τ)) (line : OutputLine τ)
    (hpre : ∀ l ∈ pre, l.length < maxScanTokenSize) (hline : maxScanTokenSize ≤ line.length) :
    handle (pre ++ line :: post) = handle pre := by
  have hp : ∀ l ∈ pre, decide (l.length < maxScanTokenSize) = true :=
    fun l hl => decide_eq_true (hpre l hl)
  have hscan : scanLines (pre ++ line :: post) = scanLines pre := by
    simp only [scanLines, List.takeWhile_append_of_pos hp, List.takeWhile_eq_self_iff.2 hp,
      List.takeWhile_cons, decide_eq_false (Nat.not_lt.2 hline), Bool.false_eq_true, if_false,
      List.append_nil]
  rw [handle, handle, hscan]

theorem runTestsOf_ok {goTest : GoTest τ} {idx attempt : Nat} {run pkgs : List String}
    {testcases : List (Junit.TestCase τ)}
    (h : runTestsOf goTest idx attempt run pkgs = .ok testcases) :
    ∃ out wait, goTest idx attempt run pkgs = .ok (out, wait) ∧
      (handleLoop (scanLines out)).panicked = false ∧
      testcases = (handleLoop (scanLines out)).testcases := by
  unfold runTestsOf at h
  split at h
  · cases h
  · rename_i out wait hgo
    refine ⟨out, wait, hgo, ?_⟩
    cases hp : (handleLoop (scanLines out)).panicked <;> cases wait <;>
      simp_all [handle]

/-- Every test case `handle` returns is made of a terminal event of a test in the stream. -/
theorem mem_testcases_handleLoop {lines : List (Option (Event τ))} {tc : Junit.TestCase τ}
    (h : tc ∈ (handleLoop lines).testcases) :
    ∃ e, some e ∈ lines ∧ e.terminal ∧ e.test ≠ "" ∧ ∃ output, tc = caseOf e output := by
  rw [handleLoop_eq, handleEvents_testcases] at h
  obtain ⟨p, hp, rfl⟩ := List.mem_map.1 h
  obtain ⟨hp, hterm, htest⟩ := by simpa using hp
  exact ⟨p.2, by simpa using (List.of_mem_zip hp).2, hterm, htest, _, rfl⟩

/-- Every failure `runGroups` records over `runTests` is the `fail` event `go test` printed,
in one of the calls `runGroups` made, for a test that is neither quarantined nor flaky, on a
line the scanner read, in a stream that was not truncated. -/
theorem failures_runGroups_runTestsOf (goTest : GoTest τ) (o : Options)
    (groups : List RunGroup) {k : String}
    (hk : k ∈ (runGroups (runTestsOf goTest) o groups).1.failures) :
    ∃ c ∈ runGroupsCalls (runTestsOf goTest) o groups, ∃ out wait,
      goTest c.idx c.attempt c.run c.packages = .ok (out, wait) ∧
      (handleLoop (scanLines out)).panicked = false ∧
      ∃ e, some e ∈ scanLines out ∧ e.action = "fail" ∧ e.test ≠ "" ∧
        e.package ++ " " ++ e.test = k ∧
        (has o.quarantined k || has o.quarantined e.test) = false ∧
        (has o.flaky k || has o.flaky e.test) = false := by
  obtain ⟨tc, htc, hv⟩ := verdict_of_mem_failures_runGroups hk
  obtain ⟨rfl, hfailed, hq, hf⟩ := verdict_eq_some_true.1 hv
  obtain ⟨c, hc, testcases, hrt, htc⟩ := mem_reportedCases htc
  obtain ⟨out, wait, hgo, hpanic, rfl⟩ := runTestsOf_ok hrt
  obtain ⟨e, he, -, htest, output, rfl⟩ := mem_testcases_handleLoop htc
  have hfail : e.action = "fail" := by
    by_contra hne
    exact hfailed ⟨rfl, by simp [caseOf, hne]⟩
  exact ⟨c, hc, out, wait, hgo, hpanic, e, he, hfail, htest, rfl, hq, hf⟩

/-- A `go test` run in which `TestDockerPull` of `helpers` fails. -/
def failingGoTest : GoTest Nat := fun _ _ _ _ =>
  .ok ([⟨90, some ⟨"run", "gitlab.com/gitlab-org/gitlab-runner/helpers", "TestDockerPull", 0, ""⟩⟩,
    ⟨120, some ⟨"output", "gitlab.com/gitlab-org/gitlab-runner/helpers", "TestDockerPull", 0,
      "--- FAIL: TestDockerPull\n"⟩⟩,
    ⟨100, some ⟨"fail", "gitlab.com/gitlab-org/gitlab-runner/helpers", "TestDockerPull", 1500, ""⟩⟩,
    ⟨90, some ⟨"output", "gitlab.com/gitlab-org/gitlab-runner/helpers", "", 0, "FAIL\n"⟩⟩,
    ⟨80, some ⟨"fail", "gitlab.com/gitlab-org/gitlab-runner/helpers", "", 1600, ""⟩⟩], .exitError)

/-- The failure recorded for that run goes back to the `fail` event of the test, in the first
call `runGroups` made. -/
theorem failures_runGroups_runTestsOf_sample :
    ∃ c ∈ runGroupsCalls (runTestsOf failingGoTest) ⟨1, [], []⟩ [flakyGroup], ∃ out wait,
      failingGoTest c.idx c.attempt c.run c.packages = .ok (out, wait) ∧
      (handleLoop (scanLines out)).panicked = false ∧
      ∃ e, some e ∈ scanLines out ∧ e.action = "fail" ∧ e.test ≠ "" ∧
        e.package ++ " " ++ e.test = "gitlab.com/gitlab-org/gitlab-runner/helpers TestDockerPull" ∧
        (has [] "gitlab.com/gitlab-org/gitlab-runner/helpers TestDockerPull" ||
          has [] e.test) = false ∧
        (has [] "gitlab.com/gitlab-org/gitlab-runner/helpers TestDockerPull" ||
          has [] e.test) = false :=
  failures_runGroups_runTestsOf failingGoTest ⟨1, [], []⟩ [flakyGroup] (by decide)

end GitlabRunner.Splitic
