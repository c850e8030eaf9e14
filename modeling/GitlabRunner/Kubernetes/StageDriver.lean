import GitlabRunner.Kubernetes.LogProcessing

/-!
# The attach-mode stage driver

`runWithAttach` runs one stage: it starts a `runInContainer` goroutine, which attaches to
the build (or helper) container, sends the stage command and then waits for an exit status
on the executor's unbuffered channel `remoteProcessTerminated`; meanwhile a pod watcher
polls the pod's phase. The stage's result is whichever of the goroutine's channel, the
watcher's channel and the context's `Done` the `select` takes first.

The first half of the file is the classification of that result (`runWithAttachResult`),
composed with what `runInContainer` sends for a status (`statusVerdict`) and with the status
`processLogs` makes up for a log-stream error: `runWithAttach_result` lists the result for
every way a stage can end.

The second half is the system of goroutines across stages: the driver, one `runInContainer`
goroutine per stage, the scripts running in the container and the statuses `processLogs`
has yet to hand over. A goroutine whose stage already returned keeps waiting on
`remoteProcessTerminated`: the goroutine does not stop when its stage ends, and after a
failed attach it goes on to wait anyway. `processLogs` hands each status to any waiting
goroutine (`deliver`), so a leftover goroutine can take a later stage's status, and a stage
can return an earlier stage's exit code (`leftover_goroutine_takes_later_status`).
-/

namespace GitlabRunner.Kubernetes

/-! ## One stage -/

/-- How `runWithAttach`'s `select` resolves. -/
inductive Selected where
  /-- A value from `runInContainer`'s channel. -/
  | container (err : Option Error)
  /-- A value from `watchPodStatus`'s channel: an error, or `nil` once the channel is
  closed. -/
  | podStatus (err : Option Error)
  /-- `ctx.Done()`. -/
  | done
  deriving DecidableEq, Repr

/-- `runWithAttach` once `ensurePodsConfigured` succeeded: its result for each branch. -/
def runWithAttachResult : Selected → Option Error
  | .container none => none
  | .container (some err) =>
    match err.asCommandTerminated with
    | some c => some (.build err c)
    | none => some err
  | .podStatus (some err) =>
    if isKubernetesPodNotFoundError err then some err else some (.build err 0)
  | .podStatus none => some (.buildNoInner 0)
  | .done => some (.plain "build aborted")

/-- What `runInContainer` sends after receiving `exitStatus` from `remoteProcessTerminated`. -/
def statusVerdict (exitStatus : TrapCommandExitStatus) : Option Error :=
  if exitStatus.commandExitCode = 0 then none
  else some (.commandTerminated exitStatus.commandExitCode)

/-- An error `checkPodStatus` returns, which `watchPodStatus` forwards: the pod is gone, or
its phase is not `Running`. -/
inductive PodStatusError where
  | notFound (name : String)
  | phase (name : String) (phase : PodPhase)
  deriving DecidableEq, Repr

/-- The Go value of a `PodStatusError`. -/
def PodStatusError.toError : PodStatusError → Error
  | .notFound name => .podNotFound name
  | .phase name p => .podPhase name p

/-- What produced the status a stage's goroutine received from `processLogs`. -/
inductive StatusSource where
  /-- A sentinel line the parser accepted. -/
  | sentinel (status : TrapCommandExitStatus)
  /-- An error of the log processor. -/
  | logError (e : LogProcessorError)
  deriving DecidableEq, Repr

/-- The status received. -/
def StatusSource.status : StatusSource → TrapCommandExitStatus
  | .sentinel status => status
  | .logError e => errorStatus e

/-- How one attach-mode stage ends. -/
inductive StageOutcome where
  /-- The attach retry fails; `runInContainer` sends its error first. -/
  | attachFailed (msg : String)
  /-- The attach succeeds and the goroutine receives a status. -/
  | exited (src : StatusSource)
  /-- The pod watcher reports an error. -/
  | watcher (e : PodStatusError)
  /-- The stage's context is cancelled and the `select` takes `Done`. -/
  | cancelled
  /-- The stage's context is cancelled, the watcher has closed its channel, and the
  `select` takes the closed channel. -/
  | watcherClosed
  deriving DecidableEq, Repr

/-- The branch the `select` takes for a stage outcome. -/
def StageOutcome.selected : StageOutcome → Selected
  | .attachFailed msg => .container (some (.plain msg))
  | .exited src => .container (statusVerdict src.status)
  | .watcher e => .podStatus (some e.toError)
  | .cancelled => .done
  | .watcherClosed => .podStatus none

/-- What `runWithAttach` returns, for every way a stage ends: nothing on a zero status; a
`BuildError` with the status's code on a non-zero status, whether the script's sentinel or
`processLogs`' made-up status for a log-stream error; a `BuildError` with code 0 on a pod
phase other than `Running`; the error itself, no `BuildError`, on an attach failure and on a
missing pod; on cancellation "build aborted", or a `BuildError` with no inner error when
the `select` takes the watcher's closed channel. -/
theorem runWithAttach_result (o : StageOutcome) :
    runWithAttachResult o.selected =
      match o with
      | .attachFailed msg => some (.plain msg)
      | .exited src =>
        if src.status.commandExitCode = 0 then none
        else some (.build (.commandTerminated src.status.commandExitCode)
          src.status.commandExitCode)
      | .watcher (.notFound name) => some (.podNotFound name)
      | .watcher (.phase name phase) => some (.build (.podPhase name phase) 0)
      | .cancelled => some (.plain "build aborted")
      | .watcherClosed => some (.buildNoInner 0) := by
  rcases o with msg | src | e | _ | _
  · rfl
  · simp only [StageOutcome.selected, statusVerdict]
    split <;> rfl
  · cases e <;> rfl
  · rfl
  · rfl

/-- A pod that stops running during a stage, and a log stream that fails with an error
carrying no exit code, both make `runWithAttach` return a `BuildError`. -/
theorem podPhase_and_logError_are_buildErrors :
    (runWithAttachResult (StageOutcome.watcher (.phase "job-pod" .failed)).selected).bind
        Error.asBuildError = some 0 ∧
      (runWithAttachResult
        (StageOutcome.exited (.logError (.other "unexpected EOF"))).selected).bind
          Error.asBuildError = some 1000 := ⟨rfl, rfl⟩

/-- The failure classes of an attach-mode stage that does not end on the watcher's closed
channel: the result is a `BuildError` exactly on a non-zero status received by the stage's
goroutine (with that code), whether the script's sentinel or `processLogs`' made-up status
for a log-stream error (the error's `CodeExitError` code, or 1000), and on a pod phase other
than `Running` (with code 0); attach errors, a missing pod and a cancellation seen through
`Done` are errors that are not `BuildError`s; a zero status gives no error. -/
theorem runWithAttach_failure_classes (o : StageOutcome) (ho : o ≠ .watcherClosed) :
    (runWithAttachResult o.selected).bind Error.asBuildError =
        (match o with
         | .exited src =>
           if src.status.commandExitCode = 0 then none else some src.status.commandExitCode
         | .watcher (.phase _ _) => some 0
         | _ => none) ∧
      (runWithAttachResult o.selected = none ↔
        ∃ src, o = .exited src ∧ src.status.commandExitCode = 0) := by
  rw [runWithAttach_result]
  rcases o with msg | src | e | _ | _
  · simp [Error.asBuildError]
  · by_cases h : src.status.commandExitCode = 0 <;> simp [h, Error.asBuildError]
  · cases e <;> simp [Error.asBuildError]
  · simp [Error.asBuildError]
  · exact absurd rfl ho

/-- A log stream that ends with an `exec.CodeExitError` of code 137 fails the stage with a
`BuildError` of code 137. -/
theorem runWithAttach_failure_classes_codeExit :
    StageOutcome.exited (.logError (.codeExit "command terminated with exit code 137" 137)) ≠
        .watcherClosed ∧
      (runWithAttachResult (StageOutcome.exited
        (.logError (.codeExit "command terminated with exit code 137" 137))).selected).bind
          Error.asBuildError = some 137 :=
  ⟨by decide, (runWithAttach_failure_classes _ (by decide)).1⟩

/-! ## Stages across one pod -/

/-- Where a `runInContainer` goroutine is. -/
inductive GoroutinePhase where
  /-- In `retryable.Run()`: attaching and sending the stage command. -/
  | attaching
  /-- Blocked in `<-s.remoteProcessTerminated`. -/
  | awaitingStatus
  /-- About to send its verdict on `errCh`. -/
  | sending (err : Option Error)
  /-- Returned, `errCh` closed. -/
  | finished
  deriving DecidableEq, Repr

/-- A status `processLogs` is about to send, with the stage whose script printed it
(`none` for a status made up from a log-stream error). -/
structure PendingStatus where
  origin : Option Nat
  status : TrapCommandExitStatus
  deriving DecidableEq, Repr

/-- A `runInContainer` goroutine: the stage that started it, where it is, the value in its
channel `errCh` (capacity 1) and the status it took from `remoteProcessTerminated`. -/
structure Goroutine where
  stage : Nat
  phase : GoroutinePhase
  errCh : Option (Option Error)
  consumed : Option PendingStatus
  deriving DecidableEq, Repr

/-- The attach-mode stages run on one pod. -/
structure Stages where
  /-- The `runInContainer` goroutines, one per stage, by stage number. -/
  goroutines : List Goroutine
  /-- The stage whose `runWithAttach` is in its `select`. -/
  driver : Option Nat
  /-- The stages whose scripts run in the container. -/
  running : List Nat
  /-- The statuses `processLogs` has yet to send, in log order; it is blocked on the first. -/
  pending : List PendingStatus
  /-- What each `runWithAttach` returned, in order. -/
  results : List (Nat × Option Error)
  deriving DecidableEq, Repr

/-- No stage started yet. -/
def Stages.init : Stages := ⟨[], none, [], [], []⟩

/-- An atomic step of one party. -/
inductive StagesStep where
  /-- `Run` calls `runWithAttach`, which starts the stage's `runInContainer` goroutine. -/
  | startStage
  /-- Goroutine `g`'s attach retry returns `err`. -/
  | attach (g : Nat) (err : Option Error)
  /-- Stage `k`'s script exits and its sentinel reaches the log. -/
  | scriptExit (k : Nat) (status : TrapCommandExitStatus)
  /-- The log processor reports an error. -/
  | logFailure (e : LogProcessorError)
  /-- `processLogs`' send on `remoteProcessTerminated` meets goroutine `g`'s receive. -/
  | deliver (g : Nat)
  /-- Goroutine `g` sends its verdict on `errCh`, returns and closes it. -/
  | send (g : Nat)
  /-- The driver's `select` takes the value on its goroutine's channel. -/
  | receive
  /-- The driver's `select` takes the pod watcher's error. -/
  | watcher (e : PodStatusError)
  /-- The driver's `select` takes `ctx.Done()`. -/
  | cancel
  deriving DecidableEq, Repr

namespace Stages

/-- The driver returns `result` for its stage. -/
def finish (s : Stages) (k : Nat) (result : Option Error) : Stages :=
  { s with driver := none, results := s.results ++ [(k, result)] }

/-- One step, or `none` when the step is not enabled. -/
def step (s : Stages) : StagesStep → Option Stages
  | .startStage =>
    match s.driver with
    | none =>
      some { s with goroutines := s.goroutines ++ [⟨s.goroutines.length, .attaching, none, none⟩],
                    driver := some s.goroutines.length }
    | some _ => none
  | .attach g err =>
    match s.goroutines[g]? with
    | some ⟨stage, .attaching, ch, c⟩ =>
      match err with
      | none => some { s with goroutines := s.goroutines.set g ⟨stage, .awaitingStatus, ch, c⟩,
                              running := s.running ++ [stage] }
      -- `errCh <- err`, and no `return`: the goroutine goes on to wait for a status.
      | some e =>
        some { s with goroutines := s.goroutines.set g ⟨stage, .awaitingStatus, some (some e), c⟩ }
    | _ => none
  | .scriptExit k status =>
    if k ∈ s.running then
      some { s with running := s.running.erase k, pending := s.pending ++ [⟨some k, status⟩] }
    else none
  | .logFailure e => some { s with pending := s.pending ++ [⟨none, errorStatus e⟩] }
  | .deliver g =>
    match s.pending, s.goroutines[g]? with
    | p :: ps, some ⟨stage, .awaitingStatus, ch, _⟩ =>
      some { s with pending := ps,
                    goroutines := s.goroutines.set g
                      ⟨stage, .sending (statusVerdict p.status), ch, some p⟩ }
    | _, _ => none
  | .send g =>
    match s.goroutines[g]? with
    | some ⟨stage, .sending r, none, c⟩ =>
      some { s with goroutines := s.goroutines.set g ⟨stage, .finished, some r, c⟩ }
    | _ => none
  | .receive =>
    match s.driver with
    | some k =>
      match s.goroutines[k]? with
      | some ⟨stage, phase, some r, c⟩ =>
        some ({ s with goroutines := s.goroutines.set k ⟨stage, phase, none, c⟩ }.finish k
          (runWithAttachResult (.container r)))
      | _ => none
    | none => none
  | .watcher e =>
    match s.driver with
    | some k => some (s.finish k (runWithAttachResult (.podStatus (some e.toError))))
    | none => none
  | .cancel =>
    match s.driver with
    | some k => some (s.finish k (runWithAttachResult .done))
    | none => none

/-- The state after a schedule of steps, if every step is enabled in turn. -/
def runSchedule (s : Stages) : List StagesStep → Option Stages
  | [] => some s
  | a :: as => (s.step a).bind fun s' => s'.runSchedule as

end Stages

/-- Two schedules, each also the one Go's runtime follows when the status goes to the
goroutine that has waited longest. A goroutine left over from a stage whose attach failed
takes the next stage's status. A stage that ended through the pod watcher while its attach
was still retrying leaves a goroutine whose script later prints exit code 3; the next
stage's goroutine, waiting already, receives it, and stage 1 returns a `BuildError` with
stage 0's code. -/
theorem leftover_goroutine_takes_later_status :
    ((Stages.init.runSchedule
        [.startStage, .attach 0 (some (.plain "unable to upgrade connection")), .receive,
          .startStage, .attach 1 none, .scriptExit 1 ⟨0, none⟩, .deliver 0]).map
      fun s => (s.goroutines.map Goroutine.consumed, s.results)) =
        some ([some ⟨some 1, ⟨0, none⟩⟩, none],
          [(0, some (.plain "unable to upgrade connection"))]) ∧
    ((Stages.init.runSchedule
        [.startStage, .watcher (.phase "job-pod" .pending), .startStage, .attach 1 none,
          .attach 0 none, .scriptExit 0 ⟨3, none⟩, .deliver 1, .send 1, .receive]).map
      Stages.results) =
        some [(0, some (.build (.podPhase "job-pod" .pending) 0)),
          (1, some (.build (.commandTerminated 3) 3))] := by
  decide

end GitlabRunner.Kubernetes
