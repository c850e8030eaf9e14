import GitlabRunner.Golang

/-!
# Errors and exit statuses of the Kubernetes executor

The executor classifies failures by the Go type of an `error` value, through `errors.As`:
a `*common.BuildError` is a script failure, anything else a runner failure; a
`*kubeerrors.StatusError` for a missing pod stops the second delete at cleanup; a
`*pull.ImagePullError` makes `Run` ask the pull manager for another policy. `Error` has one
constructor per type the executor builds or inspects, and `wrap` for
`fmt.Errorf("...: %w", err)`, through which `errors.As` looks.

`TrapCommandExitStatus` is what a sentinel line carries, and what `processLogs` sends on
`remoteProcessTerminated` for each sentinel and each log-stream error.
-/

namespace GitlabRunner.Kubernetes

/-- `api.PodPhase`. -/
inductive PodPhase where
  | pending
  | running
  | succeeded
  | failed
  | unknown
  deriving DecidableEq, Repr

/-- The error values of the executor's paths, by Go type. -/
inductive Error where
  /-- `*common.BuildError{Inner, ExitCode}`. -/
  | build (inner : Error) (exitCode : Int)
  /-- `*common.BuildError{Inner: nil, ExitCode}`. -/
  | buildNoInner (exitCode : Int)
  /-- `*commandTerminatedError{exitCode}`. -/
  | commandTerminated (exitCode : Int)
  /-- `*podPhaseError{name, phase}`. -/
  | podPhase (name : String) (phase : PodPhase)
  /-- A `*kubeerrors.StatusError` with code 404 and details kind `pods`. -/
  | podNotFound (name : String)
  /-- `*pull.ImagePullError` for an image. -/
  | imagePull (image : String)
  /-- `fmt.Errorf("<context>: %w", inner)`. -/
  | wrap (context : String) (inner : Error)
  /-- An error of no type the executor inspects: API and attach failures, `fmt.Errorf`
  without `%w`. -/
  | plain (msg : String)
  deriving DecidableEq, Repr

namespace Error

/-- `errors.As(err, &buildError)`: the exit code of the first `*common.BuildError` in the
chain. -/
def asBuildError : Error → Option Int
  | .build _ c => some c
  | .buildNoInner c => some c
  | .wrap _ inner => inner.asBuildError
  | _ => none

/-- `errors.As(err, &terminatedError)`. -/
def asCommandTerminated : Error → Option Int
  | .commandTerminated c => some c
  | .wrap _ inner => inner.asCommandTerminated
  | _ => none

/-- `errors.As(err, &imagePullErr)`. -/
def asImagePull : Error → Option String
  | .imagePull image => some image
  | .wrap _ inner => inner.asImagePull
  | _ => none

end Error

/-- `IsKubernetesPodNotFoundError`: a 404 `StatusError` whose details name a pod, found
through the wrap chain. -/
def isKubernetesPodNotFoundError : Error → Bool
  | .podNotFound _ => true
  | .wrap _ inner => isKubernetesPodNotFoundError inner
  | _ => false

/-- `shells.TrapCommandExitStatus`: the exit code a sentinel reports, and the script it
names (`nil` on the statuses `processLogs` makes up). -/
structure TrapCommandExitStatus where
  commandExitCode : Int
  script : Option String
  deriving DecidableEq, Repr

/-- `outputLogFileNotExistsExitCode`. -/
def outputLogFileNotExistsExitCode : Int := 100

/-- `unknownLogProcessorExitCode`. -/
def unknownLogProcessorExitCode : Int := 1000

/-- An error on the log processor's error channel, with its text: one in which `errors.As`
finds an `exec.CodeExitError` with its code, or any other. -/
inductive LogProcessorError where
  | codeExit (msg : String) (code : Int)
  | other (msg : String)
  deriving DecidableEq, Repr

/-- The error's text, as `fmt.Sprintf("%v", err)` prints it. -/
def LogProcessorError.text : LogProcessorError → String
  | .codeExit msg _ => msg
  | .other msg => msg

/-- `getExitCode`. -/
def getExitCode : LogProcessorError → Int
  | .codeExit _ code => code
  | .other _ => unknownLogProcessorExitCode

end GitlabRunner.Kubernetes
