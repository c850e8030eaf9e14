import GitlabRunner.Golang
import GitlabRunner.Kubernetes.Api

/-!
# The executor's state

`executor` holds, for one job, the runner configuration it read in `Prepare`, the handles of
the objects it created on the cluster (`pod`, `configMap`, `credentials`, `services`), the
proxy pool it fills while building containers, the pull-policy manager and the memoised
answer of `isDefaultBuildsDirVolumeRequired`. The record is flat, as the Go struct is after
its embedded `AbstractExecutor` and `Config` are read off.

`pull.Manager` lives in `internal/pull`, which is not under `src/`: it is modelled from the
spec. Go maps (`ProxyPool`, labels) are association lists, updated by `mapInsert`.
-/

namespace GitlabRunner.Kubernetes

/-- Modelled from the spec: `pull.Manager` (`internal/pull` is not under `src/`). The
configured pull policies in order and, per image, how many of them it has passed. -/
structure PullManager where
  policies : List String
  passed : List (String × Nat)
  deriving DecidableEq, Repr

namespace PullManager

/-- How many policies `image` has passed. -/
def passedFor (m : PullManager) (image : String) : Nat := (m.passed.lookup image).getD 0

/-- Modelled from the spec: `GetPullPolicyFor(image)` returns the current policy for the
image (the empty policy, Kubernetes' default, when none is configured). -/
def getPullPolicyFor (m : PullManager) (image : String) : String :=
  m.policies.getD (m.passedFor image) ""

/-- Modelled from the spec: `UpdatePolicyForImage(attempt, err)` advances the failed
image to its next policy and returns `true`, or returns `false` when the list is
exhausted. -/
def updatePolicyForImage (m : PullManager) (_attempt : Nat) (image : String) :
    Bool × PullManager :=
  if m.passedFor image + 1 < m.policies.length then
    (true, { m with passed := mapInsert image (m.passedFor image + 1) m.passed })
  else (false, m)

end PullManager

/-- `helperimage.Info`: the helper image's OS type, its reference (`Info.String()`) and its
command. -/
structure HelperImageInfo where
  osType : String
  name : String
  cmd : List String
  deriving DecidableEq, Repr

/-- `helperimage.OSTypeWindows`. -/
def osTypeWindows : String := "windows"

/-- `proxy.Settings`: the service name and the ports of a proxy-pool entry. -/
structure ProxySettings where
  serviceName : String
  ports : List Port
  deriving DecidableEq, Repr

/-- A `*api.Secret` or `*api.ConfigMap` as the executor holds it: its name and owner
references (the data it carries is not modelled). -/
structure OwnedObject where
  name : String
  ownerReferences : List OwnerReference
  deriving DecidableEq, Repr

/-- `kubernetesOptions`: the build image and the services collected by `getServices`. -/
structure KubernetesOptions where
  image : Image
  services : List Image
  deriving DecidableEq, Repr

/-- `executor`, with the configuration it reads and the state it keeps. -/
structure Executor where
  /-- `s.Config.Kubernetes.Volumes`. -/
  volumes : KubernetesVolumes
  /-- `s.Config.Kubernetes.Image`. -/
  configImage : String
  /-- `s.Config.Kubernetes.AllowedImages`. -/
  allowedImages : List String
  /-- `s.Config.Kubernetes.AllowedServices`. -/
  allowedServices : List String
  /-- `s.Config.Kubernetes.ImagePullSecrets`. -/
  imagePullSecrets : List String
  /-- `s.Config.Kubernetes.HelperImage`. -/
  helperImage : String
  /-- `s.Build.Runner.Kubernetes.PodLabels`. -/
  podLabels : List (String × String)
  /-- `s.configurationOverwrites.podAnnotations`. -/
  podAnnotations : List (String × String)
  /-- `s.configurationOverwrites.namespace`. -/
  kubeNamespace : String
  /-- `s.Build.RootDir`. -/
  rootDir : String
  /-- `s.Build.JobInfo.ProjectID`. -/
  projectID : Nat
  /-- `s.Build.JobResponse.ID`. -/
  jobID : Nat
  /-- `s.Build.ProjectUniqueName()`. -/
  projectUniqueName : String
  /-- `s.BuildShell.DockerCommand`. -/
  dockerCommand : List String
  /-- `s.options`. -/
  options : KubernetesOptions
  /-- `s.helperImageInfo`. -/
  helperImageInfo : HelperImageInfo
  /-- `s.pullManager`. -/
  pullManager : PullManager
  /-- `s.ProxyPool`. -/
  proxyPool : List (String × ProxySettings)
  /-- `s.requireDefaultBuildsDirVolume`. -/
  requireDefaultBuildsDirVolume : Option Bool
  /-- `s.pod`. -/
  pod : Option Pod
  /-- `s.configMap`. -/
  configMap : Option OwnedObject
  /-- `s.credentials`. -/
  credentials : Option OwnedObject
  /-- `s.services`. -/
  services : List Service
  deriving DecidableEq, Repr

end GitlabRunner.Kubernetes
