import GitlabRunner.Kubernetes.Errors

/-!
# Kubernetes objects and runner configuration

The parts of the Kubernetes API objects (`k8s.io/api/core/v1`, `metav1`) that the executor
sets or reads, and the runner's configuration records (`common.KubernetesConfig`'s volumes,
`common.Image`, `common.Port`) that it reads them from. Maps of the Go code are association
lists in the map's iteration order; a field no modelled function reads is left out.
-/

namespace GitlabRunner.Kubernetes

/-! ## API objects -/

/-- `metav1.OwnerReference`. -/
structure OwnerReference where
  apiVersion : String
  kind : String
  name : String
  uid : String
  deriving DecidableEq, Repr

/-- `api.VolumeMount`. -/
structure VolumeMount where
  name : String
  mountPath : String
  subPath : String
  readOnly : Bool
  deriving DecidableEq, Repr

/-- The `api.VolumeSource` kinds the executor builds. -/
inductive VolumeSource where
  | hostPath (path : String)
  | secret (secretName : String) (items : List (String × String))
  | persistentVolumeClaim (claimName : String) (readOnly : Bool)
  | configMap (name : String) (items : List (String × String)) (defaultMode : Option Nat)
      (optional : Option Bool)
  | emptyDir (medium : String)
  | csi (driver : String) (fsType : String) (readOnly : Bool)
      (volumeAttributes : List (String × String))
  deriving DecidableEq, Repr

/-- `api.Volume`. -/
structure Volume where
  name : String
  source : VolumeSource
  deriving DecidableEq, Repr

/-- `api.Container`, with the fields the model follows. `ports` are the `ContainerPort`
values. -/
structure Container where
  name : String
  image : String
  imagePullPolicy : String
  command : List String
  args : List String
  ports : List Int
  volumeMounts : List VolumeMount
  stdin : Bool
  deriving DecidableEq, Repr

/-- `api.RestartPolicyNever`. -/
def restartPolicyNever : String := "Never"

/-- `api.PodSpec`, with the fields the model follows. -/
structure PodSpec where
  volumes : List Volume
  restartPolicy : String
  initContainers : List Container
  containers : List Container
  imagePullSecrets : List String
  deriving DecidableEq, Repr

/-- `api.Pod`: its metadata and spec. `name` and `uid` are set by the API server. -/
structure Pod where
  name : String
  uid : String
  generateName : String
  podNamespace : String
  labels : List (String × String)
  annotations : List (String × String)
  spec : PodSpec
  deriving DecidableEq, Repr

/-- `api.ServicePort`. -/
structure ServicePort where
  port : Int
  targetPort : Int
  name : String
  deriving DecidableEq, Repr

/-- `api.Service`: metadata and the spec the executor sets (type `ClusterIP`). -/
structure Service where
  name : String
  generateName : String
  serviceNamespace : String
  ownerReferences : List OwnerReference
  ports : List ServicePort
  selector : List (String × String)
  deriving DecidableEq, Repr

/-- `int32(n)`: the two's-complement wrap of a Go `int` into 32 bits. -/
def toInt32 (n : Int) : Int := (n + 2 ^ 31) % 2 ^ 32 - 2 ^ 31

/-! ## Runner configuration -/

/-- `common.KubernetesHostPath`. -/
structure HostPathVolume where
  name : String
  mountPath : String
  subPath : String
  readOnly : Bool
  hostPath : String
  deriving DecidableEq, Repr

/-- `common.KubernetesSecret`. -/
structure SecretVolume where
  name : String
  mountPath : String
  subPath : String
  readOnly : Bool
  items : List (String × String)
  deriving DecidableEq, Repr

/-- `common.KubernetesPVC`. -/
structure PVCVolume where
  name : String
  mountPath : String
  subPath : String
  readOnly : Bool
  deriving DecidableEq, Repr

/-- `common.KubernetesConfigMap`. -/
structure ConfigMapVolume where
  name : String
  mountPath : String
  subPath : String
  readOnly : Bool
  items : List (String × String)
  deriving DecidableEq, Repr

/-- `common.KubernetesEmptyDir`. -/
structure EmptyDirVolume where
  name : String
  mountPath : String
  subPath : String
  medium : String
  deriving DecidableEq, Repr

/-- `common.KubernetesCSI`. -/
structure CSIVolume where
  name : String
  mountPath : String
  subPath : String
  readOnly : Bool
  driver : String
  fsType : String
  volumeAttributes : List (String × String)
  deriving DecidableEq, Repr

/-- `common.KubernetesVolumes`. -/
structure KubernetesVolumes where
  hostPaths : List HostPathVolume
  pvcs : List PVCVolume
  configMaps : List ConfigMapVolume
  secrets : List SecretVolume
  emptyDirs : List EmptyDirVolume
  csis : List CSIVolume
  deriving DecidableEq, Repr

/-- `common.Port`. -/
structure Port where
  number : Int
  protocol : String
  name : String
  deriving DecidableEq, Repr

/-- `common.Image`: the build image or a service of the job (`Alias` is `aliasName`, as
`alias` is a keyword). -/
structure Image where
  name : String
  aliasName : String
  entrypoint : List String
  command : List String
  ports : List Port
  deriving DecidableEq, Repr

end GitlabRunner.Kubernetes
