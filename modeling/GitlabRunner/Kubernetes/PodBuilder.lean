import GitlabRunner.Kubernetes.Executor

/-!
# The pod builder

`setupBuildPod` and `preparePodConfig` turn the job and the runner configuration into the
pod spec that is patched by the user's `pod_spec` entries and then created. Every container
gets `getVolumeMounts()`, the pod gets `getVolumes()`; the two are separate functions that
must agree: a mount whose name is no pod volume, or a pod volume nobody mounts, makes the
pod invalid. Both ask `isDefaultBuildsDirVolumeRequired` whether to add the `repo` volume at
the build root; it memoises its answer in the executor.

The functions here thread the executor, as the Go methods mutate it: the memo and the proxy
pool (which `buildContainer` fills for containers that expose ports) are the only fields
they change (`buildContainer_state`, `setupBuildPodConfig_state`). Under the memo's
invariant `MemoOK` each of `getVolumeMounts` and `getVolumes` returns a fixed list,
`volumeMounts` and `podVolumes`, whose names are a permutation of each other
(`volumeMounts_names_perm`). `podConfig_well_formed` assembles the pod's shape.
-/

namespace GitlabRunner.Kubernetes

/-- `buildContainerName`. -/
def buildContainerName : String := "build"

/-- `helperContainerName`. -/
def helperContainerName : String := "helper"

/-- `common.VerifyAllowedImageOptions`. -/
structure VerifyAllowedImageOptions where
  image : String
  optionName : String
  allowedImages : List String
  internalImages : List String
  deriving DecidableEq, Repr

/-- What the pod builder calls that is not under `src/`. -/
structure Collaborators where
  /-- `common.VerifyAllowedImage`: `nil`, or its error. -/
  verifyAllowedImage : VerifyAllowedImageOptions → Option Error
  /-- `s.Build.GetAllVariables().ExpandValue`. -/
  expandAll : String → String
  /-- `s.Build.Variables.ExpandValue`. -/
  expandJob : String → String
  /-- `common.AppVersion.Variables().ExpandValue`. -/
  expandAppVersion : String → String
  /-- The error of `s.getHostAliases()` (the feature checker and `createHostAliases`), if
  any; the host aliases themselves are not modelled. -/
  hostAliasesError : Option Error

/-- `getServices`: the configured services, then the job's, each kept when its name is not
empty. -/
def getServices (configServices buildServices : List Image) : List Image :=
  configServices.filter (·.name ≠ "") ++ buildServices.filter (·.name ≠ "")

/-! ## Configured volumes -/

/-- `getVolumeMountsForConfig`: one mount per configured volume, kind by kind. -/
def getVolumeMountsForConfig (v : KubernetesVolumes) : List VolumeMount :=
  v.hostPaths.map (fun m => ⟨m.name, m.mountPath, m.subPath, m.readOnly⟩) ++
  v.secrets.map (fun m => ⟨m.name, m.mountPath, m.subPath, m.readOnly⟩) ++
  v.pvcs.map (fun m => ⟨m.name, m.mountPath, m.subPath, m.readOnly⟩) ++
  v.configMaps.map (fun m => ⟨m.name, m.mountPath, m.subPath, m.readOnly⟩) ++
  v.emptyDirs.map (fun m => ⟨m.name, m.mountPath, m.subPath, false⟩) ++
  v.csis.map (fun m => ⟨m.name, m.mountPath, m.subPath, m.readOnly⟩)

/-- `getVolumesForHostPaths`: an empty `HostPath` falls back to the mount path. -/
def getVolumesForHostPaths (v : KubernetesVolumes) : List Volume :=
  v.hostPaths.map fun volume =>
    ⟨volume.name, .hostPath (if volume.hostPath = "" then volume.mountPath else volume.hostPath)⟩

/-- `getVolumesForSecrets`. -/
def getVolumesForSecrets (v : KubernetesVolumes) : List Volume :=
  v.secrets.map fun volume => ⟨volume.name, .secret volume.name volume.items⟩

/-- `getVolumesForPVCs`. -/
def getVolumesForPVCs (v : KubernetesVolumes) : List Volume :=
  v.pvcs.map fun volume => ⟨volume.name, .persistentVolumeClaim volume.name volume.readOnly⟩

/-- `getVolumesForConfigMaps`. -/
def getVolumesForConfigMaps (v : KubernetesVolumes) : List Volume :=
  v.configMaps.map fun volume => ⟨volume.name, .configMap volume.name volume.items none none⟩

/-- `getVolumesForEmptyDirs`. -/
def getVolumesForEmptyDirs (v : KubernetesVolumes) : List Volume :=
  v.emptyDirs.map fun volume => ⟨volume.name, .emptyDir volume.medium⟩

/-- `getVolumesForCSIs`. -/
def getVolumesForCSIs (v : KubernetesVolumes) : List Volume :=
  v.csis.map fun volume =>
    ⟨volume.name, .csi volume.driver volume.fsType volume.readOnly volume.volumeAttributes⟩

/-- `getVolumesForConfig`. -/
def getVolumesForConfig (v : KubernetesVolumes) : List Volume :=
  getVolumesForHostPaths v ++ getVolumesForSecrets v ++ getVolumesForPVCs v ++
    getVolumesForConfigMaps v ++ getVolumesForEmptyDirs v ++ getVolumesForCSIs v

/-- The configured volumes and their mounts come in the same order, under the same names. -/
theorem getVolumesForConfig_names (v : KubernetesVolumes) :
    (getVolumesForConfig v).map Volume.name =
      (getVolumeMountsForConfig v).map VolumeMount.name := by
  simp [getVolumesForConfig, getVolumeMountsForConfig, getVolumesForHostPaths,
    getVolumesForSecrets, getVolumesForPVCs, getVolumesForConfigMaps, getVolumesForEmptyDirs,
    getVolumesForCSIs, Function.comp_def]

/-! ## The executor's volumes -/

namespace Executor

/-- `logsDir`. -/
def logsDir (s : Executor) : String :=
  "/logs-" ++ toString s.projectID ++ "-" ++ toString s.jobID

/-- `scriptsDir`. -/
def scriptsDir (s : Executor) : String :=
  "/scripts-" ++ toString s.projectID ++ "-" ++ toString s.jobID

/-- `logFile`: `path.Join(s.logsDir(), "output.log")`. -/
def logFile (s : Executor) : String := s.logsDir ++ "/output.log"

/-- The answer `isDefaultBuildsDirVolumeRequired` computes: no configured mount is at the
build root. -/
def buildsDirVolumeRequired (v : KubernetesVolumes) (rootDir : String) : Bool :=
  !(getVolumeMountsForConfig v).any (·.mountPath == rootDir)

/-- The answer for the executor's configuration. -/
def defaultBuildsDirRequired (s : Executor) : Bool := buildsDirVolumeRequired s.volumes s.rootDir

/-- `isDefaultBuildsDirVolumeRequired`: the memoised answer, or the computed one, memoised. -/
def isDefaultBuildsDirVolumeRequired (s : Executor) : Bool × Executor :=
  match s.requireDefaultBuildsDirVolume with
  | some required => (required, s)
  | none =>
    let required := !(getVolumeMountsForConfig s.volumes).any (·.mountPath == s.rootDir)
    (required, { s with requireDefaultBuildsDirVolume := some required })

/-- The memo holds nothing, or the answer for the executor's configuration. -/
def MemoOK (s : Executor) : Prop :=
  s.requireDefaultBuildsDirVolume = none ∨
    s.requireDefaultBuildsDirVolume = some s.defaultBuildsDirRequired

/-- The executor with the answer memoised. -/
def withMemo (s : Executor) : Executor :=
  { s with requireDefaultBuildsDirVolume := some s.defaultBuildsDirRequired }

/-- The `scripts` and `logs` mounts, present when there is a scripts config map. -/
def scriptsMounts (s : Executor) : List VolumeMount :=
  match s.configMap with
  | some _ => [⟨"scripts", s.scriptsDir, "", false⟩, ⟨"logs", s.logsDir, "", false⟩]
  | none => []

/-- The scripts volume: the config map, mode `0777` except on Windows, not optional. -/
def scriptsVolume (s : Executor) (configMapName : String) : Volume :=
  ⟨"scripts", .configMap configMapName []
    (if s.helperImageInfo.osType ≠ osTypeWindows then some 0o777 else none) (some false)⟩

/-- The `scripts` and `logs` volumes, present when there is a scripts config map. -/
def scriptsVolumes (s : Executor) : List Volume :=
  match s.configMap with
  | some cm => [s.scriptsVolume cm.name, ⟨"logs", .emptyDir ""⟩]
  | none => []

/-- The `repo` mount at the build root, present when required. -/
def repoMounts (s : Executor) : List VolumeMount :=
  if s.defaultBuildsDirRequired then [⟨"repo", s.rootDir, "", false⟩] else []

/-- The `repo` empty-dir volume, present when required. -/
def repoVolumes (s : Executor) : List Volume :=
  if s.defaultBuildsDirRequired then [⟨"repo", .emptyDir ""⟩] else []

/-- The mounts every container gets (what `getVolumeMounts` returns). -/
def volumeMounts (s : Executor) : List VolumeMount :=
  s.scriptsMounts ++ getVolumeMountsForConfig s.volumes ++ s.repoMounts

/-- The pod's volumes (what `getVolumes` returns). -/
def podVolumes (s : Executor) : List Volume :=
  getVolumesForConfig s.volumes ++ s.repoVolumes ++ s.scriptsVolumes

/-- `getVolumeMounts`. -/
def getVolumeMounts (s : Executor) : List VolumeMount × Executor :=
  let mounts := match s.configMap with
    | some _ => [⟨"scripts", s.scriptsDir, "", false⟩, ⟨"logs", s.logsDir, "", false⟩]
    | none => []
  let mounts := mounts ++ getVolumeMountsForConfig s.volumes
  let (required, s) := s.isDefaultBuildsDirVolumeRequired
  (if required then mounts ++ [⟨"repo", s.rootDir, "", false⟩] else mounts, s)

/-- `getVolumes`. -/
def getVolumes (s : Executor) : List Volume × Executor :=
  let volumes := getVolumesForConfig s.volumes
  let (required, s) := s.isDefaultBuildsDirVolumeRequired
  let volumes := if required then volumes ++ [⟨"repo", .emptyDir ""⟩] else volumes
  match s.configMap with
  | none => (volumes, s)
  | some cm => (volumes ++ [s.scriptsVolume cm.name, ⟨"logs", .emptyDir ""⟩], s)

theorem isDefaultBuildsDirVolumeRequired_eq {s : Executor} (h : s.MemoOK) :
    s.isDefaultBuildsDirVolumeRequired = (s.defaultBuildsDirRequired, s.withMemo) := by
  obtain ⟨⟩ := s
  rcases h with h | h
  · subst h; rfl
  · simp only [defaultBuildsDirRequired] at h; subst h; rfl

theorem memoOK_withMemo (s : Executor) : s.withMemo.MemoOK := Or.inr rfl

theorem getVolumeMounts_eq {s : Executor} (h : s.MemoOK) :
    s.getVolumeMounts = (s.volumeMounts, s.withMemo) := by
  simp only [getVolumeMounts, isDefaultBuildsDirVolumeRequired_eq h, volumeMounts, scriptsMounts,
    repoMounts]
  by_cases hr : s.defaultBuildsDirRequired <;> simp [hr, withMemo]

theorem getVolumes_eq {s : Executor} (h : s.MemoOK) :
    s.getVolumes = (s.podVolumes, s.withMemo) := by
  simp only [getVolumes, isDefaultBuildsDirVolumeRequired_eq h, podVolumes, scriptsVolumes,
    repoVolumes]
  by_cases hr : s.defaultBuildsDirRequired <;> cases hc : s.configMap <;>
    simp [withMemo, hr, hc, scriptsVolume]

/-- Every pod volume is mounted and every mount names a pod volume, with the same
multiplicities. -/
theorem volumeMounts_names_perm (s : Executor) :
    (s.volumeMounts.map VolumeMount.name).Perm (s.podVolumes.map Volume.name) := by
  have hscripts : s.scriptsVolumes.map Volume.name = s.scriptsMounts.map VolumeMount.name := by
    unfold scriptsVolumes scriptsMounts; split <;> rfl
  have hrepo : s.repoVolumes.map Volume.name = s.repoMounts.map VolumeMount.name := by
    unfold repoVolumes repoMounts; split <;> rfl
  simp only [volumeMounts, podVolumes, List.map_append, getVolumesForConfig_names, hscripts,
    hrepo, List.append_assoc]
  exact List.perm_append_comm.trans (List.Perm.of_eq (List.append_assoc _ _ _))

end Executor

/-! ## Containers -/

/-- `getCommandAndArgs`: the image's entrypoint when no command is given; its command as
the arguments. -/
def getCommandAndArgs (imageDefinition : Image) (command : List String) :
    List String × List String :=
  (if command = [] ∧ imageDefinition.entrypoint ≠ [] then imageDefinition.entrypoint
    else command, imageDefinition.command)

/-- The proxy-pool key `buildContainer` uses for a container that exposes ports: the alias,
or the container's name prefixed with `proxy-` (the build container's name as is). -/
def proxyServiceName (name : String) (imageDefinition : Image) : String :=
  if imageDefinition.aliasName ≠ "" then imageDefinition.aliasName
  else if name ≠ buildContainerName then "proxy-" ++ name else name

namespace Executor

/-- `getHelperImage`: the configured helper image with the app-version variables expanded,
or the resolved helper image. -/
def getHelperImage (c : Collaborators) (s : Executor) : String :=
  if s.helperImage ≠ "" then c.expandAppVersion s.helperImage else s.helperImageInfo.name

/-- The option name and allowed list `buildContainer` checks a container's image against. -/
def allowedImagesFor (s : Executor) (name : String) : String × List String :=
  if hasPrefix name "svc-" then ("services", s.allowedServices)
  else if name = buildContainerName then ("images", s.allowedImages) else ("", [])

/-- `s.ProxyPool[serviceName] = s.newProxy(serviceName, proxyPorts)`, for an image that
exposes ports. -/
def registerProxy (s : Executor) (name : String) (imageDefinition : Image) : Executor :=
  if imageDefinition.ports = [] then s
  else
    let serviceName := proxyServiceName name imageDefinition
    { s with proxyPool := mapInsert serviceName ⟨serviceName, imageDefinition.ports⟩ s.proxyPool }

/-- `buildContainer`: checks the image against the allowed list, registers a proxy for the
image's ports, and builds the container with the executor's volume mounts. -/
def buildContainer (c : Collaborators) (s : Executor) (name image : String)
    (imageDefinition : Image) (containerCommand : List String) :
    Except Error (Container × Executor) :=
  match c.verifyAllowedImage ⟨image, (s.allowedImagesFor name).1, (s.allowedImagesFor name).2,
      [s.configImage, s.helperImageInfo.name]⟩ with
  | some err => .error err
  | none =>
    let s := s.registerProxy name imageDefinition
    .ok (⟨name, image, s.pullManager.getPullPolicyFor image,
      (getCommandAndArgs imageDefinition containerCommand).1,
      (getCommandAndArgs imageDefinition containerCommand).2,
      imageDefinition.ports.map (toInt32 ·.number), s.getVolumeMounts.1, true⟩,
      s.getVolumeMounts.2)

/-- `fmt.Sprintf("%q", path)` for a path with no character `%q` escapes. -/
def goQuote (path : String) : String := "\"" ++ path ++ "\""

/-- `buildPermissionsInitContainer`: the `init-permissions` container that opens the logs
directory (and on Windows the build directory) to every user. Its error return comes only
from the pull manager, which the model's manager never gives. -/
def buildPermissionsInitContainer (c : Collaborators) (s : Executor) (os : String) :
    Container × Executor :=
  let pullPolicy := s.pullManager.getPullPolicyFor (s.getHelperImage c)
  let command :=
    if os = osTypeWindows then
      let chmod := fun path => "icacls $ExecutionContext.SessionState.Path." ++
        "GetUnresolvedProviderPathFromPSPath(" ++ goQuote path ++
        ") /grant \x27Everyone:(OI)(CI)F\x27 /t /q | out-null"
      ["pwsh", "-c", chmod s.logsDir ++ ";\n" ++ chmod s.rootDir]
    else ["sh", "-c", "touch " ++ s.logFile ++ " && (chmod 777 " ++ s.logFile ++ " || exit 0)"]
  let (mounts, s') := s.getVolumeMounts
  (⟨"init-permissions", s.getHelperImage c, pullPolicy, command, [], [], mounts, false⟩, s')

/-- The loop of `setupBuildPod` over `s.options.Services`: containers `svc-i`, `svc-(i+1)`,
... -/
def buildServiceContainers (c : Collaborators) (s : Executor) :
    List Image → Nat → Except Error (List Container × Executor)
  | [], _ => .ok ([], s)
  | service :: rest, i =>
    match s.buildContainer c ("svc-" ++ toString i) (c.expandAll service.name) service [] with
    | .error err => .error err
    | .ok (container, s) =>
      match s.buildServiceContainers c rest (i + 1) with
      | .error err => .error err
      | .ok (containers, s) => .ok (container :: containers, s)

/-- The pod's labels in `setupBuildPod`: `pod` set to the project's unique name, then the
configured labels with their values expanded. -/
def podLabelsFor (c : Collaborators) (s : Executor) : List (String × String) :=
  s.podLabels.foldl (fun labels kv => mapInsert kv.1 (c.expandJob kv.2) labels)
    [("pod", s.projectUniqueName)]

/-- `preparePodConfig`: the build and helper containers, then the pod. -/
def preparePodConfig (c : Collaborators) (s : Executor)
    (labels annotations : List (String × String)) (services : List Container)
    (imagePullSecrets : List String) (initContainers : List Container) :
    Except Error (Pod × Executor) :=
  match s.buildContainer c buildContainerName (c.expandAll s.options.image.name) s.options.image
      s.dockerCommand with
  | .error err => .error (.wrap "building build container" err)
  | .ok (build, s) =>
    match s.buildContainer c helperContainerName (s.getHelperImage c) ⟨"", "", [], [], []⟩
        s.dockerCommand with
    | .error err => .error (.wrap "building helper container" err)
    | .ok (helper, s) =>
      let (volumes, s) := s.getVolumes
      .ok (⟨"", "", s.projectUniqueName, s.kubeNamespace, labels, annotations,
        ⟨volumes, restartPolicyNever, initContainers, [build, helper] ++ services,
          imagePullSecrets⟩⟩, s)

/-- The pod's annotations in `setupBuildPod`: the configured ones with their values
expanded. -/
def podAnnotationsFor (c : Collaborators) (s : Executor) : List (String × String) :=
  s.podAnnotations.foldl (fun m kv => mapInsert kv.1 (c.expandJob kv.2) m) []

/-- The pod's image-pull secrets in `setupBuildPod`: the configured ones, then the
credentials secret when there is one. -/
def imagePullSecretsFor (s : Executor) : List String :=
  s.imagePullSecrets ++
    match s.credentials with
    | some credentials => [credentials.name]
    | none => []

/-- The first half of `setupBuildPod`: the pod configuration it hands to
`applyPodSpecMerge`, before the user's patches. -/
def setupBuildPodConfig (c : Collaborators) (s : Executor) (initContainers : List Container) :
    Except Error (Pod × Executor) :=
  match s.buildServiceContainers c s.options.services 0 with
  | .error err => .error err
  | .ok (podServices, s) =>
    match c.hostAliasesError with
    | some err => .error err
    | none =>
      s.preparePodConfig c (s.podLabelsFor c) (s.podAnnotationsFor c) podServices
        s.imagePullSecretsFor initContainers

/-! ### What the builders change -/

/-- The executor after a builder: only the memo and the proxy pool may have changed, and
the memo is sound. -/
def Builds (s s' : Executor) : Prop :=
  ∃ memo pool, s' = { s with requireDefaultBuildsDirVolume := memo, proxyPool := pool } ∧
    s'.MemoOK

theorem Builds.refl {s : Executor} (h : s.MemoOK) : Builds s s := ⟨_, _, rfl, h⟩

theorem Builds.trans {s₁ s₂ s₃ : Executor} (h₁ : Builds s₁ s₂) (h₂ : Builds s₂ s₃) :
    Builds s₁ s₃ := by
  obtain ⟨_, _, rfl, -⟩ := h₁
  obtain ⟨memo, pool, rfl, h⟩ := h₂
  exact ⟨memo, pool, rfl, h⟩

theorem Builds.memoOK {s s' : Executor} (h : Builds s s') : s'.MemoOK := by
  obtain ⟨_, _, -, h⟩ := h; exact h

theorem Builds.volumeMounts {s s' : Executor} (h : Builds s s') :
    s'.volumeMounts = s.volumeMounts := by
  obtain ⟨_, _, rfl, -⟩ := h; rfl

theorem Builds.podVolumes {s s' : Executor} (h : Builds s s') :
    s'.podVolumes = s.podVolumes := by
  obtain ⟨_, _, rfl, -⟩ := h; rfl

theorem registerProxy_builds {s : Executor} (name : String) (imageDefinition : Image)
    (h : s.MemoOK) : Builds s (s.registerProxy name imageDefinition) := by
  unfold registerProxy; split
  · exact Builds.refl h
  · exact ⟨_, _, rfl, h⟩

theorem withMemo_builds (s : Executor) : Builds s s.withMemo := ⟨_, _, rfl, memoOK_withMemo s⟩

/-- Every proxy-pool entry of `pool'` that is not in `pool` exposes ports of one of
`containers`: a builder adds entries only for containers it built. -/
def PoolGrowth (pool pool' : List (String × ProxySettings)) (containers : List Container) :
    Prop :=
  ∀ e ∈ pool', e ∈ pool ∨ ∃ ct ∈ containers, ∀ p ∈ e.2.ports, toInt32 p.number ∈ ct.ports

theorem PoolGrowth.refl (pool : List (String × ProxySettings)) (containers : List Container) :
    PoolGrowth pool pool containers := fun _ he => .inl he

theorem PoolGrowth.mono {pool pool' : List (String × ProxySettings)} {cs cs' : List Container}
    (h : PoolGrowth pool pool' cs) (hsub : cs ⊆ cs') : PoolGrowth pool pool' cs' := fun e he =>
  (h e he).imp_right fun ⟨ct, hct, hp⟩ => ⟨ct, hsub hct, hp⟩

theorem PoolGrowth.trans {p₁ p₂ p₃ : List (String × ProxySettings)} {cs₁ cs₂ : List Container}
    (h₁ : PoolGrowth p₁ p₂ cs₁) (h₂ : PoolGrowth p₂ p₃ cs₂) : PoolGrowth p₁ p₃ (cs₁ ++ cs₂) := by
  intro e he
  rcases h₂ e he with he | ⟨ct, hct, hp⟩
  · exact (h₁ e he).imp_right fun ⟨ct, hct, hp⟩ => ⟨ct, List.mem_append_left _ hct, hp⟩
  · exact .inr ⟨ct, List.mem_append_right _ hct, hp⟩

theorem registerProxy_poolGrowth (s : Executor) (name : String) (imageDefinition : Image)
    {ct : Container} (hct : ct.ports = imageDefinition.ports.map (toInt32 ·.number)) :
    PoolGrowth s.proxyPool (s.registerProxy name imageDefinition).proxyPool [ct] := by
  unfold registerProxy; split
  · exact PoolGrowth.refl _ _
  · intro e he
    rcases mem_mapInsert he with rfl | he
    · exact .inr ⟨ct, List.mem_singleton_self _, fun p hp => hct ▸ List.mem_map_of_mem _ hp⟩
    · exact .inl he

theorem buildContainer_ok {c : Collaborators} {s : Executor} {name image : String}
    {imageDefinition : Image} {cmd : List String} {ct : Container} {s' : Executor}
    (hmemo : s.MemoOK) (h : s.buildContainer c name image imageDefinition cmd = .ok (ct, s')) :
    ct.name = name ∧ ct.volumeMounts = s.volumeMounts ∧ Builds s s' ∧
      PoolGrowth s.proxyPool s'.proxyPool [ct] := by
  unfold buildContainer at h
  split at h
  · cases h
  · have hreg := registerProxy_builds name imageDefinition hmemo
    simp only [getVolumeMounts_eq hreg.memoOK, Except.ok.injEq, Prod.mk.injEq] at h
    obtain ⟨rfl, rfl⟩ := h
    exact ⟨rfl, hreg.volumeMounts, hreg.trans (withMemo_builds _),
      registerProxy_poolGrowth s name imageDefinition rfl⟩

theorem buildPermissionsInitContainer_eq {c : Collaborators} {s : Executor} (os : String)
    (hmemo : s.MemoOK) :
    (s.buildPermissionsInitContainer c os).1.name = "init-permissions" ∧
      (s.buildPermissionsInitContainer c os).1.volumeMounts = s.volumeMounts ∧
      (s.buildPermissionsInitContainer c os).2 = s.withMemo := by
  simp [buildPermissionsInitContainer, getVolumeMounts_eq hmemo]

theorem buildServiceContainers_ok {c : Collaborators} {s : Executor} {services : List Image}
    {i : Nat} {cts : List Container} {s' : Executor} (hmemo : s.MemoOK)
    (h : s.buildServiceContainers c services i = .ok (cts, s')) :
    cts.map Container.name =
        (List.range services.length).map (fun j => "svc-" ++ toString (i + j)) ∧
      (∀ ct ∈ cts, ct.volumeMounts = s.volumeMounts) ∧ Builds s s' ∧
      PoolGrowth s.proxyPool s'.proxyPool cts := by
  induction services generalizing s i cts s' with
  | nil =>
    simp only [buildServiceContainers, Except.ok.injEq, Prod.mk.injEq] at h
    obtain ⟨rfl, rfl⟩ := h
    exact ⟨rfl, by simp, Builds.refl hmemo, PoolGrowth.refl _ _⟩
  | cons service rest ih =>
    simp only [buildServiceContainers] at h
    split at h
    · cases h
    · rename_i ct s₁ h₁
      obtain ⟨hname, hmounts, hb₁, hp₁⟩ := buildContainer_ok hmemo h₁
      split at h
      · cases h
      · rename_i cts' s₂ h₂
        obtain ⟨hnames, hmounts', hb₂, hp₂⟩ := ih hb₁.memoOK h₂
        simp only [Except.ok.injEq, Prod.mk.injEq] at h
        obtain ⟨rfl, rfl⟩ := h
        refine ⟨?_, ?_, hb₁.trans hb₂, hp₁.trans hp₂⟩
        · rw [List.map_cons, hname, hnames, List.length_cons, List.range_succ_eq_map]
          simp [Function.comp_def, Nat.add_assoc, Nat.add_comm 1]
        · rintro ct' (_ | ⟨_, hct'⟩)
          · exact hmounts
          · rw [hmounts' ct' hct', hb₁.volumeMounts]

/-- `preparePodConfig` builds the pod around a build and a helper container that carry the
executor's mounts, with the executor's volumes. -/
theorem preparePodConfig_ok {c : Collaborators} {s : Executor}
    {labels annotations : List (String × String)} {services : List Container}
    {imagePullSecrets : List String} {initContainers : List Container} {pod : Pod}
    {s' : Executor} (hmemo : s.MemoOK)
    (h : s.preparePodConfig c labels annotations services imagePullSecrets initContainers =
      .ok (pod, s')) :
    ∃ build helper : Container, build.name = buildContainerName ∧
      helper.name = helperContainerName ∧ build.volumeMounts = s.volumeMounts ∧
      helper.volumeMounts = s.volumeMounts ∧
      pod = ⟨"", "", s.projectUniqueName, s.kubeNamespace, labels, annotations,
        ⟨s.podVolumes, restartPolicyNever, initContainers, [build, helper] ++ services,
          imagePullSecrets⟩⟩ ∧ Builds s s' ∧ PoolGrowth s.proxyPool s'.proxyPool [build, helper] := by
  unfold preparePodConfig at h
  split at h
  · cases h
  · rename_i build s₁ h₁
    obtain ⟨hname₁, hmounts₁, hb₁, hp₁⟩ := buildContainer_ok hmemo h₁
    split at h
    · cases h
    · rename_i helper s₂ h₂
      obtain ⟨hname₂, hmounts₂, hb₂, hp₂⟩ := buildContainer_ok hb₁.memoOK h₂
      have hb := hb₁.trans hb₂
      simp only [getVolumes_eq hb.memoOK, Except.ok.injEq, Prod.mk.injEq] at h
      obtain ⟨rfl, rfl⟩ := h
      refine ⟨build, helper, hname₁, hname₂, hmounts₁, hmounts₂.trans hb₁.volumeMounts, ?_,
        hb.trans (withMemo_builds _), hp₁.trans hp₂⟩
      obtain ⟨_, _, rfl, -⟩ := hb
      rfl

/-- The pod configuration `setupBuildPod` hands to the patching step: the labels of
`podLabelsFor`, the build, helper and service containers in that order and all with the
executor's mounts, the executor's volumes, the given init containers and restart policy
`Never`. -/
theorem setupBuildPodConfig_ok {c : Collaborators} {s : Executor}
    {initContainers : List Container} {pod : Pod} {s' : Executor} (hmemo : s.MemoOK)
    (h : s.setupBuildPodConfig c initContainers = .ok (pod, s')) :
    pod.labels = s.podLabelsFor c ∧
      pod.spec.containers.map Container.name = [buildContainerName, helperContainerName] ++
        (List.range s.options.services.length).map (fun i => "svc-" ++ toString i) ∧
      (∀ ct ∈ pod.spec.containers, ct.volumeMounts = s.volumeMounts) ∧
      pod.spec.volumes = s.podVolumes ∧ pod.spec.restartPolicy = restartPolicyNever ∧
      pod.spec.initContainers = initContainers ∧ Builds s s' ∧
      PoolGrowth s.proxyPool s'.proxyPool pod.spec.containers := by
  unfold setupBuildPodConfig at h
  split at h
  · cases h
  · rename_i services s₁ h₁
    obtain ⟨hnames, hmounts, hb₁, hp₁⟩ := buildServiceContainers_ok hmemo h₁
    split at h
    · cases h
    · obtain ⟨build, helper, hb, hh, hbm, hhm, rfl, hb₂, hp₂⟩ := preparePodConfig_ok hb₁.memoOK h
      refine ⟨?_, ?_, ?_, hb₁.podVolumes ▸ rfl, rfl, rfl, hb₁.trans hb₂,
        (hp₁.trans hp₂).mono fun ct hct => ?_⟩
      · obtain ⟨_, _, rfl, -⟩ := hb₁; rfl
      · simp only [List.map_append, List.map_cons, List.map_nil, hb, hh, hnames, Nat.zero_add]
      · rintro ct (_ | ⟨_, _ | ⟨_, hct⟩⟩)
        · exact hbm.trans hb₁.volumeMounts
        · exact hhm.trans hb₁.volumeMounts
        · exact hmounts ct hct
      · exact List.mem_append.2 (List.mem_append.1 hct).symm

end Executor

/-! ## The pod's shape -/

/-- The `repo` volume is required exactly when no configured mount is at the build root. -/
theorem buildsDirVolumeRequired_iff (v : KubernetesVolumes) (rootDir : String) :
    Executor.buildsDirVolumeRequired v rootDir = true ↔
      ∀ m ∈ getVolumeMountsForConfig v, m.mountPath ≠ rootDir := by
  simp [Executor.buildsDirVolumeRequired]

/-- The pod `ensurePodsConfigured` builds in attach mode, before the user's patches: the
containers are `build`, `helper`, `svc-0`, ... for the services `getServices` collected, the
only init container is `init-permissions`, the restart policy is `Never`; every container
carries the same mounts, whose names are a permutation of the pod volumes' names; the scripts
volume projects the config map at `scriptsDir`, the logs empty-dir is at `logsDir`, and the
`repo` volume and mount are there exactly when no configured mount is at the build root. -/
theorem podConfig_well_formed {c : Collaborators} {s : Executor}
    {configServices buildServices : List Image} {cm : OwnedObject} {pod : Pod} {s' : Executor}
    (hservices : s.options.services = getServices configServices buildServices)
    (hcm : s.configMap = some cm) (hmemo : s.MemoOK)
    (h : (s.buildPermissionsInitContainer c s.helperImageInfo.osType).2.setupBuildPodConfig c
      [(s.buildPermissionsInitContainer c s.helperImageInfo.osType).1] = .ok (pod, s')) :
    pod.spec.containers.map Container.name = [buildContainerName, helperContainerName] ++
        (List.range (getServices configServices buildServices).length).map
          (fun i => "svc-" ++ toString i) ∧
      pod.spec.initContainers.map Container.name = ["init-permissions"] ∧
      pod.spec.restartPolicy = restartPolicyNever ∧
      (∀ ct ∈ pod.spec.initContainers ++ pod.spec.containers,
        ct.volumeMounts = s.volumeMounts) ∧
      (s.volumeMounts.map VolumeMount.name).Perm (pod.spec.volumes.map Volume.name) ∧
      s.volumeMounts = [⟨"scripts", s.scriptsDir, "", false⟩, ⟨"logs", s.logsDir, "", false⟩] ++
        getVolumeMountsForConfig s.volumes ++
        (if Executor.buildsDirVolumeRequired s.volumes s.rootDir then [⟨"repo", s.rootDir, "", false⟩]
          else []) ∧
      pod.spec.volumes = getVolumesForConfig s.volumes ++
        (if Executor.buildsDirVolumeRequired s.volumes s.rootDir then [⟨"repo", .emptyDir ""⟩] else []) ++
        [⟨"scripts", .configMap cm.name []
          (if s.helperImageInfo.osType ≠ osTypeWindows then some 0o777 else none) (some false)⟩,
          ⟨"logs", .emptyDir ""⟩] ∧
      (Executor.buildsDirVolumeRequired s.volumes s.rootDir = true ↔
        ∀ m ∈ getVolumeMountsForConfig s.volumes, m.mountPath ≠ s.rootDir) := by
  obtain ⟨hname, hmounts, hs₁⟩ :=
    Executor.buildPermissionsInitContainer_eq (c := c) s.helperImageInfo.osType hmemo
  rw [hs₁] at h
  obtain ⟨-, hnames, hcts, hvols, hrestart, hinit, -, -⟩ :=
    Executor.setupBuildPodConfig_ok (Executor.memoOK_withMemo s) h
  refine ⟨?_, ?_, hrestart, ?_, ?_, ?_, ?_, buildsDirVolumeRequired_iff _ _⟩
  · rw [hnames, ← hservices]; rfl
  · rw [hinit, List.map_singleton, hname]
  · intro ct hct
    rcases List.mem_append.1 hct with hct | hct
    · rw [hinit, List.mem_singleton] at hct
      rw [hct, hmounts]
    · exact hcts ct hct
  · rw [hvols]; exact Executor.volumeMounts_names_perm s
  · simp [Executor.volumeMounts, Executor.scriptsMounts, Executor.repoMounts,
      Executor.defaultBuildsDirRequired, hcm]
  · rw [hvols, (Executor.withMemo_builds s).podVolumes]
    simp [Executor.podVolumes, Executor.scriptsVolumes, Executor.repoVolumes,
      Executor.scriptsVolume, Executor.defaultBuildsDirRequired, hcm]

/-- A job with a host-path volume at the build root, a `redis` service and a scripts
config map. -/
def sampleExecutor : Executor where
  volumes := ⟨[⟨"cache", "/builds", "", false, ""⟩], [], [], [], [], []⟩
  configImage := "alpine"
  allowedImages := []
  allowedServices := []
  imagePullSecrets := []
  helperImage := ""
  podLabels := []
  podAnnotations := []
  kubeNamespace := "default"
  rootDir := "/builds"
  projectID := 1
  jobID := 7
  projectUniqueName := "runner-1-project-1"
  dockerCommand := ["sh"]
  options := ⟨⟨"alpine", "", [], [], []⟩, [⟨"redis", "", [], [], []⟩]⟩
  helperImageInfo := ⟨"linux", "helper", ["gitlab-runner-build"]⟩
  pullManager := ⟨[], []⟩
  proxyPool := []
  requireDefaultBuildsDirVolume := none
  pod := none
  configMap := some ⟨"scripts-1", []⟩
  credentials := none
  services := []

theorem podConfig_well_formed_sample :
    ∃ pod s', (sampleExecutor.buildPermissionsInitContainer ⟨fun _ => none, id, id, id, none⟩
        "linux").2.setupBuildPodConfig ⟨fun _ => none, id, id, id, none⟩
        [(sampleExecutor.buildPermissionsInitContainer ⟨fun _ => none, id, id, id, none⟩
          "linux").1] = .ok (pod, s') ∧
      pod.spec.containers.map Container.name = ["build", "helper", "svc-0"] ∧
      pod.spec.volumes.map Volume.name = ["cache", "scripts", "logs"] :=
  let h := @podConfig_well_formed ⟨fun _ => none, id, id, id, none⟩ sampleExecutor
    [⟨"redis", "", [], [], []⟩] [] ⟨"scripts-1", []⟩ _ _ rfl rfl (Or.inl rfl) rfl
  ⟨_, _, rfl, h.1.trans (by decide),
    (congrArg (List.map Volume.name) h.2.2.2.2.2.2.1).trans (by decide)⟩

end GitlabRunner.Kubernetes
