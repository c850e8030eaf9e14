import GitlabRunner.Kubernetes.PodBuilder

/-!
# `Prepare`

`Prepare` reads the configuration overwrites and the pull policies, collects the build image
and the services (`prepareOptions`), checks the defaults, connects to the cluster, resolves
the helper image, switches the executor's options to the Windows defaults for a Windows helper
image, and then runs `PrepareBuildAndShell`: the build directories, the shell, and the shell's
configuration. Each failing step ends it with its error under the step's name
(`prepare_error`).

`prepareHelperImage` starts from a Linux `amd64` helper image and lets three node-selector
labels override its architecture, its OS type and its Windows version. It ranges over a map
literal, whose order Go leaves unspecified, but each label writes its own field: the helper
image, and with it the whole outcome of `Prepare`, is the same in every order
(`prepareHelperImage_perm`, `prepare_perm`).

A successful `Prepare` leaves the executor with a build image and a namespace, the services of
`getServices`, a pull manager that has moved no image past its first policy, and the Docker
command of a shell that takes its script on standard input (`prepare_ok`). The configuration's
own build image replaces the job's only when the job names none, and then replaces the whole
image: no entrypoint, command or ports of the job's remain. Where the configuration names no
shell, builds directory or cache directory, the helper image's OS decides them
(`prepare_defaults`): `setupDefaultExecutorOptions` runs between the two, so the shell the
helper image is resolved for is the configured one, possibly empty, and never the default.

The cluster calls, `createOverwrites`, `helperimage.Get` and `common.GetShellConfiguration` are
not under `src/`: their results are inputs.
-/

namespace GitlabRunner.Kubernetes

/-! ## The helper image -/

/-- `helperimage.Config`, the fields `prepareHelperImage` sets. -/
structure HelperImageConfig where
  osType : String
  architecture : String
  gitLabRegistry : Bool
  shell : String
  flavor : String
  operatingSystem : String
  deriving DecidableEq, Repr

/-- The fields of `helperimage.Config` the node-selector loop writes through its pointers. -/
inductive ConfigField where
  | architecture
  | osType
  | operatingSystem
  deriving DecidableEq, Repr

/-- `*option = value`. -/
def ConfigField.set (config : HelperImageConfig) (value : String) :
    ConfigField → HelperImageConfig
  | .architecture => { config with architecture := value }
  | .osType => { config with osType := value }
  | .operatingSystem => { config with operatingSystem := value }

/-- `helperimage.OSTypeLinux` (the `helperimage` package is not under `src/`). -/
def osTypeLinux : String := "linux"

/-- `nodeSelectorWindowsBuildLabel`. -/
def nodeSelectorWindowsBuildLabel : String := "node.kubernetes.io/windows-build"

/-- The map literal of `prepareHelperImage`'s loop: `api.LabelArchStable` and
`api.LabelOSStable` (the well-known labels of `k8s.io/api`, not under `src/`) and the Windows
build label, each with the field it sets. -/
def nodeSelectorOptions : List (String × ConfigField) :=
  [("kubernetes.io/arch", .architecture), ("kubernetes.io/os", .osType),
    (nodeSelectorWindowsBuildLabel, .operatingSystem)]

/-- One entry of the loop: `value := NodeSelector[label]; if value != "" { *option = value }`. -/
def selectOption (nodeSelector : List (String × String)) (config : HelperImageConfig)
    (entry : String × ConfigField) : HelperImageConfig :=
  let value := (nodeSelector.lookup entry.1).getD ""
  if value ≠ "" then ConfigField.set config value entry.2 else config

/-- `prepareHelperImage`: the configuration it builds, the loop visiting the map literal in
the order `order`, handed to `helperimage.Get` (`get`). `nodeSelector` is `none` for a nil
`NodeSelector`. -/
def prepareHelperImage (get : HelperImageConfig → Except String HelperImageInfo)
    (gitLabRegistry : Bool) (shell flavor : String)
    (nodeSelector : Option (List (String × String))) (order : List (String × ConfigField)) :
    Except String HelperImageInfo :=
  let config : HelperImageConfig := ⟨osTypeLinux, "amd64", gitLabRegistry, shell, flavor, ""⟩
  match nodeSelector with
  | none => get config
  | some ns => get (order.foldl (selectOption ns) config)

/-- Writes to two different fields commute. -/
theorem set_comm (config : HelperImageConfig) (a b : String) {f g : ConfigField} (h : f ≠ g) :
    ConfigField.set (ConfigField.set config a f) b g =
      ConfigField.set (ConfigField.set config b g) a f := by
  cases f <;> cases g <;> first | exact absurd rfl h | rfl

theorem selectOption_comm (ns : List (String × String)) {x y : String × ConfigField}
    (hxy : x = y ∨ x.2 ≠ y.2) (config : HelperImageConfig) :
    selectOption ns (selectOption ns config x) y = selectOption ns (selectOption ns config y) x := by
  rcases hxy with rfl | hne
  · rfl
  · dsimp only [selectOption]
    split_ifs <;> first | rfl | exact set_comm _ _ _ hne

/-- The helper image `prepareHelperImage` resolves is the same for every order in which
`range` visits the node-selector map. -/
theorem prepareHelperImage_perm (get : HelperImageConfig → Except String HelperImageInfo)
    (gitLabRegistry : Bool) (shell flavor : String)
    (nodeSelector : Option (List (String × String))) {order : List (String × ConfigField)}
    (horder : order.Perm nodeSelectorOptions) :
    prepareHelperImage get gitLabRegistry shell flavor nodeSelector order =
      prepareHelperImage get gitLabRegistry shell flavor nodeSelector nodeSelectorOptions := by
  cases nodeSelector with
  | none => rfl
  | some ns =>
    simp only [prepareHelperImage]
    rw [horder.foldl_eq' fun x hx y hy => selectOption_comm ns (by
      rw [horder.mem_iff] at hx hy
      simp only [nodeSelectorOptions, List.mem_cons, List.mem_singleton, List.not_mem_nil,
        or_false] at hx hy
      rcases hx with rfl | rfl | rfl <;> rcases hy with rfl | rfl | rfl <;> simp)]

/-! ## The executor options and the build directories -/

/-- `executors.ExecutorOptions`, less `ShowHostname` (the hostname is not modelled) and the
shell's `Type`, which nothing modelled reads. -/
structure ExecutorOptions where
  defaultCustomBuildsDirEnabled : Bool
  defaultBuildsDir : String
  defaultCacheDir : String
  sharedBuildsDir : Bool
  /-- `Shell.Shell`. -/
  shell : String
  /-- `Shell.RunnerCommand`. -/
  runnerCommand : String
  deriving DecidableEq, Repr

/-- `executorOptions`, the options every Kubernetes executor starts from. -/
def executorOptions : ExecutorOptions :=
  ⟨true, "/builds", "/cache", true, "bash", "/usr/bin/gitlab-runner-helper"⟩

/-- `shells.SNPowershell` (the `shells` package is not under `src/`). -/
def snPowershell : String := "powershell"

/-- `setupDefaultExecutorOptions`: the Windows defaults, for a Windows helper image. -/
def setupDefaultExecutorOptions (os : String) (o : ExecutorOptions) : ExecutorOptions :=
  if os = osTypeWindows then
    { o with defaultBuildsDir := "C:\\builds", defaultCacheDir := "C:\\cache",
             shell := snPowershell, runnerCommand := "gitlab-runner-helper" }
  else o

/-- `common.RunnerConfig`, the fields `PrepareBuildAndShell` reads; `customBuildDir` is
`CustomBuildDir.Enable`, `none` for a nil `CustomBuildDir`. -/
structure RunnerConfig where
  buildsDir : String
  cacheDir : String
  shell : String
  customBuildDir : Option Bool
  deriving DecidableEq, Repr

/-- `disallowedCustomBuildDir`, with `GetCustomBuildDir` inlined. `concurrent` is
`Build.Concurrent` and `projectDir` the job's `CI_PROJECT_DIR`. -/
def disallowedCustomBuildDir (o : ExecutorOptions) (config : RunnerConfig) (concurrent : Nat)
    (projectDir : String) : Option String :=
  if projectDir = "" then none
  else if !(config.customBuildDir.getD o.defaultCustomBuildsDirEnabled) then
    some "Setting custom CI_PROJECT_DIR is not allowed when custom_build_dir disabled in runner configuration"
  else if concurrent > 1 ∧ o.sharedBuildsDir then
    some "Setting custom CI_PROJECT_DIR is not allowed when running concurrent jobs with shared build directories"
  else none

/-- The builds directory, the cache directory and the sharing flag `startBuild` hands to
`Build.StartBuild`. -/
structure BuildDirs where
  rootDir : String
  cacheDir : String
  sharedBuildsDir : Bool
  deriving DecidableEq, Repr

/-- `startBuild`, less the hostname. -/
def startBuild (o : ExecutorOptions) (config : RunnerConfig) (concurrent : Nat)
    (projectDir : String) : Except String BuildDirs :=
  match disallowedCustomBuildDir o config concurrent projectDir with
  | some err => .error err
  | none =>
    let rootDir := if projectDir ≠ "" then projectDir else config.buildsDir
    let rootDir := if rootDir = "" then o.defaultBuildsDir else rootDir
    let cacheDir := if config.cacheDir = "" then o.defaultCacheDir else config.cacheDir
    .ok ⟨rootDir, cacheDir, o.sharedBuildsDir⟩

/-- `updateShell`: the configured shell, when there is one, replaces the default. -/
def updateShell (o : ExecutorOptions) (config : RunnerConfig) : ExecutorOptions :=
  if config.shell ≠ "" then { o with shell := config.shell } else o

@[simp] theorem updateShell_shell (o : ExecutorOptions) (config : RunnerConfig) :
    (updateShell o config).shell = if config.shell ≠ "" then config.shell else o.shell := by
  unfold updateShell; split <;> rfl

@[simp] theorem updateShell_runnerCommand (o : ExecutorOptions) (config : RunnerConfig) :
    (updateShell o config).runnerCommand = o.runnerCommand := by
  unfold updateShell; split <;> rfl

/-- `common.ShellConfiguration`, the fields the executor reads. -/
structure ShellConfiguration where
  dockerCommand : List String
  passFile : Bool
  deriving DecidableEq, Repr

/-- `PrepareBuildAndShell`: `startBuild`, `updateShell` and `generateShellConfiguration`, the
steps `AbstractExecutor.Prepare` of `src/unnamed/part_002` runs after it copies the
configuration (the version `kubernetes.go` calls, split into `PrepareConfiguration` and
`PrepareBuildAndShell`, is not under `src/`). `getShellConfiguration` is
`common.GetShellConfiguration` on the shell's name and runner command. -/
def prepareBuildAndShell (o : ExecutorOptions) (config : RunnerConfig) (concurrent : Nat)
    (projectDir : String)
    (getShellConfiguration : String → String → Except String ShellConfiguration) :
    Except String (ExecutorOptions × BuildDirs × ShellConfiguration) := do
  let dirs ← startBuild o config concurrent projectDir
  let o := updateShell o config
  let shell ← getShellConfiguration o.shell o.runnerCommand
  pure (o, dirs, shell)

/-! ## `Prepare` -/

/-- `if err != nil { return fmt.Errorf(step + "%w", err) }`: the error of a step, prefixed
with the step's name. -/
def wrapError {α : Type} (step : String) (x : Except String α) : Except String α :=
  x.mapError (step ++ ·)

/-- `checkDefaults`: an image of the configured name alone when the job names none, and the
`default` namespace when the overwrites name none. -/
def Executor.checkDefaults (s : Executor) : Except String Executor :=
  let image : Except String Image :=
    if s.options.image.name = "" then
      if s.configImage = "" then .error "no image specified and no default set in config"
      else .ok ⟨s.configImage, "", [], [], []⟩
    else .ok s.options.image
  match image with
  | .error err => .error err
  | .ok image =>
    .ok { s with
      options := { s.options with image := image }
      kubeNamespace := if s.kubeNamespace = "" then "default" else s.kubeNamespace }

/-- `overwrites`, the fields the executor keeps: the namespace (`kubeNamespace`, as
`namespace` is a keyword) and the pod annotations. -/
structure Overwrites where
  kubeNamespace : String
  podAnnotations : List (String × String)
  deriving DecidableEq, Repr

/-- What `Prepare` reads besides the executor: the job and the configuration it copies, and
the results of the calls whose code is not under `src/`. -/
structure PrepareInputs where
  /-- `createOverwrites`, or its error. -/
  overwrites : Except String Overwrites
  /-- `s.Config.Kubernetes.GetPullPolicies()`. -/
  pullPolicies : Except String (List String)
  /-- `options.Build.Image`. -/
  buildImage : Image
  /-- `options.Build.Services`. -/
  buildServices : List Image
  /-- `s.Config.Kubernetes.Services`, each `ToImageDefinition()`. -/
  configServices : List Image
  /-- `getKubeClientConfig`: only its error (the client configuration is not modelled). -/
  kubeConfig : Except String Unit
  /-- `kubernetes.NewForConfig`: only its error. -/
  kubeClient : Except String Unit
  /-- `helperimage.Get(common.REVISION, ·)`. -/
  getHelperImage : HelperImageConfig → Except String HelperImageInfo
  /-- Whether `FF_GITLAB_REGISTRY_HELPER_IMAGE` is on. -/
  gitLabRegistry : Bool
  /-- `s.Config.Kubernetes.HelperImageFlavor`. -/
  helperImageFlavor : String
  /-- `s.Config.Kubernetes.NodeSelector`, `none` when nil. -/
  nodeSelector : Option (List (String × String))
  /-- `s.Config`. -/
  config : RunnerConfig
  /-- `Build.Concurrent`. -/
  concurrent : Nat
  /-- The job's `CI_PROJECT_DIR`. -/
  projectDir : String
  /-- `common.GetShellConfiguration`. -/
  getShellConfiguration : String → String → Except String ShellConfiguration

/-- What a successful `Prepare` leaves: the executor, its `ExecutorOptions` and the build
directories. -/
structure Prepared where
  executor : Executor
  options : ExecutorOptions
  dirs : BuildDirs
  deriving DecidableEq, Repr

/-- `Prepare`, with the helper image's node-selector loop visiting its map in the order
`order`. -/
def Executor.prepare (s : Executor) (o : ExecutorOptions) (inp : PrepareInputs)
    (order : List (String × ConfigField)) : Except String Prepared := do
  let overwrites ← wrapError "couldn't prepare overwrites: " inp.overwrites
  let policies ← wrapError "couldn't get pull policy: " inp.pullPolicies
  let s ← wrapError "check defaults error: " (Executor.checkDefaults { s with
    kubeNamespace := overwrites.kubeNamespace, podAnnotations := overwrites.podAnnotations
    pullManager := ⟨policies, []⟩
    options := ⟨inp.buildImage, getServices inp.configServices inp.buildServices⟩ })
  wrapError "getting Kubernetes config: " inp.kubeConfig
  wrapError "connecting to Kubernetes: " inp.kubeClient
  let info ← wrapError "prepare helper image: " (prepareHelperImage inp.getHelperImage
    inp.gitLabRegistry inp.config.shell inp.helperImageFlavor inp.nodeSelector order)
  let (o, dirs, shell) ← wrapError "prepare build and shell: "
    (prepareBuildAndShell (setupDefaultExecutorOptions info.osType o) inp.config
      inp.concurrent inp.projectDir inp.getShellConfiguration)
  if shell.passFile then throw "kubernetes doesn't support shells that require script file"
  pure ⟨{ s with helperImageInfo := info, dockerCommand := shell.dockerCommand }, o, dirs⟩

/-! ## What a step of `Prepare` can do -/

theorem bind_eq_ok {ε α β : Type} {x : Except ε α} {f : α → Except ε β} {b : β} :
    x >>= f = .ok b ↔ ∃ a, x = .ok a ∧ f a = .ok b := by
  cases x <;> simp [bind, Except.bind]

theorem wrapError_eq_ok {α : Type} {step : String} {x : Except String α} {a : α} :
    wrapError step x = .ok a ↔ x = .ok a := by
  cases x <;> simp [wrapError, Except.mapError]

theorem bind_eq_error {ε α β : Type} {x : Except ε α} {f : α → Except ε β} {e : ε} :
    x >>= f = .error e ↔ x = .error e ∨ ∃ a, x = .ok a ∧ f a = .error e := by
  cases x <;> simp [bind, Except.bind]

theorem wrapError_eq_error {α : Type} {step msg : String} {x : Except String α} :
    wrapError step x = .error msg ↔ ∃ err, x = .error err ∧ msg = step ++ err := by
  cases x <;> simp [wrapError, Except.mapError, eq_comm]

theorem checkDefaults_eq_ok {s s' : Executor} (h : s.checkDefaults = .ok s') :
    ∃ image : Image, ∃ ns : String, image.name ≠ "" ∧ ns ≠ "" ∧
      image = (if s.options.image.name = "" then ⟨s.configImage, "", [], [], []⟩
        else s.options.image) ∧
      s' = { s with options := { s.options with image := image }, kubeNamespace := ns } := by
  have hns : (if s.kubeNamespace = "" then "default" else s.kubeNamespace) ≠ "" := by
    split_ifs with hns <;> simp [hns]
  unfold Executor.checkDefaults at h
  by_cases h₁ : s.options.image.name = ""
  · by_cases h₂ : s.configImage = ""
    · rw [if_pos h₁, if_pos h₂] at h
      cases h
    · rw [if_pos h₁, if_neg h₂] at h
      cases h
      exact ⟨_, _, h₂, hns, by rw [if_pos h₁], rfl⟩
  · rw [if_neg h₁] at h
    cases h
    exact ⟨_, _, h₁, hns, by rw [if_neg h₁], rfl⟩

theorem startBuild_eq_ok {o : ExecutorOptions} {config : RunnerConfig} {concurrent : Nat}
    {projectDir : String} {dirs : BuildDirs}
    (h : startBuild o config concurrent projectDir = .ok dirs) :
    dirs = ⟨if projectDir ≠ "" then projectDir
        else if config.buildsDir ≠ "" then config.buildsDir else o.defaultBuildsDir,
      if config.cacheDir ≠ "" then config.cacheDir else o.defaultCacheDir, o.sharedBuildsDir⟩ := by
  unfold startBuild at h
  split at h; · cases h
  cases h
  by_cases hp : projectDir = "" <;> by_cases hb : config.buildsDir = "" <;>
    by_cases hc : config.cacheDir = "" <;> simp [hp, hb, hc]

theorem prepareBuildAndShell_eq_ok {o o' : ExecutorOptions} {config : RunnerConfig}
    {concurrent : Nat} {projectDir : String}
    {get : String → String → Except String ShellConfiguration} {dirs : BuildDirs}
    {shell : ShellConfiguration}
    (h : prepareBuildAndShell o config concurrent projectDir get = .ok (o', dirs, shell)) :
    startBuild o config concurrent projectDir = .ok dirs ∧ o' = updateShell o config ∧
      get o'.shell o'.runnerCommand = .ok shell := by
  simp only [prepareBuildAndShell, bind_eq_ok] at h
  obtain ⟨dirs, hdirs, shell, hshell, ⟨⟩⟩ := h
  exact ⟨hdirs, rfl, hshell⟩

/-- Everything a successful `Prepare` went through. -/
theorem prepare_eq_ok {s : Executor} {o : ExecutorOptions} {inp : PrepareInputs}
    {order : List (String × ConfigField)} {p : Prepared} (h : s.prepare o inp order = .ok p) :
    ∃ overwrites policies s₁ info o' dirs shell,
      inp.overwrites = .ok overwrites ∧ inp.pullPolicies = .ok policies ∧
      Executor.checkDefaults { s with
        kubeNamespace := overwrites.kubeNamespace, podAnnotations := overwrites.podAnnotations
        pullManager := ⟨policies, []⟩
        options := ⟨inp.buildImage, getServices inp.configServices inp.buildServices⟩ } =
        .ok s₁ ∧
      inp.kubeConfig = .ok () ∧ inp.kubeClient = .ok () ∧
      prepareHelperImage inp.getHelperImage inp.gitLabRegistry inp.config.shell
        inp.helperImageFlavor inp.nodeSelector order = .ok info ∧
      prepareBuildAndShell (setupDefaultExecutorOptions info.osType o) inp.config
        inp.concurrent inp.projectDir inp.getShellConfiguration = .ok (o', dirs, shell) ∧
      shell.passFile = false ∧
      p = ⟨{ s₁ with helperImageInfo := info, dockerCommand := shell.dockerCommand }, o', dirs⟩ := by
  simp only [Executor.prepare, bind_eq_ok, wrapError_eq_ok] at h
  obtain ⟨overwrites, hov, policies, hpol, s₁, hdef, ⟨⟩, hcfg, ⟨⟩, hcl, info, hinfo,
    ⟨o', dirs, shell⟩, hbs, h⟩ := h
  dsimp only at h
  cases hpf : shell.passFile <;> rw [hpf] at h <;> cases h
  exact ⟨_, _, _, _, _, _, _, hov, hpol, hdef, hcfg, hcl, hinfo, hbs, hpf, rfl⟩

/-- The options and the build directories `Prepare` leaves: those of `PrepareBuildAndShell`
from the defaults of the helper image's OS. -/
theorem prepare_options_dirs {s : Executor} {o : ExecutorOptions} {inp : PrepareInputs}
    {order : List (String × ConfigField)} {p : Prepared} (h : s.prepare o inp order = .ok p) :
    p.options = updateShell (setupDefaultExecutorOptions p.executor.helperImageInfo.osType o)
        inp.config ∧
      startBuild (setupDefaultExecutorOptions p.executor.helperImageInfo.osType o) inp.config
        inp.concurrent inp.projectDir = .ok p.dirs := by
  obtain ⟨_, _, _, _, _, _, _, -, -, -, -, -, -, hbs, -, rfl⟩ := prepare_eq_ok h
  obtain ⟨hdirs, rfl, -⟩ := prepareBuildAndShell_eq_ok hbs
  exact ⟨rfl, hdirs⟩

/-- Every error of `Prepare` is the error of one of its steps under the step's name, or the
refusal of a shell that passes its script as a file. -/
theorem prepare_error {s : Executor} {o : ExecutorOptions} {inp : PrepareInputs}
    {order : List (String × ConfigField)} {msg : String} (h : s.prepare o inp order = .error msg) :
    msg = "kubernetes doesn't support shells that require script file" ∨
    ∃ step ∈ ["couldn't prepare overwrites: ", "couldn't get pull policy: ",
      "check defaults error: ", "getting Kubernetes config: ", "connecting to Kubernetes: ",
      "prepare helper image: ", "prepare build and shell: "], ∃ err, msg = step ++ err := by
  simp only [Executor.prepare, bind_eq_error, bind_eq_ok, wrapError_eq_error,
    wrapError_eq_ok] at h
  rcases h with ⟨err, -, rfl⟩ | ⟨_, -, ⟨err, -, rfl⟩ | ⟨_, -, ⟨err, -, rfl⟩ | ⟨_, -, ⟨err, -, rfl⟩ |
    ⟨_, -, ⟨err, -, rfl⟩ | ⟨_, -, ⟨err, -, rfl⟩ | ⟨_, -, ⟨err, -, rfl⟩ | ⟨_, -, h⟩⟩⟩⟩⟩⟩⟩
  all_goals try exact .inr ⟨_, by simp, err, rfl⟩
  split at h <;> cases h
  exact .inl rfl

/-! ## A prepared executor -/

/-- The outcome of `Prepare` is the same for every order in which `range` visits the
node-selector map. -/
theorem prepare_perm (s : Executor) (o : ExecutorOptions) (inp : PrepareInputs)
    {order : List (String × ConfigField)} (horder : order.Perm nodeSelectorOptions) :
    s.prepare o inp order = s.prepare o inp nodeSelectorOptions := by
  simp only [Executor.prepare, prepareHelperImage_perm _ _ _ _ _ horder]

/-- A job on a Windows node: the node selector names the OS and nothing else is configured;
the job names no image. -/
def windowsInputs : PrepareInputs where
  overwrites := .ok ⟨"", []⟩
  pullPolicies := .ok ["always", "if-not-present"]
  buildImage := ⟨"", "", [], [], []⟩
  buildServices := []
  configServices := []
  kubeConfig := .ok ()
  kubeClient := .ok ()
  getHelperImage := fun c => .ok ⟨c.osType, "gitlab-runner-helper:" ++ c.architecture, []⟩
  gitLabRegistry := false
  helperImageFlavor := ""
  nodeSelector := some [("kubernetes.io/os", "windows")]
  config := ⟨"", "", "", none⟩
  concurrent := 1
  projectDir := ""
  getShellConfiguration := fun shell _ => .ok ⟨[shell], false⟩

theorem prepare_perm_reversed :
    nodeSelectorOptions.reverse.Perm nodeSelectorOptions ∧
    sampleExecutor.prepare executorOptions windowsInputs nodeSelectorOptions.reverse =
      sampleExecutor.prepare executorOptions windowsInputs nodeSelectorOptions :=
  ⟨List.reverse_perm _, prepare_perm _ _ _ (List.reverse_perm _)⟩

/-- A prepared executor has a build image and a namespace. The image is the job's, or, when the
job names none, an image of the configured name alone, with no entrypoint, command or ports of
the job's. The services are those of `getServices`; the pull manager has moved no image past
its first policy; and the Docker command is that of a shell configuration, for the shell in the
options, that does not pass its script as a file. -/
theorem prepare_ok {s : Executor} {o : ExecutorOptions} {inp : PrepareInputs}
    {order : List (String × ConfigField)} {p : Prepared} (h : s.prepare o inp order = .ok p) :
    p.executor.options.image.name ≠ "" ∧ p.executor.kubeNamespace ≠ "" ∧
    p.executor.options.image =
      (if inp.buildImage.name = "" then ⟨s.configImage, "", [], [], []⟩ else inp.buildImage) ∧
    p.executor.options.services = getServices inp.configServices inp.buildServices ∧
    p.executor.pullManager.passed = [] ∧
    ∃ shell, inp.getShellConfiguration p.options.shell p.options.runnerCommand = .ok shell ∧
      shell.passFile = false ∧ p.executor.dockerCommand = shell.dockerCommand := by
  obtain ⟨_, _, s₁, _, _, _, shell, -, -, hdef, -, -, -, hbs, hpf, rfl⟩ := prepare_eq_ok h
  obtain ⟨image, ns, himage, hns, himage', rfl⟩ := checkDefaults_eq_ok hdef
  obtain ⟨-, rfl, hshell⟩ := prepareBuildAndShell_eq_ok hbs
  exact ⟨himage, hns, himage', rfl, rfl, shell, hshell, hpf, rfl⟩

example :
    ∃ p, sampleExecutor.prepare executorOptions windowsInputs nodeSelectorOptions = .ok p ∧
      p.executor.options.image = ⟨"alpine", "", [], [], []⟩ ∧ p.executor.kubeNamespace = "default" :=
  let h := @prepare_ok sampleExecutor executorOptions windowsInputs nodeSelectorOptions _ rfl
  ⟨_, rfl, h.2.2.1, by decide⟩

/-- From the executor's own options, `Prepare` keeps the configured shell, builds directory and
cache directory where there are any, and otherwise takes the defaults of the helper image's OS:
PowerShell, `C:\builds` and `C:\cache` for a Windows helper image, Bash, `/builds` and
`/cache` for any other. A job's `CI_PROJECT_DIR` comes before the configured builds
directory. -/
theorem prepare_defaults {s : Executor} {inp : PrepareInputs}
    {order : List (String × ConfigField)} {p : Prepared}
    (h : s.prepare executorOptions inp order = .ok p) :
    p.options.shell = (if inp.config.shell ≠ "" then inp.config.shell
      else if p.executor.helperImageInfo.osType = osTypeWindows then snPowershell else "bash") ∧
    p.options.runnerCommand = (if p.executor.helperImageInfo.osType = osTypeWindows then
      "gitlab-runner-helper" else "/usr/bin/gitlab-runner-helper") ∧
    p.dirs.rootDir = (if inp.projectDir ≠ "" then inp.projectDir
      else if inp.config.buildsDir ≠ "" then inp.config.buildsDir
      else if p.executor.helperImageInfo.osType = osTypeWindows then "C:\\builds" else "/builds") ∧
    p.dirs.cacheDir = (if inp.config.cacheDir ≠ "" then inp.config.cacheDir
      else if p.executor.helperImageInfo.osType = osTypeWindows then "C:\\cache" else "/cache") := by
  obtain ⟨ho, hdirs⟩ := prepare_options_dirs h
  rw [ho, startBuild_eq_ok hdirs]
  by_cases hw : p.executor.helperImageInfo.osType = osTypeWindows <;>
    simp [hw, setupDefaultExecutorOptions, executorOptions]

example :
    ∃ p, sampleExecutor.prepare executorOptions windowsInputs nodeSelectorOptions = .ok p ∧
      p.options.shell = snPowershell ∧ p.dirs.rootDir = "C:\\builds" ∧
      p.dirs.cacheDir = "C:\\cache" :=
  let h := @prepare_defaults sampleExecutor windowsInputs nodeSelectorOptions _ rfl
  ⟨_, rfl, h.1.trans (by decide), h.2.2.1.trans (by decide), h.2.2.2.trans (by decide)⟩

end GitlabRunner.Kubernetes
