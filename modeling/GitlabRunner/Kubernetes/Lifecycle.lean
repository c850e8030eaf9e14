import GitlabRunner.Kubernetes.ProxyServices
import GitlabRunner.Kubernetes.StageDriver

/-!
# The executor's objects on the cluster

The executor creates an image-pull Secret (when the job has registry credentials), a
ConfigMap with the stage scripts, the build Pod and one Service per proxy. Once the pod
exists, `setOwnerReferencesForResources` updates the Secret and the ConfigMap to name the pod
as their owner, so that the pod's foreground delete at `Cleanup` takes them along;
`cleanupResources` deletes explicitly only a Secret or ConfigMap whose handle shows no owner
reference.

The API server is modelled as the list of objects it holds, each with its owner references
and the delete requests it has received, and with the answers of the calls still to come:
`faults` decides, call by call, which `Create` or `Update` fails, and `podWaits` what each
`waitForPodRunning` returns. Names are unique per kind: a generated name that is taken makes
the `Create` fail. On an error client-go returns an empty object, and the executor keeps it
where it assigns the call's result to its handle (`setupScriptsConfigMap`,
`setOwnerReferencesForResources`).

The executor's side is `Lifecycle`: the executor record of the pod builder, the server, and
the pods `processLogs` was started for. Each Go method is a function returning the error it
returns and the state after it; `Run` is one pass of its retry loop per `LifecycleStep.run`,
and a whole job is any schedule of `Run` passes, `Finish` and `Cleanup`.

An object is `Orphaned` when it has no owner reference, no delete request and no handle in
the executor. No function of the executor touches an object it has no handle to, so an
orphan stays one for the rest of the job (`orphaned_run`). A failed owner-reference
`Update` of the Secret replaces its handle by the empty object: the Secret, still unowned,
becomes an orphan, and `Cleanup` leaves it on the cluster (`lost_handle_leaks_secret`).

What a `Run` finds once the configuration succeeded is in `Kubernetes/PodReadiness.lean`.
-/

namespace GitlabRunner.Kubernetes

/-! ## The API server -/

/-- The kinds of objects the executor creates. -/
inductive Kind where
  | secret
  | configMap
  | pod
  | service
  deriving DecidableEq, Repr

/-- An object on the API server: its kind and name, its owner references, and how many delete
requests it has received. -/
structure ServerObject where
  kind : Kind
  name : String
  ownerReferences : List OwnerReference
  deleteRequests : Nat
  deriving DecidableEq, Repr

/-- What `waitForPodRunning` returns: the phase the pod settled in, or an error. -/
inductive PodWait where
  | phase (phase : PodPhase)
  | error (err : Error)
  deriving DecidableEq, Repr

/-- The API server: its objects, and the answers of the calls to come. -/
structure Server where
  objects : List ServerObject
  /-- Per `Create` or `Update`, in call order, whether it fails; when the list runs out every
  call succeeds. -/
  faults : List Bool
  /-- Per `waitForPodRunning`, what it returns; when the list runs out the pod is
  `Running`. -/
  podWaits : List PodWait
  deriving DecidableEq, Repr

/-- The error of a failed API call. -/
def apiFailure : Error := .plain "the server rejected the request"

/-- `api.PodPhase` as a string. -/
def PodPhase.name : PodPhase → String
  | .pending => "Pending"
  | .running => "Running"
  | .succeeded => "Succeeded"
  | .failed => "Failed"
  | .unknown => "Unknown"

namespace Server

/-- The object of a kind with a name. -/
def Named (kind : Kind) (name : String) (o : ServerObject) : Bool :=
  o.kind = kind ∧ o.name = name

/-- `Create` with a generated name: the server appends its count of objects to
`generateName`; the call fails on a fault or when the name is taken. -/
def create (srv : Server) (kind : Kind) (generateName : String)
    (ownerReferences : List OwnerReference) : Option ServerObject × Server :=
  let name := generateName ++ toString srv.objects.length
  let srv' := { srv with faults := srv.faults.tail }
  if srv.faults.headD false || srv.objects.any (Named kind name) then (none, srv')
  else (some ⟨kind, name, ownerReferences, 0⟩,
    { srv' with objects := srv.objects ++ [⟨kind, name, ownerReferences, 0⟩] })

/-- `Update` of the owner references of the object of a kind with a name. -/
def update (srv : Server) (kind : Kind) (name : String)
    (ownerReferences : List OwnerReference) : Option ServerObject × Server :=
  let srv' := { srv with faults := srv.faults.tail }
  if srv.faults.headD false then (none, srv')
  else
    match srv.objects.find? (Named kind name) with
    | none => (none, srv')
    | some o => (some { o with ownerReferences },
      { srv' with objects := srv.objects.map fun o =>
          if Named kind name o then { o with ownerReferences } else o })

/-- `Delete` of the object of a kind with a name (with foreground propagation for a pod):
the object records the request. -/
def delete (srv : Server) (kind : Kind) (name : String) : Server :=
  { srv with objects := srv.objects.map fun o =>
      if Named kind name o then { o with deleteRequests := o.deleteRequests + 1 } else o }

/-- Modelled from the spec: `waitForPodRunning` (not under `src/`) polls the pod until it
leaves `Pending` and returns its phase, or an error. -/
def nextPodWait (srv : Server) : PodWait × Server :=
  (srv.podWaits.headD (.phase .running), { srv with podWaits := srv.podWaits.tail })

/-- Some pod of that name has received a delete request. -/
def podDeleted (srv : Server) (name : String) : Bool :=
  srv.objects.any fun o => o.kind = .pod ∧ o.name = name ∧ 0 < o.deleteRequests

theorem mem_create {srv : Server} {o : ServerObject} (kind : Kind) (generateName : String)
    (ownerReferences : List OwnerReference) (h : o ∈ srv.objects) :
    o ∈ (srv.create kind generateName ownerReferences).2.objects := by
  dsimp only [create]; split
  · exact h
  · exact List.mem_append_left _ h

/-- A created object has a name no object of its kind had. -/
theorem create_fresh {srv : Server} {kind : Kind} {generateName : String}
    {ownerReferences : List OwnerReference} {o' : ServerObject}
    (h : (srv.create kind generateName ownerReferences).1 = some o') :
    o'.kind = kind ∧ ∀ o ∈ srv.objects, o.kind = kind → o.name ≠ o'.name := by
  dsimp only [create] at h; split at h
  · cases h
  · rename_i hfree
    cases h
    refine ⟨rfl, fun o ho hk hn => hfree ?_⟩
    simp only [Bool.or_eq_true, List.any_eq_true]
    exact .inr ⟨o, ho, by simp [Named, hk, hn]⟩

theorem mem_update {srv : Server} {o : ServerObject} {kind : Kind} {name : String}
    (ownerReferences : List OwnerReference) (h : o ∈ srv.objects) (hn : Named kind name o = false) :
    o ∈ (srv.update kind name ownerReferences).2.objects := by
  dsimp only [update]; split
  · exact h
  · split
    · exact h
    · exact List.mem_map.2 ⟨o, h, by rw [hn]; rfl⟩

/-- An `Update` returns the object it was asked for. -/
theorem update_named {srv : Server} {kind : Kind} {name : String}
    {ownerReferences : List OwnerReference} {o' : ServerObject}
    (h : (srv.update kind name ownerReferences).1 = some o') : o'.name = name := by
  dsimp only [update] at h; split at h
  · cases h
  · split at h
    · cases h
    · rename_i o ho
      cases h
      have := List.find?_some ho
      simp only [Named, decide_eq_true_eq] at this
      exact this.2

theorem mem_delete {srv : Server} {o : ServerObject} {kind : Kind} {name : String}
    (h : o ∈ srv.objects) (hn : Named kind name o = false) : o ∈ (srv.delete kind name).objects :=
  List.mem_map.2 ⟨o, h, by rw [hn]; rfl⟩

end Server

/-! ## The executor -/

/-- The empty object client-go returns along with an error. -/
def emptyObject : OwnedObject := ⟨"", []⟩

/-- The handle the executor keeps for an object the server returned. -/
def ServerObject.handle (o : ServerObject) : OwnedObject := ⟨o.name, o.ownerReferences⟩

/-- What one job reads that the model does not follow: the pod builder's collaborators, the
DNS-name function of the proxy services, whether `auth.ResolveConfigs` found registry
credentials, and the feature flag of the legacy execution strategy. -/
structure Job where
  collaborators : Collaborators
  makeRFC1123Compatible : String → String
  hasCredentials : Bool
  legacyExecution : Bool

/-- The executor and the cluster. -/
structure Lifecycle where
  exec : Executor
  server : Server
  /-- The pods `go s.processLogs(ctx)` was started for, in order. -/
  logsStartedFor : List String
  deriving DecidableEq, Repr

/-- The name of the executor's handle for an object of a kind, if it has one. -/
def Executor.handleName (s : Executor) : Kind → Option String
  | .secret => s.credentials.map (·.name)
  | .configMap => s.configMap.map (·.name)
  | _ => none

namespace Lifecycle

/-- `setupCredentials`: the image-pull Secret, when the job has registry credentials. -/
def setupCredentials (j : Job) (l : Lifecycle) : Option Error × Lifecycle :=
  if j.hasCredentials then
    match l.server.create .secret l.exec.projectUniqueName [] with
    | (none, server) => (some apiFailure, { l with server })
    | (some creds, server) =>
      (none, { l with server, exec := { l.exec with credentials := some creds.handle } })
  else (none, l)

/-- `setupScriptsConfigMap`: the handle takes what `Create` returns, error or not. -/
def setupScriptsConfigMap (l : Lifecycle) : Option Error × Lifecycle :=
  match l.server.create .configMap (l.exec.projectUniqueName ++ "-scripts") [] with
  | (none, server) => (some (.wrap "generating scripts config map" apiFailure),
      { l with server, exec := { l.exec with configMap := some emptyObject } })
  | (some configMap, server) =>
    (none, { l with server, exec := { l.exec with configMap := some configMap.handle } })

/-- One `Update` of `setOwnerReferencesForResources`: the handle takes what the server
returns, the empty object on an error. -/
def updateOwnerReferences (srv : Server) (kind : Kind) (handle : OwnedObject)
    (ownerReferences : List OwnerReference) : Option Error × OwnedObject × Server :=
  match srv.update kind handle.name ownerReferences with
  | (none, srv) => (some apiFailure, emptyObject, srv)
  | (some o, srv) => (none, o.handle, srv)

/-- The ConfigMap half of `setOwnerReferencesForResources`. -/
def setConfigMapOwnerReferences (l : Lifecycle) (ownerReferences : List OwnerReference) :
    Option Error × Lifecycle :=
  match l.exec.configMap with
  | none => (none, l)
  | some configMap =>
    match updateOwnerReferences l.server .configMap configMap ownerReferences with
    | (err, configMap, server) =>
      (err, { l with server, exec := { l.exec with configMap := some configMap } })

/-- `setOwnerReferencesForResources`: the Secret, then the ConfigMap. -/
def setOwnerReferencesForResources (l : Lifecycle) (ownerReferences : List OwnerReference) :
    Option Error × Lifecycle :=
  match l.exec.credentials with
  | none => l.setConfigMapOwnerReferences ownerReferences
  | some credentials =>
    match updateOwnerReferences l.server .secret credentials ownerReferences with
    | (some err, credentials, server) =>
      (some err, { l with server, exec := { l.exec with credentials := some credentials } })
    | (none, credentials, server) =>
      setConfigMapOwnerReferences
        { l with server, exec := { l.exec with credentials := some credentials } } ownerReferences

/-- The creations of `makePodProxyServices`, in pool order. Every creator's `Create` goes
out whatever the loop receives (the interleavings are `FanIn`'s); the result is the created
services, or the error of a failed creation and no service. -/
def createProxyServices (srv : Server) : List Service → List Service × Option Error × Server
  | [] => ([], none, srv)
  | config :: configs =>
    match srv.create .service config.generateName config.ownerReferences with
    | (none, srv) => ([], some (proxyServiceError apiFailure), (createProxyServices srv configs).2.2)
    | (some created, srv) =>
      match createProxyServices srv configs with
      | (services, none, srv) => ({ config with name := created.name } :: services, none, srv)
      | (_, some err, srv) => ([], some err, srv)

/-- `setupBuildPod`: the pod configuration of the pod builder, created as is (the user's
`pod_spec` patches are not modelled), the pod handle set, the owner references installed and
the proxy services created. A failed build drops the builder's changes to the memo and the
proxy pool, which the next build makes again. -/
def setupBuildPod (j : Job) (l : Lifecycle) (initContainers : List Container) :
    Option Error × Lifecycle :=
  match l.exec.setupBuildPodConfig j.collaborators initContainers with
  | .error err => (some err, l)
  | .ok (podConfig, exec) =>
    match l.server.create .pod podConfig.generateName [] with
    | (none, server) => (some apiFailure, { l with exec, server })
    | (some created, server) =>
      let pod := { podConfig with name := created.name, uid := "uid-" ++ created.name }
      let ownerReferences := buildPodReferences pod
      match setOwnerReferencesForResources { l with server, exec := { exec with pod := some pod } }
          ownerReferences with
      | (some err, l) => (some (.wrap "error setting ownerReferences" err), l)
      | (none, l) =>
        match createProxyServices l.server
            (l.exec.proxyServiceConfigs j.makeRFC1123Compatible ownerReferences) with
        | (services, err, server) => (err, { l with server, exec := { l.exec with services } })

/-- The name of the executor's pod. -/
def podName (l : Lifecycle) : String := (l.exec.pod.map Pod.name).getD ""

/-- After `setupBuildPod` in `ensurePodsConfigured`: wait for the pod, and start
`processLogs` once it runs. -/
def awaitPodRunning (l : Lifecycle) : Option Error × Lifecycle :=
  match l.server.nextPodWait with
  | (.error err, server) => (some (.wrap "waiting for pod running" err), { l with server })
  | (.phase phase, server) =>
    if phase = .running then
      (none, { l with server, logsStartedFor := l.logsStartedFor ++ [l.podName] })
    else (some (.plain ("pod failed to enter running state: " ++ phase.name)), { l with server })

/-- `ensurePodsConfigured`. -/
def ensurePodsConfigured (j : Job) (l : Lifecycle) : Option Error × Lifecycle :=
  if l.exec.pod.isSome then (none, l)
  else
    match l.setupCredentials j with
    | (some err, l) => (some (.wrap "setting up credentials" err), l)
    | (none, l) =>
      match l.setupScriptsConfigMap with
      | (some err, l) => (some (.wrap "setting up scripts configMap" err), l)
      | (none, l) =>
        let init := l.exec.buildPermissionsInitContainer j.collaborators l.exec.helperImageInfo.osType
        match setupBuildPod j { l with exec := init.2 } [init.1] with
        | (some err, l) => (some (.wrap "setting up build pod" err), l)
        | (none, l) => l.awaitPodRunning

/-- `runWithAttach`: the pods are configured, then the stage ends as `outcome` says. -/
def runWithAttach (j : Job) (l : Lifecycle) (outcome : StageOutcome) : Option Error × Lifecycle :=
  match ensurePodsConfigured j l with
  | (some err, l) => (some err, l)
  | (none, l) => (runWithAttachResult outcome.selected, l)

/-- `runWithExecLegacy`: credentials and pod when there is no pod, then the command's
`result`. -/
def runWithExecLegacy (j : Job) (l : Lifecycle) (result : Option Error) :
    Option Error × Lifecycle :=
  if l.exec.pod.isSome then (result, l)
  else
    match l.setupCredentials j with
    | (some err, l) => (some err, l)
    | (none, l) =>
      match setupBuildPod j l [] with
      | (some err, l) => (some err, l)
      | (none, l) => (result, l)

/-- The pod's foreground delete in `cleanupResources`, when there is a pod handle. -/
def deletePod (srv : Server) : Option Pod → Server
  | some pod => srv.delete .pod pod.name
  | none => srv

/-- The delete `cleanupResources` issues for a Secret or ConfigMap handle: only when the
handle shows no owner reference. -/
def deleteIfUnowned (srv : Server) (kind : Kind) : Option OwnedObject → Server
  | some handle => if handle.ownerReferences = [] then srv.delete kind handle.name else srv
  | none => srv

/-- `cleanupResources`: the pod, then the Secret and the ConfigMap. Errors are only
logged. -/
def cleanupResources (l : Lifecycle) : Lifecycle :=
  { l with server := deleteIfUnowned (deleteIfUnowned (deletePod l.server l.exec.pod) .secret
      l.exec.credentials) .configMap l.exec.configMap }

/-- The stage of a `Run` pass, in attach or legacy mode. -/
def runStage (j : Job) (l : Lifecycle) (outcome : StageOutcome) (legacyResult : Option Error) :
    Option Error × Lifecycle :=
  if j.legacyExecution then l.runWithExecLegacy j legacyResult else l.runWithAttach j outcome

/-- One pass of `Run`'s loop: the stage, then, on an image-pull error the pull manager can
answer with another policy, the resources deleted and the pod handle dropped. The `Bool` is
whether the loop goes round again. -/
def runPass (j : Job) (l : Lifecycle) (outcome : StageOutcome) (legacyResult : Option Error) :
    Option Error × Bool × Lifecycle :=
  match l.runStage j outcome legacyResult with
  | (err, l) =>
    match err.bind Error.asImagePull with
    | none => (err, false, l)
    | some image =>
      match l.exec.pullManager.updatePolicyForImage 0 image with
      | (false, _) => (err, false, l)
      | (true, pullManager) =>
        let l := { l with exec := { l.exec with pullManager } }.cleanupResources
        (err, true, { l with exec := { l.exec with pod := none } })

/-- `Finish`: a pod-not-found error drops the pod handle. -/
def finish (l : Lifecycle) (err : Option Error) : Lifecycle :=
  if (err.map isKubernetesPodNotFoundError).getD false then
    { l with exec := { l.exec with pod := none } }
  else l

end Lifecycle

/-- The executor's entry points, as the runner calls them. -/
inductive LifecycleStep where
  /-- One pass of `Run`'s loop, with how the stage ends in attach mode and what the command
  returns in legacy mode. -/
  | run (outcome : StageOutcome) (legacyResult : Option Error)
  | finish (err : Option Error)
  | cleanup
  deriving DecidableEq, Repr

namespace Lifecycle

/-- One entry point. -/
def step (j : Job) (l : Lifecycle) : LifecycleStep → Lifecycle
  | .run outcome legacyResult => (l.runPass j outcome legacyResult).2.2
  | .finish err => l.finish err
  | .cleanup => l.cleanupResources

/-- A schedule of entry points. -/
def runSteps (j : Job) (l : Lifecycle) (steps : List LifecycleStep) : Lifecycle :=
  steps.foldl (step j) l

end Lifecycle

/-! ## Orphans -/

instance (s : Executor) : Decidable s.MemoOK := inferInstanceAs (Decidable (_ ∨ _))

/-- A Secret or ConfigMap that nothing will delete: no owner reference ties it to a pod, it
has had no delete request, and the executor has no handle to it; and the executor's memo is
sound, as in every state a job reaches. -/
structure Orphaned (l : Lifecycle) (o : ServerObject) : Prop where
  mem : o ∈ l.server.objects
  kind_ok : o.kind = .secret ∨ o.kind = .configMap
  unowned : o.ownerReferences = []
  undeleted : o.deleteRequests = 0
  named : o.name ≠ ""
  no_handle : l.exec.handleName o.kind ≠ some o.name
  memo : l.exec.MemoOK

@[simp] theorem handleName_credentials (s : Executor) (x : Option OwnedObject) (k : Kind) :
    { s with credentials := x }.handleName k =
      if k = .secret then x.map (·.name) else s.handleName k := by
  cases k <;> rfl

@[simp] theorem handleName_configMap (s : Executor) (x : Option OwnedObject) (k : Kind) :
    { s with configMap := x }.handleName k =
      if k = .configMap then x.map (·.name) else s.handleName k := by
  cases k <;> rfl

theorem Executor.Builds.handleName {s s' : Executor} (h : s.Builds s') (k : Kind) :
    s'.handleName k = s.handleName k := by
  obtain ⟨_, _, rfl, -⟩ := h
  cases k <;> rfl

namespace Orphaned

variable {l l' : Lifecycle} {o : ServerObject}

theorem mono (h : Orphaned l o) (hmem : o ∈ l'.server.objects)
    (hh : l'.exec.handleName o.kind ≠ some o.name) (hmemo : l'.exec.MemoOK) : Orphaned l' o :=
  ⟨hmem, h.kind_ok, h.unowned, h.undeleted, h.named, hh, hmemo⟩

/-- An orphan is not the object of any handle. -/
theorem not_named_handle (h : Orphaned l o) {kind : Kind} {name : String}
    (hk : l.exec.handleName kind = some name) : Server.Named kind name o = false := by
  by_cases hkind : o.kind = kind
  · subst hkind
    have : o.name ≠ name := fun hn => h.no_handle (hn ▸ hk)
    simp [Server.Named, this]
  · simp [Server.Named, hkind]

/-- An orphan is no pod. -/
theorem not_named_pod (h : Orphaned l o) (name : String) : Server.Named .pod name o = false := by
  rcases h.kind_ok with hk | hk <;> simp [Server.Named, hk]

/-- A handle set to a new object's name, or to the empty object's, is not an orphan's. -/
theorem handle_fresh (h : Orphaned l o) {kind : Kind} {name : String}
    (hfresh : o.kind = kind → o.name ≠ name) :
    (if o.kind = kind then some name else l.exec.handleName o.kind) ≠ some o.name := by
  split
  · exact fun hn => hfresh ‹_› (Option.some.inj hn).symm
  · exact h.no_handle

end Orphaned

namespace Lifecycle

variable {j : Job} {l l' : Lifecycle} {o : ServerObject} {err : Option Error}

theorem setupCredentials_keeps (hf : l.setupCredentials j = (err, l')) (h : Orphaned l o) :
    Orphaned l' o := by
  unfold setupCredentials at hf
  have hmem := Server.mem_create .secret l.exec.projectUniqueName [] h.mem
  split at hf
  · split at hf <;> rename_i heq <;> rw [heq] at hmem <;> cases hf
    · exact h.mono hmem h.no_handle h.memo
    · obtain ⟨-, hfresh⟩ := Server.create_fresh (by rw [heq])
      exact h.mono hmem (by simpa using h.handle_fresh fun hk => hfresh o h.mem hk) h.memo
  · cases hf; exact h

theorem setupScriptsConfigMap_keeps (hf : l.setupScriptsConfigMap = (err, l'))
    (h : Orphaned l o) : Orphaned l' o := by
  unfold setupScriptsConfigMap at hf
  have hmem := Server.mem_create .configMap (l.exec.projectUniqueName ++ "-scripts") [] h.mem
  split at hf <;> rename_i heq <;> rw [heq] at hmem <;> cases hf
  · exact h.mono hmem (by simpa using h.handle_fresh fun _ => h.named) h.memo
  · obtain ⟨-, hfresh⟩ := Server.create_fresh (by rw [heq])
    exact h.mono hmem (by simpa using h.handle_fresh fun hk => hfresh o h.mem hk) h.memo

/-- An owner-reference `Update` through a handle keeps an orphan, and the handle it returns
is not the orphan's. -/
theorem updateOwnerReferences_keeps {kind : Kind} {handle handle' : OwnedObject}
    {ownerReferences : List OwnerReference} {srv : Server}
    (hf : updateOwnerReferences l.server kind handle ownerReferences = (err, handle', srv))
    (h : Orphaned l o) (hk : l.exec.handleName kind = some handle.name) :
    o ∈ srv.objects ∧ (o.kind = kind → o.name ≠ handle'.name) := by
  have hmem := Server.mem_update ownerReferences h.mem (h.not_named_handle hk)
  unfold updateOwnerReferences at hf
  split at hf <;> rename_i heq <;> rw [heq] at hmem <;> cases hf
  · exact ⟨hmem, fun _ => h.named⟩
  · refine ⟨hmem, fun hkind hn => h.no_handle ?_⟩
    rw [hkind, hk, hn, ServerObject.handle, Server.update_named (by rw [heq])]

theorem setConfigMapOwnerReferences_keeps {ownerReferences : List OwnerReference}
    (hf : l.setConfigMapOwnerReferences ownerReferences = (err, l')) (h : Orphaned l o) :
    Orphaned l' o := by
  unfold setConfigMapOwnerReferences at hf
  split at hf
  · cases hf; exact h
  · rename_i configMap hcm
    split at hf
    rename_i err' configMap' server heq
    cases hf
    obtain ⟨hmem, hfresh⟩ := updateOwnerReferences_keeps heq h
      (by simp [Executor.handleName, hcm])
    exact h.mono hmem (by simpa using h.handle_fresh hfresh) h.memo

theorem setOwnerReferencesForResources_keeps {ownerReferences : List OwnerReference}
    (hf : l.setOwnerReferencesForResources ownerReferences = (err, l')) (h : Orphaned l o) :
    Orphaned l' o := by
  unfold setOwnerReferencesForResources at hf
  split at hf
  · exact setConfigMapOwnerReferences_keeps hf h
  · rename_i credentials hcr
    split at hf <;> rename_i heq <;>
      obtain ⟨hmem, hfresh⟩ := updateOwnerReferences_keeps heq h
        (by simp [Executor.handleName, hcr])
    · cases hf
      exact h.mono hmem (by simpa using h.handle_fresh hfresh) h.memo
    · exact setConfigMapOwnerReferences_keeps hf
        (h.mono hmem (by simpa using h.handle_fresh hfresh) h.memo)

theorem createProxyServices_keeps {srv : Server} (configs : List Service)
    (h : o ∈ srv.objects) : o ∈ (createProxyServices srv configs).2.2.objects := by
  induction configs generalizing srv with
  | nil => exact h
  | cons config configs ih =>
    have hmem := Server.mem_create .service config.generateName config.ownerReferences h
    unfold createProxyServices
    split <;> rename_i heq <;> rw [heq] at hmem
    · exact ih hmem
    · split <;> rename_i heq' <;> have := ih hmem <;> rw [heq'] at this <;> exact this

theorem setupBuildPod_keeps {initContainers : List Container}
    (hf : setupBuildPod j l initContainers = (err, l')) (h : Orphaned l o) : Orphaned l' o := by
  unfold setupBuildPod at hf
  split at hf
  · cases hf; exact h
  · rename_i podConfig exec hbuild
    have hb := (Executor.setupBuildPodConfig_ok h.memo hbuild).2.2.2.2.2.2.1
    have hmem := Server.mem_create .pod podConfig.generateName [] h.mem
    have hh : exec.handleName o.kind ≠ some o.name := by rw [hb.handleName]; exact h.no_handle
    split at hf <;> rename_i heq <;> rw [heq] at hmem
    · cases hf; exact h.mono hmem hh hb.memoOK
    · dsimp only at hf
      split at hf <;> rename_i heq₁ <;>
        have h₁ := setOwnerReferencesForResources_keeps heq₁ (h.mono hmem hh hb.memoOK)
      · cases hf; exact h₁
      · cases hf
        exact h₁.mono (createProxyServices_keeps _ h₁.mem) h₁.no_handle h₁.memo

theorem awaitPodRunning_keeps (hf : l.awaitPodRunning = (err, l')) (h : Orphaned l o) :
    Orphaned l' o := by
  unfold awaitPodRunning at hf
  have hmem : o ∈ l.server.nextPodWait.2.objects := h.mem
  split at hf <;> rename_i heq <;> rw [heq] at hmem
  · cases hf; exact h.mono hmem h.no_handle h.memo
  · split at hf <;> cases hf <;> exact h.mono hmem h.no_handle h.memo

theorem ensurePodsConfigured_keeps (hf : ensurePodsConfigured j l = (err, l'))
    (h : Orphaned l o) : Orphaned l' o := by
  unfold ensurePodsConfigured at hf
  split at hf
  · cases hf; exact h
  · split at hf <;> rename_i heq₁ <;> have h₁ := setupCredentials_keeps heq₁ h
    · cases hf; exact h₁
    · split at hf
      · rename_i heq₂; cases hf; exact setupScriptsConfigMap_keeps heq₂ h₁
      · rename_i l₂ heq₂
        have h₂ := setupScriptsConfigMap_keeps heq₂ h₁
        have hinit := (Executor.buildPermissionsInitContainer_eq (c := j.collaborators)
          l₂.exec.helperImageInfo.osType h₂.memo).2.2
        dsimp only at hf
        split at hf <;> rename_i heq₃ <;>
          have h₃ := setupBuildPod_keeps heq₃ (h₂.mono h₂.mem (by rw [hinit]; exact h₂.no_handle)
            (by rw [hinit]; exact Executor.memoOK_withMemo _))
        · cases hf; exact h₃
        · exact awaitPodRunning_keeps hf h₃

theorem runWithAttach_keeps {outcome : StageOutcome} (hf : l.runWithAttach j outcome = (err, l'))
    (h : Orphaned l o) : Orphaned l' o := by
  unfold runWithAttach at hf
  split at hf <;> rename_i heq <;> cases hf <;> exact ensurePodsConfigured_keeps heq h

theorem runWithExecLegacy_keeps {result : Option Error}
    (hf : l.runWithExecLegacy j result = (err, l')) (h : Orphaned l o) : Orphaned l' o := by
  unfold runWithExecLegacy at hf
  split at hf
  · cases hf; exact h
  · split at hf <;> rename_i heq₁ <;> have h₁ := setupCredentials_keeps heq₁ h
    · cases hf; exact h₁
    · split at hf <;> rename_i heq₂ <;> cases hf <;> exact setupBuildPod_keeps heq₂ h₁

theorem runStage_keeps {outcome : StageOutcome} {legacyResult : Option Error}
    (hf : l.runStage j outcome legacyResult = (err, l')) (h : Orphaned l o) : Orphaned l' o := by
  unfold runStage at hf
  split at hf
  · exact runWithExecLegacy_keeps hf h
  · exact runWithAttach_keeps hf h

theorem cleanupResources_keeps (h : Orphaned l o) : Orphaned l.cleanupResources o := by
  have hpod : o ∈ (deletePod l.server l.exec.pod).objects := by
    unfold deletePod; split
    · exact Server.mem_delete h.mem (h.not_named_pod _)
    · exact h.mem
  have hunowned : ∀ {srv : Server} (kind : Kind) (handle : Option OwnedObject),
      handle.map (·.name) = l.exec.handleName kind → o ∈ srv.objects →
        o ∈ (deleteIfUnowned srv kind handle).objects := by
    intro srv kind handle hk hmem
    unfold deleteIfUnowned; split
    · split
      · exact Server.mem_delete hmem (h.not_named_handle (by rw [← hk]; rfl))
      · exact hmem
    · exact hmem
  exact h.mono (hunowned .configMap _ rfl (hunowned .secret _ rfl hpod)) h.no_handle h.memo

theorem runPass_keeps {outcome : StageOutcome} {legacyResult : Option Error} {more : Bool}
    (hf : l.runPass j outcome legacyResult = (err, more, l')) (h : Orphaned l o) :
    Orphaned l' o := by
  unfold runPass at hf
  split at hf
  rename_i err₁ l₁ heq
  have h₁ := runStage_keeps heq h
  split at hf
  · cases hf; exact h₁
  · split at hf
    · cases hf; exact h₁
    · rename_i pullManager _
      cases hf
      have hc := cleanupResources_keeps
        (l := { l₁ with exec := { l₁.exec with pullManager } }) (h₁.mono h₁.mem h₁.no_handle h₁.memo)
      exact hc.mono hc.mem hc.no_handle hc.memo

theorem finish_keeps (e : Option Error) (h : Orphaned l o) : Orphaned (l.finish e) o := by
  unfold finish; split
  · exact h.mono h.mem h.no_handle h.memo
  · exact h

/-- No entry point of the executor touches an orphan or takes a handle to it. -/
theorem step_keeps (j : Job) (a : LifecycleStep) (h : Orphaned l o) : Orphaned (l.step j a) o := by
  cases a with
  | run outcome legacyResult => exact runPass_keeps rfl h
  | finish e => exact finish_keeps e h
  | cleanup => exact cleanupResources_keeps h

/-- An orphan stays one whatever the job does next. -/
theorem orphaned_run (j : Job) (steps : List LifecycleStep) (h : Orphaned l o) :
    Orphaned (l.runSteps j steps) o := by
  induction steps generalizing l with
  | nil => exact h
  | cons a steps ih => exact ih (step_keeps j a h)

end Lifecycle

/-- The cluster as the executor should leave it once `Cleanup` has returned: every object
other than a pod has received a delete request or is owned by a pod that has. -/
def Released (srv : Server) : Prop :=
  ∀ o ∈ srv.objects, o.kind ≠ .pod →
    0 < o.deleteRequests ∨ ∃ r ∈ o.ownerReferences, srv.podDeleted r.name = true

/-- No later `Cleanup` releases a cluster with an orphan. -/
theorem not_released_of_orphaned {l : Lifecycle} {o : ServerObject} (h : Orphaned l o) :
    ¬ Released l.server := by
  intro hrel
  have hpod : o.kind ≠ .pod := by rcases h.kind_ok with hk | hk <;> rw [hk] <;> decide
  rcases hrel o h.mem hpod with hdel | ⟨r, hr, -⟩
  · rw [h.undeleted] at hdel; exact Nat.lt_irrefl 0 hdel
  · rw [h.unowned] at hr; cases hr

/-- The sample job with registry credentials, in attach mode. -/
def credentialedJob : Job := ⟨⟨fun _ => none, id, id, id, none⟩, id, true, false⟩

/-- The sample job's executor after `Prepare`, on an empty cluster whose calls answer as
`faults` and `podWaits` say. -/
def preparedLifecycle (faults : List Bool) (podWaits : List PodWait) : Lifecycle :=
  ⟨{ sampleExecutor with configMap := none }, ⟨[], faults, podWaits⟩, []⟩

/-- The executor loses its handle to a Secret it created. The Secret, the ConfigMap and the
pod are created and the Secret's owner-reference `Update` fails: `Run` returns the error and
the Secret's handle is now the empty object. Whatever the runner calls next (`Finish`,
`Cleanup`, more `Run`s), the cluster is never released. -/
theorem lost_handle_leaks_secret :
    ((preparedLifecycle [false, false, false, true] []).runPass credentialedJob .cancelled
        none).1 = some (.wrap "setting up build pod"
          (.wrap "error setting ownerReferences" apiFailure)) ∧
    ∀ steps, ¬ Released ((preparedLifecycle [false, false, false, true] []).runSteps
      credentialedJob (.run .cancelled none :: steps)).server := by
  refine ⟨by decide, fun steps => ?_⟩
  have horphan : Orphaned ((preparedLifecycle [false, false, false, true] []).runSteps
      credentialedJob [.run .cancelled none]) ⟨.secret, "runner-1-project-10", [], 0⟩ :=
    ⟨by decide, .inl rfl, rfl, rfl, by decide, by decide, by decide⟩
  exact not_released_of_orphaned (Lifecycle.orphaned_run credentialedJob steps horphan)

end GitlabRunner.Kubernetes
