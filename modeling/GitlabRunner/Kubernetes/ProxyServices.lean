import GitlabRunner.Kubernetes.PodBuilder

/-!
# Proxy services

For every container that exposes ports, `buildContainer` put an entry in the executor's
proxy pool. Once the pod exists, `makePodProxyServices` creates one `ClusterIP` service per
entry, each in its own `createKubernetesService` goroutine, and gathers the results from an
unbuffered channel that one more goroutine closes when the creators' `WaitGroup` is done.

The service configurations (`proxyServiceConfigs`) select pods by the label `pod` set to the
project's unique name, carry the owner reference to the build pod and target the entry's
port numbers. Owner references and target ports always match the pod
(`proxyServices_target_pod`). The label is another matter: `setupBuildPod` sets `pod` first
and then lets the configured `pod_labels` overwrite it, and a configured label `pod` with
another value leaves every proxy service selecting no pod of the job
(`proxyServices_miss_relabelled_pod`).

The fan-in is a state machine over the creators, the closer and the receiving loop; its
schedules are the goroutines' interleavings, a send on the unbuffered channel being one step
with the receive it meets. Every run keeps `FanIn.Inv`: a nil error comes with one service
per pool entry and only when every creation succeeded, an error wraps one creation's error
(`makePodProxyServices_result`), and when no creation fails no run stops before every
goroutine has finished (`makePodProxyServices_progress`). But the loop returns at the first
error it receives and nothing receives after that: a creator that has not sent yet stays
blocked on its send, and the closer on `wg.Wait()`, for ever
(`makePodProxyServices_strands_goroutines`).
-/

namespace GitlabRunner.Kubernetes

/-! ## Service configurations -/

/-- `apiVersion`. -/
def apiVersion : String := "v1"

/-- `ownerReferenceKind`. -/
def ownerReferenceKind : String := "Pod"

/-- `buildPodReferences`: the owner reference to the executor's pod `s.pod`. -/
def buildPodReferences (pod : Pod) : List OwnerReference :=
  [⟨apiVersion, ownerReferenceKind, pod.name, pod.uid⟩]

/-- The ports `makePodProxyServices` gives a proxy service: for each proxy port,
`int32(port.Number)` as port and as target port, named `<service>-<number>`. -/
def servicePortsFor (serviceName : String) (ports : List Port) : List ServicePort :=
  ports.map fun port =>
    ⟨toInt32 port.number, toInt32 port.number, serviceName ++ "-" ++ toString port.number⟩

namespace Executor

/-- `prepareServiceConfig`. -/
def prepareServiceConfig (s : Executor) (name : String) (ports : List ServicePort)
    (ownerReferences : List OwnerReference) : Service :=
  ⟨"", name, s.kubeNamespace, ownerReferences, ports, [("pod", s.projectUniqueName)]⟩

/-- The configurations `makePodProxyServices` hands to its creators, one per proxy-pool
entry. `dns.MakeRFC1123Compatible` is not under `src/` and is a parameter. -/
def proxyServiceConfigs (makeRFC1123Compatible : String → String) (s : Executor)
    (ownerReferences : List OwnerReference) : List Service :=
  s.proxyPool.map fun entry =>
    let serviceName := makeRFC1123Compatible entry.1
    s.prepareServiceConfig serviceName (servicePortsFor serviceName entry.2.ports)
      ownerReferences

end Executor

/-- A service's selector matches a pod's labels when each of its pairs is a label. -/
def Selects (selector labels : List (String × String)) : Prop :=
  ∀ kv ∈ selector, labels.lookup kv.1 = some kv.2

instance (selector labels : List (String × String)) : Decidable (Selects selector labels) :=
  inferInstanceAs (Decidable (∀ kv ∈ selector, labels.lookup kv.1 = some kv.2))

/-- After `m[k] = f(v)` for each `(k, v)` of `l` in turn, the value at `k` is that of the
last entry of `l` for `k`, else the one in `m`. -/
theorem lookup_foldl_mapInsert (f : String → String) (k : String)
    (l m : List (String × String)) :
    (l.foldl (fun m kv => mapInsert kv.1 (f kv.2) m) m).lookup k =
      ((l.reverse.lookup k).map f).or (m.lookup k) := by
  induction l generalizing m with
  | nil => simp
  | cons kv l ih =>
    obtain ⟨k', v⟩ := kv
    rw [List.foldl_cons, ih, List.reverse_cons, List.lookup_append]
    by_cases h : k' = k
    · subst h
      cases l.reverse.lookup k' <;> simp [List.lookup_cons]
    · rw [lookup_mapInsert_ne _ _ (Ne.symm h)]
      cases l.reverse.lookup k <;> simp [List.lookup_cons, beq_false_of_ne (Ne.symm h)]

/-- The pod's label `pod`: the last configured `pod` label, expanded, or else the project's
unique name. -/
theorem podLabelsFor_lookup_pod (c : Collaborators) (s : Executor) :
    (s.podLabelsFor c).lookup "pod" =
      ((s.podLabels.reverse.lookup "pod").map c.expandJob).or (some s.projectUniqueName) := by
  simp [Executor.podLabelsFor, lookup_foldl_mapInsert]

/-- The selector of every proxy service matches the pod's labels exactly when no configured
`pod` label overrides the project's unique name with another value. -/
theorem selects_podLabelsFor_iff (c : Collaborators) (s : Executor) :
    Selects [("pod", s.projectUniqueName)] (s.podLabelsFor c) ↔
      ∀ v, s.podLabels.reverse.lookup "pod" = some v → c.expandJob v = s.projectUniqueName := by
  simp only [Selects, List.mem_singleton, forall_eq, podLabelsFor_lookup_pod]
  cases s.podLabels.reverse.lookup "pod" <;> simp

theorem mem_proxyServiceConfigs {makeRFC1123Compatible : String → String} {s : Executor}
    {ownerReferences : List OwnerReference} {svc : Service}
    (h : svc ∈ s.proxyServiceConfigs makeRFC1123Compatible ownerReferences) :
    ∃ e ∈ s.proxyPool, svc.ownerReferences = ownerReferences ∧
      svc.selector = [("pod", s.projectUniqueName)] ∧
      svc.ports.map ServicePort.targetPort = e.2.ports.map (toInt32 ·.number) := by
  obtain ⟨e, he, rfl⟩ := List.mem_map.1 h
  exact ⟨e, he, rfl, rfl, by simp [Executor.prepareServiceConfig, servicePortsFor]⟩

/-- The proxy services of a pod built from an empty proxy pool carry the owner reference to
the created pod and target only ports its containers declare. The API server gives the
created pod a name and a uid and keeps the spec. -/
theorem proxyServices_target_pod {c : Collaborators} {s : Executor}
    {initContainers : List Container} {pod : Pod} {s' : Executor}
    (makeRFC1123Compatible : String → String) (name uid : String)
    (hmemo : s.MemoOK) (hpool : s.proxyPool = [])
    (h : s.setupBuildPodConfig c initContainers = .ok (pod, s')) :
    ∀ svc ∈ s'.proxyServiceConfigs makeRFC1123Compatible
        (buildPodReferences { pod with name := name, uid := uid }),
      svc.ownerReferences = [⟨"v1", "Pod", name, uid⟩] ∧
      ∀ p ∈ svc.ports, ∃ ct ∈ pod.spec.containers, p.targetPort ∈ ct.ports := by
  obtain ⟨-, -, -, -, -, -, -, hgrowth⟩ := Executor.setupBuildPodConfig_ok hmemo h
  intro svc hsvc
  obtain ⟨e, he, hrefs, -, hports⟩ := mem_proxyServiceConfigs hsvc
  refine ⟨hrefs, fun p hp => ?_⟩
  obtain he | ⟨ct, hct, hcover⟩ := hgrowth e he
  · rw [hpool] at he; cases he
  · have htarget : p.targetPort ∈ e.2.ports.map (toInt32 ·.number) :=
      hports ▸ List.mem_map_of_mem _ hp
    obtain ⟨q, hq, hpq⟩ := List.mem_map.1 htarget
    exact ⟨ct, hct, hpq ▸ hcover q hq⟩

/-- A configured `pod` label whose expanded value is not the project's unique name
overwrites the label the proxy services select on: no proxy service selects the pod. -/
theorem proxyServices_miss_relabelled_pod {c : Collaborators} {s : Executor}
    {initContainers : List Container} {pod : Pod} {s' : Executor}
    (makeRFC1123Compatible : String → String) (ownerReferences : List OwnerReference)
    {v : String} (hmemo : s.MemoOK) (h : s.setupBuildPodConfig c initContainers = .ok (pod, s'))
    (hlabel : s.podLabels.reverse.lookup "pod" = some v)
    (hv : c.expandJob v ≠ s.projectUniqueName) :
    ∀ svc ∈ s'.proxyServiceConfigs makeRFC1123Compatible ownerReferences,
      ¬ Selects svc.selector pod.labels := by
  obtain ⟨hlabels, -, -, -, -, -, ⟨_, _, rfl, -⟩, -⟩ := Executor.setupBuildPodConfig_ok hmemo h
  intro svc hsvc
  obtain ⟨-, -, -, hsel, -⟩ := mem_proxyServiceConfigs hsvc
  rw [hsel, hlabels]
  exact fun hall => hv ((selects_podLabelsFor_iff c s).1 hall v hlabel)

/-- The sample job with the label `pod: custom` and a `redis` service exposing port 6379. -/
def relabelledExecutor : Executor :=
  { sampleExecutor with
    podLabels := [("pod", "custom")]
    options := ⟨⟨"alpine", "", [], [], []⟩, [⟨"redis", "", [], [], [⟨6379, "tcp", ""⟩]⟩]⟩ }

theorem proxyServices_miss_relabelled_pod_sample :
    ∃ pod s', relabelledExecutor.setupBuildPodConfig ⟨fun _ => none, id, id, id, none⟩ [] =
        .ok (pod, s') ∧
      (s'.proxyServiceConfigs id []).map Service.generateName = ["proxy-svc-0"] ∧
      ∀ svc ∈ s'.proxyServiceConfigs id [], ¬ Selects svc.selector pod.labels :=
  ⟨_, _, rfl, rfl, proxyServices_miss_relabelled_pod (c := ⟨fun _ => none, id, id, id, none⟩)
    (s := relabelledExecutor) (v := "custom") id [] (Or.inl rfl) rfl rfl (by decide)⟩

theorem proxyServices_target_pod_sample :
    ∃ pod s', relabelledExecutor.setupBuildPodConfig ⟨fun _ => none, id, id, id, none⟩ [] =
        .ok (pod, s') ∧
      ∀ svc ∈ s'.proxyServiceConfigs id
          (buildPodReferences { pod with name := "runner-1-project-1-x9w2q", uid := "7d3e" }),
        svc.ownerReferences = [⟨"v1", "Pod", "runner-1-project-1-x9w2q", "7d3e"⟩] ∧
        ∀ p ∈ svc.ports, ∃ ct ∈ pod.spec.containers, p.targetPort ∈ ct.ports :=
  ⟨_, _, rfl, proxyServices_target_pod (c := ⟨fun _ => none, id, id, id, none⟩)
    (s := relabelledExecutor) id "runner-1-project-1-x9w2q" "7d3e" (Or.inl rfl) rfl rfl⟩

/-! ## The fan-in -/

/-- The error `makePodProxyServices` returns for a failed creation. client-go returns an
empty `Service` along with the error, so the name it quotes is empty. -/
def proxyServiceError (err : Error) : Error :=
  .wrap ("error creating the proxy service " ++ Executor.goQuote "") err

/-- What the API server answers to a creator's `Create`. -/
inductive CreateResult where
  | created (service : Service)
  | failed (err : Error)
  deriving DecidableEq, Repr

/-- The created service, if any. -/
def CreateResult.service? : CreateResult → Option Service
  | .created service => some service
  | .failed _ => none

/-- Where a `createKubernetesService` goroutine is. -/
inductive CreatorPhase where
  /-- In the API call. -/
  | creating
  /-- Blocked in `ch <- serviceCreateResponse{...}`. -/
  | sending
  /-- Sent and returned; its deferred `wg.Done()` has run. -/
  | done
  deriving DecidableEq, Repr

/-- A creator goroutine: the answer its `Create` gets, and where it is. -/
structure Creator where
  result : CreateResult
  phase : CreatorPhase
  deriving DecidableEq, Repr

/-- Where `makePodProxyServices` itself is. -/
inductive MainPhase where
  /-- In `for res := range ch`, with the services received so far. -/
  | receiving (proxyServices : List Service)
  /-- Returned `proxyServices, nil`. -/
  | returnedOk (proxyServices : List Service)
  /-- Returned `[]api.Service{}, err`. -/
  | returnedError (err : Error)
  deriving DecidableEq, Repr

/-- The goroutines of one `makePodProxyServices` call. -/
structure FanIn where
  /-- The creators, one per proxy-pool entry. -/
  creators : List Creator
  /-- The closing goroutine's `wg.Wait()` has returned and it has closed `ch`. -/
  closed : Bool
  main : MainPhase
  deriving DecidableEq, Repr

/-- One step of one goroutine. -/
inductive FanInStep where
  /-- Creator `i`'s `Create` returns. -/
  | create (i : Nat)
  /-- Creator `i`'s send meets the loop's receive; the creator returns. -/
  | deliver (i : Nat)
  /-- `wg.Wait()` returns and the closer closes `ch`. -/
  | close
  /-- The loop sees `ch` closed and returns. -/
  | drain
  deriving DecidableEq, Repr

/-- The loop's body on a received response. -/
def receive (proxyServices : List Service) : CreateResult → MainPhase
  | .created service => .receiving (proxyServices ++ [service])
  | .failed err => .returnedError (proxyServiceError err)

namespace FanIn

/-- The goroutines as `makePodProxyServices` starts them, for the answers the creations
will get. -/
def init (results : List CreateResult) : FanIn :=
  ⟨results.map (⟨·, .creating⟩), false, .receiving []⟩

/-- One step, or `none` when the step is not enabled. -/
def step (f : FanIn) : FanInStep → Option FanIn
  | .create i =>
    match f.creators[i]? with
    | some ⟨r, .creating⟩ => some { f with creators := f.creators.set i ⟨r, .sending⟩ }
    | _ => none
  | .deliver i =>
    match f.main, f.creators[i]? with
    | .receiving acc, some ⟨r, .sending⟩ =>
      some { f with creators := f.creators.set i ⟨r, .done⟩, main := receive acc r }
    | _, _ => none
  | .close =>
    if f.closed = false ∧ ∀ c ∈ f.creators, c.phase = .done then some { f with closed := true }
    else none
  | .drain =>
    match f.main with
    | .receiving acc => if f.closed then some { f with main := .returnedOk acc } else none
    | _ => none

/-- The state after a schedule of steps, if every step is enabled in turn. -/
def runSchedule (f : FanIn) : List FanInStep → Option FanIn
  | [] => some f
  | a :: as => (f.step a).bind fun f' => f'.runSchedule as

@[simp] theorem runSchedule_nil (f : FanIn) : f.runSchedule [] = some f := rfl

theorem runSchedule_cons {f f' : FanIn} {a : FanInStep} {as : List FanInStep}
    (h : (f.runSchedule (a :: as)) = some f') : ∃ f₁, f.step a = some f₁ ∧ f₁.runSchedule as = some f' := by
  simp only [runSchedule, Option.bind_eq_some] at h
  exact h

/-- Everything a step can do. -/
theorem step_cases {f f' : FanIn} {a : FanInStep} (h : f.step a = some f') :
    (∃ i r, f.creators[i]? = some ⟨r, .creating⟩ ∧
      f' = { f with creators := f.creators.set i ⟨r, .sending⟩ }) ∨
    (∃ i r acc, f.main = .receiving acc ∧ f.creators[i]? = some ⟨r, .sending⟩ ∧
      f' = { f with creators := f.creators.set i ⟨r, .done⟩, main := receive acc r }) ∨
    (f.closed = false ∧ (∀ c ∈ f.creators, c.phase = .done) ∧ f' = { f with closed := true }) ∨
    (∃ acc, f.main = .receiving acc ∧ f.closed = true ∧ f' = { f with main := .returnedOk acc }) := by
  cases a with
  | create i =>
    simp only [step] at h
    split at h
    · exact .inl ⟨i, _, ‹_›, (Option.some.inj h).symm⟩
    · cases h
  | deliver i =>
    simp only [step] at h
    split at h
    · exact .inr (.inl ⟨i, _, _, ‹_›, ‹_›, (Option.some.inj h).symm⟩)
    · cases h
  | close =>
    simp only [step] at h
    split at h
    · exact .inr (.inr (.inl ⟨(‹_ ∧ _›).1, (‹_ ∧ _›).2, (Option.some.inj h).symm⟩))
    · cases h
  | drain =>
    simp only [step] at h
    split at h
    · split at h
      · exact .inr (.inr (.inr ⟨_, ‹_›, ‹_›, (Option.some.inj h).symm⟩))
      · cases h
    · cases h

/-! ### What every run keeps -/

/-- The services the loop has yet to receive: those of the creators that have not sent. -/
def undelivered (creators : List Creator) : List Service :=
  creators.filterMap fun c => if c.phase = .done then none else c.result.service?

/-- What the loop has received or returned, against the answers the creations got. -/
def MainInv (results : List CreateResult) (creators : List Creator) (closed : Bool) :
    MainPhase → Prop
  | .receiving acc =>
    (∀ c ∈ creators, c.phase = .done → ∃ svc, c.result = .created svc) ∧
      (acc ++ undelivered creators).Perm (results.filterMap CreateResult.service?)
  | .returnedOk svcs =>
    closed = true ∧ (∀ r ∈ results, ∃ svc, r = .created svc) ∧
      svcs.Perm (results.filterMap CreateResult.service?)
  | .returnedError err => ∃ e, .failed e ∈ results ∧ err = proxyServiceError e

/-- The invariant of the fan-in's runs. -/
structure Inv (results : List CreateResult) (f : FanIn) : Prop where
  results_eq : f.creators.map Creator.result = results
  closed_done : f.closed = true → ∀ c ∈ f.creators, c.phase = .done
  main_inv : MainInv results f.creators f.closed f.main

theorem inv_init (results : List CreateResult) : Inv results (init results) where
  results_eq := by simp [init, Function.comp_def]
  closed_done := by simp [init]
  main_inv := ⟨by simp [init], by simp [undelivered, init, List.filterMap_map, Function.comp_def]⟩

end FanIn

/-- Setting an element to one with the same image leaves the image of the list unchanged. -/
theorem map_set_of_getElem? {α β : Type} {l : List α} {i : Nat} {c : α} (c' : α) (g : α → β)
    (hi : l[i]? = some c) (hg : g c' = g c) : (l.set i c').map g = l.map g := by
  apply List.ext_getElem?
  intro j
  simp only [List.getElem?_map, List.getElem?_set]
  split
  · subst_vars
    rw [if_pos (List.getElem?_eq_some_iff.1 hi).1, hi]
    simp [hg]
  · rfl

theorem filterMap_set_of_getElem? {α β : Type} {l : List α} {i : Nat} {c : α} (c' : α)
    (g : α → Option β) (hi : l[i]? = some c) (hg : g c' = g c) :
    (l.set i c').filterMap g = l.filterMap g := by
  simpa only [List.filterMap_map, Function.id_comp] using
    congrArg (List.filterMap id) (map_set_of_getElem? c' g hi hg)

/-- Taking `x`, the image of the `i`-th element, out of a `filterMap`, by setting that element
to one with no image. -/
theorem perm_filterMap_set {α β : Type} {l : List α} {i : Nat} {c : α} (c' : α) {x : β}
    (g : α → Option β) (hi : l[i]? = some c) (hc : g c = some x) (hc' : g c' = none) :
    (x :: (l.set i c').filterMap g).Perm (l.filterMap g) := by
  induction l generalizing i with
  | nil => simp at hi
  | cons a l ih =>
    cases i with
    | zero =>
      simp only [List.getElem?_cons_zero, Option.some.injEq] at hi
      subst hi
      simp [List.filterMap_cons, hc, hc']
    | succ i =>
      simp only [List.getElem?_cons_succ] at hi
      simp only [List.set_cons_succ, List.filterMap_cons]
      cases g a with
      | none => exact ih hi
      | some y => exact (List.Perm.swap y x _).trans ((ih hi).cons y)

namespace FanIn

variable {results : List CreateResult} {f f' : FanIn} {a : FanInStep}

/-- A creator that has not sent keeps the channel open. -/
theorem closed_false_of_pending {creators : List Creator} {closed : Bool} {i : Nat}
    {c : Creator} (hclosed : closed = true → ∀ c ∈ creators, c.phase = .done)
    (hi : creators[i]? = some c) (hc : c.phase ≠ .done) : closed = false := by
  cases closed
  · rfl
  · exact absurd (hclosed rfl c (List.getElem?_mem hi)) hc

theorem inv_step (hinv : Inv results f) (h : f.step a = some f') : Inv results f' := by
  obtain ⟨creators, closed, main⟩ := f
  obtain ⟨hres, hclosed, hmain⟩ := hinv
  rcases step_cases h with ⟨i, r, hi, rfl⟩ | ⟨i, r, acc, hm, hi, rfl⟩ | ⟨hc, hdone, rfl⟩ |
    ⟨acc, hm, hc, rfl⟩ <;> dsimp only at *
  · -- a creation returns
    have hopen := closed_false_of_pending hclosed hi (by simp)
    refine ⟨(map_set_of_getElem? ⟨r, .sending⟩ _ hi rfl).trans hres,
      fun h => by simp_all, ?_⟩
    cases main with
    | receiving acc =>
      obtain ⟨hok, hperm⟩ := hmain
      refine ⟨fun c hc hd => ?_, ?_⟩
      · rcases List.mem_or_eq_of_mem_set hc with hc | rfl
        · exact hok c hc hd
        · cases hd
      · rwa [undelivered, filterMap_set_of_getElem? ⟨r, .sending⟩ _ hi rfl]
    | returnedOk svcs => exact hmain
    | returnedError err => exact hmain
  · -- the loop receives a response
    have hopen := closed_false_of_pending hclosed hi (by simp)
    refine ⟨(map_set_of_getElem? ⟨r, .done⟩ _ hi rfl).trans hres,
      fun h => by simp_all, ?_⟩
    subst hm
    obtain ⟨hok, hperm⟩ := hmain
    cases r with
    | created svc =>
      refine ⟨fun c hc hd => ?_, ?_⟩
      · rcases List.mem_or_eq_of_mem_set hc with hc | rfl
        · exact hok c hc hd
        · exact ⟨svc, rfl⟩
      · have hout := perm_filterMap_set (⟨.created svc, .done⟩ : Creator) (fun c : Creator =>
          if c.phase = .done then none else c.result.service?) hi rfl rfl
        simp only [receive, MainInv, List.append_assoc, List.singleton_append]
        exact (hout.append_left acc).trans hperm
    | failed e => exact ⟨e, hres ▸ List.mem_map_of_mem _ (List.getElem?_mem hi), rfl⟩
  · -- the closer closes the channel
    refine ⟨hres, fun _ => hdone, ?_⟩
    cases main with
    | receiving acc => exact hmain
    | returnedOk svcs => exact ⟨rfl, hmain.2⟩
    | returnedError err => exact hmain
  · -- the loop sees the channel closed
    subst hm
    obtain ⟨hok, hperm⟩ := hmain
    have hdone := hclosed hc
    refine ⟨hres, hclosed, hc, fun r hr => ?_, ?_⟩
    · rw [← hres] at hr
      obtain ⟨c, hc, rfl⟩ := List.mem_map.1 hr
      exact hok c hc (hdone c hc)
    · have hnil : undelivered creators = [] :=
        List.filterMap_eq_nil_iff.2 fun c hc => by simp [hdone c hc]
      rwa [hnil, List.append_nil] at hperm

theorem inv_run {sched : List FanInStep} (hinv : Inv results f)
    (h : f.runSchedule sched = some f') : Inv results f' := by
  induction sched generalizing f with
  | nil => cases h; exact hinv
  | cons a sched ih =>
    obtain ⟨f₁, h₁, h⟩ := runSchedule_cons h
    exact ih (inv_step hinv h₁) h

end FanIn

/-- Whatever the schedule, `makePodProxyServices` returns a nil error only when every
creation succeeded, and then with the created services, one per pool entry; and an error
only as the error of one failed creation. -/
theorem makePodProxyServices_result {results : List CreateResult} {sched : List FanInStep}
    {f : FanIn} (h : (FanIn.init results).runSchedule sched = some f) :
    (∀ svcs, f.main = .returnedOk svcs →
      (∀ r ∈ results, ∃ svc, r = .created svc) ∧
        svcs.Perm (results.filterMap CreateResult.service?)) ∧
    (∀ err, f.main = .returnedError err → ∃ e, .failed e ∈ results ∧ err = proxyServiceError e) := by
  have hmain := (FanIn.inv_run (FanIn.inv_init results) h).main_inv
  refine ⟨fun svcs hm => ?_, fun err hm => ?_⟩
  · rw [hm] at hmain; exact hmain.2
  · rw [hm] at hmain; exact hmain

theorem makePodProxyServices_result_sample :
    ∃ f, FanIn.runSchedule (FanIn.init [.created ⟨"proxy-svc-1-x7k2p", "proxy-svc-1", "default", [], [], []⟩])
        [.create 0, .deliver 0, .close, .drain] = some f ∧
      (∀ svcs, f.main = .returnedOk svcs →
        (∀ r ∈ [CreateResult.created ⟨"proxy-svc-1-x7k2p", "proxy-svc-1", "default", [], [], []⟩], ∃ svc, r = .created svc) ∧
          svcs.Perm ([CreateResult.created ⟨"proxy-svc-1-x7k2p", "proxy-svc-1", "default", [], [], []⟩].filterMap CreateResult.service?)) ∧
      ∀ err, f.main = .returnedError err →
        ∃ e, .failed e ∈ [CreateResult.created ⟨"proxy-svc-1-x7k2p", "proxy-svc-1", "default", [], [], []⟩] ∧ err = proxyServiceError e :=
  ⟨_, rfl, @makePodProxyServices_result [.created ⟨"proxy-svc-1-x7k2p", "proxy-svc-1", "default", [], [], []⟩]
    [.create 0, .deliver 0, .close, .drain] _ rfl⟩

/-- When no creation fails, no run of `makePodProxyServices` stops early: every reachable
state is the finished one (all creators returned, the channel closed, the loop returned) or
has a step to take. -/
theorem makePodProxyServices_progress {results : List CreateResult}
    (hok : ∀ r ∈ results, ∃ svc, r = .created svc) {sched : List FanInStep} {f : FanIn}
    (h : (FanIn.init results).runSchedule sched = some f) :
    (f.closed = true ∧ (∀ c ∈ f.creators, c.phase = .done) ∧ ∃ svcs, f.main = .returnedOk svcs) ∨
      ∃ a f', f.step a = some f' := by
  obtain ⟨hres, hclosed, hmain⟩ := FanIn.inv_run (FanIn.inv_init results) h
  obtain ⟨creators, closed, main⟩ := f
  cases main with
  | receiving acc =>
    refine .inr ?_
    by_cases hcreating : ∃ (i : Nat) (r : CreateResult), creators[i]? = some ⟨r, .creating⟩
    · obtain ⟨i, r, hi⟩ := hcreating
      exact ⟨.create i, _, by rw [FanIn.step, hi]⟩
    by_cases hsending : ∃ (i : Nat) (r : CreateResult), creators[i]? = some ⟨r, .sending⟩
    · obtain ⟨i, r, hi⟩ := hsending
      exact ⟨.deliver i, _, by rw [FanIn.step, hi]⟩
    have hall : ∀ c ∈ creators, c.phase = .done := by
      intro ⟨r, phase⟩ hc
      obtain ⟨i, hi⟩ := List.mem_iff_getElem?.1 hc
      cases phase
      · exact (hcreating ⟨i, r, hi⟩).elim
      · exact (hsending ⟨i, r, hi⟩).elim
      · rfl
    cases closed
    · exact ⟨.close, _, by rw [FanIn.step, if_pos ⟨rfl, hall⟩]⟩
    · exact ⟨.drain, _, rfl⟩
  | returnedOk svcs => exact .inl ⟨hmain.1, hclosed hmain.1, svcs, rfl⟩
  | returnedError err =>
    obtain ⟨e, he, -⟩ := hmain
    obtain ⟨svc, hsvc⟩ := hok _ he
    cases hsvc

theorem makePodProxyServices_progress_sample :
    ∃ f, FanIn.runSchedule (FanIn.init [.created ⟨"proxy-svc-1-x7k2p", "proxy-svc-1", "default", [], [], []⟩]) [.create 0] = some f ∧
      ((f.closed = true ∧ (∀ c ∈ f.creators, c.phase = .done) ∧ ∃ svcs, f.main = .returnedOk svcs) ∨
        ∃ a f', f.step a = some f') :=
  ⟨_, rfl, @makePodProxyServices_progress [.created ⟨"proxy-svc-1-x7k2p", "proxy-svc-1", "default", [], [], []⟩] (by simp) [.create 0] _ rfl⟩

/-! ### Stranded goroutines -/

namespace FanIn

/-- Creator `i` cannot finish any more: the loop has returned, and the creator has not
sent. -/
def Stranded (f : FanIn) (i : Nat) : Prop :=
  (∀ acc, f.main ≠ .receiving acc) ∧ ∃ c, f.creators[i]? = some c ∧ c.phase ≠ .done

variable {f f' : FanIn} {a : FanInStep} {i : Nat}

theorem stranded_step (hs : f.Stranded i) (h : f.step a = some f') :
    f'.Stranded i ∧ f'.closed = f.closed := by
  obtain ⟨hret, c, hi, hc⟩ := hs
  rcases step_cases h with ⟨j, r, hj, rfl⟩ | ⟨j, r, acc, hm, -, -⟩ | ⟨-, hdone, -⟩ |
    ⟨acc, hm, -, -⟩
  · refine ⟨⟨hret, ?_⟩, rfl⟩
    by_cases hij : j = i
    · subst hij
      exact ⟨_, List.getElem?_set_self (List.getElem?_eq_some_iff.1 hi).1, by simp⟩
    · exact ⟨c, by rw [List.getElem?_set_ne hij]; exact hi, hc⟩
  · exact absurd hm (hret acc)
  · exact absurd (hdone c (List.getElem?_mem hi)) hc
  · exact absurd hm (hret acc)

theorem stranded_run {sched : List FanInStep} (hs : f.Stranded i)
    (h : f.runSchedule sched = some f') : f'.Stranded i ∧ f'.closed = f.closed := by
  induction sched generalizing f with
  | nil => cases h; exact ⟨hs, rfl⟩
  | cons a sched ih =>
    obtain ⟨f₁, h₁, h⟩ := runSchedule_cons h
    obtain ⟨hs₁, hc₁⟩ := stranded_step hs h₁
    exact (ih hs₁ h).imp_right (·.trans hc₁)

end FanIn

/-- With two or more proxy-pool entries, let the creation of entry `j` fail and its answer
be the first the loop receives: `makePodProxyServices` returns the error, and from then on,
whatever the schedule, no other creator returns (each stays blocked on its send once its
`Create` returns) and the closer never gets past `wg.Wait()`. -/
theorem makePodProxyServices_strands_goroutines {results : List CreateResult} {j : Nat}
    {e : Error} (hj : results[j]? = some (.failed e)) (hk : 2 ≤ results.length) :
    ∃ f, (FanIn.init results).runSchedule [.create j, .deliver j] = some f ∧
      f.main = .returnedError (proxyServiceError e) ∧
      ∀ sched f', f.runSchedule sched = some f' →
        f'.closed = false ∧
          ∀ i < results.length, i ≠ j → ∃ c, f'.creators[i]? = some c ∧ c.phase ≠ .done := by
  have hlen : j < results.length := (List.getElem?_eq_some_iff.1 hj).1
  have h₀ : (FanIn.init results).creators[j]? = some ⟨.failed e, .creating⟩ := by
    simp [FanIn.init, hj]
  have h₁ : ((FanIn.init results).creators.set j ⟨.failed e, .sending⟩)[j]? =
      some ⟨.failed e, .sending⟩ := List.getElem?_set_self (by simpa [FanIn.init] using hlen)
  refine ⟨⟨((FanIn.init results).creators.set j ⟨.failed e, .sending⟩).set j ⟨.failed e, .done⟩,
    false, .returnedError (proxyServiceError e)⟩, ?_, rfl, fun sched f' hrun => ?_⟩
  · have hmain : (FanIn.init results).main = .receiving [] := rfl
    simp only [FanIn.runSchedule, FanIn.step, h₀, Option.some_bind, h₁, hmain, receive]
    rfl
  · have hstranded : ∀ i < results.length, i ≠ j → FanIn.Stranded
        ⟨((FanIn.init results).creators.set j ⟨.failed e, .sending⟩).set j ⟨.failed e, .done⟩,
          false, .returnedError (proxyServiceError e)⟩ i := by
      intro i hi hij
      refine ⟨fun acc => by simp, ⟨results[i], .creating⟩, ?_, by simp⟩
      simp [List.getElem?_set_ne (Ne.symm hij), FanIn.init, hi]
    have hother : ∃ i < results.length, i ≠ j := ⟨if j = 0 then 1 else 0, by split <;> omega,
      by split <;> omega⟩
    obtain ⟨i₀, hi₀, hij₀⟩ := hother
    refine ⟨(FanIn.stranded_run (hstranded i₀ hi₀ hij₀) hrun).2, fun i hi hij => ?_⟩
    exact (FanIn.stranded_run (hstranded i hi hij) hrun).1.2

theorem makePodProxyServices_strands_goroutines_sample :
    ∃ f, FanIn.runSchedule (FanIn.init [.failed (.plain "services is forbidden"),
        .created ⟨"proxy-svc-1-x7k2p", "proxy-svc-1", "default", [], [], []⟩])
        [.create 0, .deliver 0] = some f ∧
      f.main = .returnedError (proxyServiceError (.plain "services is forbidden")) ∧
      ∀ sched f', f.runSchedule sched = some f' →
        f'.closed = false ∧ ∀ i < 2, i ≠ 0 → ∃ c, f'.creators[i]? = some c ∧ c.phase ≠ .done :=
  makePodProxyServices_strands_goroutines rfl (by decide)

end GitlabRunner.Kubernetes
