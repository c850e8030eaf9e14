import Mathlib.Data.List.Basic

/-!
# Waiting for a job's command

`jobcontrol.JobCmd.Wait` runs `c.cmd.Wait()` in a goroutine that sends the result on the
unbuffered channel `waitCh`, and selects between that channel and the job's context. When
the context is done first, it starts `killLoop` on a context of its own, `killCtx`, and then
waits on `waitCh`. `killLoop` kills the process group once (`c.kill()`), then terminates it
on every tick of a ticker until `killCtx` is done. When `Wait` returns, its deferred calls
cancel `killCtx` and terminate the process group.

The process, the job's context and the three goroutines are a state machine, and a schedule
is any order of their steps. Every schedule keeps `WaitState.Inv`, so over every schedule:
- `Wait` returns what `c.cmd.Wait()` returned, whenever the context is cancelled
  (`wait_returns_exit_result`);
- the process group gets one kill at most, and only once the context is cancelled; with a
  context that is never cancelled, the only signal is the terminate `Wait` sends as it
  returns (`signals_of_run`);
- when `Wait` has returned, the goroutine of `c.cmd.Wait()` has finished and `killCtx` is
  cancelled, so the kill loop can always finish (`returned_cleans_up`);
- once the process has exited, `Wait`'s own steps bring it to return (`exited_can_return`).

`killLoop` may run late: its `c.kill()` can come after `Wait` has returned and terminated the
process group.

`kill` and `terminate` are platform code not under `src/`: the model records the signals
they send. The ticker's period is left out, so a tick can come at any time. So is the panic of
`time.NewTicker` on a `KillTimeout` that is not positive, which ends the program in
`killLoop` right after its kill: the results are for a positive `KillTimeout`, such as
`DefaultKillTimeout`.
-/

namespace GitlabRunner.Jobcontrol

/-- The signals `Wait` and `killLoop` send to the process group. -/
inductive Signal where
  | kill
  | terminate
  deriving DecidableEq, Repr

/-- Where `Wait` is. -/
inductive WaitPhase where
  /-- In the `select` on `waitCh` and `c.ctx.Done()`. -/
  | selecting
  /-- At `return <-waitCh`, after starting `killLoop`. -/
  | draining
  /-- `err` received; the deferred `cancel()` is next. -/
  | received (err : Option String)
  /-- `cancel()` done; the deferred `c.terminate()` is next. -/
  | cancelled (err : Option String)
  /-- `Wait` returned `err`. -/
  | returned (err : Option String)
  deriving DecidableEq, Repr

/-- Where the goroutine of `waitCh <- c.cmd.Wait()` is. -/
inductive WaiterPhase where
  /-- In `c.cmd.Wait()`. -/
  | waiting
  /-- At the send of `err` on `waitCh`. -/
  | sending (err : Option String)
  | done
  deriving DecidableEq, Repr

/-- Where `killLoop` is. -/
inductive KillerPhase where
  /-- Not started. -/
  | idle
  /-- Started; `c.kill()` is next. -/
  | started
  /-- In the loop over `ctx.Done()` and the ticker. -/
  | looping
  | done
  deriving DecidableEq, Repr

/-- The state of a call of `Wait`. -/
structure WaitState where
  /-- `none` while the process runs, then what `c.cmd.Wait()` returns for it. -/
  exited : Option (Option String)
  /-- `c.ctx.Done()` is closed. -/
  ctxDone : Bool
  /-- `killCtx.Done()` is closed. -/
  killCtxDone : Bool
  wait : WaitPhase
  waiter : WaiterPhase
  killer : KillerPhase
  /-- The signals sent, in order. -/
  signals : List Signal
  deriving DecidableEq, Repr

/-- One step of the process, the context or a goroutine. -/
inductive WaitStep where
  /-- The job's context is cancelled. -/
  | cancelContext
  /-- The process exits; `c.cmd.Wait()` will return `err`. -/
  | exit (err : Option String)
  /-- `c.cmd.Wait()` returns in the goroutine. -/
  | waiterReturns
  /-- The goroutine's send meets `Wait`'s receive, in the `select` or after it. -/
  | receive
  /-- `Wait`'s `select` takes `c.ctx.Done()` and starts `killLoop`. -/
  | contextDone
  /-- The deferred `cancel()`. -/
  | cancel
  /-- The deferred `c.terminate()`; `Wait` returns. -/
  | terminate
  /-- `killLoop`'s `c.kill()`. -/
  | kill
  /-- `killLoop`'s `select` takes a tick and calls `c.terminate()`. -/
  | tick
  /-- `killLoop`'s `select` takes `ctx.Done()` and returns. -/
  | stop
  deriving DecidableEq, Repr

namespace WaitState

/-- `Wait` called on a started command. -/
def init : WaitState := ⟨none, false, false, .selecting, .waiting, .idle, []⟩

/-- One step, or `none` when the step is not enabled. -/
def step (s : WaitState) : WaitStep → Option WaitState
  | .cancelContext => if s.ctxDone then none else some { s with ctxDone := true }
  | .exit err => if s.exited.isSome then none else some { s with exited := some err }
  | .waiterReturns =>
    match s.waiter, s.exited with
    | .waiting, some err => some { s with waiter := .sending err }
    | _, _ => none
  | .receive =>
    match s.wait, s.waiter with
    | .selecting, .sending err => some { s with wait := .received err, waiter := .done }
    | .draining, .sending err => some { s with wait := .received err, waiter := .done }
    | _, _ => none
  | .contextDone =>
    match s.wait with
    | .selecting => if s.ctxDone then some { s with wait := .draining, killer := .started } else none
    | _ => none
  | .cancel =>
    match s.wait with
    | .received err => some { s with wait := .cancelled err, killCtxDone := true }
    | _ => none
  | .terminate =>
    match s.wait with
    | .cancelled err => some { s with wait := .returned err, signals := s.signals ++ [.terminate] }
    | _ => none
  | .kill =>
    match s.killer with
    | .started => some { s with killer := .looping, signals := s.signals ++ [.kill] }
    | _ => none
  | .tick =>
    match s.killer with
    | .looping => some { s with signals := s.signals ++ [.terminate] }
    | _ => none
  | .stop =>
    match s.killer with
    | .looping => if s.killCtxDone then some { s with killer := .done } else none
    | _ => none

/-- The state after a schedule of steps, if every step is enabled in turn. -/
def runSchedule (s : WaitState) : List WaitStep → Option WaitState
  | [] => some s
  | a :: as => (s.step a).bind fun s' => s'.runSchedule as

end WaitState

/-! ## What every schedule keeps -/

/-- What `Wait` has received and will return. -/
def WaitPhase.result : WaitPhase → Option (Option String)
  | .received err | .cancelled err | .returned err => some err
  | _ => none

/-- `Wait` is past its deferred `cancel()`. -/
def WaitPhase.pastCancel : WaitPhase → Bool
  | .cancelled _ | .returned _ => true
  | _ => false

/-- `Wait` has returned. -/
def WaitPhase.isReturned : WaitPhase → Bool
  | .returned _ => true
  | _ => false

/-- `killLoop` has called `c.kill()`. -/
def KillerPhase.hasKilled : KillerPhase → Bool
  | .looping | .done => true
  | _ => false

namespace WaitState

/-- The invariant of `Wait`'s schedules. -/
structure Inv (s : WaitState) : Prop where
  wait_exited : ∀ err, s.wait.result = some err → s.exited = some err
  waiter_exited : ∀ err, s.waiter = .sending err → s.exited = some err
  waiter_done : s.waiter = .done ↔ s.wait.result.isSome
  killCtx_eq : s.killCtxDone = s.wait.pastCancel
  killer_ctx : s.killer ≠ .idle → s.ctxDone = true
  selecting_idle : s.wait = .selecting → s.killer = .idle
  kills : s.signals.count .kill = if s.killer.hasKilled then 1 else 0
  idle_signals : s.killer = .idle → s.signals = if s.wait.isReturned then [.terminate] else []

theorem inv_init : Inv init where
  wait_exited := by simp [init, WaitPhase.result]
  waiter_exited := by simp [init]
  waiter_done := by simp [init, WaitPhase.result]
  killCtx_eq := rfl
  killer_ctx := by simp [init]
  selecting_idle := fun _ => rfl
  kills := rfl
  idle_signals := fun _ => rfl

/-- Everything a step can do, guards included. -/
theorem step_cases {s s' : WaitState} {a : WaitStep} (h : s.step a = some s') :
    (a = .cancelContext ∧ s.ctxDone = false ∧ s' = { s with ctxDone := true }) ∨
    (∃ err, a = .exit err ∧ s.exited = none ∧ s' = { s with exited := some err }) ∨
    (∃ err, a = .waiterReturns ∧ s.waiter = .waiting ∧ s.exited = some err ∧
      s' = { s with waiter := .sending err }) ∨
    (∃ err, a = .receive ∧ (s.wait = .selecting ∨ s.wait = .draining) ∧ s.waiter = .sending err ∧
      s' = { s with wait := .received err, waiter := .done }) ∨
    (a = .contextDone ∧ s.wait = .selecting ∧ s.ctxDone = true ∧
      s' = { s with wait := .draining, killer := .started }) ∨
    (∃ err, a = .cancel ∧ s.wait = .received err ∧
      s' = { s with wait := .cancelled err, killCtxDone := true }) ∨
    (∃ err, a = .terminate ∧ s.wait = .cancelled err ∧
      s' = { s with wait := .returned err, signals := s.signals ++ [.terminate] }) ∨
    (a = .kill ∧ s.killer = .started ∧
      s' = { s with killer := .looping, signals := s.signals ++ [.kill] }) ∨
    (a = .tick ∧ s.killer = .looping ∧ s' = { s with signals := s.signals ++ [.terminate] }) ∨
    (a = .stop ∧ s.killer = .looping ∧ s.killCtxDone = true ∧ s' = { s with killer := .done }) := by
  cases a <;> simp only [step] at h <;> (repeat' split at h) <;> cases h <;> simp_all

theorem inv_step {s s' : WaitState} {a : WaitStep} (hinv : Inv s) (h : s.step a = some s') :
    Inv s' := by
  have ne_idle : ∀ {k : KillerPhase}, s.killer = k → k ≠ .idle → s.killer ≠ .idle :=
    fun hk hne => hk ▸ hne
  rcases step_cases h with ⟨-, -, rfl⟩ | ⟨err, -, hex, rfl⟩ | ⟨err, -, hw, hex, rfl⟩ |
    ⟨err, -, hsel, hw, rfl⟩ | ⟨-, hsel, hctx, rfl⟩ | ⟨err, -, hw, rfl⟩ | ⟨err, -, hw, rfl⟩ |
    ⟨-, hk, rfl⟩ | ⟨-, hk, rfl⟩ | ⟨-, hk, -, rfl⟩
  · -- the job's context is cancelled
    exact { hinv with killer_ctx := fun _ => rfl }
  · -- the process exits: nothing has been received or sent yet
    exact { hinv with
      wait_exited := fun e he => absurd (hinv.wait_exited e he) (by simp [hex])
      waiter_exited := fun e he => absurd (hinv.waiter_exited e he) (by simp [hex]) }
  · -- `c.cmd.Wait()` returns in the goroutine
    exact { hinv with
      waiter_exited := fun e he => by cases he; exact hex
      waiter_done := by simpa [hw] using hinv.waiter_done }
  · -- the receive
    have hnot : s.wait.pastCancel = false ∧ s.wait.isReturned = false := by
      rcases hsel with h | h <;> simp [h, WaitPhase.pastCancel, WaitPhase.isReturned]
    exact { hinv with
      wait_exited := fun e he => by cases he; exact hinv.waiter_exited err hw
      waiter_exited := fun _ he => by cases he
      waiter_done := by simp [WaitPhase.result]
      killCtx_eq := hinv.killCtx_eq.trans hnot.1
      selecting_idle := fun he => by cases he
      idle_signals := fun hk => by rw [hinv.idle_signals hk, hnot.2]; rfl }
  · -- the `select` takes `c.ctx.Done()`
    exact { hinv with
      wait_exited := fun _ he => by cases he
      waiter_done := by rw [hinv.waiter_done, hsel]; rfl
      killCtx_eq := by rw [hinv.killCtx_eq, hsel]; rfl
      killer_ctx := fun _ => hctx
      selecting_idle := fun he => by cases he
      kills := by rw [hinv.kills, hinv.selecting_idle hsel]; rfl
      idle_signals := fun hk => by cases hk }
  · -- the deferred `cancel()`
    exact { hinv with
      wait_exited := fun e he => hinv.wait_exited e (by rw [hw]; exact he)
      waiter_done := by rw [hinv.waiter_done, hw]; rfl
      killCtx_eq := rfl
      selecting_idle := fun he => by cases he
      idle_signals := fun hk => by rw [hinv.idle_signals hk, hw]; rfl }
  · -- the deferred `c.terminate()`
    exact { hinv with
      wait_exited := fun e he => hinv.wait_exited e (by rw [hw]; exact he)
      waiter_done := by rw [hinv.waiter_done, hw]; rfl
      killCtx_eq := by rw [hinv.killCtx_eq, hw]; rfl
      selecting_idle := fun he => by cases he
      kills := by simp [hinv.kills]
      idle_signals := fun hk => by rw [hinv.idle_signals hk, hw]; rfl }
  · -- `killLoop`'s `c.kill()`
    exact { hinv with
      killer_ctx := fun _ => hinv.killer_ctx (ne_idle hk nofun)
      selecting_idle := fun hw => absurd (hinv.selecting_idle hw) (ne_idle hk nofun)
      kills := by simp [hinv.kills, hk, KillerPhase.hasKilled]
      idle_signals := fun hk' => by cases hk' }
  · -- a tick
    exact { hinv with
      kills := by simp [hinv.kills]
      idle_signals := fun hk' => absurd hk' (ne_idle hk nofun) }
  · -- `killLoop` returns
    exact { hinv with
      killer_ctx := fun _ => hinv.killer_ctx (ne_idle hk nofun)
      selecting_idle := fun hw => absurd (hinv.selecting_idle hw) (ne_idle hk nofun)
      kills := by rw [hinv.kills, hk]; rfl
      idle_signals := fun hk' => by cases hk' }

theorem inv_run {sched : List WaitStep} {s s' : WaitState} (hinv : Inv s)
    (h : s.runSchedule sched = some s') : Inv s' := by
  induction sched generalizing s with
  | nil => exact Option.some.inj h ▸ hinv
  | cons a as ih =>
    simp only [runSchedule, Option.bind_eq_some] at h
    obtain ⟨s₁, h₁, h₂⟩ := h
    exact ih (inv_step hinv h₁) h₂

end WaitState

open WaitState

/-- `Wait` returns what `c.cmd.Wait()` returned for the process, whenever the job's context
is cancelled. -/
theorem wait_returns_exit_result {sched : List WaitStep} {s : WaitState}
    (h : init.runSchedule sched = some s) {err : Option String} (hret : s.wait = .returned err) :
    s.exited = some err :=
  (inv_run inv_init h).wait_exited err (by simp [hret, WaitPhase.result])

/-- The context is cancelled before the process exits, and `Wait` returns the exit. -/
theorem wait_returns_exit_result_sample :
    init.runSchedule [.cancelContext, .contextDone, .exit (some "signal: killed"),
        .waiterReturns, .receive, .cancel, .terminate] =
      some ⟨some (some "signal: killed"), true, true, .returned (some "signal: killed"), .done,
        .started, [.terminate]⟩ ∧
    (⟨some (some "signal: killed"), true, true, .returned (some "signal: killed"), .done,
        .started, [.terminate]⟩ : WaitState).exited = some (some "signal: killed") := by
  refine ⟨?h, wait_returns_exit_result ?h rfl⟩
  rfl

/-- The process group gets one kill at most, and only once the job's context is cancelled;
while the context is not cancelled, the only signal is the terminate `Wait` sends as it
returns. -/
theorem signals_of_run {sched : List WaitStep} {s : WaitState}
    (h : init.runSchedule sched = some s) :
    s.signals.count .kill ≤ 1 ∧ (Signal.kill ∈ s.signals → s.ctxDone = true) ∧
      (s.ctxDone = false → s.signals = if s.wait.isReturned then [.terminate] else []) := by
  have hinv := inv_run inv_init h
  have hidle : s.ctxDone = false → s.killer = .idle := fun hc => by
    by_contra hk
    simp [hinv.killer_ctx hk] at hc
  refine ⟨?_, fun hk => ?_, fun hc => hinv.idle_signals (hidle hc)⟩
  · rw [hinv.kills]
    split <;> omega
  · by_contra hc
    have hs := hinv.idle_signals (hidle (by simpa using hc))
    split at hs <;> simp [hs] at hk

/-- `killLoop` runs late: its kill comes after `Wait` has returned and terminated the
process group. -/
theorem signals_of_run_sample :
    init.runSchedule [.cancelContext, .contextDone, .exit none, .waiterReturns, .receive,
        .cancel, .terminate, .kill, .stop] =
      some ⟨some none, true, true, .returned none, .done, .done, [.terminate, .kill]⟩ ∧
    let s : WaitState := ⟨some none, true, true, .returned none, .done, .done, [.terminate, .kill]⟩
    s.signals.count .kill ≤ 1 ∧ (Signal.kill ∈ s.signals → s.ctxDone = true) ∧
      (s.ctxDone = false → s.signals = if s.wait.isReturned then [.terminate] else []) := by
  refine ⟨?h, signals_of_run ?h⟩
  rfl

/-- When `Wait` has returned, the goroutine of `c.cmd.Wait()` has finished, `killCtx` is
cancelled, and the kill loop, if started, finishes by its own steps. -/
theorem returned_cleans_up {sched : List WaitStep} {s : WaitState}
    (h : init.runSchedule sched = some s) {err : Option String} (hret : s.wait = .returned err) :
    s.waiter = .done ∧ s.killCtxDone = true ∧
      ∃ rest s', s.runSchedule rest = some s' ∧ (s'.killer = .idle ∨ s'.killer = .done) := by
  have hinv := inv_run inv_init h
  have hkc : s.killCtxDone = true := by rw [hinv.killCtx_eq, hret]; rfl
  refine ⟨hinv.waiter_done.2 (by simp [hret, WaitPhase.result]), hkc, ?_⟩
  cases hk : s.killer with
  | idle => exact ⟨[], s, rfl, .inl hk⟩
  | started =>
    exact ⟨[.kill, .stop], { s with killer := .done, signals := s.signals ++ [.kill] },
      by simp [runSchedule, step, hk, hkc], .inr rfl⟩
  | looping => exact ⟨[.stop], { s with killer := .done }, by simp [runSchedule, step, hk, hkc],
      .inr rfl⟩
  | done => exact ⟨[], s, rfl, .inr hk⟩

/-- `Wait` has returned while `killLoop` has not yet killed. -/
theorem returned_cleans_up_sample :
    init.runSchedule [.cancelContext, .contextDone, .exit none, .waiterReturns, .receive,
        .cancel, .terminate] =
      some ⟨some none, true, true, .returned none, .done, .started, [.terminate]⟩ ∧
    let s : WaitState := ⟨some none, true, true, .returned none, .done, .started, [.terminate]⟩
    s.waiter = .done ∧ s.killCtxDone = true ∧
      ∃ rest s', s.runSchedule rest = some s' ∧ (s'.killer = .idle ∨ s'.killer = .done) := by
  refine ⟨?h, returned_cleans_up ?h rfl⟩
  rfl

theorem runSchedule_cons_of_step {s s' : WaitState} {a : WaitStep} (as : List WaitStep)
    (h : s.step a = some s') : s.runSchedule (a :: as) = s'.runSchedule as := by
  simp [runSchedule, h]

/-- From a received result, the deferred calls return it. -/
theorem runSchedule_finish {t : WaitState} {err : Option String} (ht : t.wait = .received err) :
    ∃ t', t.runSchedule [.cancel, .terminate] = some t' ∧ t'.wait = .returned err :=
  ⟨{ t with wait := .returned err, killCtxDone := true, signals := t.signals ++ [.terminate] },
    by simp [runSchedule, step, ht], rfl⟩

/-- Once the process has exited, `Wait`'s own steps bring it to return what
`c.cmd.Wait()` returned: the unbuffered `waitCh` never blocks it. -/
theorem exited_can_return {sched : List WaitStep} {s : WaitState}
    (h : init.runSchedule sched = some s) {err : Option String} (hexit : s.exited = some err) :
    ∃ rest s', s.runSchedule rest = some s' ∧ s'.wait = .returned err := by
  have hinv := inv_run inv_init h
  have hres : ∀ e, s.wait.result = some e → e = err := fun e he =>
    Option.some.inj ((hinv.wait_exited e he).symm.trans hexit)
  -- the receive, from the `select` or after it, then the deferred calls
  have hrecv : ∀ t : WaitState, t.wait = .selecting ∨ t.wait = .draining →
      t.waiter = .sending err → ∃ rest t', t.runSchedule rest = some t' ∧ t'.wait = .returned err := by
    intro t hw hs
    have hstep : t.step .receive = some { t with wait := .received err, waiter := .done } := by
      rcases hw with hw | hw <;> simp [step, hw, hs]
    obtain ⟨t', ht', hret⟩ := runSchedule_finish (t := { t with wait := .received err, waiter := .done }) rfl
    exact ⟨_, t', (runSchedule_cons_of_step _ hstep).trans ht', hret⟩
  cases hwait : s.wait with
  | returned e => exact ⟨[], s, rfl, by rw [hwait, hres e (by simp [hwait, WaitPhase.result])]⟩
  | cancelled e =>
    refine ⟨[.terminate], { s with wait := .returned e, signals := s.signals ++ [.terminate] },
      by simp [runSchedule, step, hwait], ?_⟩
    rw [hres e (by simp [hwait, WaitPhase.result])]
  | received e =>
    obtain ⟨t', ht', hret⟩ := runSchedule_finish hwait
    exact ⟨_, t', ht', by rw [hret, hres e (by simp [hwait, WaitPhase.result])]⟩
  | selecting | draining =>
    have hsel : s.wait = .selecting ∨ s.wait = .draining := by simp [hwait]
    cases hw : s.waiter with
    | waiting =>
      have hstep : s.step .waiterReturns = some { s with waiter := .sending err } := by
        simp [step, hw, hexit]
      obtain ⟨rest, t', ht', hret⟩ := hrecv { s with waiter := .sending err } hsel rfl
      exact ⟨_, t', (runSchedule_cons_of_step _ hstep).trans ht', hret⟩
    | sending e =>
      rw [Option.some.inj ((hinv.waiter_exited e hw).symm.trans hexit)] at hw
      exact hrecv s hsel hw
    | done => exact absurd (hinv.waiter_done.1 hw) (by simp [hwait, WaitPhase.result])

/-- The process has exited while `Wait` drains `waitCh` after starting `killLoop`. -/
theorem exited_can_return_sample :
    init.runSchedule [.cancelContext, .contextDone, .exit none] =
      some ⟨some none, true, false, .draining, .waiting, .started, []⟩ ∧
    ∃ rest s', (⟨some none, true, false, .draining, .waiting, .started, []⟩ : WaitState).runSchedule
      rest = some s' ∧ s'.wait = .returned none := by
  refine ⟨?h, exited_can_return ?h rfl⟩
  rfl

end GitlabRunner.Jobcontrol
