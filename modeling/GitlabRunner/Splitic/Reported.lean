import GitlabRunner.Splitic.Runner

/-!
# What `runGroups` records of the reported test cases

`runGroups` sees the test cases `runTests` reports, attempt after attempt and group after
group, up to the first error of `runTests` (`reportedCases`). It keeps two records of them,
and each is a function of that sequence alone:
- the suites hold every reported test case, in the suite of its class and in the order
  reported, with one suite for each class that has a case (`lookup_suites_runGroups`);
- a key is in `failures` exactly when the last test case of that key that gives a verdict is
  a failure (`mem_failures_runGroups_iff`). A quarantined test case, and a failure of a test
  listed as flaky, give no verdict. A later pass of the same key clears its failure, in a
  retry or in another group.

Both come from one trace lemma (`runGroupsFrom_view`): a view of the record that each attempt
moves by a function of its test cases, compatible with concatenation, ends as that function
of all the reported test cases. The calls `runGroups` makes to `runTests` are traced the same
way (`runGroupsCalls`), and every reported test case comes from one of them
(`mem_reportedCases`). So every recorded failure is a failed test case of some call that is
neither quarantined nor flaky (`mem_failures_runGroups`).
-/

namespace GitlabRunner.Splitic

open Junit

variable {τ : Type}

/-! ## The reported test cases -/

/-- The test cases `runTests` reports to the attempt loop of one group, in order. -/
def attemptsCases (rt : RunTests τ) (o : Options) (idx : Nat) (pkgs : List String) :
    Nat → Nat → List String → Recorded τ → List (Junit.TestCase τ)
  | _, 0, _, _ => []
  | attempt, left + 1, run, st =>
    match rt idx attempt run pkgs with
    | .error _ => []
    | .ok testcases =>
      if retryNames o testcases st = [] then testcases
      else testcases ++ attemptsCases rt o idx pkgs (attempt + 1) left
        (retryNames o testcases st) (afterAttempt o testcases st)

/-- The test cases `runTests` reports to `runGroups` from group `idx` on, in order, up to its
first error. -/
def runGroupsCasesFrom (rt : RunTests τ) (o : Options) :
    Nat → List RunGroup → Recorded τ → List (Junit.TestCase τ)
  | _, [], _ => []
  | idx, g :: gs, st =>
    attemptsCases rt o idx g.packages 1 (attemptCount o) g.run st ++
      match attempts rt o idx g.packages 1 (attemptCount o) g.run st with
      | (_, some _) => []
      | (st', none) => runGroupsCasesFrom rt o (idx + 1) gs st'

/-- The test cases `runTests` reports to `runGroups`, in order. -/
def reportedCases (rt : RunTests τ) (o : Options) (groups : List RunGroup) :
    List (Junit.TestCase τ) :=
  runGroupsCasesFrom rt o 0 groups ⟨[], []⟩

/-- A call `runTests(idx, attempt, run, pkgs)`. -/
structure TestsCall where
  idx : Nat
  attempt : Nat
  run : List String
  packages : List String
  deriving DecidableEq, Repr

/-- The calls the attempt loop of one group makes to `runTests`, in order. -/
def attemptsCalls (rt : RunTests τ) (o : Options) (idx : Nat) (pkgs : List String) :
    Nat → Nat → List String → Recorded τ → List TestsCall
  | _, 0, _, _ => []
  | attempt, left + 1, run, st =>
    ⟨idx, attempt, run, pkgs⟩ ::
      match rt idx attempt run pkgs with
      | .error _ => []
      | .ok testcases =>
        if retryNames o testcases st = [] then []
        else attemptsCalls rt o idx pkgs (attempt + 1) left (retryNames o testcases st)
          (afterAttempt o testcases st)

/-- The calls `runGroups` makes to `runTests` from group `idx` on, in order. -/
def runGroupsCallsFrom (rt : RunTests τ) (o : Options) :
    Nat → List RunGroup → Recorded τ → List TestsCall
  | _, [], _ => []
  | idx, g :: gs, st =>
    attemptsCalls rt o idx g.packages 1 (attemptCount o) g.run st ++
      match attempts rt o idx g.packages 1 (attemptCount o) g.run st with
      | (_, some _) => []
      | (st', none) => runGroupsCallsFrom rt o (idx + 1) gs st'

/-- The calls `runGroups` makes to `runTests`, in order. -/
def runGroupsCalls (rt : RunTests τ) (o : Options) (groups : List RunGroup) : List TestsCall :=
  runGroupsCallsFrom rt o 0 groups ⟨[], []⟩

section Calls

variable {rt : RunTests τ} {o : Options} {tc : Junit.TestCase τ}

/-- Every test case reported to a group's attempts comes from one of their calls. -/
theorem mem_attemptsCases {idx : Nat} {pkgs : List String} (attempt left : Nat)
    (run : List String) (st : Recorded τ) (h : tc ∈ attemptsCases rt o idx pkgs attempt left run st) :
    ∃ c ∈ attemptsCalls rt o idx pkgs attempt left run st, ∃ testcases,
      rt c.idx c.attempt c.run c.packages = .ok testcases ∧ tc ∈ testcases := by
  induction left generalizing attempt run st with
  | zero => exact absurd h (List.not_mem_nil _)
  | succ left ih =>
    cases hrt : rt idx attempt run pkgs with
    | error e => simp [attemptsCases, hrt] at h
    | ok testcases =>
      by_cases hr : retryNames o testcases st = []
      · simp only [attemptsCases, hrt, hr, if_true] at h
        exact ⟨_, List.mem_cons_self _ _, testcases, hrt, h⟩
      · simp only [attemptsCases, hrt, hr, if_false, List.mem_append] at h
        rcases h with h | h
        · exact ⟨_, List.mem_cons_self _ _, testcases, hrt, h⟩
        · obtain ⟨c, hc, rest⟩ := ih _ _ _ h
          exact ⟨c, by simp [attemptsCalls, hrt, hr, hc], rest⟩

/-- Every test case reported to `runGroups` comes from one of the calls it made. -/
theorem mem_runGroupsCasesFrom (idx : Nat) (groups : List RunGroup) (st : Recorded τ)
    (h : tc ∈ runGroupsCasesFrom rt o idx groups st) :
    ∃ c ∈ runGroupsCallsFrom rt o idx groups st, ∃ testcases,
      rt c.idx c.attempt c.run c.packages = .ok testcases ∧ tc ∈ testcases := by
  induction groups generalizing idx st with
  | nil => exact absurd h (List.not_mem_nil _)
  | cons g gs ih =>
    rw [runGroupsCasesFrom, List.mem_append] at h
    rcases h with h | h
    · obtain ⟨c, hc, rest⟩ := mem_attemptsCases _ _ _ _ h
      exact ⟨c, by simp [runGroupsCallsFrom, hc], rest⟩
    · rcases hat : attempts rt o idx g.packages 1 (attemptCount o) g.run st with ⟨st', _ | e⟩ <;>
        rw [hat] at h
      · obtain ⟨c, hc, rest⟩ := ih _ _ h
        exact ⟨c, by simp [runGroupsCallsFrom, hat, hc], rest⟩
      · exact absurd h (List.not_mem_nil _)

theorem mem_reportedCases {groups : List RunGroup} (h : tc ∈ reportedCases rt o groups) :
    ∃ c ∈ runGroupsCalls rt o groups, ∃ testcases,
      rt c.idx c.attempt c.run c.packages = .ok testcases ∧ tc ∈ testcases :=
  mem_runGroupsCasesFrom 0 groups _ h

end Calls

section Trace

variable {rt : RunTests τ} {o : Options} {β : Type} (view : Recorded τ → β)
  (F : β → List (Junit.TestCase τ) → β) (hnil : ∀ b, F b [] = b)
  (happend : ∀ b l₁ l₂, F b (l₁ ++ l₂) = F (F b l₁) l₂)
  (hstep : ∀ testcases st, view (afterAttempt o testcases st) = F (view st) testcases)
include hnil happend hstep

/-- A view of the record that every attempt moves by `F` of its test cases ends, after a
group's attempts, as `F` of all the test cases they reported. -/
theorem attempts_view {idx : Nat} {pkgs : List String} (attempt left : Nat)
    (run : List String) (st : Recorded τ) :
    view (attempts rt o idx pkgs attempt left run st).1 =
      F (view st) (attemptsCases rt o idx pkgs attempt left run st) := by
  induction left generalizing attempt run st with
  | zero => exact (hnil _).symm
  | succ left ih =>
    cases hrt : rt idx attempt run pkgs with
    | error e => simp only [attempts, attemptsCases, hrt, hnil]
    | ok testcases =>
      by_cases hr : retryNames o testcases st = []
      · simp only [attempts, attemptsCases, hrt, hr, if_true, hstep]
      · simp only [attempts, attemptsCases, hrt, hr, if_false, ih, hstep, happend]

/-- The same view ends, after `runGroups`, as `F` of every test case reported. -/
theorem runGroupsFrom_view (idx : Nat) (groups : List RunGroup) (st : Recorded τ) :
    view (runGroupsFrom rt o idx groups st).1 =
      F (view st) (runGroupsCasesFrom rt o idx groups st) := by
  induction groups generalizing idx st with
  | nil => exact (hnil _).symm
  | cons g gs ih =>
    have ha : view (attempts rt o idx g.packages 1 (attemptCount o) g.run st).1 =
        F (view st) (attemptsCases rt o idx g.packages 1 (attemptCount o) g.run st) :=
      attempts_view view F hnil happend hstep 1 (attemptCount o) g.run st
    rcases hat : attempts rt o idx g.packages 1 (attemptCount o) g.run st with ⟨st', _ | e⟩
    · rw [hat] at ha
      simp only [runGroupsFrom, runGroupsCasesFrom, hat, ih, ha, happend]
    · rw [hat] at ha
      simp only [runGroupsFrom, runGroupsCasesFrom, hat, ha, List.append_nil]

end Trace

/-! ## The failures that stand -/

/-- What a reported test case says of the failure key `k`: nothing when it has another key,
is quarantined, or is a failure of a test listed as flaky (which is only run again); else
whether it failed. -/
def verdict (o : Options) (k : String) (tc : Junit.TestCase τ) : Option Bool :=
  if tc.key ≠ k ∨ (has o.quarantined tc.key || has o.quarantined tc.name) = true then none
  else if tc.error = [] ∧ tc.failure = [] then some false
  else if (has o.flaky tc.key || has o.flaky tc.name) = true then none
  else some true

/-- Whether `k` stands as a failure after the test cases `cases`, from `init`: the verdict of
the last test case that gives one. -/
def standing (o : Options) (k : String) (init : Bool) (cases : List (Junit.TestCase τ)) :
    Bool :=
  ((cases.filterMap (verdict o k)).getLast?).getD init

theorem standing_append (o : Options) (k : String) (init : Bool)
    (l₁ l₂ : List (Junit.TestCase τ)) :
    standing o k init (l₁ ++ l₂) = standing o k (standing o k init l₁) l₂ := by
  simp only [standing, List.filterMap_append, List.getLast?_append]
  cases (l₂.filterMap (verdict o k)).getLast? <;> rfl

theorem standing_singleton (o : Options) (k : String) (init : Bool) (tc : Junit.TestCase τ) :
    standing o k init [tc] = (verdict o k tc).getD init := by
  cases h : verdict o k tc <;> simp [standing, h]

/-- One test case of the second loop of an attempt moves `k`'s membership of `failures` by
its verdict. -/
theorem mem_classify (o : Options) (k : String) (acc : List String × List String)
    (tc : Junit.TestCase τ) :
    decide (k ∈ (classify o acc tc).2) = (verdict o k tc).getD (decide (k ∈ acc.2)) := by
  unfold classify verdict
  by_cases hq : (has o.quarantined tc.key || has o.quarantined tc.name) = true
  · simp [hq]
  by_cases hp : tc.error = [] ∧ tc.failure = [] <;>
    by_cases hf : (has o.flaky tc.key || has o.flaky tc.name) = true <;>
    by_cases hm : tc.key ∈ acc.2 <;>
    by_cases hk : k = tc.key <;> simp [hq, hp, hf, hm, hk, @eq_comm _ tc.key k]

theorem mem_foldl_classify (o : Options) (k : String) (cases : List (Junit.TestCase τ))
    (acc : List String × List String) :
    decide (k ∈ (cases.foldl (classify o) acc).2) = standing o k (decide (k ∈ acc.2)) cases := by
  induction cases generalizing acc with
  | nil => rfl
  | cons tc cases ih =>
    rw [List.foldl_cons, ih, mem_classify, ← standing_singleton, ← standing_append]
    rfl

/-- The failures after `runGroups` from group `idx` on, key by key. -/
theorem mem_failures_runGroupsFrom (rt : RunTests τ) (o : Options) (k : String) (idx : Nat)
    (groups : List RunGroup) (st : Recorded τ) :
    decide (k ∈ (runGroupsFrom rt o idx groups st).1.failures) =
      standing o k (decide (k ∈ st.failures)) (runGroupsCasesFrom rt o idx groups st) :=
  runGroupsFrom_view (fun st => decide (k ∈ st.failures)) (standing o k) (fun _ => rfl)
    (standing_append o k) (fun testcases _ => mem_foldl_classify o k testcases _) idx groups st

/-- The failures after `runGroups`, key by key. -/
theorem decide_mem_failures_runGroups (rt : RunTests τ) (o : Options) (groups : List RunGroup)
    (k : String) :
    decide (k ∈ (runGroups rt o groups).1.failures) = standing o k false (reportedCases rt o groups) :=
  mem_failures_runGroupsFrom rt o k 0 groups ⟨[], []⟩

/-- `runGroups` records a key as a failure exactly when the last reported test case of that
key that gives a verdict is a failure: a pass clears the key, a quarantined test case and a
failure of a flaky test leave it as it was. -/
theorem mem_failures_runGroups_iff (rt : RunTests τ) (o : Options) (groups : List RunGroup)
    (k : String) :
    k ∈ (runGroups rt o groups).1.failures ↔ standing o k false (reportedCases rt o groups) = true := by
  rw [← decide_mem_failures_runGroups, decide_eq_true_iff]

/-- A test case says that `k` failed exactly when it has key `k`, failed or errored, and is
neither quarantined nor flaky. -/
theorem verdict_eq_some_true {o : Options} {k : String} {tc : Junit.TestCase τ} :
    verdict o k tc = some true ↔ tc.key = k ∧ ¬ (tc.error = [] ∧ tc.failure = []) ∧
      (has o.quarantined tc.key || has o.quarantined tc.name) = false ∧
      (has o.flaky tc.key || has o.flaky tc.name) = false := by
  unfold verdict
  by_cases hk : tc.key = k
  · cases hq : (has o.quarantined tc.key || has o.quarantined tc.name) <;>
      cases hf : (has o.flaky tc.key || has o.flaky tc.name) <;>
      simp only [hq, hf, hk, ne_eq, not_true_eq_false, false_or, true_and] <;>
      by_cases hp : tc.error = [] ∧ tc.failure = [] <;> simp [hp]
  · simp [hk]

theorem exists_verdict_of_standing {o : Options} {k : String} {cases : List (Junit.TestCase τ)}
    (h : standing o k false cases = true) : ∃ tc ∈ cases, verdict o k tc = some true := by
  unfold standing at h
  cases hl : (cases.filterMap (verdict o k)).getLast? with
  | none => simp [hl] at h
  | some b =>
    rw [hl, Option.getD_some] at h
    subst h
    exact List.mem_filterMap.1 (List.mem_of_getLast?_eq_some hl)

/-- A recorded failure is a key whose last verdict, from some reported test case, is a
failure. -/
theorem verdict_of_mem_failures_runGroups {rt : RunTests τ} {o : Options}
    {groups : List RunGroup} {k : String} (hk : k ∈ (runGroups rt o groups).1.failures) :
    ∃ tc ∈ reportedCases rt o groups, verdict o k tc = some true :=
  exists_verdict_of_standing (decide_mem_failures_runGroups rt o groups k ▸ decide_eq_true hk)

/-- Every failure `runGroups` records is the key of a test case `runTests` reported to it,
one that failed or errored and is neither quarantined nor flaky: a test listed as flaky never
counts, whatever its outcomes. -/
theorem mem_failures_runGroups (rt : RunTests τ) (o : Options) (groups : List RunGroup)
    {k : String} (hk : k ∈ (runGroups rt o groups).1.failures) :
    ∃ tc ∈ reportedCases rt o groups, tc.key = k ∧ ¬ (tc.error = [] ∧ tc.failure = []) ∧
      (has o.quarantined tc.key || has o.quarantined tc.name) = false ∧
      (has o.flaky tc.key || has o.flaky tc.name) = false :=
  let ⟨tc, htc, hv⟩ := verdict_of_mem_failures_runGroups hk
  ⟨tc, htc, verdict_eq_some_true.1 hv⟩

/-- Without the flaky listing, the test that always fails is recorded, and goes back to a
failed test case reported to `runGroups`. -/
theorem mem_failures_runGroups_sample :
    ∃ tc ∈ reportedCases alwaysFailing ⟨3, [], []⟩ [flakyGroup],
      tc.key = "gitlab.com/gitlab-org/gitlab-runner/helpers TestDockerPull" ∧
      ¬ (tc.error = [] ∧ tc.failure = []) ∧ (has [] tc.key || has [] tc.name) = false ∧
      (has [] tc.key || has [] tc.name) = false :=
  mem_failures_runGroups alwaysFailing ⟨3, [], []⟩ [flakyGroup] (by decide)

/-! ## Every reported test case in its suite -/

/-- The suite of class `c` after the test cases `cases`, from `s`: the cases of class `c`
appended to it, in a new suite when there was none. -/
def fileCases (c : String) (s : Option (TestSuite τ)) (cases : List (Junit.TestCase τ)) :
    Option (TestSuite τ) :=
  if (cases.filter (·.classname == c)).isEmpty then s
  else some { s.getD (newSuite c) with
    testCases := (s.getD (newSuite c)).testCases ++ cases.filter (·.classname == c) }

theorem fileCases_append (c : String) (s : Option (TestSuite τ))
    (l₁ l₂ : List (Junit.TestCase τ)) :
    fileCases c s (l₁ ++ l₂) = fileCases c (fileCases c s l₁) l₂ := by
  unfold fileCases
  rw [List.filter_append]
  generalize l₁.filter (·.classname == c) = f₁
  generalize l₂.filter (·.classname == c) = f₂
  cases f₁ <;> cases f₂ <;> simp

theorem lookup_recordCase (c : String) (suites : List (String × TestSuite τ))
    (tc : Junit.TestCase τ) :
    (recordCase suites tc).lookup c = fileCases c (suites.lookup c) [tc] := by
  by_cases hc : tc.classname = c
  · subst hc; simp [recordCase, fileCases]
  · simp [recordCase, fileCases, lookup_mapInsert_ne _ _ (Ne.symm hc), hc]

theorem lookup_foldl_recordCase (c : String) (cases : List (Junit.TestCase τ))
    (suites : List (String × TestSuite τ)) :
    (cases.foldl recordCase suites).lookup c = fileCases c (suites.lookup c) cases := by
  induction cases generalizing suites with
  | nil => simp [fileCases]
  | cons tc cases ih =>
    rw [List.foldl_cons, ih, lookup_recordCase, ← fileCases_append]
    rfl

theorem nodup_keys_runGroups (rt : RunTests τ) (o : Options) (groups : List RunGroup) :
    ((runGroups rt o groups).1.suites.map Prod.fst).Nodup :=
  runGroupsFrom_preserves (fun st : Recorded τ => (st.suites.map Prod.fst).Nodup)
    (fun _ _ _ _ testcases _ _ h => List.foldlRecOn
      (motive := fun suites : List (String × TestSuite τ) => (suites.map Prod.fst).Nodup)
      testcases _ _ h fun _ hs _ _ => nodup_keys_mapInsert _ _ hs)
    0 groups List.nodup_nil

/-- The suites `runGroups` records, which `run` saves as its junit report, hold every reported
test case once: one suite per class, holding the test cases of that class in the order they
were reported, and no suite for a class with no test case. -/
theorem lookup_suites_runGroups (rt : RunTests τ) (o : Options) (groups : List RunGroup)
    (c : String) :
    ((runGroups rt o groups).1.suites.map Prod.fst).Nodup ∧
      (runGroups rt o groups).1.suites.lookup c =
        if ((reportedCases rt o groups).filter (·.classname == c)).isEmpty then none
        else some { (newSuite c : TestSuite τ) with
          testCases := (reportedCases rt o groups).filter (·.classname == c) } := by
  refine ⟨nodup_keys_runGroups rt o groups, ?_⟩
  rw [runGroups, runGroupsFrom_view (fun st => st.suites.lookup c) (fileCases c)
    (fun _ => by simp [fileCases]) (fileCases_append c)
    (fun testcases st => lookup_foldl_recordCase c testcases st.suites)]
  simp [fileCases, reportedCases, newSuite]

end GitlabRunner.Splitic
