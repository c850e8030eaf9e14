import GitlabRunner.Golang
import Mathlib.Algebra.Order.Ring.Nat

/-!
# Splitting the test suite over nodes

`splitic` runs the repository's Go tests on `NodeTotal` CI nodes. Every node lists all tests
of the packages, adds them one by one to `NodeTotal` buckets with `Buckets.Add` (each test to
the bucket its reported timing raises least), and then runs the groups of its own bucket,
`Bucket.RunGroups`, one `go test -run ^t1$|...|^tk$ <packages>` each: a group runs every test
of its packages whose name is among its names.

`RunGroups` gives a package its own group when one of its tests has a name already seen in
the bucket, and puts every other package in one shared group with the names of all their
tests. The buckets hold each listed test exactly once (`splitTests_perm`), and every test is
run by the node of its bucket (`splitTests_covers`). But the shared group runs the cross
product of its packages and its names (`shared_group_runs`): a test of one of its packages
that was put in another bucket, with a name some other package of the group also uses, is
run by both nodes (`split_runs_test_twice`, on three tests of this repository).

Timings are `float64` seconds in the code and a linear order `τ` here: nothing but the
choice of bucket reads them. The sample split is evaluated in milliseconds, in which its
sums are exact, as they are in `float64`.
-/

namespace GitlabRunner.Splitic

/-! ## Timings, buckets and groups -/

/-- `timings.Timing`: a test of a report, or a listed test with its assumed timing. -/
structure Timing (τ : Type) where
  package : String
  method : String
  timing : τ
  deriving DecidableEq, Repr

/-- `testcase`: a test function that `list` found, and its package. -/
structure TestCase where
  pkg : String
  name : String
  deriving DecidableEq, Repr

/-- `Bucket`: the tests added to one node, and their total timing. -/
structure Bucket (τ : Type) where
  items : List (Timing τ)
  time : τ
  deriving DecidableEq, Repr

/-- `RunGroup`: one `go test` invocation, its packages and the test names it runs. -/
structure RunGroup where
  packages : List String
  run : List String
  deriving DecidableEq, Repr

/-- The tests the invocation of a group runs: `-run ^t1$|...|^tk$` selects the tests whose
name is one of the group's names (test names are Go identifiers, which hold no
metacharacter), in every one of its packages. -/
def RunGroup.Runs (g : RunGroup) (test : TestCase) : Prop :=
  test.pkg ∈ g.packages ∧ test.name ∈ g.run

/-- `sort.Strings`. -/
def sortStrings (l : List String) : List String :=
  l.mergeSort fun a b => decide (a ≤ b)

@[simp] theorem mem_sortStrings {s : String} {l : List String} : s ∈ sortStrings l ↔ s ∈ l :=
  List.mem_mergeSort

/-! ## Adding tests to buckets -/

section Add

variable {τ : Type} [LinearOrder τ] [Add τ]

/-- One entry of the loop of `getTiming`. `acc` is `(length, timing)`: the length of the
longest reported package that `pkg` ends with, and the largest timing reported for the
method in a package of that length. -/
def timingStep (pkg method : String) (acc : Nat × τ) (tc : Timing τ) : Nat × τ :=
  if tc.method ≠ method then acc
  else if hasSuffix pkg tc.package ∧ tc.method = method then
    if tc.package.utf8ByteSize = acc.1 ∧ acc.2 < tc.timing then (acc.1, tc.timing)
    else if acc.1 < tc.package.utf8ByteSize then (tc.package.utf8ByteSize, tc.timing)
    else acc
  else acc

/-- The loop of `Buckets.Add` from bucket `idx` on: `chosen` is the first bucket of the
lowest score `lowest` so far, a score being the bucket's time plus the test's. -/
def chooseBucket (timing : τ) : List (Bucket τ) → Nat → Nat → τ → Nat
  | [], _, chosen, _ => chosen
  | b :: bs, idx, chosen, lowest =>
    if b.time + timing < lowest then chooseBucket timing bs (idx + 1) idx (b.time + timing)
    else chooseBucket timing bs (idx + 1) chosen lowest

theorem chooseBucket_lt (timing : τ) (bs : List (Bucket τ)) (idx chosen : Nat) (lowest : τ)
    (h : chosen < idx + bs.length) :
    chooseBucket timing bs idx chosen lowest < idx + bs.length := by
  induction bs generalizing idx chosen lowest with
  | nil => simpa [chooseBucket] using h
  | cons b bs ih =>
    simp only [List.length_cons] at h ⊢
    have h₁ := ih (idx + 1) idx (b.time + timing) (by omega)
    have h₂ := ih (idx + 1) chosen lowest (by omega)
    unfold chooseBucket
    split <;> omega

variable [Zero τ]

/-- `getTiming`: the test with the timing the report gives it, and at least `minTime`. -/
def getTiming (minTime : τ) (r : List (Timing τ)) (pkg method : String) : Timing τ :=
  ⟨pkg, method, max minTime (r.foldl (timingStep pkg method) (0, 0)).2⟩

/-- `Buckets.Add`: the test, with its timing, goes to the first bucket of lowest score,
bucket `0` when no score is below `math.MaxFloat64`. -/
def Buckets.add (minTime maxFloat64 : τ) (r : List (Timing τ)) (bs : List (Bucket τ))
    (item : TestCase) : List (Bucket τ) :=
  let timed := getTiming minTime r item.pkg item.name
  List.modify (fun b => ⟨b.items ++ [timed], b.time + timed.timing⟩)
    (chooseBucket timed.timing bs 0 0 maxFloat64) bs

/-- The buckets of `runner.run`: `NodeTotal` empty ones, and every listed test added in turn. -/
def splitTests (minTime maxFloat64 : τ) (nodeTotal : Nat) (r : List (Timing τ))
    (tests : List TestCase) : List (Bucket τ) :=
  tests.foldl (Buckets.add minTime maxFloat64 r) (List.replicate nodeTotal ⟨[], 0⟩)

variable (minTime maxFloat64 : τ) (r : List (Timing τ))

@[simp] theorem length_add (bs : List (Bucket τ)) (item : TestCase) :
    (Buckets.add minTime maxFloat64 r bs item).length = bs.length :=
  List.length_modify _ _ _

omit [LinearOrder τ] [Add τ] [Zero τ] in
/-- Appending to the items of one bucket appends to the items of all of them, up to order. -/
theorem flatMap_items_modify (x : Timing τ) (f : Bucket τ → Bucket τ)
    (hf : ∀ b, (f b).items = b.items ++ [x]) {bs : List (Bucket τ)} {n : Nat}
    (hn : n < bs.length) :
    List.Perm ((List.modify f n bs).flatMap Bucket.items) (bs.flatMap Bucket.items ++ [x]) := by
  induction bs generalizing n with
  | nil => exact absurd hn (Nat.not_lt_zero n)
  | cons b bs ih =>
    cases n with
    | zero =>
      simpa [hf] using
        (List.perm_append_comm : List.Perm ([x] ++ bs.flatMap Bucket.items) _).append_left b.items
    | succ n => simpa using (ih (Nat.lt_of_succ_lt_succ hn)).append_left b.items

theorem flatMap_items_add {bs : List (Bucket τ)} (hbs : bs ≠ []) (item : TestCase) :
    List.Perm ((Buckets.add minTime maxFloat64 r bs item).flatMap Bucket.items)
      (bs.flatMap Bucket.items ++ [getTiming minTime r item.pkg item.name]) :=
  flatMap_items_modify _ _ (fun _ => rfl)
    (by simpa using chooseBucket_lt _ bs 0 0 maxFloat64 (by simpa [List.length_pos] using hbs))

theorem flatMap_items_foldl_add (tests : List TestCase) {bs : List (Bucket τ)} (hbs : bs ≠ []) :
    List.Perm ((tests.foldl (Buckets.add minTime maxFloat64 r) bs).flatMap Bucket.items)
      (bs.flatMap Bucket.items ++ tests.map fun t => getTiming minTime r t.pkg t.name) := by
  induction tests generalizing bs with
  | nil => simp
  | cons t tests ih =>
    have hne : Buckets.add minTime maxFloat64 r bs t ≠ [] :=
      List.ne_nil_of_length_pos (by simpa [List.length_pos] using hbs)
    simpa using (ih hne).trans ((flatMap_items_add minTime maxFloat64 r hbs t).append_right _)

theorem length_splitTests (nodeTotal : Nat) (tests : List TestCase) :
    (splitTests minTime maxFloat64 nodeTotal r tests).length = nodeTotal :=
  List.foldlRecOn (motive := fun bs : List (Bucket τ) => bs.length = nodeTotal) tests _ _
    (List.length_replicate _ _) fun _ h _ _ => (length_add _ _ _ _ _).trans h

/-- The buckets hold every listed test, with its timing, exactly once. -/
theorem splitTests_perm {nodeTotal : Nat} (hN : 0 < nodeTotal) (tests : List TestCase) :
    List.Perm ((splitTests minTime maxFloat64 nodeTotal r tests).flatMap Bucket.items)
      (tests.map fun t => getTiming minTime r t.pkg t.name) := by
  have hne : (List.replicate nodeTotal (⟨[], 0⟩ : Bucket τ)) ≠ [] :=
    List.ne_nil_of_length_pos (by simpa using hN)
  simpa [List.flatMap_replicate] using flatMap_items_foldl_add minTime maxFloat64 r tests hne

end Add

/-! ## Run groups -/

section RunGroups

variable {τ : Type}

/-- What the first loop of `RunGroups` collects: the method names seen, the packages that
have a method seen before (`ambigious`), and each package's methods (`tests`). -/
structure Collected where
  seen : List String
  ambigious : List String
  tests : List (String × List String)

/-- `tests[pkg]`, the methods collected for `pkg`. -/
def Collected.methods (c : Collected) (pkg : String) : List String :=
  (c.tests.lookup pkg).getD []

/-- One item of the first loop of `RunGroups`. -/
def collectStep (c : Collected) (item : Timing τ) : Collected :=
  ⟨c.seen ++ [item.method],
    if item.method ∈ c.seen then c.ambigious ++ [item.package] else c.ambigious,
    mapInsert item.package (c.methods item.package ++ [item.method]) c.tests⟩

/-- The first loop of `RunGroups`. -/
def collect (items : List (Timing τ)) : Collected :=
  items.foldl collectStep ⟨[], [], []⟩

/-- What the second loop of `RunGroups` builds: the groups by name, `""` naming the shared
one, and the names in the order they were added (`sorted`, before it is sorted). -/
structure Grouped where
  groups : List (String × RunGroup)
  sorted : List String

/-- `groups[""]`, the shared group so far. -/
def Grouped.shared (g : Grouped) : RunGroup :=
  (g.groups.lookup "").getD ⟨[], []⟩

/-- One package of the second loop of `RunGroups`: an ambiguous package gets a group of its
own, any other one joins the shared group with its methods. -/
def groupStep (ambigious : List String) (g : Grouped) (entry : String × List String) :
    Grouped :=
  if entry.1 ∈ ambigious then
    ⟨mapInsert entry.1 ⟨[entry.1], entry.2⟩ g.groups, g.sorted ++ [entry.1]⟩
  else
    ⟨mapInsert "" ⟨g.shared.packages ++ [entry.1], g.shared.run ++ entry.2⟩ g.groups,
      if (g.groups.lookup "").isSome then g.sorted else g.sorted ++ [""]⟩

/-- The two loops of `RunGroups` over a bucket's items. -/
def Bucket.grouped (b : Bucket τ) : Grouped :=
  (collect b.items).tests.foldl (groupStep (collect b.items).ambigious) ⟨[], []⟩

/-- `Bucket.RunGroups`: the groups in the order of their sorted names, each with its packages
and names sorted. -/
def Bucket.runGroups (b : Bucket τ) : List RunGroup :=
  (sortStrings b.grouped.sorted).map fun name =>
    ⟨sortStrings ((b.grouped.groups.lookup name).getD ⟨[], []⟩).packages,
      sortStrings ((b.grouped.groups.lookup name).getD ⟨[], []⟩).run⟩

/-- The tests node `idx + 1` (`NodeIndex - 1 = idx`) runs: those the groups of its bucket
select. -/
def NodeRuns (bs : List (Bucket τ)) (idx : Nat) (test : TestCase) : Prop :=
  ∃ b ∈ bs[idx]?, ∃ g ∈ b.runGroups, g.Runs test

/-! ### The first loop -/

theorem methods_collectStep (c : Collected) (item : Timing τ) (pkg : String) :
    (collectStep c item).methods pkg =
      if pkg = item.package then c.methods pkg ++ [item.method] else c.methods pkg := by
  split
  · subst_vars; simp [Collected.methods, collectStep]
  · simp [Collected.methods, collectStep, lookup_mapInsert_ne _ _ ‹_›]

theorem lookup_collectStep_isSome (c : Collected) (item : Timing τ) {pkg : String}
    (h : (c.tests.lookup pkg).isSome ∨ pkg = item.package) :
    ((collectStep c item).tests.lookup pkg).isSome := by
  by_cases hp : pkg = item.package
  · subst hp; simp [collectStep]
  · simpa [collectStep, lookup_mapInsert_ne _ _ hp, hp] using h

/-- Each item's method is among the collected methods of its package. -/
theorem mem_collect_tests {items : List (Timing τ)} {item : Timing τ} (h : item ∈ items) :
    ∃ ms, (item.package, ms) ∈ (collect items).tests ∧ item.method ∈ ms := by
  obtain ⟨l₁, l₂, rfl⟩ := List.append_of_mem h
  simp only [collect, List.foldl_append, List.foldl_cons]
  generalize l₁.foldl collectStep ⟨[], [], []⟩ = c₀
  have hsome : ((l₂.foldl collectStep (collectStep c₀ item)).tests.lookup item.package).isSome :=
    List.foldlRecOn (motive := fun c : Collected => (c.tests.lookup item.package).isSome) l₂ _ _
      (lookup_collectStep_isSome _ _ (.inr rfl)) fun c hc _ _ =>
        lookup_collectStep_isSome c _ (.inl hc)
  have hmem : item.method ∈ (l₂.foldl collectStep (collectStep c₀ item)).methods item.package := by
    refine List.foldlRecOn (motive := fun c : Collected => item.method ∈ c.methods item.package)
      l₂ _ _ (by simp [methods_collectStep]) fun c hc _ _ => ?_
    simp only [methods_collectStep]; split <;> simp [hc]
  obtain ⟨ms, hms⟩ := Option.isSome_iff_exists.1 hsome
  obtain ⟨k₁, k₂, he, -⟩ := List.lookup_eq_some_iff.1 hms
  refine ⟨ms, he ▸ List.mem_append_right _ (List.mem_cons_self _ _), ?_⟩
  simpa [Collected.methods, hms] using hmem

theorem nodup_collect_tests (items : List (Timing τ)) :
    ((collect items).tests.map Prod.fst).Nodup :=
  List.foldlRecOn (motive := fun c : Collected => (c.tests.map Prod.fst).Nodup) items _ _
    List.nodup_nil fun _ h _ _ => nodup_keys_mapInsert _ _ h

/-- Only the package of an item is ever ambiguous. -/
theorem mem_collect_ambigious {items : List (Timing τ)} {pkg : String}
    (h : pkg ∈ (collect items).ambigious) : ∃ item ∈ items, item.package = pkg := by
  refine List.foldlRecOn (motive := fun c : Collected => pkg ∈ c.ambigious →
    ∃ item ∈ items, item.package = pkg) items _ _ (fun h => absurd h (List.not_mem_nil _))
    (fun c hc i hi h => ?_) h
  simp only [collectStep] at h
  split at h
  · rcases List.mem_append.1 h with h | h
    · exact hc h
    · exact ⟨i, hi, (List.mem_singleton.1 h).symm⟩
  · exact hc h

theorem empty_not_mem_collect_ambigious {items : List (Timing τ)}
    (hpkg : ∀ i ∈ items, i.package ≠ "") : "" ∉ (collect items).ambigious := fun h =>
  let ⟨i, hi, he⟩ := mem_collect_ambigious h
  hpkg i hi he

/-! ### The second loop -/

/-- The shared group, once there, is listed among the names. -/
def SharedListed (g : Grouped) : Prop := (g.groups.lookup "").isSome → "" ∈ g.sorted

/-- The shared group holds `pkg` and the names `ms`, and is listed. -/
def SharedHas (g : Grouped) (pkg : String) (ms : List String) : Prop :=
  ∃ grp, g.groups.lookup "" = some grp ∧ pkg ∈ grp.packages ∧ ms ⊆ grp.run ∧ "" ∈ g.sorted

/-- `name` is listed, with the group `grp`. -/
def Listed (g : Grouped) (name : String) (grp : RunGroup) : Prop :=
  g.groups.lookup name = some grp ∧ name ∈ g.sorted

variable {ambigious : List String}

theorem sorted_subset_groupStep (g : Grouped) (e : String × List String) :
    g.sorted ⊆ (groupStep ambigious g e).sorted := by
  by_cases he : e.1 ∈ ambigious
  · simp [groupStep, he]
  · simp only [groupStep, if_neg he]
    split <;> simp

theorem listed_groupStep_self (g : Grouped) {pkg : String} (hpkg : pkg ∈ ambigious)
    (ms : List String) : Listed (groupStep ambigious g (pkg, ms)) pkg ⟨[pkg], ms⟩ := by
  simp [Listed, groupStep, hpkg]

theorem listed_groupStep {g : Grouped} {name : String} {grp : RunGroup} (hg : Listed g name grp)
    (hname : name ≠ "") (e : String × List String) (he : e.1 ≠ name) :
    Listed (groupStep ambigious g e) name grp := by
  refine ⟨?_, sorted_subset_groupStep g e hg.2⟩
  unfold groupStep
  split
  · rw [lookup_mapInsert_ne _ _ he.symm, hg.1]
  · rw [lookup_mapInsert_ne _ _ hname, hg.1]

section Shared

variable (hshared : "" ∉ ambigious)
include hshared

theorem sharedListed_groupStep {g : Grouped} (hg : SharedListed g) (e : String × List String) :
    SharedListed (groupStep ambigious g e) := by
  intro hsome
  by_cases he : e.1 ∈ ambigious
  · have hne : "" ≠ e.1 := fun h => hshared (h ▸ he)
    simp only [groupStep, if_pos he, lookup_mapInsert_ne _ _ hne] at hsome ⊢
    exact List.mem_append_left _ (hg hsome)
  · simp only [groupStep, if_neg he]
    split
    · exact hg ‹_›
    · exact List.mem_append_right _ (List.mem_singleton_self _)

theorem sharedHas_groupStep {g : Grouped} {pkg : String} {ms : List String}
    (hg : SharedHas g pkg ms) (e : String × List String) :
    SharedHas (groupStep ambigious g e) pkg ms := by
  obtain ⟨grp, hgrp, hp, hms, hl⟩ := hg
  have hl' := (@sorted_subset_groupStep ambigious g e) hl
  by_cases he : e.1 ∈ ambigious
  · have hne : "" ≠ e.1 := fun h => hshared (h ▸ he)
    simp only [groupStep, if_pos he] at hl' ⊢
    exact ⟨grp, by rw [lookup_mapInsert_ne _ _ hne, hgrp], hp, hms, hl'⟩
  · simp only [groupStep, if_neg he, Grouped.shared, hgrp, Option.getD_some] at hl' ⊢
    exact ⟨_, lookup_mapInsert_self _ _ _, List.mem_append_left _ hp,
      fun _ h => List.mem_append_left _ (hms h), hl'⟩

theorem sharedHas_groupStep_self {g : Grouped} (hg : SharedListed g) {pkg : String}
    (hpkg : pkg ∉ ambigious) (ms : List String) :
    SharedHas (groupStep ambigious g (pkg, ms)) pkg ms := by
  have hl : "" ∈ (groupStep ambigious g (pkg, ms)).sorted :=
    sharedListed_groupStep hshared hg _ (by simp [groupStep, hpkg])
  simp only [groupStep, if_neg hpkg] at hl ⊢
  exact ⟨_, lookup_mapInsert_self _ _ _, List.mem_append_right _ (List.mem_singleton_self _),
    List.subset_append_right _ _, hl⟩

/-- Over the loop, a package that is not ambiguous ends up in the shared group, with all its
names. -/
theorem sharedHas_foldl {entries : List (String × List String)} {pkg : String}
    {ms : List String} (he : (pkg, ms) ∈ entries) (hpkg : pkg ∉ ambigious) :
    SharedHas (entries.foldl (groupStep ambigious) ⟨[], []⟩) pkg ms := by
  obtain ⟨l₁, l₂, rfl⟩ := List.append_of_mem he
  have hpre : SharedListed (l₁.foldl (groupStep ambigious) ⟨[], []⟩) :=
    List.foldlRecOn l₁ _ _ (by simp [SharedListed]) fun g hg _ _ =>
      sharedListed_groupStep hshared hg _
  simp only [List.foldl_append, List.foldl_cons]
  exact List.foldlRecOn (motive := fun g => SharedHas g pkg ms) l₂ _ _
    (sharedHas_groupStep_self hshared hpre hpkg ms)
    fun g hg e _ => sharedHas_groupStep hshared hg e

/-- Over the loop, an ambiguous package ends up with a group of its own, with all its names,
when the entries have one package each. -/
theorem listed_foldl {entries : List (String × List String)}
    (hnodup : (entries.map Prod.fst).Nodup) {pkg : String} {ms : List String}
    (he : (pkg, ms) ∈ entries) (hpkg : pkg ∈ ambigious) :
    Listed (entries.foldl (groupStep ambigious) ⟨[], []⟩) pkg ⟨[pkg], ms⟩ := by
  obtain ⟨l₁, l₂, rfl⟩ := List.append_of_mem he
  have hrest : pkg ∉ l₂.map Prod.fst := by
    rw [List.map_append, List.map_cons] at hnodup
    exact (List.nodup_cons.1 (hnodup.sublist (List.sublist_append_right _ _))).1
  have hname : pkg ≠ "" := fun h => hshared (h ▸ hpkg)
  simp only [List.foldl_append, List.foldl_cons]
  exact List.foldlRecOn (motive := fun g => Listed g pkg ⟨[pkg], ms⟩) l₂ _ _
    (listed_groupStep_self _ hpkg ms) fun g hg e he =>
      listed_groupStep hg hname e fun hep => hrest (hep ▸ List.mem_map_of_mem _ he)

end Shared

/-! ### What the groups of a bucket run -/

theorem runs_of_listed {b : Bucket τ} {name : String} {grp : RunGroup}
    (hl : Listed b.grouped name grp) {test : TestCase} (hp : test.pkg ∈ grp.packages)
    (hn : test.name ∈ grp.run) : ∃ g ∈ b.runGroups, g.Runs test := by
  refine ⟨_, List.mem_map_of_mem _ (mem_sortStrings.2 hl.2), ?_⟩
  simp only [hl.1, Option.getD_some]
  exact ⟨mem_sortStrings.2 hp, mem_sortStrings.2 hn⟩

/-- The shared group runs the cross product of its packages and names: the package of one
unambiguous item with the method of another. -/
theorem shared_group_runs {b : Bucket τ} (hpkg : ∀ i ∈ b.items, i.package ≠ "")
    {i j : Timing τ} (hi : i ∈ b.items) (hj : j ∈ b.items)
    (hia : i.package ∉ (collect b.items).ambigious)
    (hja : j.package ∉ (collect b.items).ambigious) :
    ∃ g ∈ b.runGroups, g.Runs ⟨i.package, j.method⟩ := by
  have hshared := empty_not_mem_collect_ambigious hpkg
  obtain ⟨msi, hei, -⟩ := mem_collect_tests hi
  obtain ⟨msj, hej, hmj⟩ := mem_collect_tests hj
  obtain ⟨grp, hgrp, hp, -, hl⟩ := sharedHas_foldl hshared hei hia
  obtain ⟨grp', hgrp', -, hms, -⟩ := sharedHas_foldl hshared hej hja
  have hsame : grp' = grp := Option.some.inj (hgrp'.symm.trans hgrp)
  exact runs_of_listed ⟨hgrp, hl⟩ hp (hsame ▸ hms hmj)

/-- Every item of a bucket is run by one of its groups. -/
theorem runGroups_runs_item {b : Bucket τ} (hpkg : ∀ i ∈ b.items, i.package ≠ "")
    {i : Timing τ} (hi : i ∈ b.items) : ∃ g ∈ b.runGroups, g.Runs ⟨i.package, i.method⟩ := by
  by_cases ha : i.package ∈ (collect b.items).ambigious
  · obtain ⟨ms, he, hm⟩ := mem_collect_tests hi
    exact runs_of_listed (listed_foldl (empty_not_mem_collect_ambigious hpkg)
      (nodup_collect_tests _) he ha) (List.mem_singleton_self _) hm
  · exact shared_group_runs hpkg hi hi ha ha

end RunGroups

/-! ## What the nodes run -/

section Nodes

variable {τ : Type} [LinearOrder τ] [Add τ] [Zero τ]

/-- Every listed test is run by the node of the bucket it was added to. -/
theorem splitTests_covers (minTime maxFloat64 : τ) {nodeTotal : Nat} (hN : 0 < nodeTotal)
    (r : List (Timing τ)) {tests : List TestCase} (hpkg : ∀ t ∈ tests, t.pkg ≠ "")
    {t : TestCase} (ht : t ∈ tests) :
    ∃ idx < nodeTotal, NodeRuns (splitTests minTime maxFloat64 nodeTotal r tests) idx t := by
  have hperm := splitTests_perm minTime maxFloat64 r hN tests
  obtain ⟨b, hb, hi⟩ := List.mem_flatMap.1
    (hperm.symm.subset (List.mem_map_of_mem (fun t => getTiming minTime r t.pkg t.name) ht))
  obtain ⟨idx, hidx⟩ := List.mem_iff_getElem?.1 hb
  have hlt : idx < nodeTotal := by
    simpa [length_splitTests] using (List.getElem?_eq_some_iff.1 hidx).1
  have hbpkg : ∀ i ∈ b.items, i.package ≠ "" := by
    intro i hi'
    obtain ⟨t', ht', rfl⟩ := List.mem_map.1 (hperm.subset (List.mem_flatMap.2 ⟨b, hb, hi'⟩))
    exact hpkg t' ht'
  exact ⟨idx, hlt, b, hidx, runGroups_runs_item hbpkg hi⟩

end Nodes

/-! ## A test run on two nodes -/

/-- `math.MaxFloat64`, `(2 - 2^-52) * 2^1023`, in milliseconds. -/
def maxFloat64Millis : Nat :=
  179769313486231570814527423731704356798070567525844996598917476803157260780028538760589558632766878171540458953514382464234321326889464182768467546703537516986049910576551282076245490090389328944075868508455133942304583236903222948165808559332123348274797826204144723168738177180919299881250404026184124858368000

/-- Three tests of the repository, two of them named `TestVersion`. -/
def versionTests : List TestCase :=
  [⟨"gitlab.com/gitlab-org/gitlab-runner/commands", "TestRunCommand"⟩,
    ⟨"gitlab.com/gitlab-org/gitlab-runner/commands", "TestVersion"⟩,
    ⟨"gitlab.com/gitlab-org/gitlab-runner/helpers", "TestVersion"⟩]

theorem splitTests_covers_sample :
    ∃ idx < 2, NodeRuns (splitTests (200 : Nat) maxFloat64Millis 2 [] versionTests) idx
      ⟨"gitlab.com/gitlab-org/gitlab-runner/helpers", "TestVersion"⟩ :=
  splitTests_covers 200 maxFloat64Millis (by decide) [] (by decide) (by decide)

/-- Split over two nodes with no report (every test is taken to last `minTime`, 200 ms), the
`TestVersion` of `commands` goes to node 2, and the two others to node 1. Node 1 runs
`commands` and `helpers` in its shared group with both names, so both nodes run it. -/
theorem split_runs_test_twice :
    versionTests.Nodup ∧
      (⟨"gitlab.com/gitlab-org/gitlab-runner/commands", "TestVersion"⟩ : TestCase) ∈ versionTests ∧
      NodeRuns (splitTests (200 : Nat) maxFloat64Millis 2 [] versionTests) 0
        ⟨"gitlab.com/gitlab-org/gitlab-runner/commands", "TestVersion"⟩ ∧
      NodeRuns (splitTests (200 : Nat) maxFloat64Millis 2 [] versionTests) 1
        ⟨"gitlab.com/gitlab-org/gitlab-runner/commands", "TestVersion"⟩ := by
  have hsplit : splitTests (200 : Nat) maxFloat64Millis 2 [] versionTests =
      [⟨[⟨"gitlab.com/gitlab-org/gitlab-runner/commands", "TestRunCommand", 200⟩,
          ⟨"gitlab.com/gitlab-org/gitlab-runner/helpers", "TestVersion", 200⟩], 400⟩,
        ⟨[⟨"gitlab.com/gitlab-org/gitlab-runner/commands", "TestVersion", 200⟩], 200⟩] := rfl
  rw [hsplit]
  refine ⟨by decide, by decide, ⟨_, List.getElem?_cons_zero, ?_⟩,
    ⟨_, List.getElem?_cons_succ.trans List.getElem?_cons_zero, ?_⟩⟩
  · exact shared_group_runs
      (i := ⟨"gitlab.com/gitlab-org/gitlab-runner/commands", "TestRunCommand", 200⟩)
      (j := ⟨"gitlab.com/gitlab-org/gitlab-runner/helpers", "TestVersion", 200⟩)
      (by decide) (by decide) (by decide) (by decide) (by decide)
  · exact runGroups_runs_item
      (i := ⟨"gitlab.com/gitlab-org/gitlab-runner/commands", "TestVersion", 200⟩)
      (by decide) (by decide)

end GitlabRunner.Splitic
