import Mathlib.Algebra.Group.Int
import Mathlib.Data.List.Basic
import Mathlib.Data.String.Basic
import Mathlib.Order.Lattice

/-!
# Go maps and strings

What the models take from Go's runtime and standard library. A Go map with string keys is an
association list with at most one entry per key; `mapInsert` is `m[k] = v`, and iteration
goes in the list's order, which the modelled code never depends on (it sorts, or only looks
keys up). `strings.HasPrefix` and `strings.HasSuffix` compare characters, which orders them
as Go's byte comparison of UTF-8 does.
-/

namespace GitlabRunner

/-- `m[k] = v` on a Go map held as an association list: the entry for `k` is replaced in
place, or added at the end. -/
def mapInsert {α : Type} (k : String) (v : α) : List (String × α) → List (String × α)
  | [] => [(k, v)]
  | (k', v') :: m => if k' = k then (k, v) :: m else (k', v') :: mapInsert k v m

@[simp] theorem lookup_mapInsert_self {α : Type} (k : String) (v : α) (m : List (String × α)) :
    (mapInsert k v m).lookup k = some v := by
  induction m with
  | nil => simp [mapInsert]
  | cons e m ih =>
    obtain ⟨k', v'⟩ := e
    by_cases h : k' = k
    · simp [mapInsert, h]
    · simp [mapInsert, h, List.lookup_cons, beq_false_of_ne (Ne.symm h), ih]

theorem lookup_mapInsert_ne {α : Type} {k k' : String} (v : α) (m : List (String × α))
    (h : k' ≠ k) : (mapInsert k v m).lookup k' = m.lookup k' := by
  have hne : (k' == k) = false := beq_false_of_ne h
  induction m with
  | nil => simp [mapInsert, List.lookup_cons, hne]
  | cons e m ih =>
    obtain ⟨j, w⟩ := e
    by_cases hj : j = k
    · subst hj; simp [mapInsert, List.lookup_cons, hne]
    · simp only [mapInsert, if_neg hj, List.lookup_cons, ih]

theorem mem_mapInsert {α : Type} {k : String} {v : α} {m : List (String × α)}
    {e : String × α} (h : e ∈ mapInsert k v m) : e = (k, v) ∨ e ∈ m := by
  induction m with
  | nil => exact .inl (List.mem_singleton.1 h)
  | cons e' m ih =>
    unfold mapInsert at h
    split at h
    · rcases List.mem_cons.1 h with h | h
      · exact .inl h
      · exact .inr (List.mem_cons_of_mem _ h)
    · rcases List.mem_cons.1 h with h | h
      · exact .inr (h ▸ List.mem_cons_self _ _)
      · exact (ih h).imp_right (List.mem_cons_of_mem _)

theorem mem_of_lookup_eq_some {α : Type} {m : List (String × α)} {k : String} {v : α}
    (h : m.lookup k = some v) : (k, v) ∈ m := by
  obtain ⟨l₁, l₂, rfl, -⟩ := List.lookup_eq_some_iff.1 h
  exact List.mem_append_right _ (List.mem_cons_self _ _)

/-- `mapInsert` keeps one entry per key. -/
theorem nodup_keys_mapInsert {α : Type} (k : String) (v : α) {m : List (String × α)}
    (h : (m.map Prod.fst).Nodup) : ((mapInsert k v m).map Prod.fst).Nodup := by
  induction m with
  | nil => simp [mapInsert]
  | cons e m ih =>
    obtain ⟨k', v'⟩ := e
    simp only [List.map_cons, List.nodup_cons] at h
    unfold mapInsert
    split
    · subst_vars; simpa using h
    · refine List.nodup_cons.2 ⟨fun hk => ?_, ih h.2⟩
      obtain ⟨e, he, hek⟩ := List.mem_map.1 hk
      rcases mem_mapInsert he with rfl | he
      · exact ‹¬k' = k› hek.symm
      · exact h.1 (List.mem_map.2 ⟨e, he, hek⟩)

theorem mem_keys_of_lookup_isSome {α : Type} {m : List (String × α)} {k : String}
    (h : (m.lookup k).isSome) : k ∈ m.map Prod.fst := by
  obtain ⟨v, hv⟩ := Option.isSome_iff_exists.1 h
  exact List.mem_map.2 ⟨_, mem_of_lookup_eq_some hv, rfl⟩

theorem lookup_isSome_of_mem_keys {α : Type} {m : List (String × α)} {k : String}
    (h : k ∈ m.map Prod.fst) : (m.lookup k).isSome := by
  induction m with
  | nil => simp at h
  | cons e m ih =>
    obtain ⟨k', v⟩ := e
    by_cases hk : k = k'
    · simp [List.lookup_cons, hk]
    · have hne : (k == k') = false := beq_false_of_ne hk
      simp only [List.map_cons, List.mem_cons, hk, false_or] at h
      simpa [List.lookup_cons, hne] using ih h

/-- `delete(m, k)`. -/
def mapDelete {α : Type} (k : String) (m : List (String × α)) : List (String × α) :=
  m.filter (·.1 ≠ k)

@[simp] theorem lookup_mapDelete_self {α : Type} (k : String) (m : List (String × α)) :
    (mapDelete k m).lookup k = none := by
  induction m with
  | nil => rfl
  | cons e m ih =>
    obtain ⟨k', v⟩ := e
    by_cases hk : k' = k
    · simpa [mapDelete, hk] using ih
    · simpa [mapDelete, hk, List.lookup_cons, beq_false_of_ne (Ne.symm hk)] using ih

theorem lookup_mapDelete_ne {α : Type} {k k' : String} (m : List (String × α)) (h : k' ≠ k) :
    (mapDelete k m).lookup k' = m.lookup k' := by
  induction m with
  | nil => rfl
  | cons e m ih =>
    obtain ⟨j, v⟩ := e
    by_cases hj : j = k
    · subst hj
      simpa [mapDelete, List.lookup_cons, beq_false_of_ne h] using ih
    · by_cases hjk : k' = j
      · subst hjk; simp [mapDelete, hj, List.lookup_cons]
      · simpa [mapDelete, hj, List.lookup_cons, beq_false_of_ne hjk] using ih

/-- `strings.HasPrefix`. -/
def hasPrefix (s pre : String) : Bool := pre.data.isPrefixOf s.data

/-- `strings.HasSuffix`. -/
def hasSuffix (s suf : String) : Bool := suf.data.isSuffixOf s.data

end GitlabRunner
