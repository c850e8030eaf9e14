import GitlabRunner.Golang

/-!
# Merging cover profiles

With `-cover`, every `go test` run of `runTests` writes a profile `cover_<idx>_<attempt>.profile`
and `mergeCover` joins them with `cover.Merge`. A profile's first line is its mode
(`mode: set`); `Merge` keeps the first profile whole and drops the mode line of every later
one, after checking it against the first mode.

`Merge` finds the mode line with `bytes.IndexByte(buf, '\n')` and slices `buf[:idx]` before
looking at the result. When every profile has a newline and the first mode is not empty,
`Merge` is what it is meant to be: it writes the first profile and the others without their
mode lines (`merge_of_modes`), and fails exactly when a later mode differs
(`merge_error_iff`). Outside that, a profile without a newline, the empty one included,
makes the slice panic, and a first profile with an empty mode makes the second profile count
as the first one, mode line and all (`merge_panics_or_duplicates_header`).

Profiles are byte lists, the contents `ioutil.ReadFile` returned; the reads and the writes
to the report file are taken to succeed.
-/

namespace GitlabRunner.Splitic.Cover

/-! ## Go's byte slices -/

/-- `'\n'`. -/
def newline : UInt8 := 10

/-- `bytes.IndexByte(b, c)`: the index of the first `c` in `b`, or `-1`. -/
def indexByte (b : List UInt8) (c : UInt8) : Int :=
  if c ∈ b then b.indexOf c else -1

/-- `b[:i]`, or `none` where Go panics with an index out of range. -/
def sliceTo (b : List UInt8) (i : Int) : Option (List UInt8) :=
  if 0 ≤ i ∧ i ≤ b.length then some (b.take i.toNat) else none

/-- `b[i:]`, or `none` where Go panics with an index out of range. -/
def sliceFrom (b : List UInt8) (i : Int) : Option (List UInt8) :=
  if 0 ≤ i ∧ i ≤ b.length then some (b.drop i.toNat) else none

/-- `bytes.TrimPrefix(b, pre)`. -/
def trimPrefix (b pre : List UInt8) : List UInt8 :=
  if pre.isPrefixOf b then b.drop pre.length else b

/-- The ASCII white space of `bytes.TrimSpace`'s fast path. -/
def isAsciiSpace (c : UInt8) : Bool :=
  c = 9 || c = 10 || c = 11 || c = 12 || c = 13 || c = 32

/-- The three-byte UTF-8 encodings of the white-space runes of `unicode.IsSpace`: U+1680,
U+2000 to U+200A, U+2028, U+2029, U+202F, U+205F and U+3000. -/
def isSpace3 (c c1 c2 : UInt8) : Bool :=
  (c = 0xE1 && c1 = 0x9A && c2 = 0x80) ||
    (c = 0xE2 && c1 = 0x80 &&
      ((0x80 ≤ c2 && c2 ≤ 0x8A) || c2 = 0xA8 || c2 = 0xA9 || c2 = 0xAF)) ||
    (c = 0xE2 && c1 = 0x81 && c2 = 0x9F) || (c = 0xE3 && c1 = 0x80 && c2 = 0x80)

/-- The two-byte UTF-8 encodings of white-space runes: U+0085 and U+00A0. -/
def isSpace2 (c c1 : UInt8) : Bool :=
  c = 0xC2 && (c1 = 0x85 || c1 = 0xA0)

/-- The length of the white-space rune `b` starts with, as `utf8.DecodeRune` reads it, or 0. -/
def leadingSpaceWidth : List UInt8 → Nat
  | [] => 0
  | [c] => if isAsciiSpace c then 1 else 0
  | [c, c1] => if isAsciiSpace c then 1 else if isSpace2 c c1 then 2 else 0
  | c :: c1 :: c2 :: _ =>
    if isAsciiSpace c then 1 else if isSpace2 c c1 then 2 else if isSpace3 c c1 c2 then 3 else 0

/-- The length of the white-space rune the reversed bytes `r` end with, as
`utf8.DecodeLastRune` reads it, or 0. -/
def trailingSpaceWidth : List UInt8 → Nat
  | [] => 0
  | [c] => if isAsciiSpace c then 1 else 0
  | [c, c1] => if isAsciiSpace c then 1 else if isSpace2 c1 c then 2 else 0
  | c :: c1 :: c2 :: _ =>
    if isAsciiSpace c then 1 else if isSpace2 c1 c then 2 else if isSpace3 c2 c1 c then 3 else 0

/-- Drop leading runes of width `width` while there are some; `fuel` bounds the steps. -/
def dropSpaces (width : List UInt8 → Nat) : Nat → List UInt8 → List UInt8
  | 0, b => b
  | fuel + 1, b => if width b = 0 then b else dropSpaces width fuel (b.drop (width b))

/-- `bytes.TrimSpace`: leading and trailing white space removed, as `unicode.IsSpace` has it. -/
def trimSpace (b : List UInt8) : List UInt8 :=
  let front := dropSpaces leadingSpaceWidth b.length b
  (dropSpaces trailingSpaceWidth front.length front.reverse).reverse

/-! ## `Merge` -/

/-- `"mode:"`. -/
def modePrefix : List UInt8 := "mode:".toUTF8.data.toList

/-- The mode `Merge` reads from a profile's first line. -/
def header (line : List UInt8) : List UInt8 :=
  trimSpace (trimPrefix line modePrefix)

/-- How `Merge` ends: it returns `nil` or an error, or the slice panics (nothing up the call
chain recovers). -/
inductive Outcome where
  | ok
  | error (msg : String)
  | panic (msg : String)
  deriving DecidableEq, Repr

/-- The error of a profile whose mode differs from the first one. -/
def differentCoverMode : String := "cover profile uses different coverMode"

/-- The run-time panic of `buf[:idx]` at `idx = -1`. -/
def sliceOutOfRange : String := "runtime error: slice bounds out of range [:-1]"

/-- The loop of `Merge` over the profiles from `buf :: inputs` on, with the mode read so far
and the bytes written so far. -/
def mergeLoop : List (List UInt8) → List UInt8 → List UInt8 → List UInt8 × Outcome
  | [], _, written => (written, .ok)
  | buf :: inputs, coverMode, written =>
    match sliceTo buf (indexByte buf newline) with
    | none => (written, .panic sliceOutOfRange)
    | some line =>
      if coverMode = [] then mergeLoop inputs (header line) (written ++ buf)
      else if header line ≠ coverMode then (written, .error differentCoverMode)
      else match sliceFrom buf (indexByte buf newline + 1) with
        | none => (written, .panic sliceOutOfRange)
        | some rest => mergeLoop inputs coverMode (written ++ rest)

/-- `cover.Merge`: the bytes written to `w`, and how it ended. -/
def merge (inputs : List (List UInt8)) : List UInt8 × Outcome :=
  mergeLoop inputs [] []

/-! ## Slicing at the first newline -/

/-- A profile's first line, without its newline. -/
def firstLine (buf : List UInt8) : List UInt8 := buf.take (buf.indexOf newline)

/-- A profile with its first line, newline included, removed. -/
def afterFirstLine (buf : List UInt8) : List UInt8 := buf.drop (buf.indexOf newline + 1)

/-- The mode of a profile's first line. -/
def modeOf (buf : List UInt8) : List UInt8 := header (firstLine buf)

theorem sliceTo_of_mem {buf : List UInt8} (h : newline ∈ buf) :
    sliceTo buf (indexByte buf newline) = some (firstLine buf) := by
  have hle : ((buf.indexOf newline : Nat) : Int) ≤ buf.length := by
    exact_mod_cast (List.indexOf_lt_length.2 h).le
  simp only [sliceTo, indexByte, if_pos h]
  rw [if_pos ⟨by omega, hle⟩]
  rfl

theorem sliceTo_of_not_mem {buf : List UInt8} (h : newline ∉ buf) :
    sliceTo buf (indexByte buf newline) = none := by
  simp [sliceTo, indexByte, h]

theorem sliceFrom_of_mem {buf : List UInt8} (h : newline ∈ buf) :
    sliceFrom buf (indexByte buf newline + 1) = some (afterFirstLine buf) := by
  have hlt := List.indexOf_lt_length.2 h
  have hle : ((buf.indexOf newline : Nat) : Int) + 1 ≤ buf.length := by omega
  simp only [sliceFrom, indexByte, if_pos h, hle, and_true, afterFirstLine]
  rw [if_pos (by omega)]
  rfl

theorem mergeLoop_cons_of_mem {buf : List UInt8} (h : newline ∈ buf)
    (inputs : List (List UInt8)) (coverMode written : List UInt8) :
    mergeLoop (buf :: inputs) coverMode written =
      if coverMode = [] then mergeLoop inputs (modeOf buf) (written ++ buf)
      else if modeOf buf ≠ coverMode then (written, .error differentCoverMode)
      else mergeLoop inputs coverMode (written ++ afterFirstLine buf) := by
  simp only [mergeLoop, sliceTo_of_mem h, sliceFrom_of_mem h, modeOf]

/-! ## Profiles with a mode line -/

section Modes

variable {mode : List UInt8} (hmode : mode ≠ [])
include hmode

/-- With a mode read, the loop writes every profile without its mode line, or stops at the
first profile of another mode. -/
theorem mergeLoop_of_mode {inputs : List (List UInt8)} (hnl : ∀ b ∈ inputs, newline ∈ b)
    (written : List UInt8) :
    mergeLoop inputs mode written =
      if ∀ b ∈ inputs, modeOf b = mode then (written ++ (inputs.map afterFirstLine).flatten, .ok)
      else ((written ++ ((inputs.takeWhile (modeOf · = mode)).map afterFirstLine).flatten),
        .error differentCoverMode) := by
  induction inputs generalizing written with
  | nil => simp [mergeLoop]
  | cons b bs ih =>
    rw [mergeLoop_cons_of_mem (hnl b (List.mem_cons_self _ _)), if_neg hmode,
      ih (fun b' hb' => hnl b' (List.mem_cons_of_mem _ hb'))]
    by_cases hb : modeOf b = mode <;> simp [hb]

end Modes

/-- When every profile has a mode line, the first mode is not empty and the others equal it,
`Merge` writes the first profile whole and the others without their mode lines. -/
theorem merge_of_modes {first : List UInt8} {inputs : List (List UInt8)}
    (hfirst : newline ∈ first) (hnl : ∀ b ∈ inputs, newline ∈ b) (hmode : modeOf first ≠ [])
    (hsame : ∀ b ∈ inputs, modeOf b = modeOf first) :
    merge (first :: inputs) = (first ++ (inputs.map afterFirstLine).flatten, .ok) := by
  rw [merge, mergeLoop_cons_of_mem hfirst, if_pos rfl, mergeLoop_of_mode hmode hnl, if_pos hsame,
    List.nil_append]

/-- Two `set` profiles: the second is written without its mode line. -/
theorem merge_of_modes_sample :
    merge ["mode: set\na.go:1.1,2.2 1 1\n".toUTF8.data.toList,
        "mode: set\nb.go:1.1,2.2 1 0\n".toUTF8.data.toList] =
      ("mode: set\na.go:1.1,2.2 1 1\nb.go:1.1,2.2 1 0\n".toUTF8.data.toList, .ok) :=
  (merge_of_modes (by decide) (by decide) (by decide) (by decide)).trans (by decide)

/-- When every profile has a mode line and the first mode is not empty, `Merge` fails exactly
when a later profile has another mode. -/
theorem merge_error_iff {first : List UInt8} {inputs : List (List UInt8)}
    (hfirst : newline ∈ first) (hnl : ∀ b ∈ inputs, newline ∈ b) (hmode : modeOf first ≠ []) :
    (merge (first :: inputs)).2 = .error differentCoverMode ↔
      ∃ b ∈ inputs, modeOf b ≠ modeOf first := by
  rw [merge, mergeLoop_cons_of_mem hfirst, if_pos rfl, mergeLoop_of_mode hmode hnl]
  by_cases hsame : ∀ b ∈ inputs, modeOf b = modeOf first
  · rw [if_pos hsame]
    simpa using hsame
  · rw [if_neg hsame]
    push_neg at hsame
    simpa using hsame

/-- A `count` profile after a `set` one is an error. -/
theorem merge_error_iff_sample :
    (merge ["mode: set\na.go:1.1,2.2 1 1\n".toUTF8.data.toList,
      "mode: count\na.go:1.1,2.2 1 4\n".toUTF8.data.toList]).2 = .error differentCoverMode :=
  (merge_error_iff (by decide) (by decide) (by decide)).2 ⟨_, List.mem_singleton_self _, by decide⟩

/-- A first profile without a newline, the empty one included, makes `Merge` panic; a first
profile with an empty mode makes it write the second profile whole, mode line included. -/
theorem merge_panics_or_duplicates_header :
    (∀ buf inputs, newline ∉ buf → merge (buf :: inputs) = ([], .panic sliceOutOfRange)) ∧
    ∀ first second, newline ∈ first → modeOf first = [] → newline ∈ second →
      merge [first, second] = (first ++ second, .ok) := by
  refine ⟨fun buf inputs h => by simp [merge, mergeLoop, sliceTo_of_not_mem h], ?_⟩
  intro first second hfirst hmode hsecond
  rw [merge, mergeLoop_cons_of_mem hfirst, if_pos rfl, hmode, mergeLoop_cons_of_mem hsecond,
    if_pos rfl]
  rfl

/-- The empty profile panics, and the mode line of a profile after one of mode `""` is
written again. -/
theorem merge_panics_or_duplicates_header_sample :
    merge [[]] = ([], .panic sliceOutOfRange) ∧
      merge ["mode:\n".toUTF8.data.toList, "mode: set\nx.go:1.1,2.2 1 1\n".toUTF8.data.toList] =
        ("mode:\nmode: set\nx.go:1.1,2.2 1 1\n".toUTF8.data.toList, .ok) :=
  ⟨merge_panics_or_duplicates_header.1 [] [] (by decide),
    merge_panics_or_duplicates_header.2 _ _ (by decide) (by decide) (by decide)⟩

end GitlabRunner.Splitic.Cover
