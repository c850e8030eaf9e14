import Mathlib.Data.List.Basic

/-!
# The trace buffer's output limit

`helpers/trace`'s `Buffer` sends the job log to a temporary file and a CRC32 checksum
through a `limitWriter`. The limit writer counts what it has forwarded (`written`, the
value `Buffer.Size` reports) and, once the limit that `Buffer.SetLimit` set is reached,
prints a limit-exceeded notice and forwards nothing more.

The model follows `limitWriter.Write` and `writeLimitExceededMessage` byte for byte. A run
is a list of calls reaching the limit writer: the chunks `Buffer.Write` hands it (after the
masking transform, which is not modelled) and `SetLimit` calls, in any interleaving. The
sink records every byte it receives, so "what was forwarded" is a field of the state.

The results, from the three cases of one write (`write_of_no_room`, `write_of_fill`,
`write_of_fits`):

- `Size()` is the number of bytes forwarded, notices included (`run_written_eq`);
- a write that finds room forwards what fits and, when it reaches or passes the limit,
  the notice right after it, also on an exact fill where no byte is dropped (`write_sink`);
- after a write that printed the notice nothing more is forwarded until `SetLimit`
  raises the limit above `Size()` (`run_after_notice`);
- under a fixed positive limit the log is the first `limit` bytes of the stream, followed
  by one notice exactly when the stream reached the limit (`run_fixed_limit`).
-/

namespace GitlabRunner.Trace

/-! ## The notice -/

/-- `helpers.ANSI_BOLD_YELLOW`, as `TestTraceLimit`'s expected output has it. -/
def ansiBoldYellow : String := "\x1b[33;1m"

/-- `helpers.ANSI_RESET`, as `TestTraceLimit`'s expected output has it. -/
def ansiReset : String := "\x1b[0;m"

/-- The bytes `writeLimitExceededMessage` prints with `fmt.Fprintf` for the limit `limit`. -/
def limitExceededMessage (limit : Int) : List UInt8 :=
  ("\n" ++ ansiBoldYellow ++ "Job\x27s log exceeded limit of " ++ toString limit ++
    " bytes.\n" ++ "Job execution will continue but no more output will be collected." ++
    ansiReset ++ "\n").toUTF8.data.toList

theorem limitExceededMessage_ne_nil (limit : Int) : limitExceededMessage limit ≠ [] := by
  have h : String.utf8EncodeChar '\n' = [10] := by decide
  simp [limitExceededMessage, String.toUTF8, h]

theorem limitExceededMessage_length_pos (limit : Int) :
    0 < (limitExceededMessage limit).length :=
  List.length_pos.mpr (limitExceededMessage_ne_nil limit)

/-! ## The limit writer -/

/-- `limitWriter`: the bytes counted so far, the limit in force, and the bytes its sink
`w` has received. -/
structure LimitWriter where
  written : Nat
  limit : Int
  sink : List UInt8
  deriving DecidableEq, Repr

namespace LimitWriter

/-- `trace.New`: nothing written, under the package's `defaultBytesLimit` (a constant that
is not under `src/`, hence a parameter). -/
def new (defaultBytesLimit : Int) : LimitWriter := ⟨0, defaultBytesLimit, []⟩

/-- `n, _ := w.w.Write(p)` followed by `w.written += int64(n)`. The sink is an
`io.MultiWriter` of the log file's `bufio.Writer` and the checksum: it takes every byte,
so `n = len(p)`. -/
def forward (w : LimitWriter) (p : List UInt8) : LimitWriter :=
  { w with written := w.written + p.length, sink := w.sink ++ p }

/-- `writeLimitExceededMessage`. -/
def writeLimitExceededMessage (w : LimitWriter) : LimitWriter :=
  w.forward (limitExceededMessage w.limit)

/-- `limitWriter.Write`: the writer after the call, the count it returns, and whether it
returns `errLogLimitExceeded`. -/
def write (w : LimitWriter) (p : List UInt8) : LimitWriter × Nat × Bool :=
  let capacity := w.limit - w.written
  if capacity ≤ 0 then (w, 0, true)
  else if capacity ≤ p.length then
    ((w.forward (p.take capacity.toNat)).writeLimitExceededMessage, capacity.toNat, true)
  else (w.forward p, p.length, false)

/-- `Buffer.SetLimit`. -/
def setLimit (w : LimitWriter) (size : Int) : LimitWriter := { w with limit := size }

/-- `Buffer.Size`. -/
def size (w : LimitWriter) : Nat := w.written

@[simp] theorem forward_written (w : LimitWriter) (p : List UInt8) :
    (w.forward p).written = w.written + p.length := rfl

@[simp] theorem forward_sink (w : LimitWriter) (p : List UInt8) :
    (w.forward p).sink = w.sink ++ p := rfl

@[simp] theorem forward_limit (w : LimitWriter) (p : List UInt8) :
    (w.forward p).limit = w.limit := rfl

@[simp] theorem setLimit_written (w : LimitWriter) (size : Int) :
    (w.setLimit size).written = w.written := rfl

@[simp] theorem setLimit_sink (w : LimitWriter) (size : Int) :
    (w.setLimit size).sink = w.sink := rfl

@[simp] theorem setLimit_limit (w : LimitWriter) (size : Int) :
    (w.setLimit size).limit = size := rfl

/-! ### The three cases of one write -/

theorem write_of_no_room {w : LimitWriter} (p : List UInt8) (h : w.limit ≤ w.written) :
    w.write p = (w, 0, true) := by
  simp only [write]
  rw [if_pos (by omega)]

theorem write_of_fill {w : LimitWriter} {p : List UInt8} (hroom : w.written < w.limit)
    (hfill : w.limit ≤ w.written + p.length) :
    (w.write p).1 =
      (w.forward (p.take (w.limit - w.written).toNat)).writeLimitExceededMessage := by
  simp only [write]
  rw [if_neg (by omega), if_pos (by omega)]

theorem write_of_fits {w : LimitWriter} {p : List UInt8}
    (hfits : w.written + p.length < w.limit) : (w.write p).1 = w.forward p := by
  simp only [write]
  rw [if_neg (by omega), if_neg (by omega)]

/-- Every write keeps `written` equal to the number of bytes the sink holds. -/
theorem write_written_eq {w : LimitWriter} (p : List UInt8) (hw : w.written = w.sink.length) :
    (w.write p).1.written = (w.write p).1.sink.length := by
  by_cases h0 : w.limit ≤ w.written
  · rw [write_of_no_room p h0]; exact hw
  by_cases h1 : w.limit ≤ w.written + p.length
  · rw [write_of_fill (by omega) h1]
    simp [writeLimitExceededMessage, hw]; omega
  · rw [write_of_fits (by omega)]
    simp [hw]

/-- What one write that finds room forwards: the bytes that fit, then the notice when they
reach or pass the limit. -/
theorem write_sink {w : LimitWriter} (p : List UInt8) (hroom : w.written < w.limit) :
    (w.write p).1.sink = w.sink ++ p.take (w.limit - w.written).toNat ++
      (if w.limit ≤ w.written + p.length then limitExceededMessage w.limit else []) := by
  by_cases h1 : w.limit ≤ w.written + p.length
  · rw [write_of_fill hroom h1, if_pos h1]
    simp [writeLimitExceededMessage]
  · rw [write_of_fits (by omega), if_neg h1, List.take_of_length_le (by omega)]
    simp

/-- A write that prints the notice leaves the writer over its limit. -/
theorem write_of_fill_over {w : LimitWriter} {p : List UInt8} (hroom : w.written < w.limit)
    (hfill : w.limit ≤ w.written + p.length) :
    (w.write p).1.limit < (w.write p).1.written := by
  have := limitExceededMessage_length_pos w.limit
  rw [write_of_fill hroom hfill]
  simp only [writeLimitExceededMessage, forward_written, forward_limit, List.length_take]
  omega

end LimitWriter

/-! ## Runs -/

/-- A call reaching the limit writer: a chunk handed on by `Buffer.Write`, or
`Buffer.SetLimit`. -/
inductive Op where
  | write (p : List UInt8)
  | setLimit (size : Int)
  deriving DecidableEq, Repr

/-- One call's effect on the limit writer. -/
def Op.apply (w : LimitWriter) : Op → LimitWriter
  | .write p => (w.write p).1
  | .setLimit size => w.setLimit size

/-- The limit writer after a run of calls. -/
def run (w : LimitWriter) (ops : List Op) : LimitWriter := ops.foldl Op.apply w

@[simp] theorem run_nil (w : LimitWriter) : run w [] = w := rfl

@[simp] theorem run_cons (w : LimitWriter) (op : Op) (ops : List Op) :
    run w (op :: ops) = run (op.apply w) ops := rfl

/-- The byte stream the limit writer receives over a run. -/
def received : List Op → List UInt8
  | [] => []
  | .write p :: ops => p ++ received ops
  | .setLimit _ :: ops => received ops

theorem run_written_eq {w : LimitWriter} (ops : List Op) (hw : w.written = w.sink.length) :
    (run w ops).written = (run w ops).sink.length := by
  induction ops generalizing w with
  | nil => exact hw
  | cons op ops ih =>
    cases op with
    | write p => exact ih (LimitWriter.write_written_eq p hw)
    | setLimit size => exact ih hw

/-- Once the limit is at or below `written`, writes forward nothing, and `SetLimit` calls
that do not raise the limit above `written` keep it so. -/
theorem run_of_no_room {w : LimitWriter} (ops : List Op) (h : w.limit ≤ w.written)
    (hops : ∀ size, Op.setLimit size ∈ ops → size ≤ w.written) :
    (run w ops).sink = w.sink ∧ (run w ops).written = w.written := by
  induction ops generalizing w with
  | nil => exact ⟨rfl, rfl⟩
  | cons op ops ih =>
    cases op with
    | write p =>
      have hw := LimitWriter.write_of_no_room p h
      simp only [run_cons, Op.apply, hw]
      exact ih h fun size hs => hops size (List.mem_cons_of_mem _ hs)
    | setLimit size =>
      have hsize := hops size (List.mem_cons_self _ _)
      exact ih hsize fun s hs => hops s (List.mem_cons_of_mem _ hs)

/-- After a write that printed the notice, nothing more is forwarded unless `SetLimit`
raises the limit above `Size()`. -/
theorem run_after_notice {w : LimitWriter} {p : List UInt8} (ops : List Op)
    (hroom : w.written < w.limit) (hfill : w.limit ≤ w.written + p.length)
    (hops : ∀ size, Op.setLimit size ∈ ops → size ≤ (w.write p).1.written) :
    (run (w.write p).1 ops).sink = (w.write p).1.sink :=
  (run_of_no_room ops (Int.le_of_lt (LimitWriter.write_of_fill_over hroom hfill)) hops).1

/-- Under a fixed limit, with room left, a run of writes forwards the stream up to the
limit and then the notice, exactly when the stream reaches the limit. -/
theorem run_writes {w : LimitWriter} (ps : List (List UInt8)) (hroom : w.written < w.limit) :
    (run w (ps.map .write)).sink = w.sink ++ ps.flatten.take (w.limit - w.written).toNat ++
      (if w.limit ≤ w.written + ps.flatten.length then limitExceededMessage w.limit
        else []) := by
  induction ps generalizing w with
  | nil => simp; omega
  | cons p ps ih =>
    simp only [List.map_cons, run_cons, Op.apply, List.flatten_cons, List.length_append]
    by_cases hfill : w.limit ≤ w.written + p.length
    · have hover := Int.le_of_lt (LimitWriter.write_of_fill_over hroom hfill)
      rw [(run_of_no_room _ hover (by simp)).1, LimitWriter.write_sink p hroom,
        if_pos hfill, if_pos (by omega), List.take_append_of_le_length (by omega)]
    · have hfits : w.written + p.length < w.limit := by omega
      have htake : (p ++ ps.flatten).take (w.limit - w.written).toNat =
          p ++ ps.flatten.take (w.limit - (w.written + p.length : Nat)).toNat := by
        rw [List.take_append_eq_append_take, List.take_of_length_le (by omega)]
        congr 2; omega
      rw [LimitWriter.write_of_fits hfits, ih (by simpa using hfits), htake]
      simp only [LimitWriter.forward_sink, LimitWriter.forward_written,
        LimitWriter.forward_limit, List.append_assoc]
      congr 3
      by_cases hc : w.limit ≤ w.written + (p.length + ps.flatten.length)
      · rw [if_pos (by omega), if_pos (by omega)]
      · rw [if_neg (by omega), if_neg (by omega)]

/-- With a positive limit set before the first write and not changed afterwards, the log
is the first `limit` bytes of the stream, then one notice exactly when the stream reached
the limit. -/
theorem run_fixed_limit (defaultBytesLimit limit : Int) (ps : List (List UInt8))
    (hlimit : 0 < limit) :
    (run (LimitWriter.new defaultBytesLimit) (.setLimit limit :: ps.map .write)).sink =
      ps.flatten.take limit.toNat ++
        (if limit ≤ ps.flatten.length then limitExceededMessage limit else []) := by
  have h := run_writes (w := ⟨0, limit, []⟩) ps (by simpa using hlimit)
  simpa using h

/-! ## What the writer does with the limit -/

/-- A stream that reaches the limit exactly is forwarded whole, and the notice follows it:
the notice is printed although no received byte was dropped. -/
theorem limitWriter_notice_without_drop :
    received [.setLimit 1, .write [7]] = [7] ∧
      (run (LimitWriter.new 4194304) [.setLimit 1, .write [7]]).sink =
        [7] ++ limitExceededMessage 1 := by
  decide

/-- The limit writer's forwarding law over any interleaving of writes and `SetLimit` calls:
`Size()` counts what was forwarded; a write that finds room forwards what fits and then the
notice when it reaches or passes the limit; after that write nothing is forwarded until the
limit is raised above `Size()`; under a fixed positive limit the log is the stream's first
`limit` bytes and one notice exactly when the stream reached the limit. -/
theorem limitWriter_forwarding_law (defaultBytesLimit : Int) :
    (∀ ops, (run (LimitWriter.new defaultBytesLimit) ops).size =
        (run (LimitWriter.new defaultBytesLimit) ops).sink.length) ∧
    (∀ (w : LimitWriter) (p : List UInt8), w.written < w.limit →
        (w.write p).1.sink = w.sink ++ p.take (w.limit - w.written).toNat ++
          (if w.limit ≤ w.written + p.length then limitExceededMessage w.limit else [])) ∧
    (∀ (w : LimitWriter) (p : List UInt8) (ops : List Op), w.written < w.limit →
        w.limit ≤ w.written + p.length →
        (∀ size, Op.setLimit size ∈ ops → size ≤ (w.write p).1.size) →
        (run (w.write p).1 ops).sink = (w.write p).1.sink) ∧
    (∀ (limit : Int) (ps : List (List UInt8)), 0 < limit →
        (run (LimitWriter.new defaultBytesLimit) (.setLimit limit :: ps.map .write)).sink =
          ps.flatten.take limit.toNat ++
            (if limit ≤ ps.flatten.length then limitExceededMessage limit else [])) :=
  ⟨fun ops => run_written_eq ops rfl, fun _ p hroom => LimitWriter.write_sink p hroom,
    fun _ _ ops hroom hfill hops => run_after_notice ops hroom hfill hops,
    fun limit ps hlimit => run_fixed_limit defaultBytesLimit limit ps hlimit⟩

end GitlabRunner.Trace
