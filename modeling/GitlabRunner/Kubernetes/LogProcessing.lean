import GitlabRunner.Kubernetes.Errors

/-!
# Demultiplexing the log stream

`processLogs` reads the helper container's log lines and the log processor's errors in one
`select` loop. A line that `TrapCommandExitStatus.TryUnmarshal` accepts is a sentinel: its
status goes to the stage driver on `remoteProcessTerminated` and the line is not shown. Any
other line goes to the trace with a newline; when that write fails, the loop logs the
failure with `s.Warningln`. An error is logged the same way and becomes a made-up status
whose code `getExitCode` takes from the error. A closed error channel is skipped; a closed
line channel ends the loop.

`s.Warningln` is the build logger's: it writes a warning line to the job trace, the same
trace the log lines go to. So the trace shows the warnings too, each where the loop wrote
it.

The `select` picks among ready channels in no fixed order, so the model takes the order in
which the loop receives values as its input: a list of arrivals, any interleaving of the
line stream with the errors. A line arrives with the result its trace write would have.
`processLogs` maps the arrivals to the list of side effects, in order, and the arrivals are
handled one at a time (`processLogs_arrivals`). The main result, `processLogs_demultiplexes`,
says that for every sentinel parser and every interleaving the trace writes are exactly the
rejected lines, each once with its newline, in stream order; that the trace shows, arrival
by arrival, those writes, the warning after each failed one and the warning of each error;
and that `remoteProcessTerminated` receives exactly one status per sentinel and per error,
in arrival order.
-/

namespace GitlabRunner.Kubernetes

/-- One resolution of the `select` in `processLogs`. -/
inductive LogEvent where
  /-- A line, and the error `s.Trace.Write` returns if the loop writes it. -/
  | line (l : String) (writeErr : Option String)
  | linesClosed
  | error (e : LogProcessorError)
  | errorsClosed
  deriving DecidableEq, Repr

/-- A side effect of `processLogs`. -/
inductive LogAction where
  /-- `s.Trace.Write(append([]byte(line), '\n'))`. -/
  | traceWrite (bytes : String)
  /-- `s.Warningln(msg)`: a warning line on the job trace. -/
  | warning (msg : String)
  /-- `s.remoteProcessTerminated <- status`. -/
  | terminated (status : TrapCommandExitStatus)
  deriving DecidableEq, Repr

/-- The bytes of a trace write. -/
def LogAction.traceWrite? : LogAction → Option String
  | .traceWrite bytes => some bytes
  | _ => none

/-- The status of a send on `remoteProcessTerminated`. -/
def LogAction.terminated? : LogAction → Option TrapCommandExitStatus
  | .terminated status => some status
  | _ => none

/-- Whether an action shows on the job trace: a write, or a warning. -/
def LogAction.onTrace : LogAction → Bool
  | .terminated _ => false
  | _ => true

/-- The status `processLogs` makes up for an error of the log processor. -/
def errorStatus (e : LogProcessorError) : TrapCommandExitStatus := ⟨getExitCode e, none⟩

/-- The warning after a trace write, when the write failed. -/
def writeWarning (writeErr : Option String) : List LogAction :=
  (writeErr.map fun err => .warning ("Error writing log line to trace: " ++ err)).toList

section processLogs

variable (tryUnmarshal : String → Option TrapCommandExitStatus)

/-- `processLogs`: its side effects over a sequence of `select` resolutions, for the
sentinel parser `tryUnmarshal` (`TryUnmarshal`, with the status it fills in). -/
def processLogs : List LogEvent → List LogAction
  | [] => []
  | .line l writeErr :: es =>
    match tryUnmarshal l with
    | some status => .terminated status :: processLogs es
    | none => .traceWrite (l ++ "\n") :: writeWarning writeErr ++ processLogs es
  | .linesClosed :: _ => []
  | .error e :: es => .warning e.text :: .terminated (errorStatus e) :: processLogs es
  | .errorsClosed :: es => processLogs es

/-- A value the loop receives while the line channel is open: a line with the error its
trace write would return, an error, or the closed error channel (`none`). A list of
arrivals is an interleaving of the line stream with the errors. -/
abbrev Arrival := (String × Option String) ⊕ Option LogProcessorError

/-- The `select` resolution of an arrival. -/
def Arrival.toEvent : Arrival → LogEvent
  | .inl (l, writeErr) => .line l writeErr
  | .inr (some e) => .error e
  | .inr none => .errorsClosed

/-- The side effects of one arrival, in order. -/
def Arrival.actions : Arrival → List LogAction
  | .inl (l, writeErr) =>
    match tryUnmarshal l with
    | some status => [.terminated status]
    | none => .traceWrite (l ++ "\n") :: writeWarning writeErr
  | .inr (some e) => [.warning e.text, .terminated (errorStatus e)]
  | .inr none => []

/-- The status sent for an arrival: the sentinel's own for an accepted line, the made-up
one for an error. -/
def Arrival.status? : Arrival → Option TrapCommandExitStatus
  | .inl (l, _) => tryUnmarshal l
  | .inr (some e) => some (errorStatus e)
  | .inr none => none

/-- The trace write for an arrival: a rejected line and its newline. -/
def Arrival.traceLine? : Arrival → Option String
  | .inl (l, _) => if tryUnmarshal l = none then some (l ++ "\n") else none
  | .inr _ => none

/-- What the trace shows for an arrival: a rejected line and its newline, then the warning
of a failed write; the warning with an error's text; nothing for a sentinel. -/
def Arrival.shown : Arrival → List LogAction
  | .inl (l, writeErr) =>
    if tryUnmarshal l = none then .traceWrite (l ++ "\n") :: writeWarning writeErr else []
  | .inr (some e) => [.warning e.text]
  | .inr none => []

theorem processLogs_arrival (a : Arrival) (es : List LogEvent) :
    processLogs tryUnmarshal (a.toEvent :: es) = a.actions tryUnmarshal ++ processLogs tryUnmarshal es := by
  rcases a with ⟨l, writeErr⟩ | _ | e
  · cases h : tryUnmarshal l <;> simp [Arrival.toEvent, Arrival.actions, processLogs, h]
  · rfl
  · rfl

/-- The loop handles the arrivals one at a time, and stops at the closed line channel:
nothing after it is received. -/
theorem processLogs_arrivals (arrivals : List Arrival) (rest : List LogEvent) :
    processLogs tryUnmarshal (arrivals.map Arrival.toEvent ++ .linesClosed :: rest) =
      arrivals.flatMap (Arrival.actions tryUnmarshal) := by
  induction arrivals with
  | nil => rfl
  | cons a as ih => rw [List.map_cons, List.cons_append, processLogs_arrival, ih, List.flatMap_cons]

theorem traceWrites_actions (a : Arrival) :
    (a.actions tryUnmarshal).filterMap LogAction.traceWrite? = (a.traceLine? tryUnmarshal).toList := by
  rcases a with ⟨l, writeErr⟩ | _ | e
  · cases h : tryUnmarshal l <;> cases writeErr <;>
      simp [Arrival.actions, Arrival.traceLine?, writeWarning, LogAction.traceWrite?, h]
  · rfl
  · rfl

theorem shown_actions (a : Arrival) :
    (a.actions tryUnmarshal).filter LogAction.onTrace = a.shown tryUnmarshal := by
  rcases a with ⟨l, writeErr⟩ | _ | e
  · cases h : tryUnmarshal l <;> cases writeErr <;>
      simp [Arrival.actions, Arrival.shown, writeWarning, LogAction.onTrace, h]
  · rfl
  · rfl

theorem terminated_actions (a : Arrival) :
    (a.actions tryUnmarshal).filterMap LogAction.terminated? = (a.status? tryUnmarshal).toList := by
  rcases a with ⟨l, writeErr⟩ | _ | e
  · cases h : tryUnmarshal l <;> cases writeErr <;>
      simp [Arrival.actions, Arrival.status?, writeWarning, LogAction.terminated?, h]
  · rfl
  · rfl

/-- The trace lines of an interleaving are those of its line stream alone. -/
theorem filterMap_traceLine (arrivals : List Arrival) :
    arrivals.filterMap (Arrival.traceLine? tryUnmarshal) =
      (((arrivals.filterMap Sum.getLeft?).map Prod.fst).filter (fun l => tryUnmarshal l = none)).map
        (· ++ "\n") := by
  induction arrivals with
  | nil => rfl
  | cons a as ih =>
    rcases a with ⟨l, _⟩ | _
    · by_cases h : tryUnmarshal l = none <;> simp [Arrival.traceLine?, List.filter_cons, h, ih]
    · simpa [Arrival.traceLine?] using ih

end processLogs

/-- For every sentinel parser, every interleaving of a line stream with log-processor
errors (and the closed error channel), ended by the closed line channel, and every result of
the trace writes: `processLogs` writes to the trace one line per line the parser rejects,
that line and a newline, in stream order and nothing else; the trace shows, arrival by
arrival, that write followed by the warning of its failure if it failed, and the warning
with the text of each error; `remoteProcessTerminated` receives, in arrival order, the status
of each accepted line and the made-up status of each error, and nothing else. -/
theorem processLogs_demultiplexes (tryUnmarshal : String → Option TrapCommandExitStatus)
    (arrivals : List Arrival) (rest : List LogEvent) :
    let actions := processLogs tryUnmarshal (arrivals.map Arrival.toEvent ++ .linesClosed :: rest)
    actions.filterMap LogAction.traceWrite? =
        (((arrivals.filterMap Sum.getLeft?).map Prod.fst).filter
          (fun l => tryUnmarshal l = none)).map (· ++ "\n") ∧
      actions.filter LogAction.onTrace = arrivals.flatMap (Arrival.shown tryUnmarshal) ∧
      actions.filterMap LogAction.terminated? = arrivals.filterMap (Arrival.status? tryUnmarshal) := by
  simp only [processLogs_arrivals, List.filterMap_flatMap, List.filter_flatMap,
    traceWrites_actions, shown_actions, terminated_actions, ← List.filterMap_eq_flatMap_toList,
    filterMap_traceLine, and_self]

/-- A failed trace write and an error of the log processor each put a warning on the job
trace: the trace shows more than the lines of the stream. -/
theorem processLogs_warnings_on_trace :
    (processLogs (fun _ => none) [.line "Running" (some "broken pipe"),
        .error (.other "unexpected EOF"), .linesClosed]).filter LogAction.onTrace =
      [.traceWrite "Running\n", .warning "Error writing log line to trace: broken pipe",
        .warning "unexpected EOF"] := rfl

end GitlabRunner.Kubernetes
