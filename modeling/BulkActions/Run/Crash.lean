import BulkActions.Mapping.Crash
import BulkActions.Run.Processor

/-! The crash of the path evaluator in a run over observations. The run goes down with it and answers
nothing; what it had written until then stays as it is. -/

namespace BulkActions.Run

open Dataset Job Mapping

variable [Path.Evaluator]

namespace Chunked

variable {κ : Type}

/-- Mapping the observation crashes. -/
def crashes (r : Chunked) (o : Observation) : Bool := r.params.mapping.crashes o.record

/-- The keys refused in a chunk until an observation of it crashes. -/
def refusedUntilCrash (r : Chunked) (chunk : List Observation) : List UnsafeKey :=
  (mapChunk r.params (chunk.takeWhile fun o => !r.crashes o)).refused ++
    match chunk.find? r.crashes with
    | some o => (Mapping.apply o.record (r.params.mapping.untilCrash o.record)).refused
    | none => []

/-- What is left of a run after its first write, if a record crashes: the chunks before that record
are done, and of its own chunk the journal has the refused keys alone. -/
def broken (r : Chunked) (records : List Observation) (s : State κ) : State κ :=
  let s := s.note (r.startedEntry records.length)
  let chunks := pieces r.chunkSize records
  let whole := chunks.takeWhile fun chunk => !chunk.any r.crashes
  let (s, _) := r.handleAll chunks.length 1 whole s
    (.start records.length r.settings.maxRetainedErrors)
  match chunks.find? fun chunk => chunk.any r.crashes with
  | some chunk => s.record ((r.refusedUntilCrash chunk).map fun e => .noted e.entry)
  | none => s

/-- A run that answers, or crashes and does not. -/
def carryOut (r : Chunked) (records : List Observation) (s : State κ) :
    State κ × Option (Except Job.Error Outcome) :=
  match s.write r.site (.started records.length) with
  | (begun, .ok _) =>
    if records.any r.crashes then (r.broken records begun, none)
    else let (s, answer) := r.run records s; (s, some answer)
  | (s, .error e) => (s, some (.error e))

end Chunked

namespace Processor

/-- The state in which the records of a job have been asked for. -/
def asked (p : Processor) (a : Action) (call : SelectorCall) (s : State ScheduleCall) :
    State ScheduleCall :=
  (s.note (p.processingEntry a.kind)).record [.selected call]

/-- The run over observations that a job comes to, with its records and the state it begins in. -/
def datasetRun? (p : Processor) (s : State ScheduleCall) :
    Option (Chunked × List Observation × State ScheduleCall) :=
  match p.find s with
  | .error _ => none
  | .ok a =>
    if a.status.isTerminal then none
    else
      match Params.parse a.kind a.config, p.services.observations p.site.projectId a.query with
      | .ok (.addToDataset params), .ok records =>
        some (p.datasetRun params, records, p.asked a (.observations p.site.projectId a.query) s)
      | _, _ => none

/-- The whole of a job that answers, or crashes and does not. -/
def carryOut (p : Processor) (s : State ScheduleCall) :
    State ScheduleCall × Option (Except Job.Error (Option Outcome)) :=
  match p.datasetRun? s with
  | some (r, records, begun) =>
    let (s, answer) := r.carryOut records begun
    (s, answer.map fun outcome => outcome.map some)
  | none => let (s, answer) := p.process s; (s, some answer)

end Processor

end BulkActions.Run
