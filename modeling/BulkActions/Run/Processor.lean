import BulkActions.Run.Chunked
import BulkActions.Run.Evaluation

/-! One job from its stored record to its end. A job that is already finished is left alone; one
whose parameters or records cannot be had fails before it starts. -/

namespace BulkActions.Run

open Dataset Job

/-- The services a job works with. -/
structure Services where
  observations : String → Json → Except Job.Error (List Observation)
  subjects : String → Json → Except Job.Error (List (StreamItem Subject))
  sink : Sink
  scheduler : Scheduler

/-- What stays the same while a job is processed. -/
structure Processor where
  site : Site
  settings : Settings
  services : Services

namespace Processor

variable [Path.Evaluator]

def alreadyFinished (p : Processor) (status : Status) : Journal.Entry where
  level := .info
  origin := .processor
  message := "Batch action already finished, skipping"
  fields := [("batch_action_id", .shown p.site.actionId), ("status", .shown status.name)]

def processingEntry (p : Processor) (kind : Kind) : Journal.Entry where
  level := .info
  origin := .processor
  message := "Processing batch action"
  fields := [("batch_action_id", .shown p.site.actionId),
    ("project_id", .shown p.site.projectId), ("action_type", .shown kind.name)]

def failedEntry (a : Action) (reason : String) : Journal.Entry where
  level := .warn
  origin := .processor
  message := "Batch action failed before processing"
  fields := [("batch_action_id", .shown a.id), ("project_id", .shown a.projectId),
    ("reason", .shown reason)]

abbrev Result := State ScheduleCall × Except Job.Error (Option Outcome)

/-- Ends a job that cannot start. Its counts stay as they are. -/
def failBeforeStart (p : Processor) (a : Action) (reason : String) (s : State ScheduleCall) :
    Result :=
  let s := s.note (failedEntry a reason)
  let s := s.note (Journal.fault "batch_action_processor" "process" reason (some a.id))
  match s.writeTo p.site ⟨a.projectId, a.id⟩ (.failedBeforeStart reason p.site.now) with
  | (s, .error e) => (s, .error e)
  | (s, .ok row) => (s, .ok (some row.outcome))

def selectionReason (e : Job.Error) : String := s!"Failed to select records: {e.message}"

def paramsReason (e : Job.Error) : String := s!"Invalid batch action config: {e.message}"

/-- The run that adds observations to a dataset. -/
def datasetRun (p : Processor) (params : DatasetParams) : Chunked :=
  ⟨p.site, params, p.settings.dataset, p.settings.summary, p.services.sink⟩

/-- The run that has subjects evaluated. -/
def evaluationRun (p : Processor) (params : EvaluationParams) : Streamed Subject ScheduleCall :=
  ⟨p.site, evaluation p.site.projectId params.evaluatorIds p.services.scheduler,
    p.settings.evaluation, p.settings.summary⟩

def runDataset (p : Processor) (a : Action) (params : DatasetParams) (s : State ScheduleCall) :
    Result :=
  let s := s.record [.selected (.observations p.site.projectId a.query)]
  match p.services.observations p.site.projectId a.query with
  | .error e => p.failBeforeStart a (selectionReason e) s
  | .ok records =>
    let (s, outcome) := (p.datasetRun params).run records s
    (s, outcome.map some)

def runEvaluation (p : Processor) (a : Action) (params : EvaluationParams)
    (s : State ScheduleCall) : Result :=
  let s := s.record [.selected (.subjects p.site.projectId a.query)]
  match p.services.subjects p.site.projectId a.query with
  | .error e => p.failBeforeStart a (selectionReason e) s
  | .ok stream =>
    let (s, outcome) := (p.evaluationRun params).run stream s
    (s, outcome.map some)

/-- A job that is not finished yet. -/
def start (p : Processor) (a : Action) (s : State ScheduleCall) : Result :=
  match Params.parse a.kind a.config with
  | .error e => p.failBeforeStart a (paramsReason e) s
  | .ok params =>
    let s := s.note (p.processingEntry a.kind)
    match params with
    | .addToDataset params => p.runDataset a params s
    | .runEvaluation params => p.runEvaluation a params s

/-- The stored record of the job. -/
def find (p : Processor) (s : State ScheduleCall) : Except Job.Error Action :=
  match p.site.failingFind with
  | some e => .error e
  | none =>
    match s.store.find p.site.key with
    | none => .error (.notFound p.site.projectId p.site.actionId)
    | some a => .ok a

/-- Nothing comes of a finished job. -/
def process (p : Processor) (s : State ScheduleCall) : Result :=
  match p.find s with
  | .error e => (s, .error e)
  | .ok a =>
    if a.status.isTerminal then (s.note (p.alreadyFinished a.status), .ok none)
    else p.start a s

end Processor

end BulkActions.Run
