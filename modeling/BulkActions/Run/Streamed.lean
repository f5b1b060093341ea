import BulkActions.Run.Pool
import BulkActions.Run.Tally

/-! Working through a stream of records batch by batch, with several records of a batch under way
at once. An error in the stream takes the place of a record and counts as a failed one. -/

namespace BulkActions.Run

open Job

/-- Work on single records. What it does for a record may depend on the record's position. -/
structure Operation (ρ κ : Type) where
  describe : String
  task : Nat → ρ → Task κ

/-- An item of a stream. -/
abbrev StreamItem (ρ : Type) := Except Job.Error ρ

/-- What stays the same through a streamed run. -/
structure Streamed (ρ κ : Type) where
  site : Site
  operation : Operation ρ κ
  settings : EvaluationSettings
  summary : SummarySettings

def recordLine (index : Nat) (e : Job.Error) : String := s!"Record {index}: {e.message}"

/-- The error lines of a batch's stream errors, with the positions of its items. -/
def streamErrorLines {ρ : Type} : Nat → List (StreamItem ρ) → List String
  | _, [] => []
  | index, .error e :: rest => recordLine index e :: streamErrorLines (index + 1) rest
  | index, .ok _ :: rest => streamErrorLines (index + 1) rest

/-- The tasks of a batch's records. -/
def tasksOf {ρ κ : Type} (operation : Operation ρ κ) :
    Nat → List (StreamItem ρ) → List (Pool.Waiting κ)
  | _, [] => []
  | index, .error _ :: rest => tasksOf operation (index + 1) rest
  | index, .ok record :: rest =>
    (index, operation.task index record) :: tasksOf operation (index + 1) rest

namespace Tally

/-- Counts a record whose work ended. -/
def complete (t : Tally) : Nat × Option Job.Error → Tally
  | (_, none) => { t with counters := t.counters.addProcessed 1 }
  | (index, some e) => ⟨t.counters.addFailed 1, (t.samples.push (recordLine index e)).1⟩

end Tally

namespace Streamed

variable {ρ κ : Type}

/-- Sizes of zero count as one. -/
def batchSize (r : Streamed ρ κ) : Nat := max 1 r.settings.batchSize

def concurrency (r : Streamed ρ κ) : Nat := max 1 r.settings.maxConcurrency

def progressLost (r : Streamed ρ κ) (number : Nat) (e : Job.Error) : Journal.Entry where
  level := .warn
  origin := .streamed
  message := "Failed to persist batch action progress"
  fields := [("batch_action_id", .shown r.site.actionId), ("batch", .number number),
    ("error", .shown e.message)]

def batchDone (r : Streamed ρ κ) (number : Nat) (c : Counters) : Journal.Entry where
  level := .debug
  origin := .streamed
  message := "Processed streamed batch"
  fields := [("batch_action_id", .shown r.site.actionId), ("batch", .number number),
    ("total", .number c.total), ("processed", .number c.processed), ("failed", .number c.failed)]

def done (r : Streamed ρ κ) (o : Outcome) : Journal.Entry where
  level := .info
  origin := .streamed
  message := "Streaming batch action finished"
  fields := [("batch_action_id", .shown r.site.actionId), ("project_id", .shown r.site.projectId),
    ("status", .shown o.status.name), ("total", .number o.total),
    ("processed", .number o.processed), ("failed", .number o.failed),
    ("operation", .shown r.operation.describe)]

/-- One batch. Its stream errors are counted before its records are worked on, and those in the
order their work ends. -/
def handle (r : Streamed ρ κ) (batch : List (StreamItem ρ)) (s : State κ) (t : Tally) :
    State κ × Tally :=
  let first := t.counters.total
  let lines := streamErrorLines first batch
  let t : Tally :=
    ⟨(t.counters.addTotal batch.length).addFailed lines.length, t.samples.pushAll lines⟩
  let events := Pool.run r.concurrency (tasksOf r.operation first batch)
  (s.record (.pulled batch.length :: events), (completions events).foldl Tally.complete t)

/-- The batches from a number on. -/
def handleAll (r : Streamed ρ κ) :
    Nat → List (List (StreamItem ρ)) → State κ → Tally → State κ × Tally
  | _, [], s, t => (s, t)
  | number, batch :: rest, s, t =>
    let (s, t) := r.handle batch s t
    let s := s.note (r.batchDone number t.counters)
    let s := t.writeProgress r.site (r.progressLost number) s
    r.handleAll (number + 1) rest s t

def startedEntry (r : Streamed ρ κ) : Journal.Entry :=
  Journal.operation "streaming_run_started" r.site.actionId r.site.projectId "processing"
    (some r.operation.describe)

/-- The whole run. Only the first and the last write can stop it. -/
def run (r : Streamed ρ κ) (stream : List (StreamItem ρ)) (s : State κ) :
    State κ × Except Job.Error Outcome :=
  match s.write r.site (.started 0) with
  | (s, .error e) => (s, .error e)
  | (s, .ok _) =>
    let s := s.note r.startedEntry
    let (s, t) := r.handleAll 1 (pieces r.batchSize stream) s
      (.start 0 r.settings.maxRetainedErrors)
    t.finish r.site
      s!"{t.counters.failed} of {t.counters.total} records failed ({r.operation.describe})"
      r.summary r.done s

end Streamed

end BulkActions.Run
