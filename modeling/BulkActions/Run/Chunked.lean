import BulkActions.Job.Params
import BulkActions.Mapping.Apply
import BulkActions.Run.Tally

/-! Adding observations to a dataset: mapped and submitted chunk by chunk. Records with a mapping
error are left out of the submission; what the sink does not report as created counts as failed. -/

namespace BulkActions.Run

open Dataset Job Mapping

/-- Bulk creation of items. Each call has its number. -/
abbrev Sink := Nat → List Item → Except Job.Error BulkReport

/-- The items of a chunk and the error lines of the records left out. -/
structure MappedChunk where
  items : List Item
  lines : List String
  refused : List UnsafeKey

def itemOf (params : DatasetParams) (o : Observation) (m : MappedFields) : Item where
  datasetId := params.datasetId
  input := m.input
  expectedOutput := m.expectedOutput
  metadata := m.metadata
  sourceTraceId := o.traceId
  sourceObservationId := o.id

def observationLine (id text : String) : String := s!"Observation {id}: {text}"

def errorText (errors : List MappingError) : String := "; ".intercalate (errors.map (·.message))

def mapChunk [Path.Evaluator] (params : DatasetParams) : List Observation → MappedChunk
  | [] => ⟨[], [], []⟩
  | o :: rest =>
    let m := Mapping.apply o.record params.mapping
    let later := mapChunk params rest
    if m.errors.isEmpty then
      ⟨itemOf params o m :: later.items, later.lines, m.refused ++ later.refused⟩
    else
      ⟨later.items, observationLine o.id (errorText m.errors) :: later.lines,
        m.refused ++ later.refused⟩

def sinkFailedEntry (number count : Nat) (e : Job.Error) : Journal.Entry where
  level := .warn
  origin := .chunked
  message := "Dataset item sink failed for chunk"
  fields := [("chunk", .number number), ("items", .number count), ("error", .shown e.message)]

/-- A fault is labelled with the observation behind the item it names. -/
def faultLine (items : List Item) (f : ItemFault) : String :=
  match items[f.index]? with
  | some item => observationLine item.sourceObservationId f.message
  | none => s!"Item {f.index}: {f.message}"

/-- What a submission came to. -/
structure Settled where
  processed : Nat
  failed : Nat
  lines : List String
  notes : List Journal.Entry

/-- No more items are created than were submitted, whatever the report says. -/
def settle (number : Nat) (items : List Item) : Except Job.Error BulkReport → Settled
  | .ok report =>
    let created := min report.successCount items.length
    ⟨created, items.length - created, report.faults.map (faultLine items), []⟩
  | .error e =>
    ⟨0, items.length,
      [s!"Chunk {number}: failed to create {items.length} items: {e.message}"],
      [sinkFailedEntry number items.length e]⟩

/-- What stays the same through a chunked run. -/
structure Chunked where
  site : Site
  params : DatasetParams
  settings : DatasetSettings
  summary : SummarySettings
  sink : Sink

namespace Chunked

variable [Path.Evaluator] {κ : Type}

/-- Sizes of zero count as one. -/
def chunkSize (r : Chunked) : Nat := max 1 r.settings.chunkSize

def interval (r : Chunked) : Nat := max 1 r.settings.progressInterval

def progressLost (r : Chunked) (number : Nat) (e : Job.Error) : Journal.Entry where
  level := .warn
  origin := .chunked
  message := "Failed to persist batch action progress"
  fields := [("batch_action_id", .shown r.site.actionId), ("chunk", .number number),
    ("error", .shown e.message)]

def chunkDone (r : Chunked) (number count : Nat) (c : Counters) : Journal.Entry where
  level := .debug
  origin := .chunked
  message := "Processed dataset chunk"
  fields := [("batch_action_id", .shown r.site.actionId), ("chunk", .number number),
    ("chunks", .number count), ("processed", .number c.processed), ("failed", .number c.failed)]

def done (r : Chunked) (o : Outcome) : Journal.Entry where
  level := .info
  origin := .chunked
  message := "Add-to-dataset batch action finished"
  fields := [("batch_action_id", .shown r.site.actionId), ("project_id", .shown r.site.projectId),
    ("status", .shown o.status.name), ("processed", .number o.processed),
    ("failed", .number o.failed)]

/-- The submission of a chunk's items, if there are any. -/
def submit (r : Chunked) (number : Nat) (items : List Item) (s : State κ) : State κ × Settled :=
  if items.isEmpty then (s, ⟨0, 0, [], []⟩)
  else
    let settled := settle number items (r.sink s.submissions items)
    let call : SinkCall := ⟨r.site.projectId, r.params.datasetId, items⟩
    ({ s with submissions := s.submissions + 1 }.record
      (.submitted call :: settled.notes.map .noted), settled)

/-- One chunk: mapped, submitted, counted, and its first error lines kept. -/
def handle (r : Chunked) (number : Nat) (chunk : List Observation) (s : State κ) (t : Tally) :
    State κ × Tally :=
  let mapped := mapChunk r.params chunk
  let s := s.record (mapped.refused.map fun e => .noted e.entry)
  let (s, settled) := r.submit number mapped.items s
  let counters := (t.counters.addFailed (mapped.lines.length + settled.failed)).addProcessed
    settled.processed
  let samples := t.samples.extend (mapped.lines ++ settled.lines) r.settings.maxErrorsPerChunk
  (s, ⟨counters, samples⟩)

/-- Progress is due after every so many chunks, and after the last. -/
def isDue (r : Chunked) (number count : Nat) : Bool := number % r.interval == 0 || number == count

/-- The chunks from a number on. -/
def handleAll (r : Chunked) (count : Nat) :
    Nat → List (List Observation) → State κ → Tally → State κ × Tally
  | _, [], s, t => (s, t)
  | number, chunk :: rest, s, t =>
    let (s, t) := r.handle number chunk s t
    let s := s.note (r.chunkDone number count t.counters)
    let s := if r.isDue number count then t.writeProgress r.site (r.progressLost number) s else s
    r.handleAll count (number + 1) rest s t

def startedEntry (r : Chunked) (total : Nat) : Journal.Entry :=
  Journal.operation "add_to_dataset_started" r.site.actionId r.site.projectId "processing"
    (some s!"{total} records into dataset {r.params.datasetId}")

/-- The whole run. Only the first and the last write can stop it. -/
def run (r : Chunked) (records : List Observation) (s : State κ) :
    State κ × Except Job.Error Outcome :=
  match s.write r.site (.started records.length) with
  | (s, .error e) => (s, .error e)
  | (s, .ok _) =>
    let s := s.note (r.startedEntry records.length)
    let chunks := pieces r.chunkSize records
    let (s, t) := r.handleAll chunks.length 1 chunks s
      (.start records.length r.settings.maxRetainedErrors)
    t.finish r.site s!"{t.counters.failed} items failed to add to dataset" r.summary r.done s

end Chunked

end BulkActions.Run
