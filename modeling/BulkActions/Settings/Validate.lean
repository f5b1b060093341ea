import BulkActions.Settings.Basic
import BulkActions.Settings.Error

/-! Which settings can be used: sizes are positive, and one chunk may not fill the error samples
beyond their cap. -/

namespace BulkActions.Settings

/-- The sizes that have to be positive, in the order they are checked. -/
def sizes (s : Settings) : List (String × Nat) :=
  [("dataset_mapping.chunk_size", s.dataset.chunkSize),
    ("dataset_mapping.progress_write_interval_chunks", s.dataset.progressInterval),
    ("dataset_mapping.max_errors_per_chunk", s.dataset.maxErrorsPerChunk),
    ("dataset_mapping.max_retained_errors", s.dataset.maxRetainedErrors),
    ("evaluation.batch_size", s.evaluation.batchSize),
    ("evaluation.max_concurrency", s.evaluation.maxConcurrency),
    ("evaluation.max_retained_errors", s.evaluation.maxRetainedErrors),
    ("summary.max_log_chars", s.summary.maxLogChars)]

/-- The first reason against the settings. -/
def objection (s : Settings) : Option Error :=
  if s.database.maxConnections = 0 then
    some (.invalidValue "database.max_connections" "0" "max connections must be greater than 0")
  else
    match s.sizes.find? fun size => size.2 == 0 with
    | some (field, _) => some (.invalidValue field "0" "value must be greater than 0")
    | none =>
      if s.dataset.maxRetainedErrors < s.dataset.maxErrorsPerChunk then
        some (.invalidValue "dataset_mapping.max_errors_per_chunk"
          s!"{s.dataset.maxErrorsPerChunk}"
          "per-chunk error samples cannot exceed max_retained_errors")
      else none

def validate (s : Settings) : Except Error Settings :=
  match s.objection with
  | some e => .error e
  | none => .ok s

end BulkActions.Settings
