import BulkActions.Decode.Document
import BulkActions.Settings.Basic

/-! Settings as documents. Every field has a default. -/

namespace BulkActions

open Decode

variable {σ : Type} [Source σ]

def DatabaseSettings.decoder : Decoder σ DatabaseSettings :=
  let default : DatabaseSettings := {}
  Record.decoder "DatabaseConfig" (DatabaseSettings.mk
    <$> .defaulted "url" (option text) default.url
    <*> .defaulted "max_connections" count32 default.maxConnections)

def DatasetSettings.decoder : Decoder σ DatasetSettings :=
  let default : DatasetSettings := {}
  Record.decoder "DatasetMappingSettings" (DatasetSettings.mk
    <$> .defaulted "chunk_size" size default.chunkSize
    <*> .defaulted "progress_write_interval_chunks" size default.progressInterval
    <*> .defaulted "max_errors_per_chunk" size default.maxErrorsPerChunk
    <*> .defaulted "max_retained_errors" size default.maxRetainedErrors)

def EvaluationSettings.decoder : Decoder σ EvaluationSettings :=
  let default : EvaluationSettings := {}
  Record.decoder "EvaluationSettings" (EvaluationSettings.mk
    <$> .defaulted "batch_size" size default.batchSize
    <*> .defaulted "max_concurrency" size default.maxConcurrency
    <*> .defaulted "max_retained_errors" size default.maxRetainedErrors)

def SummarySettings.decoder : Decoder σ SummarySettings :=
  let default : SummarySettings := {}
  Record.decoder "SummarySettings" (SummarySettings.mk
    <$> .defaulted "max_error_lines" size default.maxErrorLines
    <*> .defaulted "max_log_chars" size default.maxLogChars)

def Settings.decoder : Decoder σ Settings :=
  let default : Settings := {}
  Record.decoder "BatchActionsConfig" (Settings.mk
    <$> .defaulted "environment" text default.environment
    <*> .defaulted "database" DatabaseSettings.decoder default.database
    <*> .defaulted "dataset_mapping" DatasetSettings.decoder default.dataset
    <*> .defaulted "evaluation" EvaluationSettings.decoder default.evaluation
    <*> .defaulted "summary" SummarySettings.decoder default.summary)

def DatabaseSettings.toJson (s : DatabaseSettings) : Json :=
  .obj [("url", Json.orNull .str s.url), ("max_connections", .nat s.maxConnections)]

def DatasetSettings.toJson (s : DatasetSettings) : Json :=
  .obj [("chunk_size", .nat s.chunkSize),
    ("progress_write_interval_chunks", .nat s.progressInterval),
    ("max_errors_per_chunk", .nat s.maxErrorsPerChunk),
    ("max_retained_errors", .nat s.maxRetainedErrors)]

def EvaluationSettings.toJson (s : EvaluationSettings) : Json :=
  .obj [("batch_size", .nat s.batchSize), ("max_concurrency", .nat s.maxConcurrency),
    ("max_retained_errors", .nat s.maxRetainedErrors)]

def SummarySettings.toJson (s : SummarySettings) : Json :=
  .obj [("max_error_lines", .nat s.maxErrorLines), ("max_log_chars", .nat s.maxLogChars)]

def Settings.toJson (s : Settings) : Json :=
  .obj [("environment", .str s.environment), ("database", s.database.toJson),
    ("dataset_mapping", s.dataset.toJson), ("evaluation", s.evaluation.toJson),
    ("summary", s.summary.toJson)]

end BulkActions
