import BulkActions.Journal.Render
import BulkActions.Journal.Session
import BulkActions.Main
import BulkActions.Path.Suggest
import BulkActions.Path.Verdict
import BulkActions.Run.Crash
import BulkActions.Settings.Shared
import BulkActions.Proofs.Job.Store
import BulkActions.Proofs.Job.Calls
import BulkActions.Proofs.Run.State
import BulkActions.Proofs.Run.Tally
import BulkActions.Proofs.Run.Chunked
import BulkActions.Proofs.Run.Agenda
import BulkActions.Proofs.Run.Pool
import BulkActions.Proofs.Run.Streamed
import BulkActions.Proofs.Run.Schedule
import BulkActions.Proofs.Run.Lines
import BulkActions.Proofs.Run.Evaluation
import BulkActions.Proofs.Run.Tuning
import BulkActions.Proofs.Json.Bindings
import BulkActions.Proofs.Json.Distinct
import BulkActions.Proofs.Path.Part
import BulkActions.Proofs.Path.Selected
import BulkActions.Proofs.Mapping.Key
import BulkActions.Proofs.Mapping.Edit
import BulkActions.Proofs.Mapping.Entries
import BulkActions.Proofs.Job.Terminal
import BulkActions.Proofs.Run.Submissions
import BulkActions.Proofs.Run.Chunking
import BulkActions.Proofs.Mapping.Unsafe
import BulkActions.Proofs.Run.Processor
import BulkActions.Proofs.Run.Remains
import BulkActions.Proofs.Run.Log
import BulkActions.Proofs.Run.Attempts
import BulkActions.Proofs.Run.Clock
import BulkActions.Proofs.Run.Retry
import BulkActions.Proofs.Path.Way
import BulkActions.Proofs.Path.Written
import BulkActions.Proofs.Path.Suggested
import BulkActions.Proofs.Decode.Record
import BulkActions.Proofs.Dataset.Item
import BulkActions.Proofs.Job.History
import BulkActions.Proofs.Run.Lockstep
import BulkActions.Proofs.Run.Runner
import BulkActions.Proofs.Run.Losses
import BulkActions.Proofs.Run.Refusals
import BulkActions.Proofs.Run.Skipped
import BulkActions.Proofs.Decode.Order
import BulkActions.Proofs.Settings.Sections
import BulkActions.Proofs.Settings.Environment
import BulkActions.Proofs.Settings.Address
import BulkActions.Proofs.Validator.Report
import BulkActions.Proofs.Mapping.Codec
import BulkActions.Proofs.Job.Params
import BulkActions.Proofs.Json.Shape
import BulkActions.Proofs.Json.Token
import BulkActions.Proofs.Json.ReadBack
import BulkActions.Proofs.Mapping.Encoded
import BulkActions.Proofs.Mapping.Absent
import BulkActions.Proofs.Run.Filled
import BulkActions.Proofs.Mapping.Permuted
import BulkActions.Proofs.Mapping.Denied
import BulkActions.Proofs.Job.Scope
import BulkActions.Proofs.Run.Cadence
import BulkActions.Proofs.Run.Retained
import BulkActions.Proofs.Run.Outage
import BulkActions.Proofs.Mapping.Fields
import BulkActions.Proofs.Run.Attribution
import BulkActions.Proofs.Yaml.Distinct
import BulkActions.Proofs.Yaml.Overlay
import BulkActions.Proofs.Path.Walk
import BulkActions.Proofs.Mapping.Removal
import BulkActions.Proofs.Decode.Ensured
import BulkActions.Proofs.Job.Counts
import BulkActions.Proofs.Settings.Shared
import BulkActions.Proofs.Run.Samples
import BulkActions.Proofs.Run.Summary
import BulkActions.Proofs.Mapping.Crash
import BulkActions.Proofs.Run.Crash
