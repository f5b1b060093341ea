/-! The settings of the engine, with their defaults. -/

namespace BulkActions

structure DatabaseSettings where
  url : Option String := some "$\x7bDATABASE_URL\x7d"
  maxConnections : Nat := 10
  deriving DecidableEq, Repr

/-- How observations are added to a dataset. Progress is written every so many chunks, and after
the last one. -/
structure DatasetSettings where
  chunkSize : Nat := 100
  progressInterval : Nat := 5
  maxErrorsPerChunk : Nat := 10
  maxRetainedErrors : Nat := 100
  deriving DecidableEq, Repr

/-- How evaluations are scheduled. -/
structure EvaluationSettings where
  batchSize : Nat := 500
  maxConcurrency : Nat := 10
  maxRetainedErrors : Nat := 100
  deriving DecidableEq, Repr

/-- How much of the errors goes into the log of a job. -/
structure SummarySettings where
  maxErrorLines : Nat := 10
  maxLogChars : Nat := 10000
  deriving DecidableEq, Repr

structure Settings where
  environment : String := ""
  database : DatabaseSettings := {}
  dataset : DatasetSettings := {}
  evaluation : EvaluationSettings := {}
  summary : SummarySettings := {}
  deriving DecidableEq, Repr

namespace Settings

def isTest (s : Settings) : Bool := s.environment == "test"

def isProduction (s : Settings) : Bool := s.environment == "production"

end Settings

end BulkActions
