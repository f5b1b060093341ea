import BulkActions.Decode.Document
import BulkActions.Mapping.Config

/-! Items for a dataset, the reports of their bulk creation, and the records both kinds of job
read. -/

namespace BulkActions.Dataset

open Decode

/-- An item ready to be created. An absent field is not null. -/
structure Item where
  datasetId : String
  input : Option Json
  expectedOutput : Option Json
  metadata : Option Json
  sourceTraceId : String
  sourceObservationId : String
  deriving DecidableEq

/-- Why one of the submitted items was refused. -/
structure ItemFault where
  index : Nat
  message : String
  deriving DecidableEq, Repr

/-- The report of one bulk creation. Nothing makes its parts agree. -/
structure BulkReport where
  success : Bool
  successCount : Nat
  failedCount : Nat
  faults : List ItemFault
  deriving DecidableEq, Repr

def BulkReport.allSucceeded (count : Nat) : BulkReport := ⟨true, count, 0, []⟩

/-- A record to be added to a dataset. -/
structure Observation where
  id : String
  traceId : String
  input : Json
  output : Json
  metadata : Json
  deriving DecidableEq

def Observation.record (o : Observation) : Mapping.SourceRecord := ⟨o.input, o.output, o.metadata⟩

/-- A record to be evaluated: a trace, or one observation of it. -/
structure Subject where
  traceId : String
  observationId : Option String
  deriving DecidableEq, Repr

def Subject.displayId (t : Subject) : String := t.observationId.getD t.traceId

def Item.decoder : Decoder Document Item :=
  Record.decoder "NewDatasetItem" (Item.mk
    <$> .required "datasetId" text
    <*> .defaulted "input" (option Document.anything) none
    <*> .defaulted "expectedOutput" (option Document.anything) none
    <*> .defaulted "metadata" (option Document.anything) none
    <*> .required "sourceTraceId" text
    <*> .required "sourceObservationId" text)

def ItemFault.decoder : Decoder Document ItemFault :=
  Record.decoder "ItemValidationError" (ItemFault.mk
    <$> .required "itemIndex" size
    <*> .required "message" text)

def BulkReport.decoder : Decoder Document BulkReport :=
  Record.decoder "BulkCreateOutcome" (BulkReport.mk
    <$> .required "success" truth
    <*> .required "successCount" count64
    <*> .required "failedCount" count64
    <*> .defaulted "validationErrors" (sequence ItemFault.decoder) [])

def Observation.decoder : Decoder Document Observation :=
  Record.decoder "ObservationRecord" (Observation.mk
    <$> .required "id" text
    <*> .required "traceId" text
    <*> .defaulted "input" Document.anything .null
    <*> .defaulted "output" Document.anything .null
    <*> .defaulted "metadata" Document.anything .null)

def Subject.decoder : Decoder Document Subject :=
  Record.decoder "EvaluationTarget" (Subject.mk
    <$> .required "traceId" text
    <*> .defaulted "observationId" (option text) none)

def Item.toJson (i : Item) : Json :=
  .obj (("datasetId", .str i.datasetId) :: Assoc.optional "input" i.input ++
    Assoc.optional "expectedOutput" i.expectedOutput ++ Assoc.optional "metadata" i.metadata ++
    [("sourceTraceId", .str i.sourceTraceId), ("sourceObservationId", .str i.sourceObservationId)])

def ItemFault.toJson (f : ItemFault) : Json :=
  .obj [("itemIndex", .nat f.index), ("message", .str f.message)]

def BulkReport.toJson (r : BulkReport) : Json :=
  .obj [("success", .bool r.success), ("successCount", .nat r.successCount),
    ("failedCount", .nat r.failedCount), ("validationErrors", .arr (r.faults.map ItemFault.toJson))]

def Observation.toJson (o : Observation) : Json :=
  .obj [("id", .str o.id), ("traceId", .str o.traceId), ("input", o.input), ("output", o.output),
    ("metadata", o.metadata)]

def Subject.toJson (t : Subject) : Json :=
  .obj [("traceId", .str t.traceId), ("observationId", Json.orNull .str t.observationId)]

end BulkActions.Dataset
