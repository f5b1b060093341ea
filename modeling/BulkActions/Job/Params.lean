import BulkActions.Job.Codec
import BulkActions.Mapping.Codec
import BulkActions.Text.Blank

/-! The parameters of a job, by its kind. -/

namespace BulkActions.Job

open Decode

structure DatasetParams where
  datasetId : String
  mapping : Mapping.DatasetMapping
  deriving DecidableEq, Repr

structure EvaluationParams where
  evaluatorIds : List String
  deriving DecidableEq, Repr

inductive Params where
  | addToDataset (params : DatasetParams)
  | runEvaluation (params : EvaluationParams)
  deriving DecidableEq, Repr

def DatasetParams.decoder : Decoder Document DatasetParams :=
  Record.decoder "AddToDatasetConfig" (DatasetParams.mk
    <$> .required "datasetId" text
    <*> .defaulted "mapping" Mapping.DatasetMapping.decoder .default)

def EvaluationParams.decoder : Decoder Document EvaluationParams :=
  Record.decoder "RunEvaluationConfig" (EvaluationParams.mk
    <$> .required "evaluatorIds" (sequence text))

def DatasetParams.toJson (p : DatasetParams) : Json :=
  .obj [("datasetId", .str p.datasetId), ("mapping", p.mapping.toJson)]

def EvaluationParams.toJson (p : EvaluationParams) : Json :=
  .obj [("evaluatorIds", .arr (p.evaluatorIds.map .str))]

def Params.toJson : Params → Json
  | .addToDataset p => p.toJson
  | .runEvaluation p => p.toJson

/-- A dataset needs an id that is not blank, an evaluation at least one evaluator. -/
def Params.parse (kind : Kind) (config : Json) : Except Error Params :=
  match kind with
  | .addToDataset =>
    match fromJson DatasetParams.decoder config with
    | .error e => .error (.ofDocument e.message)
    | .ok p =>
      if (Text.trim p.datasetId).isEmpty then
        .error (.validation "add-to-dataset config requires a datasetId")
      else .ok (.addToDataset p)
  | .runEvaluation =>
    match fromJson EvaluationParams.decoder config with
    | .error e => .error (.ofDocument e.message)
    | .ok p =>
      if p.evaluatorIds.isEmpty then
        .error (.validation "run-evaluation config requires at least one evaluator id")
      else .ok (.runEvaluation p)

end BulkActions.Job
