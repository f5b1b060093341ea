import BulkActions.Job.Params
import BulkActions.Proofs.Mapping.Codec

/-! The parameters of a job and their written form. Parameters that were read from a document of any
shape are written in one form, which is read back as the same parameters. -/

namespace BulkActions.Job

open Decode

/-- The members of the parameters of a dataset job. -/
def DatasetParams.members (p : DatasetParams) : Assoc String Json :=
  [("datasetId", .str p.datasetId), ("mapping", p.mapping.toJson)]

theorem reads_datasetParams (p : DatasetParams) : Reads DatasetParams.decoder p.toJson p := by
  have distinct : p.members.keys.Nodup := by simp [DatasetParams.members, Assoc.keys]
  have id : (Record.required "datasetId" text).Accepts p.members p.datasetId :=
    .required distinct rfl (reads_text p.datasetId)
  have mapping : (Record.defaulted "mapping" Mapping.DatasetMapping.decoder .default).Accepts
      p.members p.mapping := .given distinct rfl (Mapping.reads_datasetMapping p.mapping) _
  exact ((id.map DatasetParams.mk).seq mapping).reads distinct "AddToDatasetConfig"

theorem reads_evaluationParams (p : EvaluationParams) :
    Reads EvaluationParams.decoder p.toJson p := by
  have distinct : (Assoc.keys [("evaluatorIds", Json.arr (p.evaluatorIds.map .str))]).Nodup := by
    simp [Assoc.keys]
  have ids : (Record.required "evaluatorIds" (sequence text)).Accepts
      [("evaluatorIds", .arr (p.evaluatorIds.map .str))] p.evaluatorIds :=
    .required distinct rfl (reads_sequence reads_text p.evaluatorIds)
  exact (ids.map EvaluationParams.mk).reads distinct "RunEvaluationConfig"

namespace Params

/-- Parameters that a job of this kind can have. -/
def Fits : Kind → Params → Prop
  | .addToDataset, .addToDataset p => (Text.trim p.datasetId).isEmpty = false
  | .runEvaluation, .runEvaluation p => p.evaluatorIds.isEmpty = false
  | _, _ => False

theorem fits_of_parse {kind : Kind} {config : Json} {p : Params}
    (accepted : Params.parse kind config = .ok p) : Fits kind p := by
  unfold Params.parse at accepted
  cases kind with
  | addToDataset =>
    cases read : fromJson DatasetParams.decoder config with
    | error e => simp [read] at accepted
    | ok q =>
      by_cases blank : (Text.trim q.datasetId).isEmpty = true
      · simp [read, blank] at accepted
      · simp only [read, blank] at accepted
        cases accepted
        exact Bool.eq_false_iff.mpr blank
  | runEvaluation =>
    cases read : fromJson EvaluationParams.decoder config with
    | error e => simp [read] at accepted
    | ok q =>
      by_cases empty : q.evaluatorIds.isEmpty = true
      · simp [read, empty] at accepted
      · simp only [read, empty] at accepted
        cases accepted
        exact Bool.eq_false_iff.mpr empty

theorem parse_toJson {kind : Kind} {p : Params} (fits : Fits kind p) :
    Params.parse kind p.toJson = .ok p := by
  cases kind <;> cases p
  case addToDataset.addToDataset p =>
    have named : (Text.trim p.datasetId).isEmpty = false := fits
    simp [Params.parse, toJson, (reads_datasetParams p).fromJson, named]
  case runEvaluation.runEvaluation p =>
    have some : p.evaluatorIds.isEmpty = false := fits
    simp [Params.parse, toJson, (reads_evaluationParams p).fromJson, some]
  all_goals cases fits

end Params

/-- A mapping is read back from its written form, whatever its modes, details and entries. So are
the parameters that any document gives to a job of some kind. -/
theorem mappings_and_parameters_read_back :
    (∀ m : Mapping.DatasetMapping, fromJson Mapping.DatasetMapping.decoder m.toJson = .ok m) ∧
    ∀ kind config p, Params.parse kind config = .ok p → Params.parse kind p.toJson = .ok p :=
  ⟨fun m => (Mapping.reads_datasetMapping m).fromJson,
    fun _ _ _ accepted => Params.parse_toJson (Params.fits_of_parse accepted)⟩

/-- A mode and a type that are not known, an entry by position, an empty value and a member that no
field has. -/
def looseConfig : Json :=
  .obj [("mapping", .obj [
      ("metadata", .obj [("mode", .str "magic"), ("custom", .null)]),
      ("input", .obj [("custom", .obj [("rootConfig", .null), ("type", .str "template")]),
        ("mode", .str "custom")]),
      ("expectedOutput", .obj [("mode", .str "custom"), ("custom", .obj [
        ("keyValueMapConfig", .obj [("entries", .arr [.arr [.str "k", .str "output", .null],
          .obj [("value", .str ""), ("sourceField", .str "metadata"), ("key", .str "a.b")]])]),
        ("type", .str "keyValueMap")])])]),
    ("comment", .nat 1), ("datasetId", .str " ds ")]

def looseParams : Params :=
  .addToDataset ⟨" ds ", .custom (some .unknown),
    .custom (some (.keyValueMap (some ⟨[⟨"k", .output, none⟩, ⟨"a.b", .metadata, some ""⟩]⟩))),
    .unknown⟩

theorem mappings_and_parameters_read_back_loose :
    Params.parse .addToDataset looseConfig = .ok looseParams ∧ looseParams.toJson ≠ looseConfig ∧
    Params.parse .addToDataset looseParams.toJson = .ok looseParams := by
  have accepted : Params.parse .addToDataset looseConfig = .ok looseParams := by rfl
  exact ⟨accepted, by decide,
    mappings_and_parameters_read_back.2 .addToDataset looseConfig looseParams accepted⟩

end BulkActions.Job
