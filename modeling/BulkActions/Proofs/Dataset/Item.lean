import BulkActions.Dataset.Item
import BulkActions.Proofs.Decode.Record

/-! What becomes of a dataset item that is written and read back. An absent field stays absent and a
value stays itself, but null is read as an absent field, although it was written. -/

namespace BulkActions.Dataset

open Decode

/-- What a field that holds a value or null, or is absent, is read back as. -/
def withoutNull (field : Option Json) : Option Json := field.filter fun v => !v.isNull

theorem withoutNull_eq_self_iff (field : Option Json) :
    withoutNull field = field ↔ field ≠ some .null := by
  cases field with
  | none => simp [withoutNull]
  | some v => cases v <;> simp [withoutNull, Json.isNull]

theorem option_anything (v : Json) : Reads (option Document.anything) v (withoutNull (some v)) := by
  intro aside
  cases v with
  | num n => cases n <;> rfl
  | _ => rfl

/-- Read back, an item has no null fields. -/
def Item.withoutNulls (i : Item) : Item where
  datasetId := i.datasetId
  input := withoutNull i.input
  expectedOutput := withoutNull i.expectedOutput
  metadata := withoutNull i.metadata
  sourceTraceId := i.sourceTraceId
  sourceObservationId := i.sourceObservationId

theorem Item.withoutNulls_eq_self_iff (i : Item) :
    i.withoutNulls = i ↔
      i.input ≠ some .null ∧ i.expectedOutput ≠ some .null ∧ i.metadata ≠ some .null := by
  cases i
  simp [withoutNulls, withoutNull_eq_self_iff]

namespace Item

/-- The members an item is written as. -/
def members (i : Item) : Assoc String Json :=
  ("datasetId", .str i.datasetId) :: Assoc.optional "input" i.input ++
    Assoc.optional "expectedOutput" i.expectedOutput ++ Assoc.optional "metadata" i.metadata ++
    [("sourceTraceId", .str i.sourceTraceId), ("sourceObservationId", .str i.sourceObservationId)]

theorem nodup_keys_members (i : Item) : i.members.keys.Nodup := by
  obtain ⟨id, input, output, metadata, trace, observation⟩ := i
  cases input <;> cases output <;> cases metadata <;>
    simp [members, Assoc.keys, Assoc.optional]

/-- An absent field is not written, and null is. -/
theorem find?_members (i : Item) :
    i.members.find? "datasetId" = some (.str i.datasetId) ∧
    i.members.find? "input" = i.input ∧
    i.members.find? "expectedOutput" = i.expectedOutput ∧
    i.members.find? "metadata" = i.metadata ∧
    i.members.find? "sourceTraceId" = some (.str i.sourceTraceId) ∧
    i.members.find? "sourceObservationId" = some (.str i.sourceObservationId) := by
  obtain ⟨id, input, output, metadata, trace, observation⟩ := i
  cases input <;> cases output <;> cases metadata <;> exact ⟨rfl, rfl, rfl, rfl, rfl, rfl⟩

theorem accepts_content (i : Item) {name : String} {field : Option Json}
    (found : i.members.find? name = field) :
    (Record.defaulted name (option Document.anything) none).Accepts i.members
      (withoutNull field) := by
  refine .defaulted i.nodup_keys_members ?_ ?_
  · intro v present
    rw [← found, present]
    exact option_anything v
  · intro absent
    rw [← found, absent]
    rfl

theorem accepts_text (i : Item) {name content : String}
    (found : i.members.find? name = some (.str content)) :
    (Record.required name (text : Decoder Document String)).Accepts i.members content :=
  .required i.nodup_keys_members found fun _ => rfl

/-- Every item is read back, without its null fields. -/
theorem decode_toJson (i : Item) : fromJson Item.decoder i.toJson = .ok i.withoutNulls := by
  obtain ⟨dataset, input, output, metadata, trace, observation⟩ := i.find?_members
  have begun := (i.accepts_text dataset).map Item.mk
  have filled := ((begun.seq (i.accepts_content input)).seq (i.accepts_content output)).seq
    (i.accepts_content metadata)
  have whole := (filled.seq (i.accepts_text trace)).seq (i.accepts_text observation)
  exact whole.reads i.nodup_keys_members "NewDatasetItem" false

/-- Written, each field keeps apart whether it is absent, null or another value. Read back, null is
an absent field, so an item is read back as itself exactly if none of its fields is null. -/
theorem read_back_iff_no_null (i : Item) :
    i.toJson.get? "input" = i.input ∧ i.toJson.get? "expectedOutput" = i.expectedOutput ∧
    i.toJson.get? "metadata" = i.metadata ∧
    fromJson Item.decoder i.toJson = .ok i.withoutNulls ∧
    (fromJson Item.decoder i.toJson = .ok i ↔
      i.input ≠ some .null ∧ i.expectedOutput ≠ some .null ∧ i.metadata ≠ some .null) := by
  obtain ⟨_, input, output, metadata, _, _⟩ := i.find?_members
  refine ⟨input, output, metadata, i.decode_toJson, ?_⟩
  rw [i.decode_toJson, ← i.withoutNulls_eq_self_iff]
  exact ⟨Except.ok.inj, congrArg Except.ok⟩

/-- An item with null metadata. -/
def unlabelled : Item := ⟨"ds", some (.obj [("q", .nat 1)]), none, some .null, "t", "o"⟩

/-- Null is written and differs from an absent field, and is lost on the way back. -/
theorem null_metadata_not_read_back :
    unlabelled.toJson.get? "metadata" = some .null ∧
    unlabelled.toJson.get? "expectedOutput" = none ∧
    fromJson Item.decoder unlabelled.toJson = .ok { unlabelled with metadata := none } ∧
    fromJson Item.decoder unlabelled.toJson ≠ .ok unlabelled := by
  refine ⟨rfl, rfl, unlabelled.decode_toJson, ?_⟩
  rw [unlabelled.decode_toJson]
  intro same
  exact absurd (Except.ok.inj same) (by decide)

end Item

end BulkActions.Dataset
