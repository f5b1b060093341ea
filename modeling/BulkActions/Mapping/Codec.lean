import BulkActions.Decode.Document
import BulkActions.Mapping.Config

/-! Mappings as documents. -/

namespace BulkActions.Mapping

open Decode

variable {σ : Type} [Source σ]

def Slot.decoder : Decoder σ Slot :=
  variant [("input", .input), ("output", .output), ("metadata", .metadata)]

def Target.decoder : Decoder σ Target :=
  variant [("input", .input), ("expectedOutput", .expectedOutput), ("metadata", .metadata)]

def SourceRecord.decoder : Decoder Document SourceRecord :=
  Record.decoder "SourceRecord" (SourceRecord.mk
    <$> .defaulted "input" Document.anything .null
    <*> .defaulted "output" Document.anything .null
    <*> .defaulted "metadata" Document.anything .null)

def RootMapping.decoder : Decoder Document RootMapping :=
  Record.decoder "RootMapping" (RootMapping.mk
    <$> .required "sourceField" Slot.decoder
    <*> .required "jsonPath" text)

def Entry.decoder : Decoder Document Entry :=
  Record.decoder "KeyValueEntry" (Entry.mk
    <$> .required "key" text
    <*> .required "sourceField" Slot.decoder
    <*> .defaulted "value" (option text) none)

def KeyValueMapping.decoder : Decoder Document KeyValueMapping :=
  Record.decoder "KeyValueMapping" (KeyValueMapping.mk
    <$> .defaulted "entries" (sequence Entry.decoder) [])

def Custom.tagged : Tagged := ⟨"CustomMapping", "type", ["root", "keyValueMap"]⟩

/-- A type that is not known is kept as such. -/
def Custom.decoder : Decoder Document Custom := fun d =>
  match Custom.tagged.read d with
  | .error e => .error e
  | .ok ("root", content) =>
    content.record "CustomMapping::Root" (Custom.root
      <$> .defaulted "rootConfig" (option RootMapping.decoder) none)
  | .ok ("keyValueMap", content) =>
    content.record "CustomMapping::KeyValueMap" (Custom.keyValueMap
      <$> .defaulted "keyValueMapConfig" (option KeyValueMapping.decoder) none)
  | .ok (_, content) => content.none .unknown

def FieldMapping.tagged : Tagged := ⟨"FieldMappingConfig", "mode", ["full", "none", "custom"]⟩

/-- A mode that is not known is kept as such. -/
def FieldMapping.decoder : Decoder Document FieldMapping := fun d =>
  match FieldMapping.tagged.read d with
  | .error e => .error e
  | .ok ("full", content) => content.none .full
  | .ok ("none", content) => content.none .null
  | .ok ("custom", content) =>
    content.record "FieldMappingConfig::Custom" (FieldMapping.custom
      <$> .defaulted "custom" (option Custom.decoder) none)
  | .ok (_, content) => content.none .unknown

def DatasetMapping.decoder : Decoder Document DatasetMapping :=
  Record.decoder "DatasetMappingConfig" (DatasetMapping.mk
    <$> .defaulted "input" FieldMapping.decoder .full
    <*> .defaulted "expectedOutput" FieldMapping.decoder .full
    <*> .defaulted "metadata" FieldMapping.decoder .null)

def Slot.toJson (s : Slot) : Json := .str s.name

def Target.toJson (t : Target) : Json := .str t.name

def SourceRecord.toJson (r : SourceRecord) : Json :=
  .obj [("input", r.input), ("output", r.output), ("metadata", r.metadata)]

def RootMapping.toJson (m : RootMapping) : Json :=
  .obj [("sourceField", m.slot.toJson), ("jsonPath", .str m.path)]

def Entry.toJson (e : Entry) : Json :=
  .obj (("key", .str e.key) :: ("sourceField", e.slot.toJson) ::
    Assoc.optional "value" (e.value.map .str))

def KeyValueMapping.toJson (m : KeyValueMapping) : Json :=
  .obj [("entries", .arr (m.entries.map Entry.toJson))]

def Custom.toJson : Custom → Json
  | .root detail =>
    .obj (("type", .str "root") :: Assoc.optional "rootConfig" (detail.map RootMapping.toJson))
  | .keyValueMap detail =>
    .obj (("type", .str "keyValueMap") ::
      Assoc.optional "keyValueMapConfig" (detail.map KeyValueMapping.toJson))
  | .unknown => .obj [("type", .str "unknown")]

def FieldMapping.toJson : FieldMapping → Json
  | .full => .obj [("mode", .str "full")]
  | .null => .obj [("mode", .str "none")]
  | .custom detail =>
    .obj (("mode", .str "custom") :: Assoc.optional "custom" (detail.map Custom.toJson))
  | .unknown => .obj [("mode", .str "unknown")]

def DatasetMapping.toJson (m : DatasetMapping) : Json :=
  .obj [("input", m.input.toJson), ("expectedOutput", m.expectedOutput.toJson),
    ("metadata", m.metadata.toJson)]

end BulkActions.Mapping
