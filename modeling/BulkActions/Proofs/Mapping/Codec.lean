import BulkActions.Mapping.Codec
import BulkActions.Proofs.Decode.Record

/-! Mappings and their written form. A mapping is read back as itself: a detail that is absent stays
absent, a mode or type that is not known stays unknown, and the entries keep their order. -/

namespace BulkActions.Mapping

open Decode

theorem reads_slot (s : Slot) : Reads Slot.decoder s.toJson s := by
  intro aside
  cases s <;> rfl

/-- The members of the path of a root mapping. -/
def RootMapping.members (m : RootMapping) : Assoc String Json :=
  [("sourceField", m.slot.toJson), ("jsonPath", .str m.path)]

theorem reads_rootMapping (m : RootMapping) : Reads RootMapping.decoder m.toJson m := by
  have distinct : m.members.keys.Nodup := by simp [RootMapping.members, Assoc.keys]
  have slot : (Record.required "sourceField" Slot.decoder).Accepts m.members m.slot :=
    .required distinct rfl (reads_slot m.slot)
  have path : (Record.required "jsonPath" text).Accepts m.members m.path :=
    .required distinct rfl (reads_text m.path)
  exact ((slot.map RootMapping.mk).seq path).reads distinct "RootMapping"

namespace Entry

/-- The members an entry is written as. -/
def members (e : Entry) : Assoc String Json :=
  ("key", .str e.key) :: ("sourceField", e.slot.toJson) ::
    Assoc.optional "value" (e.value.map .str)

theorem nodup_keys_members (e : Entry) : e.members.keys.Nodup := by
  obtain ⟨key, slot, value⟩ := e
  cases value <;> simp [members, Assoc.keys, Assoc.optional]

/-- An absent value is not written, and an empty one is. -/
theorem find?_value_members (e : Entry) : e.members.find? "value" = e.value.map .str := by
  obtain ⟨key, slot, value⟩ := e
  cases value <;> rfl

end Entry

theorem reads_entry (e : Entry) : Reads Entry.decoder e.toJson e := by
  have distinct := e.nodup_keys_members
  have key : (Record.required "key" text).Accepts e.members e.key :=
    .required distinct rfl (reads_text e.key)
  have slot : (Record.required "sourceField" Slot.decoder).Accepts e.members e.slot :=
    .required distinct rfl (reads_slot e.slot)
  have value : (Record.defaulted "value" (option text) none).Accepts e.members e.value := by
    refine .defaulted distinct ?_ ?_
    · intro v found
      obtain ⟨s, held, rfl⟩ := Option.map_eq_some_iff.mp (e.find?_value_members.symm.trans found)
      rw [held]
      exact (reads_text s).option (by simp)
    · intro absent
      exact (Option.map_eq_none_iff.mp (e.find?_value_members.symm.trans absent)).symm
  exact (((key.map Entry.mk).seq slot).seq value).reads distinct "KeyValueEntry"

theorem reads_keyValueMapping (m : KeyValueMapping) : Reads KeyValueMapping.decoder m.toJson m := by
  have distinct : (Assoc.keys [("entries", Json.arr (m.entries.map Entry.toJson))]).Nodup := by
    simp [Assoc.keys]
  have entries : (Record.defaulted "entries" (sequence Entry.decoder) []).Accepts
      [("entries", .arr (m.entries.map Entry.toJson))] m.entries :=
    .given distinct rfl (reads_sequence reads_entry m.entries) []
  exact (entries.map KeyValueMapping.mk).reads distinct "KeyValueMapping"

theorem nodup_keys_optional (name : String) (detail : Option Json) :
    (Assoc.optional name detail).keys.Nodup := by
  cases detail <;> simp [Assoc.optional, Assoc.keys]

theorem not_mem_keys_optional {tag name : String} (differs : tag ≠ name) (detail : Option Json) :
    tag ∉ (Assoc.optional name detail).keys := by
  cases detail <;> simp [Assoc.optional, Assoc.keys, differs]

theorem reads_custom (c : Custom) : Reads Custom.decoder c.toJson c := by
  intro aside
  cases c with
  | root detail =>
    have accepts : (Record.defaulted "rootConfig" (option RootMapping.decoder) none).Accepts
        (Assoc.optional "rootConfig" (detail.map RootMapping.toJson)) detail :=
      .detail reads_rootMapping (fun _ => by simp [RootMapping.toJson]) detail
    have tagged : Custom.tagged.read ⟨(Custom.root detail).toJson, aside⟩ = .ok ("root", .named _) :=
      Custom.tagged.read_cons "root" (not_mem_keys_optional (by decide) _) aside
    rw [Custom.decoder, tagged]
    exact (accepts.map Custom.root).ofMembers (nodup_keys_optional _ _) true
  | keyValueMap detail =>
    have accepts : (Record.defaulted "keyValueMapConfig" (option KeyValueMapping.decoder) none).Accepts
        (Assoc.optional "keyValueMapConfig" (detail.map KeyValueMapping.toJson)) detail :=
      .detail reads_keyValueMapping (fun _ => by simp [KeyValueMapping.toJson]) detail
    have tagged : Custom.tagged.read ⟨(Custom.keyValueMap detail).toJson, aside⟩ =
        .ok ("keyValueMap", .named _) :=
      Custom.tagged.read_cons "keyValueMap" (not_mem_keys_optional (by decide) _) aside
    rw [Custom.decoder, tagged]
    exact (accepts.map Custom.keyValueMap).ofMembers (nodup_keys_optional _ _) true
  | unknown => rfl

theorem toJson_custom_ne_null (c : Custom) : c.toJson ≠ .null := by
  cases c <;> simp [Custom.toJson]

theorem reads_fieldMapping (m : FieldMapping) : Reads FieldMapping.decoder m.toJson m := by
  intro aside
  cases m with
  | custom detail =>
    have accepts : (Record.defaulted "custom" (option Custom.decoder) none).Accepts
        (Assoc.optional "custom" (detail.map Custom.toJson)) detail :=
      .detail reads_custom toJson_custom_ne_null detail
    have tagged : FieldMapping.tagged.read ⟨(FieldMapping.custom detail).toJson, aside⟩ =
        .ok ("custom", .named _) :=
      FieldMapping.tagged.read_cons "custom" (not_mem_keys_optional (by decide) _) aside
    rw [FieldMapping.decoder, tagged]
    exact (accepts.map FieldMapping.custom).ofMembers (nodup_keys_optional _ _) true
  | full => rfl
  | null => rfl
  | unknown => rfl

/-- The members of the three fields. -/
def DatasetMapping.members (m : DatasetMapping) : Assoc String Json :=
  [("input", m.input.toJson), ("expectedOutput", m.expectedOutput.toJson),
    ("metadata", m.metadata.toJson)]

theorem reads_datasetMapping (m : DatasetMapping) : Reads DatasetMapping.decoder m.toJson m := by
  have distinct : m.members.keys.Nodup := by simp [DatasetMapping.members, Assoc.keys]
  have field {name : String} {f : FieldMapping} (found : m.members.find? name = some f.toJson)
      (default : FieldMapping) :
      (Record.defaulted name FieldMapping.decoder default).Accepts m.members f :=
    .given distinct found (reads_fieldMapping f) default
  have input : (Record.defaulted "input" FieldMapping.decoder .full).Accepts m.members m.input :=
    field rfl .full
  have output : (Record.defaulted "expectedOutput" FieldMapping.decoder .full).Accepts m.members
      m.expectedOutput := field rfl .full
  have metadata : (Record.defaulted "metadata" FieldMapping.decoder .null).Accepts m.members
      m.metadata := field rfl .null
  exact (((input.map DatasetMapping.mk).seq output).seq metadata).reads distinct
    "DatasetMappingConfig"

end BulkActions.Mapping
