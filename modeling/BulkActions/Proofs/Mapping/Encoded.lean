import BulkActions.Mapping.Apply
import BulkActions.Proofs.Json.ReadBack
import BulkActions.Proofs.Path.Selected

/-! Slots that hold their value as text. A path goes into the value behind the text, so that a mapping
made of paths cannot tell the two apart: not by what it finds, and not by what it reports. -/

namespace BulkActions.Mapping

/-- The value itself or, of a value that is no text, its compact text. -/
def Encodes (v written : Json) : Prop :=
  written = v ∨ (∀ text, v ≠ .str text) ∧ v.Plain ∧ written = .str v.compact

/-- Some slots of the record may hold the text of their value. -/
def SourceRecord.Encodes (record written : SourceRecord) : Prop :=
  ∀ slot, Mapping.Encodes (record.slot slot) (written.slot slot)

/-- The field is made of paths and literal texts alone. -/
def FieldMapping.isDetailed : FieldMapping → Bool
  | .custom (some (.root (some _))) => true
  | .custom (some (.keyValueMap (some _))) => true
  | _ => false

def DatasetMapping.isDetailed (m : DatasetMapping) : Bool :=
  m.input.isDetailed && m.expectedOutput.isDetailed && m.metadata.isDetailed

theorem DatasetMapping.isDetailed_field {m : DatasetMapping} (detailed : m.isDetailed = true)
    (target : Target) : (m.field target).isDetailed = true := by
  simp only [isDetailed, Bool.and_eq_true] at detailed
  obtain ⟨⟨input, output⟩, metadata⟩ := detailed
  cases target
  · exact input
  · exact output
  · exact metadata

theorem documentOf_encodes {v written : Json} (encodes : Encodes v written) :
    Path.documentOf written = Path.documentOf v := by
  rcases encodes with rfl | ⟨noText, plain, rfl⟩
  · rfl
  · have own : Path.documentOf v = v := by
      cases v with
      | str text => exact absurd rfl (noText text)
      | _ => rfl
    rw [own, Path.documentOf, plain.parse?_compact, Option.getD_some]

section Records

variable [Path.Evaluator] {record written : SourceRecord}

theorem resolvePath_encodes (encodes : record.Encodes written) :
    resolvePath written = resolvePath record := by
  funext slot path key
  simp only [resolvePath, Path.Evaluator.answer, documentOf_encodes (encodes slot)]

theorem entryValue_encodes (encodes : record.Encodes written) :
    entryValue written = entryValue record := by
  funext e value
  simp only [entryValue, resolvePath_encodes encodes]

theorem applyEntries_encodes (encodes : record.Encodes written) (object : Assoc String Json)
    (entries : List Entry) :
    applyEntries written object entries = applyEntries record object entries := by
  have same := entryValue_encodes encodes
  induction entries generalizing object with
  | nil => rfl
  | cons e rest ih => simp only [applyEntries, same, ih]

theorem applyField_encodes (encodes : record.Encodes written) {mapping : FieldMapping}
    (detailed : mapping.isDetailed = true) (default : Slot) :
    applyField written mapping default = applyField record mapping default := by
  unfold FieldMapping.isDetailed at detailed
  split at detailed
  · simp only [applyField, applyRoot, resolvePath_encodes encodes]
  · simp only [applyField, applyKeyValueMap, applyEntries_encodes encodes]
  · cases detailed

/-- A mapping made of paths gives the same values and reports the same errors for a record and for
one whose slots hold the texts of their values. -/
theorem encoded_slots_map_alike {mapping : DatasetMapping} (detailed : mapping.isDetailed = true)
    (encodes : record.Encodes written) : apply written mapping = apply record mapping := by
  have same (target : Target) : applyTarget written mapping target =
      applyTarget record mapping target :=
    applyField_encodes encodes (DatasetMapping.isDetailed_field detailed target) _
  simp only [apply, same]

end Records

/-- Quotes, a control character, names beyond ASCII, both ends of the integers, and a slot that is a
text already. -/
def nestedRecord : SourceRecord where
  input := .obj [("z", .arr [.int (-9223372036854775808), .nat 18446744073709551615, .bool false]),
    ("a\"\\b", .obj [("ä", .str "\x01/\n😀"), ("", .null)])]
  output := .arr [.obj [], .arr [], .int 0]
  metadata := .str "[1"

def writtenRecord : SourceRecord where
  input := .str ("\x7b\"z\":[-9223372036854775808,18446744073709551615,false]," ++
    "\"a\\\"\\\\b\":\x7b\"ä\":\"\\u0001/\\n😀\",\"\":null\x7d\x7d")
  output := .str "[\x7b\x7d,[],0]"
  metadata := .str "[1"

/-- A match, a miss and a path that is no expression in each way of mapping. -/
def pathsMapping : DatasetMapping where
  input := .custom (some (.root (some ⟨.input, "$.*"⟩)))
  expectedOutput := .custom (some (.keyValueMap (some ⟨[⟨"k", .output, some "$[9]"⟩,
    ⟨"n", .input, some "$.z[1]"⟩, ⟨"l", .metadata, some "lit"⟩, ⟨"m", .metadata, some "$"⟩]⟩)))
  metadata := .custom (some (.keyValueMap (some ⟨[⟨"v", .output, some "$[2]"⟩,
    ⟨"x", .output, some "$["⟩]⟩)))

theorem encoded_slots_map_alike_nested :
    pathsMapping.isDetailed = true ∧ nestedRecord.Encodes writtenRecord ∧
    writtenRecord ≠ nestedRecord ∧
    apply writtenRecord pathsMapping = apply nestedRecord pathsMapping ∧
    (apply nestedRecord pathsMapping).expectedOutput =
      some (.obj [("n", .nat 18446744073709551615), ("l", .str "lit"), ("m", .str "[1")]) ∧
    (apply nestedRecord pathsMapping).errors.map (fun e => (e.kind, e.target, e.key)) =
      [(.miss, .expectedOutput, some "k"), (.failure, .metadata, some "x")] := by
  have encodes : nestedRecord.Encodes writtenRecord := by
    intro slot
    cases slot with
    | input => exact .inr ⟨nofun, ⟨by decide, by decide, by decide⟩, by decide⟩
    | output => exact .inr ⟨nofun, ⟨by decide, by decide, by decide⟩, by decide⟩
    | metadata => exact .inl rfl
  exact ⟨rfl, encodes, by decide, encoded_slots_map_alike rfl encodes, by decide +kernel,
    by decide +kernel⟩

end BulkActions.Mapping
