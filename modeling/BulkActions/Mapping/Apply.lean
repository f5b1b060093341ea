import BulkActions.Journal.Entry
import BulkActions.Mapping.Key
import BulkActions.Mapping.Report

/-! Mapping a record. A path without a match is reported and leaves its value absent, which is not
the same as null; a path that is no expression ends its own field and no other. -/

namespace BulkActions.Mapping

/-- What one field comes to, with the reports made on the way in order. -/
structure Resolution where
  outcome : Except Failure (Option Json)
  misses : List Miss
  refused : List UnsafeKey

def Resolution.value (v : Json) : Resolution := ⟨.ok (some v), [], []⟩

variable [Path.Evaluator]

/-- The value at a path, absent where nothing matches. -/
def resolvePath (record : SourceRecord) (slot : Slot) (path : String) (key : Option String) :
    Except Failure (Option Json) :=
  match Path.Evaluator.answer (record.slot slot) path with
  | .ok found => .ok found.toOption
  | .error e => .error ⟨slot, path, key, e⟩

def applyRoot (record : SourceRecord) (m : RootMapping) : Resolution :=
  match resolvePath record m.slot m.path none with
  | .error failure => ⟨.error failure, [], []⟩
  | .ok (some v) => .value v
  | .ok none => ⟨.ok none, [⟨m.slot, m.path, none⟩], []⟩

/-- What an entry with this value writes: nothing where its path has no match. -/
def entryValue (record : SourceRecord) (e : Entry) (value : String) :
    Except Failure (Option Json) :=
  if isPath value then resolvePath record e.slot value (some e.key) else .ok (some (.str value))

/-- The journal hears of an entry that was passed over for its key. -/
def UnsafeKey.entry (e : UnsafeKey) : Journal.Entry where
  level := .warn
  origin := .mapping
  message := "Skipping unsafe key-value mapping entry"
  fields := [("key", .shown e.key), ("error", .shown e.message)]

/-- The object the entries build, with the reports made on the way in order. -/
structure Building where
  outcome : Except Failure (Assoc String Json)
  misses : List Miss
  refused : List UnsafeKey

/-- Entries apply in order. An entry without a value is skipped; an entry with an unsafe key is
evaluated, and refused only then. -/
def applyEntries (record : SourceRecord) : Assoc String Json → List Entry → Building
  | object, [] => ⟨.ok object, [], []⟩
  | object, e :: rest =>
    match e.value with
    | none => applyEntries record object rest
    | some value =>
      match entryValue record e value with
      | .error failure => ⟨.error failure, [], []⟩
      | .ok resolved =>
        let missed := if resolved.isNone then [⟨e.slot, value, some e.key⟩] else []
        match (assign e.key resolved).on object with
        | (object, .ok ()) =>
          let later := applyEntries record object rest
          { later with misses := missed ++ later.misses }
        | (object, .error refusal) =>
          let later := applyEntries record object rest
          { later with misses := missed ++ later.misses, refused := refusal :: later.refused }

def applyKeyValueMap (record : SourceRecord) (m : KeyValueMapping) : Resolution :=
  let built := applyEntries record [] m.entries
  ⟨built.outcome.map fun object => some (.obj object), built.misses, built.refused⟩

/-- One field. A custom mapping without its detail copies the default slot. -/
def applyField (record : SourceRecord) (mapping : FieldMapping) (default : Slot) : Resolution :=
  match mapping with
  | .null => .value .null
  | .custom (some (.root (some m))) => applyRoot record m
  | .custom (some (.keyValueMap (some m))) => applyKeyValueMap record m
  | .full | .unknown | .custom _ => .value (record.slot default)

/-- The value of a target, absent where its field failed. -/
def Resolution.toOption (r : Resolution) : Option Json :=
  match r.outcome with
  | .ok v => v
  | .error _ => none

/-- The misses in order, then the failure that ended the field. -/
def Resolution.errors (target : Target) (r : Resolution) : List MappingError :=
  r.misses.map (.ofMiss target) ++
    match r.outcome with
    | .ok _ => []
    | .error failure => [.ofFailure target failure]

/-- The three fields of a mapped record. -/
structure MappedFields where
  input : Option Json
  expectedOutput : Option Json
  metadata : Option Json
  errors : List MappingError
  refused : List UnsafeKey

def MappedFields.value (m : MappedFields) : Target → Option Json
  | .input => m.input
  | .expectedOutput => m.expectedOutput
  | .metadata => m.metadata

def applyTarget (record : SourceRecord) (mapping : DatasetMapping) (target : Target) :
    Resolution :=
  applyField record (mapping.field target) target.defaultSlot

def apply (record : SourceRecord) (mapping : DatasetMapping) : MappedFields :=
  let input := applyTarget record mapping .input
  let expectedOutput := applyTarget record mapping .expectedOutput
  let metadata := applyTarget record mapping .metadata
  { input := input.toOption
    expectedOutput := expectedOutput.toOption
    metadata := metadata.toOption
    errors := input.errors .input ++ expectedOutput.errors .expectedOutput ++
      metadata.errors .metadata
    refused := input.refused ++ expectedOutput.refused ++ metadata.refused }

end BulkActions.Mapping
