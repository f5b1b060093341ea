import BulkActions.Mapping.Codec
import BulkActions.Path.Answer

/-! What went wrong while mapping: a path without a match, or a path that is no expression. -/

namespace BulkActions.Mapping

open Decode

/-- A path that matched nothing; the key is that of its entry, if it has one. -/
structure Miss where
  slot : Slot
  path : String
  key : Option String
  deriving DecidableEq, Repr

/-- A path that is no expression. -/
structure Failure where
  slot : Slot
  path : String
  key : Option String
  error : Path.Error
  deriving DecidableEq, Repr

inductive ErrorKind where
  | miss
  | failure
  deriving DecidableEq, Repr

def ErrorKind.name : ErrorKind → String
  | .miss => "json_path_miss"
  | .failure => "json_path_error"

/-- What went wrong with one field of a record. -/
structure MappingError where
  kind : ErrorKind
  target : Target
  slot : Slot
  path : String
  key : Option String
  message : String
  deriving DecidableEq, Repr

def MappingError.ofMiss (target : Target) (m : Miss) : MappingError where
  kind := .miss
  target := target
  slot := m.slot
  path := m.path
  key := m.key
  message :=
    let subject :=
      match m.key with
      | some key => s!"JSONPath '{m.path}' for key '{key}'"
      | none => s!"JSONPath '{m.path}'"
    s!"{subject} did not match any data in {m.slot.name} (target: {target.name})"

def MappingError.ofFailure (target : Target) (f : Failure) : MappingError where
  kind := .failure
  target := target
  slot := f.slot
  path := f.path
  key := f.key
  message := s!"Failed to evaluate mapping for {target.name}: {f.error.message}"

def ErrorKind.decoder : Decoder Document ErrorKind :=
  variant [(ErrorKind.miss.name, .miss), (ErrorKind.failure.name, .failure)]

def MappingError.decoder : Decoder Document MappingError :=
  Record.decoder "MappingError" (MappingError.mk
    <$> .required "type" ErrorKind.decoder
    <*> .required "targetField" Target.decoder
    <*> .required "sourceField" Slot.decoder
    <*> .required "jsonPath" text
    <*> .optional "mappingKey" (option text)
    <*> .required "message" text)

def MappingError.toJson (e : MappingError) : Json :=
  .obj [("type", .str e.kind.name), ("targetField", e.target.toJson),
    ("sourceField", e.slot.toJson), ("jsonPath", .str e.path),
    ("mappingKey", Json.orNull .str e.key), ("message", .str e.message)]

end BulkActions.Mapping
