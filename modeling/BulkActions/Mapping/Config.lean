import BulkActions.Json.Basic

/-! How the three fields of a dataset item are derived from the three slots of a record. -/

namespace BulkActions.Mapping

/-- A slot of a source record. -/
inductive Slot where
  | input
  | output
  | metadata
  deriving DecidableEq, Repr

def Slot.name : Slot → String
  | .input => "input"
  | .output => "output"
  | .metadata => "metadata"

/-- A field of the produced item. -/
inductive Target where
  | input
  | expectedOutput
  | metadata
  deriving DecidableEq, Repr

def Target.name : Target → String
  | .input => "input"
  | .expectedOutput => "expectedOutput"
  | .metadata => "metadata"

/-- The slot that is copied where a mapping names none. -/
def Target.defaultSlot : Target → Slot
  | .input => .input
  | .expectedOutput => .output
  | .metadata => .metadata

structure SourceRecord where
  input : Json
  output : Json
  metadata : Json
  deriving DecidableEq, Inhabited

def SourceRecord.slot (r : SourceRecord) : Slot → Json
  | .input => r.input
  | .output => r.output
  | .metadata => r.metadata

/-- One path against one slot. -/
structure RootMapping where
  slot : Slot
  path : String
  deriving DecidableEq, Repr

/-- One key of an object under construction. -/
structure Entry where
  key : String
  slot : Slot
  value : Option String
  deriving DecidableEq, Repr

/-- A value that starts with a dollar sign is a path, any other a literal text. -/
def isPath (value : String) : Bool := value.toList.head? == some '$'

structure KeyValueMapping where
  entries : List Entry
  deriving DecidableEq, Repr

inductive Custom where
  | root (detail : Option RootMapping)
  | keyValueMap (detail : Option KeyValueMapping)
  | unknown
  deriving DecidableEq, Repr

inductive FieldMapping where
  /-- A copy of the default slot. -/
  | full
  /-- Null. -/
  | null
  | custom (detail : Option Custom)
  /-- A mode that is not known counts as a copy. -/
  | unknown
  deriving DecidableEq, Repr

structure DatasetMapping where
  input : FieldMapping
  expectedOutput : FieldMapping
  metadata : FieldMapping
  deriving DecidableEq, Repr

def DatasetMapping.default : DatasetMapping := ⟨.full, .full, .null⟩

def DatasetMapping.field (m : DatasetMapping) : Target → FieldMapping
  | .input => m.input
  | .expectedOutput => m.expectedOutput
  | .metadata => m.metadata

end BulkActions.Mapping
