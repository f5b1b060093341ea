import BulkActions.Mapping.Apply
import BulkActions.Path.Evaluate

/-! The crash of the evaluator while a record is mapped. Nothing catches it: the record has neither
fields nor reports then. A field tries its paths in order, up to the first that is no expression. -/

namespace BulkActions.Mapping

/-- A path that a field names, and the slot it is tried on. The key is that of its entry, if it has
one. -/
structure Probe where
  slot : Slot
  path : String
  key : Option String

def Probe.isExpression (p : Probe) : Bool := (Path.expression? p.path).isOk

def Probe.crashes (record : SourceRecord) (p : Probe) : Bool :=
  Path.crashes (record.slot p.slot) p.path

/-- The path of an entry. A literal text has none, and neither has an entry without a value. -/
def Entry.probe? (e : Entry) : Option Probe :=
  match e.value with
  | some value => if isPath value then some ⟨e.slot, value, some e.key⟩ else none
  | none => none

def Entry.crashes (record : SourceRecord) (e : Entry) : Bool :=
  e.probe?.any (Probe.crashes record)

namespace FieldMapping

/-- The paths of a field in order. A field that copies its slot or is null has none. -/
def probes : FieldMapping → List Probe
  | .custom (some (.root (some m))) => [⟨m.slot, m.path, none⟩]
  | .custom (some (.keyValueMap (some m))) => m.entries.filterMap Entry.probe?
  | _ => []

/-- The paths in front of the first that is no expression. -/
def asked (mapping : FieldMapping) : List Probe := mapping.probes.takeWhile Probe.isExpression

def crashes (mapping : FieldMapping) (record : SourceRecord) : Bool :=
  mapping.asked.any (Probe.crashes record)

/-- What the field gets through: of entries those in front of the first crash. -/
def untilCrash (mapping : FieldMapping) (record : SourceRecord) : FieldMapping :=
  match mapping with
  | .custom (some (.keyValueMap (some m))) =>
    .custom (some (.keyValueMap (some ⟨m.entries.takeWhile fun e => !e.crashes record⟩)))
  | mapping => if mapping.crashes record then .null else mapping

end FieldMapping

namespace DatasetMapping

def crashes (mapping : DatasetMapping) (record : SourceRecord) : Bool :=
  mapping.input.crashes record || mapping.expectedOutput.crashes record ||
    mapping.metadata.crashes record

/-- What the mapping gets through: nothing of the fields behind a crash. -/
def untilCrash (mapping : DatasetMapping) (record : SourceRecord) : DatasetMapping where
  input := mapping.input.untilCrash record
  expectedOutput :=
    if mapping.input.crashes record then .null else mapping.expectedOutput.untilCrash record
  metadata :=
    if mapping.input.crashes record || mapping.expectedOutput.crashes record then .null
    else mapping.metadata.untilCrash record

end DatasetMapping

/-- The mapped record, unless mapping it crashes. -/
def attempt? [Path.Evaluator] (record : SourceRecord) (mapping : DatasetMapping) :
    Option MappedFields :=
  if mapping.crashes record then none else some (apply record mapping)

end BulkActions.Mapping
