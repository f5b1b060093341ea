import BulkActions.Decode.Record
import BulkActions.Json.Printer

/-! Documents as a source of records. What stands inside a tagged choice was set aside before it
was read, and follows slightly different rules. -/

namespace BulkActions.Decode

structure Document where
  value : Json
  setAside : Bool
  deriving DecidableEq

namespace Document

def ofJson (v : Json) : Document := ⟨v, false⟩

def shape (d : Document) : Shape Document :=
  match d.value with
  | .null => .null
  | .bool b => .truth b
  | .num (.int n) => .integer n
  | .num (.float _) => .double
  | .str s => .text s
  | .arr items => .sequence (items.map fun v => ⟨v, d.setAside⟩)
  | .obj fields => .map (fields.map fun (name, v) => (.name name, ⟨v, d.setAside⟩))

def found (d : Document) : Found :=
  match d.value with
  | .null => .null
  | .bool b => .truth b
  | .num (.int n) => .integer n
  | .num (.float x) => .double (Number.float x).text
  | .str s => .text s
  | .arr _ => .sequence
  | .obj _ => .map

def rules (d : Document) : Rules where
  nullRecord := false
  positional := true
  surplus count :=
    if d.setAside then s!"{elements count} in sequence" else "fewer elements in array"
  numberedVariants := d.setAside
  emptyContent := d.setAside

instance : Source Document := ⟨shape, found, rules⟩

/-- The value itself. -/
def anything : Decoder Document Json := fun d => .ok d.value

end Document

/-- Reads a document value. -/
def fromJson {α : Type} (read : Decoder Document α) (v : Json) : Except Error α :=
  read (.ofJson v)

/-- A choice by the text of a tag, which is a member of a map or the first item of a sequence. The
tag's position among the known ones stands for it where the rules allow it. -/
structure Tagged where
  name : String
  tag : String
  known : List String

/-- The tag of a choice and the members or items beside it, set aside. -/
inductive Content where
  | named (members : List (Key × Document))
  | positional (items : List Document)

namespace Tagged

def readTag (t : Tagged) (d : Document) : Except Error String :=
  match d.value with
  | .str s => .ok s
  | .num (.int n) =>
    if d.rules.numberedVariants ∧ 0 ≤ n then .ok ((t.known[n.toNat]?).getD "")
    else wrongType d "variant identifier"
  | _ => wrongType d "variant identifier"

def read (t : Tagged) (d : Document) : Except Error (String × Content) :=
  match d.value with
  | .obj fields =>
    match Assoc.find? fields t.tag with
    | none => .error (.missingField t.tag)
    | some v =>
      (t.readTag ⟨v, d.setAside⟩).map fun tag =>
        (tag, .named ((fields.filter fun member => member.1 ≠ t.tag).map fun (name, v) =>
          (.name name, ⟨v, true⟩)))
  | .arr [] => .error (.missingField t.tag)
  | .arr (v :: rest) =>
    (t.readTag ⟨v, d.setAside⟩).map fun tag => (tag, .positional (rest.map fun v => ⟨v, true⟩))
  | _ => wrongType d s!"internally tagged enum {t.name}"

end Tagged

/-- A choice without fields takes any members and no items. -/
def Content.none {α : Type} (value : α) : Content → Except Error α
  | .named _ => .ok value
  | .positional [] => .ok value
  | .positional rest => .error (.wrongLength rest.length s!"{elements 0} in sequence")

/-- The fields of a choice. -/
def Content.record {α : Type} (name : String) (r : Record Document α) : Content → Except Error α
  | .named members => r.ofMembers members
  | .positional items =>
    let count := r.fields.length
    r.ofItems s!"struct variant {name} with {elements count}" s!"{elements count} in sequence" items

end BulkActions.Decode
