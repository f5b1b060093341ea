import BulkActions.Decode.Error

/-! Values that records are read from, seen through one shape. Kinds of values differ in a few
rules, which each value states for itself. -/

namespace BulkActions.Decode

/-- The name of a member; a key of another kind only has a description. -/
inductive Key where
  | name (text : String)
  | other (found : Found)
  deriving DecidableEq

inductive Shape (σ : Type) where
  | null
  | truth (value : Bool)
  | integer (value : Int)
  | double
  | text (value : String)
  | sequence (items : List σ)
  | map (members : List (Key × σ))

structure Rules where
  /-- Null stands for a record without members. -/
  nullRecord : Bool
  /-- A sequence stands for a record by the order of the fields. -/
  positional : Bool
  /-- What a sequence with items left over should have been, by the number of fields. -/
  surplus : Nat → String
  /-- A variant may be named by its position. -/
  numberedVariants : Bool
  /-- A map without members counts as null where a variant has no content. -/
  emptyContent : Bool

class Source (σ : Type) where
  shape : σ → Shape σ
  found : σ → Found
  rules : σ → Rules

abbrev Decoder (σ α : Type) := σ → Except Error α

variable {σ α : Type} [Source σ]

def wrongType (v : σ) (expected : String) : Except Error α :=
  .error (.wrongType (Source.found v) expected)

def text : Decoder σ String := fun v =>
  match Source.shape v with
  | .text s => .ok s
  | _ => wrongType v "a string"

def truth : Decoder σ Bool := fun v =>
  match Source.shape v with
  | .truth b => .ok b
  | _ => wrongType v "a boolean"

/-- A natural number below `2 ^ bits`. -/
def unsigned (bits : Nat) (name : String) : Decoder σ Nat := fun v =>
  match Source.shape v with
  | .integer n =>
    if 0 ≤ n ∧ n < Int.pow 2 bits then .ok n.toNat else .error (.wrongValue (Source.found v) name)
  | _ => wrongType v name

def count64 : Decoder σ Nat := unsigned 64 "u64"

def count32 : Decoder σ Nat := unsigned 32 "u32"

def size : Decoder σ Nat := unsigned 64 "usize"

/-- Null is nothing. -/
def option (read : Decoder σ α) : Decoder σ (Option α) := fun v =>
  match Source.shape v with
  | .null => .ok none
  | _ => (read v).map some

/-- Every item by the same reader, in order. -/
def each (read : Decoder σ α) : List σ → Except Error (List α)
  | [] => .ok []
  | v :: rest =>
    match read v with
    | .error e => .error e
    | .ok a => (each read rest).map (a :: ·)

def sequence (read : Decoder σ α) : Decoder σ (List α) := fun v =>
  match Source.shape v with
  | .sequence items => each read items
  | _ => wrongType v "a sequence"

/-- One of a few names, alone or as the only name of a map without content. -/
def variant (known : List (String × α)) : Decoder σ α := fun v =>
  let named (name : String) : Except Error α :=
    match known.lookup name with
    | some a => .ok a
    | none => .error (.unknownVariant name (known.map Prod.fst))
  match Source.shape v with
  | .text name => named name
  | .map [(key, content)] =>
    match key with
    | .other found => .error (.wrongType found "variant identifier")
    | .name name =>
      match named name with
      | .error e => .error e
      | .ok a =>
        match Source.shape content, (Source.rules content).emptyContent with
        | .null, _ => .ok a
        | .map [], true => .ok a
        | _, _ => wrongType content "unit"
  | .map _ => .error (.wrongValue .map "map with a single key")
  | _ => wrongType v "string or map"

end BulkActions.Decode
