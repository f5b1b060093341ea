import BulkActions.Decode.Record
import BulkActions.Json.Printer
import BulkActions.Yaml.Basic

/-! Configuration documents as a source of records. Null stands for a record without members, a
sequence for none. -/

namespace BulkActions.Yaml

open Decode

/-- A double in positional notation, whatever its size. -/
def doubleText (x : Float) : String :=
  let bits := x.toBits
  if Decimal.isFinite bits then
    let d := Decimal.shortest bits
    let digits := Nat.toDigits 10 d.digits
    let place : Int := if d.digits = 0 then 1 else digits.length + d.exponent
    let text := Decimal.positional digits place
    String.ofList (if Decimal.isNegative bits then '-' :: text else text)
  else if x.isNaN then "NaN"
  else if Decimal.isNegative bits then "-inf"
  else "inf"

def found : Yaml → Found
  | .scalar .null => .unit
  | .scalar (.truth b) => .truth b
  | .scalar (.number (.int n)) => .integer n
  | .scalar (.number (.float x)) => .double (doubleText x)
  | .scalar (.text s) => .text s
  | .sequence _ => .sequence
  | .mapping _ => .map
  | .tagged _ v => found v

def keyOf (v : Yaml) : Key :=
  match v.untagged with
  | .scalar (.text s) => .name s
  | v => .other v.found

/-- A mark of the document's own says nothing here. -/
def shape : Yaml → Shape Yaml
  | .scalar .null => .null
  | .scalar (.truth b) => .truth b
  | .scalar (.number (.int n)) => .integer n
  | .scalar (.number (.float _)) => .double
  | .scalar (.text s) => .text s
  | .sequence items => .sequence items
  | .mapping entries => .map (entries.map fun (key, v) => (keyOf key, v))
  | .tagged _ v => shape v

def rules : Rules where
  nullRecord := true
  positional := false
  surplus _ := ""
  numberedVariants := false
  emptyContent := false

instance : Source Yaml := ⟨shape, found, fun _ => rules⟩

end BulkActions.Yaml
