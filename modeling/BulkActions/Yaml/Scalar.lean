import BulkActions.Decimal.Binary
import BulkActions.Decimal.Literal
import BulkActions.Yaml.Basic

/-! What a plain scalar stands for. Quoted scalars are texts and never come here. -/

namespace BulkActions.Yaml

def digitValue (c : Char) : Nat :=
  if c.isDigit then c.toNat - '0'.toNat
  else if 'a' ≤ c && c ≤ 'z' then c.toNat - 'a'.toNat + 10
  else if 'A' ≤ c && c ≤ 'Z' then c.toNat - 'A'.toNat + 10
  else 36

/-- A natural number in a base up to thirty-six. -/
def inBase (base : Nat) (cs : List Char) : Option Nat :=
  if !cs.isEmpty && cs.all (digitValue · < base) then
    some (cs.foldl (fun value c => value * base + digitValue c) 0)
  else none

/-- A natural number, whose base may be marked. -/
def marked? : List Char → Option Nat
  | '0' :: 'x' :: rest => inBase 16 rest
  | '0' :: 'o' :: rest => inBase 8 rest
  | '0' :: 'b' :: rest => inBase 2 rest
  | cs => inBase 10 cs

def unsigned : List Char → List Char
  | '+' :: rest => rest
  | '-' :: rest => rest
  | cs => cs

/-- Digits after a leading zero are a text. -/
def isPadded (cs : List Char) : Bool :=
  match unsigned cs with
  | '0' :: rest => !rest.isEmpty && rest.all Char.isDigit
  | _ => false

def integer? (cs : List Char) : Option Int :=
  if isPadded cs then none
  else
    match cs with
    | '+' :: rest => (marked? rest).map Int.ofNat
    | '-' :: rest => (marked? rest).map fun n => -(n : Int)
    | _ => (marked? cs).map Int.ofNat

/-- A finite double, or one of the words for the others. -/
def double? (cs : List Char) : Option Float :=
  let positive := match cs with
    | '+' :: rest => rest
    | _ => cs
  if [".inf", ".Inf", ".INF"].contains (String.ofList positive) then some (1.0 / 0.0)
  else if ["-.inf", "-.Inf", "-.INF"].contains (String.ofList cs) then some (-1.0 / 0.0)
  else if [".nan", ".NaN", ".NAN"].contains (String.ofList cs) then some (0.0 / 0.0)
  else if isPadded cs then none
  else
    match cs with
    | '+' :: '+' :: _ | '+' :: '-' :: _ => none
    | _ => (Decimal.double? cs).filter fun x => Decimal.isFinite x.toBits

def nullWords : List String := ["", "~", "null", "Null", "NULL"]

def truthWords : List (String × Bool) :=
  [("true", true), ("True", true), ("TRUE", true), ("false", false), ("False", false),
    ("FALSE", false)]

def isNullWord (cs : List Char) : Bool := nullWords.contains (String.ofList cs)

/-- An integer of up to two words. -/
def wideInteger? (cs : List Char) : Option Int :=
  (integer? cs).filter fun n => -Int.pow 2 127 ≤ n && n < Int.pow 2 128

/-- Integers fit in a word, with or without a sign. A longer one is refused. -/
def integerScalar (n : Int) : Except String Scalar :=
  if -Int.pow 2 63 ≤ n ∧ n < Int.pow 2 64 then .ok (.number (.int n))
  else
    let width := if n < 0 then "i128" else "u128"
    .error s!"invalid type: integer `{n}` as {width}, expected any YAML value"

/-- What a plain scalar stands for. Integers beyond two words are doubles or texts. -/
def resolve (cs : List Char) : Except String Scalar :=
  let word := String.ofList cs
  if isNullWord cs then .ok .null
  else
    match truthWords.lookup word with
    | some b => .ok (.truth b)
    | none =>
      match wideInteger? cs, double? cs with
      | some n, _ => integerScalar n
      | none, some x => .ok (.number (.float x))
      | none, none => .ok (.text word)

end BulkActions.Yaml
