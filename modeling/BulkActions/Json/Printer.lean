import BulkActions.Decimal.Shortest
import BulkActions.Json.Basic

/-! The written form of a value, compact on one line or indented by two spaces a level. -/

namespace BulkActions

/-- Where a double changes from positional to scientific notation, by the place of its first
digit: positional from `0.00001` up to below `1e16`. -/
structure DoubleNotation where
  leastPlace : Int
  greatestPlace : Int

namespace Json

def doubles : DoubleNotation := ⟨-4, 16⟩

end Json

namespace Decimal

private def zeros (count : Nat) : List Char := List.replicate count '0'

/-- Positional text with at least one digit on each side of the point, where `place` digits stand
before the point. -/
def positional (digits : List Char) (place : Int) : List Char :=
  if place ≤ 0 then '0' :: '.' :: zeros (-place).toNat ++ digits
  else
    let before := place.toNat
    if digits.length ≤ before then digits ++ zeros (before - digits.length) ++ ['.', '0']
    else digits.take before ++ '.' :: digits.drop before

/-- Scientific text; the exponent carries its sign. -/
def scientific (digits : List Char) (place : Int) : List Char :=
  let exponent := place - 1
  let mark := if exponent < 0 then ['e', '-'] else ['e', '+']
  let point := if digits.length ≤ 1 then digits else digits.take 1 ++ '.' :: digits.drop 1
  point ++ mark ++ Nat.toDigits 10 exponent.natAbs

end Decimal

namespace Number

def intChars (value : Int) : List Char :=
  if value < 0 then '-' :: Nat.toDigits 10 value.natAbs else Nat.toDigits 10 value.natAbs

/-- A double is written by its shortest digits. Only finite doubles are values. -/
def floatChars (value : Float) : List Char :=
  let bits := value.toBits
  if Decimal.isFinite bits then
    let d := Decimal.shortest bits
    let digits := Nat.toDigits 10 d.digits
    let place : Int := if d.digits = 0 then 1 else digits.length + d.exponent
    let text :=
      if Json.doubles.leastPlace ≤ place ∧ place ≤ Json.doubles.greatestPlace then
        Decimal.positional digits place
      else Decimal.scientific digits place
    if Decimal.isNegative bits then '-' :: text else text
  else ['n', 'u', 'l', 'l']

def chars : Number → List Char
  | .int value => intChars value
  | .float value => floatChars value

def text (n : Number) : String := String.ofList n.chars

end Number

namespace Json

def hexDigit (n : Nat) : Char := Nat.digitChar (n % 16)

/-- Short escapes where they exist, six characters for the other controls, all else raw. -/
def escapeChar (c : Char) : List Char :=
  if c = '"' then ['\\', '"']
  else if c = '\\' then ['\\', '\\']
  else if c = '\n' then ['\\', 'n']
  else if c = '\r' then ['\\', 'r']
  else if c = '\t' then ['\\', 't']
  else if c = '\x08' then ['\\', 'b']
  else if c = '\x0c' then ['\\', 'f']
  else if c.toNat < 32 then ['\\', 'u', '0', '0', hexDigit (c.toNat / 16), hexDigit c.toNat]
  else [c]

def escape (cs : List Char) : List Char := cs.flatMap escapeChar

def quoted (text : String) : List Char := '"' :: escape text.toList ++ ['"']

mutual

/-- The one-line form without blanks. -/
def compactChars : Json → List Char
  | .null => ['n', 'u', 'l', 'l']
  | .bool true => ['t', 'r', 'u', 'e']
  | .bool false => ['f', 'a', 'l', 's', 'e']
  | .num n => n.chars
  | .str s => quoted s
  | .arr [] => ['[', ']']
  | .arr (item :: rest) => '[' :: compactChars item ++ compactItems rest
  | .obj [] => ['{', '}']
  | .obj ((name, value) :: rest) =>
    '{' :: quoted name ++ ':' :: compactChars value ++ compactFields rest

/-- The items after the first, with the closing bracket. -/
def compactItems : List Json → List Char
  | [] => [']']
  | item :: rest => ',' :: compactChars item ++ compactItems rest

/-- The members after the first, with the closing brace. -/
def compactFields : List (String × Json) → List Char
  | [] => ['}']
  | (name, value) :: rest => ',' :: quoted name ++ ':' :: compactChars value ++ compactFields rest

end

def compact (v : Json) : String := String.ofList v.compactChars

private def indent (depth : Nat) : List Char := '\n' :: List.replicate (2 * depth) ' '

mutual

def prettyChars (depth : Nat) : Json → List Char
  | .null => ['n', 'u', 'l', 'l']
  | .bool true => ['t', 'r', 'u', 'e']
  | .bool false => ['f', 'a', 'l', 's', 'e']
  | .num n => n.chars
  | .str s => quoted s
  | .arr [] => ['[', ']']
  | .arr (item :: rest) =>
    '[' :: indent (depth + 1) ++ prettyChars (depth + 1) item ++ prettyItems depth rest
  | .obj [] => ['{', '}']
  | .obj ((name, value) :: rest) =>
    '{' :: indent (depth + 1) ++ quoted name ++ ':' :: ' ' :: prettyChars (depth + 1) value ++
      prettyFields depth rest

def prettyItems (depth : Nat) : List Json → List Char
  | [] => indent depth ++ [']']
  | item :: rest =>
    ',' :: indent (depth + 1) ++ prettyChars (depth + 1) item ++ prettyItems depth rest

def prettyFields (depth : Nat) : List (String × Json) → List Char
  | [] => indent depth ++ ['}']
  | (name, value) :: rest =>
    ',' :: indent (depth + 1) ++ quoted name ++ ':' :: ' ' :: prettyChars (depth + 1) value ++
      prettyFields depth rest

end

def pretty (v : Json) : String := String.ofList (v.prettyChars 0)

end Json

end BulkActions
