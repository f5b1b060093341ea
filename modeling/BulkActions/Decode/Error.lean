import BulkActions.Text.Quoted

/-! Why a value is refused by the type it is read as. -/

namespace BulkActions.Decode

/-- What was found where something else was expected. -/
inductive Found where
  | null
  | unit
  | truth (value : Bool)
  | integer (value : Int)
  | double (digits : String)
  | text (value : String)
  | sequence
  | map
  deriving DecidableEq, Repr

def Found.describe : Found → String
  | .null => "null"
  | .unit => "unit value"
  | .truth true => "boolean `true`"
  | .truth false => "boolean `false`"
  | .integer value => s!"integer `{value}`"
  | .double digits => s!"floating point `{digits}`"
  | .text value => "string " ++ Text.quote value
  | .sequence => "sequence"
  | .map => "map"

inductive Error where
  | missingField (name : String)
  | duplicateField (name : String)
  | wrongType (found : Found) (expected : String)
  | wrongValue (found : Found) (expected : String)
  | wrongLength (length : Nat) (expected : String)
  | unknownVariant (name : String) (known : List String)
  | malformed (reason : String)
  deriving DecidableEq, Repr

/-- Two names are joined by a word, more are listed. -/
def listNames : List String → String
  | [] => ""
  | [a] => s!"`{a}`"
  | [a, b] => s!"`{a}` or `{b}`"
  | many => "one of " ++ ", ".intercalate (many.map fun name => s!"`{name}`")

def Error.message : Error → String
  | .missingField name => s!"missing field `{name}`"
  | .duplicateField name => s!"duplicate field `{name}`"
  | .wrongType found expected => s!"invalid type: {found.describe}, expected {expected}"
  | .wrongValue found expected => s!"invalid value: {found.describe}, expected {expected}"
  | .wrongLength length expected => s!"invalid length {length}, expected {expected}"
  | .unknownVariant name known => s!"unknown variant `{name}`, expected {listNames known}"
  | .malformed reason => reason

/-- A number of elements in words. -/
def elements (count : Nat) : String :=
  if count = 1 then "1 element" else s!"{count} elements"

end BulkActions.Decode
