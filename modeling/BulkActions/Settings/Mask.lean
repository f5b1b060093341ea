import BulkActions.Json.Basic
import BulkActions.Text.Lowercase

/-! Documents fit to be shown: the values of sensitive keys are masked at every depth. A placeholder
holds no secret and stays. -/

namespace BulkActions.Settings

def sensitiveWords : List String := ["password", "secret", "key", "token", "credential", "url"]

/-- The word stands somewhere in the text. -/
def occursIn (word : List Char) : List Char → Bool
  | [] => word.isEmpty
  | c :: rest => word.isPrefixOf (c :: rest) || occursIn word rest

/-- A key that contains one of the sensitive words in any case. -/
def isSensitive (key : String) : Bool :=
  let lower := (Text.lowercase key).toList
  sensitiveWords.any fun word => occursIn word.toList lower

/-- A text that begins like a reference to a variable. -/
def beginsPlaceholder (text : String) : Bool := ['$', '{'].isPrefixOf text.toList

/-- What is shown in place of a sensitive value. -/
def hide : Json → Json
  | .null => .null
  | .str s =>
    if s.isEmpty then .str "[EMPTY]"
    else if beginsPlaceholder s then .str s
    else .str "[MASKED]"
  | _ => .str "[MASKED]"

mutual

def mask : Json → Json
  | .arr items => .arr (maskItems items)
  | .obj fields => .obj (maskFields fields)
  | v => v

def maskItems : List Json → List Json
  | [] => []
  | item :: rest => mask item :: maskItems rest

/-- Below a sensitive key nothing else is looked at. -/
def maskFields : List (String × Json) → List (String × Json)
  | [] => []
  | (key, value) :: rest =>
    (key, if isSensitive key then hide value else mask value) :: maskFields rest

end

end BulkActions.Settings
