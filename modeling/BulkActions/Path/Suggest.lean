import BulkActions.Json.Basic

/-! The paths a sample document could be addressed by. An array is described by its first item. -/

namespace BulkActions.Path

def isNameStart (c : Char) : Bool := c.isAlpha || c == '_'

def isNamePart (c : Char) : Bool := c.isAlphanum || c == '_'

def isName (cs : List Char) : Bool :=
  match cs with
  | [] => false
  | c :: rest => isNameStart c && rest.all isNamePart

/-- The step to a member. A quoted name ends at the next quote of its kind, so a name with quotes
of both kinds, or one that ends in a backslash, has no step. -/
def memberStep? (name : String) : Option String :=
  let cs := name.toList
  if isName cs then some ("." ++ name)
  else if cs.getLast? = some '\\' then none
  else if !cs.contains '\'' then some ("['" ++ name ++ "']")
  else if !cs.contains '"' then some ("[\"" ++ name ++ "\"]")
  else none

mutual

/-- The paths below a value that is itself addressed by `base`. -/
def suggest (base : String) : Json → List String
  | .arr items => (base ++ "[0]") :: (base ++ "[*]") :: suggestFirst (base ++ "[0]") items
  | .obj fields => suggestFields base fields
  | _ => []

def suggestFirst (base : String) : List Json → List String
  | [] => []
  | first :: _ => suggest base first

def suggestFields (base : String) : List (String × Json) → List String
  | [] => []
  | (name, v) :: rest =>
    match memberStep? name with
    | none => suggestFields base rest
    | some step => (base ++ step) :: suggest (base ++ step) v ++ suggestFields base rest

end

end BulkActions.Path
