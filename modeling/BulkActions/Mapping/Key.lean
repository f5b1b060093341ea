import BulkActions.InPlace
import BulkActions.Json.Basic

/-! Dotted keys: each segment but the last names an object on the way down. Segments that could
reach the prototype of an object are refused before anything is written. -/

namespace BulkActions.Mapping

def splitDots : List Char → List (List Char)
  | [] => [[]]
  | c :: rest =>
    if c = '.' then [] :: splitDots rest
    else
      match splitDots rest with
      | [] => [[c]]
      | segment :: segments => (c :: segment) :: segments

def segments (key : String) : List String := (splitDots key.toList).map String.ofList

def deniedNames : List String := ["__proto__", "constructor", "prototype"]

/-- Besides the names that are always denied, a name of more than four bytes between double
underscores is. -/
def isDenied (segment : String) : Bool :=
  deniedNames.contains segment ||
    (4 < segment.utf8ByteSize && ['_', '_'].isPrefixOf segment.toList &&
      ['_', '_'].isSuffixOf segment.toList)

/-- A key refused for one of its segments. -/
structure UnsafeKey where
  key : String
  segment : String
  deriving DecidableEq, Repr

def UnsafeKey.message (e : UnsafeKey) : String :=
  s!"Refusing to write key '{e.key}': segment '{e.segment}' is not allowed"

/-- The segments of a key, or the first denied one. -/
def checkSegments (key : String) : Except UnsafeKey (List String) :=
  match (segments key).find? isDenied with
  | some segment => .error ⟨key, segment⟩
  | none => .ok (segments key)

/-- The members of an object, none for other values. -/
def membersOf : Option Json → Assoc String Json
  | some (.obj fields) => fields
  | _ => []

/-- Writes a value below the segments; what stands in the way and is no object gives way to one. -/
def setAt (value : Json) : List String → Assoc String Json → Assoc String Json
  | [], fields => fields
  | [name], fields => fields.insert name value
  | name :: rest, fields =>
    fields.insert name (.obj (setAt value rest (membersOf (fields.find? name))))

/-- Removes the value below the segments. Nothing is created on the way. -/
def unsetAt : List String → Assoc String Json → Assoc String Json
  | [], fields => fields
  | [name], fields => fields.erase name
  | name :: rest, fields =>
    match fields.find? name with
    | some (.obj inner) => fields.insert name (.obj (unsetAt rest inner))
    | _ => fields

/-- The value below the segments. -/
def lookupAt : List String → Json → Option Json
  | [], v => some v
  | name :: rest, v => (v.get? name).bind (lookupAt rest)

def setValue (key : String) (value : Json) : InPlace (Assoc String Json) UnsafeKey Unit := do
  let path ← checkSegments key
  modify (setAt value path)

def unsetValue (key : String) : InPlace (Assoc String Json) UnsafeKey Unit := do
  let path ← checkSegments key
  modify (unsetAt path)

/-- Writes a value, or removes what stands at the key where there is none. -/
def assign (key : String) : Option Json → InPlace (Assoc String Json) UnsafeKey Unit
  | some value => setValue key value
  | none => unsetValue key

end BulkActions.Mapping
