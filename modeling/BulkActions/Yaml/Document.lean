import BulkActions.Yaml.Node

/-! The document of a text. There is one at most, and a text without any stands for null. -/

namespace BulkActions.Yaml

/-- Collections nest no deeper than this. -/
def nestingLimit : Nat := 128

/-- Directives in front of a document: whether a version was given, and the handles so far. -/
def directives (hasVersion : Bool) (handles : List (String × String)) : Nat → Reading Unit
  | 0 => return
  | fuel + 1 => do
    let word ← peek
    match word.token with
    | .version major minor =>
      if hasVersion then throw ⟨.secondVersion, word.place, none⟩
      else if major ≠ 1 || (minor ≠ 1 && minor ≠ 2) then throw ⟨.version, word.place, none⟩
      else
        advance
        directives true handles fuel
    | .tagHandle handle lead =>
      if (handles.lookup handle).isSome then throw ⟨.secondTagDirective, word.place, none⟩
      else
        advance
        directives hasVersion ((handle, lead) :: handles) fuel
    | _ => modify fun r => { r with handles := handles ++ r.handles }

/-- Words behind a start mark that show that the document is empty. -/
def Token.endsDocument : Token → Bool
  | .version _ _ | .tagHandle _ _ | .documentStart | .documentEnd | .finish => true
  | _ => false

/-- A document with a start mark, where directives may stand in front of the mark. -/
def markedDocument (fuel : Nat) : Reading Yaml := do
  directives false [] fuel
  match (← peek).token with
  | .documentStart =>
    advance
    let v ← if (← peek).token.endsDocument then nothing
      else node true false ⟨.root, nestingLimit⟩ fuel
    return v.value
  | _ => refuse .missingDocument none

/-- The first document and its end mark. -/
def firstDocument (fuel : Nat) : Reading Yaml := do
  match (← peek).token with
  | .finish => return null
  | .version _ _ | .tagHandle _ _ | .documentStart => endOf (markedDocument fuel)
  | _ => endOf ((node true false ⟨.root, nestingLimit⟩ fuel).map (·.value))
where
  endOf (read : Reading Yaml) : Reading Yaml := do
    let v ← read
    match (← peek).token with
    | .documentEnd => advance
    | .broken e => throw e
    | _ => return v
    return v

/-- Names stand for no more values than this, for each event of a document. -/
def jumpLimit : Nat := 100

/-- Nothing but end marks may follow a document. -/
def parseWords (words : List Placed) : Except ParseError Yaml :=
  match (firstDocument (4 * words.length + 4)).run { words := words } with
  | .error e => .error e
  | .ok (v, r) =>
    if r.events * jumpLimit < r.jumps then .error ⟨.tooManyAliases, {}, none⟩
    else if nestingLimit < v.nesting then .error ⟨.tooDeep, {}, none⟩
    else
      match r.words.dropWhile fun word => word.token = .documentEnd with
      | ⟨.finish, _⟩ :: _ => .ok v
      | _ => .error ⟨.secondDocument, {}, none⟩

def parse (source : String) : Except ParseError Yaml := parseWords (words source.toList)

end BulkActions.Yaml
