import BulkActions.Yaml.Flat

/-! The words of a document, and how those are written that name something: anchors, tags and
directives. -/

namespace BulkActions.Yaml

inductive Token where
  | documentStart
  | documentEnd
  /-- The collections in block style, which indentation opens and closes. -/
  | blockSequence
  | blockMapping
  | blockEnd
  | openSequence
  | closeSequence
  | openMapping
  | closeMapping
  | comma
  | dash
  | key
  | value
  | anchor (name : String)
  | alias (name : String)
  | tag (handle suffix : String)
  | scalar (text : List Char) (isPlain : Bool)
  | version (major minor : Nat)
  | tagHandle (handle lead : String)
  | finish
  /-- The text cannot be read beyond this point. -/
  | broken (error : ParseError)
  deriving DecidableEq, Repr

structure Placed where
  token : Token
  place : Place
  deriving DecidableEq, Repr

/-- A word, and the cursor behind it. -/
abbrev Lexing (α : Type) := Except ParseError (α × Cursor)

/-- The name of an anchor or of an alias, behind its mark. -/
def anchorName (activity : Activity) (c : Cursor) : Lexing String :=
  let (name, after) := (c.skip 1).span isNameChar
  let isDone := endsToken after.rest ||
    after.rest.head?.any ['?', ':', ',', ']', '\x7d', '%', '@', '\x60'].contains
  if name.isEmpty || !isDone then after.fail .anchorName (some (activity, c.place))
  else .ok (String.ofList name, after)

def uriMarks : List Char :=
  [';', '/', '?', ':', '@', '&', '=', '+', '$', '.', '%', '!', '~', '*', '\'', '(', ')']

def isUriChar (inBrackets : Bool) (c : Char) : Bool :=
  isNameChar c || uriMarks.contains c || (inBrackets && [',', '[', ']'].contains c)

/-- The bytes of a part of a tag, in which a percent sign stands in front of two hexadecimal
digits. The bytes so far come first. -/
def uriBytes (bytes : ByteArray) : List Char → Option ByteArray
  | [] => some bytes
  | '%' :: a :: b :: rest =>
    match hexNumber? 2 [a, b] with
    | none => none
    | some n => uriBytes (bytes.push n.toUInt8) rest
  | '%' :: _ => none
  | c :: rest => uriBytes (bytes.push c.toNat.toUInt8) rest

/-- A part of a tag, which may be empty only behind other parts. -/
def uri (inBrackets mayBeEmpty : Bool) (during : Option (Activity × Place)) (c : Cursor) :
    Lexing String :=
  let (run, after) := c.span (isUriChar inBrackets)
  if run.isEmpty && !mayBeEmpty then c.fail .tagUri during
  else
    match uriBytes ByteArray.empty run with
    | none => c.fail .tagEscape during
    | some bytes =>
      match String.fromUTF8? bytes with
      | none => c.fail .tagEscapeBytes during
      | some text => .ok (text, after)

/-- A tag without what must follow it: its handle, which may be empty, and the rest. -/
def tagParts (c : Cursor) : Lexing (String × String) :=
  let during := some (Activity.tagParts, c.place)
  match c.rest.drop 1 with
  | '<' :: _ =>
    match uri true false during (c.skip 2) with
    | .error e => .error e
    | .ok (suffix, after) =>
      if after.startsWith '>' then .ok (("", suffix), after.skip 1)
      else after.fail .tagEnd (some (.tag, c.place))
  | _ =>
    let (name, after) := (c.skip 1).span isNameChar
    let name := String.ofList name
    if after.startsWith '!' then
      (uri false false during (after.skip 1)).map fun (suffix, c) => ((s!"!{name}!", suffix), c)
    else
      (uri false true during after).map fun (suffix, c) =>
        let suffix := name ++ suffix
        (if suffix.isEmpty then ("", "!") else ("!", suffix), c)

def tag (inFlow : Bool) (c : Cursor) : Lexing Token :=
  match tagParts c with
  | .error e => .error e
  | .ok ((handle, suffix), after) =>
    if endsToken after.rest || (inFlow && after.startsWith ',') then .ok (.tag handle suffix, after)
    else after.fail .tagBlank (some (.tag, c.place))

/-- The longest number in a version, in digits. -/
def versionDigits : Nat := 9

def versionNumber (start : Place) (c : Cursor) : Lexing Nat :=
  let during := some (Activity.versionDirective, start)
  let (digits, after) := c.span Char.isDigit
  if digits.isEmpty then c.fail .versionNumber during
  else if versionDigits < digits.length then (c.skip versionDigits).fail .longVersion during
  else .ok (digits.foldl (fun value d => value * 10 + (d.toNat - '0'.toNat)) 0, after)

def versionDirective (start : Place) (c : Cursor) : Lexing Token :=
  match versionNumber start (c.skipWhile isGap) with
  | .error e => .error e
  | .ok (major, c) =>
    if !c.startsWith '.' then c.fail .versionPoint (some (.versionDirective, start))
    else (versionNumber start (c.skip 1)).map fun (minor, c) => (.version major minor, c)

/-- The handle in a directive: a mark, or a name between two of them. -/
def directiveHandle (during : Option (Activity × Place)) (c : Cursor) : Lexing String :=
  if !c.startsWith '!' then c.fail .tagMark during
  else
    let (name, after) := (c.skip 1).span isNameChar
    let name := String.ofList name
    if after.startsWith '!' then .ok (s!"!{name}!", after.skip 1)
    else if name.isEmpty then .ok ("!", after)
    else after.fail .tagMark during

def tagDirective (start : Place) (c : Cursor) : Lexing Token :=
  let during := some (Activity.tagDirective, start)
  match directiveHandle during (c.skipWhile isGap) with
  | .error e => .error e
  | .ok (handle, c) =>
    if !c.rest.head?.any isGap then c.fail .tagDirectiveEnd during
    else
      match uri true false during (c.skipWhile isGap) with
      | .error e => .error e
      | .ok (lead, c) =>
        if endsToken c.rest then .ok (.tagHandle handle lead, c) else c.fail .tagBlank during

/-- A directive from its mark to the end of its line. -/
def directive (c : Cursor) : Lexing Token :=
  let during := some (Activity.directive, c.place)
  let (name, after) := (c.skip 1).span isNameChar
  if name.isEmpty then after.fail .directiveName during
  else if !endsToken after.rest then after.fail .directiveLetters during
  else
    let found : Lexing Token := match String.ofList name with
      | "YAML" => versionDirective c.place after
      | "TAG" => tagDirective c.place after
      | _ => after.fail .unknownDirective during
    match found with
    | .error e => .error e
    | .ok (token, after) =>
      match after.finishLine? with
      | none => (after.skipWhile isGap).fail .lineEnd during
      | some next => .ok (token, next)

end BulkActions.Yaml
