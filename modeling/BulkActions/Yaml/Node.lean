import BulkActions.Decode.Error
import BulkActions.Json.Printer
import BulkActions.Yaml.Basic
import BulkActions.Yaml.Layout
import BulkActions.Yaml.Scalar

/-! Values of words: every reader starts at the word that opens its value and ends behind it. -/

namespace BulkActions.Yaml

/-- A value under a name, with the number of values that names stand for inside it. -/
structure Anchored where
  value : Yaml
  jumps : Nat

/-- The words to come, what the document has named so far, and how much it holds. A name without a
value is that of a value not yet read to its end. -/
structure Reader where
  words : List Placed
  handles : List (String × String) := [("!", "!"), ("!!", "tag:yaml.org,2002:")]
  anchors : List (String × Option Anchored) := []
  events : Nat := 0
  jumps : Nat := 0

abbrev Reading := StateT Reader (Except ParseError)

/-- A value, and the text of it where it is a scalar. -/
structure Node where
  value : Yaml
  word : Option String := none

def emptyNode : Node := ⟨null, some ""⟩

/-- The next word. There is one until the last. -/
def peek : Reading Placed := do
  match (← get).words with
  | word :: _ => return word
  | [] => return ⟨.finish, {}⟩

def advance : Reading Unit := modify fun r => { r with words := r.words.tail }

/-- Counts what stands in the document: scalars and names once, collections twice. -/
def count (events : Nat) : Reading Unit := modify fun r => { r with events := r.events + events }

/-- Refuses the next word, or says why the text ends there. -/
def refuse {α : Type} (fault : Fault) (during : Option (Activity × Place)) : Reading α := do
  let word ← peek
  match word.token with
  | .broken e => throw e
  | _ => throw ⟨fault, word.place, during⟩

def nothing : Reading Node := do
  count 1
  return emptyNode

/-- Names the tag of a value in full. -/
def fullTag (start place : Place) (handle suffix : String) : Reading String := do
  if handle.isEmpty then return suffix
  else
    match (← get).handles.lookup handle with
    | some lead => return lead ++ suffix
    | none => throw ⟨.undefinedTag, place, some (.node, start)⟩

def anchor? : Reading (Option String) := do
  match (← peek).token with
  | .anchor name =>
    advance
    return some name
  | _ => return none

def tag? (start : Place) : Reading (Option String) := do
  let word ← peek
  match word.token with
  | .tag handle suffix =>
    advance
    return some (← fullTag start word.place handle suffix)
  | _ => return none

/-- An anchor and a tag in either order. -/
def properties (start : Place) : Reading (Option String × Option String) := do
  match ← anchor? with
  | some name => return (some name, ← tag? start)
  | none =>
    let tag ← tag? start
    return (← anchor?, tag)

/-- What the tags of the language make of a scalar: nothing for a tag of another kind, an error text
for a scalar that is not of the kind. -/
def coreScalar? (tag : String) (cs : List Char) : Option (Except String Scalar) :=
  let checked (value : Option Scalar) (expected : String) : Except String Scalar :=
    match value with
    | some v => .ok v
    | none => .error (Decode.Error.wrongValue (.text (String.ofList cs)) expected).message
  match tag with
  | "tag:yaml.org,2002:bool" =>
    some (checked ((truthWords.lookup (String.ofList cs)).map .truth) "a boolean")
  | "tag:yaml.org,2002:int" =>
    match wideInteger? cs with
    | none => some (checked none "an integer")
    | some n => some (integerScalar n)
  | "tag:yaml.org,2002:float" =>
    some (checked ((double? cs).map fun x => .number (.float x)) "a float")
  | "tag:yaml.org,2002:null" =>
    some (checked (if !cs.isEmpty && isNullWord cs then some .null else none) "null")
  | _ => none

/-- The name of a tag of the document's own. -/
def ownTag? (tag : String) : Option String :=
  match tag.toList with
  | '!' :: c :: rest => some (String.ofList (c :: rest))
  | ['!'] => some "!"
  | _ => none

/-- What a scalar stands for. Tags of other kinds make a text of it. -/
def scalarValue (tag : Option String) (cs : List Char) (isPlain : Bool) : Except String Yaml :=
  let untagged : Except String Yaml :=
    if isPlain then (resolve cs).map .scalar else .ok (text (String.ofList cs))
  match tag with
  | none | some "!" => untagged
  | some tag =>
    match coreScalar? tag cs, ownTag? tag with
    | some found, _ => found.map .scalar
    | none, some name => untagged.map (.tagged name)
    | none, none => .ok (text (String.ofList cs))

def scalarNode (route : Route) (place : Place) (tag : Option String) (cs : List Char)
    (isPlain : Bool) : Reading Node := do
  count 1
  match scalarValue tag cs isPlain with
  | .ok v => return ⟨v, some (String.ofList cs)⟩
  | .error reason => throw ⟨.wrongValue route reason, place, none⟩

/-- The value an alias stands for. -/
def aliasNode (place : Place) (name : String) : Reading Node := do
  count 1
  match (← get).anchors.lookup name with
  | none => throw ⟨.unknownAnchor, place, none⟩
  | some none => throw ⟨.tooDeep, place, none⟩
  | some (some a) =>
    modify fun r => { r with jumps := r.jumps + a.jumps + 1 }
    return ⟨a.value, none⟩

/-- Reads a value under a name. -/
def anchored (name : Option String) (read : Reading Node) : Reading Node := do
  match name with
  | none => read
  | some name =>
    modify fun r => { r with anchors := (name, none) :: r.anchors }
    let jumps := (← get).jumps
    let node ← read
    modify fun r =>
      { r with anchors := (name, some ⟨node.value, r.jumps - jumps⟩) :: r.anchors }
    return node

/-- A collection under a tag of the document's own. -/
def withTag (tag : Option String) (v : Yaml) : Yaml :=
  match tag.bind ownTag? with
  | some name => .tagged name v
  | none => v

/-- A key as messages show it. -/
def keyText : Yaml → String
  | .scalar .null => "with null key"
  | .scalar (.truth b) => s!"with key `{b}`"
  | .scalar (.number n) => "with key " ++ String.ofList n.chars
  | .scalar (.text s) => "with key " ++ Text.quote s
  | _ => "in YAML map"

/-- Refuses a key that an earlier entry has. -/
def checkKey (route : Route) (start : Place) (entries : Entries) (key : Yaml) : Reading Unit := do
  if (Entries.find? entries key).isSome then
    throw ⟨.duplicateKey route (keyText key), start, none⟩

/-- Where a value stands, and how deeply collections may nest there. -/
structure Site where
  route : Route
  room : Nat

namespace Site

def item (s : Site) (index : Nat) : Site := { s with route := .item s.route index }

/-- The site of the value of a key. -/
def under (s : Site) (key : Node) : Site :=
  match key.word with
  | some word => { s with route := .entry s.route word }
  | none => { s with route := .unnamed s.route }

/-- Opens a collection. -/
def enter {α : Type} (s : Site) (place : Place) (read : Site → Reading α) : Reading α := do
  match s.room with
  | 0 => throw ⟨.tooDeep, place, none⟩
  | room + 1 =>
    count 2
    read { s with room := room }

end Site

/-- Words that end an entry of a block mapping. -/
def Token.endsEntry : Token → Bool
  | .key | .value | .blockEnd => true
  | _ => false

/-- Words that end an item of a block sequence. -/
def Token.endsItem : Token → Bool
  | .dash | .blockEnd => true
  | _ => false

/-- Words that end an item among those of a block mapping. -/
def Token.endsLooseItem (t : Token) : Bool := t.endsItem || t.endsEntry

/-- Words that end an item in brackets. -/
def Token.endsFlow (t close : Token) : Bool := t = .comma || t = close

mutual

/-- A value. In a block it may be a block collection, and below a key the items of one may stand in
the column of the key. -/
def node (inBlock isLoose : Bool) (site : Site) : Nat → Reading Node
  | 0 => refuse .tooDeep none
  | fuel + 1 => do
    let start ← peek
    match start.token with
    | .alias name =>
      advance
      aliasNode start.place name
    | _ =>
      let (name, tag) ← properties start.place
      anchored name
        (content inBlock isLoose site start.place (name.isSome || tag.isSome) tag fuel)

/-- A value behind its anchor and its tag. -/
def content (inBlock isLoose : Bool) (site : Site) (start : Place) (isMarked : Bool)
    (tag : Option String) : Nat → Reading Node
  | 0 => refuse .tooDeep none
  | fuel + 1 => do
    let word ← peek
    let collection (read : Site → Reading Yaml) : Reading Node :=
      site.enter start fun site => return ⟨withTag tag (← read site), none⟩
    match word.token, inBlock, isLoose with
    | .dash, _, true => collection fun site => looseItems site 0 [] fuel
    | .scalar cs isPlain, _, _ =>
      advance
      scalarNode site.route start tag cs isPlain
    | .openSequence, _, _ =>
      advance
      collection fun site => flowItems site word.place true 0 [] fuel
    | .openMapping, _, _ =>
      advance
      collection fun site => flowEntries site start word.place true [] fuel
    | .blockSequence, true, _ =>
      advance
      collection fun site => blockItems site word.place 0 [] fuel
    | .blockMapping, true, _ =>
      advance
      collection fun site => blockEntries site start word.place [] fuel
    | _, _, _ =>
      if isMarked then scalarNode site.route start tag [] true
      else refuse .missingContent (some (if inBlock then .blockNode else .flowNode, start))

/-- The items of a block sequence. Those read come last first, with their number. -/
def blockItems (site : Site) (start : Place) (index : Nat) (items : List Yaml) : Nat → Reading Yaml
  | 0 => refuse .tooDeep none
  | fuel + 1 => do
    match (← peek).token with
    | .dash =>
      advance
      let item ← if (← peek).token.endsItem then nothing
        else node true false (site.item index) fuel
      blockItems site start (index + 1) (item.value :: items) fuel
    | .blockEnd =>
      advance
      return .sequence items.reverse
    | _ => refuse .missingDash (some (.blockSequence, start))

/-- Items in the column of the key above them. -/
def looseItems (site : Site) (index : Nat) (items : List Yaml) : Nat → Reading Yaml
  | 0 => refuse .tooDeep none
  | fuel + 1 => do
    match (← peek).token with
    | .dash =>
      advance
      let item ← if (← peek).token.endsLooseItem then nothing
        else node true false (site.item index) fuel
      looseItems site (index + 1) (item.value :: items) fuel
    | _ => return .sequence items.reverse

/-- The entries of a block mapping. Those read come last first. -/
def blockEntries (site : Site) (place start : Place) (entries : Entries) : Nat → Reading Yaml
  | 0 => refuse .tooDeep none
  | fuel + 1 => do
    match (← peek).token with
    | .key =>
      advance
      let key ← if (← peek).token.endsEntry then nothing else node true true site fuel
      checkKey site.route place entries key.value
      let value ← match (← peek).token with
        | .value =>
          advance
          if (← peek).token.endsEntry then nothing else node true true (site.under key) fuel
        | _ => nothing
      blockEntries site place start ((key.value, value.value) :: entries) fuel
    | .blockEnd =>
      advance
      return .mapping entries.reverse
    | _ => refuse .missingKey (some (.blockMapping, start))

/-- What stands behind a colon in brackets. -/
def flowValue (site : Site) (close : Token) : Nat → Reading Node
  | 0 => refuse .tooDeep none
  | fuel + 1 => do
    match (← peek).token with
    | .value =>
      advance
      if (← peek).token.endsFlow close then nothing else node false false site fuel
    | _ => nothing

/-- A single pair among items, which is a mapping of its own. Where a question mark has nothing
behind it, the word that follows is passed over. -/
def flowPair (site : Site) : Nat → Reading Yaml
  | 0 => refuse .tooDeep none
  | fuel + 1 => do
    let word := (← peek).token
    let key ← if word = .value || word.endsFlow .closeSequence then
        advance
        nothing
      else node false false site fuel
    let value ← flowValue (site.under key) .closeSequence fuel
    return .mapping [(key.value, value.value)]

/-- The items between brackets. -/
def flowItems (site : Site) (start : Place) (isFirst : Bool) (index : Nat) (items : List Yaml) :
    Nat → Reading Yaml
  | 0 => refuse .tooDeep none
  | fuel + 1 => do
    if (← peek).token ≠ .closeSequence && !isFirst then
      match (← peek).token with
      | .comma => advance
      | _ => refuse (.missingComma ']') (some (.flowSequence, start))
    let word ← peek
    match word.token with
    | .closeSequence =>
      advance
      return .sequence items.reverse
    | .key =>
      advance
      let pair ← (site.item index).enter word.place fun site => flowPair site fuel
      flowItems site start false (index + 1) (pair :: items) fuel
    | _ =>
      let item ← node false false (site.item index) fuel
      flowItems site start false (index + 1) (item.value :: items) fuel

/-- The entries between braces. A key may stand alone. -/
def flowEntries (site : Site) (place start : Place) (isFirst : Bool) (entries : Entries) :
    Nat → Reading Yaml
  | 0 => refuse .tooDeep none
  | fuel + 1 => do
    if (← peek).token ≠ .closeMapping && !isFirst then
      match (← peek).token with
      | .comma => advance
      | _ => refuse (.missingComma '\x7d') (some (.flowMapping, start))
    match (← peek).token with
    | .closeMapping =>
      advance
      return .mapping entries.reverse
    | .key =>
      advance
      let word := (← peek).token
      let key ← if word = .value || word.endsFlow .closeMapping then nothing
        else node false false site fuel
      checkKey site.route place entries key.value
      let value ← flowValue (site.under key) .closeMapping fuel
      flowEntries site place start false ((key.value, value.value) :: entries) fuel
    | _ =>
      let key ← node false false site fuel
      checkKey site.route place entries key.value
      let value ← nothing
      flowEntries site place start false ((key.value, value.value) :: entries) fuel

end

end BulkActions.Yaml
