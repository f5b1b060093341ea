import BulkActions.Yaml.Block
import BulkActions.Yaml.Token

/-! The words of a text in order. Indentation opens and closes the collections in block style, and a
colon makes a key of what stands in front of it. -/

namespace BulkActions.Yaml

/-- A word that may turn out to be a key: how many words stand in front of it, whether it has to be
one, and where it begins. -/
structure KeyStart where
  position : Nat
  isRequired : Bool
  place : Place
  deriving DecidableEq, Repr

/-- A key ends on its line, and no more than this many bytes behind its start. -/
def keyLimit : Nat := 1024

def KeyStart.isLost (k : KeyStart) (p : Place) : Bool :=
  k.place.line < p.line || k.place.index + keyLimit < p.index

/-- The size of a text, the words so far, last first, with their number, and what the text to come
depends on: the columns of the open block collections, innermost first; the word that may be a key
here, and those outside each of the open brackets; whether a key may begin here. -/
structure Layout where
  size : Nat
  cursor : Cursor
  words : List Placed
  count : Nat
  columns : List Nat
  keyStart : Option KeyStart
  outer : List (Option KeyStart)
  mayStartKey : Bool

abbrev Step := Except ParseError Layout

namespace Layout

def start (cs : List Char) : Layout := ⟨cs.length, ⟨cs, {}⟩, [], 0, [], none, [], true⟩

def inFlow (l : Layout) : Bool := !l.outer.isEmpty

/-- The first column behind that of the innermost block collection. -/
def floor (l : Layout) : Nat := l.columns.head?.elim 0 (· + 1)

def add (l : Layout) (token : Token) (place : Place) : Layout :=
  { l with words := ⟨token, place⟩ :: l.words, count := l.count + 1 }

/-- Adds a word of the characters at the cursor. -/
def take (l : Layout) (token : Token) (length : Nat) : Layout :=
  { l.add token l.cursor.place with cursor := l.cursor.skip length }

/-- Adds a word where so many others are in front of it. -/
def addAt (l : Layout) (position : Nat) (token : Token) (place : Place) : Layout :=
  let behind := l.count - position
  { l with
    words := l.words.take behind ++ ⟨token, place⟩ :: l.words.drop behind
    count := l.count + 1 }

/-- Opens a block collection at a column unless one is open there. -/
def openBlock (l : Layout) (token : Token) (position : Nat) (place : Place) : Layout :=
  if l.inFlow || place.column < l.floor then l
  else { l.addAt position token place with columns := place.column :: l.columns }

/-- Closes the block collections whose columns are of a kind. -/
def closeBlocks (l : Layout) (isOver : Nat → Bool) : Layout :=
  if l.inFlow then l
  else
    let closed := (l.columns.takeWhile isOver).length
    { l with
      words := List.replicate closed ⟨.blockEnd, l.cursor.place⟩ ++ l.words
      count := l.count + closed
      columns := l.columns.drop closed }

/-- What may have been a key here is none. -/
def dropKey (l : Layout) : Step :=
  match l.keyStart with
  | some ⟨_, true, place⟩ => l.cursor.fail .missingColon (some (.simpleKey, place))
  | _ => .ok { l with keyStart := none }

/-- Keys that began too far back are none. -/
def dropLostKeys (l : Layout) : Step :=
  let isLost (k : KeyStart) := k.isLost l.cursor.place
  match ((l.keyStart :: l.outer).filterMap id).find? fun k => k.isRequired && isLost k with
  | some k => l.cursor.fail .missingColon (some (.simpleKey, k.place))
  | none =>
    .ok { l with
      keyStart := l.keyStart.filter fun k => !isLost k
      outer := l.outer.map fun k => k.filter fun k => !isLost k }

/-- The next word may be a key, and has to be where the keys of the open mapping stand. -/
def markKey (l : Layout) : Step :=
  if !l.mayStartKey then .ok l
  else
    let isRequired := !l.inFlow && l.columns.head? = some l.cursor.place.column
    l.dropKey.map fun l =>
      { l with keyStart := some ⟨l.count, isRequired, l.cursor.place⟩ }

def openBracket (l : Layout) (token : Token) : Step :=
  l.markKey.map fun l =>
    { l.take token 1 with keyStart := none, outer := l.keyStart :: l.outer, mayStartKey := true }

def closeBracket (l : Layout) (token : Token) : Step :=
  l.dropKey.map fun l =>
    { l.take token 1 with
      keyStart := l.outer.head?.join
      outer := l.outer.tail
      mayStartKey := false }

def takeComma (l : Layout) : Step :=
  l.dropKey.map fun l => { l.take .comma 1 with mayStartKey := true }

/-- In brackets a dash is left to those who read the words. -/
def takeDash (l : Layout) : Step :=
  if !l.inFlow && !l.mayStartKey then l.cursor.fail .misplacedDash none
  else
    (l.openBlock .blockSequence l.count l.cursor.place).dropKey.map fun l =>
      { l.take .dash 1 with mayStartKey := true }

/-- A question mark in front of a key. -/
def takeKeyMark (l : Layout) : Step :=
  if !l.inFlow && !l.mayStartKey then l.cursor.fail .misplacedKey none
  else
    (l.openBlock .blockMapping l.count l.cursor.place).dropKey.map fun l =>
      { l.take .key 1 with mayStartKey := !l.inFlow }

/-- A colon makes a key of the word that may be one. -/
def takeColon (l : Layout) : Step :=
  match l.keyStart with
  | some k =>
    let l := (l.addAt k.position .key k.place).openBlock .blockMapping k.position k.place
    .ok { l.take .value 1 with keyStart := none, mayStartKey := false }
  | none =>
    if !l.inFlow && !l.mayStartKey then l.cursor.fail .misplacedColon none
    else
      let l := l.openBlock .blockMapping l.count l.cursor.place
      .ok { l.take .value 1 with mayStartKey := !l.inFlow }

/-- Adds a word that may be a key. -/
def takeWord (l : Layout) (word : Layout → Lexing Token) : Step :=
  match l.markKey with
  | .error e => .error e
  | .ok l =>
    (word l).map fun (token, next) =>
      { l.add token l.cursor.place with cursor := next, mayStartKey := false }

def takeFlat (l : Layout) (scalar : Layout → Except ParseError Flat) : Step :=
  match l.markKey with
  | .error e => .error e
  | .ok l =>
    (scalar l).map fun f =>
      { l.add (.scalar f.text f.isPlain) l.cursor.place with
        cursor := f.next, mayStartKey := f.isBroken }

def takeBlock (l : Layout) : Step :=
  match l.dropKey with
  | .error e => .error e
  | .ok l =>
    (block l.size l.floor l.cursor).map fun (text, next) =>
      { l.add (.scalar text false) l.cursor.place with cursor := next, mayStartKey := true }

/-- A word that stands outside of every collection. -/
def takeOutside (l : Layout) (word : Cursor → Lexing Token) : Step :=
  match (l.closeBlocks fun _ => true).dropKey with
  | .error e => .error e
  | .ok l =>
    (word l.cursor).map fun (token, next) =>
      { l.add token l.cursor.place with cursor := next, mayStartKey := false }

/-- The end of a text counts as the start of a line. -/
def finish (l : Layout) : Step :=
  let p := l.cursor.place
  let l :=
    if p.column = 0 then l else { l with cursor := ⟨[], ⟨p.index, p.line + 1, 0⟩⟩ }
  l.takeOutside fun c => .ok (.finish, c)

/-- Adds the word at the cursor, where blanks are passed over. -/
def word (l : Layout) : Step :=
  let c := l.cursor
  let outside (token : Token) := l.takeOutside fun c => .ok (token, c.skip 3)
  match c.rest with
  | [] => l.finish
  | first :: rest =>
    if c.place.column = 0 && first = '%' then l.takeOutside directive
    else if c.isMark '-' then outside .documentStart
    else if c.isMark '.' then outside .documentEnd
    else if first = '[' then l.openBracket .openSequence
    else if first = '\x7b' then l.openBracket .openMapping
    else if first = ']' then l.closeBracket .closeSequence
    else if first = '\x7d' then l.closeBracket .closeMapping
    else if first = ',' then l.takeComma
    else if first = '-' && endsToken rest then l.takeDash
    else if first = '?' && (l.inFlow || endsToken rest) then l.takeKeyMark
    else if first = ':' && (l.inFlow || endsToken rest) then l.takeColon
    else if first = '*' then
      l.takeWord fun l => (anchorName .alias l.cursor).map fun (name, c) => (.alias name, c)
    else if first = '&' then
      l.takeWord fun l => (anchorName .anchor l.cursor).map fun (name, c) => (.anchor name, c)
    else if first = '!' then l.takeWord fun l => tag l.inFlow l.cursor
    else if (first = '|' || first = '>') && !l.inFlow then l.takeBlock
    else if first = '\'' || first = '"' then l.takeFlat fun l => quoted l.size l.cursor
    else if startsPlain l.inFlow c.rest then
      l.takeFlat fun l => plain l.size l.inFlow l.floor l.cursor
    else c.fail .unexpectedCharacter (some (.nextToken, c.place))

/-- Goes to the next word and adds it. What indentation ends is closed in front of it. -/
def next (l : Layout) : Step :=
  let (c, mayStartKey) := l.cursor.toToken l.inFlow l.mayStartKey
  match { l with cursor := c, mayStartKey := mayStartKey }.dropLostKeys with
  | .error e => .error e
  | .ok l => (l.closeBlocks fun column => c.place.column < column).word

def isFinished (l : Layout) : Bool :=
  match l.words with
  | ⟨.finish, _⟩ :: _ => true
  | _ => false

/-- The words that can no longer turn out to be keys, nor follow one that can. -/
def settled (l : Layout) : List Placed :=
  let positions := ((l.keyStart :: l.outer).filterMap id).map (·.position)
  l.words.drop (l.count - positions.foldl min l.count)

/-- All words, last first. Where the text cannot be read on, the last one says so in the place of
the first word that is not settled. -/
def wordsFrom : Nat → Layout → List Placed
  | 0, l => l.words
  | fuel + 1, l =>
    match l.next with
    | .error e => ⟨.broken e, e.place⟩ :: l.settled
    | .ok l => if l.isFinished then l.words else wordsFrom fuel l

end Layout

def isAllowed (c : Char) : Bool :=
  let n := c.toNat
  n == 9 || n == 10 || n == 13 || (0x20 ≤ n && n ≤ 0x7E) || n == 0x85 ||
    (0xA0 ≤ n && n ≤ 0xFFFD) || 0x10000 ≤ n

/-- The words of a text. A character that no document may hold is found before everything else. -/
def words (cs : List Char) : List Placed :=
  match cs.span isAllowed with
  | (_, []) => (Layout.wordsFrom (cs.length + 1) (.start cs)).reverse
  | (read, _) =>
    let fault := Fault.controlCharacter (String.ofList read).utf8ByteSize
    [⟨.broken ⟨fault, {}, none⟩, {}⟩]

end BulkActions.Yaml
