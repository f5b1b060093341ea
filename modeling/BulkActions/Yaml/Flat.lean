import BulkActions.Yaml.Cursor

/-! Scalars that run through lines without minding their layout: plain, in single quotes, in double
quotes. A line break inside one is folded. -/

namespace BulkActions.Yaml

/-- Marks that may not begin a plain scalar. -/
def indicators : List Char :=
  ['-', '?', ':', ',', '[', ']', '\x7b', '\x7d', '#', '&', '*', '!', '|', '>', '\'', '"', '%', '@',
    '\x60']

def flowMarks : List Char := [',', '[', ']', '\x7b', '\x7d']

/-- A dash, a question mark or a colon may begin a plain scalar if something follows it, the last
two outside brackets only. -/
def startsPlain (inFlow : Bool) : List Char → Bool
  | [] => false
  | c :: rest =>
    if isBreak c || isGap c then false
    else if !indicators.contains c then true
    else if c = '-' then !endsToken rest
    else !inFlow && (c = '?' || c = ':') && !endsToken rest

/-- In brackets a colon right before a mark ends nothing. -/
def isLooseColon : List Char → Bool
  | ':' :: c :: _ => flowMarks.contains c || c = '?'
  | _ => false

/-- The length of a plain scalar up to a blank, a value mark or a bracket, counted on from a
length. -/
def plainLength (inFlow : Bool) : Nat → List Char → Nat
  | length, [] => length
  | length, c :: rest =>
    if isGap c || isBreak c || (c = ':' && endsToken rest) ||
      (inFlow && (flowMarks.contains c || isLooseColon (c :: rest))) then length
    else plainLength inFlow (length + 1) rest

/-- A scalar as text, and the cursor behind it. A plain scalar ends behind the blanks that follow
it, and a line may have ended among them. -/
structure Flat where
  text : List Char
  isPlain : Bool
  next : Cursor
  isBroken : Bool

/-- The rest of a plain scalar behind a gap. It goes on with the next line if that is indented far
enough. What was read comes last first. -/
def plainFrom (inFlow : Bool) (floor : Nat) (start : Place) :
    Nat → List Char → Gap → Except ParseError Flat
  | 0, read, g => .ok ⟨read.reverse, true, g.next, g.isBroken⟩
  | fuel + 1, read, g =>
    let c := g.next
    let length := plainLength inFlow 0 c.rest
    let after := c.skip length
    if c.isDocumentMark || c.startsWith '#' then .ok ⟨read.reverse, true, c, g.isBroken⟩
    else if inFlow && isLooseColon after.rest then
      after.fail .looseColon (some (.plainScalar, start))
    else if length = 0 then .ok ⟨read.reverse, true, c, g.isBroken⟩
    else
      let read := (c.rest.take length).reverse ++ g.folded.reverse ++ read
      match Gap.read floor after with
      | .error place => .error ⟨.tab, place, some (.plainScalar, start)⟩
      | .ok g =>
        if !inFlow && g.next.place.column < floor then .ok ⟨read.reverse, true, g.next, g.isBroken⟩
        else plainFrom inFlow floor start fuel read g

/-- A plain scalar in a text of a size. -/
def plain (size : Nat) (inFlow : Bool) (floor : Nat) (c : Cursor) : Except ParseError Flat :=
  plainFrom inFlow floor c.place size [] (.none c)

/-- The blanks inside quotes, of which all stay unless a line breaks among them. -/
def quotedGap (c : Cursor) : Gap :=
  match Gap.read 0 c with
  | .error _ => .none c
  | .ok g => g

/-- Where quotes may not go on. -/
def quotedEnd? (c : Cursor) : Option Fault :=
  if c.isDocumentMark then some .documentMark
  else if c.rest.isEmpty then some .endOfText
  else none

/-- The rest of a scalar in single quotes, where two quotes stand for one. -/
def singleFrom (start : Place) : Nat → List Char → Cursor → Except ParseError Flat
  | 0, _, c => c.fail .endOfText (some (.quotedScalar, start))
  | fuel + 1, read, c =>
    match quotedEnd? c, c.rest with
    | some fault, _ => c.fail fault (some (.quotedScalar, start))
    | none, [] => c.fail .endOfText (some (.quotedScalar, start))
    | none, '\'' :: '\'' :: _ => singleFrom start fuel ('\'' :: read) (c.skip 2)
    | none, '\'' :: _ => .ok ⟨read.reverse, false, c.skip 1, false⟩
    | none, ch :: _ =>
      if endsToken c.rest then
        let g := quotedGap c
        singleFrom start fuel (g.folded.reverse ++ read) g.next
      else singleFrom start fuel (ch :: read) (c.skip 1)

/-- The escapes of a single character. -/
def escapes : List (Char × Char) :=
  [('0', '\x00'), ('a', '\x07'), ('b', '\x08'), ('t', '\t'), ('\t', '\t'), ('n', '\n'),
    ('v', '\x0b'), ('f', '\x0c'), ('r', '\r'), ('e', '\x1b'), (' ', ' '), ('"', '"'), ('/', '/'),
    ('\\', '\\'), ('N', '\u0085'), ('_', '\u00a0'), ('L', '\u2028'), ('P', '\u2029')]

/-- The escapes of a code point, by the number of their digits. -/
def codeLength (c : Char) : Option Nat :=
  [('x', 2), ('u', 4), ('U', 8)].lookup c

def hexDigit? (c : Char) : Option Nat :=
  if c.isDigit then some (c.toNat - '0'.toNat)
  else if 'a' ≤ c && c ≤ 'f' then some (c.toNat - 'a'.toNat + 10)
  else if 'A' ≤ c && c ≤ 'F' then some (c.toNat - 'A'.toNat + 10)
  else none

/-- A natural number in hexadecimal digits, of which there must be so many. -/
def hexNumber? (count : Nat) (cs : List Char) : Option Nat :=
  if cs.length < count then none
  else
    ((cs.take count).mapM hexDigit?).map fun digits =>
      digits.foldl (fun value digit => value * 16 + digit) 0

/-- The character an escape stands for, from its backslash on, and the cursor behind it. -/
def escaped (start : Place) (c : Cursor) : Except ParseError (Char × Cursor) :=
  let during := some (Activity.escape, start)
  match c.rest.drop 1 with
  | [] => c.fail .unknownEscape during
  | kind :: digits =>
    match escapes.lookup kind, codeLength kind with
    | some ch, _ => .ok (ch, c.skip 2)
    | none, none => c.fail .unknownEscape during
    | none, some count =>
      match hexNumber? count digits with
      | none => (c.skip 2).fail .escapeDigits during
      | some code =>
        if code.isValidChar then .ok (Char.ofNat code, c.skip (count + 2))
        else (c.skip 2).fail .escapeCode during

/-- The rest of a scalar in double quotes, with its escapes. An escaped line break stands for
nothing, and of the breaks behind it none is left out. -/
def doubleFrom (start : Place) : Nat → List Char → Cursor → Except ParseError Flat
  | 0, _, c => c.fail .endOfText (some (.quotedScalar, start))
  | fuel + 1, read, c =>
    match quotedEnd? c, c.rest with
    | some fault, _ => c.fail fault (some (.quotedScalar, start))
    | none, [] => c.fail .endOfText (some (.quotedScalar, start))
    | none, '"' :: _ => .ok ⟨read.reverse, false, c.skip 1, false⟩
    | none, '\\' :: rest =>
      if !rest.isEmpty && endsLine rest then
        let next := (c.skip 1).skipBreak
        match Gap.readFrom 0 [] true [] next.place next.rest with
        | .error _ => doubleFrom start fuel read next
        | .ok g => doubleFrom start fuel (g.breaks.reverse ++ read) g.next
      else
        match escaped start c with
        | .error e => .error e
        | .ok (ch, next) => doubleFrom start fuel (ch :: read) next
    | none, ch :: _ =>
      if endsToken c.rest then
        let g := quotedGap c
        doubleFrom start fuel (g.folded.reverse ++ read) g.next
      else doubleFrom start fuel (ch :: read) (c.skip 1)

/-- A scalar in quotes in a text of a size, from the opening quote on. -/
def quoted (size : Nat) (c : Cursor) : Except ParseError Flat :=
  if c.startsWith '\'' then singleFrom c.place size [] (c.skip 1)
  else doubleFrom c.place size [] (c.skip 1)

end BulkActions.Yaml
