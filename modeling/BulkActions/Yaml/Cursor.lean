import BulkActions.Yaml.Fault

/-! A text under reading: what is still to come, and the place where it begins. -/

namespace BulkActions.Yaml

def isGap (c : Char) : Bool := c == ' ' || c == '\t'

/-- Characters that end a line. -/
def isBreak (c : Char) : Bool := ['\n', '\r', '\u0085', '\u2028', '\u2029'].contains c

/-- A line break as scalars keep it: only the separators of lines and paragraphs stay what they
are. -/
def keptBreak (c : Char) : Char := if c = '\r' || c = '\u0085' then '\n' else c

def endsLine : List Char → Bool
  | [] => true
  | c :: _ => isBreak c

def endsToken : List Char → Bool
  | [] => true
  | c :: _ => isGap c || isBreak c

/-- Letters, digits and two marks, which make up names. -/
def isNameChar (c : Char) : Bool := c.isAlphanum || c = '_' || c = '-'

structure Cursor where
  rest : List Char
  place : Place
  deriving Repr

namespace Cursor

def fail {α : Type} (c : Cursor) (fault : Fault) (during : Option (Activity × Place)) :
    Except ParseError α :=
  .error ⟨fault, c.place, during⟩

/-- The place some characters further on the same line. -/
def skip (c : Cursor) (count : Nat) : Cursor :=
  ⟨c.rest.drop count, (c.rest.take count).foldl Place.pass c.place⟩

/-- The start of the next line, at a line break. -/
def skipBreak (c : Cursor) : Cursor :=
  match c.rest with
  | '\r' :: '\n' :: rest => ⟨rest, c.place.skipLine 2⟩
  | ch :: rest => ⟨rest, c.place.skipLine ch.utf8Size⟩
  | [] => c

def startsWith (c : Cursor) (ch : Char) : Bool := c.rest.head? = some ch

/-- The characters of a kind from here on, and the cursor behind them. -/
def span (c : Cursor) (p : Char → Bool) : List Char × Cursor :=
  let run := c.rest.takeWhile p
  (run, c.skip run.length)

def skipWhile (c : Cursor) (p : Char → Bool) : Cursor := (c.span p).2

/-- A line that starts with three equal characters and nothing right behind them. -/
def isMark (c : Cursor) (ch : Char) : Bool :=
  c.place.column = 0 && [ch, ch, ch].isPrefixOf c.rest && endsToken (c.rest.drop 3)

def isDocumentMark (c : Cursor) : Bool := c.isMark '-' || c.isMark '.'

/-- The cursor behind the blanks of a line, a comment and the line break. Nothing else may stand
there. -/
def finishLine? (c : Cursor) : Option Cursor :=
  let c := c.skipWhile isGap
  let c := if c.startsWith '#' then c.skipWhile fun ch => !isBreak ch else c
  if !endsLine c.rest then none
  else some c.skipBreak

/-- Skips what may stand in front of a token: blanks, comments, line breaks. Outside brackets tabs
are blanks only where no key can begin, and one can at the start of each line. Gives back whether
one can at the token. -/
def skipToToken (inFlow comment keys : Bool) (p : Place) : List Char → Cursor × Bool
  | [] => (⟨[], p⟩, keys)
  | '\r' :: '\n' :: rest => skipToToken inFlow false (keys || !inFlow) (p.skipLine 2) rest
  | c :: rest =>
    if isBreak c then skipToToken inFlow false (keys || !inFlow) (p.skipLine c.utf8Size) rest
    else if comment || c = ' ' || (c = '\t' && (inFlow || !keys)) then
      skipToToken inFlow comment keys (p.pass c) rest
    else if c = '#' then skipToToken inFlow true keys (p.pass c) rest
    else (⟨c :: rest, p⟩, keys)

/-- The next token. A mark of the byte order may stand in front of everything. -/
def toToken (c : Cursor) (inFlow keys : Bool) : Cursor × Bool :=
  let c := if c.place.index = 0 && c.startsWith '\ufeff' then c.skip 1 else c
  skipToToken inFlow false keys c.place c.rest

end Cursor

/-- A run of blanks and line breaks inside a scalar: the blanks in front of the first break, whether
there is one, the breaks that count, and what follows. -/
structure Gap where
  blanks : List Char
  isBroken : Bool
  breaks : List Char
  next : Cursor

namespace Gap

/-- Blanks and breaks so far come last first. A tab left of a column is refused behind a break; the
place of such a tab is the error. -/
def readFrom (floor : Nat) (blanks : List Char) (isBroken : Bool) (breaks : List Char) (p : Place) :
    List Char → Except Place Gap
  | [] => .ok ⟨blanks.reverse, isBroken, breaks.reverse, ⟨[], p⟩⟩
  | '\r' :: '\n' :: rest => readFrom floor [] true ('\n' :: breaks) (p.skipLine 2) rest
  | c :: rest =>
    if isBreak c then readFrom floor [] true (keptBreak c :: breaks) (p.skipLine c.utf8Size) rest
    else if !isGap c then .ok ⟨blanks.reverse, isBroken, breaks.reverse, ⟨c :: rest, p⟩⟩
    else if !isBroken then readFrom floor (c :: blanks) isBroken breaks (p.pass c) rest
    else if c = '\t' && p.column < floor then .error p
    else readFrom floor blanks isBroken breaks (p.pass c) rest

/-- No gap at all. -/
def none (c : Cursor) : Gap := ⟨[], false, [], c⟩

def read (floor : Nat) (c : Cursor) : Except Place Gap :=
  readFrom floor [] false [] c.place c.rest

/-- What a gap leaves of itself: one break becomes a space, of more the first is left out. -/
def folded (g : Gap) : List Char :=
  match g.breaks with
  | [] => g.blanks
  | ['\n'] => [' ']
  | '\n' :: more => more
  | breaks => breaks

end Gap

end BulkActions.Yaml
