import BulkActions.Yaml.Cursor

/-! Scalars that are written line by line below a mark, by their indentation. A bar keeps the breaks
between the lines, the other mark folds them. -/

namespace BulkActions.Yaml

/-- What becomes of the breaks behind the last line. -/
inductive Chomping where
  | strip
  | clip
  | keep
  deriving DecidableEq, Repr

/-- What the first line of a block says: how the breaks at its end are kept, and how far it is
indented, zero if the text shows it. -/
structure BlockHead where
  chomping : Chomping
  increment : Nat

def chomping? (c : Char) : Option Chomping :=
  if c = '+' then some .keep else if c = '-' then some .strip else none

def digit? (c : Char) : Option Nat :=
  if c.isDigit then some (c.toNat - '0'.toNat) else none

/-- The marks behind the first one, at most one of each kind in either order. -/
def blockMarks : List Char → BlockHead × Nat
  | a :: b :: _ =>
    match chomping? a, digit? a with
    | some chomping, _ => match digit? b with
      | some n => (⟨chomping, n⟩, 2)
      | none => (⟨chomping, 0⟩, 1)
    | none, some n => match chomping? b with
      | some chomping => (⟨chomping, n⟩, 2)
      | none => (⟨.clip, n⟩, 1)
    | none, none => (⟨.clip, 0⟩, 0)
  | [a] =>
    match chomping? a, digit? a with
    | some chomping, _ => (⟨chomping, 0⟩, 1)
    | none, some n => (⟨.clip, n⟩, 1)
    | none, none => (⟨.clip, 0⟩, 0)
  | [] => (⟨.clip, 0⟩, 0)

/-- The blank lines in front of a line that is not: their breaks, the widest indentation among all
of them, and the cursor at the line. With an indentation of zero all spaces count as such. -/
def blankLines (start : Place) (indent widest : Nat) (breaks : List Char) (p : Place) :
    List Char → Except ParseError (List Char × Nat × Cursor)
  | [] => .ok (breaks.reverse, max widest p.column, ⟨[], p⟩)
  | '\r' :: '\n' :: rest =>
    blankLines start indent (max widest p.column) ('\n' :: breaks) (p.skipLine 2) rest
  | c :: rest =>
    let isInside := indent = 0 || p.column < indent
    if c = ' ' && isInside then blankLines start indent widest breaks (p.pass c) rest
    else if c = '\t' && isInside then .error ⟨.tabInBlock, p, some (.blockScalar, start)⟩
    else if isBreak c then
      blankLines start indent (max widest p.column) (keptBreak c :: breaks)
        (p.skipLine c.utf8Size) rest
    else .ok (breaks.reverse, max widest p.column, ⟨c :: rest, p⟩)

/-- Lines read so far, last character first; the break behind them and the breaks of the blank lines
after it; whether the last line begins with a blank. -/
structure BlockLines where
  read : List Char
  lineBreak : List Char
  blankBreaks : List Char
  isIndented : Bool

/-- The breaks in front of a line. Those between two lines that do not begin with a blank are
folded. -/
def BlockLines.joint (b : BlockLines) (isLiteral isIndented : Bool) : List Char :=
  if !isLiteral && b.lineBreak = ['\n'] && !b.isIndented && !isIndented then
    if b.blankBreaks.isEmpty then [' '] else b.blankBreaks
  else b.lineBreak ++ b.blankBreaks

/-- The lines at an indentation, from the start of one on. -/
def blockLines (start : Place) (isLiteral : Bool) (indent : Nat) :
    Nat → BlockLines → Cursor → Except ParseError (BlockLines × Cursor)
  | 0, b, c => .ok (b, c)
  | fuel + 1, b, c =>
    if c.place.column ≠ indent || c.rest.isEmpty then .ok (b, c)
    else
      let isIndented := c.rest.head?.any isGap
      let (line, after) := c.span fun ch => !isBreak ch
      let read := line.reverse ++ (b.joint isLiteral isIndented).reverse ++ b.read
      let next := after.skipBreak
      match blankLines start indent 0 [] next.place next.rest with
      | .error e => .error e
      | .ok (breaks, _, c) =>
        let lineBreak := (after.rest.take 1).map keptBreak
        blockLines start isLiteral indent fuel ⟨read, lineBreak, breaks, isIndented⟩ c

def BlockLines.text (b : BlockLines) (chomping : Chomping) : List Char :=
  match chomping with
  | .strip => b.read.reverse
  | .clip => b.read.reverse ++ b.lineBreak
  | .keep => b.read.reverse ++ b.lineBreak ++ b.blankBreaks

/-- A block scalar in a text of a size from its mark on, below a collection whose content begins at
a column. -/
def block (size floor : Nat) (c : Cursor) : Except ParseError (List Char × Cursor) :=
  let during := some (Activity.blockScalar, c.place)
  let (head, length) := blockMarks (c.rest.drop 1)
  let marks := c.rest.take (length + 1)
  let after := c.skip (length + 1)
  if marks.contains '0' then (c.skip (marks.idxOf '0')).fail .zeroIndent during
  else
    match after.finishLine? with
    | none => (after.skipWhile isGap).fail .lineEnd during
    | some first =>
      let given := if head.increment = 0 then 0 else max floor 1 - 1 + head.increment
      match blankLines c.place given 0 [] first.place first.rest with
      | .error e => .error e
      | .ok (breaks, widest, first) =>
        let indent := if given = 0 then max widest (max floor 1) else given
        match blockLines c.place (c.startsWith '|') indent size
            ⟨[], [], breaks, false⟩ first with
        | .error e => .error e
        | .ok (b, next) => .ok (b.text head.chomping, next)

end BulkActions.Yaml
