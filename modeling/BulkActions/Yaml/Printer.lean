import BulkActions.Json.Printer
import BulkActions.Yaml.Flat
import BulkActions.Yaml.Scalar

/-! Documents in block style, one member or item a line. A text is plain where it reads back as that
text, in quotes or line by line otherwise. -/

namespace BulkActions.Yaml

def isPrintable (c : Char) : Bool :=
  let n := c.toNat
  n == 0x0A || (0x20 ≤ n && n ≤ 0x7E) || (0xA0 ≤ n && n ≤ 0xFFFD && n != 0xFEFF) || 0x10000 ≤ n

inductive Style where
  | plain
  | single
  | double
  | literal
  deriving DecidableEq, Repr

/-- Indicators that something has to follow at once if they begin a plain text. -/
def isLead (c : Char) : Bool := ['?', ':', '-'].contains c

/-- Whether a text begins with marks that may not stand at the start of a plain one. -/
def blocksStart (cs : List Char) : Bool :=
  match cs with
  | [] => true
  | c :: rest =>
    ['-', '-', '-'].isPrefixOf cs || ['.', '.', '.'].isPrefixOf cs ||
      if isLead c then endsToken rest else indicators.contains c

/-- A colon before a blank, or a comment mark behind one. -/
def blocksInside : List Char → Bool
  | ':' :: rest => endsToken rest || blocksInside rest
  | c :: '#' :: rest => isGap c || blocksInside ('#' :: rest)
  | _ :: rest => blocksInside rest
  | [] => false

def isEdge (c : Char) : Bool := c = ' ' || isBreak c

/-- A character of one kind right in front of one of another. -/
def meets (p q : Char → Bool) : List Char → Bool
  | a :: b :: rest => (p a && q b) || meets p q (b :: rest)
  | _ => false

/-- Quotes without escapes and blocks hold only what can be printed, and no space in front of a line
break. -/
def isShown (cs : List Char) : Bool := cs.all isPrintable && !meets (· = ' ') isBreak cs

def allowsPlain (cs : List Char) : Bool :=
  !blocksStart cs && !blocksInside cs && cs.all (fun c => isPrintable c && !isBreak c) &&
    !cs.head?.any isEdge && !cs.getLast?.any isEdge

def allowsSingle (cs : List Char) : Bool := isShown cs && !meets isBreak (· = ' ') cs

def allowsLiteral (cs : List Char) : Bool := isShown cs && cs.getLast? != some ' '

/-- A plain scalar that would be a value of another kind, or digits behind a zero. -/
def isAmbiguous (cs : List Char) : Bool :=
  isPadded cs ||
    match resolve cs with
    | .ok (.text _) => false
    | _ => true

def styleOf (cs : List Char) : Style :=
  if cs.contains '\n' then if allowsLiteral cs then .literal else .double
  else if allowsPlain cs && !isAmbiguous cs then .plain
  else if allowsSingle cs then .single
  else .double

def spaces (count : Nat) : List Char := List.replicate count ' '

/-- Lines behind the first one stand at an indentation unless they are empty. -/
def indented (indent : Nat) (write : Char → List Char) : Bool → List Char → List Char
  | _, [] => []
  | atStart, c :: rest =>
    if isBreak c then c :: indented indent write true rest
    else (if atStart then spaces indent else []) ++ write c ++ indented indent write false rest

/-- A quote inside quotes is written twice. -/
def singleChars (indent : Nat) (cs : List Char) : List Char :=
  let write (c : Char) := if c = '\'' then ['\'', '\''] else [c]
  let closing := if cs.getLast?.any isBreak then spaces indent else []
  '\'' :: indented indent write false cs ++ closing ++ ['\'']

/-- A code point in so many hexadecimal digits. -/
def codeChars (width code : Nat) : List Char :=
  let digits := (Nat.toDigits 16 code).map Char.toUpper
  List.replicate (width - digits.length) '0' ++ digits

/-- The escapes that are written: of those that are read, the ones for characters that cannot stand
for themselves. -/
def escapeOf? (c : Char) : Option Char :=
  if [' ', '/', '\u00a0'].contains c then none
  else (escapes.find? fun escape => escape.2 = c && escape.1 ≠ '\t').map (·.1)

def doubleChar (c : Char) : List Char :=
  if isPrintable c && !isBreak c && c ≠ '"' && c ≠ '\\' then [c]
  else
    match escapeOf? c with
    | some e => ['\\', e]
    | none =>
      let n := c.toNat
      if n ≤ 0xFF then '\\' :: 'x' :: codeChars 2 n
      else if n ≤ 0xFFFF then '\\' :: 'u' :: codeChars 4 n
      else '\\' :: 'U' :: codeChars 8 n

/-- The marks of a block: its indentation where the text begins with a blank, and what becomes of
the breaks at its end. -/
def literalMarks (cs : List Char) : List Char :=
  let indent := if cs.head?.any isEdge then ['2'] else []
  match cs.reverse with
  | last :: before =>
    if !isBreak last then indent ++ ['-']
    else if before.head?.all isBreak then indent ++ ['+']
    else indent
  | [] => indent ++ ['-']

/-- A text whose lines behind the first one are indented. -/
def textChars (indent : Nat) (text : String) : List Char :=
  let cs := text.toList
  match styleOf cs with
  | .plain => cs
  | .single => singleChars indent cs
  | .double => '"' :: cs.flatMap doubleChar ++ ['"']
  | .literal => '|' :: literalMarks cs ++ '\n' :: indented indent (fun c => [c]) true cs

def scalarChars (indent : Nat) : Json → Option (List Char)
  | .null => some ['n', 'u', 'l', 'l']
  | .bool true => some ['t', 'r', 'u', 'e']
  | .bool false => some ['f', 'a', 'l', 's', 'e']
  | .num n => some n.chars
  | .str s => some (textChars indent s)
  | .arr [] => some ['[', ']']
  | .obj [] => some ['{', '}']
  | _ => none

/-- Ends a line unless it has ended. -/
def endLine (cs : List Char) : List Char := if cs.getLast?.any isBreak then cs else cs ++ ['\n']

/-- The items below a key stand in the column of the key. -/
def memberIndent (indent : Nat) : Json → Nat
  | .arr _ => indent
  | _ => indent + 2

mutual

/-- The lines of a collection at an indentation; a scalar has none of its own. -/
def lines (indent : Nat) : Json → List Char
  | .obj fields => fieldLines indent fields
  | .arr items => itemLines indent items
  | _ => []

def fieldLines (indent : Nat) : List (String × Json) → List Char
  | [] => []
  | (name, v) :: rest =>
    let key := spaces indent ++ textChars (indent + 2) name ++ [':']
    let own := match scalarChars (indent + 2) v with
      | some cs => endLine (key ++ ' ' :: cs)
      | none => key ++ '\n' :: lines (memberIndent indent v) v
    own ++ fieldLines indent rest

/-- The first line of a collection stands behind the mark of its item. -/
def itemLines (indent : Nat) : List Json → List Char
  | [] => []
  | item :: rest =>
    let mark := spaces indent ++ ['-', ' ']
    let own := match scalarChars (indent + 2) item with
      | some cs => endLine (mark ++ cs)
      | none => mark ++ (lines (indent + 2) item).drop mark.length
    own ++ itemLines indent rest

end

/-- The text of a document, without the break at its end. -/
def render (v : Json) : String :=
  let cs := match scalarChars 2 v with
    | some cs => endLine cs
    | none => lines 0 v
  String.ofList (if cs.getLast? = some '\n' then cs.dropLast else cs)

end BulkActions.Yaml
