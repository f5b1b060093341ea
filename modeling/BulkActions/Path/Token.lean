import BulkActions.Text.Blank

/-! The tokens of a path expression. A token remembers the text it starts and the text it leaves,
from which every reported position is measured. -/

namespace BulkActions.Path

inductive Operator where
  | eq
  | ne
  | lt
  | le
  | gt
  | ge
  | both
  | either
  deriving DecidableEq, Repr

/-- The operator that holds of two operands exactly when this one holds of them exchanged. -/
def Operator.flip : Operator → Operator
  | .lt => .gt
  | .le => .ge
  | .gt => .lt
  | .ge => .le
  | op => op

def Operator.isConnective : Operator → Bool
  | .both | .either => true
  | _ => false

inductive Token where
  | root
  | here
  | dot
  | openBracket
  | closeBracket
  | openParen
  | closeParen
  | star
  | question
  | comma
  | colon
  | operator (op : Operator)
  | key (text : String)
  | quoted (text : String)
  | blank
  deriving DecidableEq, Repr

/-- A token between the text that starts with it and the text after it. -/
structure Lexeme where
  token : Token
  before : List Char
  after : List Char
  deriving DecidableEq, Repr

/-- Punctuation ends a bare key. -/
def isStop (c : Char) : Bool :=
  ['.', '*', '[', ']', '(', ')', '@', '?', ',', ':', '<', '>', '=', '&', '|', '!'].contains c

/-- A name after a dollar sign may hold further dollar signs. -/
def continuesDollar (c : Char) : Bool := !isStop c && !Text.isBlank c

def continuesKey (c : Char) : Bool := !isStop c && c != '$' && !Text.isBlank c

/-- What reading one token comes to. -/
inductive Scan where
  | token (token : Token) (rest : List Char)
  /-- No token can be read; `rest` is the text at which reading gave up. -/
  | stuck (rest : List Char)

/-- An operator of two equal characters, after the first of them. -/
def doubled (c : Char) (op : Operator) : List Char → Scan
  | [] => .stuck []
  | next :: rest => if next = c then .token (.operator op) rest else .stuck (next :: rest)

/-- An order operator, after its first character; it includes equality if an equals sign follows. -/
def ordered (strict inclusive : Operator) : List Char → Scan
  | [] => .stuck []
  | '=' :: rest => .token (.operator inclusive) rest
  | rest => .token (.operator strict) rest

/-- A quoted name, after its opening quote. A backslash before the closing quote keeps that quote
in the name, once. -/
def quotedName (quote : Char) (cs : List Char) : Scan :=
  let first := cs.takeWhile (· != quote)
  match cs.dropWhile (· != quote) with
  | [] => .stuck []
  | _ :: rest =>
    if first.getLast? = some '\\' then
      let second := rest.takeWhile (· != quote)
      match rest.dropWhile (· != quote) with
      | [] => .stuck []
      | _ :: rest => .token (.quoted (String.ofList (first.dropLast ++ quote :: second))) rest
    else .token (.quoted (String.ofList first)) rest

/-- One token of a text, read from its first character on. -/
def readToken (c : Char) (cs : List Char) : Scan :=
  if c = '$' then
    match cs.takeWhile continuesDollar with
    | [] => .token .root cs
    | name => .token (.key (String.ofList ('$' :: name))) (cs.dropWhile continuesDollar)
  else if c = '.' then .token .dot cs
  else if c = '*' then .token .star cs
  else if c = '[' then .token .openBracket cs
  else if c = ']' then .token .closeBracket cs
  else if c = '(' then .token .openParen cs
  else if c = ')' then .token .closeParen cs
  else if c = '@' then .token .here cs
  else if c = '?' then .token .question cs
  else if c = ',' then .token .comma cs
  else if c = ':' then .token .colon cs
  else if c = '=' then doubled '=' .eq cs
  else if c = '!' then doubled '=' .ne cs
  else if c = '&' then doubled '&' .both cs
  else if c = '|' then doubled '|' .either cs
  else if c = '<' then ordered .lt .le cs
  else if c = '>' then ordered .gt .ge cs
  else if c = '\'' || c = '"' then quotedName c cs
  else if Text.isBlank c then .token .blank (cs.dropWhile Text.isBlank)
  else .token (.key (String.ofList (c :: cs.takeWhile continuesKey))) (cs.dropWhile continuesKey)

/-- The tokens of a text up to where reading gives up, and the text left there. -/
structure Lexing where
  lexemes : List Lexeme
  left : List Char
  deriving DecidableEq, Repr

/-- Each token takes at least one character, so the length of the text bounds their number. -/
def lexFrom : Nat → List Char → Lexing
  | 0, cs => ⟨[], cs⟩
  | _ + 1, [] => ⟨[], []⟩
  | fuel + 1, c :: cs =>
    match readToken c cs with
    | .stuck rest => ⟨[], rest⟩
    | .token token rest =>
      let tail := lexFrom fuel rest
      ⟨⟨token, c :: cs, rest⟩ :: tail.lexemes, tail.left⟩

def lex (cs : List Char) : Lexing := lexFrom cs.length cs

end BulkActions.Path
