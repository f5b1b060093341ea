import BulkActions.Decimal.Literal
import BulkActions.Path.Expr

/-! Reading an expression off its tokens. A failure is the text left at the fault: the text after
the last token taken, or the text before a number that cannot be read. -/

namespace BulkActions.Path

/-- The tokens ahead, and the text after the last one taken. -/
structure Cursor where
  left : List Char
  ahead : List Lexeme

/-- An outcome, or the text left at a fault. -/
abbrev Attempt := Except (List Char)

namespace Cursor

def fail {α : Type} (c : Cursor) : Attempt α := .error c.left

def peek (c : Cursor) : Option Token := c.ahead.head?.map (·.token)

/-- Takes a token; at the end nothing moves. -/
def advance (c : Cursor) : Cursor :=
  match c.ahead with
  | [] => c
  | l :: rest => ⟨l.after, rest⟩

/-- Takes blank tokens. -/
def skipBlanks (c : Cursor) : Cursor := go c.left c.ahead
where
  go (left : List Char) : List Lexeme → Cursor
    | [] => ⟨left, []⟩
    | l :: rest => if l.token = .blank then go l.after rest else ⟨left, l :: rest⟩

/-- Takes a token that has to be the given one. -/
def expect (c : Cursor) (token : Token) : Attempt Cursor :=
  if c.peek = some token then .ok c.advance else c.advance.fail

/-- Takes a bare key, with the text before it. -/
def takeKey (c : Cursor) : Attempt ((String × List Char) × Cursor) :=
  match c.ahead with
  | ⟨.key text, before, after⟩ :: rest => .ok ((text, before), ⟨after, rest⟩)
  | _ => c.advance.fail

def takeQuoted (c : Cursor) : Attempt (String × Cursor) :=
  match c.ahead with
  | ⟨.quoted text, _, after⟩ :: rest => .ok (text, ⟨after, rest⟩)
  | _ => c.advance.fail

/-- Takes a bare key that spells a number. -/
def takeNumber {α : Type} (read : List Char → Option α) (c : Cursor) : Attempt (α × Cursor) := do
  let ((text, before), c) ← c.takeKey
  match read text.toList with
  | some value => .ok (value, c)
  | none => .error before

end Cursor

/-- A number that may follow a colon. -/
def afterColon {α : Type} (read : List Char → Option α) (c : Cursor) :
    Attempt (Option α × Cursor) :=
  let c := c.skipBlanks
  if c.peek = some .colon then
    let c := c.advance.skipBlanks
    match c.peek with
    | some (.key _) => do
      let (value, c) ← c.takeNumber read
      return (some value, c)
    | _ => .ok (none, c)
  else .ok (none, c)

/-- A slice whose first index was read, from its colon on. -/
def sliceFrom (first : Int) (c : Cursor) : Attempt (Expr × Cursor) :=
  let c := c.advance.skipBlanks
  match c.peek with
  | some (.key _) => do
    let (last, c) ← c.takeNumber Decimal.index?
    let (step, c) ← afterColon Decimal.count? c
    return (.range (some first) (some last) step, c)
  | some .colon => do
    let (step, c) ← afterColon Decimal.count? c
    return (.range (some first) none step, c)
  | _ => .ok (.range (some first) none none, c)

/-- A slice without a first index, after its colon. -/
def sliceTo (c : Cursor) : Attempt (Expr × Cursor) := do
  let (step, c) ← afterColon Decimal.count? c
  match step with
  | some step => return (.range none none (some step), c)
  | none =>
    if c.peek = some .closeBracket then return (.range none none none, c)
    else
      let (last, c) ← c.takeNumber Decimal.index?
      let (step, c) ← afterColon Decimal.count? c
      return (.range none (some last) step, c)

/-- Further indices, each after a comma. -/
def indices : Nat → List Int → Cursor → Attempt (List Int × Cursor)
  | 0, read, c => .ok (read.reverse, c)
  | fuel + 1, read, c =>
    if c.peek = some .comma then do
      let (index, c) ← c.advance.skipBlanks.takeNumber Decimal.index?
      indices fuel (index :: read) c
    else .ok (read.reverse, c)

/-- Further names, each after a comma. -/
def names : Nat → List String → Cursor → Attempt (List String × Cursor)
  | 0, read, c => .ok (read.reverse, c)
  | fuel + 1, read, c =>
    if c.peek = some .comma then do
      let (name, c) ← c.advance.skipBlanks.takeQuoted
      names fuel (name :: read) c.skipBlanks
    else .ok (read.reverse, c)

/-- One quoted name, or several where a comma follows at once. -/
def quotedNames (c : Cursor) : Attempt (Expr × Cursor) := do
  let (name, c) ← c.takeQuoted
  if c.peek = some .comma then
    let (list, c) ← names c.ahead.length [name] c
    return (.keys list, c)
  else return (.key name, c)

/-- The inside of a subscript that is neither a filter nor a star. -/
def subscriptValue (c : Cursor) : Attempt (Expr × Cursor) :=
  match c.peek with
  | some (.key _) => do
    let (index, c) ← c.takeNumber Decimal.index?
    let c := c.skipBlanks
    match c.peek with
    | some .comma =>
      let (list, c) ← indices c.ahead.length [index] c
      return (.union list, c)
    | some .colon => sliceFrom index c
    | _ => return (.number (Float.ofInt index), c)
  | some .colon => sliceTo c.advance
  | some (.quoted _) => quotedNames c
  | _ => c.advance.fail

/-- A number in a filter; a point between two keys belongs to it. -/
def numberTerm (c : Cursor) : Attempt (Expr × Cursor) := do
  let ((whole, before), c) ← c.takeKey
  if c.peek = some .dot then
    let ((fraction, before), c) ← c.advance.takeKey
    match Decimal.double? (whole.toList ++ '.' :: fraction.toList) with
    | some value => return (.number value, c)
    | none => .error before
  else
    match Decimal.double? whole.toList with
    | some value => return (.number value, c)
    | none => .error before

def startsNumber (text : String) : Bool :=
  match text.toList with
  | c :: _ => c == '-' || c.isDigit
  | [] => false

/-- Any word that starts like one of the truth values counts as one; only `true` is true. -/
def truthWord (text : String) : Option Bool :=
  match text.toList with
  | c :: _ =>
    if ['t', 'T', 'f', 'F'].contains c then
      some (Decimal.lowerAscii text.toList == ['t', 'r', 'u', 'e'])
    else none
  | [] => none

mutual

/-- The steps that follow an expression. -/
def steps : Nat → Expr → Cursor → Attempt (Expr × Cursor)
  | 0, _, c => c.fail
  | fuel + 1, base, c =>
    match c.peek with
    | some .dot => do
      let (e, c) ← dotStep fuel base c.advance
      steps fuel e c
    | some .openBracket => do
      let (e, c) ← subscript fuel base c.advance.skipBlanks
      steps fuel e c
    | _ => .ok (base, c)

/-- A step after its dot. -/
def dotStep : Nat → Expr → Cursor → Attempt (Expr × Cursor)
  | 0, _, c => c.fail
  | fuel + 1, base, c =>
    match c.peek with
    | some .dot => deepStep fuel base c.advance
    | some .star => .ok (.child base .all, c.advance)
    | some (.key name) => .ok (.child base (.key name), c.advance)
    | some .openBracket => subscript fuel base c.advance
    | _ => c.fail

/-- A step after its second dot. -/
def deepStep : Nat → Expr → Cursor → Attempt (Expr × Cursor)
  | 0, _, c => c.fail
  | fuel + 1, base, c =>
    match c.peek with
    | some .star => .ok (.deep base .all, c.advance)
    | some .openBracket => steps fuel (.depths base) c
    | _ => do
      let ((name, _), c) ← c.takeKey
      return (.deep base (.key name), c)

/-- A subscript after its opening bracket. -/
def subscript : Nat → Expr → Cursor → Attempt (Expr × Cursor)
  | 0, _, c => c.fail
  | fuel + 1, base, c => do
    let (inner, c) ←
      match c.peek with
      | some .question => filter fuel c.advance
      | some .star => .ok (.all, c.advance)
      | _ => subscriptValue c
    let c ← c.skipBlanks.expect .closeBracket
    return (.subscript base inner, c)

/-- A filter after its question mark. -/
def filter : Nat → Cursor → Attempt (Expr × Cursor)
  | 0, c => c.fail
  | fuel + 1, c => do
    let c ← c.expect .openParen
    let (e, c) ← conditions fuel c
    let c ← c.skipBlanks.expect .closeParen
    return (e, c)

/-- Conditions joined from the right, without precedence between the connectives. -/
def conditions : Nat → Cursor → Attempt (Expr × Cursor)
  | 0, c => c.fail
  | fuel + 1, c => do
    let c := c.skipBlanks
    let (e, c) ←
      if c.peek = some .openParen then do
        let (e, c) ← conditions fuel c.advance
        let c ← c.skipBlanks.expect .closeParen
        pure (e, c)
      else condition fuel c
    let c := c.skipBlanks
    match c.peek with
    | some (.operator op) =>
      if op.isConnective then do
        let (right, c) ← conditions fuel c.advance
        return (.compare op e right, c)
      else return (e, c)
    | _ => return (e, c)

/-- A comparison, or a path from the value under test alone. -/
def condition : Nat → Cursor → Attempt (Expr × Cursor)
  | 0, c => c.fail
  | fuel + 1, c => do
    let relative := c.peek == some .here
    let (left, c) ← term fuel c
    let c := c.skipBlanks
    match c.peek with
    | some (.operator op) =>
      if op.isConnective then
        if relative then return (left, c) else c.fail
      else do
        let (right, c) ← term fuel c.advance.skipBlanks
        return (.compare op left right, c)
    | _ => if relative then return (left, c) else c.fail

def term : Nat → Cursor → Attempt (Expr × Cursor)
  | 0, c => c.fail
  | fuel + 1, c =>
    match c.peek with
    | some .here =>
      let c := c.advance
      if c.peek = some .blank then .ok (.here, c.skipBlanks) else steps fuel .here c
    | some .root => steps fuel .root c.advance
    | some (.quoted _) => quotedNames c
    | some (.key text) =>
      if startsNumber text then numberTerm c
      else
        match truthWord text with
        | some value => .ok (.truth value, c.advance)
        | none => c.advance.fail
    | _ => c.fail

end

/-- An expression starts at the document; what follows its last step is not read. The fuel covers
the calls between one token and the next. -/
def parseExpr (text : List Char) : Attempt Expr :=
  let lexing := lex text
  let c : Cursor := ⟨lexing.left, lexing.lexemes⟩
  match c.peek with
  | some .root => (steps (8 * lexing.lexemes.length + 8) .root c.advance).map (·.1)
  | _ => c.advance.fail

end BulkActions.Path
