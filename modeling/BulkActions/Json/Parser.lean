import BulkActions.Decimal.Scale
import BulkActions.Json.Basic
import BulkActions.Json.ParseError

/-! Reading a document. Every reader takes the text still to come and gives back what it leaves;
a failure names the text left and how many bytes of it the fault covers. -/

namespace BulkActions.Json

/-- A fault `covered` bytes into the text `rest`. -/
structure Stop where
  fault : Fault
  rest : List Char
  covered : Nat

abbrev Reading (α : Type) := Except Stop (α × List Char)

/-- The text ends too soon. -/
def atEnd {α : Type} (fault : Fault) : Except Stop α := .error ⟨fault, [], 0⟩

/-- The fault is the first byte of `rest`. -/
def atNext {α : Type} (fault : Fault) (rest : List Char) : Except Stop α := .error ⟨fault, rest, 1⟩

def isBlank (c : Char) : Bool := c == ' ' || c == '\n' || c == '\t' || c == '\r'

def skipBlanks (cs : List Char) : List Char := cs.dropWhile isBlank

def isHex (c : Char) : Bool :=
  c.isDigit || ('a' ≤ c && c ≤ 'f') || ('A' ≤ c && c ≤ 'F')

def hexValue (c : Char) : Nat :=
  if c.isDigit then c.toNat - '0'.toNat
  else if 'a' ≤ c then c.toNat - 'a'.toNat + 10
  else c.toNat - 'A'.toNat + 10

def byteCount (cs : List Char) : Nat := cs.foldl (fun count c => count + c.utf8Size) 0

/-- Four hexadecimal digits. -/
def hexUnit : List Char → Reading Nat
  | a :: b :: c :: d :: rest =>
    if isHex a && isHex b && isHex c && isHex d then
      .ok (((hexValue a * 16 + hexValue b) * 16 + hexValue c) * 16 + hexValue d, rest)
    else .error ⟨.invalidEscape, a :: b :: c :: d :: rest, 4⟩
  | short =>
    if 4 ≤ byteCount short then .error ⟨.invalidEscape, short, 4⟩ else atEnd .endInString

def isHighSurrogate (unit : Nat) : Bool := 0xD800 ≤ unit && unit ≤ 0xDBFF

def isLowSurrogate (unit : Nat) : Bool := 0xDC00 ≤ unit && unit ≤ 0xDFFF

/-- The second half of a surrogate pair, whose first half was read. -/
def pairedUnit (high : Nat) : List Char → Reading Char
  | [] => atEnd .endInString
  | '\\' :: [] => atEnd .endInString
  | '\\' :: 'u' :: rest =>
    match hexUnit rest with
    | .error stop => .error stop
    | .ok (low, rest) =>
      if isLowSurrogate low then
        .ok (Char.ofNat ((high - 0xD800) * 0x400 + (low - 0xDC00) + 0x10000), rest)
      else .error ⟨.loneSurrogate, rest, 0⟩
  | '\\' :: rest => atNext .unfinishedSurrogatePair rest
  | rest => atNext .unfinishedSurrogatePair rest

/-- The character of an escape, after its backslash. -/
def escaped : List Char → Reading Char
  | [] => atEnd .endInString
  | '"' :: rest => .ok ('"', rest)
  | '\\' :: rest => .ok ('\\', rest)
  | '/' :: rest => .ok ('/', rest)
  | 'b' :: rest => .ok ('\x08', rest)
  | 'f' :: rest => .ok ('\x0c', rest)
  | 'n' :: rest => .ok ('\n', rest)
  | 'r' :: rest => .ok ('\r', rest)
  | 't' :: rest => .ok ('\t', rest)
  | 'u' :: rest =>
    match hexUnit rest with
    | .error stop => .error stop
    | .ok (unit, rest) =>
      if isLowSurrogate unit then .error ⟨.loneSurrogate, rest, 0⟩
      else if isHighSurrogate unit then pairedUnit unit rest
      else .ok (Char.ofNat unit, rest)
  | rest => atNext .invalidEscape rest

/-- The rest of a string after its opening quote; `read` holds the characters so far, last first.
The fuel bounds the characters left. -/
def stringBody : Nat → List Char → List Char → Reading String
  | 0, _, _ => atEnd .endInString
  | _ + 1, _, [] => atEnd .endInString
  | fuel + 1, read, c :: rest =>
    if c = '"' then .ok (String.ofList read.reverse, rest)
    else if c = '\\' then
      match escaped rest with
      | .error stop => .error stop
      | .ok (c, rest) => stringBody fuel (c :: read) rest
    else if c.toNat < 32 then atNext .controlCharacter (c :: rest)
    else stringBody fuel (c :: read) rest

/-- A run of digits and what follows it. -/
def digitRun (cs : List Char) : List Char × List Char := cs.span Char.isDigit

/-- The digits of an integer part: a leading zero stands alone. -/
def integerPart : List Char → Reading (List Char)
  | [] => atEnd .endInValue
  | '0' :: rest =>
    match rest with
    | d :: _ => if d.isDigit then atNext .invalidNumber rest else .ok (['0'], rest)
    | [] => .ok (['0'], [])
  | cs =>
    match digitRun cs with
    | ([], _) => atNext .invalidNumber cs
    | (digits, rest) => .ok (digits, rest)

/-- At least one digit. -/
def someDigits (cs : List Char) : Reading (List Char) :=
  match digitRun cs with
  | ([], []) => atEnd .endInValue
  | ([], _) => atNext .invalidNumber cs
  | (digits, rest) => .ok (digits, rest)

/-- An exponent after its mark, with a sign or without. -/
def exponentPart : List Char → Reading (Bool × List Char)
  | '+' :: rest => (someDigits rest).map fun (digits, rest) => ((false, digits), rest)
  | '-' :: rest => (someDigits rest).map fun (digits, rest) => ((true, digits), rest)
  | rest => (someDigits rest).map fun (digits, rest) => ((false, digits), rest)

/-- The greatest exponent that is read to its end before the value is judged. -/
def exponentLimit : Nat := 2147483647

/-- The digits of an exponent beyond the limit that remain after the one that crosses it. -/
def pastLimit (sofar : Nat) : List Char → List Char
  | [] => []
  | d :: rest =>
    let next := 10 * sofar + (d.toNat - '0'.toNat)
    if exponentLimit < next then rest else pastLimit next rest

def greatestUnsigned : Nat := Nat.pow 2 64 - 1

/-- A double, or a fault where the magnitude is beyond the largest one. -/
def double (negative : Bool) (significand : Nat) (exponent : Int) (rest : List Char) :
    Reading Number :=
  match Decimal.scale significand exponent with
  | some magnitude => .ok (.float (if negative then -magnitude else magnitude), rest)
  | none => .error ⟨.numberOutOfRange, rest, 0⟩

/-- The leading digits that fit in a word and the number of digits after them. -/
def leading (significand : Nat) : List Char → Nat × Nat
  | [] => (significand, 0)
  | d :: rest =>
    let next := 10 * significand + (d.toNat - '0'.toNat)
    if greatestUnsigned < next then (significand, rest.length + 1) else leading next rest

/-- The integer a literal without point and exponent denotes, a double where it does not fit. -/
def integer (negative : Bool) (digits rest : List Char) : Reading Number :=
  match leading 0 digits with
  | (value, 0) =>
    if !negative then .ok (.int value, rest)
    else if value = 0 then .ok (.float (-0.0), rest)
    else if value ≤ Nat.pow 2 63 then .ok (.int (-(value : Int)), rest)
    else double true value 0 rest
  | (significand, dropped) => double negative significand dropped rest

/-- A double of these leading digits, with an exponent where one follows. -/
def scaled (negative : Bool) (significand : Nat) (places : Int) : List Char → Reading Number
  | mark :: rest =>
    if mark = 'e' || mark = 'E' then
      match exponentPart rest with
      | .error stop => .error stop
      | .ok ((down, exponent), after) =>
        let size := Decimal.ofDigits exponent
        if exponentLimit < size && !down && significand ≠ 0 then
          .error ⟨.numberOutOfRange, pastLimit 0 exponent ++ after, 0⟩
        else double negative significand (places + if down then -(size : Int) else size) after
    else double negative significand places (mark :: rest)
  | [] => double negative significand places []

/-- A number after its sign. Digits beyond the leading ones count before the point and are dropped
after it. -/
def number (negative : Bool) (cs : List Char) : Reading Number :=
  match integerPart cs with
  | .error stop => .error stop
  | .ok (digits, '.' :: rest) =>
    match someDigits rest with
    | .error stop => .error stop
    | .ok (fraction, rest) =>
      let (whole, dropped) := leading 0 digits
      let (significand, unread) := leading whole fraction
      let places : Int := dropped - ((fraction.length - unread : Nat) : Int)
      scaled negative significand places rest
  | .ok (digits, rest) =>
    match rest with
    | 'e' :: _ | 'E' :: _ =>
      let (significand, dropped) := leading 0 digits
      scaled negative significand dropped rest
    | _ => integer negative digits rest

/-- The remaining letters of a word. -/
def word : List Char → Json → List Char → Reading Json
  | [], value, rest => .ok (value, rest)
  | _ :: _, _, [] => atEnd .endInValue
  | w :: ws, value, c :: rest =>
    if c = w then word ws value rest else atNext .expectedWord (c :: rest)

mutual

/-- A value; `depth` more arrays and objects may open. Two units of fuel a character suffice. -/
def value : Nat → Nat → List Char → Reading Json
  | 0, _, cs => atNext .tooDeep cs
  | fuel + 1, depth, cs =>
    match skipBlanks cs with
    | [] => atEnd .endInValue
    | 'n' :: rest => word ['u', 'l', 'l'] .null rest
    | 't' :: rest => word ['r', 'u', 'e'] (.bool true) rest
    | 'f' :: rest => word ['a', 'l', 's', 'e'] (.bool false) rest
    | '-' :: rest => (number true rest).map fun (n, rest) => (.num n, rest)
    | '"' :: rest => (stringBody fuel [] rest).map fun (s, rest) => (.str s, rest)
    | '[' :: rest =>
      match depth with
      | 0 => atNext .tooDeep ('[' :: rest)
      | depth + 1 => (items fuel depth true rest).map fun (vs, rest) => (.arr vs, rest)
    | '{' :: rest =>
      match depth with
      | 0 => atNext .tooDeep ('{' :: rest)
      | depth + 1 =>
        (members fuel depth true rest).map fun (ms, rest) => (.obj (Assoc.ofList ms), rest)
    | c :: rest =>
      if c.isDigit then (number false (c :: rest)).map fun (n, rest) => (.num n, rest)
      else atNext .expectedValue (c :: rest)

/-- The items up to the closing bracket. -/
def items : Nat → Nat → Bool → List Char → Reading (List Json)
  | 0, _, _, cs => atNext .tooDeep cs
  | fuel + 1, depth, first, cs =>
    match skipBlanks cs with
    | [] => atEnd .endInList
    | ']' :: rest => .ok ([], rest)
    | c :: rest =>
      if first then item fuel depth (c :: rest)
      else if c = ',' then
        match skipBlanks rest with
        | [] => atEnd .endInValue
        | ']' :: rest => atNext .trailingComma (']' :: rest)
        | next => item fuel depth next
      else atNext .expectedCommaOrBracket (c :: rest)

/-- One item and those after it. -/
def item : Nat → Nat → List Char → Reading (List Json)
  | 0, _, cs => atNext .tooDeep cs
  | fuel + 1, depth, cs =>
    match value fuel depth cs with
    | .error stop => .error stop
    | .ok (v, rest) => (items fuel depth false rest).map fun (vs, rest) => (v :: vs, rest)

/-- The members up to the closing brace. -/
def members : Nat → Nat → Bool → List Char → Reading (List (String × Json))
  | 0, _, _, cs => atNext .tooDeep cs
  | fuel + 1, depth, first, cs =>
    match skipBlanks cs with
    | [] => atEnd .endInObject
    | '}' :: rest => .ok ([], rest)
    | c :: rest =>
      if first then
        if c = '"' then member fuel depth rest else atNext .keyMustBeString (c :: rest)
      else if c = ',' then
        match skipBlanks rest with
        | [] => atEnd .endInValue
        | '"' :: rest => member fuel depth rest
        | '}' :: rest => atNext .trailingComma ('}' :: rest)
        | next => atNext .keyMustBeString next
      else atNext .expectedCommaOrBrace (c :: rest)

/-- One member, after the opening quote of its name, and those after it. -/
def member : Nat → Nat → List Char → Reading (List (String × Json))
  | 0, _, cs => atNext .tooDeep cs
  | fuel + 1, depth, cs =>
    match stringBody fuel [] cs with
    | .error stop => .error stop
    | .ok (name, rest) =>
      match skipBlanks rest with
      | [] => atEnd .endInObject
      | ':' :: rest =>
        match value fuel depth rest with
        | .error stop => .error stop
        | .ok (v, rest) =>
          (members fuel depth false rest).map fun (ms, rest) => ((name, v) :: ms, rest)
      | next => atNext .expectedColon next

end

/-- Arrays and objects that may be open at once. -/
def depthLimit : Nat := 127

/-- Places a fault in the whole text. -/
def Stop.locate (text : List Char) (stop : Stop) : ParseError :=
  let index := byteCount text - byteCount stop.rest + stop.covered
  let (line, column) := positionAfter text index 1 0
  ⟨stop.fault, line, column⟩

/-- A whole text is one value between blanks. -/
def document (text : List Char) : Except Stop Json :=
  match value (3 * text.length + 3) depthLimit text with
  | .error stop => .error stop
  | .ok (v, rest) =>
    match skipBlanks rest with
    | [] => .ok v
    | next => atNext .trailingCharacters next

def parse (text : String) : Except ParseError Json :=
  (document text.toList).mapError (·.locate text.toList)

/-- The document in a text, nothing where the text is none. -/
def parse? (text : String) : Option Json := (parse text).toOption

end BulkActions.Json
