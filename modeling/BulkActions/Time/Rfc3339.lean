import BulkActions.Decimal.Nearest
import BulkActions.Decode.Source
import BulkActions.Text.Blank
import BulkActions.Time.Instant

/-! Timestamps as text: a date, a separator, a time of day and an offset. Blanks may stand between
the parts, and a number may have fewer digits than usual. -/

namespace BulkActions.Time

inductive Fault where
  | outOfRange
  | impossible
  | invalid
  | tooShort
  | tooLong
  deriving DecidableEq, Repr

def Fault.message : Fault → String
  | .outOfRange => "input is out of range"
  | .impossible => "no possible date and time matching input"
  | .invalid => "input contains invalid characters"
  | .tooShort => "premature end of input"
  | .tooLong => "trailing input"

abbrev Attempt := Except Fault

def skipBlanks (cs : List Char) : List Char := cs.dropWhile Text.isBlank

/-- At least one digit and at most `width` of them. -/
def digits (width : Nat) (cs : List Char) : Attempt (List Char × List Char) :=
  let run := (cs.take width).takeWhile Char.isDigit
  match cs, run with
  | [], _ => .error .tooShort
  | _, [] => .error .invalid
  | _, run => .ok (run, cs.drop run.length)

/-- A number between two bounds. -/
def number (width low high : Nat) (cs : List Char) : Attempt (Nat × List Char) := do
  let (run, rest) ← digits width (skipBlanks cs)
  let n := Decimal.ofDigits run
  if low ≤ n ∧ n ≤ high then return (n, rest) else .error .outOfRange

/-- A year of four digits, or of any number of digits after a sign. -/
def year (cs : List Char) : Attempt (Int × List Char) :=
  match skipBlanks cs with
  | '-' :: rest => signed rest fun n => -n
  | '+' :: rest => signed rest id
  | cs => (digits 4 cs).map fun (run, rest) => (Decimal.ofDigits run, rest)
where
  signed (rest : List Char) (f : Int → Int) : Attempt (Int × List Char) := do
    let (run, rest) ← digits rest.length rest
    let n := f (Decimal.ofDigits run)
    if -Int.pow 2 31 ≤ n ∧ n < Int.pow 2 31 then return (n, rest) else .error .outOfRange

def literal (c : Char) (cs : List Char) : Attempt (List Char) :=
  match skipBlanks cs with
  | [] => .error .tooShort
  | d :: rest => if d = c then .ok rest else .error .invalid

/-- Nanoseconds, where a point follows the seconds. Digits after the ninth do not count. -/
def fraction (cs : List Char) : Attempt (Nat × List Char) :=
  match cs with
  | '.' :: rest => do
    let (run, rest) ← digits 9 rest
    return (Decimal.ofDigits run * Nat.pow 10 (9 - run.length), rest.dropWhile Char.isDigit)
  | cs => .ok (0, cs)

/-- Exactly two digits, of which the first is at most `most`. -/
def twoDigits (most : Char) (cs : List Char) : Attempt (Nat × List Char) :=
  match cs with
  | a :: b :: rest =>
    if a.isDigit && b.isDigit then
      if a ≤ most then .ok (Decimal.ofDigits [a, b], rest) else .error .outOfRange
    else .error .invalid
  | [c] => if c.utf8Size < 2 then .error .tooShort else .error .invalid
  | [] => .error .tooShort

def separatesOffset (c : Char) : Bool := c == ':' || Text.isBlank c

/-- Hours and minutes after the sign, in seconds. -/
def offsetSize (cs : List Char) : Attempt (Int × List Char) := do
  let (hours, rest) ← twoDigits '9' cs
  let (minutes, rest) ← twoDigits '5' (rest.dropWhile separatesOffset)
  return (((hours * 60 + minutes) * 60 : Nat), rest)

/-- The offset from universal time in seconds. -/
def offset (cs : List Char) : Attempt (Int × List Char) :=
  match skipBlanks cs with
  | [] => .error .tooShort
  | 'Z' :: rest | 'z' :: rest => .ok (0, rest)
  | '+' :: rest => offsetSize rest
  | '-' :: rest | '−' :: rest => (offsetSize rest).map fun (n, rest) => (-n, rest)
  | a :: b :: c :: rest =>
    if [a, b, c].map Char.toUpper = ['U', 'T', 'C'] then .ok (0, rest) else .error .invalid
  | _ => .error .invalid

def separator (cs : List Char) : Attempt (List Char) :=
  match cs with
  | [] => .error .tooShort
  | c :: rest => if c = 'T' || c = 't' || c = ' ' then .ok rest else .error .invalid

def leastYear : Int := -262143

def greatestYear : Int := 262142

/-- The instant of a local date and time. -/
def resolve (year : Int) (month day hour minute second nanosecond : Nat) (offset : Int) :
    Attempt Instant :=
  if year < leastYear ∨ greatestYear < year ∨ monthLength year month < day then .error .outOfRange
  else if offset ≤ -86400 ∨ 86400 ≤ offset then .error .outOfRange
  else
    let (second, nanosecond) :=
      if second = 60 then (59, nanosecond + 1000000000) else (second, nanosecond)
    let time := (hour * 60 + minute) * 60 + second
    let instant := (Instant.mk (Date.toDays ⟨year, month, day⟩) time nanosecond).minusSeconds offset
    let date := Date.ofDays instant.day
    if leastYear ≤ date.year ∧ date.year ≤ greatestYear then .ok instant else .error .impossible

def parse (text : String) : Attempt Instant := do
  let (year, cs) ← year text.toList
  let cs ← literal '-' cs
  let (month, cs) ← number 2 1 12 cs
  let cs ← literal '-' cs
  let (day, cs) ← number 2 1 31 cs
  let cs ← separator cs
  let (hour, cs) ← number 2 0 23 cs
  let cs ← literal ':' cs
  let (minute, cs) ← number 2 0 59 cs
  let cs ← literal ':' cs
  let (second, cs) ← number 2 0 60 cs
  let (nanosecond, cs) ← fraction cs
  let (offset, cs) ← offset cs
  if skipBlanks cs = [] then resolve year month day hour minute second nanosecond offset
  else .error .tooLong

/-- A number with leading zeros. -/
def padded (width n : Nat) : String :=
  let digits := Nat.toDigits 10 n
  String.ofList (List.replicate (width - digits.length) '0' ++ digits)

/-- Years of more than four digits, and those before year zero, carry their sign. -/
def yearText (year : Int) : String :=
  if 0 ≤ year ∧ year ≤ 9999 then padded 4 year.toNat
  else if year < 0 then "-" ++ padded 4 year.natAbs
  else "+" ++ padded 4 year.natAbs

/-- The least of zero, three, six and nine digits that is exact. -/
def fractionText (nanosecond : Nat) : String :=
  if nanosecond = 0 then ""
  else if nanosecond % 1000000 = 0 then "." ++ padded 3 (nanosecond / 1000000)
  else if nanosecond % 1000 = 0 then "." ++ padded 6 (nanosecond / 1000)
  else "." ++ padded 9 nanosecond

def format (i : Instant) : String :=
  let date := Date.ofDays i.day
  let second := i.second % 60 + i.nanosecond / 1000000000
  s!"{yearText date.year}-{padded 2 date.month}-{padded 2 date.day}T" ++
    s!"{padded 2 (i.second / 3600)}:{padded 2 (i.second / 60 % 60)}:{padded 2 second}" ++
    s!"{fractionText (i.nanosecond % 1000000000)}Z"

def decoder {σ : Type} [Decode.Source σ] : Decode.Decoder σ Instant := fun v =>
  match Decode.Source.shape v with
  | .text s => (parse s).mapError fun fault => .malformed fault.message
  | _ => Decode.wrongType v "an RFC 3339 formatted date and time string"

end BulkActions.Time
