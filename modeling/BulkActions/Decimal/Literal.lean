import BulkActions.Decimal.Nearest

/-! Numbers written out as a whole text: a sign may stand in front, and nothing may follow. -/

namespace BulkActions.Decimal

def isDigits (cs : List Char) : Bool := !cs.isEmpty && cs.all Char.isDigit

/-- A natural number of any number of digits. -/
def natural? (cs : List Char) : Option Nat :=
  if isDigits cs then some (ofDigits cs) else none

/-- An integer with an optional sign of either kind. -/
def integer? : List Char → Option Int
  | '+' :: rest => (natural? rest).map Int.ofNat
  | '-' :: rest => (natural? rest).map fun n => -(n : Int)
  | cs => (natural? cs).map Int.ofNat

/-- An index from either end of a list fits in a signed word. -/
def index? (cs : List Char) : Option Int :=
  (integer? cs).filter fun n => -Int.pow 2 63 ≤ n && n < Int.pow 2 63

/-- A count fits in an unsigned word; it takes a plus sign and no minus sign. -/
def count? : List Char → Option Nat
  | '+' :: rest => (natural? rest).filter (· < Nat.pow 2 64)
  | cs => (natural? cs).filter (· < Nat.pow 2 64)

/-- The exponent of a double after its mark. -/
def exponent? : List Char → Option Int
  | [] => some 0
  | mark :: rest => if mark = 'e' || mark = 'E' then integer? rest else none

/-- An unsigned double: digits before or after the point, or both. -/
def magnitude? (cs : List Char) : Option Float :=
  let (whole, rest) := cs.span Char.isDigit
  let (fraction, rest) :=
    match rest with
    | '.' :: rest => rest.span Char.isDigit
    | rest => ([], rest)
  if whole.isEmpty && fraction.isEmpty then none
  else
    (exponent? rest).map fun exponent =>
      nearest (ofDigits (whole ++ fraction)) (exponent - fraction.length)

def lowerAscii (cs : List Char) : List Char := cs.map Char.toLower

/-- A double without its sign; the words for infinity and for no number count as doubles. -/
def unsigned? (cs : List Char) : Option Float :=
  let word := lowerAscii cs
  if word = ['i', 'n', 'f'] || word = ['i', 'n', 'f', 'i', 'n', 'i', 't', 'y'] then
    some (1.0 / 0.0)
  else if word = ['n', 'a', 'n'] then some (0.0 / 0.0)
  else magnitude? cs

def double? : List Char → Option Float
  | '+' :: rest => unsigned? rest
  | '-' :: rest => (unsigned? rest).map fun x => -x
  | cs => unsigned? cs

end BulkActions.Decimal
