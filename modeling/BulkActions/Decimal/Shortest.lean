import BulkActions.Decimal.Binary

/-! The fewest decimal digits that identify a finite double, and of those the nearest. The search
runs in exact arithmetic over the interval of reals that round to the double. -/

namespace BulkActions.Decimal

/-- The value `digits * 10 ^ exponent`. -/
structure Digits where
  digits : Nat
  exponent : Int
  deriving DecidableEq, Repr

/-- The reals that round to a double, in quarters of its last place. The ends belong to the
interval exactly when the mantissa is even. -/
structure Interval where
  low : Nat
  high : Nat
  closed : Bool
  deriving DecidableEq, Repr

/-- Below a power of two the neighbour is half as far away as above it. -/
def Binary.interval (b : Binary) : Interval where
  low := if b.mantissa = Nat.pow 2 52 ∧ b.exponent ≠ -1074 then 4 * b.mantissa - 1
    else 4 * b.mantissa - 2
  high := 4 * b.mantissa + 2
  closed := b.mantissa % 2 == 0

def Interval.contains (i : Interval) (value lowScaled highScaled : Nat) : Bool :=
  if i.closed then lowScaled ≤ value && value ≤ highScaled
  else lowScaled < value && value < highScaled

/-- The number of decimal digits of a natural number. -/
def width (n : Nat) : Nat := (Nat.toDigits 10 n).length

/-- The `k` with `10 ^ (k - 1) ≤ value < 10 ^ k`, read off a scaled integer part. -/
def Binary.magnitude (b : Binary) : Int :=
  let r := b.exponent
  (width (b.mantissa * Nat.pow 2 r.toNat * Nat.pow 10 400 / Nat.pow 2 (-r).toNat) : Int) - 400

/-- The neighbours of a double on the grid of multiples of `10 ^ grid`: the nearer one that
rounds to it, the even one of a tie. -/
def Binary.onGrid (b : Binary) (grid : Int) : Option Digits :=
  let r := b.exponent - 2
  let decimal := Nat.pow 10 grid.toNat * Nat.pow 2 (-r).toNat
  let binary := Nat.pow 2 r.toNat * Nat.pow 10 (-grid).toNat
  let value := 4 * b.mantissa * binary
  let low := b.interval.low * binary
  let high := b.interval.high * binary
  let below := value / decimal
  let above := below + 1
  let belowFits := b.interval.contains (below * decimal) low high
  let aboveFits := b.interval.contains (above * decimal) low high
  let downward := value - below * decimal
  let upward := above * decimal - value
  if belowFits && aboveFits then
    if downward < upward || (downward == upward && below % 2 == 0) then some ⟨below, grid⟩
    else some ⟨above, grid⟩
  else if belowFits then some ⟨below, grid⟩
  else if aboveFits then some ⟨above, grid⟩
  else none

/-- The first grid with a hit, from one digit on. -/
def Binary.search (b : Binary) (magnitude : Int) : Nat → Nat → Option Digits
  | 0, _ => none
  | fuel + 1, count =>
    match b.onGrid (magnitude - count) with
    | some found => some found
    | none => b.search magnitude fuel (count + 1)

/-- Moves trailing zeros into the exponent. -/
def Digits.normalize : Nat → Digits → Digits
  | 0, d => d
  | fuel + 1, d =>
    if d.digits % 10 = 0 ∧ d.digits ≠ 0 then normalize fuel ⟨d.digits / 10, d.exponent + 1⟩
    else d

/-- Seventeen digits identify every double, so the search ends before its last grid. -/
def shortest (bits : UInt64) : Digits :=
  let b := Binary.ofBits bits
  if b.mantissa = 0 then ⟨0, 0⟩
  else
    match b.search b.magnitude 17 1 with
    | some found => found.normalize 17
    | none => ⟨b.mantissa, 0⟩

end BulkActions.Decimal
