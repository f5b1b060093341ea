import BulkActions.Decimal.Binary
import BulkActions.Decimal.Nearest

/-! A significand times a power of ten in double arithmetic: the significand is rounded first, and
the product or quotient with the rounded power is rounded again. -/

namespace BulkActions.Decimal

/-- The double nearest to a power of ten. -/
def powerOfTen (n : Nat) : Float := Float.ofScientific 1 false n

/-- The exponent of the greatest power of ten that is a finite double. -/
def greatestPower : Nat := 308

/-- Three divisions by the greatest power bring every significand of one word down to zero. -/
def scaleDown : Nat → Float → Nat → Float
  | 0, _, _ => 0.0
  | fuel + 1, x, exponent =>
    if exponent ≤ greatestPower then x / powerOfTen exponent
    else if x == 0.0 then x
    else scaleDown fuel (x / powerOfTen greatestPower) (exponent - greatestPower)

/-- Nothing where the product is no finite double. -/
def scale (significand : Nat) (exponent : Int) : Option Float :=
  let x := Float.ofNat significand
  if exponent < 0 then some (scaleDown 4 x exponent.natAbs)
  else if exponent ≤ greatestPower then
    let product := x * powerOfTen exponent.toNat
    if isFinite product.toBits then some product else none
  else if significand = 0 then some x
  else none

end BulkActions.Decimal
