/-! The double nearest to a decimal, with the exponents that cannot matter cut off first. -/

namespace BulkActions.Decimal

/-- The double nearest to `mantissa * 10 ^ exponent`. Beyond four hundred places of the point
every nonzero decimal is infinite or zero, so no larger power is formed. -/
def nearest (mantissa : Nat) (exponent : Int) : Float :=
  if mantissa = 0 then 0.0
  else
    let magnitude := ((Nat.toDigits 10 mantissa).length : Int) + exponent
    if magnitude > 400 then Float.ofScientific 1 false 400
    else if magnitude < -400 then 0.0
    else Float.ofScientific mantissa (exponent < 0) exponent.natAbs

/-- The value of a run of decimal digits. -/
def ofDigits (digits : List Char) : Nat := Nat.ofDigitChars 10 digits 0

end BulkActions.Decimal
