/-! The layout of a double: sign, exponent field and fraction field of its sixty-four bits. -/

namespace BulkActions.Decimal

/-- A finite nonnegative double as `mantissa * 2 ^ exponent`. -/
structure Binary where
  mantissa : Nat
  exponent : Int
  deriving DecidableEq, Repr

/-- The exponent field of a double, all ones for infinities and NaN. -/
def exponentField (bits : UInt64) : Nat := (bits.toNat / Nat.pow 2 52) % Nat.pow 2 11

def fractionField (bits : UInt64) : Nat := bits.toNat % Nat.pow 2 52

def isFinite (bits : UInt64) : Bool := exponentField bits != 2047

def isNegative (bits : UInt64) : Bool := bits.toNat ≥ Nat.pow 2 63

/-- The magnitude of a finite double. -/
def Binary.ofBits (bits : UInt64) : Binary :=
  if exponentField bits = 0 then ⟨fractionField bits, -1074⟩
  else ⟨fractionField bits + Nat.pow 2 52, (exponentField bits : Int) - 1075⟩

end BulkActions.Decimal
