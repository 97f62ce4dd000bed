import PageSearch.Number.Single

/-!
# Decimal numbers

A decimal number is its digits, as a whole number, times a power of ten. It is turned into the
nearest double, which is infinite where the number is out of range. An exponent far out of range is
recognised from the size of the digits, before any power of ten is worked out.
-/

namespace PageSearch

/-- The number `digits * 10 ^ exponent`, or its negative. -/
structure Decimal where
  negative : Bool
  digits : Nat
  exponent : Int
  deriving DecidableEq

namespace Decimal

/-- The nearest double to the number without its sign. -/
def magnitude (d : Decimal) : Float :=
  let size : Int := d.digits.log2
  if d.digits = 0 || size + 1200 < 3 * -d.exponent then 0
  else if 1200 < size + 3 * d.exponent then Float.ofBits 0x7ff0000000000000
  else if 0 ≤ d.exponent then Float.ofScientific d.digits false d.exponent.toNat
  else Float.ofScientific d.digits true (-d.exponent).toNat

/-- The number as a double and then as a single, unless the double is infinite. -/
def single? (d : Decimal) : Option Single :=
  if d.magnitude.isInf then none
  else
    let x := Single.ofFloat32 d.magnitude.toFloat32
    some (if d.negative then x.neg else x)

end Decimal

end PageSearch
