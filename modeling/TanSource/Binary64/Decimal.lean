import TanSource.Binary64

/-!
# Decimal numbers and their nearest binary number

A decimal number is a whole number of powers of ten. `Decimal.magnitude?` rounds it correctly: the
exact quotient is formed first and rounded once.
-/

namespace TanSource

structure Decimal where
  digits : Nat
  exponent : Int
  deriving DecidableEq

namespace Decimal

/-- The decimal number with these digits before and after the point, times a power of ten. -/
def ofDigits (whole fraction : Text) (exponent : Int) : Decimal :=
  ⟨Nat.ofDigitChars 10 (whole ++ fraction) 0, exponent - fraction.length⟩

/-- The nearest magnitude, or none when it is too large. Numbers from `10 ^ 400` on and below
`10 ^ -400` are decided without forming the power of ten. -/
def magnitude? (d : Decimal) : Option Magnitude :=
  if d.digits = 0 then some Magnitude.zero
  else if 400 < d.exponent then none
  else if d.exponent + d.digits.log2 < -400 then some Magnitude.zero
  else Magnitude.ofRatio? (d.digits * Nat.pow 10 d.exponent.toNat) (Nat.pow 10 (-d.exponent).toNat)

def toBinary64 (negative : Bool) (d : Decimal) : Binary64 :=
  Binary64.ofMagnitude? negative d.magnitude?

end Decimal

end TanSource
