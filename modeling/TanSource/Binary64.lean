import TanSource.Text

/-!
# Binary floating point numbers with 53 significant bits

A finite number is a sign and a magnitude, and a magnitude is a whole multiple of the smallest
positive number `2 ^ -1074`. Its significand and scale are canonical, so that equal magnitudes are
equal values. All arithmetic is on natural numbers; the one operation that loses digits is
`Magnitude.ofRatio?`, which rounds a quotient to the nearest magnitude.
-/

namespace TanSource

/-- The significand fills 53 bits, unless the magnitude is below `2 ^ -1022`; the scale stays below
the one that infinity would have. -/
def CanonicalScale (significand scale : Nat) : Prop :=
  significand < Nat.pow 2 53 ∧ (Nat.pow 2 52 ≤ significand ∨ scale = 0) ∧ scale ≤ 2045

instance (significand scale : Nat) : Decidable (CanonicalScale significand scale) :=
  inferInstanceAs (Decidable (_ ∧ _))

/-- The magnitude `significand * 2 ^ scale`, in units of `2 ^ -1074`. -/
structure Magnitude where
  significand : Nat
  scale : Nat
  canonical : CanonicalScale significand scale
  deriving DecidableEq

inductive Binary64
  | finite (negative : Bool) (magnitude : Magnitude)
  | infinite (negative : Bool)
  | nan
  deriving DecidableEq

/-- The quotient rounded to the nearest whole number, a half going to the even neighbour. -/
def roundQuotient (numerator denominator : Nat) : Nat :=
  let quotient := numerator / denominator
  let rest := numerator % denominator
  if 2 * rest > denominator ∨ 2 * rest = denominator ∧ quotient % 2 = 1 then quotient + 1
  else quotient

namespace Magnitude

/-- The magnitude as a count of units of `2 ^ -1074`. -/
def units (x : Magnitude) : Nat :=
  x.significand * Nat.pow 2 x.scale

def unitsInOne : Nat :=
  Nat.pow 2 1074

def zero : Magnitude :=
  ⟨0, 0, by decide⟩

/-- The magnitude with this significand and scale. A significand that rounding has brought to 54
bits is halved, and there is none above the largest magnitude. -/
def ofScaled? (significand scale : Nat) : Option Magnitude :=
  if h : CanonicalScale significand scale then some ⟨significand, scale, h⟩
  else if h : CanonicalScale (significand / 2) (scale + 1) then some ⟨significand / 2, scale + 1, h⟩
  else none

/-- The magnitude nearest to a quotient, a tie going to the even significand. There is none when the
quotient is beyond the largest magnitude by half a unit or more. -/
def ofRatio? (numerator denominator : Nat) : Option Magnitude :=
  let units := numerator * unitsInOne
  let scale := (units / denominator).log2 - 52
  ofScaled? (roundQuotient units (denominator * Nat.pow 2 scale)) scale

def toNat? (x : Magnitude) : Option Nat :=
  if x.units % unitsInOne = 0 then some (x.units / unitsInOne) else none

end Magnitude

namespace Binary64

/-- The number with this sign and magnitude; without a magnitude it is infinite. -/
def ofMagnitude? (negative : Bool) : Option Magnitude → Binary64
  | some magnitude => .finite negative magnitude
  | none => .infinite negative

/-- The number nearest to a whole number, or none when all finite numbers are too small. -/
def ofInt? (n : Int) : Option Binary64 :=
  (Magnitude.ofRatio? n.natAbs 1).map (.finite (n < 0))

/-- The whole number that a number is. Infinities, `nan` and numbers with a fraction have none. -/
def toInt? : Binary64 → Option Int
  | .finite negative magnitude =>
      magnitude.toNat?.map fun n => if negative then -(n : Int) else n
  | .infinite _ => none
  | .nan => none

def isFinite : Binary64 → Bool
  | .finite _ _ => true
  | .infinite _ => false
  | .nan => false

end Binary64

end TanSource
