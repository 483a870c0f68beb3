import TanSource.Binary64.Decimal

/-!
# The shortest decimal text of a binary number

A finite number is written with the fewest digits that read back as the same number; among those of
that length with the ones nearest to it, a tie going to the even last digit. Numbers from `0.0001`
up to `10 ^ 16` have a decimal point in place and always a digit behind it, others an exponent with
a sign and at least two digits.
-/

namespace TanSource

namespace Magnitude

/-- The decimal exponent of the first digit: `x` is at least `10 ^ leadingExponent` and less than
ten times as much. Scaling by `10 ^ 330` leaves whole digits of every magnitude but zero. -/
def leadingExponent (x : Magnitude) : Int :=
  (Nat.toDigits 10 (x.units * Nat.pow 10 330 / unitsInOne)).length - 331

def isReadFrom (x : Magnitude) (d : Decimal) : Bool :=
  d.magnitude? = some x

/-- The multiple of `10 ^ exponent` that is nearest to the magnitude, provided that one of the two
neighbours on that grid reads back. -/
def nearestDecimal? (x : Magnitude) (exponent : Int) : Option Decimal :=
  let numerator := x.units * Nat.pow 10 (-exponent).toNat
  let denominator := unitsInOne * Nat.pow 10 exponent.toNat
  let below : Decimal := ⟨numerator / denominator, exponent⟩
  let above : Decimal := ⟨numerator / denominator + 1, exponent⟩
  match x.isReadFrom below, x.isReadFrom above with
  | true, true => some ⟨roundQuotient numerator denominator, exponent⟩
  | true, false => some below
  | false, true => some above
  | false, false => none

def exactDecimal (x : Magnitude) : Decimal :=
  ⟨x.units * Nat.pow 5 1074, -1074⟩

/-- The shortest decimal number that reads back. Seventeen digits always suffice. -/
def shortestDecimal (x : Magnitude) : Decimal :=
  let leading := x.leadingExponent
  ((List.range 17).findSome? fun (n : Nat) => x.nearestDecimal? (leading - n)).getD x.exactDecimal

end Magnitude

namespace Decimal

def significantDigits (d : Decimal) : Text :=
  ((Nat.toDigits 10 d.digits).reverse.dropWhile (· = '0')).reverse

def firstExponent (d : Decimal) : Int :=
  d.exponent + (Nat.toDigits 10 d.digits).length - 1

end Decimal

structure FloatLayout where
  /-- Numbers below `10 ^ pointLow` have an exponent. -/
  pointLow : Int
  /-- Numbers from `10 ^ pointHigh` on have an exponent. -/
  pointHigh : Int
  /-- Least count of digits of an exponent. -/
  exponentWidth : Nat

namespace FloatLayout

/-- Numbers in the source language have a point in place between `10 ^ -4` and `10 ^ 16`, and two
digits in an exponent. -/
def source : FloatLayout :=
  ⟨-4, 16, 2⟩

def exponentText (layout : FloatLayout) (e : Int) : Text :=
  let digits := Nat.toDigits 10 e.natAbs
  'e' :: (if e < 0 then '-' else '+') ::
    (List.replicate (layout.exponentWidth - digits.length) '0' ++ digits)

/-- Digits with a decimal point behind `count` of them, filled up with zeros on both sides so that
the point stands between digits. -/
def pointText (digits : Text) (count : Int) : Text :=
  if count ≤ 0 then
    '0' :: '.' :: (List.replicate (-count).toNat '0' ++ digits)
  else
    let whole := digits.take count.toNat
    let fraction := digits.drop count.toNat
    whole ++ List.replicate (count.toNat - digits.length) '0' ++
      '.' :: (if fraction = [] then ['0'] else fraction)

/-- The text of digits the first of which counts `10 ^ e`. -/
def digitsText (layout : FloatLayout) (digits : Text) (e : Int) : Text :=
  if layout.pointLow ≤ e ∧ e < layout.pointHigh then pointText digits (e + 1)
  else
    match digits with
    | [] => layout.exponentText e
    | [d] => d :: layout.exponentText e
    | d :: ds => d :: '.' :: (ds ++ layout.exponentText e)

def magnitudeText (layout : FloatLayout) (x : Magnitude) : Text :=
  if x.significand = 0 then ['0', '.', '0']
  else
    let d := x.shortestDecimal
    layout.digitsText d.significantDigits d.firstExponent

end FloatLayout

def signText (negative : Bool) : Text :=
  if negative then ['-'] else []

def Binary64.text : Binary64 → Text
  | .finite negative magnitude =>
      signText negative ++ FloatLayout.source.magnitudeText magnitude
  | .infinite negative => signText negative ++ ['i', 'n', 'f']
  | .nan => ['n', 'a', 'n']

end TanSource
