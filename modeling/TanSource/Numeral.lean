import TanSource.Token
import TanSource.Binary64.Reading

/-!
# Numerals

The words of tan source that denote numbers: an optional minus sign, digits, and optionally a
fraction, an exponent, or both. Underscores may stand behind the first digit and anywhere in the
fraction; they carry no meaning. A numeral with a fraction or an exponent denotes a floating point
number, any other an integer.
-/

namespace TanSource

/-- A numeral by its parts, without underscores. -/
structure Numeral where
  negative : Bool
  whole : Text
  fraction? : Option Text
  exponent? : Option Int
  deriving DecidableEq

namespace Numeral

/-- Digits and underscores make up the whole part and the fraction. -/
def isPartChar (c : Char) : Bool :=
  c.isDigit || c = '_'

def partDigits (part : Text) : Text :=
  part.filter (· ≠ '_')

/-- Takes a fraction off the front: a point and at least one digit or underscore. Without a point
there is no fraction, and a bare point is refused. -/
def splitFraction? : Text → Option (Option Text × Text)
  | '.' :: rest =>
      let part := rest.takeWhile isPartChar
      if part = [] then none else some (some (partDigits part), rest.dropWhile isPartChar)
  | rest => some (none, rest)

def endExponent? : Text → Option (Option Int)
  | [] => some none
  | rest => (readExponent? rest).map some

def ofUnsigned? (negative : Bool) : Text → Option Numeral
  | [] => none
  | c :: rest =>
      if c.isDigit then do
        let whole := c :: partDigits (rest.takeWhile isPartChar)
        let (fraction?, afterFraction) ← splitFraction? (rest.dropWhile isPartChar)
        let exponent? ← endExponent? afterFraction
        return ⟨negative, whole, fraction?, exponent?⟩
      else none

def ofWord? : Text → Option Numeral
  | '-' :: rest => ofUnsigned? true rest
  | word => ofUnsigned? false word

def toBinary64 (n : Numeral) : Binary64 :=
  (Decimal.ofDigits n.whole (n.fraction?.getD []) (n.exponent?.getD 0)).toBinary64 n.negative

def toInt (n : Numeral) : Int :=
  let magnitude : Int := Nat.ofDigitChars 10 n.whole 0
  if n.negative then -magnitude else magnitude

def isInteger (n : Numeral) : Bool :=
  n.fraction?.isNone && n.exponent?.isNone

end Numeral

end TanSource
