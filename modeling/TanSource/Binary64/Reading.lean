import TanSource.Binary64.Decimal
import TanSource.Text.Blank
import TanSource.Text.DecimalDigit
import TanSource.Text.Unprintable

/-!
# Numbers in free text

A number that a caller gives as a text may be surrounded by blanks, have the digits of any script
and single underscores between digits. `plainNumber?` brings such a text to plain digits, from which
`readInt?` and `Binary64.ofText?` read.
-/

namespace TanSource

def trimNumber (s : Text) : Text :=
  ((s.dropWhile isNumberMargin).reverse.dropWhile isNumberMargin).reverse

/-- The plain digit for a digit of any script; other characters stay. -/
def plainDigit (c : Char) : Char :=
  match decimalValue? c with
  | some n => n.digitChar
  | none => c

/-- Takes out underscores, each of which has to stand between two digits. The first argument tells
whether a digit stands in front. -/
def dropSeparators? : Bool → Text → Option Text
  | _, [] => some []
  | afterDigit, '_' :: rest =>
      match rest with
      | c :: _ => if afterDigit && c.isDigit then dropSeparators? false rest else none
      | [] => none
  | _, c :: rest => (dropSeparators? c.isDigit rest).map (c :: ·)

def plainNumber? (s : Text) : Option Text :=
  dropSeparators? false ((trimNumber s).map plainDigit)

/-- Takes a sign off the front and tells whether it is a minus. -/
def splitSign : Text → Bool × Text
  | '-' :: rest => (true, rest)
  | '+' :: rest => (false, rest)
  | rest => (false, rest)

def isDigits (s : Text) : Bool :=
  !s.isEmpty && s.all Char.isDigit

def signedDigits? (s : Text) : Option Int :=
  let (negative, digits) := splitSign s
  if isDigits digits then
    let n := Nat.ofDigitChars 10 digits 0
    some (if negative then -(n : Int) else n)
  else none

def readInt? (s : Text) : Option Int := do
  let plain ← plainNumber? s
  if integerDigitLimit < (splitSign plain).2.length then none else signedDigits? plain

/-- The power of ten behind the digits: nothing, or `e` or `E` and a whole number. -/
def readExponent? : Text → Option Int
  | [] => some 0
  | c :: rest => if c = 'e' ∨ c = 'E' then signedDigits? rest else none

/-- Reads an unsigned decimal number with at least one digit in front of or behind the point. -/
def readDecimal? (s : Text) : Option Decimal :=
  let whole := s.takeWhile Char.isDigit
  let afterWhole := s.dropWhile Char.isDigit
  let (fraction, afterFraction) :=
    match afterWhole with
    | '.' :: rest => (rest.takeWhile Char.isDigit, rest.dropWhile Char.isDigit)
    | _ => ([], afterWhole)
  if whole = [] ∧ fraction = [] then none
  else (readExponent? afterFraction).map (Decimal.ofDigits whole fraction)

/-- Reads an unsigned number: a decimal number, or the name of infinity or of `nan` in letters of
either case. -/
def readMagnitude? (negative : Bool) (s : Text) : Option Binary64 :=
  match readDecimal? s with
  | some d => some (d.toBinary64 negative)
  | none =>
      let name := s.map Char.toLower
      if name = "inf".toList ∨ name = "infinity".toList then some (.infinite negative)
      else if name = "nan".toList then some .nan
      else none

def Binary64.ofText? (s : Text) : Option Binary64 := do
  let plain ← plainNumber? s
  let (negative, unsigned) := splitSign plain
  readMagnitude? negative unsigned

end TanSource
