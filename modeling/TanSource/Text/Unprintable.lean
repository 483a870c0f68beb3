import TanSource.Text.Quoted

/-!
# What cannot be written

An integer is written with at most 4300 digits, and a row of spaces has a length that fits a signed
index of 64 bits. Beyond that the text is refused, and so is whatever it would be a part of. A
negative length gives no spaces, but has to fit as well.
-/

namespace TanSource

inductive Unprintable
  | missing
  | unreadable (s : Text)
  | tooLarge
  | tooManyDigits
  | tooWide
  deriving DecidableEq

/-- Conversions between an integer and its digits stop at this many digits. -/
def integerDigitLimit : Nat := 4300

def Unprintable.message : Unprintable → String
  | missing => "no value to convert to float"
  | unreadable s => "could not convert string to float: " ++ String.ofList s.quoted
  | tooLarge => "integer too large to convert to float"
  | tooManyDigits =>
      "Exceeds the limit (" ++ toString integerDigitLimit ++
        " digits) for integer string conversion; " ++
        "use sys.set_int_max_str_digits() to increase the limit"
  | tooWide => "cannot fit 'int' into an index-sized integer"

/-- The sign does not count among the digits. -/
def FewDigits (n : Int) : Prop :=
  (Nat.toDigits 10 n.natAbs).length ≤ integerDigitLimit

instance (n : Int) : Decidable (FewDigits n) :=
  inferInstanceAs (Decidable (_ ≤ _))

def intText (n : Int) : Except Unprintable Text :=
  if FewDigits n then .ok (decimalText n) else .error .tooManyDigits

theorem intText_of_fewDigits {n : Int} (h : FewDigits n) : intText n = .ok (decimalText n) :=
  if_pos h

def FitsIndex (n : Int) : Prop :=
  -9223372036854775808 ≤ n ∧ n < 9223372036854775808

instance (n : Int) : Decidable (FitsIndex n) :=
  inferInstanceAs (Decidable (_ ∧ _))

theorem fitsIndex_zero : FitsIndex 0 := by
  decide

def spaces (n : Int) : Except Unprintable Text :=
  if FitsIndex n then .ok (blanks n) else .error .tooWide

theorem spaces_of_fitsIndex {n : Int} (h : FitsIndex n) : spaces n = .ok (blanks n) :=
  if_pos h

theorem spaces_of_not_fitsIndex {n : Int} (h : ¬FitsIndex n) : spaces n = .error .tooWide :=
  if_neg h

end TanSource
