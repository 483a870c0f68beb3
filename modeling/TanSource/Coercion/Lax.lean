import TanSource.Coercion
import TanSource.Numeral.Spelling

/-!
# A lax coercion

Numbers are taken in whatever way they are given, as long as nothing is lost: an integer for a
floating point number, a floating point number without a fraction for an integer, and texts that
spell numbers. Nothing but a text is taken for a text.
-/

namespace TanSource.Coercion

/-- Floating point numbers stand for integers below this magnitude, which is `2 ^ 63`. -/
def wholeFloatLimit : Nat := 9223372036854775808

def laxInt? : Value → Option Int
  | .int n => some n
  | .float x => x.toInt?.filter fun n => n.natAbs < wholeFloatLimit
  | .text s => spelledInt? s
  | .absent => none

def laxFloat? : Value → Option Binary64
  | .float x => some x
  | .int n => Binary64.ofInt? n
  | .text s => spelledFloat? s
  | .absent => none

def laxText? : Value → Option Text
  | .text s => some s
  | _ => none

abbrev lax : Coercion where
  int? := laxInt?
  float? := laxFloat?
  text? := laxText?
  int?_int _ := rfl
  float?_float _ := rfl
  text?_text _ := rfl

end TanSource.Coercion
