import TanSource.Token

/-!
# Values for expressions

An expression holds an integer, a floating point number or a text, and a token may carry a value of
any other sort. What is then made of the value is up to those who check it. All that reading relies
on is that a value of the right sort is kept as it is.
-/

namespace TanSource

/-- How values are brought to the sort that an expression holds. -/
class Coercion where
  int? : Value → Option Int
  float? : Value → Option Binary64
  text? : Value → Option Text
  int?_int (n : Int) : int? (.int n) = some n
  float?_float (x : Binary64) : float? (.float x) = some x
  text?_text (s : Text) : text? (.text s) = some s

attribute [simp] Coercion.int?_int Coercion.float?_float Coercion.text?_text

end TanSource
