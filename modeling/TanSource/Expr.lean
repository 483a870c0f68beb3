import TanSource.Coercion

/-!
# Expressions

What tan source denotes: atoms and lists of expressions. An atom is read from one token, whose value
is coerced to the sort that the atom holds.
-/

namespace TanSource

/-- An expression. The contents of a function are of no concern here. -/
inductive Expr
  | unit
  | bool (b : Bool)
  | int (n : Int)
  | float (x : Binary64)
  | symbol (s : Text)
  | string (s : Text)
  | list (terms : List Expr)
  | function
  deriving Inhabited

def trueWord : Text := ['t', 'r', 'u', 'e']

def falseWord : Text := ['f', 'a', 'l', 's', 'e']

namespace Expr

def ofWord (word : Text) : Expr :=
  if word = trueWord then .bool true
  else if word = falseWord then .bool false
  else .symbol word

section

variable [Coercion]

/-- The expression that the value of a symbol denotes. Only the words themselves are truth values;
what becomes such a word by coercion is a symbol. -/
def ofSymbol? (value : Value) : Option Expr :=
  if value = .text trueWord then some (.bool true)
  else if value = .text falseWord then some (.bool false)
  else (Coercion.text? value).map .symbol

def ofToken? (t : Token) : Option Expr :=
  match t.kind with
  | .string => (Coercion.text? t.value).map .string
  | .symbol => ofSymbol? t.value
  | .int => (Coercion.int? t.value).map .int
  | .float => (Coercion.float? t.value).map .float
  | _ => none

@[simp] theorem ofSymbol?_text (word : Text) : ofSymbol? (.text word) = some (ofWord word) := by
  unfold ofSymbol? ofWord
  split
  · simp_all
  · split <;> simp_all

end

def quotation (e : Expr) : Expr :=
  .list [.symbol ['q', 'u', 'o', 't'], e]

/-- The symbol in front of the terms of a list in square brackets or braces. -/
def head? : Bracket → Option Text
  | .paren => none
  | .square => some ['A', 'r', 'r', 'a', 'y']
  | .brace => some ['D', 'i', 'c', 't']

def withHead (family : Bracket) (terms : List Expr) : List Expr :=
  match head? family with
  | none => terms
  | some word => .symbol word :: terms

def ofTerms : List Expr → Expr
  | [] => .unit
  | e :: es => .list (e :: es)

end Expr

end TanSource
