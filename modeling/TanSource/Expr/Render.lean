import TanSource.Expr

/-!
# Expressions on one line

`Expr.render` writes an expression without line breaks of its own: a list in parentheses with single
spaces between its terms, texts as they are. The work that is left stands on a stack of pieces, so
the depth of an expression is not bounded by anything but its size. An integer of too many digits
cannot be written, and then the expression cannot be.
-/

namespace TanSource

/-- What is left to write: an expression or a single character. -/
inductive Piece
  | expr (e : Expr)
  | char (c : Char)

mutual

/-- A bound for the number of pieces that an expression is taken apart into. -/
def Expr.weight : Expr → Nat
  | .list terms => Expr.weights terms + 3
  | _ => 1

def Expr.weights : List Expr → Nat
  | [] => 0
  | e :: es => Expr.weight e + 1 + Expr.weights es

end

theorem Expr.weight_pos (e : Expr) : 0 < e.weight := by
  cases e <;> simp [weight]

namespace Piece

def weight : Piece → Nat
  | expr e => e.weight
  | char _ => 1

def weights : List Piece → Nat
  | [] => 0
  | p :: ps => p.weight + weights ps

def ofTerms (terms : List Expr) : List Piece :=
  char '(' :: ((terms.map expr).intersperse (char ' ') ++ [char ')'])

end Piece

namespace Expr

def atomText : Expr → Except Unprintable Text
  | .unit => .ok ['(', ')']
  | .bool true => .ok trueWord
  | .bool false => .ok falseWord
  | .int n => intText n
  | .float x => .ok x.text
  | .symbol s => .ok s
  | .string s => .ok s
  | .list _ => .ok []
  | .function => .ok "#<func>".toList

end Expr

namespace Piece

theorem weights_append (ps qs : List Piece) : weights (ps ++ qs) = weights ps + weights qs := by
  induction ps with
  | nil => simp [weights]
  | cons p ps ih => simp [weights, ih, Nat.add_assoc]

theorem weights_intersperse (terms : List Expr) :
    weights ((terms.map expr).intersperse (char ' ')) ≤ Expr.weights terms := by
  induction terms with
  | nil => simp [weights]
  | cons e es ih =>
      cases es with
      | nil => simp [weights, weight, Expr.weights]
      | cons f fs =>
          simp only [List.map_cons, List.intersperse_cons_cons, weights, weight,
            Expr.weights] at ih ⊢
          omega

/-- Taking a list apart leaves less work. -/
theorem weights_ofTerms (terms : List Expr) :
    weights (ofTerms terms) < (Expr.list terms).weight := by
  have h := weights_intersperse terms
  simp only [ofTerms, weights, weights_append, weight, Expr.weight]
  omega

/-- Writes a stack of pieces from the top, up to the first integer of too many digits. -/
def render : List Piece → Except Unprintable Text
  | [] => .ok []
  | .char c :: rest => (render rest).map (c :: ·)
  | .expr (.list terms) :: rest => render (ofTerms terms ++ rest)
  | .expr atom :: rest => atom.atomText.bind fun s => (render rest).map (s ++ ·)
termination_by pieces => weights pieces
decreasing_by
  · simp [weights, weight]
  · rw [weights_append]
    exact Nat.add_lt_add_right (weights_ofTerms terms) _
  · exact Nat.lt_add_of_pos_left (Expr.weight_pos atom)

end Piece

def Expr.render (e : Expr) : Except Unprintable Text :=
  Piece.render [.expr e]

end TanSource
