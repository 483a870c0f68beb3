import TanSource.Text

/-!
# Positions in a text

A position counts the characters, the lines and the columns up to a place in a text. The place
behind a text is found by stepping over its characters one by one.
-/

namespace TanSource

/-- A place in a text: characters before it, and its line and column counted from one. -/
structure Position where
  index : Nat := 0
  line : Nat := 1
  column : Nat := 1
  deriving DecidableEq, Inhabited

namespace Position

/-- The place behind one character. A line feed starts a new line. -/
def past (p : Position) (c : Char) : Position :=
  if c = '\n' then ⟨p.index + 1, p.line + 1, 1⟩ else ⟨p.index + 1, p.line, p.column + 1⟩

def after (p : Position) (s : Text) : Position :=
  s.foldl past p

@[simp] theorem after_nil (p : Position) : p.after [] = p := rfl

@[simp] theorem after_cons (p : Position) (c : Char) (s : Text) :
    p.after (c :: s) = (p.past c).after s := rfl

theorem after_append (p : Position) (s t : Text) : p.after (s ++ t) = (p.after s).after t := by
  simp [after]

@[simp] theorem index_past (p : Position) (c : Char) : (p.past c).index = p.index + 1 := by
  unfold past
  split <;> rfl

@[simp] theorem index_after (p : Position) (s : Text) :
    (p.after s).index = p.index + s.length := by
  induction s generalizing p with
  | nil => rfl
  | cons c s ih => simp [ih, Nat.add_assoc, Nat.add_comm 1]

end Position

structure Span where
  start : Position := {}
  stop : Position := {}
  deriving DecidableEq, Inhabited

end TanSource
