/-!
# Text

Source text, formatted output and the values of tokens are lists of code points. Indexes and columns
count the elements of such a list, so every statement about a place in a text is a statement about
`List.take` and `List.drop`.
-/

namespace TanSource

abbrev Text := List Char

/-- As many spaces as the number says. A negative number gives none. -/
def blanks (n : Int) : Text :=
  List.replicate n.toNat ' '

@[simp] theorem length_blanks (n : Int) : (blanks n).length = n.toNat := by
  simp [blanks]

theorem eq_space_of_mem_blanks {n : Int} {c : Char} (h : c ∈ blanks n) : c = ' ' :=
  List.eq_of_mem_replicate h

def decimalText (n : Int) : Text :=
  if n < 0 then '-' :: Nat.toDigits 10 n.natAbs else Nat.toDigits 10 n.natAbs

def decimalString (n : Int) : String :=
  String.ofList (decimalText n)

/-- Closed ranges of code points, each given by its first and last number. -/
abbrev CodeRanges := List (Nat × Nat)

namespace CodeRanges

def holds (ranges : CodeRanges) (c : Char) : Bool :=
  ranges.any fun range => range.1 ≤ c.toNat && c.toNat ≤ range.2

theorem holds_iff {ranges : CodeRanges} {c : Char} :
    ranges.holds c = true ↔ ∃ range ∈ ranges, range.1 ≤ c.toNat ∧ c.toNat ≤ range.2 := by
  simp [holds]

end CodeRanges

end TanSource
