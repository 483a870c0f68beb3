import TanSource.Binary64.Reading

/-!
# Numbers spelled out

A token for a number that is made by hand may carry a text that spells the number. The digits are
plain ones and may have single underscores between them, and blanks around the text do not count. A
whole number may have zeros in front, and a point with nothing but zeros behind it.
-/

namespace TanSource

/-- Takes out underscores, each of which has to stand between two other characters. The first
argument tells whether another character stands in front. -/
def dropUnderscores? : Bool → Text → Option Text
  | _, [] => some []
  | afterOther, c :: rest =>
      if c = '_' then
        if afterOther && rest.head?.any (· ≠ '_') then dropUnderscores? false rest else none
      else (dropUnderscores? true rest).map (c :: ·)

/-- Takes zeros and the underscores among them off a text that has `last` in front, up to another
digit. In front of a point and at the end one character stays. -/
def skipZeros? (last : Char) : Text → Option Text
  | [] => some [last]
  | c :: rest =>
      if c = '0' ∨ c = '_' then skipZeros? c rest
      else if c = '.' then some (last :: c :: rest)
      else if c.isDigit then some (c :: rest)
      else none

def dropLeadingZeros? : Text → Option Text
  | [] => none
  | c :: rest =>
      if c = '0' then skipZeros? c rest
      else if c.isDigit ∨ c = '-' then some (c :: rest)
      else none

def dropPointZeros? (s : Text) : Option Text :=
  let whole := s.takeWhile (· ≠ '.')
  if ((s.dropWhile (· ≠ '.')).drop 1).all (· = '0') then some whole else none

/-- The whole number of a text with an optional minus sign and digits, which begin with zero only if
that is the only one. -/
def plainInt? (s : Text) : Option Int :=
  if integerDigitLimit < s.length then none
  else
    match s with
    | '-' :: '0' :: _ :: _ => none
    | _ => signedDigits? s

/-- The whole number that a text spells. A plus sign in front of it does not count. -/
def spelledInt? (s : Text) : Option Int := do
  let trimmed := trimNumber s
  let unsigned :=
    match trimmed with
    | '+' :: '-' :: _ => []
    | '+' :: rest => rest
    | _ => trimmed
  let whole ← dropPointZeros? (← dropLeadingZeros? unsigned)
  plainInt? (← dropUnderscores? false whole)

/-- The floating point number of a text with an optional sign and no underscores. -/
def plainFloat? (s : Text) : Option Binary64 :=
  let (negative, unsigned) := splitSign s
  readMagnitude? negative unsigned

/-- The floating point number that a text spells. Blanks around it and underscores in it do not go
together. -/
def spelledFloat? (s : Text) : Option Binary64 :=
  plainFloat? (trimNumber s) <|> (dropUnderscores? false s).bind plainFloat?

end TanSource
