import TanSource.Text

/-!
# Blank characters

Blanks separate the items of a source text and surround a number that is read from a text. They are
the white space of Unicode together with the four separators `0x1C` to `0x1F`.
-/

namespace TanSource

def blankRanges : CodeRanges :=
  [(0x09, 0x0D), (0x1C, 0x20), (0x85, 0x85), (0xA0, 0xA0), (0x1680, 0x1680), (0x2000, 0x200A),
    (0x2028, 0x2029), (0x202F, 0x202F), (0x205F, 0x205F), (0x3000, 0x3000)]

def isBlank (c : Char) : Bool :=
  blankRanges.holds c

/-- Information separators are blank between items, but not around a number. -/
def isNumberMargin (c : Char) : Bool :=
  isBlank c && !(0x1C ≤ c.toNat && c.toNat ≤ 0x1F)

end TanSource
