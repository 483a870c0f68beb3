import TanSource.Log
import TanSource.Text.DecimalDigit
import TanSource.Text.Word

/-!
# The line of a log record

The format of a log line is a text with fields, such as `%(message)s`, in place of which the parts
of a record are written. A doubled percent sign stands for a single one. A format without any field
is refused (`isLineFormat`).
-/

namespace TanSource

/-! ## Formats -/

/-- Takes the width of a field off the front: a star or a row of digits, which may be empty. -/
def dropWidth : Text → Text
  | '*' :: rest => rest
  | rest => rest.dropWhile fun c => (decimalValue? c).isSome

/-- Takes the precision of a field off the front. There may be none, but a point needs it. -/
def dropPrecision? : Text → Option Text
  | '.' :: rest => if dropWidth rest = rest then none else some (dropWidth rest)
  | rest => some rest

/-- The letters of conversions, in either case, the three letters of other alphabets that have these
as their lower or upper case, and the percent sign. -/
def conversionChars : Text :=
  "diouxefgcrsaDIOUXEFGCRSA%İıſ".toList

/-- Does the text behind a percent sign begin with the rest of a field: a name in parentheses,
flags, a width, a precision and a conversion? -/
def beginsField : Text → Bool
  | '(' :: rest =>
      match rest.takeWhile isWordChar, rest.dropWhile isWordChar with
      | _ :: _, ')' :: tail =>
          let behindFlags := tail.dropWhile fun c => c ∈ ['#', '0', '+', ' ', '-']
          match dropPrecision? (dropWidth behindFlags) with
          | some (c :: _) => c ∈ conversionChars
          | _ => false
      | _, _ => false
  | _ => false

def hasField : Text → Bool
  | [] => false
  | c :: rest => (c = '%' && beginsField rest) || hasField rest

/-- An empty format stands for that of the message alone. -/
def isLineFormat (format : Text) : Bool :=
  format.isEmpty || hasField format

/-! ## Lines -/

structure LogEntry where
  name : String
  level : Int
  message : String

namespace LogEntry

/-- The part of the entry that a field asks for. A record holds more than an entry does: the time
and the place in the program at which it was made, its process and its thread, and its level as a
number. These are left out, so the fields that ask for them (`asctime` is one, which stands in the
format that a component has by default) stay empty. -/
def field (entry : LogEntry) (key : Text) : Text :=
  if key = "name".toList then entry.name.toList
  else if key = "levelname".toList then (levelName entry.level).toList
  else if key = "message".toList then entry.message.toList
  else []

theorem length_drop_field (s : Text) :
    ((s.dropWhile (· ≠ ')')).drop 2).length < s.length + 2 := by
  have h := (List.dropWhile_sublist (l := s) (· ≠ ')')).length_le
  simp only [List.length_drop]
  omega

/-- Writes the fields of a format that ask for a text in full, without a width or a precision. -/
def fill (entry : LogEntry) (format : Text) : Text :=
  match format with
  | [] => []
  | '%' :: '%' :: rest => '%' :: entry.fill rest
  | '%' :: '(' :: rest =>
      entry.field (rest.takeWhile (· ≠ ')')) ++
        entry.fill ((rest.dropWhile (· ≠ ')')).drop 2)
  | c :: rest => c :: entry.fill rest
termination_by format.length
decreasing_by
  · simp only [List.length_cons]
    omega
  · exact length_drop_field rest
  · simp

def line (entry : LogEntry) (format : Text) : Text :=
  (if format = [] then entry.message.toList else entry.fill format) ++ ['\n']

end LogEntry

end TanSource
