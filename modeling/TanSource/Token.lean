import TanSource.Position
import TanSource.Text.Message
import TanSource.Binary64.Shortest

/-!
# Tokens

The units of tan source: comments, strings, symbols, numbers, annotations, quote marks and the
delimiters of three families of brackets. A token carries a value and the span of text it was read
from. A hand-made token may carry a value of any sort, whatever its kind.
-/

namespace TanSource

inductive Bracket
  | paren
  | square
  | brace
  deriving DecidableEq, Inhabited

namespace Bracket

def openChar : Bracket → Char
  | paren => '('
  | square => '['
  | brace => '{'

def closeChar : Bracket → Char
  | paren => ')'
  | square => ']'
  | brace => '}'

end Bracket

inductive Delimiter
  | opening (family : Bracket)
  | closing (family : Bracket)
  deriving DecidableEq

def Delimiter.char : Delimiter → Char
  | opening family => family.openChar
  | closing family => family.closeChar

inductive TokenKind
  | comment
  | string
  | symbol
  | int
  | float
  | annot
  | quote
  | delimiter (d : Delimiter)
  deriving DecidableEq

namespace TokenKind

@[match_pattern] abbrev opening (family : Bracket) : TokenKind :=
  .delimiter (.opening family)

@[match_pattern] abbrev closing (family : Bracket) : TokenKind :=
  .delimiter (.closing family)

def name : TokenKind → String
  | comment => "COMMENT"
  | string => "STRING"
  | symbol => "SYMBOL"
  | int => "INT"
  | float => "FLOAT"
  | annot => "ANNOTATION"
  | quote => "QUOTE"
  | opening .paren => "LEFT_PAREN"
  | closing .paren => "RIGHT_PAREN"
  | opening .square => "LEFT_BRACKET"
  | closing .square => "RIGHT_BRACKET"
  | opening .brace => "LEFT_BRACE"
  | closing .brace => "RIGHT_BRACE"

/-- All kinds, in the order of their numbers, which start at one. -/
def all : List TokenKind :=
  [comment, string, symbol, int, float, annot, quote, opening .paren, closing .paren,
    opening .square, closing .square, opening .brace, closing .brace]

def number (kind : TokenKind) : Nat :=
  all.idxOf kind + 1

def ofName? (name : String) : Option TokenKind :=
  all.find? fun kind => kind.name = name

theorem ofName?_name (kind : TokenKind) : ofName? kind.name = some kind := by
  rcases kind with _ | _ | _ | _ | _ | _ | _ | d
  iterate 7 decide
  rcases d with family | family <;> cases family <;> decide

def numbered (kind : TokenKind) : String :=
  "<TokenType." ++ kind.name ++ ": " ++ toString kind.number ++ ">"

end TokenKind

inductive Value
  | absent
  | text (s : Text)
  | int (n : Int)
  | float (x : Binary64)
  deriving DecidableEq

namespace Value

def printed : Value → Message
  | absent => .ofString "None"
  | text s => [.text s]
  | int n => [.number n]
  | float x => [.text x.text]

/-- The value as messages show it: a text between quotes. -/
def shown : Value → Message
  | text s => [.text s.quoted]
  | v => v.printed

def IsWritable (v : Value) : Prop :=
  v.printed.IsWritable

instance (v : Value) : Decidable v.IsWritable :=
  inferInstanceAs (Decidable v.printed.IsWritable)

@[simp] theorem isWritable_absent : absent.IsWritable :=
  Message.isWritable_ofString _

@[simp] theorem isWritable_text (s : Text) : (text s).IsWritable :=
  Message.isWritable_text s

@[simp] theorem isWritable_int {n : Int} : (int n).IsWritable ↔ FewDigits n :=
  Message.isWritable_number

@[simp] theorem isWritable_float (x : Binary64) : (float x).IsWritable :=
  Message.isWritable_text _

theorem isWritable_shown (v : Value) : v.shown.IsWritable ↔ v.IsWritable := by
  cases v <;> simp [shown, IsWritable, printed]

end Value

structure Token where
  kind : TokenKind
  value : Value := .absent
  span : Span := {}
  deriving DecidableEq

namespace Token

def line (t : Token) : Nat :=
  t.span.start.line

def column (t : Token) : Nat :=
  t.span.start.column

/-- Says what the token is: a delimiter by its character, others by kind and value. -/
def description (t : Token) : Message :=
  match t.kind, t.value with
  | .delimiter d, _ => .ofString (String.ofList ['\'', d.char, '\''])
  | kind, .absent => .ofString kind.name
  | kind, value => Message.ofString (kind.name ++ "(") ++ value.shown ++ Message.ofString ")"

def place (t : Token) : String :=
  " at line " ++ toString t.line ++ ", column " ++ toString t.column

end Token

def placeText : Option Token → String
  | some t => t.place
  | none => ""

def Position.fields (p : Position) : String :=
  "Position(index=" ++ toString p.index ++ ", line=" ++ toString p.line ++ ", column=" ++
    toString p.column ++ ")"

namespace Token

def fields (t : Token) : Message :=
  Message.ofString ("Token(type=" ++ t.kind.numbered ++ ", value=") ++ t.value.shown ++
    Message.ofString (", range=Range(start=" ++ t.span.start.fields ++ ", end=" ++
      t.span.stop.fields ++ "))")

theorem isWritable_fields (t : Token) : t.fields.IsWritable ↔ t.value.IsWritable := by
  simp [fields, Message.isWritable_append, Message.isWritable_ofString, Value.isWritable_shown]

theorem isWritable_description_delimiter {t : Token} {d : Delimiter} (ht : t.kind = .delimiter d) :
    t.description.IsWritable := by
  simp only [description, ht]
  exact Message.isWritable_ofString _

end Token

end TanSource
