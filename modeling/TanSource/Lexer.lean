import TanSource.Lexer.Item
import TanSource.Log

/-!
# The lexer

`Lexer.run` cuts a text into items from the place where a lexer stands and gives the tokens of those
that are not blank, up to the end of the text or to the first item that is at fault. A lexer keeps
its place after a fault, so a later call goes on behind it.
-/

namespace TanSource

structure LexError where
  fault : LexFault
  place : Position
  deriving DecidableEq

namespace LexError

/-- The message of a fault, a place being added by `LexError.message`. -/
def faultText : LexFault → String
  | .unterminatedString => "Unterminated string"
  | .unterminatedAnnot => "Unterminated annotation"
  | .emptyAnnot => "Empty annotation"
  | .pastEnd => "Attempt to advance beyond end of input"
  | .tooManyDigits count =>
      "Exceeds the limit (" ++ toString integerDigitLimit ++
        " digits) for integer string conversion: value has " ++ toString count ++
        " digits; use sys.set_int_max_str_digits() to increase the limit"

def report (message : String) (line column : Int) : String :=
  "Error: " ++ message ++ " at " ++ decimalString line ++ ":" ++ decimalString column

/-- The message of an error. The digit limit belongs to number conversion and is reported without a
place. -/
def message (e : LexError) : String :=
  match e.fault with
  | .tooManyDigits _ => faultText e.fault
  | fault => report (faultText fault) e.place.line e.place.column

/-- Is the error one of the source text, which the lexer reports to its log? -/
def isLocated (e : LexError) : Bool :=
  match e.fault with
  | .tooManyDigits _ => false
  | _ => true

end LexError

/-- What a run over a text gives: its tokens, the start of the last item it looked at, the place and
the text where it stopped, and the fault that stopped it, if any. -/
structure LexRun where
  tokens : List Token
  mark : Position
  here : Position
  rest : Text
  error? : Option LexError
  deriving DecidableEq

/-- Cuts items off a text that starts at `here` until it ends or an item is at fault. The argument
`mark` is the start of the item before. -/
def lexFrom (mark here : Position) (s : Text) : LexRun :=
  match s with
  | [] => ⟨[], mark, here, [], none⟩
  | c :: cs =>
      let item := firstItem c cs
      let next := here.after item.lexeme
      match item.reading with
      | .blank => lexFrom here next item.rest
      | .token kind value =>
          let run := lexFrom here next item.rest
          { run with tokens := ⟨kind, value, ⟨here, next⟩⟩ :: run.tokens }
      | .fault fault => ⟨[], here, next, item.rest, some ⟨fault, here⟩⟩
termination_by s.length
decreasing_by all_goals exact length_firstItem_rest c cs

structure Lexer where
  input : Text
  rest : Text
  here : Position
  mark : Position
  tokens : List Token
  deriving DecidableEq

namespace Lexer

def ofText (input : Text) : Lexer :=
  ⟨input, input, {}, {}, []⟩

def run (lexer : Lexer) : LexRun :=
  lexFrom lexer.mark lexer.here lexer.rest

def afterRun (lexer : Lexer) (run : LexRun) : Lexer :=
  { lexer with
    rest := run.rest
    here := run.here
    mark := run.mark
    tokens := lexer.tokens ++ run.tokens }

def tokenize (lexer : Lexer) : Except LexError (List Token) × Lexer :=
  let run := lexer.run
  let lexer := lexer.afterRun run
  match run.error? with
  | none => (.ok lexer.tokens, lexer)
  | some e => (.error e, lexer)

/-- Steps over characters; a negative count steps over none. Past the end it is an error, and the
lexer is at the end. -/
def advance (lexer : Lexer) (count : Int) : Except LexError Unit × Lexer :=
  let passed := lexer.rest.take count.toNat
  let here := lexer.here.after passed
  let lexer := { lexer with rest := lexer.rest.drop count.toNat, here := here }
  if passed.length < count.toNat then (.error ⟨.pastEnd, here⟩, lexer) else (.ok (), lexer)

def markHere (lexer : Lexer) : Lexer :=
  { lexer with mark := lexer.here }

/-- The character in front of the lexer; the null character at the end. -/
def current (lexer : Lexer) : Char :=
  lexer.rest.headD '\x00'

def hasMore (lexer : Lexer) : Bool :=
  !lexer.rest.isEmpty

def sinceMark (lexer : Lexer) : Text :=
  (lexer.input.take lexer.here.index).drop lexer.mark.index

def tokenRecord (t : Token) : Record :=
  ⟨.debug, "Adding token TokenType." ++ t.kind.name ++ " with value '" ++
    t.value.printed.string ++ "' at line " ++ toString t.line ++ ", column " ++
    toString t.column⟩

/-- The records of the end of a run. Faults of the source text are reported as errors. -/
def endRecords : Option LexError → List Record
  | none => [⟨.info, "Tokenization complete"⟩]
  | some e => if e.isLocated then [⟨.error, e.message⟩] else []

def records (run : LexRun) : List Record :=
  ⟨.info, "Starting tokenization"⟩ :: (run.tokens.map tokenRecord ++ endRecords run.error?)

end Lexer

structure LexerSettings where
  tokenize : Bool := true
  log : LogSettings := {}
  deriving DecidableEq

namespace LexerSettings

def defaults : SettingValues :=
  [("tokenize", .switch true), ("enable_logger", .switch true), ("log_level", .number 30)]

def ofGiven? (given : SettingValues) : Option LexerSettings := do
  let settings : SettingValues := overlay given defaults
  return ⟨settings.isOn "tokenize", ← LogSettings.ofValues? settings⟩

theorem ofGiven?_nil : ofGiven? [] = some {} := by
  decide

/-- A key that is not known is of no effect. -/
theorem ofGiven?_cons_of_unknown {key : String} (h : defaults.lookup key = none)
    (value : SettingValue) (given : SettingValues) :
    ofGiven? ((key, value) :: given) = ofGiven? given := by
  rw [ofGiven?, ofGiven?, overlay_cons_of_unknown h]

end LexerSettings

/-- A new lexer, which reads its input at once if the settings say so. -/
def Lexer.create (settings : LexerSettings) (input : Text) : Except LexError Lexer :=
  let lexer := ofText input
  if settings.tokenize then
    match lexer.tokenize with
    | (.ok _, lexer) => .ok lexer
    | (.error e, _) => .error e
  else .ok lexer

def tokenize (input : Text) : Except LexError (List Token) :=
  ((Lexer.ofText input).tokenize).1

end TanSource
