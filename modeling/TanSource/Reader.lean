import TanSource.Expr
import TanSource.Log

/-!
# The reader

The reader turns tokens into expressions. Constructs that are not complete stand on a stack of
frames; a token either goes into the construct on top, completes it, or cannot stand there. Comments
and annotations are passed over wherever they stand.
-/

namespace TanSource

inductive ReadProblem
  | unexpectedClosing (family : Bracket)
  | missingTarget
  | unterminatedList (family : Bracket)
  | mismatched (expected got : Bracket)
  deriving DecidableEq

def ReadProblem.message : ReadProblem → String
  | unexpectedClosing family => "Unexpected '" ++ String.ofList [family.closeChar] ++ "'"
  | missingTarget => "Quote is not followed by an expression"
  | unterminatedList family =>
      "Unterminated list, expected '" ++ String.ofList [family.closeChar] ++ "'"
  | mismatched expected got =>
      "Expected '" ++ String.ofList [expected.closeChar] ++ "', but got '" ++
        String.ofList [got.closeChar] ++ "'"

/-- How reading failed: at a token that cannot stand there or is left unfinished, or at a value that
does not fit its token. -/
inductive ReadFailure
  | rejected (problem : ReadProblem) (t : Token)
  | unfit (t : Token)
  deriving DecidableEq

def ReadFailure.message : ReadFailure → String
  | rejected problem t => problem.message ++ t.place
  | unfit t => "Value does not fit its token" ++ t.place

/-- A construct that is not complete: a quote mark that waits for its expression, or an open list
with its terms, the latest first. -/
inductive Frame
  | quote (mark : Token)
  | list (opener : Token) (family : Bracket) (terms : List Expr)

def Frame.unfinished : Frame → ReadFailure
  | quote mark => .rejected .missingTarget mark
  | list opener family _ => .rejected (.unterminatedList family) opener

/-- What one token does to the constructs that are not complete. -/
inductive ReadStep
  | skipped
  | inside (frames : List Frame)
  | complete (e : Expr)
  | failed (failure : ReadFailure) (consumed : Bool)

/-- Puts a complete expression in its place: behind the quote marks that wait for it, and then into
the innermost open list, if there is one. -/
def place (e : Expr) : List Frame → ReadStep
  | [] => .complete e
  | .quote _ :: below => place e.quotation below
  | .list opener family terms :: below => .inside (.list opener family (e :: terms) :: below)

/-- A closing delimiter on top of the open constructs. It is left unread when it does not close the
innermost one. -/
def closeTop (family : Bracket) (t : Token) : List Frame → ReadStep
  | [] => .failed (.rejected (.unexpectedClosing family) t) true
  | .quote _ :: _ => .failed (.rejected .missingTarget t) false
  | .list _ expected terms :: below =>
      if family = expected then place (Expr.ofTerms (Expr.withHead family terms.reverse)) below
      else .failed (.rejected (.mismatched expected family) t) false

def readToken [Coercion] (frames : List Frame) (t : Token) : ReadStep :=
  match t.kind with
  | .comment => .skipped
  | .annot => .skipped
  | .quote => .inside (.quote t :: frames)
  | .opening family => .inside (.list t family [] :: frames)
  | .closing family => closeTop family t frames
  | _ =>
      match Expr.ofToken? t with
      | some e => place e frames
      | none => .failed (.unfit t) true

inductive ReadEvent
  | initialized
  | stripped
  | listClosed (count line : Nat)
  | finished
  deriving DecidableEq

def ReadEvent.record : ReadEvent → Record
  | initialized => ⟨.info, "Parser initialized"⟩
  | stripped => ⟨.debug, "Comments stripped from tokens"⟩
  | listClosed count line =>
      ⟨.debug, "Parsed list of " ++ toString count ++ " term(s) opened at line " ++ toString line⟩
  | finished => ⟨.debug, "Tokens parsed into expressions"⟩

def closingEvents (frames : List Frame) (t : Token) : List ReadEvent :=
  match frames, t.kind with
  | .list opener family terms :: _, .closing got =>
      if got = family then
        [.listClosed (Expr.withHead family terms.reverse).length opener.line]
      else []
  | _, _ => []

/-- How reading ended, in front of which tokens, and what happened meanwhile. -/
structure ReadOutcome (α : Type) where
  result : Except ReadFailure α
  rest : List Token
  events : List ReadEvent

namespace ReadOutcome

variable {α : Type}

def precededBy (events : List ReadEvent) (outcome : ReadOutcome α) : ReadOutcome α :=
  { outcome with events := events ++ outcome.events }

/-- The outcome when the tokens end inside constructs, or, with none open, with the given result. -/
def atEnd (value : α) : List Frame → ReadOutcome α
  | [] => ⟨.ok value, [], []⟩
  | top :: _ => ⟨.error top.unfinished, [], []⟩

end ReadOutcome

/-- Reads on to the end of one expression. A comment or an annotation outside all constructs is
passed over alone and gives none. -/
def readOne [Coercion] (frames : List Frame) : List Token → ReadOutcome (Option Expr)
  | [] => .atEnd none frames
  | t :: ts =>
      match readToken frames t with
      | .skipped =>
          match frames with
          | [] => ⟨.ok none, ts, []⟩
          | _ => readOne frames ts
      | .inside inner => (readOne inner ts).precededBy (closingEvents frames t)
      | .complete e => ⟨.ok (some e), ts, closingEvents frames t⟩
      | .failed failure consumed => ⟨.error failure, if consumed then ts else t :: ts, []⟩

def readFrom [Coercion] (frames : List Frame) : List Token → ReadOutcome (List Expr)
  | [] => .atEnd [] frames
  | t :: ts =>
      match readToken frames t with
      | .skipped => readFrom frames ts
      | .inside inner => (readFrom inner ts).precededBy (closingEvents frames t)
      | .complete e =>
          let others := readFrom [] ts
          { others with result := others.result.map (e :: ·) }.precededBy (closingEvents frames t)
      | .failed failure consumed => ⟨.error failure, if consumed then ts else t :: ts, []⟩

def read [Coercion] (tokens : List Token) : Except ReadFailure (List Expr) :=
  (readFrom [] tokens).result

def Token.isRemark (t : Token) : Bool :=
  t.kind = .comment || t.kind = .annot

def stripRemarks (tokens : List Token) : List Token :=
  tokens.filter (!·.isRemark)

/-- A reader in front of the tokens it has not read, with the count of those it has, and the
expressions that it read when it was made. -/
structure Reader where
  position : Nat
  rest : List Token
  exprs : List Expr

structure ReaderSettings where
  parse : Bool := true
  stripComments : Bool := true
  log : LogSettings := {}
  deriving DecidableEq

namespace ReaderSettings

def defaults : SettingValues :=
  [("parse", .switch true), ("strip_comments", .switch true), ("enable_logger", .switch true),
    ("log_level", .number 30)]

def ofGiven? (given : SettingValues) : Option ReaderSettings := do
  let settings : SettingValues := overlay given defaults
  return ⟨settings.isOn "parse", settings.isOn "strip_comments",
    ← LogSettings.ofValues? settings⟩

theorem ofGiven?_nil : ofGiven? [] = some {} := by
  decide

/-- A key that is not known is of no effect. -/
theorem ofGiven?_cons_of_unknown {key : String} (h : defaults.lookup key = none)
    (value : SettingValue) (given : SettingValues) :
    ofGiven? ((key, value) :: given) = ofGiven? given := by
  rw [ofGiven?, ofGiven?, overlay_cons_of_unknown h]

end ReaderSettings

namespace Reader

def ofTokens (tokens : List Token) : Reader :=
  ⟨0, tokens, []⟩

def size (reader : Reader) : Nat :=
  reader.position + reader.rest.length

def goTo (reader : Reader) (rest : List Token) : Reader :=
  { reader with position := reader.size - rest.length, rest := rest }

def current? (reader : Reader) : Option Token :=
  reader.rest.head?

def hasMore (reader : Reader) : Bool :=
  !reader.rest.isEmpty

def advance (reader : Reader) : Option Token × Reader :=
  (reader.current?, reader.goTo reader.rest.tail)

/-- Reads one expression; there is no result at the end of the tokens. -/
def one [Coercion] (reader : Reader) : Option (Except ReadFailure (Option Expr)) × Reader :=
  match reader.rest with
  | [] => (none, reader)
  | ts =>
      let outcome := readOne [] ts
      (some outcome.result, reader.goTo outcome.rest)

def parse [Coercion] (reader : Reader) : Except ReadFailure (List Expr) × Reader :=
  let outcome := readFrom [] reader.rest
  (outcome.result, reader.goTo outcome.rest)

def prepare (settings : ReaderSettings) (tokens : List Token) : List Token :=
  if settings.stripComments then stripRemarks tokens else tokens

def openingEvents (settings : ReaderSettings) : List ReadEvent :=
  .initialized :: (if settings.stripComments then [.stripped] else [])

/-- A new reader, which reads its tokens at once if the settings say so, and what happened
meanwhile. -/
def create [Coercion] (settings : ReaderSettings) (tokens : List Token) :
    Except ReadFailure Reader × List ReadEvent :=
  let reader := ofTokens (prepare settings tokens)
  let opening := openingEvents settings
  if settings.parse then
    let outcome := readFrom [] reader.rest
    match outcome.result with
    | .ok exprs =>
        (.ok { reader.goTo outcome.rest with exprs := exprs },
          opening ++ outcome.events ++ [.finished])
    | .error failure => (.error failure, opening ++ outcome.events)
  else (.ok reader, opening)

end Reader

end TanSource
