import TanSource.Formatter.Pass

/-!
# The formatter

A formatter holds the tokens that are not read yet and the state of its pass. Each call reads on
from where the one before stopped, also after a call that failed. A pass that cannot go on hands out
all diagnostics recorded so far.
-/

namespace TanSource

structure Formatter where
  settings : FormatSettings
  pass : Pass := {}
  rest : List Token

inductive FormatFailure
  | diagnosed (diagnostics : List Diagnostic)
  | unprintable (reason : Unprintable)
  deriving DecidableEq

def FormatFailure.message : FormatFailure → String
  | diagnosed diagnostics => Diagnostic.failureMessage diagnostics
  | unprintable reason => reason.message

namespace Formatter

def ofTokens (settings : FormatSettings) (tokens : List Token) : Formatter :=
  { settings, rest := tokens }

def resume (f : Formatter) (outcome : Outcome) : Except Halt Text × Formatter :=
  (outcome.result, { f with pass := outcome.pass, rest := outcome.rest })

def next? (f : Formatter) : Except Unprintable (Option Token) × Formatter :=
  match f.rest with
  | [] => (.ok none, f)
  | t :: ts =>
      match f.pass.consume t with
      | .ok pass => (.ok (some t), { f with pass, rest := ts })
      | .error reason => (.error reason, { f with rest := ts })

/-- Formats the expression that starts with the given token and goes on in the tokens that are
left. -/
def formatExpr (f : Formatter) (t : Token) : Except Halt Text × Formatter :=
  f.resume (f.settings.formatToken f.pass t f.rest)

def formatList (f : Formatter) (delimiter : TokenKind) (opener? : Option Token) :
    Except Halt Text × Formatter :=
  match delimiter with
  | .closing family => f.resume (f.settings.formatBody f.pass family opener? f.rest)
  | _ => (.error .notClosing, f)

/-- Hands out the diagnostics recorded so far. -/
def takeErrors (f : Formatter) : List Diagnostic × Formatter :=
  (f.pass.pending, { f with pass := { f.pass with pending := [] } })

def indent (f : Formatter) : Except Unprintable Text :=
  f.settings.indent f.pass.nesting

/-- Notes the end of a pass that recorded diagnostics and could go on. -/
def finish (f : Formatter) : Formatter :=
  match f.pass.pending with
  | [] => f
  | pending => { f with pass := f.pass.note (.finished pending.length) }

def format (f : Formatter) : Except FormatFailure Text × Formatter :=
  match f.resume (f.settings.formatFrom f.pass f.rest) with
  | (.ok output, f) => (.ok output, f.finish)
  | (.error (.unprintable reason), f) => (.error (.unprintable reason), f)
  | (.error _, f) =>
      let (diagnostics, f) := f.takeErrors
      (.error (.diagnosed diagnostics), f)

def records (f : Formatter) : List Record :=
  f.pass.events.map FormatEvent.record

end Formatter

/-- The result of one pass over tokens: the text, unless the pass could not go on, and every
diagnostic. -/
structure FormatResult where
  text? : Option Text
  diagnostics : List Diagnostic
  deriving DecidableEq

def FormatResult.ok (result : FormatResult) : Bool :=
  result.text?.isSome

def formatTokens (settings : FormatSettings) (tokens : List Token) :
    Except Unprintable FormatResult :=
  match (Formatter.ofTokens settings tokens).format with
  | (.ok output, f) => .ok ⟨some output, f.pass.pending⟩
  | (.error (.diagnosed diagnostics), _) => .ok ⟨none, diagnostics⟩
  | (.error (.unprintable reason), _) => .error reason

end TanSource
