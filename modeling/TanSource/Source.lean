import TanSource.Expr.Render
import TanSource.Formatter
import TanSource.Lexer
import TanSource.Reader

/-!
# Source texts

The two things that are done with a source text as a whole: laying it out again, and writing each of
its expressions on a line.
-/

namespace TanSource

inductive SourceError
  | lexical (e : LexError)
  | layout (e : UnknownLayout)
  | formatting (failure : FormatFailure)
  | reading (failure : ReadFailure)
  | rendering (reason : Unprintable)
  deriving DecidableEq

def SourceError.message : SourceError → String
  | lexical e => e.message
  | layout e => e.message
  | formatting failure => failure.message
  | reading failure => failure.message
  | rendering reason => reason.message

def formatSource (options : FormatOptions) (source : Text) : Except SourceError Text := do
  let tokens ← (tokenize source).mapError .lexical
  let settings ← options.settings.mapError .layout
  ((Formatter.ofTokens settings tokens).format).1.mapError .formatting

def renderLines : List Expr → Except Unprintable Text
  | [] => .ok []
  | e :: es => do return (← e.render) ++ '\n' :: (← renderLines es)

def compactSource [Coercion] (source : Text) : Except SourceError Text := do
  let tokens ← (tokenize source).mapError .lexical
  let exprs ← (read (stripRemarks tokens)).mapError .reading
  (renderLines exprs).mapError .rendering

end TanSource
