import TanSource.Log.Registry
import TanSource.Source

/-!
# Traced runs

A traced run takes a text or tokens through the stages that are asked for and keeps what each of
them gives, together with the lines that they write to the log. It ends with the first stage that
fails.
-/

namespace TanSource

inductive TraceInput
  | text (source : Text) (settings : LexerSettings)
  | tokens (ts : List Token)

structure TraceRequest where
  input : TraceInput
  reader? : Option ReaderSettings
  formatter? : Option FormatOptions

structure Trace where
  rendered? : Option (List Text) := none
  text? : Option Text := none
  error? : Option SourceError := none
  log : List Text := []

namespace Trace

def lineFormat : Text :=
  "%(name)s|%(levelname)s|%(message)s".toList

def registry : Registry :=
  (Registry.prepare {} lineFormat).2

def logged (trace : Trace) (component : String) (settings : LogSettings)
    (records : List Record) : Trace :=
  { trace with
    log := trace.log ++ registry.writeAll (Registry.view component settings) records }

def failed (trace : Trace) (e : SourceError) : Trace :=
  { trace with error? := some e }

def format (trace : Trace) (tokens : List Token) : Option FormatOptions → Trace
  | none => trace
  | some options =>
      match options.settings with
      | .error e => trace.failed (.layout e)
      | .ok settings =>
          let (result, f) := (Formatter.ofTokens settings tokens).format
          let trace := trace.logged "formatter" settings.log f.records
          match result with
          | .ok output => { trace with text? := some output }
          | .error failure => trace.failed (.formatting failure)

def read [Coercion] (trace : Trace) (tokens : List Token) (request : TraceRequest) : Trace :=
  match request.reader? with
  | none => trace.format tokens request.formatter?
  | some settings =>
      let (result, events) := Reader.create settings tokens
      let trace := trace.logged "parser" settings.log (events.map ReadEvent.record)
      match result with
      | .error failure => trace.failed (.reading failure)
      | .ok reader =>
          match reader.exprs.mapM Expr.render with
          | .error reason => trace.failed (.rendering reason)
          | .ok rendered =>
              { trace with rendered? := some rendered }.format tokens request.formatter?

def run [Coercion] (request : TraceRequest) : Trace :=
  match request.input with
  | .tokens ts => read {} ts request
  | .text source settings =>
      if settings.tokenize then
        let run := (Lexer.ofText source).run
        let trace := logged {} "lexer" settings.log (Lexer.records run)
        match run.error? with
        | some e => trace.failed (.lexical e)
        | none => trace.read run.tokens request
      else read {} [] request

end Trace

end TanSource
