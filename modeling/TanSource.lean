import TanSource.Command.FileTree
import TanSource.Main
import TanSource.Settings
import TanSource.Trace
import TanSource.Proofs.Numeral.Literal
import TanSource.Proofs.Binary64.ReadingBack
import TanSource.Proofs.Lexer.Lexeme
import TanSource.Proofs.Lexer.Splitting
import TanSource.Proofs.Reader.Derivations
import TanSource.Proofs.Formatter.Descent
import TanSource.Proofs.Formatter.Sweep
import TanSource.Proofs.Formatter.Rendering
import TanSource.Proofs.Formatter.Matching
import TanSource.Proofs.Formatter.Ledger
import TanSource.Proofs.Formatter.DepthLimit
import TanSource.Proofs.Lexer.Contents
import TanSource.Proofs.Lexer.Printed
import TanSource.Proofs.Source.Relexing
import TanSource.Proofs.Source.WellFormed
import TanSource.Proofs.Expr.Rendering
import TanSource.Proofs.Source.Rereading
import TanSource.Proofs.Source.Composition
import TanSource.Proofs.Lexer.Prefixes
import TanSource.Proofs.Reader.OpenFrames
import TanSource.Proofs.Lexer.Cursor
import TanSource.Proofs.Reader.Descent
import TanSource.Proofs.Reader.Remarks
import TanSource.Proofs.Source.Failures
import TanSource.Proofs.Source.CompactForm
import TanSource.Proofs.Reader.Rejection
import TanSource.Proofs.Source.Numbers
import TanSource.Proofs.Log.Session
import TanSource.Proofs.Source.CompactLines
import TanSource.Proofs.Lexer.Progress
import TanSource.Proofs.Command.FileTree
import TanSource.Proofs.Formatter.LogTrace
import TanSource.Proofs.Reader.Progress
import TanSource.Proofs.Command.Batch
