import TanSource.Token

/-!
# Diagnostics of the formatter

Problems that a formatting pass records. An unexpected closing delimiter is recoverable, the pass
goes on; the others end it.
-/

namespace TanSource

inductive Diagnostic
  | unexpectedToken (t : Token)
  | unterminatedList (terminator : Delimiter) (opener? : Option Token)
  | nestingTooDeep (limit : Int) (token? : Option Token)
  | remark (text : String) (token? : Option Token)
  deriving DecidableEq

namespace Diagnostic

def recoverable : Diagnostic → Bool
  | unexpectedToken _ => true
  | unterminatedList _ _ => false
  | nestingTooDeep _ _ => false
  | remark _ _ => false

def token? : Diagnostic → Option Token
  | unexpectedToken t => some t
  | unterminatedList _ opener? => opener?
  | nestingTooDeep _ token? => token?
  | remark _ token? => token?

def summary : Diagnostic → Message
  | unexpectedToken t => Message.ofString "Unexpected token " ++ t.description
  | unterminatedList terminator _ =>
      .ofString ("Unterminated list, expected '" ++ String.ofList [terminator.char] ++ "'")
  | nestingTooDeep limit _ =>
      Message.ofString "Nesting exceeds the maximum depth of " ++ [.number limit]
  | remark text _ => .ofString text

/-- The message of the diagnostic. A diagnostic is made only if it can be written. -/
def message (d : Diagnostic) : Message :=
  d.summary ++ Message.ofString (placeText d.token?)

theorem isWritable_message (d : Diagnostic) : d.message.IsWritable ↔ d.summary.IsWritable := by
  simp [message, Message.isWritable_append, Message.isWritable_ofString]

/-- A closing delimiter can always be reported. -/
theorem isWritable_unexpectedToken {t : Token} {family : Bracket} (ht : t.kind = .closing family) :
    (unexpectedToken t).message.IsWritable := by
  rw [isWritable_message, summary, Message.isWritable_append]
  exact ⟨Message.isWritable_ofString _, Token.isWritable_description_delimiter ht⟩

theorem isWritable_unterminatedList (terminator : Delimiter) (opener? : Option Token) :
    (unterminatedList terminator opener?).message.IsWritable := by
  rw [isWritable_message]
  exact Message.isWritable_ofString _

theorem isWritable_nestingTooDeep {limit : Int} (token? : Option Token) :
    (nestingTooDeep limit token?).message.IsWritable ↔ FewDigits limit := by
  simp [isWritable_message, summary, Message.isWritable_append, Message.isWritable_ofString]

def failureMessage (diagnostics : List Diagnostic) : String :=
  "Formatting failed with " ++ toString diagnostics.length ++ " diagnostic(s): " ++
    String.intercalate "; " (diagnostics.map fun d => d.message.string)

end Diagnostic

end TanSource
