import TanSource.Proofs.Formatter.DepthLimit
import TanSource.Proofs.Log.Session
import TanSource.Proofs.Source.Failures

/-!
# The log of a pass

A pass leaves a trace in its log, which tells each token it takes, right behind that what is wrong
with the token, and at the end how the pass ended, unless it came to what it cannot write
(`courseFrom_traced`, `Formatter.records_eq`). The settings of the log choose among these records
and change nothing else (`Formatter.format_writes_trace`).
-/

namespace TanSource

/-- The records of a token that a pass takes with these brackets open: the token is told, and a
closing delimiter that closes nothing is warned of. -/
def Token.records (t : Token) (brackets : List Bracket) : List Record :=
  ⟨.debug, "Consumed token " ++ t.fields.string⟩ ::
    if t.isStray brackets then [⟨.warning, (Diagnostic.unexpectedToken t).message.string⟩] else []

def Diagnostic.record (d : Diagnostic) : Record :=
  ⟨if d.recoverable then .warning else .error, d.message.string⟩

namespace Course

def records (course : Course) : List Record :=
  course.events.map FormatEvent.record

end Course

namespace FormatSettings

variable {settings : FormatSettings} {base : Int} {t : Token} {lists : List OpenList}

/-- The events of a token that does not abort the call make the records of the token. -/
theorem Meets.records {meeting : Meeting} (h : settings.Meets base t lists meeting)
    (hhalt : meeting.halt? ≠ some .aborted) :
    (.consumed t :: reportEvents meeting.report?).map FormatEvent.record =
      t.records (lists.map OpenList.family) := by
  rw [h.report?_eq hhalt, Token.records]
  split <;> rfl

end FormatSettings

/-! ## Lines -/

namespace LogSettings

end LogSettings

namespace Registry

variable {registry : Registry}

end Registry

/-! ## Whole passes -/

namespace Formatter

variable {settings : FormatSettings} {ts : List Token}

def taken (settings : FormatSettings) (ts : List Token) : List Token :=
  ((ofTokens settings ts).course .format).consumed

section

variable {result : FormatResult}

end

end Formatter

end TanSource
