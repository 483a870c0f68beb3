import TanSource.Settings

/-!
# Log records

What the components report while they work. A record has a level and a message; the settings of a
component decide which of its records are written.
-/

namespace TanSource

inductive Severity
  | debug
  | info
  | warning
  | error
  | critical
  deriving DecidableEq

namespace Severity

def level : Severity → Int
  | debug => 10
  | info => 20
  | warning => 30
  | error => 40
  | critical => 50

def name : Severity → String
  | debug => "DEBUG"
  | info => "INFO"
  | warning => "WARNING"
  | error => "ERROR"
  | critical => "CRITICAL"

def all : List Severity :=
  [debug, info, warning, error, critical]

end Severity

/-- The name of any level. One without a name of its own shows its number, with all its digits. -/
def levelName (level : Int) : String :=
  match Severity.all.find? (·.level = level) with
  | some severity => severity.name
  | none => "Level " ++ decimalString level

structure Record where
  severity : Severity
  message : String
  deriving DecidableEq

/-- The switch of a component's log and the least level it writes. -/
structure LogSettings where
  enabled : Bool := true
  least : Int := Severity.warning.level
  deriving DecidableEq

namespace LogSettings

def ofValues? (settings : SettingValues) : Option LogSettings := do
  return ⟨settings.isOn "enable_logger", ← settings.number? "log_level"⟩

def admits (settings : LogSettings) (level : Int) : Bool :=
  settings.enabled && settings.least ≤ level

end LogSettings

end TanSource
