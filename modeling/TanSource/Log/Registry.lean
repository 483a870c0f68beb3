import TanSource.Log.Line

/-!
# The registry of loggers

Loggers are known by dotted names, and a logger without a level of its own goes by that of its
nearest ancestor with one. The registry holds the levels and the handlers of the program's logger,
each of which writes a line for every record that reaches it. A view belongs to one component and
narrows its logger by a switch and a least level of its own, so that two components with different
settings do not affect each other.
-/

namespace TanSource

def programLogger : String := "tanfmt"

def unsetLevel : Int := 0

/-- The levels that were set, the latest first, and the formats of the handlers, the earliest first.
The logger above all others has the empty name. -/
structure Registry where
  levels : List (String × Int) := [("", Severity.warning.level)]
  handlers : List Text := []

structure InvalidFormat where
  format : Text
  deriving DecidableEq

def InvalidFormat.message (e : InvalidFormat) : String :=
  "Invalid format '" ++ String.ofList e.format ++ "' for '%' style"

structure LogView where
  name : String
  settings : LogSettings

/-- What a component asks of its logger: a name under that of the program, what its view lets
through, and a format in case there is none yet. -/
structure LoggerOptions where
  name : String := "core"
  log : LogSettings := {}
  format : Text := "%(asctime)s - %(name)s - %(levelname)s - %(message)s".toList
  deriving DecidableEq

namespace LoggerOptions

def defaults : SettingValues :=
  [("name", .name "core"), ("is_enabled", .switch true), ("level", .number 30),
    ("format", .name "%(asctime)s - %(name)s - %(levelname)s - %(message)s")]

def ofGiven? (given : SettingValues) : Option LoggerOptions := do
  let settings : SettingValues := overlay given defaults
  return ⟨(settings.value "name").text, ⟨settings.isOn "is_enabled", ← settings.number? "level"⟩,
    (settings.value "format").text.toList⟩

theorem ofGiven?_nil : ofGiven? [] = some {} := by
  decide

/-- A key that is not known is of no effect. -/
theorem ofGiven?_cons_of_unknown {key : String} (h : defaults.lookup key = none)
    (value : SettingValue) (given : SettingValues) :
    ofGiven? ((key, value) :: given) = ofGiven? given := by
  rw [ofGiven?, ofGiven?, overlay_cons_of_unknown h]

end LoggerOptions

/-- The names above a dotted name, given and returned from the last character to the first. -/
def reversedAncestors : Text → List Text
  | [] => []
  | c :: rest =>
      if c = '.' ∧ rest ≠ [] then rest :: reversedAncestors rest else reversedAncestors rest

/-- A name, the names above it from the nearest on, and the empty name. -/
def lineage (name : String) : List String :=
  name :: (reversedAncestors name.toList.reverse).map (fun s => String.ofList s.reverse) ++ [""]

namespace Registry

/-- The logger above all others may also be called `root`. -/
def canonicalName (name : String) : String :=
  if name = "root" then "" else name

def ownLevel (registry : Registry) (name : String) : Int :=
  (registry.levels.lookup (canonicalName name)).getD unsetLevel

def setLevel (registry : Registry) (name : String) (level : Int) : Registry :=
  { registry with levels := (canonicalName name, level) :: registry.levels }

def effectiveLevel (registry : Registry) (name : String) : Int :=
  (((lineage name).map registry.ownLevel).find? (· ≠ unsetLevel)).getD unsetLevel

def handlersOf (registry : Registry) (name : String) : List Text :=
  if canonicalName name = programLogger then registry.handlers else []

def handlerCount (registry : Registry) (name : String) : Nat :=
  (registry.handlersOf name).length

/-- Lets the program's logger pass everything on, unless it has a level already. -/
def opened (registry : Registry) : Registry :=
  if registry.ownLevel programLogger = unsetLevel then
    registry.setLevel programLogger Severity.debug.level
  else registry

def addHandler (registry : Registry) (format : Text) : Except InvalidFormat Registry :=
  if isLineFormat format then .ok { registry with handlers := registry.handlers ++ [format] }
  else .error ⟨format⟩

/-- Prepares the registry for a component. If there is a handler already, nothing is left to do and
the format is not looked at. Otherwise the level is set before the handler is made, and it stays if
the format is refused. -/
def prepare (registry : Registry) (format : Text) : Except InvalidFormat Unit × Registry :=
  match registry.handlers with
  | _ :: _ => (.ok (), registry)
  | [] =>
      let opened := registry.opened
      match opened.addHandler format with
      | .ok registry => (.ok (), registry)
      | .error e => (.error e, opened)

def view (component : String) (settings : LogSettings) : LogView :=
  ⟨programLogger ++ "." ++ component, settings⟩

def create (registry : Registry) (options : LoggerOptions) :
    Except InvalidFormat LogView × Registry :=
  match registry.prepare options.format with
  | (.ok _, registry) => (.ok (view options.name options.log), registry)
  | (.error e, registry) => (.error e, registry)

def isEnabled (registry : Registry) (view : LogView) (level : Int) : Bool :=
  view.settings.admits level && 0 < level && registry.effectiveLevel view.name ≤ level

/-- The lines that a record makes if it is let through: one by each handler of its logger and of
those above. -/
def write (registry : Registry) (view : LogView) (level : Int) (message : String) : List Text :=
  if registry.isEnabled view level then
    ((lineage view.name).flatMap registry.handlersOf).map
      (LogEntry.line ⟨view.name, level, message⟩)
  else []

def writeAll (registry : Registry) (view : LogView) (records : List Record) : List Text :=
  records.flatMap fun r => registry.write view r.severity.level r.message

end Registry

end TanSource
