import TanSource.Log
import TanSource.Token

/-!
# Layouts of a list

A list is written with one child per line, each indented by the depth at which it stands. The
canonical layout puts both delimiters on lines of their own. The compatible one keeps a parenthesis
on the line of its first child, leaves closing delimiters at the margin and closes a brace with an
additional parenthesis.
-/

namespace TanSource

inductive Layout
  | compat
  | canonical
  deriving DecidableEq

namespace Layout

def name : Layout → String
  | compat => "compat"
  | canonical => "canonical"

def ofName? (name : String) : Option Layout :=
  [compat, canonical].find? fun layout => layout.name = name

theorem ofName?_name (layout : Layout) : ofName? layout.name = some layout := by
  cases layout <;> decide

end Layout

structure FormatSettings where
  indentSize : Int := 4
  layout : Layout := .compat
  maxDepth? : Option Int := none
  log : LogSettings := {}
  deriving DecidableEq

namespace FormatSettings

def indent (settings : FormatSettings) (nesting : Int) : Except Unprintable Text :=
  spaces (nesting * settings.indentSize)

def line (settings : FormatSettings) (nesting : Int) (content : Text) : Except Unprintable Text :=
  (settings.indent nesting).map fun margin => margin ++ (content ++ ['\n'])

/-- Surrounds the body of a list with its delimiters; `nesting` is the depth around the list. -/
def wrap (settings : FormatSettings) (nesting : Int) (family : Bracket) (body : Text) :
    Except Unprintable Text :=
  match settings.layout with
  | .canonical =>
      (settings.indent nesting).map fun margin =>
        family.openChar :: '\n' :: (body ++ (margin ++ [family.closeChar]))
  | .compat =>
      match family with
      | .paren => .ok ('(' :: (body ++ [')']))
      | .square => .ok ('[' :: '\n' :: (body ++ [']']))
      | .brace => .ok ('{' :: '\n' :: (body ++ ['}', ')']))

def limitAt? (settings : FormatSettings) (nesting : Int) : Option Int :=
  settings.maxDepth?.filter fun limit => limit ≤ nesting

end FormatSettings

structure FormatOptions where
  indentSize : Int := 4
  layoutName : String := Layout.compat.name
  maxDepth? : Option Int := none
  log : LogSettings := {}
  deriving DecidableEq

namespace FormatOptions

def defaults : SettingValues :=
  [("indent_size", .number 4), ("layout", .name "compat"), ("max_depth", .absent),
    ("enable_logger", .switch true), ("log_level", .number 30)]

def ofGiven? (given : SettingValues) : Option FormatOptions := do
  let settings : SettingValues := overlay given defaults
  return {
    indentSize := ← settings.number? "indent_size"
    layoutName := (settings.value "layout").text
    maxDepth? := ← (settings.value "max_depth").limit?
    log := ← LogSettings.ofValues? settings }

theorem ofGiven?_nil : ofGiven? [] = some {} := by
  decide

/-- A key that is not known is of no effect. -/
theorem ofGiven?_cons_of_unknown {key : String} (h : defaults.lookup key = none)
    (value : SettingValue) (given : SettingValues) :
    ofGiven? ((key, value) :: given) = ofGiven? given := by
  rw [ofGiven?, ofGiven?, overlay_cons_of_unknown h]

end FormatOptions

structure UnknownLayout where
  name : String
  deriving DecidableEq

def UnknownLayout.message (e : UnknownLayout) : String :=
  "Unknown layout: " ++ e.name

def FormatOptions.settings (options : FormatOptions) : Except UnknownLayout FormatSettings :=
  match Layout.ofName? options.layoutName with
  | some layout => .ok ⟨options.indentSize, layout, options.maxDepth?, options.log⟩
  | none => .error ⟨options.layoutName⟩

end TanSource
