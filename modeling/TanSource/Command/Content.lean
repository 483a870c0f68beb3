import TanSource.Command.Arguments
import TanSource.Source

/-!
# The content of a source file

What the command makes of the text of one file: the text laid out again, or its expressions line by
line. An option whose value was taken away does no harm until the value is needed. An indent size is
needed for the first line that is indented, a greatest depth for the first list that is opened and a
layout in any case.
-/

namespace TanSource

/-- Is a line indented while tokens are laid out, with lists of the families `outer` open around
them? Each child of a list is on such a line, and in the canonical layout each closing delimiter. A
list that is too deep ends the pass. -/
def FormatSettings.indents (settings : FormatSettings) : List Bracket → List Token → Bool
  | _, [] => false
  | outer, t :: ts =>
      match t.kind, outer with
      | .opening family, _ =>
          (settings.limitAt? outer.length).isNone && settings.indents (family :: outer) ts
      | .closing family, top :: below =>
          family ≠ top || settings.layout = .canonical || !below.isEmpty ||
            settings.indents below ts
      | .closing _, [] => settings.indents [] ts
      | _, _ :: _ => true
      | _, [] => settings.indents [] ts

def Token.isOpening (t : Token) : Bool :=
  match t.kind with
  | .opening _ => true
  | _ => false

namespace Command

inductive ContentError
  | source (e : SourceError)
  /-- An option is needed and its value was taken away. -/
  | valueMissing (setting : Setting)
  deriving DecidableEq

def ContentError.message : ContentError → String
  | source e => e.message
  | valueMissing .indentSize => "No indent size is given"
  | valueMissing .maxDepth => "No greatest depth is given"
  | valueMissing _ => "No value is given"

namespace Arguments

/-- The layout to use. What is left of a layout whose value was taken away is no name of one. -/
def layout? (arguments : Arguments) : Except UnknownLayout Layout :=
  match arguments.layout with
  | .value layout => .ok layout
  | .nothing => .error ⟨"[]"⟩

/-- The settings to lay tokens out with, which have all values that are needed for it. -/
def settingsFor (arguments : Arguments) (layout : Layout) (tokens : List Token) :
    Except ContentError FormatSettings :=
  match arguments.maxDepth with
  | .nothing =>
      if tokens.any Token.isOpening then .error (.valueMissing .maxDepth) else .ok { layout }
  | .value maxDepth? =>
      match arguments.indentSize with
      | .value indentSize => .ok { indentSize, layout, maxDepth? }
      | .nothing =>
          let settings : FormatSettings := { layout, maxDepth? }
          if settings.indents [] tokens then .error (.valueMissing .indentSize) else .ok settings

def layOut (arguments : Arguments) (source : Text) : Except ContentError Text := do
  let tokens ← (tokenize source).mapError fun e => .source (.lexical e)
  let layout ← arguments.layout?.mapError fun e => .source (.layout e)
  let settings ← arguments.settingsFor layout tokens
  ((Formatter.ofTokens settings tokens).format).1.mapError fun e => .source (.formatting e)

/-- With a value for each option the text is laid out as any other is. -/
theorem layOut_eq_formatSource {arguments : Arguments} {layout : Layout} {indentSize : Int}
    {maxDepth? : Option Int} (hl : arguments.layout = .value layout)
    (hi : arguments.indentSize = .value indentSize) (hd : arguments.maxDepth = .value maxDepth?)
    (source : Text) :
    arguments.layOut source =
      (formatSource { indentSize, layoutName := layout.name, maxDepth? } source).mapError
        .source := by
  unfold layOut formatSource layout? settingsFor FormatOptions.settings
  simp only [hl, hi, hd, Layout.ofName?_name]
  cases tokenize source with
  | error e => rfl
  | ok tokens =>
      have h (outcome : Except FormatFailure Text) :
          outcome.mapError (fun e => ContentError.source (.formatting e)) =
            (outcome.mapError SourceError.formatting).mapError ContentError.source := by
        cases outcome <;> rfl
      exact h _

def process [Coercion] (arguments : Arguments) (source : Text) : Except ContentError Text :=
  if arguments.compact then (compactSource source).mapError .source else arguments.layOut source

end Arguments

end Command

end TanSource
