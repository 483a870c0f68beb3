import TanSource.Binary64.Reading
import TanSource.Layout

/-!
# Arguments of the command line

The command takes one path and options. Options may be abbreviated as long as only one long name
begins with what is given; a value is attached with an equals sign, attached to a short name
directly, or the next argument. Everything behind a bare `--` is no option. A `--` that is attached
to an option is no value either: it takes away the value that the option has. Arguments are first
told apart one by one and then acted on from left to right, so that a request for help ends the run
unless an error comes before it.
-/

namespace TanSource.Command

inductive Setting
  | help
  | outputDir
  | indentSize
  | layout
  | maxDepth
  | compact
  deriving DecidableEq

def Setting.takesValue : Setting → Bool
  | .help => false
  | .outputDir => true
  | .indentSize => true
  | .layout => true
  | .maxDepth => true
  | .compact => false

def shortNames : List (Char × Setting) :=
  [('h', .help), ('o', .outputDir)]

def longNames : List (Text × Setting) :=
  [("help".toList, .help), ("output-dir".toList, .outputDir),
    ("indent-size".toList, .indentSize), ("layout".toList, .layout),
    ("max-depth".toList, .maxDepth), ("compact".toList, .compact)]

inductive Leave
  | help
  | misuse
  deriving DecidableEq

/-- An option as it was given: what it sets, whether by its short name, and what is attached to
it. -/
structure OptionUse where
  setting : Setting
  short : Bool
  attached? : Option Text
  deriving DecidableEq

inductive Role
  | value
  | separator
  | option (use : OptionUse)
  | unknown
  deriving DecidableEq

def splitEquals (s : Text) : Text × Option Text :=
  match s.dropWhile (· ≠ '=') with
  | [] => (s, none)
  | _ :: value => (s.takeWhile (· ≠ '='), some value)

def isDigitRow (s : Text) : Bool :=
  !s.isEmpty && s.all fun c => (decimalValue? c).isSome

/-- Digits, or a point with digits behind it; a final line feed does not count. -/
def isNegativeNumber (afterDash : Text) : Bool :=
  let s := if afterDash.getLast? = some '\n' then afterDash.dropLast else afterDash
  match s.span (· ≠ '.') with
  | (whole, []) => isDigitRow whole
  | (whole, _ :: fraction) => (whole.isEmpty || isDigitRow whole) && isDigitRow fraction

/-- What an argument with a dash in front is when it is no option. -/
def roleOfOther (arg : Text) : Role :=
  if isNegativeNumber (arg.drop 1) || arg.contains ' ' then .value else .unknown

/-- What an argument with two dashes is, given what is behind them. A full name stands for itself;
otherwise the part in front of the equals sign has to begin exactly one name. -/
def longRole (arg body : Text) : Except Leave Role :=
  let (name, value?) := splitEquals body
  let use (setting : Setting) : Role := .option ⟨setting, false, value?⟩
  match longNames.lookup body, longNames.lookup name with
  | some setting, _ => .ok (.option ⟨setting, false, none⟩)
  | none, some setting => .ok (use setting)
  | none, none =>
      match longNames.filter fun entry => name.isPrefixOf entry.1 with
      | [] => .ok (roleOfOther arg)
      | [entry] => .ok (use entry.2)
      | _ => .error .misuse

def shortRole (arg : Text) (letter : Char) (tail : Text) : Role :=
  match shortNames.lookup letter with
  | none => roleOfOther arg
  | some setting =>
      match tail with
      | [] => .option ⟨setting, true, none⟩
      | '=' :: value => .option ⟨setting, true, some value⟩
      | _ => .option ⟨setting, true, some tail⟩

def roleOf (arg : Text) : Except Leave Role :=
  match arg with
  | ['-', '-'] => .ok .separator
  | '-' :: '-' :: body => longRole arg body
  | '-' :: letter :: tail => .ok (shortRole arg letter tail)
  | _ => .ok .value

def rolesOf : List Text → Except Leave (List (Text × Role))
  | [] => .ok []
  | arg :: args => do
      match ← roleOf arg with
      | .separator => return (arg, .separator) :: args.map fun other => (other, .value)
      | role => return (arg, role) :: (← rolesOf args)

inductive Given (α : Type)
  | value (a : α)
  | nothing
  deriving DecidableEq

structure Arguments where
  input? : Option Text := none
  outputDir? : Option Text := none
  indentSize : Given Int := .value 4
  layout : Given Layout := .value .compat
  maxDepth : Given (Option Int) := .value none
  compact : Bool := false
  /-- Is there an argument that has no place? -/
  surplus : Bool := false
  deriving DecidableEq

namespace Arguments

def set (arguments : Arguments) (setting : Setting) (value : Text) : Except Leave Arguments :=
  match setting with
  | .help => .error .help
  | .compact => .ok { arguments with compact := true }
  | .outputDir => .ok { arguments with outputDir? := some value }
  | .indentSize =>
      match readInt? value with
      | some n => .ok { arguments with indentSize := .value n }
      | none => .error .misuse
  | .maxDepth =>
      match readInt? value with
      | some n => .ok { arguments with maxDepth := .value (some n) }
      | none => .error .misuse
  | .layout =>
      match Layout.ofName? (String.ofList value) with
      | some layout => .ok { arguments with layout := .value layout }
      | none => .error .misuse

def clear (arguments : Arguments) : Setting → Arguments
  | .outputDir => { arguments with outputDir? := none }
  | .indentSize => { arguments with indentSize := .nothing }
  | .maxDepth => { arguments with maxDepth := .nothing }
  | .layout => { arguments with layout := .nothing }
  | .help => arguments
  | .compact => arguments

/-- Takes a value for the path, or as one too many. -/
def take (arguments : Arguments) (value : Text) : Arguments :=
  match arguments.input? with
  | none => { arguments with input? := some value }
  | some _ => { arguments with surplus := true }

end Arguments

/-- How the row of one-letter names that is attached to the one for help ends: with help, unless one
of them is no name. A name that needs a value has what follows it in the row, or the next
argument. -/
def helpRun (valueFollows : Bool) : Text → Leave
  | [] => .misuse
  | c :: tail =>
      match shortNames.lookup c, tail with
      | none, _ => .misuse
      | some .help, [] => .help
      | some .help, _ :: _ => helpRun valueFollows tail
      | some _, [] => if valueFollows then .help else .misuse
      | some _, _ :: _ => .help

def valueFollows : List (Text × Role) → Bool
  | (_, .value) :: _ => true
  | _ => false

def useAttached (arguments : Arguments) (setting : Setting) (short : Bool) (value : Text)
    (others : List (Text × Role)) : Except Leave Arguments :=
  if setting.takesValue then
    if value = ['-', '-'] then .ok (arguments.clear setting) else arguments.set setting value
  else if short then .error (helpRun (valueFollows others) value)
  else .error .misuse

/-- Acts on arguments from left to right. A separator belongs to the path next to it; behind the
path and not next to it, it has no place. -/
def actOn (arguments : Arguments) : List (Text × Role) → Except Leave Arguments
  | [] => .ok arguments
  | (value, .value) :: (_, .separator) :: others => actOn (arguments.take value) others
  | (value, .value) :: others => actOn (arguments.take value) others
  | (_, .separator) :: others =>
      actOn { arguments with surplus := arguments.surplus || arguments.input?.isSome } others
  | (_, .unknown) :: others => actOn { arguments with surplus := true } others
  | (_, .option ⟨setting, short, some value⟩) :: others => do
      actOn (← useAttached arguments setting short value others) others
  | (_, .option ⟨setting, _, none⟩) :: others =>
      if setting.takesValue then
        match others with
        | (value, .value) :: others => do actOn (← arguments.set setting value) others
        | _ => .error .misuse
      else do actOn (← arguments.set setting []) others

/-- Reads the arguments of the command. A path is required and nothing may be left over. -/
def readArguments (args : List Text) : Except Leave Arguments := do
  let arguments ← actOn {} (← rolesOf args)
  if arguments.input?.isNone || arguments.surplus then .error .misuse else .ok arguments

end TanSource.Command
