import TanSource.Command.Content
import TanSource.Command.Path

/-!
# Running the command on files

The command works on one file, or on the files of one directory whose names end in `.tan`, in the
order of their names. Each file is read, processed and written before the next one is read, so a
failure leaves the results of the files before it. What the command does with files and its output
goes through `FileAccess`, so that it runs alike on the files of a machine and on a file tree that
is a value.
-/

namespace TanSource.Command

inductive FileError
  | notFound
  | exists
  | notDirectory
  | isDirectory
  /-- A name holds the null character. -/
  | badName
  deriving DecidableEq

inductive CommandError
  | noSources (directory : Path)
  | noInput (path : Path)
  | file (e : FileError)
  | undecodable (source : Path)
  | failed (source : Path) (cause : ContentError)
  deriving DecidableEq

def CommandError.message? : CommandError → Option String
  | noSources directory =>
      some ("No .tan files found in directory: " ++ String.ofList directory.text)
  | noInput path => some ("Input path does not exist: " ++ String.ofList path.text)
  | failed source _ => some ("Failed to format " ++ String.ofList source.text)
  | file _ => none
  | undecodable _ => none

/-- What the failure goes back to, if the command only passes it on. -/
def CommandError.cause? : CommandError → Option String
  | failed _ cause => some cause.message
  | noSources _ => none
  | noInput _ => none
  | file _ => none
  | undecodable source => some (String.ofList source.text ++ " is not UTF-8")

structure FileAccess (m : Type → Type) where
  isDirectory : Path → m Bool
  isFile : Path → m Bool
  /-- The names in a directory. -/
  names : Path → m (List Text)
  readBytes : Path → m ByteArray
  /-- Makes a directory and those above it, unless it is there. -/
  makeDirectories : Path → m Unit
  writeBytes : Path → ByteArray → m Unit
  workingDirectory : m Path
  print : Text → m Unit

def unifyLineEndings : Text → Text
  | [] => []
  | '\r' :: '\n' :: rest => '\n' :: unifyLineEndings rest
  | '\r' :: rest => '\n' :: unifyLineEndings rest
  | c :: rest => c :: unifyLineEndings rest

def decodeFile? (bytes : ByteArray) : Option Text :=
  (String.fromUTF8? bytes).map fun s => unifyLineEndings s.toList

def encodeFile (s : Text) : ByteArray :=
  (String.ofList s).toUTF8

def isSourceName (name : Text) : Bool :=
  ['.', 't', 'a', 'n'].isSuffixOf name

/-- Comes one text before or at the other by code points? -/
def textLe : Text → Text → Bool
  | [], _ => true
  | _ :: _, [] => false
  | a :: s, b :: t => a.toNat < b.toNat || a.toNat = b.toNat && textLe s t

namespace FileAccess

variable {m : Type → Type} [Monad m] (access : FileAccess m)

def filterFiles : List Path → m (List Path)
  | [] => return []
  | p :: ps => do
      let isFile ← access.isFile p
      let others ← filterFiles ps
      return if isFile then p :: others else others

def sourcesIn (directory : Path) : m (List Path) := do
  let names ← access.names directory
  access.filterFiles (((names.filter isSourceName).mergeSort textLe).map directory.child)

variable [MonadExcept CommandError m]

def sourcesAt (path : Path) : m (List Path) := do
  if ← access.isDirectory path then
    match ← access.sourcesIn path with
    | [] => throw (.noSources path)
    | sources => return sources
  else if ← access.isFile path then return [path]
  else throw (.noInput path)

/-- Hands on the result for one file: to the output, or to the file of its name in the output
directory, which is then reported. -/
def deliver (source : Path) (output : Text) : Option Path → m Unit
  | none => access.print output
  | some directory => do
      let destination := directory.child source.lastName
      access.writeBytes destination (encodeFile output)
      let here ← access.workingDirectory
      access.print ("Wrote ".toList ++ ((destination.relativeTo here).text ++ ['\n']))

def processFile (process : Text → Except ContentError Text) (directory? : Option Path)
    (source : Path) : m Unit := do
  match decodeFile? (← access.readBytes source) with
  | none => throw (.undecodable source)
  | some content =>
      match process content with
      | .error cause => throw (.failed source cause)
      | .ok output => access.deliver source output directory?

def processFiles (process : Text → Except ContentError Text) (directory? : Option Path) :
    List Path → m Unit
  | [] => return
  | source :: sources => do
      access.processFile process directory? source
      processFiles process directory? sources

/-- Processes files, with the output directory in place first. -/
def generate (process : Text → Except ContentError Text) (directory? : Option Path)
    (sources : List Path) : m Unit := do
  match directory? with
  | some directory => access.makeDirectories directory
  | none => pure ()
  access.processFiles process directory? sources

/-- Runs the command. An empty output directory counts as none. -/
def run [Coercion] (arguments : Arguments) : m Unit := do
  let sources ← access.sourcesAt (Path.ofText (arguments.input?.getD []))
  let directory? := (arguments.outputDir?.filter (· ≠ [])).map Path.ofText
  access.generate arguments.process directory? sources

end FileAccess

end TanSource.Command
