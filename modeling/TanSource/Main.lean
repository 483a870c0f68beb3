import TanSource.Coercion.Lax
import TanSource.Command.Batch

/-!
# The command on a machine

The command line with the files, the directories and the output of the machine it runs on.
-/

namespace TanSource.Command

abbrev MachineM := ExceptT CommandError IO

def machineText (p : Path) : String :=
  String.ofList p.text

/-- Tells whether there is a directory, or instead a file, at a path. -/
def isThere (directory : Bool) (p : Path) : IO Bool := do
  try
    let place ← IO.FS.realPath (machineText p)
    return (← place.isDir) == directory
  catch _ => return false

def machineAccess : FileAccess MachineM where
  isDirectory p := isThere true p
  isFile p := isThere false p
  names p := do
    let place ← IO.FS.realPath (machineText p)
    let entries ← place.readDir
    return entries.toList.map fun entry => entry.fileName.toList
  readBytes p := IO.FS.readBinFile (machineText p)
  makeDirectories p := IO.FS.createDirAll (machineText p)
  writeBytes p bytes := IO.FS.writeBinFile (machineText p) bytes
  workingDirectory := do
    let place ← IO.currentDir
    return Path.ofText place.toString.toList
  print s := do
    let output ← IO.getStdout
    output.putStr (String.ofList s)

def usage : String :=
  "arguments: [-h] [-o DIRECTORY] [--indent-size NUMBER] [--layout compat|canonical] " ++
    "[--max-depth NUMBER] [--compact] PATH"

def fail (e : CommandError) : IO UInt32 := do
  for line in e.cause?.toList ++ e.message?.toList do
    IO.eprintln line
  return 1

local instance : Coercion := .lax

def runOnMachine (args : List String) : IO UInt32 := do
  match readArguments (args.map String.toList) with
  | .error .help =>
      IO.println usage
      return 0
  | .error .misuse =>
      IO.eprintln usage
      return 2
  | .ok arguments =>
      match ← (machineAccess.run arguments).run with
      | .ok _ => return 0
      | .error e => fail e

end TanSource.Command

def main (args : List String) : IO UInt32 :=
  TanSource.Command.runOnMachine args
