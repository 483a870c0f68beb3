import TanSource.Command.Batch

/-!
# File trees

A file tree is a value that holds directories and files by the names that lead to them from the top.
`FileTree.access` lets the command run on it; the tree and the output up to a failure are kept.
-/

namespace TanSource.Command

inductive Node
  | file (bytes : ByteArray)
  | directory

/-- The nodes of a tree, the latest first, and the working directory. -/
structure FileTree where
  nodes : List (List Text × Node) := []
  here : List Text := []

inductive Resolution
  | found (place : List Text) (node : Node)
  | missing
  | blocked

namespace FileTree

def node? (tree : FileTree) (place : List Text) : Option Node :=
  match place with
  | [] => some .directory
  | _ => tree.nodes.lookup place

def insert (tree : FileTree) (place : List Text) (node : Node) : FileTree :=
  { tree with nodes := (place, node) :: tree.nodes }

def follow (tree : FileTree) (place : List Text) : List Text → Resolution
  | [] =>
      match tree.node? place with
      | some node => .found place node
      | none => .missing
  | name :: names =>
      match tree.node? place with
      | some .directory =>
          follow tree (if name = upName then place.dropLast else place ++ [name]) names
      | some (.file _) => .blocked
      | none => .missing

def resolve (tree : FileTree) (p : Path) : Resolution :=
  tree.follow (if p.slashes = 0 then tree.here else []) p.names

def isDirectory (tree : FileTree) (p : Path) : Bool :=
  match tree.resolve p with
  | .found _ .directory => true
  | _ => false

def isFile (tree : FileTree) (p : Path) : Bool :=
  match tree.resolve p with
  | .found _ (.file _) => true
  | _ => false

def places (tree : FileTree) : List (List Text) :=
  (tree.nodes.map Prod.fst).eraseDups

def namesIn (tree : FileTree) (p : Path) : List Text :=
  match tree.resolve p with
  | .found place .directory =>
      tree.places.filterMap fun inner =>
        if inner ≠ [] ∧ inner.dropLast = place then inner.getLast? else none
  | _ => []

def makeDirectory (tree : FileTree) (p : Path) : Except FileError FileTree :=
  match p.names.getLast? with
  | none => .error .exists
  | some name =>
      if p.names.any fun name => name.contains '\x00' then .error .badName
      else
        match tree.resolve { p with names := p.names.dropLast } with
        | .missing => .error .notFound
        | .blocked => .error .notDirectory
        | .found _ (.file _) => .error .notDirectory
        | .found place .directory =>
            if name = upName then .error .exists
            else
              match tree.node? (place ++ [name]) with
              | some _ => .error .exists
              | none => .ok (tree.insert (place ++ [name]) .directory)

/-- What becomes of the attempt to make a directory that may be there already. -/
def settleDirectory (tree : FileTree) (p : Path) :
    Except FileError FileTree → Except FileError FileTree
  | .ok made => .ok made
  | .error .notFound => .error .notFound
  | .error .badName => .error .badName
  | .error e => if tree.isDirectory p then .ok tree else .error e

/-- Makes a directory and those above it that are missing, given its names from the last to the
first. -/
def makeDirectories (tree : FileTree) (slashes : Nat) (lastFirst : List Text) :
    Except FileError FileTree :=
  let path : Path := ⟨slashes, lastFirst.reverse⟩
  match tree.settleDirectory path (tree.makeDirectory path), lastFirst with
  | .error .notFound, _ :: above => do
      let tree ← tree.makeDirectories slashes above
      tree.settleDirectory path (tree.makeDirectory path)
  | settled, _ => settled

def writeBytes (tree : FileTree) (p : Path) (bytes : ByteArray) : Except FileError FileTree :=
  match tree.resolve { p with names := p.names.dropLast } with
  | .missing => .error .notFound
  | .blocked => .error .notDirectory
  | .found _ (.file _) => .error .notDirectory
  | .found place .directory =>
      let place := place ++ [p.lastName]
      match tree.node? place with
      | some .directory => .error .isDirectory
      | _ => .ok (tree.insert place (.file bytes))

def readBytes (tree : FileTree) (p : Path) : Except FileError ByteArray :=
  match tree.resolve p with
  | .found _ (.file bytes) => .ok bytes
  | .found _ .directory => .error .isDirectory
  | .missing => .error .notFound
  | .blocked => .error .notDirectory

end FileTree

structure World where
  tree : FileTree
  printed : Text := []

/-- Runs that change a world and may fail; the world is kept in either case. -/
abbrev WorldM := ExceptT CommandError (StateM World)

namespace World

def settle {α : Type} : Except FileError α → WorldM α
  | .ok a => pure a
  | .error e => throw (.file e)

def change (operation : FileTree → Except FileError FileTree) : WorldM Unit := do
  let world ← get
  let tree ← settle (operation world.tree)
  set { world with tree := tree }

def access : FileAccess WorldM where
  isDirectory p := return (← get).tree.isDirectory p
  isFile p := return (← get).tree.isFile p
  names p := return (← get).tree.namesIn p
  readBytes p := do settle ((← get).tree.readBytes p)
  makeDirectories p := change fun tree => tree.makeDirectories p.slashes p.names.reverse
  writeBytes p bytes := change fun tree => tree.writeBytes p bytes
  workingDirectory := return ⟨1, (← get).tree.here⟩
  print s := modify fun world => { world with printed := world.printed ++ s }

def runCommand [Coercion] (world : World) (arguments : Arguments) :
    Except CommandError Unit × World :=
  (access.run arguments).run.run world

def holds (tree : FileTree) (place : List Text) (bytes : ByteArray) : Bool :=
  match tree.node? place with
  | some (.file old) => old.data = bytes.data
  | _ => false

def below? (tree : FileTree) (place : List Text) : Option Text :=
  if tree.here.isPrefixOf place then
    some (Path.text ⟨0, place.drop tree.here.length⟩)
  else none

/-- The files below the working directory that are new or have other bytes than before, with their
paths and in their order. -/
def written (before after : World) : List (Text × ByteArray) :=
  let changed := after.tree.places.filterMap fun place =>
    match after.tree.node? place with
    | some (.file bytes) =>
        if holds before.tree place bytes then none
        else (below? after.tree place).map (·, bytes)
    | _ => none
  changed.mergeSort fun a b => textLe a.1 b.1

end World

end TanSource.Command
