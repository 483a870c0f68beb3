import TanSource.Text

/-!
# Paths

A path is a row of names with slashes in front or not. Empty names and single dots say nothing and
are left out; two dots stay, since what they lead to depends on the directory in front of them.
-/

namespace TanSource.Command

/-- A path: how many slashes stand in front (two are told apart from one, more count as one), and
its names. -/
structure Path where
  slashes : Nat
  names : List Text
  deriving DecidableEq, Inhabited

def splitSlashes : Text → List Text
  | [] => [[]]
  | c :: rest =>
      if c = '/' then [] :: splitSlashes rest
      else
        match splitSlashes rest with
        | [] => [[c]]
        | name :: names => (c :: name) :: names

def upName : Text := ['.', '.']

namespace Path

def ofText (s : Text) : Path :=
  let leading := (s.takeWhile (· = '/')).length
  ⟨if leading ≤ 2 then leading else 1,
    (splitSlashes s).filter fun name => name ≠ [] ∧ name ≠ ['.']⟩

def text (p : Path) : Text :=
  if p.slashes = 0 ∧ p.names = [] then ['.']
  else List.replicate p.slashes '/' ++ (p.names.intersperse ['/']).flatten

def child (p : Path) (name : Text) : Path :=
  { p with names := p.names ++ [name] }

def lastName (p : Path) : Text :=
  p.names.getLastD []

/-- The path without that of a directory in front of it, if it begins with that. -/
def relativeTo (p base : Path) : Path :=
  if p.slashes = base.slashes ∧ base.names.isPrefixOf p.names then
    ⟨0, p.names.drop base.names.length⟩
  else p

end Path

end TanSource.Command
