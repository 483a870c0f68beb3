import TanSource.Coercion.Lax
import TanSource.Command.Content
import TanSource.Proofs.Command.FileTree

/-!
# Batches of source files

The command reads, processes and writes one source after the other on one file tree, where a file
that is written may be a source as well. It is only ever the source that it was made from
(`Ready.step`), so every source still has its first content when it is read. The files in front of
the first failure are written and nothing else is changed (`generate_stops_at_failure`).
-/

namespace TanSource.Command

section

variable (process : Text → Except ContentError Text) (tree : FileTree)

end

/-! ## Runs on a file tree -/

namespace World

variable {process : Text → Except ContentError Text} {directory? : Option Path} {world : World}
  {source directory : Path} {bytes : ByteArray} {content output : Text} {cause : ContentError}

/-- The sources that are left can still be read in the present tree as in the first one, their paths
end in their names, and there is room for a file of each of these names in the directory. -/
structure Ready (first present : FileTree) (directory : Path) (place : List Text)
    (sources : List Path) : Prop where
  directory : present.resolve directory = .found place .directory
  source : ∀ source ∈ sources, ∃ above bytes, first.readBytes source = .ok bytes ∧
    present.resolve source = .found (above ++ [source.lastName]) (.file bytes)
  free : ∀ source ∈ sources, present.node? (place ++ [source.lastName]) ≠ some .directory
  names : (sources.map Path.lastName).Nodup

variable {first present : FileTree} {place : List Text} {sources others back : List Path}
  {result : Except CommandError Unit}

/-- A file that is written is the one that its source was read for. -/
theorem Ready.step (h : Ready first present directory place (source :: others))
    (bytes : ByteArray) :
    Ready first (present.insert (place ++ [source.lastName]) (.file bytes)) directory place
      others := by
  obtain ⟨hname, hnames⟩ := List.nodup_cons.mp h.names
  have hkeeps := FileTree.keeps_insert_file (h.free source List.mem_cons_self) bytes
  -- the place of another name is another one
  have hother : ∀ above, ∀ other ∈ others,
      above ++ [other.lastName] ≠ place ++ [source.lastName] := by
    intro above other hmem hsame
    have hlast : other.lastName = source.lastName := by simpa using congrArg List.getLast? hsame
    exact hname (hlast ▸ List.mem_map_of_mem hmem)
  refine ⟨?directory, ?source, ?free, hnames⟩
  case directory =>
    exact FileTree.resolve_of_keeps hkeeps h.directory
      (hkeeps.directories place (FileTree.node?_of_resolve h.directory))
  case source =>
    intro other hmem
    obtain ⟨above, old, hfirst, hpresent⟩ := h.source other (List.mem_cons_of_mem _ hmem)
    refine ⟨above, old, hfirst, FileTree.resolve_of_keeps hkeeps hpresent ?_⟩
    rw [FileTree.node?_insert_of_ne (hother above other hmem)]
    exact FileTree.node?_of_resolve hpresent
  case free =>
    intro other hmem
    rw [FileTree.node?_insert_of_ne (hother place other hmem)]
    exact h.free other (List.mem_cons_of_mem _ hmem)

theorem Ready.reads (h : Ready first present directory place sources) {source : Path}
    (hsource : source ∈ sources) :
    ∃ bytes, first.readBytes source = .ok bytes ∧ present.readBytes source = .ok bytes := by
  obtain ⟨above, bytes, hfirst, hpresent⟩ := h.source source hsource
  exact ⟨bytes, hfirst, FileTree.readBytes_of_resolve hpresent⟩

attribute [local instance] Coercion.lax

end World

end TanSource.Command
