import TanSource.Proofs.Formatter.Turn

/-!
# One sweep over the tokens

The pass that reads whole expressions, and within them whole lists, is one sweep with a stack of
open scopes, which is empty between expressions. Each rule says what one token does to the sweep,
whatever the depth.
-/

namespace TanSource

def outermost (scope : Scope) : List Scope → Bracket
  | [] => scope.family
  | outer :: below => outermost outer below

namespace FormatSettings

variable (settings : FormatSettings)

def proceed (outcome : Outcome) : Outcome :=
  match outcome.result with
  | .error reason => ⟨.error reason, outcome.pass, outcome.rest⟩
  | .ok fragment => (settings.formatFrom outcome.pass outcome.rest).prepend fragment

/-- Formats what is left, the innermost of the open lists first. -/
def sweep (scopes : List Scope) (pass : Pass) (ts : List Token) : Outcome :=
  match scopes with
  | [] => settings.formatFrom pass ts
  | scope :: below =>
      settings.proceed (settings.wrapped (outermost scope below)
        (settings.fillScopes scope below pass ts))

/-- Goes on behind a piece of text, which is a line inside a list, unless it cannot be written. -/
def emit (content : Except Unprintable Text) (scopes : List Scope) (pass : Pass)
    (ts : List Token) : Outcome :=
  match scopes with
  | [] =>
      match content with
      | .ok content => (settings.sweep [] pass ts).prepend content
      | .error reason => ⟨.error (.unprintable reason), pass, ts⟩
  | scope :: below =>
      match content.bind (settings.addChild pass scope) with
      | .ok scope => settings.sweep (scope :: below) pass ts
      | .error reason => ⟨.error (.unprintable reason), pass, ts⟩

variable {settings} {scope : Scope} {below : List Scope} {pass after : Pass} {t : Token}

theorem emit_error (reason : Unprintable) (scopes : List Scope) (pass : Pass) (ts : List Token) :
    settings.emit (.error reason) scopes pass ts = ⟨.error (.unprintable reason), pass, ts⟩ := by
  cases scopes <;> rfl

theorem emit_of_fits (hfits : settings.IndentFits pass.nesting) (content : Text)
    (scope : Scope) (below : List Scope) (ts : List Token) :
    settings.emit (.ok content) (scope :: below) pass ts =
      settings.sweep
        (scope.push (settings.margin pass.nesting ++ (content ++ ['\n'])) :: below) pass ts := by
  simp only [emit, Except.bind, addChild_of_fits hfits]

theorem emit_of_not_fits (hfits : ¬settings.IndentFits pass.nesting) (content : Text)
    (scope : Scope) (below : List Scope) (ts : List Token) :
    settings.emit (.ok content) (scope :: below) pass ts =
      ⟨.error (.unprintable .tooWide), pass, ts⟩ := by
  simp only [emit, Except.bind, addChild_of_not_fits hfits]

theorem outermost_of_family {inner : Scope} (h : inner.family = scope.family)
    (below : List Scope) : outermost inner below = outermost scope below := by
  cases below with
  | nil => exact h
  | cons outer below => rfl

theorem sweep_cons_of_inside {inner : Scope} {inside : List Scope} (hvalue : t.value.IsWritable)
    (h : settings.turn scope below (pass.note (.consumed t)) t = .inside inner inside after)
    (houtermost : outermost inner inside = outermost scope below) (ts : List Token) :
    settings.sweep (scope :: below) pass (t :: ts) =
      settings.sweep (inner :: inside) after ts := by
  rw [sweep, sweep, fillScopes_of_inside hvalue h, houtermost]

theorem sweep_cons_of_halted {reason : Halt} (hvalue : t.value.IsWritable)
    (h : settings.turn scope below (pass.note (.consumed t)) t = .halted reason after)
    (ts : List Token) :
    settings.sweep (scope :: below) pass (t :: ts) = ⟨.error reason, after, ts⟩ := by
  rw [sweep, fillScopes_of_halted hvalue h]
  rfl

theorem sweep_cons_of_child {outer : Scope} {opened : List Scope}
    {content : Except Unprintable Text} (hvalue : t.value.IsWritable)
    (h : settings.turn scope opened (pass.note (.consumed t)) t =
      .ofChild (content.bind (settings.addChild after outer)) below after)
    (houtermost : outermost outer below = outermost scope opened) (ts : List Token) :
    settings.sweep (scope :: opened) pass (t :: ts) =
      settings.emit content (outer :: below) after ts := by
  rw [emit]
  cases hchild : content.bind (settings.addChild after outer) with
  | error reason =>
      rw [hchild] at h
      exact sweep_cons_of_halted hvalue h ts
  | ok inner =>
      rw [hchild] at h
      have hfamily : inner.family = outer.family := by
        cases content with
        | error reason => cases hchild
        | ok content => exact family_of_addChild hchild
      exact sweep_cons_of_inside hvalue h
        ((outermost_of_family hfamily below).trans houtermost) ts

theorem sweep_cons_nil (hvalue : t.value.IsWritable) (pass : Pass) (ts : List Token) :
    settings.sweep [] pass (t :: ts) =
      settings.proceed (settings.formatToken (pass.note (.consumed t)) t ts) := by
  rw [sweep, formatFrom, Pass.consume_of_isWritable hvalue]
  rfl

/-! ## The end of the tokens -/

theorem sweep_nil (pass : Pass) : settings.sweep [] pass [] = ⟨.ok [], pass, []⟩ := by
  rw [sweep, formatFrom]

theorem sweep_unterminated (scope : Scope) (below : List Scope) (pass : Pass) :
    settings.sweep (scope :: below) pass [] =
      ⟨.error .aborted, pass.report (.unterminatedList (.closing scope.family) scope.opener?),
        []⟩ :=
  rfl

/-! ## One token -/

theorem sweep_of_not_isWritable (h : ¬t.value.IsWritable) (scopes : List Scope) (pass : Pass)
    (ts : List Token) :
    settings.sweep scopes pass (t :: ts) = ⟨.error (.unprintable .tooManyDigits), pass, ts⟩ := by
  cases scopes with
  | nil => exact formatFrom_of_not_isWritable h pass ts
  | cons scope below =>
      rw [sweep, fillScopes_of_not_isWritable h]
      rfl

section

variable (hvalue : t.value.IsWritable)

include hvalue

theorem sweep_leaf (ht : t.IsLeaf) (scopes : List Scope) (pass : Pass) (ts : List Token) :
    settings.sweep scopes pass (t :: ts) =
      settings.emit t.text scopes (pass.note (.consumed t)) ts := by
  cases scopes with
  | nil =>
      rw [sweep_cons_nil hvalue, formatToken_leaf ht]
      cases t.text <;> rfl
  | cons scope below =>
      exact sweep_cons_of_child hvalue (turn_leaf ht scope below _) rfl ts

theorem sweep_opening {family : Bracket} (ht : t.kind = .opening family)
    (hlimit : settings.limitAt? pass.nesting = none) (scopes : List Scope) (ts : List Token) :
    settings.sweep scopes pass (t :: ts) =
      settings.sweep (⟨family, some t, []⟩ :: scopes) (pass.note (.consumed t)).enter ts := by
  have hnoted : settings.limitAt? (pass.note (.consumed t)).nesting = none := hlimit
  cases scopes with
  | nil =>
      rw [sweep_cons_nil hvalue, formatToken_opening ht, formatBody, openScope_of_none hnoted]
      rfl
  | cons scope below =>
      exact sweep_cons_of_inside hvalue (turn_opening ht hnoted scope below) rfl ts

theorem sweep_refused {family : Bracket} {reason : Halt} (ht : t.kind = .opening family)
    (h : settings.openScope (pass.note (.consumed t)) family (some t) = (.error reason, after))
    (scopes : List Scope) (ts : List Token) :
    settings.sweep scopes pass (t :: ts) = ⟨.error reason, after, ts⟩ := by
  cases scopes with
  | nil =>
      rw [sweep_cons_nil hvalue, formatToken_opening ht, formatBody, h]
      rfl
  | cons scope below => exact sweep_cons_of_halted hvalue (turn_refused ht h scope below) ts

theorem sweep_closing (ht : t.kind = .closing scope.family) (below : List Scope) (pass : Pass)
    (ts : List Token) :
    settings.sweep (scope :: below) pass (t :: ts) =
      settings.emit (settings.wrap pass.leave.nesting scope.family scope.body) below
        (pass.note (.consumed t)).leave ts := by
  cases below with
  | nil =>
      rw [sweep, fillScopes_of_closed hvalue (turn_closing_outermost ht _)]
      have hnesting : (pass.note (.consumed t)).leave.nesting = pass.leave.nesting := rfl
      simp only [wrapped, outermost, proceed, Except.bind, hnesting]
      cases settings.wrap pass.leave.nesting scope.family scope.body <;> rfl
  | cons outer below => exact sweep_cons_of_child hvalue (turn_closing ht outer below _) rfl ts

theorem sweep_stray {family : Bracket} (ht : t.kind = .closing family) {scopes : List Scope}
    (hfamily : (scopes.map Scope.family).head? ≠ some family) (pass : Pass) (ts : List Token) :
    settings.sweep scopes pass (t :: ts) =
      settings.emit (.ok []) scopes ((pass.note (.consumed t)).report (.unexpectedToken t)) ts := by
  cases scopes with
  | nil =>
      rw [sweep_cons_nil hvalue, formatToken_closing ht]
      rfl
  | cons scope below =>
      have hne : family ≠ scope.family := by
        rintro rfl
        exact hfamily rfl
      have hturn : settings.turn scope below (pass.note (.consumed t)) t =
          .ofChild ((Except.ok []).bind (settings.addChild _ scope)) below _ :=
        turn_unexpected ht hne below _
      exact sweep_cons_of_child hvalue hturn rfl ts

end

end FormatSettings

end TanSource
