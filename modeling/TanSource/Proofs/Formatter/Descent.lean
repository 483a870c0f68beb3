import TanSource.Proofs.Formatter.Turn

/-!
# Formatting by recursive descent

The formatter said by mutual recursion: a list gives each of its children to the formatter of
expressions, and an expression that starts with an opening delimiter is the list behind it between
delimiters. The pass with its stack of scopes does the same, down to the last token it reads and the
last diagnostic it records (`format_eq_descend`).
-/

namespace TanSource

/-- An outcome that leaves no more tokens than the given number. -/
structure OutcomeWithin (n : Nat) extends Outcome where
  within : rest.length ≤ n

def OutcomeWithin.widen {m n : Nat} (outcome : OutcomeWithin m) (h : m ≤ n) : OutcomeWithin n :=
  ⟨outcome.toOutcome, Nat.le_trans outcome.within h⟩

namespace FormatSettings

variable (settings : FormatSettings)

mutual

def descendLines (scope : Scope) (pass : Pass) (ts : List Token) : OutcomeWithin ts.length :=
  match ts with
  | [] =>
      ⟨⟨.error .aborted, pass.report (.unterminatedList (.closing scope.family) scope.opener?), []⟩,
        Nat.le_refl _⟩
  | t :: ts =>
      match pass.consume t with
      | .error reason => ⟨⟨.error (.unprintable reason), pass, ts⟩, Nat.le_succ _⟩
      | .ok pass =>
          if t.kind = .closing scope.family then ⟨⟨.ok scope.body, pass.leave, ts⟩, Nat.le_succ _⟩
          else
            let child := descendExpr pass t ts
            match child.result with
            | .error _ => child.widen (Nat.le_succ _)
            | .ok content =>
                match settings.addChild child.pass scope content with
                | .error reason =>
                    ⟨⟨.error (.unprintable reason), child.pass, child.rest⟩,
                      Nat.le_succ_of_le child.within⟩
                | .ok scope =>
                    (descendLines scope child.pass child.rest).widen
                      (Nat.le_succ_of_le child.within)
termination_by (ts.length, 0)
decreasing_by
  · exact Prod.Lex.left _ _ (Nat.lt_succ_self _)
  · exact Prod.Lex.left _ _ (Nat.lt_succ_of_le child.within)

def descendList (pass : Pass) (family : Bracket) (opener? : Option Token) (ts : List Token) :
    OutcomeWithin ts.length :=
  match settings.openScope pass family opener? with
  | (.ok scope, pass) => descendLines scope pass ts
  | (.error reason, pass) => ⟨⟨.error reason, pass, ts⟩, Nat.le_refl _⟩
termination_by (ts.length, 1)
decreasing_by exact Prod.Lex.right _ Nat.one_pos

def descendExpr (pass : Pass) (t : Token) (ts : List Token) : OutcomeWithin ts.length :=
  match t.kind with
  | .opening family =>
      let body := descendList pass family (some t) ts
      ⟨settings.wrapped family body.toOutcome, body.within⟩
  | .closing _ => ⟨⟨.ok [], pass.report (.unexpectedToken t), ts⟩, Nat.le_refl _⟩
  | _ => ⟨⟨t.text.mapError .unprintable, pass, ts⟩, Nat.le_refl _⟩
termination_by (ts.length, 2)
decreasing_by exact Prod.Lex.right _ (Nat.lt_succ_self _)

end

def descendFrom (pass : Pass) (ts : List Token) : Outcome :=
  match ts with
  | [] => ⟨.ok [], pass, []⟩
  | t :: ts =>
      match pass.consume t with
      | .error reason => ⟨.error (.unprintable reason), pass, ts⟩
      | .ok pass =>
          let first := settings.descendExpr pass t ts
          match first.result with
          | .error reason => ⟨.error reason, first.pass, first.rest⟩
          | .ok fragment =>
              let others := descendFrom first.pass first.rest
              { others with result := others.result.map (fragment ++ ·) }
termination_by ts.length
decreasing_by exact Nat.lt_succ_of_le first.within

/-! ## The lists that are pending -/

/-- The rest of the list `scope`, which goes on behind the outcome of a child. -/
def takeUp (scope : Scope) (child : Outcome) : Outcome :=
  match child.result with
  | .error _ => child
  | .ok content =>
      match settings.addChild child.pass scope content with
      | .error reason => { child with result := .error (.unprintable reason) }
      | .ok scope => (settings.descendLines scope child.pass child.rest).toOutcome

/-- What becomes of a list when it ends, with the lists below it pending: each takes up the list
that ended as its child and goes on to its own end. -/
def unwind (family : Bracket) (below : List Scope) (outcome : Outcome) : Outcome :=
  match below with
  | [] => outcome
  | outer :: below =>
      unwind outer.family below (settings.takeUp outer (settings.wrapped family outcome))

variable {settings} {scope : Scope} {pass after : Pass} {t : Token} {ts rest : List Token}

theorem takeUp_of_unfit {content : Text} {reason : Unprintable}
    (h : settings.addChild after scope content = .error reason) :
    settings.takeUp scope ⟨.ok content, after, rest⟩ =
      ⟨.error (.unprintable reason), after, rest⟩ := by
  simp only [takeUp, h]

theorem takeUp_of_fit {content : Text} {inner : Scope}
    (h : settings.addChild after scope content = .ok inner) :
    settings.takeUp scope ⟨.ok content, after, rest⟩ =
      (settings.descendLines inner after rest).toOutcome := by
  simp only [takeUp, h]

theorem unwind_error (reason : Halt) (family : Bracket) (below : List Scope) :
    settings.unwind family below ⟨.error reason, after, rest⟩ = ⟨.error reason, after, rest⟩ := by
  induction below generalizing family with
  | nil => rfl
  | cons outer below ih => exact ih outer.family

theorem descendLines_of_not_isWritable (ht : ¬t.value.IsWritable) (scope : Scope) (pass : Pass)
    (ts : List Token) :
    (settings.descendLines scope pass (t :: ts)).toOutcome =
      ⟨.error (.unprintable .tooManyDigits), pass, ts⟩ := by
  rw [descendLines, Pass.consume_of_not_isWritable ht]

theorem descendLines_closing (hvalue : t.value.IsWritable) (ht : t.kind = .closing scope.family)
    (pass : Pass) (ts : List Token) :
    (settings.descendLines scope pass (t :: ts)).toOutcome =
      ⟨.ok scope.body, (pass.note (.consumed t)).leave, ts⟩ := by
  rw [descendLines, Pass.consume_of_isWritable hvalue]
  dsimp only
  rw [if_pos ht]

theorem descendLines_child (hvalue : t.value.IsWritable) (ht : t.kind ≠ .closing scope.family)
    (pass : Pass) (ts : List Token) :
    (settings.descendLines scope pass (t :: ts)).toOutcome =
      settings.takeUp scope (settings.descendExpr (pass.note (.consumed t)) t ts).toOutcome := by
  rw [descendLines, Pass.consume_of_isWritable hvalue]
  dsimp only
  rw [if_neg ht, takeUp]
  cases (settings.descendExpr (pass.note (.consumed t)) t ts).result with
  | error reason => rfl
  | ok content =>
      dsimp only
      cases settings.addChild (settings.descendExpr (pass.note (.consumed t)) t ts).pass scope
        content <;> rfl

theorem descendExpr_closing {family : Bracket} (ht : t.kind = .closing family) (pass : Pass)
    (ts : List Token) :
    (settings.descendExpr pass t ts).toOutcome =
      ⟨.ok [], pass.report (.unexpectedToken t), ts⟩ := by
  simp only [descendExpr, ht]

theorem descendExpr_leaf (ht : t.IsLeaf) (pass : Pass) (ts : List Token) :
    (settings.descendExpr pass t ts).toOutcome = ⟨t.text.mapError .unprintable, pass, ts⟩ := by
  unfold descendExpr
  split
  · next h => exact absurd h (ht _)
  · next h => exact absurd h (ht _)
  · rfl

theorem descendExpr_opening {family : Bracket} (ht : t.kind = .opening family) (pass : Pass)
    (ts : List Token) :
    (settings.descendExpr pass t ts).toOutcome =
      settings.wrapped family (settings.descendList pass family (some t) ts).toOutcome := by
  simp only [descendExpr, ht]

theorem family_of_openScope {family : Bracket} {opener? : Option Token} {inner : Scope}
    (h : settings.openScope pass family opener? = (.ok inner, after)) : inner.family = family := by
  cases hlimit : settings.limitAt? pass.nesting with
  | none =>
      rw [openScope_of_none hlimit] at h
      cases h
      rfl
  | some limit =>
      by_cases hdigits : FewDigits limit
      · rw [openScope_of_some hlimit hdigits] at h
        cases h
      · rw [openScope_of_unwritable hlimit hdigits] at h
        cases h

/-- A token that is the child of a list, or closes one that is, leaves the descent with that list to
take it up. -/
theorem fillScopes_of_child {opened below : List Scope} {outer : Scope}
    {child : Except Unprintable Text} (hvalue : t.value.IsWritable)
    (hturn : settings.turn scope opened (pass.note (.consumed t)) t =
      .ofChild (child.bind (settings.addChild after outer)) below after)
    (ih : ∀ inner, settings.fillScopes inner below after ts =
      settings.unwind inner.family below (settings.descendLines inner after ts).toOutcome) :
    settings.fillScopes scope opened pass (t :: ts) =
      settings.unwind outer.family below
        (settings.takeUp outer ⟨child.mapError .unprintable, after, ts⟩) := by
  cases child with
  | error reason =>
      rw [fillScopes_of_halted hvalue hturn]
      exact (unwind_error _ _ _).symm
  | ok content =>
      replace hturn : settings.turn scope opened (pass.note (.consumed t)) t =
        .ofChild (settings.addChild after outer content) below after := hturn
      cases hchild : settings.addChild after outer content with
      | error reason =>
          rw [hchild] at hturn
          rw [fillScopes_of_halted hvalue hturn]
          refine ((congrArg _ (takeUp_of_unfit hchild)).trans ?_).symm
          exact unwind_error _ _ _
      | ok inner =>
          rw [hchild] at hturn
          rw [fillScopes_of_inside hvalue hturn, ih, family_of_addChild hchild]
          exact congrArg _ (takeUp_of_fit hchild).symm

/-- The loop with its stack of scopes is the descent into the innermost list, and then what becomes
of the pending ones. -/
theorem fillScopes_eq_unwind (scope : Scope) (below : List Scope) (pass : Pass) (ts : List Token) :
    settings.fillScopes scope below pass ts =
      settings.unwind scope.family below (settings.descendLines scope pass ts).toOutcome := by
  -- The induction is on the tokens alone; the pending lists may grow and shrink with each of them.
  induction ts generalizing scope below pass with
  | nil =>
      rw [descendLines]
      exact (unwind_error _ scope.family below).symm
  | cons t ts ih =>
      by_cases hvalue : t.value.IsWritable
      · rcases t.kind_cases with ⟨family, ht⟩ | ⟨family, ht⟩ | ht
        · have hclosing : t.kind ≠ .closing scope.family := by simp [ht]
          rw [descendLines_child hvalue hclosing, descendExpr_opening ht, descendList]
          rcases hopen : settings.openScope (pass.note (.consumed t)) family (some t) with
            ⟨reason | inner, after⟩
          · rw [fillScopes_of_halted hvalue (turn_refused ht hopen _ _)]
            exact (unwind_error _ scope.family below).symm
          · obtain rfl := family_of_openScope hopen
            rw [fillScopes_of_inside hvalue (turn_opened ht hopen _ _), ih]
            rfl
        · by_cases hfamily : family = scope.family
          · subst hfamily
            rw [descendLines_closing hvalue ht]
            cases below with
            | nil => exact fillScopes_of_closed hvalue (turn_closing_outermost ht _) ts
            | cons outer below =>
                exact fillScopes_of_child hvalue (turn_closing ht outer below _) fun _ => ih _ _ _
          · have hclosing : t.kind ≠ .closing scope.family := by
              rw [ht]
              simpa using hfamily
            rw [descendLines_child hvalue hclosing, descendExpr_closing ht]
            have hturn : settings.turn scope below (pass.note (.consumed t)) t =
                .ofChild ((Except.ok []).bind (settings.addChild _ scope)) below _ :=
              turn_unexpected ht hfamily below _
            exact fillScopes_of_child hvalue hturn fun _ => ih _ _ _
        · rw [descendLines_child hvalue (ht _), descendExpr_leaf ht]
          exact fillScopes_of_child hvalue (turn_leaf ht scope below _) fun _ => ih _ _ _
      · rw [fillScopes_of_not_isWritable hvalue, descendLines_of_not_isWritable hvalue,
          unwind_error]

theorem formatBody_eq_descendList (pass : Pass) (family : Bracket) (opener? : Option Token)
    (ts : List Token) :
    settings.formatBody pass family opener? ts =
      (settings.descendList pass family opener? ts).toOutcome := by
  rw [formatBody, descendList]
  rcases settings.openScope pass family opener? with ⟨reason | scope, after⟩
  · rfl
  · exact fillScopes_eq_unwind scope [] after ts

theorem formatToken_eq_descendExpr (pass : Pass) (t : Token) (ts : List Token) :
    settings.formatToken pass t ts = (settings.descendExpr pass t ts).toOutcome := by
  rcases t.kind_cases with ⟨family, ht⟩ | ⟨family, ht⟩ | ht
  · rw [formatToken_opening ht, descendExpr_opening ht, formatBody_eq_descendList]
  · rw [formatToken_closing ht, descendExpr_closing ht]
  · rw [formatToken_leaf ht, descendExpr_leaf ht]

theorem formatFrom_eq_descendFrom (pass : Pass) (ts : List Token) :
    settings.formatFrom pass ts = settings.descendFrom pass ts := by
  induction pass, ts using settings.formatFrom_induction with
  | nil pass => rw [formatFrom, descendFrom]
  | unwritable pass t ts ht =>
      rw [formatFrom_of_not_isWritable ht, descendFrom, Pass.consume_of_not_isWritable ht]
  | error pass t ts reason after rest ht htoken =>
      rw [formatFrom_of_error ht htoken, descendFrom, Pass.consume_of_isWritable ht]
      rw [formatToken_eq_descendExpr] at htoken
      dsimp only
      rw [htoken]
  | ok pass t ts fragment after rest ht htoken ih =>
      rw [formatFrom_of_ok ht htoken, descendFrom, Pass.consume_of_isWritable ht, ih]
      rw [formatToken_eq_descendExpr] at htoken
      dsimp only
      rw [htoken]
      rfl

end FormatSettings

/-! ## Formatters -/

namespace Formatter

def descendExpr (f : Formatter) (t : Token) : Except Halt Text × Formatter :=
  f.resume (f.settings.descendExpr f.pass t f.rest).toOutcome

def descendList (f : Formatter) (delimiter : TokenKind) (opener? : Option Token) :
    Except Halt Text × Formatter :=
  match delimiter with
  | .closing family => f.resume (f.settings.descendList f.pass family opener? f.rest).toOutcome
  | _ => (.error .notClosing, f)

def conclude (run : Except Halt Text × Formatter) : Except FormatFailure Text × Formatter :=
  match run with
  | (.ok output, f) => (.ok output, f.finish)
  | (.error (.unprintable reason), f) => (.error (.unprintable reason), f)
  | (.error _, f) =>
      let (diagnostics, f) := f.takeErrors
      (.error (.diagnosed diagnostics), f)

def descend (f : Formatter) : Except FormatFailure Text × Formatter :=
  conclude (f.resume (f.settings.descendFrom f.pass f.rest))

theorem format_eq_conclude (f : Formatter) :
    f.format = conclude (f.resume (f.settings.formatFrom f.pass f.rest)) :=
  rfl

/-- From every state of a formatter, the calls end as the recursive ones: with the same text or
failure, the same diagnostics, the same depth and the same tokens left. -/
theorem format_eq_descend (f : Formatter) :
    (∀ delimiter opener?, f.formatList delimiter opener? = f.descendList delimiter opener?) ∧
      (∀ t, f.formatExpr t = f.descendExpr t) ∧ f.format = f.descend := by
  refine ⟨?_, ?_, ?_⟩
  · intro delimiter opener?
    cases delimiter with
    | delimiter d =>
        cases d with
        | opening family => rfl
        | closing family =>
            rw [formatList, descendList, FormatSettings.formatBody_eq_descendList]
    | _ => rfl
  · intro t
    rw [formatExpr, descendExpr, FormatSettings.formatToken_eq_descendExpr]
  · rw [format_eq_conclude, descend, FormatSettings.formatFrom_eq_descendFrom]

end Formatter

end TanSource
