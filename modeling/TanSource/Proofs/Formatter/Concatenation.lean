import TanSource.Proofs.Formatter.Matching
import TanSource.Proofs.Lexer.Concatenation

/-!
# Formatting tokens behind others

A pass that comes to the end of its tokens leaves no list open, so it goes on behind them as a new
pass does. What that records is moved, and comes behind what was recorded before
(`Formatter.format_append`).
-/

namespace TanSource

/-! ## More tokens -/

def Outcome.followedBy (more : List Token) (outcome : Outcome) : Outcome :=
  { outcome with rest := outcome.rest ++ more }

namespace FormatSettings

variable {settings : FormatSettings}

/-- A list that is closed does not look at the tokens behind it. -/
theorem fillScopes_append {scope : Scope} {below : List Scope} {pass : Pass} {ts : List Token}
    {body : Text} (h : (settings.fillScopes scope below pass ts).result = .ok body)
    (more : List Token) :
    settings.fillScopes scope below pass (ts ++ more) =
      (settings.fillScopes scope below pass ts).followedBy more := by
  induction ts generalizing scope below pass with
  | nil => cases h
  | cons t ts ih =>
      rw [List.cons_append]
      by_cases ht : t.value.IsWritable
      · cases hturn : settings.turn scope below (pass.note (.consumed t)) t with
        | inside inner inside after =>
            rw [fillScopes_of_inside ht hturn] at h
            rw [fillScopes_of_inside ht hturn, fillScopes_of_inside ht hturn]
            exact ih h
        | closed body after =>
            rw [fillScopes_of_closed ht hturn, fillScopes_of_closed ht hturn]
            rfl
        | halted reason after =>
            rw [fillScopes_of_halted ht hturn] at h
            cases h
      · rw [fillScopes_of_not_isWritable ht] at h
        cases h

theorem formatBody_append {pass : Pass} {family : Bracket} {opener? : Option Token}
    {ts : List Token} {body : Text}
    (h : (settings.formatBody pass family opener? ts).result = .ok body) (more : List Token) :
    settings.formatBody pass family opener? (ts ++ more) =
      (settings.formatBody pass family opener? ts).followedBy more := by
  unfold formatBody at *
  split at h
  · exact fillScopes_append h more
  · cases h

theorem formatToken_append {pass : Pass} {t : Token} {ts : List Token} {text : Text}
    (h : (settings.formatToken pass t ts).result = .ok text) (more : List Token) :
    settings.formatToken pass t (ts ++ more) =
      (settings.formatToken pass t ts).followedBy more := by
  rcases t.kind_cases with ⟨family, ht⟩ | ⟨family, ht⟩ | ht
  · rw [formatToken_opening ht, wrapped] at h
    rw [formatToken_opening ht, formatToken_opening ht]
    cases hbody : (settings.formatBody pass family (some t) ts).result with
    | ok body =>
        rw [formatBody_append hbody]
        rfl
    | error reason =>
        rw [hbody] at h
        cases h
  · rw [formatToken_closing ht, formatToken_closing ht]
    rfl
  · rw [formatToken_leaf ht, formatToken_leaf ht]
    rfl

/-- A pass that comes to its end goes on behind it. -/
theorem formatFrom_append {pass after : Pass} {ts rest : List Token} {out : Text}
    (h : settings.formatFrom pass ts = ⟨.ok out, after, rest⟩) (more : List Token) :
    settings.formatFrom pass (ts ++ more) = (settings.formatFrom after more).prepend out := by
  induction pass, ts using settings.formatFrom_induction generalizing out with
  | nil pass =>
      rw [formatFrom_nil] at h
      cases h
      exact (Outcome.prepend_nil _).symm
  | unwritable pass t ts ht =>
      rw [formatFrom_of_not_isWritable ht] at h
      cases h
  | error pass t ts reason middle left ht hfirst =>
      rw [formatFrom_of_error ht hfirst] at h
      cases h
  | ok pass t ts fragment middle left ht hfirst ih =>
      have hmore : settings.formatToken (pass.note (.consumed t)) t (ts ++ more) =
          ⟨.ok fragment, middle, left ++ more⟩ := by
        rw [formatToken_append (by rw [hfirst]), hfirst]
        rfl
      rw [formatFrom_of_ok ht hfirst] at h
      rcases hothers : settings.formatFrom middle left with ⟨result, last, remaining⟩
      rw [hothers] at h
      cases result with
      | error reason => cases h
      | ok others =>
          cases h
          rw [List.cons_append, formatFrom_of_ok ht hmore, ih hothers, Outcome.prepend_prepend]

end FormatSettings

/-! ## Moved tokens -/

def Diagnostic.moved (offset : Offset) : Diagnostic → Diagnostic
  | unexpectedToken t => .unexpectedToken (t.moved offset)
  | unterminatedList terminator opener? =>
      .unterminatedList terminator (opener?.map (Token.moved offset))
  | nestingTooDeep limit token? => .nestingTooDeep limit (token?.map (Token.moved offset))
  | remark text token? => .remark text (token?.map (Token.moved offset))

def FormatEvent.moved (offset : Offset) : FormatEvent → FormatEvent
  | consumed t => .consumed (t.moved offset)
  | diagnosed d => .diagnosed (d.moved offset)
  | finished count => .finished count

def Scope.moved (offset : Offset) (scope : Scope) : Scope :=
  { scope with opener? := scope.opener?.map (Token.moved offset) }

/-- The pass over moved tokens, behind an earlier one that ended outside all lists. -/
def Pass.behind (earlier : Pass) (offset : Offset) (pass : Pass) : Pass :=
  ⟨pass.nesting, earlier.pending ++ pass.pending.map (Diagnostic.moved offset),
    pass.journal.map (FormatEvent.moved offset) ++ earlier.journal⟩

def Turn.behind (earlier : Pass) (offset : Offset) : Turn → Turn
  | inside scope below pass =>
      .inside (scope.moved offset) (below.map (Scope.moved offset)) (earlier.behind offset pass)
  | closed body pass => .closed body (earlier.behind offset pass)
  | halted reason pass => .halted reason (earlier.behind offset pass)

def Outcome.behind (earlier : Pass) (offset : Offset) (outcome : Outcome) : Outcome :=
  ⟨outcome.result, earlier.behind offset outcome.pass, outcome.rest.map (Token.moved offset)⟩

theorem Pass.report_behind (earlier : Pass) (offset : Offset) (pass : Pass) (d : Diagnostic) :
    (earlier.behind offset pass).report (d.moved offset) =
      earlier.behind offset (pass.report d) := by
  simp [behind, report, FormatEvent.moved]

namespace FormatSettings

variable {settings : FormatSettings} (earlier : Pass) (offset : Offset)

theorem openScope_behind (pass : Pass) (family : Bracket) (opener? : Option Token) :
    settings.openScope (earlier.behind offset pass) family (opener?.map (Token.moved offset)) =
      ((settings.openScope pass family opener?).1.map (Scope.moved offset),
        earlier.behind offset (settings.openScope pass family opener?).2) := by
  cases hlimit : settings.limitAt? pass.nesting with
  | some limit =>
      have hmoved : settings.limitAt? (earlier.behind offset pass).nesting = some limit := hlimit
      by_cases hdigits : FewDigits limit
      · rw [openScope_of_some hlimit hdigits, openScope_of_some hmoved hdigits]
        exact congrArg (Prod.mk (Except.error Halt.aborted))
          (Pass.report_behind earlier offset pass (.nestingTooDeep limit opener?))
      · rw [openScope_of_unwritable hlimit hdigits, openScope_of_unwritable hmoved hdigits]
        rfl
  | none =>
      have hmoved : settings.limitAt? (earlier.behind offset pass).nesting = none := hlimit
      rw [openScope_of_none hlimit, openScope_of_none hmoved]
      rfl

/-- Where a list opens does not matter for what is put into it. -/
theorem ofChild_behind (content : Except Unprintable Text) (scope : Scope) (below : List Scope)
    (pass : Pass) :
    Turn.ofChild (content.bind (settings.addChild (earlier.behind offset pass)
        (scope.moved offset))) (below.map (Scope.moved offset)) (earlier.behind offset pass) =
      (Turn.ofChild (content.bind (settings.addChild pass scope)) below pass).behind
        earlier offset := by
  cases content with
  | error reason => rfl
  | ok content =>
      by_cases hfits : settings.IndentFits pass.nesting
      · have hmoved : settings.IndentFits (earlier.behind offset pass).nesting := hfits
        simp only [Except.bind, addChild_of_fits hfits, addChild_of_fits hmoved]
        rfl
      · have hmoved : ¬settings.IndentFits (earlier.behind offset pass).nesting := hfits
        simp only [Except.bind, addChild_of_not_fits hfits, addChild_of_not_fits hmoved]
        rfl

theorem turn_behind (scope : Scope) (below : List Scope) (pass : Pass) (t : Token) :
    settings.turn (scope.moved offset) (below.map (Scope.moved offset))
        (earlier.behind offset pass) (t.moved offset) =
      (settings.turn scope below pass t).behind earlier offset := by
  rcases t.kind_cases with ⟨family, ht⟩ | ⟨family, ht⟩ | ht
  · have hmoved : (t.moved offset).kind = .opening family := ht
    have hopens := settings.openScope_behind earlier offset pass family (some t)
    rw [Option.map_some] at hopens
    rcases hopen : settings.openScope pass family (some t) with ⟨reason | inner, after⟩
    · rw [hopen] at hopens
      rw [turn_refused ht hopen, turn_refused hmoved hopens]
      rfl
    · rw [hopen] at hopens
      rw [turn_opened ht hopen, turn_opened hmoved hopens]
      rfl
  · by_cases hfamily : family = scope.family
    · subst hfamily
      have hmoved : (t.moved offset).kind = .closing (scope.moved offset).family := ht
      cases below with
      | nil =>
          rw [turn_closing_outermost ht, List.map_nil, turn_closing_outermost hmoved]
          rfl
      | cons outer below =>
          rw [turn_closing ht, List.map_cons, turn_closing hmoved]
          exact ofChild_behind earlier offset _ outer below pass.leave
    · have hmoved : (t.moved offset).kind = .closing family := ht
      have hfamily' : family ≠ (scope.moved offset).family := hfamily
      have hreport : (earlier.behind offset pass).report (.unexpectedToken (t.moved offset)) =
          earlier.behind offset (pass.report (.unexpectedToken t)) :=
        Pass.report_behind earlier offset pass (.unexpectedToken t)
      rw [turn_unexpected ht hfamily, turn_unexpected hmoved hfamily', hreport]
      exact ofChild_behind earlier offset (.ok []) scope below _
  · have hmoved : (t.moved offset).IsLeaf := ht
    rw [turn_leaf ht, turn_leaf hmoved]
    exact ofChild_behind earlier offset t.text scope below pass

theorem fillScopes_behind (scope : Scope) (below : List Scope) (pass : Pass) (ts : List Token) :
    settings.fillScopes (scope.moved offset) (below.map (Scope.moved offset))
        (earlier.behind offset pass) (ts.map (Token.moved offset)) =
      (settings.fillScopes scope below pass ts).behind earlier offset := by
  induction ts generalizing scope below pass with
  | nil =>
      rw [fillScopes, Outcome.behind, ← Pass.report_behind]
      rfl
  | cons t ts ih =>
      rw [List.map_cons]
      by_cases ht : t.value.IsWritable
      · have hmoved : (t.moved offset).value.IsWritable := ht
        have hturn : settings.turn (scope.moved offset) (below.map (Scope.moved offset))
            ((earlier.behind offset pass).note (.consumed (t.moved offset))) (t.moved offset) = _ :=
          turn_behind earlier offset scope below (pass.note (.consumed t)) t
        cases hthis : settings.turn scope below (pass.note (.consumed t)) t with
        | inside inner inside after =>
            rw [hthis] at hturn
            rw [fillScopes_of_inside ht hthis, fillScopes_of_inside hmoved hturn]
            exact ih inner inside after
        | closed body after =>
            rw [hthis] at hturn
            rw [fillScopes_of_closed ht hthis, fillScopes_of_closed hmoved hturn]
            rfl
        | halted reason after =>
            rw [hthis] at hturn
            rw [fillScopes_of_halted ht hthis, fillScopes_of_halted hmoved hturn]
            rfl
      · have hmoved : ¬(t.moved offset).value.IsWritable := ht
        rw [fillScopes_of_not_isWritable ht, fillScopes_of_not_isWritable hmoved]
        rfl

theorem formatBody_behind (pass : Pass) (family : Bracket) (opener? : Option Token)
    (ts : List Token) :
    settings.formatBody (earlier.behind offset pass) family (opener?.map (Token.moved offset))
        (ts.map (Token.moved offset)) =
      (settings.formatBody pass family opener? ts).behind earlier offset := by
  unfold formatBody
  rw [openScope_behind]
  rcases settings.openScope pass family opener? with ⟨reason | scope, after⟩
  · rfl
  · exact fillScopes_behind earlier offset scope [] after ts

theorem formatToken_behind (pass : Pass) (t : Token) (ts : List Token) :
    settings.formatToken (earlier.behind offset pass) (t.moved offset)
        (ts.map (Token.moved offset)) =
      (settings.formatToken pass t ts).behind earlier offset := by
  rcases t.kind_cases with ⟨family, ht⟩ | ⟨family, ht⟩ | ht
  · have hmoved : (t.moved offset).kind = .opening family := ht
    have hbody := settings.formatBody_behind earlier offset pass family (some t) ts
    rw [Option.map_some] at hbody
    rw [formatToken_opening ht, formatToken_opening hmoved, hbody]
    rfl
  · have hmoved : (t.moved offset).kind = .closing family := ht
    rw [formatToken_closing ht, formatToken_closing hmoved, Outcome.behind, ← Pass.report_behind]
    rfl
  · have hmoved : (t.moved offset).IsLeaf := ht
    rw [formatToken_leaf ht, formatToken_leaf hmoved]
    rfl

theorem formatToken_consumed_behind {pass after : Pass} {t : Token} {ts rest : List Token}
    {result : Except Halt Text}
    (h : settings.formatToken (pass.note (.consumed t)) t ts = ⟨result, after, rest⟩) :
    settings.formatToken ((earlier.behind offset pass).note (.consumed (t.moved offset)))
        (t.moved offset) (ts.map (Token.moved offset)) =
      ⟨result, earlier.behind offset after, rest.map (Token.moved offset)⟩ := by
  have hmoved := settings.formatToken_behind earlier offset (pass.note (.consumed t)) t ts
  rw [h] at hmoved
  exact hmoved

/-- A pass over moved tokens goes as one over the tokens, whatever was recorded before. -/
theorem formatFrom_behind (pass : Pass) (ts : List Token) :
    settings.formatFrom (earlier.behind offset pass) (ts.map (Token.moved offset)) =
      (settings.formatFrom pass ts).behind earlier offset := by
  induction pass, ts using settings.formatFrom_induction with
  | nil pass =>
      rw [List.map_nil, formatFrom_nil, formatFrom_nil]
      rfl
  | unwritable pass t ts ht =>
      have hmoved : ¬(t.moved offset).value.IsWritable := ht
      rw [List.map_cons, formatFrom_of_not_isWritable ht, formatFrom_of_not_isWritable hmoved]
      rfl
  | error pass t ts reason after rest ht htoken =>
      have hmoved : (t.moved offset).value.IsWritable := ht
      rw [List.map_cons, formatFrom_of_error ht htoken,
        formatFrom_of_error hmoved (formatToken_consumed_behind earlier offset htoken)]
      rfl
  | ok pass t ts fragment after rest ht htoken ih =>
      have hmoved : (t.moved offset).value.IsWritable := ht
      rw [List.map_cons, formatFrom_of_ok ht htoken,
        formatFrom_of_ok hmoved (formatToken_consumed_behind earlier offset htoken), ih]
      rfl

end FormatSettings

/-! ## Whole passes -/

/-- The failure of a pass over moved tokens, behind a pass with these diagnostics. -/
def FormatFailure.behind (earlier : List Diagnostic) (offset : Offset) :
    FormatFailure → FormatFailure
  | diagnosed diagnostics => .diagnosed (earlier ++ diagnostics.map (Diagnostic.moved offset))
  | unprintable reason => .unprintable reason

namespace Formatter

variable {settings : FormatSettings}

/-- A pass that succeeds read all tokens and left no list open. -/
theorem formatFrom_of_format {ts : List Token} {out : Text}
    (h : (ofTokens settings ts).format.1 = .ok out) :
    ∃ after, settings.formatFrom {} ts = ⟨.ok out, after, []⟩ ∧ after.nesting = 0 ∧
      after.pending = (ofTokens settings ts).format.2.pass.pending := by
  have hadmits := admits_of_format h
  obtain ⟨htext, hpending⟩ := format_of_admits hadmits
  rw [htext] at h
  cases h
  have hsweep : (settings.sweep [] {} ts).Completes _ _ :=
    FormatSettings.sweep_of_admits rfl hadmits
  have hcompletes : (settings.formatFrom {} ts).Completes (settings.render [] ts)
      ((strays [] ts).map .unexpectedToken) := hsweep
  generalize settings.formatFrom {} ts = outcome at hcompletes ⊢
  obtain ⟨result, after, rest⟩ := outcome
  obtain ⟨rfl, hafter, hnesting, rfl⟩ := hcompletes
  exact ⟨after, rfl, hnesting, hafter.trans hpending.symm⟩

/-- Tokens behind those of a pass that succeeds are formatted as they are alone. -/
theorem format_append {ts : List Token} {out : Text}
    (h : (ofTokens settings ts).format.1 = .ok out) (us : List Token) (offset : Offset) :
    (ofTokens settings (ts ++ us.map (Token.moved offset))).format.1 =
      ((ofTokens settings us).format.1.map (out ++ ·)).mapError
        (FormatFailure.behind (ofTokens settings ts).format.2.pass.pending offset) := by
  obtain ⟨after, hrun, hnesting, hpending⟩ := formatFrom_of_format h
  have hafter : after = after.behind offset {} := by
    obtain ⟨nesting, pending, journal⟩ := after
    obtain rfl : nesting = 0 := hnesting
    simp [Pass.behind]
  have hjoined := FormatSettings.formatFrom_append hrun (us.map (Token.moved offset))
  rw [hafter, FormatSettings.formatFrom_behind] at hjoined
  rw [← hpending]
  rcases hothers : settings.formatFrom {} us with ⟨result, last, rest⟩
  rw [hothers] at hjoined
  simp only [format, resume, ofTokens, hothers, hjoined]
  cases result with
  | ok others => rfl
  | error reason => cases reason <;> rfl

end Formatter

end TanSource
