import TanSource.Proofs.Formatter.Course

/-!
# A pass follows its course

One token does to a pass inside a list what meeting it does to the course (`turn_follows`). From
that a list that is filled, an expression and a whole pass follow the course of their tokens
(`fillScopes_follows`, `formatToken_follows`, `formatFrom_follows`): they stop in front of the same
tokens, at the depth of the lists that are open there, with the same reports and the same halt.
-/

namespace TanSource

/-- Between the two states these events were reported, and nobody took a diagnostic. -/
structure Pass.Reports (pass after : Pass) (events : List FormatEvent) : Prop where
  pending : after.pending = pass.pending ++ events.filterMap FormatEvent.diagnostic?
  events : after.events = pass.events ++ events

namespace Pass.Reports

variable {pass middle after : Pass} {first second : List FormatEvent}

theorem refl (pass : Pass) : pass.Reports pass [] :=
  ⟨(List.append_nil _).symm, (List.append_nil _).symm⟩

theorem trans (hfirst : pass.Reports middle first) (hsecond : middle.Reports after second) :
    pass.Reports after (first ++ second) :=
  ⟨by rw [hsecond.pending, hfirst.pending, List.filterMap_append, List.append_assoc],
    by rw [hsecond.events, hfirst.events, List.append_assoc]⟩

theorem consumed (pass : Pass) (t : Token) : pass.Reports (pass.note (.consumed t)) [.consumed t] :=
  ⟨by simp [FormatEvent.diagnostic?], by simp [Pass.events, Pass.note]⟩

theorem diagnosed (pass : Pass) (d : Diagnostic) :
    pass.Reports (pass.report d) (reportEvents (some d)) :=
  ⟨by simp [reportEvents, FormatEvent.diagnostic?],
    by simp [Pass.events, Pass.report, reportEvents]⟩

theorem enter (h : pass.Reports after first) : pass.Reports after.enter first :=
  ⟨h.pending, h.events⟩

theorem leave (h : pass.Reports after first) : pass.Reports after.leave first :=
  ⟨h.pending, h.events⟩

end Pass.Reports

/-- The outcome is that of the course, from the state `pass` in a call made at the depth `base`. -/
structure Outcome.Follows (outcome : Outcome) (pass : Pass) (base : Int) (course : Course) :
    Prop where
  rest : outcome.rest = course.rest
  nesting : outcome.pass.nesting = base + course.lists.length
  reports : pass.Reports outcome.pass course.events
  returns : course.halt? = none → ∃ text, outcome.result = .ok text
  halts : ∀ reason, course.halt? = some reason → outcome.result = .error reason

namespace Outcome.Follows

variable {outcome : Outcome} {pass middle after : Pass} {base : Int} {course : Course}
  {events : List FormatEvent} {rest : List Token}

theorem of_ok (text : Text) (hreports : pass.Reports after events)
    (hnesting : after.nesting = base) :
    Outcome.Follows ⟨.ok text, after, rest⟩ pass base ⟨[], events, rest, none⟩ :=
  ⟨rfl, by simp [hnesting], hreports, fun _ => ⟨text, rfl⟩, by simp⟩

theorem of_error {lists : List OpenList} {reason : Halt} (hreports : pass.Reports after events)
    (hnesting : after.nesting = base + (lists.length : Int)) :
    Outcome.Follows ⟨.error reason, after, rest⟩ pass base ⟨lists, events, rest, some reason⟩ :=
  ⟨rfl, hnesting, hreports, by simp, by simp⟩

theorem precededBy (h : outcome.Follows middle base course)
    (hreports : pass.Reports middle events) :
    outcome.Follows pass base (course.precededBy events) :=
  ⟨h.rest, h.nesting, hreports.trans h.reports, h.returns, h.halts⟩

theorem map (h : outcome.Follows pass base course) (f : Text → Text) :
    Outcome.Follows { outcome with result := outcome.result.map f } pass base course := by
  refine ⟨h.rest, h.nesting, h.reports, ?_, ?_⟩
  · intro hhalt
    obtain ⟨text, htext⟩ := h.returns hhalt
    exact ⟨f text, by rw [htext]; rfl⟩
  · intro reason hhalt
    rw [h.halts reason hhalt]
    rfl

theorem halt_of_error (h : outcome.Follows pass base course) {reason : Halt}
    (hresult : outcome.result = .error reason) : course.halt? = some reason := by
  cases hhalt : course.halt? with
  | none =>
      obtain ⟨text, htext⟩ := h.returns hhalt
      rw [hresult] at htext
      cases htext
  | some other =>
      have hother := h.halts other hhalt
      rw [hresult] at hother
      cases hother
      rfl

theorem isOk_iff (h : outcome.Follows pass base course) :
    outcome.result.isOk = true ↔ course.halt? = none := by
  cases hhalt : course.halt? with
  | none =>
      obtain ⟨text, htext⟩ := h.returns hhalt
      simp [htext, Except.isOk, Except.toBool]
  | some reason => simp [h.halts reason hhalt, Except.isOk, Except.toBool]

end Outcome.Follows

namespace FormatSettings

variable {settings : FormatSettings} {base : Int}

theorem wrapped_follows {outcome : Outcome} {pass : Pass} {course : Course} (family : Bracket)
    (h : outcome.Follows pass base course) (hlists : course.halt? = none → course.lists = []) :
    (settings.wrapped family outcome).Follows pass base
      (course.stoppedBy (settings.wrapStop? base)) := by
  cases hhalt : course.halt? with
  | some reason =>
      rw [Course.stoppedBy_of_some hhalt]
      refine ⟨h.rest, h.nesting, h.reports, by simp [hhalt], fun other hother => ?_⟩
      rw [wrapped, h.halts other hother]
      rfl
  | none =>
      obtain ⟨body, hbody⟩ := h.returns hhalt
      have hnesting : outcome.pass.nesting = base := by
        rw [h.nesting, hlists hhalt]
        exact Int.add_zero base
      by_cases hfits : settings.WrapFits base
      · have hstop : (course.stoppedBy (settings.wrapStop? base)).halt? = none := by
          simp [Course.stoppedBy, hhalt, wrapStop?, hfits]
        refine ⟨h.rest, h.nesting, h.reports, fun _ =>
          ⟨settings.openText family ++ (body ++ settings.closeText base family), ?_⟩,
          by simp [hstop]⟩
        simp only [wrapped, hbody, hnesting, wrap_of_fits hfits, Except.bind]
        rfl
      · have hstop : (course.stoppedBy (settings.wrapStop? base)).halt? =
            some (.unprintable .tooWide) := by
          simp [Course.stoppedBy, hhalt, wrapStop?, hfits]
        refine ⟨h.rest, h.nesting, h.reports, by simp [hstop], fun reason hreason => ?_⟩
        obtain rfl : Halt.unprintable .tooWide = reason :=
          Option.some.inj (hstop.symm.trans hreason)
        simp only [wrapped, hbody, hnesting, wrap_of_not_fits hfits, Except.bind]
        rfl

/-- Whether a child is put into the list `top` is told by what stops it. -/
def ChildFollows (child : Except Unprintable Scope) (top : OpenList) : Option Unprintable → Prop
  | none => ∃ scope : Scope, child = .ok scope ∧ scope.openList = top
  | some reason => child = .error reason

theorem addChild_follows {pass : Pass} {lists : List OpenList} (hne : lists ≠ [])
    (hnesting : pass.nesting = base + (lists.length : Int)) (scope : Scope) (content : Text) :
    ChildFollows (settings.addChild pass scope content) scope.openList
      (settings.lineStop? base lists) := by
  by_cases hfits : settings.IndentFits (base + (lists.length : Int))
  · rw [lineStop?_of_fits hfits]
    exact ⟨_, addChild_of_fits (hnesting ▸ hfits) content, rfl⟩
  · rw [lineStop?_of_not_fits hne hfits]
    exact addChild_of_not_fits (hnesting ▸ hfits) content

/-- A list that is closed inside another is a child of that one. What is too wide for its closing
delimiter is too wide for its line. -/
theorem wrappedChild_follows {pass : Pass} {lists : List OpenList} (hne : lists ≠ [])
    (hnesting : pass.nesting = base + (lists.length : Int)) (family : Bracket) (body : Text)
    (outer : Scope) :
    ChildFollows ((settings.wrap pass.nesting family body).bind (settings.addChild pass outer))
      outer.openList (settings.lineStop? base lists) := by
  by_cases hwrap : settings.WrapFits pass.nesting
  · rw [wrap_of_fits hwrap]
    exact addChild_follows hne hnesting outer _
  · rw [wrap_of_not_fits hwrap, lineStop?_of_not_fits hne (hnesting ▸ mt IndentFits.wrapFits hwrap)]
    rfl

/-- What one token does to a pass inside a list is what it does to the course. -/
def TurnFollows (base : Int) (pass : Pass) (t : Token) (meeting : Meeting) : Turn → Prop
  | .inside inner inside after =>
      meeting.halt? = none ∧ meeting.lists = (inner :: inside).map Scope.openList ∧
        pass.Reports after (.consumed t :: reportEvents meeting.report?) ∧
        after.nesting = base + ((inside.length : Int) + 1)
  | .closed _ after =>
      meeting.halt? = none ∧ meeting.lists = [] ∧
        pass.Reports after (.consumed t :: reportEvents meeting.report?) ∧ after.nesting = base
  | .halted reason after =>
      meeting.halt? = some reason ∧
        pass.Reports after (.consumed t :: reportEvents meeting.report?) ∧
        after.nesting = base + (meeting.lists.length : Int)

theorem ofChild_follows {child : Except Unprintable Scope} {top : OpenList} {below : List Scope}
    {pass after : Pass} {t : Token} {report? : Option Diagnostic} {stop? : Option Unprintable}
    (hchild : ChildFollows child top stop?)
    (hreports : pass.Reports after (.consumed t :: reportEvents report?))
    (hnesting : after.nesting = base + ((below.length : Int) + 1)) :
    TurnFollows base pass t
      ⟨top :: below.map Scope.openList, report?, stop?.map .unprintable⟩
      (.ofChild child below after) := by
  cases stop? with
  | none =>
      obtain ⟨scope, rfl, rfl⟩ := hchild
      exact ⟨rfl, rfl, hreports, hnesting⟩
  | some reason =>
      obtain rfl : child = .error reason := hchild
      exact ⟨rfl, hreports, by simpa using hnesting⟩

section

variable {scope : Scope} {below : List Scope} {pass : Pass} {t : Token} {family : Bracket}

theorem turn_follows_opening (hnesting : pass.nesting = base + ((below.length : Int) + 1))
    (ht : t.kind = .opening family) :
    TurnFollows base pass t (settings.meet base true ((scope :: below).map Scope.openList) t)
      (settings.turn scope below (pass.note (.consumed t)) t) := by
  have hconsumed := Pass.Reports.consumed pass t
  have hdepth : pass.nesting = base + (((scope :: below).map Scope.openList).length : Int) := by
    simp [hnesting]
  rw [meet_opening ht]
  cases hlimit : settings.limitAt? (pass.note (.consumed t)).nesting with
  | none =>
      rw [turn_opening ht hlimit]
      rw [Pass.nesting_note, hdepth] at hlimit
      rw [meetOpening_of_none hlimit]
      refine ⟨rfl, rfl, hconsumed.enter, ?_⟩
      simp [hnesting, Int.add_assoc]
  | some limit =>
      by_cases hdigits : FewDigits limit
      · rw [turn_refused ht (openScope_of_some hlimit hdigits _ _)]
        rw [Pass.nesting_note, hdepth] at hlimit
        rw [meetOpening_of_some hlimit hdigits]
        exact ⟨rfl, hconsumed.trans (.diagnosed _ _), hdepth⟩
      · rw [turn_refused ht (openScope_of_unwritable hlimit hdigits _ _)]
        rw [Pass.nesting_note, hdepth] at hlimit
        rw [meetOpening_of_unwritable hlimit hdigits]
        exact ⟨rfl, hconsumed, hdepth⟩

theorem turn_follows_closing (hnesting : pass.nesting = base + ((below.length : Int) + 1))
    (ht : t.kind = .closing scope.family) :
    TurnFollows base pass t (settings.meet base true ((scope :: below).map Scope.openList) t)
      (settings.turn scope below (pass.note (.consumed t)) t) := by
  have hclosing : t.kind = .closing scope.openList.family := ht
  have hleaves := (Pass.Reports.consumed pass t).leave
  rw [List.map_cons, meet_closing hclosing, closeStop?_of_single]
  cases below with
  | nil =>
      rw [turn_closing_outermost ht, List.map_nil, lineStop?_nil]
      exact ⟨rfl, rfl, hleaves, by simp [hnesting]⟩
  | cons outer below =>
      have hleft : (pass.note (.consumed t)).leave.nesting = base + ((below.length : Int) + 1) := by
        simp only [Pass.nesting_leave, Pass.nesting_note, hnesting, List.length_cons]
        omega
      have hdepth : (pass.note (.consumed t)).leave.nesting =
          base + (((outer :: below).map Scope.openList).length : Int) := by
        simpa using hleft
      rw [turn_closing ht]
      exact ofChild_follows (wrappedChild_follows (List.cons_ne_nil _ _) hdepth _ _ _) hleaves hleft

theorem turn_follows (hnesting : pass.nesting = base + ((below.length : Int) + 1)) (t : Token) :
    TurnFollows base pass t (settings.meet base true ((scope :: below).map Scope.openList) t)
      (settings.turn scope below (pass.note (.consumed t)) t) := by
  have hconsumed := Pass.Reports.consumed pass t
  have hdepth : pass.nesting = base + (((scope :: below).map Scope.openList).length : Int) := by
    simp [hnesting]
  have hne : (scope :: below).map Scope.openList ≠ [] := List.cons_ne_nil _ _
  rcases t.kind_cases with ⟨family, ht⟩ | ⟨family, ht⟩ | ht
  · exact turn_follows_opening hnesting ht
  · by_cases hfamily : family = scope.family
    · subst hfamily
      exact turn_follows_closing hnesting ht
    · have hother : scope.openList.family ≠ family := Ne.symm hfamily
      rw [turn_unexpected ht hfamily, meet_stray ht (by simpa using hother)]
      exact ofChild_follows (addChild_follows hne hdepth scope [])
        (hconsumed.trans (.diagnosed _ _)) hnesting
  · rw [turn_leaf ht]
    cases htext : t.text with
    | ok content =>
        rw [meet_leaf ht htext]
        exact ofChild_follows (addChild_follows hne hdepth scope content) hconsumed hnesting
    | error reason =>
        rw [meet_unprintable ht htext]
        exact ⟨rfl, hconsumed, hdepth⟩

end

/-- A list that is filled follows the course that ends behind it. -/
theorem fillScopes_follows {scope : Scope} {below : List Scope} {pass : Pass}
    (hnesting : pass.nesting = base + ((below.length : Int) + 1)) (ts : List Token) :
    (settings.fillScopes scope below pass ts).Follows pass base
      (settings.courseFrom base true ((scope :: below).map Scope.openList) ts) := by
  induction ts generalizing scope below pass with
  | nil =>
      refine .of_error (.diagnosed _ _) ?_
      simp [hnesting]
  | cons t ts ih =>
      have hopen : true = false ∨ (scope :: below).map Scope.openList ≠ [] :=
        Or.inr (List.cons_ne_nil _ _)
      by_cases ht : t.value.IsWritable
      · have hturn : TurnFollows base pass t
            (settings.meet base true ((scope :: below).map Scope.openList) t)
            (settings.turn scope below (pass.note (.consumed t)) t) := turn_follows hnesting t
        rw [courseFrom_meets hopen ht]
        cases hresult : settings.turn scope below (pass.note (.consumed t)) t with
        | inside inner inside after =>
            rw [hresult] at hturn
            obtain ⟨hhalt, hlists, hreports, hafter⟩ := hturn
            rw [fillScopes_of_inside ht hresult, precededBy_of_goesOn hhalt, hlists]
            exact (ih hafter).precededBy hreports
        | closed body after =>
            rw [hresult] at hturn
            obtain ⟨hhalt, hlists, hreports, hafter⟩ := hturn
            rw [fillScopes_of_closed ht hresult, precededBy_of_goesOn hhalt, hlists,
              courseFrom_single]
            exact (Outcome.Follows.of_ok body (.refl after) hafter).precededBy hreports
        | halted reason after =>
            rw [hresult] at hturn
            obtain ⟨hhalt, hreports, hafter⟩ := hturn
            rw [fillScopes_of_halted ht hresult, precededBy_of_halts hhalt]
            exact .of_error hreports hafter
      · rw [fillScopes_of_not_isWritable ht, courseFrom_of_not_isWritable hopen ht]
        exact .of_error (.refl pass) (by simp [hnesting])

theorem formatBody_follows (pass : Pass) (family : Bracket) (opener? : Option Token)
    (ts : List Token) :
    (settings.formatBody pass family opener? ts).Follows pass pass.nesting
      (settings.bodyCourse pass.nesting family opener? ts) := by
  unfold formatBody
  cases hlimit : settings.limitAt? pass.nesting with
  | none =>
      rw [openScope_of_none hlimit, bodyCourse_of_none hlimit]
      have hfill : (settings.fillScopes ⟨family, opener?, []⟩ [] pass.enter ts).Follows pass.enter
          pass.nesting (settings.courseFrom pass.nesting true [⟨family, opener?⟩] ts) :=
        fillScopes_follows (by simp) ts
      exact hfill.precededBy (Pass.Reports.refl pass).enter
  | some limit =>
      by_cases hdigits : FewDigits limit
      · rw [openScope_of_some hlimit hdigits, bodyCourse_of_some hlimit hdigits]
        exact .of_error (.diagnosed _ _) (by simp)
      · rw [openScope_of_unwritable hlimit hdigits, bodyCourse_of_unwritable hlimit hdigits]
        exact .of_error (.refl pass) (by simp)

theorem formatToken_follows (pass : Pass) (t : Token) (ts : List Token) :
    (settings.formatToken pass t ts).Follows pass pass.nesting
      (settings.exprCourse pass.nesting t ts) := by
  rcases t.kind_cases with ⟨family, ht⟩ | ⟨family, ht⟩ | ht
  · rw [formatToken_opening ht, exprCourse_opening ht]
    exact wrapped_follows family (settings.formatBody_follows pass family (some t) ts)
      bodyCourse_lists
  · rw [formatToken_closing ht, exprCourse_stray ht]
    exact .of_ok [] (.diagnosed pass _) rfl
  · rw [formatToken_leaf ht]
    cases htext : t.text with
    | ok content =>
        rw [exprCourse_leaf ht htext]
        exact .of_ok content (.refl pass) rfl
    | error reason =>
        rw [exprCourse_unprintable ht htext]
        exact .of_error (.refl pass) (by simp)

theorem formatToken_follows_consumed {pass : Pass} {t : Token} {ts : List Token} {outcome : Outcome}
    (h : settings.formatToken (pass.note (.consumed t)) t ts = outcome) :
    outcome.Follows pass pass.nesting
      ((settings.exprCourse pass.nesting t ts).precededBy [.consumed t]) := by
  subst h
  exact (settings.formatToken_follows (pass.note (.consumed t)) t ts).precededBy
    (Pass.Reports.consumed pass t)

/-- A pass over all tokens that are left follows the course to their end. -/
theorem formatFrom_follows (pass : Pass) (ts : List Token) :
    (settings.formatFrom pass ts).Follows pass pass.nesting
      (settings.courseFrom pass.nesting false [] ts) := by
  induction pass, ts using settings.formatFrom_induction with
  | nil pass =>
      rw [formatFrom_nil]
      exact .of_ok [] (.refl pass) rfl
  | unwritable pass t ts ht =>
      rw [formatFrom_of_not_isWritable ht, courseFrom_of_not_isWritable (Or.inl rfl) ht]
      exact .of_error (.refl pass) (by simp)
  | error pass t ts reason after rest ht htoken =>
      have hfirst := formatToken_follows_consumed htoken
      rw [formatFrom_of_error ht htoken, courseFrom_cons ht,
        Course.andThen_of_some (hfirst.halt_of_error rfl)]
      exact hfirst
  | ok pass t ts fragment after rest ht htoken ih =>
      have hfirst := formatToken_follows_consumed htoken
      have hhalt := hfirst.isOk_iff.mp rfl
      have hlists : ((settings.exprCourse pass.nesting t ts).precededBy [.consumed t]).lists = [] :=
        exprCourse_lists hhalt
      have hnesting : after.nesting = pass.nesting := by
        rw [hfirst.nesting, hlists]
        exact Int.add_zero _
      have hrest : rest = _ := hfirst.rest
      rw [hnesting] at ih
      rw [formatFrom_of_ok ht htoken, courseFrom_cons ht, Course.andThen_of_none hhalt, ← hrest]
      exact (ih.precededBy hfirst.reports).map _

end FormatSettings

end TanSource
