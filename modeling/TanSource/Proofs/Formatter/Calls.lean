import TanSource.Proofs.Formatter.Following
import TanSource.Proofs.Formatter.Matching

/-!
# Calls to a formatter

A formatter may be called in any order, also again behind a call that failed. Every call follows its
course (`answer_follows`), from the depth at which the calls before left the formatter. So the depth
is never below zero or above the limit, and it is where it was whenever a call returns
(`afterCalls_keeps_depth`).
-/

namespace TanSource

namespace Formatter

inductive Call
  | format
  | formatExpr (t : Token)
  | formatList (delimiter : TokenKind) (opener? : Option Token)
  | next
  | takeErrors
  | diagnostics

inductive Reply
  | whole (result : Except FormatFailure Text)
  | part (result : Except Halt Text)
  | token (result : Except Unprintable (Option Token))
  | taken (diagnostics : List Diagnostic)
  | seen (diagnostics : List Diagnostic)

namespace Reply

def returns : Reply → Bool
  | whole result => result.isOk
  | part result => result.isOk
  | token result => result.isOk
  | _ => true

/-- The diagnostics that leave the formatter with the answer. Those that are only looked at stay. -/
def handedOut : Reply → List Diagnostic
  | whole (.error (.diagnosed diagnostics)) => diagnostics
  | taken diagnostics => diagnostics
  | _ => []

end Reply

def answer (f : Formatter) : Call → Reply × Formatter
  | .format => f.format.map .whole id
  | .formatExpr t => (f.formatExpr t).map .part id
  | .formatList delimiter opener? => (f.formatList delimiter opener?).map .part id
  | .next => f.next?.map .token id
  | .takeErrors => f.takeErrors.map .taken id
  | .diagnostics => (.seen f.pass.pending, f)

def afterCall (f : Formatter) (call : Call) : Formatter :=
  (f.answer call).2

def afterCalls (f : Formatter) (calls : List Call) : Formatter :=
  calls.foldl afterCall f

def nextCourse : List Token → Course
  | [] => ⟨[], [], [], none⟩
  | t :: ts =>
      if t.value.IsWritable then ⟨[], [.consumed t], ts, none⟩
      else ⟨[], [], ts, some (.unprintable .tooManyDigits)⟩

/-- The course of a call: of all tokens that are left, of one expression, or of the body of one
list. -/
def course (f : Formatter) : Call → Course
  | .format => f.settings.courseFrom f.pass.nesting false [] f.rest
  | .formatExpr t => f.settings.exprCourse f.pass.nesting t f.rest
  | .formatList (.closing family) opener? =>
      f.settings.bodyCourse f.pass.nesting family opener? f.rest
  | .formatList _ _ => ⟨[], [], f.rest, some .notClosing⟩
  | .next => nextCourse f.rest
  | .takeErrors => ⟨[], [], f.rest, none⟩
  | .diagnostics => ⟨[], [], f.rest, none⟩

/-! ## Calls follow their courses -/

/-- The answer and the formatter behind it are those of the course. What the course reports is
handed out or pending, behind what was pending before. -/
structure Follows (f : Formatter) (reply : Reply) (after : Formatter) (course : Course) : Prop where
  settings : after.settings = f.settings
  rest : after.rest = course.rest
  nesting : after.pass.nesting = f.pass.nesting + course.lists.length
  ledger : reply.handedOut ++ after.pass.pending = f.pass.pending ++ course.diagnostics
  recorded : after.pass.recorded = f.pass.recorded ++ course.diagnostics
  returns : reply.returns = true ↔ course.halt? = none

theorem recorded_of_reports {pass after : Pass} {events : List FormatEvent}
    (h : pass.Reports after events) :
    after.recorded = pass.recorded ++ events.filterMap FormatEvent.diagnostic? := by
  rw [Pass.recorded, h.events, List.filterMap_append, Pass.recorded]

theorem resume_follows {f : Formatter} {outcome : Outcome} {course : Course}
    (h : outcome.Follows f.pass f.pass.nesting course) :
    f.Follows (.part (f.resume outcome).1) (f.resume outcome).2 course where
  settings := rfl
  rest := h.rest
  nesting := h.nesting
  ledger := h.reports.pending
  recorded := recorded_of_reports h.reports
  returns := h.isOk_iff

theorem settings_finish (f : Formatter) : f.finish.settings = f.settings := by
  unfold finish
  split <;> rfl

theorem rest_finish (f : Formatter) : f.finish.rest = f.rest := by
  unfold finish
  split <;> rfl

theorem recorded_finish (f : Formatter) : f.finish.pass.recorded = f.pass.recorded := by
  unfold finish
  split
  · rfl
  · simp [Pass.recorded, Pass.events, Pass.note, FormatEvent.diagnostic?]

theorem format_follows (f : Formatter) :
    f.Follows (.whole f.format.1) f.format.2 (f.course .format) := by
  have hrun : (f.settings.formatFrom f.pass f.rest).Follows f.pass f.pass.nesting
      (f.course .format) := FormatSettings.formatFrom_follows f.pass f.rest
  rcases hformat : f.settings.formatFrom f.pass f.rest with ⟨result, after, rest⟩
  rw [hformat] at hrun
  have hrecorded : after.recorded = f.pass.recorded ++ (f.course .format).diagnostics :=
    recorded_of_reports hrun.reports
  cases result with
  | ok text =>
      rw [format_of_ok hformat]
      refine ⟨settings_finish _, ?_, ?_, ?_, ?_, hrun.isOk_iff⟩
      · rw [rest_finish]
        exact hrun.rest
      · rw [nesting_finish]
        exact hrun.nesting
      · rw [pending_finish]
        exact hrun.reports.pending
      · rw [recorded_finish]
        exact hrecorded
  | error reason =>
      cases reason with
      | aborted =>
          rw [format_of_aborted hformat]
          refine ⟨rfl, hrun.rest, hrun.nesting, ?_, hrecorded, hrun.isOk_iff⟩
          exact (List.append_nil _).trans hrun.reports.pending
      | unprintable reason =>
          rw [format_of_unprintable hformat]
          exact ⟨rfl, hrun.rest, hrun.nesting, hrun.reports.pending, hrecorded, hrun.isOk_iff⟩
      | notClosing =>
          exact absurd (hrun.halt_of_error rfl) FormatSettings.courseFrom_halt

theorem formatList_of_not_closing {delimiter : TokenKind}
    (h : ∀ family, delimiter ≠ .closing family) (f : Formatter) (opener? : Option Token) :
    f.formatList delimiter opener? = (.error .notClosing, f) := by
  unfold formatList
  split
  · exact absurd rfl (h _)
  · rfl

theorem course_of_not_closing {delimiter : TokenKind}
    (h : ∀ family, delimiter ≠ .closing family) (f : Formatter) (opener? : Option Token) :
    f.course (.formatList delimiter opener?) = ⟨[], [], f.rest, some .notClosing⟩ := by
  cases delimiter with
  | delimiter d =>
      cases d with
      | opening family => rfl
      | closing family => exact absurd rfl (h family)
  | _ => rfl

/-- A call that records nothing and leaves the depth as it is. -/
theorem follows_of_quiet {f after : Formatter} {reply : Reply} {course : Course}
    (hsettings : after.settings = f.settings) (hrest : after.rest = course.rest)
    (hnesting : after.pass.nesting = f.pass.nesting)
    (hledger : reply.handedOut ++ after.pass.pending = f.pass.pending)
    (hrecorded : after.pass.recorded = f.pass.recorded) (hlists : course.lists = [])
    (hquiet : course.diagnostics = []) (hreturns : reply.returns = true ↔ course.halt? = none) :
    f.Follows reply after course :=
  ⟨hsettings, hrest, by simp [hnesting, hlists], by rw [hquiet, List.append_nil, hledger],
    by rw [hquiet, List.append_nil, hrecorded], hreturns⟩

theorem next_follows (f : Formatter) :
    f.Follows (.token f.next?.1) f.next?.2 (f.course .next) := by
  obtain ⟨settings, pass, rest⟩ := f
  cases rest with
  | nil =>
      exact follows_of_quiet rfl rfl rfl rfl rfl rfl rfl
        (by simp [Reply.returns, next?, course, nextCourse, Except.isOk, Except.toBool])
  | cons t ts =>
      by_cases ht : t.value.IsWritable
      · have hcourse : course ⟨settings, pass, t :: ts⟩ .next = ⟨[], [.consumed t], ts, none⟩ :=
          if_pos ht
        have hnext : next? ⟨settings, pass, t :: ts⟩ =
            (.ok (some t), ⟨settings, pass.note (.consumed t), ts⟩) := by
          simp only [next?, Pass.consume_of_isWritable ht]
        have hrecorded := recorded_of_reports (Pass.Reports.consumed pass t)
        rw [hcourse, hnext]
        exact follows_of_quiet rfl rfl rfl rfl (hrecorded.trans (List.append_nil _)) rfl rfl
          (by simp [Reply.returns, Except.isOk, Except.toBool])
      · have hcourse : course ⟨settings, pass, t :: ts⟩ .next =
            ⟨[], [], ts, some (.unprintable .tooManyDigits)⟩ := if_neg ht
        have hnext : next? ⟨settings, pass, t :: ts⟩ =
            (.error .tooManyDigits, ⟨settings, pass, ts⟩) := by
          simp only [next?, Pass.consume_of_not_isWritable ht]
        rw [hcourse, hnext]
        exact follows_of_quiet rfl rfl rfl rfl rfl rfl rfl
          (by simp [Reply.returns, Except.isOk, Except.toBool])

theorem takeErrors_follows (f : Formatter) :
    f.Follows (.taken f.takeErrors.1) f.takeErrors.2 (f.course .takeErrors) :=
  follows_of_quiet rfl rfl rfl (List.append_nil _) rfl rfl rfl (by simp [Reply.returns, course])

theorem diagnostics_follows (f : Formatter) :
    f.Follows (.seen f.pass.pending) f (f.course .diagnostics) :=
  follows_of_quiet rfl rfl rfl rfl rfl rfl rfl (by simp [Reply.returns, course])

theorem formatList_follows (f : Formatter) (delimiter : TokenKind) (opener? : Option Token) :
    f.Follows (.part (f.formatList delimiter opener?).1) (f.formatList delimiter opener?).2
      (f.course (.formatList delimiter opener?)) := by
  by_cases hclosing : ∃ family, delimiter = .closing family
  · obtain ⟨family, rfl⟩ := hclosing
    exact resume_follows (FormatSettings.formatBody_follows f.pass family opener? f.rest)
  · have hne : ∀ family, delimiter ≠ .closing family := not_exists.mp hclosing
    rw [formatList_of_not_closing hne, course_of_not_closing hne]
    exact follows_of_quiet rfl rfl rfl rfl rfl rfl rfl
      (by simp [Reply.returns, Except.isOk, Except.toBool])

/-- Every call follows its course. -/
theorem answer_follows (f : Formatter) (call : Call) :
    f.Follows (f.answer call).1 (f.answer call).2 (f.course call) := by
  cases call with
  | format => exact f.format_follows
  | formatExpr t => exact resume_follows (FormatSettings.formatToken_follows f.pass t f.rest)
  | formatList delimiter opener? => exact f.formatList_follows delimiter opener?
  | next => exact f.next_follows
  | takeErrors => exact f.takeErrors_follows
  | diagnostics => exact f.diagnostics_follows

/-! ## The state between calls -/

theorem nextCourse_suffix (ts : List Token) : (nextCourse ts).rest <:+ ts := by
  cases ts with
  | nil => exact List.suffix_rfl
  | cons t ts =>
      rw [nextCourse]
      split <;> exact List.suffix_cons t ts

theorem nextCourse_lists (ts : List Token) : (nextCourse ts).lists = [] := by
  cases ts with
  | nil => rfl
  | cons t ts =>
      rw [nextCourse]
      split <;> rfl

theorem course_suffix (f : Formatter) (call : Call) : (f.course call).rest <:+ f.rest := by
  unfold course
  split
  · exact FormatSettings.courseFrom_suffix false [] f.rest
  · exact FormatSettings.exprCourse_suffix _ f.rest
  · exact FormatSettings.bodyCourse_suffix _ _ f.rest
  · exact List.suffix_rfl
  · exact nextCourse_suffix f.rest
  · exact List.suffix_rfl
  · exact List.suffix_rfl

theorem course_withinLimit {f : Formatter} (h : f.settings.WithinLimit f.pass.nesting)
    (call : Call) :
    f.settings.WithinLimit (f.pass.nesting + (f.course call).lists.length) := by
  have hsame : f.settings.WithinLimit (f.pass.nesting + (([] : List OpenList).length : Int)) := by
    simpa using h
  unfold course
  split
  · exact FormatSettings.courseFrom_withinLimit hsame
  · exact FormatSettings.exprCourse_withinLimit h
  · exact FormatSettings.bodyCourse_withinLimit h
  · exact hsame
  · rw [nextCourse_lists]
    exact hsame
  all_goals exact hsame

/-- No list is open where a call ends that returns. -/
theorem course_lists {f : Formatter} {call : Call} (h : (f.course call).halt? = none) :
    (f.course call).lists = [] := by
  unfold course at h ⊢
  split
  · exact FormatSettings.courseFrom_lists h
  · exact FormatSettings.exprCourse_lists h
  · exact FormatSettings.bodyCourse_lists h
  · rfl
  · exact nextCourse_lists f.rest
  all_goals rfl

/-- The state of a formatter of these tokens: what is not read yet ends them, and the depth is
neither below zero nor above the limit. -/
structure Sound (f : Formatter) (settings : FormatSettings) (tokens : List Token) : Prop where
  settings_eq : f.settings = settings
  rest : f.rest <:+ tokens
  nonneg : 0 ≤ f.pass.nesting
  within : settings.WithinLimit f.pass.nesting

variable {f : Formatter} {settings : FormatSettings} {tokens : List Token}

theorem sound_ofTokens (settings : FormatSettings) (tokens : List Token) :
    (ofTokens settings tokens).Sound settings tokens :=
  ⟨rfl, List.suffix_rfl, Int.le_refl 0, fun limit _ => Int.le_max_left 0 limit⟩

theorem Sound.afterCall (h : f.Sound settings tokens) (call : Call) :
    (f.afterCall call).Sound settings tokens := by
  have hcall := f.answer_follows call
  have hwithin := h.within
  rw [← h.settings_eq] at hwithin
  refine ⟨hcall.settings.trans h.settings_eq, ?_, ?_, ?_⟩
  · rw [Formatter.afterCall, hcall.rest]
    exact (f.course_suffix call).trans h.rest
  · have hnonneg := h.nonneg
    rw [Formatter.afterCall, hcall.nesting]
    omega
  · rw [Formatter.afterCall, hcall.nesting, ← h.settings_eq]
    exact course_withinLimit hwithin call

theorem Sound.afterCalls (h : f.Sound settings tokens) (calls : List Call) :
    (f.afterCalls calls).Sound settings tokens := by
  induction calls generalizing f with
  | nil => exact h
  | cons call calls ih => exact ih (h.afterCall call)

/-- A pass over all tokens that does not return is either aborted, and hands out every diagnostic,
or has met a value that cannot be printed. -/
theorem format_of_halt {f : Formatter} {reason : Halt}
    (h : (f.course .format).halt? = some reason) :
    (reason = .aborted ∧ f.format.1 =
      .error (.diagnosed (f.pass.pending ++ (f.course .format).diagnostics))) ∨
    ∃ value, reason = .unprintable value ∧ f.format.1 = .error (.unprintable value) := by
  have hrun : (f.settings.formatFrom f.pass f.rest).Follows f.pass f.pass.nesting
      (f.course .format) := FormatSettings.formatFrom_follows f.pass f.rest
  have hresult := hrun.halts reason h
  have hpending := hrun.reports.pending
  rcases hformat : f.settings.formatFrom f.pass f.rest with ⟨result, after, rest⟩
  rw [hformat] at hresult hpending
  obtain rfl : result = .error reason := hresult
  cases reason with
  | aborted =>
      refine Or.inl ⟨rfl, ?_⟩
      rw [format_of_aborted hformat]
      exact congrArg (Except.error ∘ FormatFailure.diagnosed) hpending
  | unprintable value => exact Or.inr ⟨value, rfl, by rw [format_of_unprintable hformat]⟩
  | notClosing => exact absurd h FormatSettings.courseFrom_halt

/-- Whatever was asked before, the tokens that are left end those of the formatter, and its depth is
neither below zero nor above the limit. A call that returns leaves the depth as it was, one that
fails leaves it higher by the lists that the call opened and did not close. A delimiter that closes
nothing is refused with nothing changed. A pass over all tokens that is aborted fails with the
diagnostics, and never with the abort itself. -/
theorem afterCalls_keeps_depth (settings : FormatSettings) (tokens : List Token)
    (calls : List Call) :
    let f := (ofTokens settings tokens).afterCalls calls
    f.rest <:+ tokens ∧ 0 ≤ f.pass.nesting ∧
    (∀ limit, settings.maxDepth? = some limit → f.pass.nesting ≤ max 0 limit) ∧
    (∀ call, (f.answer call).1.returns = true →
      (f.afterCall call).pass.nesting = f.pass.nesting) ∧
    (∀ call, (f.answer call).1.returns = false →
      (f.afterCall call).pass.nesting = f.pass.nesting + (f.course call).lists.length) ∧
    (∀ delimiter opener?, (∀ family, delimiter ≠ .closing family) →
      f.formatList delimiter opener? = (.error .notClosing, f)) ∧
    ((f.course .format).halt? = none → ∃ text, f.format.1 = .ok text) ∧
    ∀ reason, (f.course .format).halt? = some reason →
      (reason = .aborted ∧ f.format.1 =
        .error (.diagnosed (f.pass.pending ++ (f.course .format).diagnostics))) ∨
      ∃ value, reason = .unprintable value ∧ f.format.1 = .error (.unprintable value) := by
  intro f
  have hsound : f.Sound settings tokens := (sound_ofTokens settings tokens).afterCalls calls
  refine ⟨hsound.rest, hsound.nonneg, hsound.within, ?_, ?_, ?_, ?_, fun _ => format_of_halt⟩
  · intro call hreturns
    have hcall := f.answer_follows call
    rw [afterCall, hcall.nesting, course_lists (hcall.returns.mp hreturns)]
    exact Int.add_zero _
  · intro call _
    exact (f.answer_follows call).nesting
  · intro delimiter opener? hne
    exact formatList_of_not_closing hne f opener?
  · intro hhalt
    have hreturns := f.format_follows.returns.mpr hhalt
    cases hresult : f.format.1 with
    | ok text => exact ⟨text, rfl⟩
    | error failure =>
        rw [hresult] at hreturns
        cases hreturns

end Formatter

end TanSource
