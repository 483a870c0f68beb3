import TanSource.Proofs.Formatter.Calls

/-!
# The ledger of diagnostics

Every diagnostic of a formatter leaves it once, taken by its caller or carried by a pass that was
aborted, or is still pending. What a call records is read off the tokens it met: one diagnostic for
each closing delimiter that closes nothing, and one more if the call was aborted
(`courseFrom_records`, `Formatter.course_records`). Over any sequence of calls nothing is lost, held
twice or out of order (`Formatter.handedOut_append_pending`).
-/

namespace TanSource

def FormatEvent.consumed? : FormatEvent → Option Token
  | consumed t => some t
  | _ => none

def Course.consumed (course : Course) : List Token :=
  course.events.filterMap FormatEvent.consumed?

/-- The course reads these tokens in order and leaves those behind them. Between the two at most one
is lost, whose value cannot be written: it ends the call. -/
def Course.Reads (course : Course) (ts : List Token) : Prop :=
  ∃ lost : Option Token, course.consumed ++ (lost.toList ++ course.rest) = ts ∧
    ∀ t, lost = some t →
      ¬t.value.IsWritable ∧ course.halt? = some (.unprintable .tooManyDigits)

namespace Course

/-- Why a course was aborted on which these tokens were met, with these brackets open in front of
them: the tokens ended in a list, or the last one met was to open a list at the limit. -/
inductive AbortedBy (settings : FormatSettings) (base : Int) (brackets : List Bracket)
    (met : List Token) (course : Course) : Diagnostic → Prop
  | exhausted {top : OpenList} {below : List OpenList} (hrest : course.rest = [])
      (hlists : course.lists = top :: below)
      (hopen : course.lists.map OpenList.family = openBehind brackets met) :
      AbortedBy settings base brackets met course
        (.unterminatedList (.closing top.family) top.opener?)
  | tooDeep {before : List Token} {t : Token} {family : Bracket} {limit : Int}
      (hmet : met = before ++ [t]) (ht : t.kind = .opening family)
      (hopen : course.lists.map OpenList.family = openBehind brackets before)
      (hlimit : settings.limitAt? (base + course.lists.length) = some limit) :
      AbortedBy settings base brackets met course (.nestingTooDeep limit (some t))

/-- What is recorded of such a course: each stray in order and, behind them, the one reason of an
abort. -/
structure Records (settings : FormatSettings) (base : Int) (brackets : List Bracket)
    (met : List Token) (course : Course) : Prop where
  goesOn : course.halt? ≠ some .aborted →
    course.diagnostics = (strays brackets met).map .unexpectedToken
  aborts : course.halt? = some .aborted →
    ∃ d, course.AbortedBy settings base brackets met d ∧
      course.diagnostics = (strays brackets met).map .unexpectedToken ++ [d]

variable {settings : FormatSettings} {base : Int} {course : Course} {lists inner : List OpenList}
  {t : Token} {met rest : List Token} {report? : Option Diagnostic}

theorem diagnostics_precededBy (course : Course) (events : List FormatEvent) :
    (course.precededBy events).diagnostics =
      events.filterMap FormatEvent.diagnostic? ++ course.diagnostics :=
  List.filterMap_append

theorem consumed_precededBy (course : Course) (events : List FormatEvent) :
    (course.precededBy events).consumed =
      events.filterMap FormatEvent.consumed? ++ course.consumed :=
  List.filterMap_append

theorem AbortedBy.cons {brackets : List Bracket} {d : Diagnostic}
    (h : course.AbortedBy settings base (t.shift brackets) met d) (events : List FormatEvent) :
    (course.precededBy events).AbortedBy settings base brackets (t :: met) d := by
  cases h with
  | exhausted hrest hlists hopen => exact .exhausted hrest hlists hopen
  | tooDeep hmet ht hopen hlimit =>
      rw [hmet]
      exact .tooDeep (List.cons_append ..).symm ht hopen hlimit

end Course

namespace FormatSettings

variable {settings : FormatSettings} {base : Int} {t : Token} {lists inner : List OpenList}
  {report? : Option Diagnostic}

@[simp] theorem filterMap_reportEvents (report? : Option Diagnostic) :
    (reportEvents report?).filterMap FormatEvent.diagnostic? = report?.toList := by
  cases report? <;> rfl

@[simp] theorem filterMap_consumed_reportEvents (report? : Option Diagnostic) :
    (reportEvents report?).filterMap FormatEvent.consumed? = [] := by
  cases report? <;> rfl

theorem consumed_reportEvents (lists : List OpenList) (report? : Option Diagnostic)
    (rest : List Token) (halt? : Option Halt) :
    Course.consumed ⟨lists, reportEvents report?, rest, halt?⟩ = [] :=
  filterMap_consumed_reportEvents report?

theorem filterMap_consumed_cons (t : Token) (report? : Option Diagnostic) :
    (.consumed t :: reportEvents report?).filterMap FormatEvent.consumed? = [t] := by
  simp [FormatEvent.consumed?]

/-- A call goes on behind a token with the brackets shifted. -/
theorem Meets.families {meeting : Meeting} (h : settings.Meets base t lists meeting)
    (hhalt : meeting.halt? = none) :
    meeting.lists.map OpenList.family = t.shift (lists.map OpenList.family) := by
  cases h with
  | tooDeep => cases hhalt
  | unwritable => cases hhalt
  | opening ht hlimit => exact (Token.shift_opening ht _).symm
  | closing ht stop? => exact (Token.shift_closing ht _).symm
  | stray ht hfamily stop? =>
      rw [← List.head?_map] at hfamily
      exact (Token.shift_stray ht hfamily).symm
  | leaf ht stop? => exact (Token.shift_leaf ht _).symm

/-- Nothing but a stray is reported of a token that does not abort the call. -/
theorem Meets.report?_eq {meeting : Meeting} (h : settings.Meets base t lists meeting)
    (hhalt : meeting.halt? ≠ some .aborted) :
    meeting.report? =
      if t.isStray (lists.map OpenList.family) then some (.unexpectedToken t) else none := by
  cases h with
  | tooDeep => exact absurd rfl hhalt
  | unwritable ht reason => simp [Token.isStray_of_not_closing, ht]
  | opening ht hlimit => simp [Token.isStray_of_not_closing, ht]
  | closing ht stop? => simp [Token.isStray_closing ht]
  | stray ht hfamily stop? =>
      rw [← List.head?_map] at hfamily
      rw [Token.isStray_closing ht, decide_eq_true hfamily]
      rfl
  | leaf ht stop? =>
      rw [Token.isStray_of_not_closing fun _ => ht _]
      rfl

/-- What is recorded behind a token that a call goes on behind is recorded with that token in front.
-/
theorem records_cons {course : Course} {met : List Token} {meeting : Meeting}
    {events : List FormatEvent} (hmeets : settings.Meets base t lists meeting)
    (hgoes : meeting.halt? = none)
    (hevents : events.filterMap FormatEvent.diagnostic? = meeting.report?.toList)
    (h : course.Records settings base (meeting.lists.map OpenList.family) met) :
    (course.precededBy events).Records settings base (lists.map OpenList.family) (t :: met) := by
  have hfamilies := hmeets.families hgoes
  have hreport := hmeets.report?_eq (by simp [hgoes])
  have hstrays : (strays (lists.map OpenList.family) (t :: met)).map Diagnostic.unexpectedToken =
      meeting.report?.toList ++
        (strays (meeting.lists.map OpenList.family) met).map .unexpectedToken := by
    rw [strays, hfamilies, hreport]
    split <;> rfl
  refine ⟨fun hhalt => ?_, fun hhalt => ?_⟩
  · rw [Course.diagnostics_precededBy, hevents, h.goesOn hhalt, hstrays]
  · obtain ⟨d, hd, hdiagnostics⟩ := h.aborts hhalt
    rw [hfamilies] at hd
    refine ⟨d, hd.cons events, ?_⟩
    rw [Course.diagnostics_precededBy, hevents, hdiagnostics, hstrays, List.append_assoc]

theorem records_halts {meeting : Meeting} {reason : Halt} {events : List FormatEvent}
    {rest : List Token} (hmeets : settings.Meets base t lists meeting)
    (hhalts : meeting.halt? = some reason)
    (hevents : events.filterMap FormatEvent.diagnostic? = meeting.report?.toList) :
    Course.Records settings base (lists.map OpenList.family) [t]
      ⟨meeting.lists, events, rest, some reason⟩ := by
  by_cases haborted : reason = .aborted
  · subst haborted
    refine ⟨fun hhalt => absurd rfl hhalt, fun _ => ?_⟩
    cases hmeets with
    | tooDeep ht hlimit =>
        have hstrays : strays (lists.map OpenList.family) [t] = [] := by
          simp [strays, Token.isStray_of_not_closing, ht]
        refine ⟨_, .tooDeep (show [t] = [] ++ [t] from rfl) ht rfl hlimit, ?_⟩
        rw [hstrays]
        exact hevents
    | unwritable => cases hhalts
    | opening => cases hhalts
    | closing ht stop? => cases stop? <;> cases hhalts
    | stray ht hfamily stop? => cases stop? <;> cases hhalts
    | leaf ht stop? => cases stop? <;> cases hhalts
  · refine ⟨fun _ => ?_, fun hhalt => absurd (Option.some.inj hhalt) haborted⟩
    have hreport := hmeets.report?_eq (by simpa [hhalts] using haborted)
    refine hevents.trans ?_
    rw [hreport, strays]
    split <;> rfl

theorem records_stoppedBy {course : Course} {met : List Token} {brackets : List Bracket}
    (h : course.Records settings base brackets met) (stop? : Option Unprintable) :
    (course.stoppedBy stop?).Records settings base brackets met := by
  have haborted :
      (course.stoppedBy stop?).halt? = some .aborted ↔ course.halt? = some .aborted := by
    cases hhalt : course.halt? <;> cases stop? <;> simp [Course.stoppedBy, hhalt]
  refine ⟨fun hhalt => h.goesOn (mt haborted.mpr hhalt), fun hhalt => ?_⟩
  obtain ⟨d, hd, hdiagnostics⟩ := h.aborts (haborted.mp hhalt)
  refine ⟨d, ?_, hdiagnostics⟩
  cases hd with
  | exhausted hrest hlists hopen => exact .exhausted hrest hlists hopen
  | tooDeep hmet ht hopen hlimit => exact .tooDeep hmet ht hopen hlimit

theorem consumed_stoppedBy (course : Course) (stop? : Option Unprintable) :
    (course.stoppedBy stop?).consumed = course.consumed :=
  rfl

theorem reads_precededBy {course : Course} {ts : List Token} (h : course.Reads ts)
    (events : List FormatEvent) :
    (course.precededBy events).Reads (events.filterMap FormatEvent.consumed? ++ ts) := by
  obtain ⟨lost, hsplit, hlost⟩ := h
  refine ⟨lost, ?_, hlost⟩
  rw [Course.consumed_precededBy, List.append_assoc]
  exact congrArg _ hsplit

theorem reads_stoppedBy {course : Course} {ts : List Token} (h : course.Reads ts)
    (stop? : Option Unprintable) : (course.stoppedBy stop?).Reads ts := by
  obtain ⟨lost, hsplit, hlost⟩ := h
  refine ⟨lost, hsplit, fun t ht => ?_⟩
  obtain ⟨hvalue, hhalt⟩ := hlost t ht
  exact ⟨hvalue, by rw [Course.stoppedBy_of_some hhalt, hhalt]⟩

theorem reads_of_consumed {course : Course} {ts : List Token}
    (h : course.consumed ++ course.rest = ts) : course.Reads ts :=
  ⟨none, h, nofun⟩

theorem reads_of_lost {ts : List Token} (ht : ¬t.value.IsWritable) :
    Course.Reads ⟨lists, [], ts, some (.unprintable .tooManyDigits)⟩ (t :: ts) := by
  refine ⟨some t, rfl, fun u hu => ?_⟩
  obtain rfl := Option.some.inj hu
  exact ⟨ht, rfl⟩

/-- A course reads its tokens in order and leaves the others. -/
theorem courseFrom_reads (single : Bool) (lists : List OpenList) (ts : List Token) :
    (settings.courseFrom base single lists ts).Reads ts := by
  refine courseFrom_induction (motive := fun _ ts course => course.Reads ts)
    ?nil ?exhausted ?ended ?unwritable ?halts ?goesOn lists ts
  case nil => exact reads_of_consumed rfl
  case exhausted => exact fun _ _ => reads_of_consumed rfl
  case ended => exact fun _ _ _ => reads_of_consumed rfl
  case unwritable => exact fun _ _ _ ht => reads_of_lost ht
  case halts =>
    intro lists t ts meeting reason _ _ _
    exact reads_of_consumed (congrArg (· ++ ts) (filterMap_consumed_cons t meeting.report?))
  case goesOn =>
    intro lists t ts meeting course _ _ _ ih
    have h := reads_precededBy ih (.consumed t :: reportEvents meeting.report?)
    rwa [filterMap_consumed_cons] at h

theorem courseFrom_records (single : Bool) (lists : List OpenList) (ts : List Token) :
    (settings.courseFrom base single lists ts).Records settings base (lists.map OpenList.family)
      (settings.courseFrom base single lists ts).consumed := by
  refine courseFrom_induction (motive := fun lists _ course =>
    course.Records settings base (lists.map OpenList.family) course.consumed)
    ?nil ?exhausted ?ended ?unwritable ?halts ?goesOn lists ts
  case nil => exact ⟨fun _ => rfl, by simp⟩
  case exhausted =>
    exact fun top below =>
      ⟨fun hhalt => absurd rfl hhalt, fun _ => ⟨_, .exhausted rfl rfl rfl, rfl⟩⟩
  case ended => exact fun _ _ _ => ⟨fun _ => rfl, by simp⟩
  case unwritable => exact fun _ _ _ _ => ⟨fun _ => rfl, by simp⟩
  case halts =>
    intro lists t ts meeting reason _ hmeets hhalts
    have hconsumed : Course.consumed
        ⟨meeting.lists, .consumed t :: reportEvents meeting.report?, ts, some reason⟩ = [t] :=
      filterMap_consumed_cons t meeting.report?
    rw [hconsumed]
    exact records_halts hmeets hhalts (filterMap_reportEvents meeting.report?)
  case goesOn =>
    intro lists t ts meeting course _ hmeets hgoes ih
    rw [Course.consumed_precededBy, filterMap_consumed_cons]
    exact records_cons hmeets hgoes (filterMap_reportEvents meeting.report?) ih

theorem exprCourse_records (t : Token) (ts : List Token) :
    (settings.exprCourse base t ts).Records settings base []
      (t :: (settings.exprCourse base t ts).consumed) := by
  obtain ⟨stop?, hcourse⟩ : ∃ stop?, settings.exprCourse base t ts = _ :=
    exists_exprCourse_eq t ts
  have hmeets : settings.Meets base t [] (settings.meet base true [] t) := meets true [] t
  rw [hcourse, consumed_stoppedBy]
  refine records_stoppedBy ?_ stop?
  cases hhalt : (settings.meet base true [] t).halt? with
  | some reason =>
      rw [andThen_of_halts hhalt, consumed_reportEvents]
      exact records_halts hmeets hhalt (filterMap_reportEvents _)
  | none =>
      rw [andThen_of_goesOn hhalt, Course.consumed_precededBy, filterMap_consumed_reportEvents]
      exact records_cons hmeets hhalt (filterMap_reportEvents _) (courseFrom_records true _ ts)

theorem exprCourse_reads (t : Token) (ts : List Token) :
    (settings.exprCourse base t ts).Reads ts := by
  obtain ⟨stop?, hcourse⟩ : ∃ stop?, settings.exprCourse base t ts = _ :=
    exists_exprCourse_eq t ts
  rw [hcourse]
  refine reads_stoppedBy ?_ stop?
  cases hhalt : (settings.meet base true [] t).halt? with
  | some reason =>
      rw [andThen_of_halts hhalt]
      exact reads_of_consumed (congrArg (· ++ ts) (consumed_reportEvents ..))
  | none =>
      have hrest :
          (settings.courseFrom base true (settings.meet base true [] t).lists ts).Reads ts :=
        courseFrom_reads true _ ts
      have h := reads_precededBy hrest (reportEvents (settings.meet base true [] t).report?)
      rw [andThen_of_goesOn hhalt]
      rwa [filterMap_consumed_reportEvents] at h

theorem bodyCourse_reads (family : Bracket) (opener? : Option Token) (ts : List Token) :
    (settings.bodyCourse base family opener? ts).Reads ts :=
  bodyCourse_cases (motive := fun course => course.Reads ts) (fun _ _ => reads_of_consumed rfl)
    (reads_of_consumed rfl) (fun _ => courseFrom_reads true _ ts)

end FormatSettings

/-! ## Sequences of calls -/

namespace Formatter

/-- The diagnostics that leave a formatter over a sequence of calls. -/
def handedOut (f : Formatter) : List Call → List Diagnostic
  | [] => []
  | call :: calls => (f.answer call).1.handedOut ++ (f.afterCall call).handedOut calls

/-- The diagnostics of the courses of a sequence of calls. -/
def recordedBy (f : Formatter) : List Call → List Diagnostic
  | [] => []
  | call :: calls => (f.course call).diagnostics ++ (f.afterCall call).recordedBy calls

/-- The tokens a call formats: those it reads, and the one it is given. -/
def met (f : Formatter) (call : Call) : List Token :=
  match call with
  | .format => (f.course call).consumed
  | .formatExpr t => t :: (f.course call).consumed
  | .formatList _ _ => (f.course call).consumed
  | _ => []

def Call.brackets : Call → List Bracket
  | formatList (.closing family) _ => [family]
  | _ => []

/-- Why a call was aborted: it was to fill a list at the limit, or its course was aborted. -/
inductive AbortedBy (f : Formatter) (call : Call) : Diagnostic → Prop
  | refused {family : Bracket} {opener? : Option Token} {limit : Int}
      (hcall : call = .formatList (.closing family) opener?)
      (hlimit : f.settings.limitAt? f.pass.nesting = some limit) :
      AbortedBy f call (.nestingTooDeep limit opener?)
  | stopped {d : Diagnostic}
      (hadmitted : ∀ family opener?, call = .formatList (.closing family) opener? →
        f.settings.limitAt? f.pass.nesting = none)
      (h : (f.course call).AbortedBy f.settings f.pass.nesting call.brackets (f.met call) d) :
      AbortedBy f call d

/-- What a call records: one diagnostic for each stray among the tokens it formats and, behind them,
one for the reason of an abort. -/
structure Records (f : Formatter) (call : Call) : Prop where
  reads : (f.course call).Reads f.rest
  goesOn : (f.course call).halt? ≠ some .aborted →
    (f.course call).diagnostics = (strays call.brackets (f.met call)).map .unexpectedToken
  aborts : (f.course call).halt? = some .aborted →
    ∃ d, f.AbortedBy call d ∧
      (f.course call).diagnostics = (strays call.brackets (f.met call)).map .unexpectedToken ++ [d]

variable {f : Formatter} {call : Call}

theorem records_of_course
    (hadmitted : ∀ family opener?, call = .formatList (.closing family) opener? →
      f.settings.limitAt? f.pass.nesting = none)
    (hreads : (f.course call).Reads f.rest)
    (h : (f.course call).Records f.settings f.pass.nesting call.brackets (f.met call)) :
    f.Records call := by
  refine ⟨hreads, h.goesOn, fun hhalt => ?_⟩
  obtain ⟨d, hd, hdiagnostics⟩ := h.aborts hhalt
  exact ⟨d, .stopped hadmitted hd, hdiagnostics⟩

theorem records_of_quiet (hreads : (f.course call).Reads f.rest)
    (hhalt : (f.course call).halt? ≠ some .aborted) (hmet : f.met call = [])
    (hquiet : (f.course call).diagnostics = []) : f.Records call := by
  refine ⟨hreads, fun _ => ?_, fun h => absurd h hhalt⟩
  rw [hquiet, hmet]
  rfl

theorem formatList_records (f : Formatter) (family : Bracket) (opener? : Option Token) :
    f.Records (.formatList (.closing family) opener?) := by
  have hreads : (f.course (.formatList (.closing family) opener?)).Reads f.rest :=
    FormatSettings.bodyCourse_reads family opener? f.rest
  have hcourse : f.course (.formatList (.closing family) opener?) =
      f.settings.bodyCourse f.pass.nesting family opener? f.rest := rfl
  cases hlimit : f.settings.limitAt? f.pass.nesting with
  | some limit =>
      by_cases hdigits : FewDigits limit
      · rw [FormatSettings.bodyCourse_of_some hlimit hdigits] at hcourse
        have hmet : f.met (.formatList (.closing family) opener?) = [] := by
          rw [met, hcourse]
          rfl
        refine ⟨hreads, fun hhalt => ?_, fun _ => ⟨_, .refused rfl hlimit, ?_⟩⟩
        · rw [hcourse] at hhalt
          exact absurd rfl hhalt
        · rw [hcourse, hmet]
          rfl
      · rw [FormatSettings.bodyCourse_of_unwritable hlimit hdigits] at hcourse
        refine records_of_quiet hreads (by simp [hcourse]) ?_ ?_
        · rw [met, hcourse]
          rfl
        · rw [hcourse]
          rfl
  | none =>
      rw [FormatSettings.bodyCourse_of_none hlimit] at hcourse
      refine records_of_course (fun _ _ _ => hlimit) hreads ?_
      rw [met, hcourse]
      exact FormatSettings.courseFrom_records true [⟨family, opener?⟩] f.rest

theorem next_records (f : Formatter) : f.Records .next := by
  have hcourse : f.course .next = nextCourse f.rest := rfl
  cases hrest : f.rest with
  | nil =>
      rw [hrest] at hcourse
      refine records_of_quiet ?_ (by simp [hcourse, nextCourse]) rfl ?_
      · rw [hcourse, hrest]
        exact FormatSettings.reads_of_consumed rfl
      · rw [hcourse]
        rfl
  | cons t ts =>
      rw [hrest, nextCourse] at hcourse
      by_cases ht : t.value.IsWritable
      · rw [if_pos ht] at hcourse
        refine records_of_quiet ?_ (by simp [hcourse]) rfl ?_
        · rw [hcourse, hrest]
          exact FormatSettings.reads_of_consumed rfl
        · rw [hcourse]
          rfl
      · rw [if_neg ht] at hcourse
        refine records_of_quiet ?_ (by simp [hcourse]) rfl ?_
        · rw [hcourse, hrest]
          exact FormatSettings.reads_of_lost ht
        · rw [hcourse]
          rfl

theorem course_records (f : Formatter) (call : Call) : f.Records call := by
  cases call with
  | format =>
      exact records_of_course (by simp) (FormatSettings.courseFrom_reads false [] f.rest)
        (FormatSettings.courseFrom_records false [] f.rest)
  | formatExpr t =>
      exact records_of_course (by simp) (FormatSettings.exprCourse_reads t f.rest)
        (FormatSettings.exprCourse_records t f.rest)
  | formatList delimiter opener? =>
      by_cases hclosing : ∃ family, delimiter = .closing family
      · obtain ⟨family, rfl⟩ := hclosing
        exact f.formatList_records family opener?
      · have hcourse := course_of_not_closing (not_exists.mp hclosing) f opener?
        refine records_of_quiet ?_ ?_ ?_ ?_
        · rw [hcourse]
          exact FormatSettings.reads_of_consumed rfl
        · simp [hcourse]
        · rw [met, hcourse]
          rfl
        · rw [hcourse]
          rfl
  | next => exact f.next_records
  | takeErrors =>
      exact records_of_quiet (FormatSettings.reads_of_consumed rfl) (by simp [course]) rfl rfl
  | diagnostics =>
      exact records_of_quiet (FormatSettings.reads_of_consumed rfl) (by simp [course]) rfl rfl

/-- What left the formatter and what is pending is what was pending before and what was recorded. -/
theorem handedOut_append (f : Formatter) (calls : List Call) :
    f.handedOut calls ++ (f.afterCalls calls).pass.pending =
      f.pass.pending ++ f.recordedBy calls := by
  induction calls generalizing f with
  | nil => exact (List.append_nil _).symm
  | cons call calls ih =>
      have hledger := (f.answer_follows call).ledger
      calc
        f.handedOut (call :: calls) ++ (f.afterCalls (call :: calls)).pass.pending =
            (f.answer call).1.handedOut ++ ((f.afterCall call).handedOut calls ++
              ((f.afterCall call).afterCalls calls).pass.pending) := List.append_assoc ..
        _ = ((f.answer call).1.handedOut ++ (f.afterCall call).pass.pending) ++
              (f.afterCall call).recordedBy calls := by rw [ih, List.append_assoc]
        _ = f.pass.pending ++ f.recordedBy (call :: calls) := by
              rw [afterCall, hledger, List.append_assoc]
              rfl

theorem recorded_afterCalls (f : Formatter) (calls : List Call) :
    (f.afterCalls calls).pass.recorded = f.pass.recorded ++ f.recordedBy calls := by
  induction calls generalizing f with
  | nil => exact (List.append_nil _).symm
  | cons call calls ih =>
      have hrecorded := (f.answer_follows call).recorded
      calc
        (f.afterCalls (call :: calls)).pass.recorded =
            (f.afterCall call).pass.recorded ++ (f.afterCall call).recordedBy calls := ih _
        _ = f.pass.recorded ++ f.recordedBy (call :: calls) := by
              rw [afterCall, hrecorded, List.append_assoc]
              rfl

theorem Reply.handedOut_of_failed {reply : Reply} (hfailed : reply.returns = false)
    (hdiagnosed : ∀ diagnostics, reply ≠ .whole (.error (.diagnosed diagnostics))) :
    reply.handedOut = [] := by
  cases reply with
  | whole result =>
      cases result with
      | ok text => rfl
      | error failure =>
          cases failure with
          | diagnosed diagnostics => exact absurd rfl (hdiagnosed diagnostics)
          | unprintable reason => rfl
  | part result => rfl
  | token result => rfl
  | taken diagnostics => cases hfailed
  | seen diagnostics => rfl

/-- Whatever was asked, the diagnostics that left the formatter and those pending behind them are
the ones recorded, in order, and these are what the calls recorded one by one. A call records its
strays and the one reason of an abort. Looking at the diagnostics changes nothing, and a call that
fails but for an aborted pass only adds to those pending. -/
theorem handedOut_append_pending (settings : FormatSettings) (tokens : List Token)
    (calls : List Call) :
    let start := ofTokens settings tokens
    let f := start.afterCalls calls
    start.handedOut calls ++ f.pass.pending = f.pass.recorded ∧
    f.pass.recorded = start.recordedBy calls ∧
    (∀ call, f.Records call) ∧
    f.answer .diagnostics = (.seen f.pass.pending, f) ∧
    ∀ call, (f.answer call).1.returns = false →
      (∀ diagnostics, (f.answer call).1 ≠ .whole (.error (.diagnosed diagnostics))) →
      (f.afterCall call).pass.pending = f.pass.pending ++ (f.course call).diagnostics := by
  intro start f
  have hrecorded : f.pass.recorded = start.recordedBy calls := start.recorded_afterCalls calls
  refine ⟨?_, hrecorded, f.course_records, rfl, ?_⟩
  · rw [hrecorded]
    exact start.handedOut_append calls
  · intro call hfailed hdiagnosed
    have hledger := (f.answer_follows call).ledger
    rw [Reply.handedOut_of_failed hfailed hdiagnosed, List.nil_append] at hledger
    exact hledger

end Formatter

end TanSource
