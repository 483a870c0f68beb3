import TanSource.Proofs.Formatter.Turn

/-!
# The course of a call

What a row of tokens makes of a call to a formatter, texts and layouts apart: which lists are open
where the call stops, what it reports to the log, which tokens it leaves, and whether it halts. The
lists that are open are a stack of families and opening tokens; one token is met by `meet`, a row of
them by `courseFrom`. All that a token can come to is listed once (`Meets`), and facts about courses
are proved from that list (`courseFrom_induction`).
-/

namespace TanSource

structure OpenList where
  family : Bracket
  opener? : Option Token

def Scope.openList (scope : Scope) : OpenList :=
  ⟨scope.family, scope.opener?⟩

def FormatEvent.diagnostic? : FormatEvent → Option Diagnostic
  | diagnosed d => some d
  | _ => none

/-- The diagnostics that a pass recorded, the earliest first. -/
def Pass.recorded (pass : Pass) : List Diagnostic :=
  pass.events.filterMap FormatEvent.diagnostic?

/-- What meeting a token comes to: the lists that are open then, the diagnostic that is reported,
and the halt if the call cannot go on. -/
structure Meeting where
  lists : List OpenList
  report? : Option Diagnostic := none
  halt? : Option Halt := none

/-- The lists that are open where a call stops, what it reports, the tokens it leaves, and the halt
if it does not return. -/
structure Course where
  lists : List OpenList
  events : List FormatEvent
  rest : List Token
  halt? : Option Halt

namespace Course

def diagnostics (course : Course) : List Diagnostic :=
  course.events.filterMap FormatEvent.diagnostic?

def precededBy (events : List FormatEvent) (course : Course) : Course :=
  { course with events := events ++ course.events }

def andThen (course : Course) (next : List Token → Course) : Course :=
  match course.halt? with
  | some _ => course
  | none => (next course.rest).precededBy course.events

/-- Halts at the end of a course that came there, if there is a reason to. -/
def stoppedBy (stop? : Option Unprintable) (course : Course) : Course :=
  { course with halt? := course.halt?.or (stop?.map .unprintable) }

end Course

def reportEvents (report? : Option Diagnostic) : List FormatEvent :=
  report?.toList.map .diagnosed

/-- Goes on with the lists that are open behind the meeting, unless it halts in front of `rest`. -/
def Meeting.andThen (meeting : Meeting) (next : List OpenList → Course) (rest : List Token) :
    Course :=
  Course.precededBy (reportEvents meeting.report?) <|
    match meeting.halt? with
    | none => next meeting.lists
    | some reason => ⟨meeting.lists, [], rest, some reason⟩

namespace FormatSettings

variable (settings : FormatSettings) (base : Int)

/-- Why a list that stands outside all others in a call cannot be put between its delimiters. -/
def wrapStop? : Option Unprintable :=
  if settings.WrapFits base then none else some .tooWide

/-- Why no line can be written inside these lists. Outside all lists there are no lines. -/
def lineStop? (lists : List OpenList) : Option Unprintable :=
  if lists.isEmpty || settings.IndentFits (base + lists.length) then none else some .tooWide

/-- Why a list cannot be closed, with the lists `below` around it. The outermost list of a call that
is to give the body of a list is not put between delimiters. -/
def closeStop? (single : Bool) (below : List OpenList) : Option Unprintable :=
  if below.isEmpty && !single then settings.wrapStop? base else settings.lineStop? base below

def meetOpening (lists : List OpenList) (family : Bracket) (opener? : Option Token) : Meeting :=
  match settings.limitAt? (base + lists.length) with
  | none => { lists := ⟨family, opener?⟩ :: lists }
  | some limit =>
      if FewDigits limit then ⟨lists, some (.nestingTooDeep limit opener?), some .aborted⟩
      else { lists, halt? := some (.unprintable .tooManyDigits) }

/-- One token, with these lists open in a call that was made at the depth `base`. An opening
delimiter opens a list if the depth allows it, a closing one closes the innermost list if it is of
its family and is reported otherwise, and any other token needs a text. -/
def meet (single : Bool) (lists : List OpenList) (t : Token) : Meeting :=
  match t.kind with
  | .opening family => settings.meetOpening base lists family (some t)
  | .closing family =>
      if lists.head?.map OpenList.family = some family then
        { lists := lists.tail
          halt? := (settings.closeStop? base single lists.tail).map .unprintable }
      else
        ⟨lists, some (.unexpectedToken t), (settings.lineStop? base lists).map .unprintable⟩
  | _ =>
      match t.text with
      | .ok _ => { lists, halt? := (settings.lineStop? base lists).map .unprintable }
      | .error reason => { lists, halt? := some (.unprintable reason) }

/-- The course over a row of tokens, with these lists open. One that is `single` ends behind the
last of these lists, any other at the end of the tokens. No list may be open there. -/
def courseFrom (single : Bool) (lists : List OpenList) : List Token → Course
  | [] =>
      match lists with
      | [] => ⟨[], [], [], none⟩
      | top :: _ =>
          ⟨lists, reportEvents (some (.unterminatedList (.closing top.family) top.opener?)), [],
            some .aborted⟩
  | t :: ts =>
      if single && lists.isEmpty then ⟨[], [], t :: ts, none⟩
      else if t.value.IsWritable then
        ((settings.meet base single lists t).andThen
          (fun inner => courseFrom single inner ts) ts).precededBy [.consumed t]
      else ⟨lists, [], ts, some (.unprintable .tooManyDigits)⟩

def bodyCourse (family : Bracket) (opener? : Option Token) (ts : List Token) : Course :=
  (settings.meetOpening base [] family opener?).andThen
    (fun lists => settings.courseFrom base true lists ts) ts

def exprCourse (t : Token) (ts : List Token) : Course :=
  match t.kind with
  | .opening family =>
      (settings.bodyCourse base family (some t) ts).stoppedBy (settings.wrapStop? base)
  | _ => (settings.meet base true [] t).andThen (⟨·, [], ts, none⟩) ts

variable {settings base} {single : Bool}

/-! ## One token -/

theorem lineStop?_nil : settings.lineStop? base [] = none := by
  simp [lineStop?]

theorem lineStop?_of_fits {lists : List OpenList}
    (h : settings.IndentFits (base + lists.length)) : settings.lineStop? base lists = none := by
  simp [lineStop?, h]

theorem lineStop?_of_not_fits {lists : List OpenList} (hne : lists ≠ [])
    (h : ¬settings.IndentFits (base + lists.length)) :
    settings.lineStop? base lists = some .tooWide := by
  simp [lineStop?, h, hne]

theorem closeStop?_of_single (below : List OpenList) :
    settings.closeStop? base true below = settings.lineStop? base below := by
  simp [closeStop?]

theorem closeStop?_of_last : settings.closeStop? base false [] = settings.wrapStop? base :=
  rfl

section

variable {t : Token} {family : Bracket} {lists : List OpenList}

theorem meetOpening_of_none (h : settings.limitAt? (base + lists.length) = none)
    (family : Bracket) (opener? : Option Token) :
    settings.meetOpening base lists family opener? = { lists := ⟨family, opener?⟩ :: lists } := by
  simp only [meetOpening, h]

theorem meetOpening_of_some {limit : Int}
    (h : settings.limitAt? (base + lists.length) = some limit) (hlimit : FewDigits limit)
    (family : Bracket) (opener? : Option Token) :
    settings.meetOpening base lists family opener? =
      ⟨lists, some (.nestingTooDeep limit opener?), some .aborted⟩ := by
  simp only [meetOpening, h, if_pos hlimit]

theorem meetOpening_of_unwritable {limit : Int}
    (h : settings.limitAt? (base + lists.length) = some limit) (hlimit : ¬FewDigits limit)
    (family : Bracket) (opener? : Option Token) :
    settings.meetOpening base lists family opener? =
      { lists, halt? := some (.unprintable .tooManyDigits) } := by
  simp only [meetOpening, h, if_neg hlimit]

theorem meet_opening (ht : t.kind = .opening family) :
    settings.meet base single lists t = settings.meetOpening base lists family (some t) := by
  simp only [meet, ht]

theorem meet_closing {top : OpenList} (ht : t.kind = .closing top.family) :
    settings.meet base single (top :: lists) t =
      { lists, halt? := (settings.closeStop? base single lists).map .unprintable } := by
  simp only [meet, ht, List.head?_cons, Option.map_some, if_true, List.tail_cons]

theorem meet_stray (ht : t.kind = .closing family)
    (hfamily : lists.head?.map OpenList.family ≠ some family) :
    settings.meet base single lists t =
      ⟨lists, some (.unexpectedToken t), (settings.lineStop? base lists).map .unprintable⟩ := by
  simp only [meet, ht, if_neg hfamily]

theorem meet_leaf (ht : t.IsLeaf) {content : Text} (htext : t.text = .ok content) :
    settings.meet base single lists t =
      { lists, halt? := (settings.lineStop? base lists).map .unprintable } := by
  unfold meet
  split
  · next h => exact absurd h (ht _)
  · next h => exact absurd h (ht _)
  · rw [htext]

theorem meet_unprintable (ht : t.IsLeaf) {reason : Unprintable} (htext : t.text = .error reason) :
    settings.meet base single lists t = { lists, halt? := some (.unprintable reason) } := by
  unfold meet
  split
  · next h => exact absurd h (ht _)
  · next h => exact absurd h (ht _)
  · rw [htext]

end

/-- All that a token can come to. Whatever it writes may turn out not to be writable. -/
inductive Meets (settings : FormatSettings) (base : Int) (t : Token) :
    List OpenList → Meeting → Prop
  | tooDeep {family : Bracket} {lists : List OpenList} {limit : Int} (ht : t.kind = .opening family)
      (hlimit : settings.limitAt? (base + lists.length) = some limit) :
      Meets settings base t lists
        ⟨lists, some (.nestingTooDeep limit (some t)), some .aborted⟩
  | unwritable {family : Bracket} {lists : List OpenList} (ht : t.kind = .opening family)
      (reason : Unprintable) : Meets settings base t lists ⟨lists, none, some (.unprintable reason)⟩
  | opening {family : Bracket} {lists : List OpenList} (ht : t.kind = .opening family)
      (hlimit : settings.limitAt? (base + lists.length) = none) :
      Meets settings base t lists ⟨⟨family, some t⟩ :: lists, none, none⟩
  | closing {top : OpenList} {lists : List OpenList} (ht : t.kind = .closing top.family)
      (stop? : Option Unprintable) :
      Meets settings base t (top :: lists) ⟨lists, none, stop?.map .unprintable⟩
  | stray {family : Bracket} {lists : List OpenList} (ht : t.kind = .closing family)
      (hfamily : lists.head?.map OpenList.family ≠ some family) (stop? : Option Unprintable) :
      Meets settings base t lists ⟨lists, some (.unexpectedToken t), stop?.map .unprintable⟩
  | leaf {lists : List OpenList} (ht : t.IsLeaf) (stop? : Option Unprintable) :
      Meets settings base t lists ⟨lists, none, stop?.map .unprintable⟩

theorem meets (single : Bool) (lists : List OpenList) (t : Token) :
    settings.Meets base t lists (settings.meet base single lists t) := by
  rcases t.kind_cases with ⟨family, ht⟩ | ⟨family, ht⟩ | ht
  · rw [meet_opening ht]
    cases hlimit : settings.limitAt? (base + lists.length) with
    | some limit =>
        by_cases hdigits : FewDigits limit
        · rw [meetOpening_of_some hlimit hdigits]
          exact .tooDeep ht hlimit
        · rw [meetOpening_of_unwritable hlimit hdigits]
          exact .unwritable ht _
    | none =>
        rw [meetOpening_of_none hlimit]
        exact .opening ht hlimit
  · by_cases hfamily : lists.head?.map OpenList.family = some family
    · cases lists with
      | nil => cases hfamily
      | cons top lists =>
          obtain rfl : top.family = family := Option.some.inj hfamily
          rw [meet_closing ht]
          exact .closing ht _
    · rw [meet_stray ht hfamily]
      exact .stray ht hfamily _
  · cases htext : t.text with
    | ok content =>
        rw [meet_leaf ht htext]
        exact .leaf ht _
    | error reason =>
        rw [meet_unprintable ht htext]
        exact .leaf ht (some reason)

/-! ## Rows of tokens -/

theorem andThen_of_halts {meeting : Meeting} {reason : Halt} (h : meeting.halt? = some reason)
    (next : List OpenList → Course) (rest : List Token) :
    meeting.andThen next rest =
      ⟨meeting.lists, reportEvents meeting.report?, rest, some reason⟩ := by
  simp [Meeting.andThen, h, Course.precededBy]

theorem andThen_of_goesOn {meeting : Meeting} (h : meeting.halt? = none)
    (next : List OpenList → Course) (rest : List Token) :
    meeting.andThen next rest =
      (next meeting.lists).precededBy (reportEvents meeting.report?) := by
  simp [Meeting.andThen, h]

theorem precededBy_of_halts {meeting : Meeting} {reason : Halt} (h : meeting.halt? = some reason)
    (next : List OpenList → Course) (rest : List Token) (events : List FormatEvent) :
    (meeting.andThen next rest).precededBy events =
      ⟨meeting.lists, events ++ reportEvents meeting.report?, rest, some reason⟩ := by
  rw [andThen_of_halts h]
  rfl

theorem precededBy_of_goesOn {meeting : Meeting} (h : meeting.halt? = none)
    (next : List OpenList → Course) (rest : List Token) (events : List FormatEvent) :
    (meeting.andThen next rest).precededBy events =
      (next meeting.lists).precededBy (events ++ reportEvents meeting.report?) := by
  rw [andThen_of_goesOn h]
  simp [Course.precededBy]

/-- A course that is to end behind the last list is at its end where no list is open. -/
theorem courseFrom_single (ts : List Token) :
    settings.courseFrom base true [] ts = ⟨[], [], ts, none⟩ := by
  cases ts <;> rfl

theorem courseFrom_meets {lists : List OpenList} {t : Token}
    (hopen : single = false ∨ lists ≠ []) (ht : t.value.IsWritable) (ts : List Token) :
    settings.courseFrom base single lists (t :: ts) =
      ((settings.meet base single lists t).andThen
        (fun inner => settings.courseFrom base single inner ts) ts).precededBy [.consumed t] := by
  have hgoes : (single && lists.isEmpty) = false := by
    rcases hopen with rfl | hne
    · rfl
    · simp [hne]
  rw [courseFrom, hgoes, if_pos ht]
  rfl

theorem courseFrom_of_not_isWritable {lists : List OpenList} {t : Token}
    (hopen : single = false ∨ lists ≠ []) (ht : ¬t.value.IsWritable) (ts : List Token) :
    settings.courseFrom base single lists (t :: ts) =
      ⟨lists, [], ts, some (.unprintable .tooManyDigits)⟩ := by
  have hgoes : (single && lists.isEmpty) = false := by
    rcases hopen with rfl | hne
    · rfl
    · simp [hne]
  rw [courseFrom, hgoes, if_neg ht]
  rfl

/-- What holds at the ends of a course, and in front of each token it goes on behind, holds of the
whole course. -/
theorem courseFrom_induction {motive : List OpenList → List Token → Course → Prop}
    (nil : motive [] [] ⟨[], [], [], none⟩)
    (exhausted : ∀ top below, motive (top :: below) []
      ⟨top :: below, reportEvents (some (.unterminatedList (.closing top.family) top.opener?)), [],
        some .aborted⟩)
    (ended : ∀ t ts, single = true → motive [] (t :: ts) ⟨[], [], t :: ts, none⟩)
    (unwritable : ∀ lists t ts, ¬t.value.IsWritable →
      motive lists (t :: ts) ⟨lists, [], ts, some (.unprintable .tooManyDigits)⟩)
    (halts : ∀ lists t ts meeting reason, t.value.IsWritable →
      settings.Meets base t lists meeting → meeting.halt? = some reason →
      motive lists (t :: ts)
        ⟨meeting.lists, .consumed t :: reportEvents meeting.report?, ts, some reason⟩)
    (goesOn : ∀ lists t ts meeting course, t.value.IsWritable →
      settings.Meets base t lists meeting → meeting.halt? = none →
      motive meeting.lists ts course →
      motive lists (t :: ts) (course.precededBy (.consumed t :: reportEvents meeting.report?)))
    (lists : List OpenList) (ts : List Token) :
    motive lists ts (settings.courseFrom base single lists ts) := by
  induction ts generalizing lists with
  | nil =>
      cases lists with
      | nil => exact nil
      | cons top below => exact exhausted top below
  | cons t ts ih =>
      by_cases hopen : single = false ∨ lists ≠ []
      · by_cases ht : t.value.IsWritable
        · have hmeets : settings.Meets base t lists (settings.meet base single lists t) :=
            meets single lists t
          rw [courseFrom_meets hopen ht]
          cases hhalt : (settings.meet base single lists t).halt? with
          | some reason =>
              rw [precededBy_of_halts hhalt]
              exact halts lists t ts _ reason ht hmeets hhalt
          | none =>
              rw [precededBy_of_goesOn hhalt]
              exact goesOn lists t ts _ _ ht hmeets hhalt (ih _)
        · rw [courseFrom_of_not_isWritable hopen ht]
          exact unwritable lists t ts ht
      · rw [not_or, Bool.not_eq_false, Classical.not_not] at hopen
        obtain ⟨rfl, rfl⟩ := hopen
        exact ended t ts rfl

theorem exprCourse_opening {t : Token} {family : Bracket} (ht : t.kind = .opening family)
    (ts : List Token) :
    settings.exprCourse base t ts =
      (settings.bodyCourse base family (some t) ts).stoppedBy (settings.wrapStop? base) := by
  simp only [exprCourse, ht]

theorem exprCourse_of_not_opening {t : Token} (ht : ∀ family, t.kind ≠ .opening family)
    (ts : List Token) :
    settings.exprCourse base t ts =
      (settings.meet base true [] t).andThen (⟨·, [], ts, none⟩) ts := by
  unfold exprCourse
  split
  · next h => exact absurd h (ht _)
  · rfl

theorem exprCourse_stray {t : Token} {family : Bracket} (ht : t.kind = .closing family)
    (ts : List Token) :
    settings.exprCourse base t ts =
      ⟨[], reportEvents (some (.unexpectedToken t)), ts, none⟩ := by
  rw [exprCourse_of_not_opening (by simp [ht]), meet_stray ht (by simp), lineStop?_nil]
  simp [Meeting.andThen, Course.precededBy]

theorem exprCourse_leaf {t : Token} (ht : t.IsLeaf) {content : Text} (htext : t.text = .ok content)
    (ts : List Token) : settings.exprCourse base t ts = ⟨[], [], ts, none⟩ := by
  rw [exprCourse_of_not_opening (fun _ => ht _), meet_leaf ht htext, lineStop?_nil]
  rfl

theorem exprCourse_unprintable {t : Token} (ht : t.IsLeaf) {reason : Unprintable}
    (htext : t.text = .error reason) (ts : List Token) :
    settings.exprCourse base t ts = ⟨[], [], ts, some (.unprintable reason)⟩ := by
  rw [exprCourse_of_not_opening (fun _ => ht _), meet_unprintable ht htext]
  rfl

theorem bodyCourse_of_none (h : settings.limitAt? base = none) (family : Bracket)
    (opener? : Option Token) (ts : List Token) :
    settings.bodyCourse base family opener? ts =
      settings.courseFrom base true [⟨family, opener?⟩] ts := by
  rw [bodyCourse, meetOpening_of_none (by simpa using h)]
  rfl

theorem bodyCourse_of_some {limit : Int} (h : settings.limitAt? base = some limit)
    (hlimit : FewDigits limit) (family : Bracket) (opener? : Option Token) (ts : List Token) :
    settings.bodyCourse base family opener? ts =
      ⟨[], reportEvents (some (.nestingTooDeep limit opener?)), ts, some .aborted⟩ := by
  rw [bodyCourse, meetOpening_of_some (by simpa using h) hlimit]
  simp [Meeting.andThen, Course.precededBy]

theorem bodyCourse_of_unwritable {limit : Int} (h : settings.limitAt? base = some limit)
    (hlimit : ¬FewDigits limit) (family : Bracket) (opener? : Option Token) (ts : List Token) :
    settings.bodyCourse base family opener? ts =
      ⟨[], [], ts, some (.unprintable .tooManyDigits)⟩ := by
  rw [bodyCourse, meetOpening_of_unwritable (by simpa using h) hlimit]
  rfl

/-- What holds of a list that is refused and of one that is filled holds of the body of a list. -/
theorem bodyCourse_cases {motive : Course → Prop} {family : Bracket} {opener? : Option Token}
    {ts : List Token}
    (tooDeep : ∀ limit, settings.limitAt? base = some limit →
      motive ⟨[], reportEvents (some (.nestingTooDeep limit opener?)), ts, some .aborted⟩)
    (unwritable : motive ⟨[], [], ts, some (.unprintable .tooManyDigits)⟩)
    (opened : settings.limitAt? base = none →
      motive (settings.courseFrom base true [⟨family, opener?⟩] ts)) :
    motive (settings.bodyCourse base family opener? ts) := by
  cases hlimit : settings.limitAt? base with
  | none =>
      rw [bodyCourse_of_none hlimit]
      exact opened hlimit
  | some limit =>
      by_cases hdigits : FewDigits limit
      · rw [bodyCourse_of_some hlimit hdigits]
        exact tooDeep limit hlimit
      · rw [bodyCourse_of_unwritable hlimit hdigits]
        exact unwritable

/-- An expression is its first token and the lists that it opens. Only a list is put between
delimiters behind that. -/
theorem exists_exprCourse_eq (t : Token) (ts : List Token) :
    ∃ stop?, settings.exprCourse base t ts =
      ((settings.meet base true [] t).andThen
        (fun lists => settings.courseFrom base true lists ts) ts).stoppedBy stop? := by
  rcases t.kind_cases with ⟨family, ht⟩ | ⟨family, ht⟩ | ht
  · exact ⟨settings.wrapStop? base, by rw [exprCourse_opening ht, bodyCourse, meet_opening ht]⟩
  · refine ⟨none, ?_⟩
    rw [exprCourse_stray ht, meet_stray ht (by simp), lineStop?_nil]
    simp [Meeting.andThen, courseFrom_single, Course.precededBy, Course.stoppedBy]
  · refine ⟨none, ?_⟩
    cases htext : t.text with
    | ok content =>
        rw [exprCourse_leaf ht htext, meet_leaf ht htext, lineStop?_nil]
        simp [Meeting.andThen, courseFrom_single, Course.precededBy, Course.stoppedBy,
          reportEvents]
    | error reason =>
        rw [exprCourse_unprintable ht htext, meet_unprintable ht htext]
        rfl

/-- What holds of lists, strays and leaves holds of an expression. -/
theorem exprCourse_cases {motive : Course → Prop} {t : Token} {ts : List Token}
    (opening : ∀ family, t.kind = .opening family →
      motive ((settings.bodyCourse base family (some t) ts).stoppedBy (settings.wrapStop? base)))
    (stray : ∀ family, t.kind = .closing family →
      motive ⟨[], reportEvents (some (.unexpectedToken t)), ts, none⟩)
    (leaf : t.IsLeaf → ∀ stop? : Option Unprintable, motive ⟨[], [], ts, stop?.map .unprintable⟩) :
    motive (settings.exprCourse base t ts) := by
  rcases t.kind_cases with ⟨family, ht⟩ | ⟨family, ht⟩ | ht
  · rw [exprCourse_opening ht]
    exact opening family ht
  · rw [exprCourse_stray ht]
    exact stray family ht
  · cases htext : t.text with
    | ok content =>
        rw [exprCourse_leaf ht htext]
        exact leaf ht none
    | error reason =>
        rw [exprCourse_unprintable ht htext]
        exact leaf ht (some reason)

end FormatSettings

/-! ## What a course leaves -/

theorem Course.halt?_of_stoppedBy {course : Course} {stop? : Option Unprintable}
    (h : (course.stoppedBy stop?).halt? = none) : course.halt? = none :=
  (Option.or_eq_none_iff.mp h).1

namespace FormatSettings

variable {settings : FormatSettings} {base : Int} {single : Bool}

/-- No list is open where a course ends that does not halt. -/
theorem courseFrom_lists {lists : List OpenList} {ts : List Token} :
    (settings.courseFrom base single lists ts).halt? = none →
      (settings.courseFrom base single lists ts).lists = [] := by
  refine courseFrom_induction (motive := fun _ _ course => course.halt? = none → course.lists = [])
    ?_ ?_ ?_ ?_ ?_ ?_ lists ts
  case refine_6 => exact fun _ _ _ _ _ _ _ _ ih => ih
  all_goals simp

theorem bodyCourse_lists {family : Bracket} {opener? : Option Token} {ts : List Token} :
    (settings.bodyCourse base family opener? ts).halt? = none →
      (settings.bodyCourse base family opener? ts).lists = [] :=
  bodyCourse_cases (motive := fun course => course.halt? = none → course.lists = [])
    (fun _ _ _ => rfl) (fun _ => rfl) (fun _ => courseFrom_lists)

theorem exprCourse_lists {t : Token} {ts : List Token} :
    (settings.exprCourse base t ts).halt? = none →
      (settings.exprCourse base t ts).lists = [] :=
  exprCourse_cases (motive := fun course => course.halt? = none → course.lists = [])
    (fun _ _ h => bodyCourse_lists (Course.halt?_of_stoppedBy h)) (fun _ _ _ => rfl)
    (fun _ _ _ => rfl)

theorem Meets.halt?_ne_notClosing {t : Token} {lists : List OpenList} {meeting : Meeting}
    (h : settings.Meets base t lists meeting) : meeting.halt? ≠ some .notClosing := by
  cases h <;> simp

/-- Tokens end a course at the depth limit, at their end or at what cannot be written. -/
theorem courseFrom_halt {lists : List OpenList} {ts : List Token} :
    (settings.courseFrom base single lists ts).halt? ≠ some .notClosing := by
  refine courseFrom_induction (motive := fun _ _ course => course.halt? ≠ some .notClosing)
    ?_ ?_ ?_ ?_ ?_ ?_ lists ts
  case refine_5 =>
    intro lists t ts meeting reason _ hmeets hhalt
    rw [← hhalt]
    exact hmeets.halt?_ne_notClosing
  case refine_6 => exact fun _ _ _ _ _ _ _ _ ih => ih
  all_goals simp

theorem courseFrom_suffix (single : Bool) (lists : List OpenList) (ts : List Token) :
    (settings.courseFrom base single lists ts).rest <:+ ts := by
  refine courseFrom_induction (motive := fun _ ts course => course.rest <:+ ts)
    ?_ ?_ ?_ ?_ ?_ ?_ lists ts
  case refine_6 => exact fun _ t ts _ _ _ _ _ ih => ih.trans (List.suffix_cons t ts)
  all_goals simp

theorem bodyCourse_suffix (family : Bracket) (opener? : Option Token) (ts : List Token) :
    (settings.bodyCourse base family opener? ts).rest <:+ ts :=
  bodyCourse_cases (motive := fun course => course.rest <:+ ts) (fun _ _ => List.suffix_rfl)
    List.suffix_rfl (fun _ => courseFrom_suffix true _ ts)

theorem exprCourse_suffix (t : Token) (ts : List Token) :
    (settings.exprCourse base t ts).rest <:+ ts :=
  exprCourse_cases (motive := fun course => course.rest <:+ ts)
    (fun family _ => bodyCourse_suffix family _ ts) (fun _ _ => List.suffix_rfl)
    (fun _ _ => List.suffix_rfl)

/-- At a depth that is not above the limit. A limit below zero forbids the same as zero. -/
def WithinLimit (settings : FormatSettings) (depth : Int) : Prop :=
  ∀ limit, settings.maxDepth? = some limit → depth ≤ max 0 limit

theorem withinLimit_succ {depth : Int} (h : settings.limitAt? depth = none) :
    settings.WithinLimit (depth + 1) := by
  intro limit hlimit
  have hlt : depth < limit := by simpa [limitAt?, hlimit] using h
  omega

theorem withinLimit_of_le {depth depth' : Int} (h : settings.WithinLimit depth)
    (hle : depth' ≤ depth) : settings.WithinLimit depth' :=
  fun limit hlimit => Int.le_trans hle (h limit hlimit)

theorem Meets.withinLimit {t : Token} {lists : List OpenList} {meeting : Meeting}
    (hmeets : settings.Meets base t lists meeting)
    (h : settings.WithinLimit (base + lists.length)) :
    settings.WithinLimit (base + meeting.lists.length) := by
  cases hmeets with
  | opening ht hlimit => simpa [Int.add_assoc] using withinLimit_succ hlimit
  | closing ht stop? =>
      refine withinLimit_of_le h ?_
      simp only [List.length_cons]
      omega
  | tooDeep | unwritable | stray | leaf => exact h

theorem courseFrom_withinLimit {lists : List OpenList} {ts : List Token} :
    settings.WithinLimit (base + lists.length) →
      settings.WithinLimit (base + (settings.courseFrom base single lists ts).lists.length) := by
  refine courseFrom_induction (motive := fun lists _ course =>
    settings.WithinLimit (base + lists.length) →
      settings.WithinLimit (base + course.lists.length)) ?_ ?_ ?_ ?_ ?_ ?_ lists ts
  case refine_5 => exact fun _ _ _ _ _ _ hmeets _ h => hmeets.withinLimit h
  case refine_6 => exact fun _ _ _ _ _ _ hmeets _ ih h => ih (hmeets.withinLimit h)
  all_goals simp

theorem bodyCourse_withinLimit {family : Bracket} {opener? : Option Token} {ts : List Token}
    (h : settings.WithinLimit base) :
    settings.WithinLimit (base + (settings.bodyCourse base family opener? ts).lists.length) := by
  have hbase : settings.WithinLimit (base + (([] : List OpenList).length : Int)) := by simpa using h
  exact bodyCourse_cases (motive := fun course =>
    settings.WithinLimit (base + course.lists.length)) (fun _ _ => hbase) hbase
    fun hlimit => courseFrom_withinLimit (by simpa using withinLimit_succ hlimit)

theorem exprCourse_withinLimit {t : Token} {ts : List Token} (h : settings.WithinLimit base) :
    settings.WithinLimit (base + (settings.exprCourse base t ts).lists.length) := by
  have hbase : settings.WithinLimit (base + (([] : List OpenList).length : Int)) := by simpa using h
  exact exprCourse_cases (motive := fun course =>
    settings.WithinLimit (base + course.lists.length)) (fun _ _ => bodyCourse_withinLimit h)
    (fun _ _ => hbase) (fun _ _ => hbase)

end FormatSettings

namespace Course

theorem andThen_of_some {course : Course} {reason : Halt} (h : course.halt? = some reason)
    (next : List Token → Course) : course.andThen next = course := by
  rw [andThen, h]

theorem andThen_of_none {course : Course} (h : course.halt? = none)
    (next : List Token → Course) :
    course.andThen next = (next course.rest).precededBy course.events := by
  rw [andThen, h]

theorem precededBy_precededBy (course : Course) (first second : List FormatEvent) :
    (course.precededBy second).precededBy first = course.precededBy (first ++ second) := by
  simp [precededBy]

theorem precededBy_andThen (course : Course) (events : List FormatEvent)
    (next : List Token → Course) :
    (course.precededBy events).andThen next = (course.andThen next).precededBy events := by
  obtain ⟨lists, later, rest, halt?⟩ := course
  cases halt? with
  | some reason => rfl
  | none => simp [andThen, precededBy]

theorem precededBy_stoppedBy (course : Course) (events : List FormatEvent)
    (stop? : Option Unprintable) :
    (course.precededBy events).stoppedBy stop? = (course.stoppedBy stop?).precededBy events :=
  rfl

theorem stoppedBy_of_some {course : Course} {reason : Halt} (h : course.halt? = some reason)
    (stop? : Option Unprintable) : course.stoppedBy stop? = course := by
  obtain ⟨lists, events, rest, halt?⟩ := course
  obtain rfl : halt? = some reason := h
  rfl

end Course

namespace FormatSettings

variable {settings : FormatSettings} {base : Int}

/-- Whether the outermost list of a call is put between delimiters is of account only where it is
closed. -/
theorem meet_single {t : Token} {top : OpenList} {below : List OpenList}
    (h : below ≠ [] ∨ t.kind ≠ .closing top.family) :
    settings.meet base false (top :: below) t = settings.meet base true (top :: below) t := by
  rcases t.kind_cases with ⟨family, ht⟩ | ⟨family, ht⟩ | ht
  · rw [meet_opening ht, meet_opening ht]
  · by_cases hfamily : family = top.family
    · subst hfamily
      have hbelow : below.isEmpty = false := by
        rcases h with hne | hne
        · simpa using hne
        · exact absurd ht hne
      simp only [meet_closing ht, closeStop?, hbelow, Bool.false_and]
    · have hstray : (top :: below).head?.map OpenList.family ≠ some family := by
        simpa using Ne.symm hfamily
      rw [meet_stray ht hstray, meet_stray ht hstray]
  · cases htext : t.text with
    | ok content => rw [meet_leaf ht htext, meet_leaf ht htext]
    | error reason => rw [meet_unprintable ht htext, meet_unprintable ht htext]

/-- Some list stays open behind a token that does not close the last one. -/
theorem Meets.lists_ne_nil {t : Token} {top : OpenList} {below : List OpenList} {meeting : Meeting}
    (hmeets : settings.Meets base t (top :: below) meeting)
    (h : below ≠ [] ∨ t.kind ≠ .closing top.family) : meeting.lists ≠ [] := by
  cases hmeets with
  | closing ht stop? => exact h.resolve_right (absurd ht)
  | tooDeep | unwritable | opening | stray | leaf => exact List.cons_ne_nil _ _

/-- A course to the end of the tokens comes to the end of the lists that are open first, and puts
the outermost of them between delimiters there. -/
theorem courseFrom_eq_andThen (top : OpenList) (below : List OpenList) (ts : List Token) :
    settings.courseFrom base false (top :: below) ts =
      ((settings.courseFrom base true (top :: below) ts).stoppedBy
        (settings.wrapStop? base)).andThen (settings.courseFrom base false []) := by
  induction ts generalizing top below with
  | nil => rfl
  | cons t ts ih =>
      have hopen : true = false ∨ top :: below ≠ [] := Or.inr (List.cons_ne_nil _ _)
      by_cases ht : t.value.IsWritable
      · rw [courseFrom_meets (Or.inl rfl) ht, courseFrom_meets hopen ht]
        by_cases hlast : below ≠ [] ∨ t.kind ≠ .closing top.family
        · rw [meet_single hlast]
          have hmeets : settings.Meets base t (top :: below) _ := meets true (top :: below) t
          have hne := hmeets.lists_ne_nil hlast
          generalize settings.meet base true (top :: below) t = meeting at hne ⊢
          cases hhalt : meeting.halt? with
          | some reason => simp only [precededBy_of_halts hhalt]; rfl
          | none =>
              obtain ⟨inner, below, hlists⟩ := List.exists_cons_of_ne_nil hne
              rw [precededBy_of_goesOn hhalt, precededBy_of_goesOn hhalt,
                Course.precededBy_stoppedBy, Course.precededBy_andThen, hlists, ih]
        · -- The last list is closed here, so what remains is whether it can be.
          obtain ⟨rfl, hclosing⟩ : below = [] ∧ t.kind = .closing top.family := by
            simpa [not_or] using hlast
          rw [meet_closing hclosing, meet_closing hclosing, closeStop?_of_last,
            closeStop?_of_single, lineStop?_nil]
          cases settings.wrapStop? base with
          | none => simp [Meeting.andThen, courseFrom_single, Course.stoppedBy, Course.andThen,
              Course.precededBy]
          | some reason => simp [Meeting.andThen, courseFrom_single, Course.stoppedBy,
              Course.andThen, Course.precededBy]
      · rw [courseFrom_of_not_isWritable (Or.inl rfl) ht, courseFrom_of_not_isWritable hopen ht]
        rfl

/-- Outside all lists a course is one expression behind the other. -/
theorem courseFrom_cons {t : Token} (ht : t.value.IsWritable) (ts : List Token) :
    settings.courseFrom base false [] (t :: ts) =
      ((settings.exprCourse base t ts).precededBy [.consumed t]).andThen
        (settings.courseFrom base false []) := by
  rw [courseFrom_meets (Or.inl rfl) ht, Course.precededBy_andThen]
  refine congrArg (Course.precededBy [.consumed t]) ?_
  rcases t.kind_cases with ⟨family, hkind⟩ | ⟨family, hkind⟩ | hkind
  · rw [meet_opening hkind, exprCourse_opening hkind, bodyCourse]
    cases hlimit : settings.limitAt? (base + (([] : List OpenList).length : Int)) with
    | none =>
        rw [meetOpening_of_none hlimit]
        exact courseFrom_eq_andThen ⟨family, some t⟩ [] ts
    | some limit =>
        by_cases hdigits : FewDigits limit
        · rw [meetOpening_of_some hlimit hdigits]
          rfl
        · rw [meetOpening_of_unwritable hlimit hdigits]
          rfl
  · rw [exprCourse_stray hkind, meet_stray hkind (by simp), lineStop?_nil]
    rfl
  · cases htext : t.text with
    | ok content =>
        rw [exprCourse_leaf hkind htext, meet_leaf hkind htext, lineStop?_nil]
        rfl
    | error reason =>
        rw [exprCourse_unprintable hkind htext, meet_unprintable hkind htext]
        rfl

end FormatSettings

end TanSource
