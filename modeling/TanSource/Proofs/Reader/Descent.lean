import TanSource.Proofs.Reader.OpenFrames

/-!
# Reading by recursive descent

The reader said by mutual recursion over a row of tokens: an expression that starts with a quote
mark or an opening delimiter asks for the expressions behind it. Whoever reads an expression takes
its first token without looking whether there is one. The reader with its stack of frames does the
same (`readFrom_eq_descendFrom`), and so there always is one.
-/

namespace TanSource

/-- Why a descent ends early: for a reason that readers report, or because a token was taken behind
the last one. -/
inductive DescentFailure
  | read (failure : ReadFailure)
  | pastEnd

/-- How a descent ended, in front of which tokens, and what happened meanwhile. -/
structure DescentOutcome (α : Type) where
  result : Except DescentFailure α
  rest : List Token
  events : List ReadEvent

namespace DescentOutcome

variable {α β γ : Type}

def precededBy (events : List ReadEvent) (outcome : DescentOutcome α) : DescentOutcome α :=
  { outcome with events := events ++ outcome.events }

def andThen (outcome : DescentOutcome α) (goOn : α → List Token → DescentOutcome β) :
    DescentOutcome β :=
  match outcome.result with
  | .error failure => ⟨.error failure, outcome.rest, outcome.events⟩
  | .ok a => (goOn a outcome.rest).precededBy outcome.events

theorem precededBy_precededBy (first second : List ReadEvent) (outcome : DescentOutcome α) :
    (outcome.precededBy second).precededBy first = outcome.precededBy (first ++ second) := by
  simp [precededBy]

theorem andThen_precededBy (events : List ReadEvent) (outcome : DescentOutcome α)
    (goOn : α → List Token → DescentOutcome β) :
    (outcome.precededBy events).andThen goOn = (outcome.andThen goOn).precededBy events := by
  obtain ⟨result, rest, meanwhile⟩ := outcome
  cases result with
  | error failure => rfl
  | ok a => exact (precededBy_precededBy _ _ _).symm

theorem andThen_assoc (outcome : DescentOutcome α) (goOn : α → List Token → DescentOutcome β)
    (goFurther : β → List Token → DescentOutcome γ) :
    (outcome.andThen goOn).andThen goFurther =
      outcome.andThen fun a rest => (goOn a rest).andThen goFurther := by
  obtain ⟨result, rest, meanwhile⟩ := outcome
  cases result with
  | error failure => rfl
  | ok a => exact andThen_precededBy _ _ _

end DescentOutcome

/-- An outcome that leaves no more tokens than the given number. -/
structure DescentWithin (α : Type) (n : Nat) extends DescentOutcome α where
  within : rest.length ≤ n

namespace DescentWithin

variable {α β : Type} {m n : Nat}

def ok (a : α) (ts : List Token) : DescentWithin α ts.length :=
  ⟨⟨.ok a, ts, []⟩, Nat.le_refl _⟩

def fail (failure : DescentFailure) (ts : List Token) : DescentWithin α ts.length :=
  ⟨⟨.error failure, ts, []⟩, Nat.le_refl _⟩

def widen (outcome : DescentWithin α m) (h : m ≤ n) : DescentWithin α n :=
  ⟨outcome.toDescentOutcome, Nat.le_trans outcome.within h⟩

def andThen (outcome : DescentWithin α n)
    (goOn : α → ∀ rest : List Token, rest.length ≤ n → DescentWithin β rest.length) :
    DescentWithin β n :=
  match outcome.result with
  | .error failure => ⟨⟨.error failure, outcome.rest, outcome.events⟩, outcome.within⟩
  | .ok a =>
      let others := goOn a outcome.rest outcome.within
      ⟨others.precededBy outcome.events, Nat.le_trans others.within outcome.within⟩

end DescentWithin

section

variable [Coercion]

mutual

/-- Reads one expression. A comment or an annotation is read alone and gives none. -/
def descendOne (ts : List Token) : DescentWithin (Option Expr) ts.tail.length :=
  match ts with
  | [] => .fail .pastEnd []
  | t :: ts =>
      match t.kind with
      | .comment => .ok none ts
      | .annot => .ok none ts
      | .quote => (descendQuote t ts).andThen fun e rest _ => .ok (some e) rest
      | .opening family => (descendTerms t family [] ts).andThen fun e rest _ => .ok (some e) rest
      | .closing family => .fail (.read (.rejected (.unexpectedClosing family) t)) ts
      | _ =>
          match Expr.ofToken? t with
          | some e => .ok (some e) ts
          | none => .fail (.read (.unfit t)) ts
termination_by (ts.length, 0)
decreasing_by all_goals exact Prod.Lex.left _ _ (Nat.lt_succ_self _)

def descendQuote (mark : Token) (ts : List Token) : DescentWithin Expr ts.length :=
  match ts with
  | [] => .fail (.read (.rejected .missingTarget mark)) []
  | t :: ts =>
      match t.kind with
      | .closing _ => .fail (.read (.rejected .missingTarget t)) (t :: ts)
      | _ =>
          ((descendOne (t :: ts)).andThen fun e? rest _ =>
            match e? with
            | some e => .ok e.quotation rest
            | none => descendQuote mark rest).widen (List.tail_sublist _).length_le
termination_by (ts.length, 1)
decreasing_by
  · exact Prod.Lex.right _ Nat.one_pos
  · exact Prod.Lex.left _ _ (Nat.lt_succ_of_le ‹_›)

/-- Reads on to the closing delimiter of an open list, whose terms so far are the given ones, the
latest first. -/
def descendTerms (opener : Token) (family : Bracket) (terms : List Expr) (ts : List Token) :
    DescentWithin Expr ts.length :=
  match ts with
  | [] => .fail (.read (.rejected (.unterminatedList family) opener)) []
  | t :: ts =>
      match t.kind with
      | .closing got =>
          if got = family then
            let terms := Expr.withHead family terms.reverse
            ⟨⟨.ok (Expr.ofTerms terms), ts, [.listClosed terms.length opener.line]⟩,
              Nat.le_succ _⟩
          else .fail (.read (.rejected (.mismatched family got) t)) (t :: ts)
      | _ =>
          ((descendOne (t :: ts)).andThen fun e? rest _ =>
            match e? with
            | some e => descendTerms opener family (e :: terms) rest
            | none => descendTerms opener family terms rest).widen (List.tail_sublist _).length_le
termination_by (ts.length, 1)
decreasing_by
  · exact Prod.Lex.right _ Nat.one_pos
  all_goals exact Prod.Lex.left _ _ (Nat.lt_succ_of_le ‹_›)

end

def DescentOutcome.behind (others : DescentOutcome (List Expr)) (e? : Option Expr) :
    DescentOutcome (List Expr) :=
  { others with result := others.result.map (e?.toList ++ ·) }

def descendFrom (ts : List Token) : DescentOutcome (List Expr) :=
  match ts with
  | [] => ⟨.ok [], [], []⟩
  | t :: ts =>
      let first := descendOne (t :: ts)
      match first.result with
      | .error failure => ⟨.error failure, first.rest, first.events⟩
      | .ok e? => ((descendFrom first.rest).behind e?).precededBy first.events
termination_by ts.length
decreasing_by exact Nat.lt_succ_of_le first.within

end

/-! ## One step of the descent -/

theorem DescentWithin.toDescentOutcome_widen {α : Type} {m n : Nat} (outcome : DescentWithin α m)
    (h : m ≤ n) : (outcome.widen h).toDescentOutcome = outcome.toDescentOutcome :=
  rfl

theorem DescentWithin.toDescentOutcome_andThen {α β : Type} {n : Nat}
    (outcome : DescentWithin α n)
    {goOn : α → ∀ rest : List Token, rest.length ≤ n → DescentWithin β rest.length}
    {goOn' : α → List Token → DescentOutcome β}
    (h : ∀ a rest hrest, (goOn a rest hrest).toDescentOutcome = goOn' a rest) :
    (outcome.andThen goOn).toDescentOutcome = outcome.toDescentOutcome.andThen goOn' := by
  obtain ⟨⟨result, rest, events⟩, within⟩ := outcome
  cases result with
  | error failure => rfl
  | ok a => exact congrArg (DescentOutcome.precededBy events) (h a rest within)

/-- The kinds whose tokens are read as the values they hold. -/
def Token.HoldsValue (t : Token) : Prop :=
  t.kind = .string ∨ t.kind = .symbol ∨ t.kind = .int ∨ t.kind = .float

theorem Token.reading_cases (t : Token) : t.isRemark = true ∨ t.kind = .quote ∨
    (∃ family, t.kind = .opening family) ∨ (∃ family, t.kind = .closing family) ∨
      t.HoldsValue := by
  unfold Token.isRemark Token.HoldsValue
  cases t.kind with
  | delimiter d => cases d <;> simp
  | _ => simp

section

variable {t : Token} {family : Bracket}

theorem Token.kind_ne_closing_of_isRemark (ht : t.isRemark = true) (family : Bracket) :
    t.kind ≠ .closing family := by
  intro hkind
  simp [Token.isRemark, hkind] at ht

theorem Token.HoldsValue.kind_ne_closing (ht : t.HoldsValue) (family : Bracket) :
    t.kind ≠ .closing family := by
  rcases ht with ht | ht | ht | ht <;> simp [ht]

end

section

variable [Coercion]

namespace Frame

/-- Reads on to the end of the construct. -/
def descend : Frame → List Token → DescentOutcome Expr
  | quote mark, ts => (descendQuote mark ts).toDescentOutcome
  | list opener family terms, ts => (descendTerms opener family terms ts).toDescentOutcome

/-- Takes up an expression that was read inside the construct and goes on to the end of it. -/
def takeUp : Frame → Expr → List Token → DescentOutcome Expr
  | quote _, e, ts => ⟨.ok e.quotation, ts, []⟩
  | list opener family terms, e, ts => (list opener family (e :: terms)).descend ts

/-- What becomes of an expression inside constructs that are pending. -/
def unwind : List Frame → Expr → List Token → DescentOutcome (Option Expr)
  | [], e, ts => ⟨.ok (some e), ts, []⟩
  | frame :: below, e, ts => (frame.takeUp e ts).andThen (unwind below)

end Frame

variable {t : Token} {ts : List Token} {family : Bracket}

theorem descendOne_remark (ht : t.isRemark = true) :
    (descendOne (t :: ts)).toDescentOutcome = ⟨.ok none, ts, []⟩ := by
  simp only [Token.isRemark, Bool.or_eq_true, decide_eq_true_eq] at ht
  rw [descendOne]
  rcases ht with ht | ht
  · simp only [ht]
    rfl
  · simp only [ht]
    rfl

theorem descendOne_quote (ht : t.kind = .quote) :
    (descendOne (t :: ts)).toDescentOutcome =
      ((Frame.quote t).descend ts).andThen (Frame.unwind []) := by
  rw [descendOne]
  simp only [ht]
  exact DescentWithin.toDescentOutcome_andThen _ fun _ _ _ => rfl

theorem descendOne_opening (ht : t.kind = .opening family) :
    (descendOne (t :: ts)).toDescentOutcome =
      ((Frame.list t family []).descend ts).andThen (Frame.unwind []) := by
  rw [descendOne]
  simp only [ht]
  exact DescentWithin.toDescentOutcome_andThen _ fun _ _ _ => rfl

theorem descendOne_closing (ht : t.kind = .closing family) :
    (descendOne (t :: ts)).toDescentOutcome =
      ⟨.error (.read (.rejected (.unexpectedClosing family) t)), ts, []⟩ := by
  rw [descendOne]
  simp only [ht]
  rfl

theorem descendOne_value (ht : t.HoldsValue) :
    (descendOne (t :: ts)).toDescentOutcome =
      ⟨(Expr.ofToken? t).elim (.error (.read (.unfit t))) (.ok ∘ some), ts, []⟩ := by
  rw [descendOne]
  rcases ht with ht | ht | ht | ht <;>
  · simp only [ht]
    cases Expr.ofToken? t <;> rfl

theorem readToken_value (ht : t.HoldsValue) (frames : List Frame) :
    readToken frames t =
      (Expr.ofToken? t).elim (.failed (.unfit t) true) (place · frames) := by
  rw [readToken]
  rcases ht with ht | ht | ht | ht <;>
  · simp only [ht]
    cases Expr.ofToken? t <;> rfl

theorem Frame.descend_cons (frame : Frame) (ht : ∀ family, t.kind ≠ .closing family) :
    frame.descend (t :: ts) =
      (descendOne (t :: ts)).toDescentOutcome.andThen fun e? rest =>
        e?.elim (frame.descend rest) (frame.takeUp · rest) := by
  cases frame with
  | quote mark =>
      rw [descend, descendQuote]
      split
      · next heq => exact absurd heq (ht _)
      · rw [DescentWithin.toDescentOutcome_widen]
        refine DescentWithin.toDescentOutcome_andThen _ fun e? rest hrest => ?_
        cases e? <;> rfl
  | list opener family terms =>
      rw [descend, descendTerms]
      split
      · next heq => exact absurd heq (ht _)
      · rw [DescentWithin.toDescentOutcome_widen]
        refine DescentWithin.toDescentOutcome_andThen _ fun e? rest hrest => ?_
        cases e? <;> rfl

end

/-! ## Reading and descending -/

def ReadOutcome.asDescent {α : Type} (outcome : ReadOutcome α) : DescentOutcome α :=
  ⟨outcome.result.mapError .read, outcome.rest, outcome.events⟩

theorem DescentOutcome.behind_none (others : DescentOutcome (List Expr)) :
    others.behind none = others := by
  obtain ⟨result, rest, events⟩ := others
  cases result <;> rfl

theorem ReadOutcome.asDescent_cons (e : Expr) (others : ReadOutcome (List Expr)) :
    { others with result := others.result.map (e :: ·) }.asDescent =
      others.asDescent.behind (some e) := by
  obtain ⟨result, rest, events⟩ := others
  cases result <;> rfl

theorem ReadOutcome.asDescent_precededBy {α : Type} (events : List ReadEvent)
    (outcome : ReadOutcome α) :
    (outcome.precededBy events).asDescent = outcome.asDescent.precededBy events :=
  rfl

section

variable {t : Token} {ts : List Token} {frames : List Frame}

theorem closingEvents_eq_nil (ht : ∀ family, t.kind ≠ .closing family) (frames : List Frame) :
    closingEvents frames t = [] := by
  unfold closingEvents
  split
  · next heq => exact absurd heq (ht _)
  · rfl

theorem closingEvents_list {got : Bracket} (ht : t.kind = .closing got) (opener : Token)
    (family : Bracket) (terms : List Expr) (below : List Frame) :
    closingEvents (.list opener family terms :: below) t =
      if got = family then
        [.listClosed (Expr.withHead family terms.reverse).length opener.line]
      else [] := by
  simp only [closingEvents, ht]

variable [Coercion]

theorem readOne_of_inside {inner : List Frame} (h : readToken frames t = .inside inner) :
    readOne frames (t :: ts) = (readOne inner ts).precededBy (closingEvents frames t) := by
  rw [readOne.eq_def]
  simp only [h]

theorem readOne_of_complete {e : Expr} (h : readToken frames t = .complete e) :
    readOne frames (t :: ts) = ⟨.ok (some e), ts, closingEvents frames t⟩ := by
  unfold readOne
  rw [h]

theorem readOne_of_failed {failure : ReadFailure} {consumed : Bool}
    (h : readToken frames t = .failed failure consumed) :
    readOne frames (t :: ts) = ⟨.error failure, if consumed then ts else t :: ts, []⟩ := by
  unfold readOne
  rw [h]

theorem readOne_of_skipped {frame : Frame} {below : List Frame}
    (h : readToken (frame :: below) t = .skipped) :
    readOne (frame :: below) (t :: ts) = readOne (frame :: below) ts := by
  rw [readOne.eq_def]
  simp only [h]

/-- A step that puts an expression in its place hands it to the pending constructs. -/
theorem readOne_of_place {below : List Frame} {e : Expr}
    (hstep : readToken frames t = place e below)
    (ih : ∀ frame below,
      (readOne (frame :: below) ts).asDescent = (frame.descend ts).andThen (Frame.unwind below)) :
    (readOne frames (t :: ts)).asDescent =
      (Frame.unwind below e ts).precededBy (closingEvents frames t) := by
  fun_induction place e below with
  | case1 e =>
      rw [readOne_of_complete hstep]
      exact congrArg (DescentOutcome.mk _ _) (List.append_nil _).symm
  | case2 e mark below place => exact place hstep
  | case3 e opener family terms below =>
      rw [readOne_of_inside hstep]
      exact congrArg (DescentOutcome.precededBy _) (ih _ _)

theorem Frame.descend_quote_closing {family : Bracket} (ht : t.kind = .closing family)
    (mark : Token) :
    (Frame.quote mark).descend (t :: ts) =
      ⟨.error (.read (.rejected .missingTarget t)), t :: ts, []⟩ := by
  rw [descend, descendQuote]
  simp only [ht]
  rfl

theorem Frame.descend_list_closing {got : Bracket} (ht : t.kind = .closing got) (opener : Token)
    (family : Bracket) (terms : List Expr) :
    (Frame.list opener family terms).descend (t :: ts) =
      if got = family then
        ⟨.ok (Expr.ofTerms (Expr.withHead family terms.reverse)), ts,
          [.listClosed (Expr.withHead family terms.reverse).length opener.line]⟩
      else ⟨.error (.read (.rejected (.mismatched family got) t)), t :: ts, []⟩ := by
  rw [descend, descendTerms]
  simp only [ht]
  split <;> rfl

theorem readOne_closing {got : Bracket} (ht : t.kind = .closing got) {frame : Frame}
    {below : List Frame}
    (ih : ∀ frame below,
      (readOne (frame :: below) ts).asDescent = (frame.descend ts).andThen (Frame.unwind below)) :
    (readOne (frame :: below) (t :: ts)).asDescent =
      (frame.descend (t :: ts)).andThen (Frame.unwind below) := by
  have hstep := readToken_closing ht (frame :: below)
  cases frame with
  | quote mark =>
      rw [readOne_of_failed hstep, Frame.descend_quote_closing ht]
      rfl
  | list opener family terms =>
      rw [Frame.descend_list_closing ht]
      by_cases hfamily : got = family
      · subst hfamily
        rw [closeTop, if_pos rfl] at hstep
        rw [if_pos rfl, readOne_of_place hstep ih, closingEvents_list ht, if_pos rfl]
        rfl
      · rw [closeTop, if_neg hfamily] at hstep
        rw [if_neg hfamily, readOne_of_failed hstep]
        rfl

theorem readOne_eq_unwind (frame : Frame) (below : List Frame) (ts : List Token) :
    (readOne (frame :: below) ts).asDescent = (frame.descend ts).andThen (Frame.unwind below) := by
  induction ts generalizing frame below with
  | nil =>
      cases frame with
      | quote mark =>
          rw [readOne, Frame.descend, descendQuote]
          rfl
      | list opener family terms =>
          rw [readOne, Frame.descend, descendTerms]
          rfl
  | cons t ts ih =>
      rcases t.reading_cases with ht | ht | ⟨family, ht⟩ | ⟨family, ht⟩ | ht
      · rw [readOne_of_skipped (readToken_remark ht _), ih,
          frame.descend_cons (Token.kind_ne_closing_of_isRemark ht), descendOne_remark ht]
        rfl
      · have hclosing : ∀ family, t.kind ≠ .closing family := by simp [ht]
        rw [readOne_of_inside (readToken_quote ht _), closingEvents_eq_nil hclosing,
          frame.descend_cons hclosing, descendOne_quote ht, DescentOutcome.andThen_assoc,
          DescentOutcome.andThen_assoc]
        exact ih _ _
      · have hclosing : ∀ family, t.kind ≠ .closing family := by simp [ht]
        rw [readOne_of_inside (readToken_opening ht _), closingEvents_eq_nil hclosing,
          frame.descend_cons hclosing, descendOne_opening ht, DescentOutcome.andThen_assoc,
          DescentOutcome.andThen_assoc]
        exact ih _ _
      · exact readOne_closing ht ih
      · have hstep := readToken_value ht (frame :: below)
        rw [frame.descend_cons ht.kind_ne_closing, descendOne_value ht]
        cases hvalue : Expr.ofToken? t with
        | none =>
            rw [hvalue] at hstep
            rw [readOne_of_failed hstep]
            rfl
        | some e =>
            rw [hvalue] at hstep
            rw [readOne_of_place hstep ih, closingEvents_eq_nil ht.kind_ne_closing]
            rfl

/-- The reader reads the first expression of a row of tokens as the descent does. -/
theorem readOne_eq_descendOne (t : Token) (ts : List Token) :
    (readOne [] (t :: ts)).asDescent = (descendOne (t :: ts)).toDescentOutcome := by
  rcases t.reading_cases with ht | ht | ⟨family, ht⟩ | ⟨family, ht⟩ | ht
  · rw [descendOne_remark ht, readOne, readToken_remark ht]
    rfl
  · rw [readOne_of_inside (readToken_quote ht _), descendOne_quote ht,
      closingEvents_eq_nil (by simp [ht])]
    exact readOne_eq_unwind _ _ _
  · rw [readOne_of_inside (readToken_opening ht _), descendOne_opening ht,
      closingEvents_eq_nil (by simp [ht])]
    exact readOne_eq_unwind _ _ _
  · rw [readOne_of_failed (readToken_closing ht []), descendOne_closing ht]
    rfl
  · have hstep := readToken_value ht []
    rw [descendOne_value ht]
    cases hvalue : Expr.ofToken? t with
    | none =>
        rw [hvalue] at hstep
        rw [readOne_of_failed hstep]
        rfl
    | some e =>
        rw [hvalue] at hstep
        rw [readOne_of_place hstep fun frame below => readOne_eq_unwind frame below ts,
          closingEvents_eq_nil ht.kind_ne_closing]
        rfl

/-- Reading to the end reads one expression and goes on behind it. -/
theorem readFrom_eq_readOne (frames : List Frame) (ts : List Token) :
    (readFrom frames ts).asDescent =
      (readOne frames ts).asDescent.andThen fun e? rest =>
        (readFrom [] rest).asDescent.behind e? := by
  induction ts generalizing frames with
  | nil => cases frames <;> rfl
  | cons t ts ih =>
      rw [readFrom]
      cases hstep : readToken frames t with
      | skipped =>
          cases frames with
          | nil =>
              rw [readOne, hstep]
              exact (DescentOutcome.behind_none _).symm
          | cons frame below =>
              rw [readOne_of_skipped hstep]
              exact ih _
      | inside inner =>
          rw [readOne_of_inside hstep]
          simp only [ReadOutcome.asDescent_precededBy, DescentOutcome.andThen_precededBy, ih]
      | complete e =>
          rw [readOne_of_complete hstep]
          simp only [ReadOutcome.asDescent_precededBy, ReadOutcome.asDescent_cons]
          rfl
      | failed failure consumed =>
          rw [readOne_of_failed hstep]
          rfl

/-- The reader ends as the descent: with the same expressions or failure, in front of the same
tokens and with the same reports. -/
theorem readFrom_eq_descendFrom (ts : List Token) :
    (readFrom [] ts).asDescent = descendFrom ts := by
  induction hn : ts.length using Nat.strongRecOn generalizing ts with
  | _ n ih =>
      subst hn
      cases ts with
      | nil => rw [descendFrom]; rfl
      | cons t ts =>
          have hwithin := (descendOne (t :: ts)).within
          rw [readFrom_eq_readOne, readOne_eq_descendOne, descendFrom, DescentOutcome.andThen]
          cases (descendOne (t :: ts)).result with
          | error failure => rfl
          | ok e? => simp only [ih _ (Nat.lt_succ_of_le hwithin) _ rfl]

end

end TanSource
