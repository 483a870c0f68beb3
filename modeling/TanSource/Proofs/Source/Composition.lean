import TanSource.Coercion.Lax
import TanSource.Proofs.Expr.Rendering
import TanSource.Proofs.Formatter.Concatenation
import TanSource.Proofs.Reader.Derivations

/-!
# Processing a text behind another one

The lexer, a pass and the reader end a text that they accept as they began it: with no item, no list
and no quote mark open. So the lines behind such a text are processed as if they stood alone, and
only the places in their errors are moved (`sources_append`).
-/

namespace TanSource

/-! ## Reading tokens behind others -/

def ReadFailure.moved (offset : Offset) : ReadFailure → ReadFailure
  | rejected problem t => .rejected problem (t.moved offset)
  | unfit t => .unfit (t.moved offset)

def Frame.moved (offset : Offset) : Frame → Frame
  | quote mark => .quote (mark.moved offset)
  | list opener family terms => .list (opener.moved offset) family terms

def ReadStep.moved (offset : Offset) : ReadStep → ReadStep
  | skipped => .skipped
  | inside frames => .inside (frames.map (Frame.moved offset))
  | complete e => .complete e
  | failed failure consumed => .failed (failure.moved offset) consumed

theorem place_moved (offset : Offset) (e : Expr) (frames : List Frame) :
    place e (frames.map (Frame.moved offset)) = (place e frames).moved offset := by
  fun_induction place e frames with
  | case1 e => rfl
  | case2 e mark below ih => exact ih
  | case3 e opener family terms below => rfl

theorem closeTop_moved (offset : Offset) (family : Bracket) (t : Token) (frames : List Frame) :
    closeTop family (t.moved offset) (frames.map (Frame.moved offset)) =
      (closeTop family t frames).moved offset := by
  cases frames with
  | nil => rfl
  | cons frame below =>
      cases frame with
      | quote mark => rfl
      | list opener expected terms =>
          rw [List.map_cons, Frame.moved, closeTop, closeTop]
          split
          · exact place_moved offset _ below
          · rfl

theorem stripRemarks_append_moved (ts us : List Token) (offset : Offset) :
    stripRemarks (ts ++ us.map (Token.moved offset)) =
      stripRemarks ts ++ (stripRemarks us).map (Token.moved offset) := by
  rw [stripRemarks, List.filter_append, List.filter_map]
  rfl

section

variable [Coercion]

/-- What a token does to the open constructs does not depend on places. -/
theorem readToken_moved (offset : Offset) (frames : List Frame) (t : Token) :
    readToken (frames.map (Frame.moved offset)) (t.moved offset) =
      (readToken frames t).moved offset := by
  have hkind : (t.moved offset).kind = t.kind := rfl
  have hatom : Expr.ofToken? (t.moved offset) = Expr.ofToken? t := rfl
  unfold readToken
  rw [hkind, hatom]
  split
  · rfl
  · rfl
  · rfl
  · rfl
  · exact closeTop_moved offset _ t frames
  · split
    · exact place_moved offset _ frames
    · rfl

theorem readFrom_moved (offset : Offset) (frames : List Frame) (ts : List Token) :
    (readFrom (frames.map (Frame.moved offset)) (ts.map (Token.moved offset))).result =
      (readFrom frames ts).result.mapError (ReadFailure.moved offset) := by
  induction ts generalizing frames with
  | nil =>
      cases frames with
      | nil => rfl
      | cons frame below => cases frame <;> rfl
  | cons t ts ih =>
      rw [List.map_cons, readFrom_cons, readFrom_cons, readToken_moved]
      cases readToken frames t with
      | skipped => exact ih frames
      | inside inner => exact ih inner
      | complete e =>
          have hothers : read (ts.map (Token.moved offset)) =
              (read ts).mapError (ReadFailure.moved offset) := ih []
          rw [ReadStep.moved, resultAfter, resultAfter, hothers]
          cases read ts <;> rfl
      | failed failure consumed => rfl

/-- Behind tokens that finish all constructs the reader goes on as a new one. -/
theorem readFrom_append {frames : List Frame} {ts : List Token} {es : List Expr}
    (h : (readFrom frames ts).result = .ok es) (us : List Token) :
    (readFrom frames (ts ++ us)).result = (read us).map (es ++ ·) := by
  induction ts generalizing frames es with
  | nil =>
      cases frames with
      | nil =>
          cases h
          rw [List.nil_append, ← read]
          cases read us <;> rfl
      | cons frame below => cases h
  | cons t ts ih =>
      rw [readFrom_cons] at h
      rw [List.cons_append, readFrom_cons]
      cases hstep : readToken frames t with
      | skipped =>
          rw [hstep] at h
          exact ih h
      | inside inner =>
          rw [hstep] at h
          exact ih h
      | complete e =>
          rw [hstep, resultAfter] at h
          cases hothers : read ts with
          | error failure =>
              rw [hothers] at h
              cases h
          | ok others =>
              rw [hothers] at h
              cases h
              have hjoined : read (ts ++ us) = (read us).map (others ++ ·) := ih hothers
              rw [resultAfter, hjoined]
              cases read us <;> rfl
      | failed failure consumed =>
          rw [hstep] at h
          cases h

theorem read_append_moved {ts : List Token} {es : List Expr} (h : read ts = .ok es)
    (us : List Token) (offset : Offset) :
    read (ts ++ us.map (Token.moved offset)) =
      ((read us).map (es ++ ·)).mapError (ReadFailure.moved offset) := by
  have hmoved : read (us.map (Token.moved offset)) =
      (read us).mapError (ReadFailure.moved offset) := readFrom_moved offset [] us
  rw [read, readFrom_append h, hmoved]
  cases read us <;> rfl

end

/-! ## Whole sources -/

/-- The error of a text on the lines behind another one, which was formatted with these diagnostics.
-/
def SourceError.behind (s : Text) (earlier : List Diagnostic) : SourceError → SourceError
  | lexical e => .lexical (e.moved (.behind s))
  | layout e => .layout e
  | formatting failure => .formatting (failure.behind earlier (.behind s))
  | reading failure => .reading (failure.moved (.behind s))
  | rendering reason => .rendering reason

section

variable {options : FormatOptions} {settings : FormatSettings} {s : Text} {ts : List Token}

theorem formatSource_of_tokenize (hts : tokenize s = .ok ts)
    (hsettings : options.settings = .ok settings) :
    formatSource options s = (Formatter.ofTokens settings ts).format.1.mapError .formatting := by
  rw [formatSource, hts, hsettings]
  rfl

theorem formatSource_of_fault {e : LexError} (h : tokenize s = .error e) :
    formatSource options s = .error (.lexical e) := by
  rw [formatSource, h]
  rfl

theorem exists_of_formatSource {out : Text} (h : formatSource options s = .ok out) :
    ∃ ts settings, tokenize s = .ok ts ∧ options.settings = .ok settings ∧
      (Formatter.ofTokens settings ts).format.1 = .ok out := by
  cases hts : tokenize s with
  | error e =>
      rw [formatSource_of_fault hts] at h
      cases h
  | ok ts =>
      cases hsettings : options.settings with
      | error e =>
          rw [formatSource, hts, hsettings] at h
          cases h
      | ok settings =>
          rw [formatSource_of_tokenize hts hsettings] at h
          refine ⟨ts, settings, rfl, rfl, ?_⟩
          cases hformat : (Formatter.ofTokens settings ts).format.1 with
          | error failure =>
              rw [hformat] at h
              cases h
          | ok text =>
              rw [hformat] at h
              cases h
              rfl

variable [Coercion]

theorem compactSource_of_tokenize (hts : tokenize s = .ok ts) :
    compactSource s =
      ((read (stripRemarks ts)).mapError .reading).bind fun es =>
        (renderLines es).mapError .rendering := by
  rw [compactSource, hts]
  rfl

theorem compactSource_of_fault {e : LexError} (h : tokenize s = .error e) :
    compactSource s = .error (.lexical e) := by
  rw [compactSource, h]
  rfl

theorem exists_of_compactSource {out : Text} (h : compactSource s = .ok out) :
    ∃ ts es, tokenize s = .ok ts ∧ read (stripRemarks ts) = .ok es ∧
      renderLines es = .ok out := by
  cases hts : tokenize s with
  | error e =>
      rw [compactSource_of_fault hts] at h
      cases h
  | ok ts =>
      rw [compactSource_of_tokenize hts] at h
      cases hes : read (stripRemarks ts) with
      | error failure =>
          rw [hes] at h
          cases h
      | ok es =>
          rw [hes] at h
          cases hout : renderLines es with
          | error reason =>
              simp only [Except.mapError, Except.bind, hout] at h
              cases h
          | ok text =>
              simp only [Except.mapError, Except.bind, hout] at h
              cases h
              exact ⟨ts, es, rfl, hes, hout⟩

end

theorem joined_eq_ok_iff {result : Except SourceError Text} {out text : Text}
    {f : SourceError → SourceError} :
    (result.map (out ++ ·)).mapError f = .ok text ↔
      ∃ more, result = .ok more ∧ text = out ++ more := by
  cases result <;> simp [Except.map, Except.mapError, eq_comm]

theorem formatSource_append {options : FormatOptions} {a out : Text} {ts : List Token}
    {settings : FormatSettings} (hts : tokenize a = .ok ts)
    (hsettings : options.settings = .ok settings)
    (hformat : (Formatter.ofTokens settings ts).format.1 = .ok out) (b : Text) :
    formatSource options (a ++ '\n' :: b) =
      ((formatSource options b).map (out ++ ·)).mapError
        (.behind a (Formatter.ofTokens settings ts).format.2.pass.pending) := by
  have hjoined := tokenize_append_newline hts b
  cases hus : tokenize b with
  | error e =>
      rw [hus] at hjoined
      rw [formatSource_of_fault hus, formatSource_of_fault hjoined]
      rfl
  | ok us =>
      rw [hus] at hjoined
      rw [formatSource_of_tokenize hus hsettings, formatSource_of_tokenize hjoined hsettings,
        Formatter.format_append hformat]
      cases (Formatter.ofTokens settings us).format.1 <;> rfl

section

variable [Coercion]

theorem compactSource_append {a out : Text} (h : compactSource a = .ok out) (b : Text) :
    compactSource (a ++ '\n' :: b) =
      ((compactSource b).map (out ++ ·)).mapError (.behind a []) := by
  obtain ⟨ts, es, hts, hes, hout⟩ := exists_of_compactSource h
  have hjoined := tokenize_append_newline hts b
  cases hus : tokenize b with
  | error e =>
      rw [hus] at hjoined
      rw [compactSource_of_fault hus, compactSource_of_fault hjoined]
      rfl
  | ok us =>
      rw [hus] at hjoined
      rw [compactSource_of_tokenize hus, compactSource_of_tokenize hjoined,
        stripRemarks_append_moved, read_append_moved hes]
      cases read (stripRemarks us) with
      | error failure => rfl
      | ok fs =>
          simp only [Except.map, Except.mapError, Except.bind, renderLines_append hout]
          cases renderLines fs <;> rfl

/-- Behind a text that was processed and a line feed, another text is processed as it is alone, both
when sources are laid out again and when their expressions are written on lines. The outputs are
joined; an error is the one of the other text, moved behind the first, and a pass that fails carries
the diagnostics of the first text too. -/
theorem sources_append (options : FormatOptions) (a b : Text) :
    (∀ out, formatSource options a = .ok out →
      ∃ tokens settings earlier, tokenize a = .ok tokens ∧ options.settings = .ok settings ∧
        formatTokens settings tokens = .ok ⟨some out, earlier⟩ ∧
        (∀ text, formatSource options (a ++ '\n' :: b) = .ok text ↔
          ∃ more, formatSource options b = .ok more ∧ text = out ++ more) ∧
        ∀ e, formatSource options b = .error e →
          formatSource options (a ++ '\n' :: b) = .error (e.behind a earlier)) ∧
    ∀ out, compactSource a = .ok out →
      (∀ text, compactSource (a ++ '\n' :: b) = .ok text ↔
        ∃ more, compactSource b = .ok more ∧ text = out ++ more) ∧
      ∀ e, compactSource b = .error e →
        compactSource (a ++ '\n' :: b) = .error (e.behind a []) := by
  constructor
  · intro out ha
    obtain ⟨tokens, settings, htokens, hsettings, hformat⟩ := exists_of_formatSource ha
    have hjoined := formatSource_append htokens hsettings hformat b
    refine ⟨tokens, settings, (Formatter.ofTokens settings tokens).format.2.pass.pending, htokens,
      hsettings, formatTokens_of_ok (Prod.ext hformat rfl), ?_, ?_⟩
    · intro text
      rw [hjoined]
      exact joined_eq_ok_iff
    · intro e he
      rw [hjoined, he]
      rfl
  · intro out ha
    have hjoined := compactSource_append ha b
    refine ⟨?_, ?_⟩
    · intro text
      rw [hjoined]
      exact joined_eq_ok_iff
    · intro e he
      rw [hjoined, he]
      rfl

end

attribute [local instance] Coercion.lax

/-- A bracket that is ignored in front of a list that does not end, and an expression in front of a
bracket that closes nothing. -/
theorem sources_append_strayBrackets :
    formatSource {} ")x\n(y".toList = .error (.formatting (.diagnosed
      [.unexpectedToken ⟨.closing .paren, .absent, ⟨⟨0, 1, 1⟩, ⟨1, 1, 2⟩⟩⟩,
        .unterminatedList (.closing .paren)
          (some ⟨.opening .paren, .absent, ⟨⟨3, 2, 1⟩, ⟨4, 2, 2⟩⟩⟩)])) ∧
    compactSource "x\n)".toList = .error (.reading (.rejected (.unexpectedClosing .paren)
      ⟨.closing .paren, .absent, ⟨⟨2, 2, 1⟩, ⟨3, 2, 2⟩⟩⟩)) := by
  constructor
  · have ha : formatSource {} ")x".toList = .ok "x".toList := by decide +kernel
    have hts : tokenize ")x".toList = .ok [⟨.closing .paren, .absent, ⟨⟨0, 1, 1⟩, ⟨1, 1, 2⟩⟩⟩,
        ⟨.symbol, .text ['x'], ⟨⟨1, 1, 2⟩, ⟨2, 1, 3⟩⟩⟩] := by decide +kernel
    have hb : formatSource {} "(y".toList = .error (.formatting (.diagnosed
        [.unterminatedList (.closing .paren)
          (some ⟨.opening .paren, .absent, ⟨⟨0, 1, 1⟩, ⟨1, 1, 2⟩⟩⟩)])) := by decide +kernel
    obtain ⟨tokens, settings, earlier, htokens, hsettings, hformat, -, hfails⟩ :=
      (sources_append {} ")x".toList "(y".toList).1 _ ha
    cases hts.symm.trans htokens
    cases hsettings
    have hearlier : formatTokens {} [⟨.closing .paren, .absent, ⟨⟨0, 1, 1⟩, ⟨1, 1, 2⟩⟩⟩,
        ⟨.symbol, .text ['x'], ⟨⟨1, 1, 2⟩, ⟨2, 1, 3⟩⟩⟩] = .ok ⟨some "x".toList,
          [.unexpectedToken ⟨.closing .paren, .absent, ⟨⟨0, 1, 1⟩, ⟨1, 1, 2⟩⟩⟩]⟩ := by
      decide +kernel
    cases hearlier.symm.trans hformat
    exact hfails _ hb
  · have ha : compactSource "x".toList = .ok "x\n".toList := by decide +kernel
    have hb : compactSource ")".toList = .error (.reading (.rejected (.unexpectedClosing .paren)
        ⟨.closing .paren, .absent, ⟨⟨0, 1, 1⟩, ⟨1, 1, 2⟩⟩⟩)) := by decide +kernel
    exact ((sources_append {} "x".toList ")".toList).2 _ ha).2 _ hb

end TanSource
