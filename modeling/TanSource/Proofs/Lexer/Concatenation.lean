import TanSource.Proofs.Lexer.Places

/-!
# Lexing a text behind another one

A line feed ends what stands in front of it, and belongs to no token itself. So a text that is put
behind another one, on a line of its own, gives the tokens it gives alone, and only their places are
moved (`tokenize_append_newline`).
-/

namespace TanSource

/-! ## Moved places -/

/-- How far a text is moved by lines that are put in front of it. No column changes. -/
structure Offset where
  chars : Nat
  lines : Nat

def Offset.behind (s : Text) : Offset :=
  ⟨s.length + 1, s.count '\n' + 1⟩

namespace Position

def moved (offset : Offset) (p : Position) : Position :=
  ⟨p.index + offset.chars, p.line + offset.lines, p.column⟩

theorem past_moved (offset : Offset) (p : Position) (c : Char) :
    (p.moved offset).past c = (p.past c).moved offset := by
  unfold past
  split <;> simp [moved, Nat.add_right_comm]

theorem after_moved (offset : Offset) (p : Position) (s : Text) :
    (p.moved offset).after s = (p.after s).moved offset := by
  induction s generalizing p with
  | nil => rfl
  | cons c s ih => rw [after_cons, past_moved, ih, after_cons]

/-- Behind a text and its line feed stands the start of a text, moved. -/
theorem past_after_start (s : Text) :
    (({} : Position).after s).past '\n' = ({} : Position).moved (.behind s) := by
  rw [after_start]
  simp [past, moved, Offset.behind, Nat.add_comm]

end Position

def Span.moved (offset : Offset) (span : Span) : Span :=
  ⟨span.start.moved offset, span.stop.moved offset⟩

def Token.moved (offset : Offset) (t : Token) : Token :=
  { t with span := t.span.moved offset }

def LexError.moved (offset : Offset) (e : LexError) : LexError :=
  { e with place := e.place.moved offset }

namespace LexRun

def moved (offset : Offset) (run : LexRun) : LexRun :=
  ⟨run.tokens.map (Token.moved offset), run.mark.moved offset, run.here.moved offset, run.rest,
    run.error?.map (LexError.moved offset)⟩

def precededBy (ts : List Token) (run : LexRun) : LexRun :=
  { run with tokens := ts ++ run.tokens }

/-- The run without its mark, which tells where blanks begin that stand at the end. -/
def unmarked (run : LexRun) : LexRun :=
  { run with mark := {} }

def result (run : LexRun) : Except LexError (List Token) :=
  match run.error? with
  | none => .ok run.tokens
  | some e => .error e

end LexRun

/-- Where a text starts does not matter but for the places. -/
theorem lexFrom_moved (offset : Offset) (mark here : Position) (s : Text) :
    lexFrom (mark.moved offset) (here.moved offset) s = (lexFrom mark here s).moved offset := by
  induction mark, here, s using lexFrom_induction with
  | nil mark here =>
      rw [lexFrom_nil, lexFrom_nil]
      rfl
  | blank mark here c s lexeme rest hitem ih =>
      rw [lexFrom_of_blank _ _ hitem, lexFrom_of_blank _ _ hitem, Position.after_moved, ih]
  | token mark here c s lexeme kind value rest hitem ih =>
      rw [lexFrom_of_token _ _ hitem, lexFrom_of_token _ _ hitem, Position.after_moved, ih]
      rfl
  | fault mark here c s lexeme f rest hitem =>
      rw [lexFrom_of_fault _ _ hitem, lexFrom_of_fault _ _ hitem, Position.after_moved]
      rfl

/-! ## A line feed between two texts -/

/-- The mark of a run is the start of its last item, or the one before where there is no item. -/
theorem lexFrom_unmarked (mark mark' here : Position) (s : Text) :
    (lexFrom mark here s).unmarked = (lexFrom mark' here s).unmarked := by
  cases s with
  | nil =>
      rw [lexFrom_nil, lexFrom_nil]
      rfl
  | cons c s => rw [lexFrom, lexFrom]

/-- A blank in front of a text is passed over, also where it begins a longer run of blanks. -/
theorem lexFrom_blank {c : Char} (hc : isBlank c = true) (mark here : Position) (s : Text) :
    (lexFrom mark here (c :: s)).unmarked = (lexFrom mark (here.past c) s).unmarked := by
  rw [lexFrom_of_blank mark here (firstItem_blank hc s)]
  cases s with
  | nil => exact lexFrom_unmarked _ _ _ _
  | cons d s =>
      cases hd : isBlank d with
      | false =>
          rw [List.takeWhile_cons_of_neg (by simp [hd]), List.dropWhile_cons_of_neg (by simp [hd])]
          exact lexFrom_unmarked _ _ _ _
      | true =>
          rw [List.takeWhile_cons_of_pos hd, List.dropWhile_cons_of_pos hd,
            lexFrom_of_blank mark (here.past c) (firstItem_blank hd s)]
          exact lexFrom_unmarked _ _ _ _

theorem lexFrom_blanks {run : Text} (hrun : ∀ c ∈ run, isBlank c = true) (mark here : Position)
    (s : Text) :
    (lexFrom mark here (run ++ s)).unmarked = (lexFrom mark (here.after run) s).unmarked := by
  induction run generalizing here with
  | nil => rfl
  | cons c run ih =>
      obtain ⟨hc, hrun⟩ := List.forall_mem_cons.mp hrun
      rw [List.cons_append, lexFrom_blank hc, ih hrun, Position.after_cons]

theorem precededBy_unmarked {run other : LexRun} (h : run.unmarked = other.unmarked)
    (ts : List Token) : (run.precededBy ts).unmarked = (other.precededBy ts).unmarked :=
  congrArg (LexRun.precededBy ts) h

theorem result_of_unmarked {run other : LexRun} (h : run.unmarked = other.unmarked) :
    run.result = other.result := by
  have hresult := congrArg LexRun.result h
  exact hresult

/-- The first item of a text that is read as a token is the first one still when a line is added. -/
theorem firstItem_append_newline {c : Char} {a lexeme rest : Text} {kind : TokenKind}
    {value : Value} (h : firstItem c a = ⟨lexeme, .token kind value, rest⟩) (b : Text) :
    firstItem c (a ++ '\n' :: b) = ⟨lexeme, .token kind value, rest ++ '\n' :: b⟩ := by
  obtain ⟨x, hx, hend, rfl, hreading, htext⟩ := exists_lexeme_of_firstItem h (by simp)
  obtain ⟨hdenotes, -⟩ := Lexeme.reading_eq_token_iff.mp hreading
  have hjoined : x.text ++ (rest ++ '\n' :: b) = c :: (a ++ '\n' :: b) := by
    rw [← List.append_assoc, htext, List.cons_append]
  rw [firstItem_of_wellFormed hx (hdenotes.endsBefore_append hend b) hjoined, hreading]

theorem blanks_of_firstItem {c : Char} {s lexeme rest : Text}
    (h : firstItem c s = ⟨lexeme, .blank, rest⟩) :
    (∀ d ∈ lexeme, isBlank d = true) ∧ lexeme ++ rest = c :: s := by
  obtain ⟨x, hx, -, rfl, hreading, htext⟩ := exists_lexeme_of_firstItem h (by simp)
  obtain ⟨run, rfl⟩ := Lexeme.eq_blank_of_reading hreading
  exact ⟨hx.2, htext⟩

/-- Behind a text without fault and its line feed a run goes on as one that starts there. -/
theorem lexFrom_append_newline {mark here : Position} {a : Text}
    (h : (lexFrom mark here a).error? = none) (b : Text) :
    (lexFrom mark here (a ++ '\n' :: b)).unmarked =
      ((lexFrom mark ((here.after a).past '\n') b).precededBy
        (lexFrom mark here a).tokens).unmarked := by
  induction mark, here, a using lexFrom_induction with
  | nil mark here =>
      rw [lexFrom_nil]
      exact lexFrom_blank (by decide) mark here b
  | blank mark here c a lexeme rest hitem ih =>
      -- The blanks may go on behind the line feed, so they need not be the first item any more.
      obtain ⟨hblanks, htext⟩ := blanks_of_firstItem hitem
      rw [lexFrom_of_blank mark here hitem] at h ⊢
      rw [← htext, List.append_assoc, lexFrom_blanks hblanks, Position.after_append,
        lexFrom_unmarked mark here, ih h]
      exact precededBy_unmarked (lexFrom_unmarked _ _ _ b) _
  | token mark here c a lexeme kind value rest hitem ih =>
      obtain ⟨x, hx, hend, rfl, hreading, htext⟩ := exists_lexeme_of_firstItem hitem (by simp)
      rw [lexFrom_of_token mark here hitem] at h ⊢
      rw [List.cons_append, lexFrom_of_token mark here (firstItem_append_newline hitem b), ← htext,
        Position.after_append]
      have hmark := lexFrom_unmarked here mark (((here.after x.text).after rest).past '\n') b
      rw [← precededBy_unmarked hmark]
      exact precededBy_unmarked (ih h) [_]
  | fault mark here c a lexeme f rest hitem =>
      rw [lexFrom_of_fault mark here hitem] at h
      cases h

theorem tokenize_eq_result (s : Text) : tokenize s = (lexFrom {} {} s).result := by
  simp only [tokenize, Lexer.tokenize, Lexer.run, Lexer.ofText, Lexer.afterRun, List.nil_append,
    LexRun.result]
  cases (lexFrom {} {} s).error? <;> rfl

theorem result_moved (offset : Offset) (run : LexRun) :
    (run.moved offset).result =
      (run.result.map (List.map (Token.moved offset))).mapError (LexError.moved offset) := by
  obtain ⟨tokens, mark, here, rest, error?⟩ := run
  cases error? <;> rfl

theorem result_precededBy (ts : List Token) (run : LexRun) :
    (run.precededBy ts).result = run.result.map (ts ++ ·) := by
  obtain ⟨tokens, mark, here, rest, error?⟩ := run
  cases error? <;> rfl

/-- Behind a text without fault and its line feed a run gives what it gives alone, moved. -/
theorem run_append_newline {a : Text} (h : (lexFrom {} {} a).error? = none) (b : Text) :
    (lexFrom {} {} (a ++ '\n' :: b)).unmarked =
      (((lexFrom {} {} b).moved (.behind a)).precededBy (lexFrom {} {} a).tokens).unmarked := by
  have hrun := lexFrom_append_newline h b
  rw [Position.past_after_start] at hrun
  have hstart : (lexFrom {} (({} : Position).moved (.behind a)) b).unmarked =
      ((lexFrom {} {} b).moved (.behind a)).unmarked :=
    (lexFrom_unmarked _ _ _ b).trans (congrArg LexRun.unmarked (lexFrom_moved (.behind a) {} {} b))
  exact hrun.trans (precededBy_unmarked hstart _)

/-- What is lexed behind a text without fault, on a line of its own, gives the tokens or the error
it gives alone, moved behind the text. -/
theorem tokenize_append_newline {a : Text} {ts : List Token} (ha : tokenize a = .ok ts) (b : Text) :
    tokenize (a ++ '\n' :: b) =
      ((tokenize b).map fun us => ts ++ us.map (Token.moved (.behind a))).mapError
        (LexError.moved (.behind a)) := by
  obtain ⟨herror, rfl⟩ := tokenize_eq_ok_iff.mp ha
  rw [tokenize_eq_result, result_of_unmarked (run_append_newline herror b), result_precededBy,
    result_moved, ← tokenize_eq_result]
  cases tokenize b <;> rfl

theorem LexError.message_moved (offset : Offset) {e : LexError} (h : e.isLocated = true) :
    (e.moved offset).message =
      report (faultText e.fault) (e.place.line + offset.lines) e.place.column := by
  obtain ⟨fault, place⟩ := e
  cases fault with
  | tooManyDigits count => cases h
  | _ => rfl

/-- A text that is put behind one without fault, on a line of its own, is lexed as it is alone. Its
tokens follow those of the first text, or its fault is reported, on moved lines. Also with a fault
the lexer holds the tokens of the first text and those it has of the other, and it stands in front
of the same rest. -/
theorem Lexer.tokenize_line_behind {a : Text} {ts : List Token} (ha : TanSource.tokenize a = .ok ts)
    (b : Text) :
    let offset := Offset.behind a
    let alone := (ofText b).tokenize
    let joined := (ofText (a ++ '\n' :: b)).tokenize
    (∀ us, alone.1 = .ok us → joined.1 = .ok (ts ++ us.map (Token.moved offset))) ∧
    (∀ e, alone.1 = .error e → joined.1 = .error (e.moved offset) ∧
      (e.isLocated = true → (e.moved offset).message =
        LexError.report (LexError.faultText e.fault) (e.place.line + (a.count '\n' + 1))
          e.place.column)) ∧
    joined.2.tokens = ts ++ alone.2.tokens.map (Token.moved offset) ∧
    joined.2.here = alone.2.here.moved offset ∧ joined.2.rest = alone.2.rest := by
  intro offset alone joined
  have hjoined : joined.1 =
      (alone.1.map fun us => ts ++ us.map (Token.moved offset)).mapError (LexError.moved offset) :=
    tokenize_append_newline ha b
  obtain ⟨herror, rfl⟩ := tokenize_eq_ok_iff.mp ha
  have hrun := run_append_newline herror b
  have hholds (s : Text) : (ofText s).tokenize.2 = (ofText s).afterRun (lexFrom {} {} s) :=
    tokenize_snd (ofText s)
  refine ⟨?_, ?_, ?_⟩
  · intro us hus
    rw [hjoined, hus]
    rfl
  · intro e he
    rw [hjoined, he]
    exact ⟨rfl, LexError.message_moved offset⟩
  · have htokens := congrArg LexRun.tokens hrun
    have hhere := congrArg LexRun.here hrun
    have hrest := congrArg LexRun.rest hrun
    simp only [joined, alone, hholds]
    exact ⟨htokens, hhere, hrest⟩

/-- A list that is left open in front of a comment, and a string in front of a mark with nothing
behind it. -/
theorem Lexer.tokenize_line_behind_bareMark :
    TanSource.tokenize "(a ;x".toList = .ok
      [⟨.opening .paren, .absent, ⟨⟨0, 1, 1⟩, ⟨1, 1, 2⟩⟩⟩,
        ⟨.symbol, .text ['a'], ⟨⟨1, 1, 2⟩, ⟨2, 1, 3⟩⟩⟩,
        ⟨.comment, .text [';', 'x'], ⟨⟨3, 1, 4⟩, ⟨5, 1, 6⟩⟩⟩] ∧
    (ofText "(a ;x\n\"s\" # b".toList).tokenize.1 = .error ⟨.emptyAnnot, ⟨10, 2, 5⟩⟩ ∧
    (ofText "(a ;x\n\"s\" # b".toList).tokenize.2.tokens =
      [⟨.opening .paren, .absent, ⟨⟨0, 1, 1⟩, ⟨1, 1, 2⟩⟩⟩,
        ⟨.symbol, .text ['a'], ⟨⟨1, 1, 2⟩, ⟨2, 1, 3⟩⟩⟩,
        ⟨.comment, .text [';', 'x'], ⟨⟨3, 1, 4⟩, ⟨5, 1, 6⟩⟩⟩,
        ⟨.string, .text ['s'], ⟨⟨6, 2, 1⟩, ⟨9, 2, 4⟩⟩⟩] := by
  have ha : TanSource.tokenize "(a ;x".toList = .ok
      [⟨.opening .paren, .absent, ⟨⟨0, 1, 1⟩, ⟨1, 1, 2⟩⟩⟩,
        ⟨.symbol, .text ['a'], ⟨⟨1, 1, 2⟩, ⟨2, 1, 3⟩⟩⟩,
        ⟨.comment, .text [';', 'x'], ⟨⟨3, 1, 4⟩, ⟨5, 1, 6⟩⟩⟩] := by decide +kernel
  have hb : (ofText "\"s\" # b".toList).tokenize.1 = .error ⟨.emptyAnnot, ⟨4, 1, 5⟩⟩ := by
    decide +kernel
  have hheld : (ofText "\"s\" # b".toList).tokenize.2.tokens =
      [⟨.string, .text ['s'], ⟨⟨0, 1, 1⟩, ⟨3, 1, 4⟩⟩⟩] := by decide +kernel
  obtain ⟨-, hfails, htokens, -⟩ := tokenize_line_behind ha "\"s\" # b".toList
  rw [hheld] at htokens
  exact ⟨ha, (hfails _ hb).1, htokens⟩

end TanSource
