import TanSource.Proofs.Lexer.Splitting

/-!
# Kinds and values of the tokens of a text

What a text denotes apart from places: blanks may be put in front of it, and a lexeme that ends
before it. The lexer gives tokens of these kinds and values (`LexesTo.tokenize`).
-/

namespace TanSource

def Token.content (t : Token) : TokenKind × Value :=
  (t.kind, t.value)

inductive LexesTo : Text → List (TokenKind × Value) → Prop
  | nil : LexesTo [] []
  | blank {c : Char} {s : Text} {contents : List (TokenKind × Value)} (hc : isBlank c = true)
      (hs : LexesTo s contents) : LexesTo (c :: s) contents
  | lexeme {x : Lexeme} {kind : TokenKind} {value : Value} {s : Text}
      {contents : List (TokenKind × Value)} (hx : x.WellFormed) (hend : x.EndsBefore s)
      (hdenotes : x.Denotes kind value) (hlimit : x.WithinDigitLimit) (hs : LexesTo s contents) :
      LexesTo (x.text ++ s) ((kind, value) :: contents)

theorem LexesTo.blanks {run s : Text} {contents : List (TokenKind × Value)}
    (hrun : ∀ c ∈ run, isBlank c = true) (hs : LexesTo s contents) :
    LexesTo (run ++ s) contents := by
  induction run with
  | nil => exact hs
  | cons c run ih =>
      obtain ⟨hc, hrun⟩ := List.forall_mem_cons.mp hrun
      exact .blank hc (ih hrun)

theorem Lexeme.stopsAt_blank {x : Lexeme} (hx : x.WellFormed) (hne : ∀ s, x ≠ .blank s)
    (rest : Text) : StopsAt isBlank (x.text ++ rest) := by
  cases x with
  | blank s => exact absurd rfl (hne s)
  | delimiter d => exact stopsAt_cons.mpr (isBlank_delimiter d)
  | word s =>
      obtain ⟨c, s, rfl⟩ := List.exists_cons_of_ne_nil hx.1.ne_nil
      have hc := hx.1.all_symbol c List.mem_cons_self
      exact stopsAt_cons.mpr (isSymbolChar_iff.mp hc).1
  | _ => exact stopsAt_cons.mpr (by decide)

/-- The tokens of the lexemes of a text have these kinds and values, wherever the text starts. -/
def HasContents (xs : List Lexeme) (contents : List (TokenKind × Value)) : Prop :=
  ∀ here, ∃ ts, Spells here xs ts ∧ ts.map Token.content = contents

/-- A blank in front of a text is a lexeme of its own or part of the first one. -/
theorem exists_splits_blank {c : Char} {s : Text} {xs : List Lexeme}
    {contents : List (TokenKind × Value)} (hc : isBlank c = true) (hsplits : Splits xs s)
    (hlimits : ∀ x ∈ xs, x.WithinDigitLimit) (hcontents : HasContents xs contents) :
    ∃ ys, Splits ys (c :: s) ∧ (∀ y ∈ ys, y.WithinDigitLimit) ∧ HasContents ys contents := by
  have hlimit (run : Text) := Lexeme.withinDigitLimit_of_not_word (x := .blank run) (by simp)
  have hsingle (hstop : StopsAt isBlank s) :
      ∃ ys, Splits ys (c :: s) ∧ (∀ y ∈ ys, y.WithinDigitLimit) ∧ HasContents ys contents := by
    refine ⟨.blank [c] :: xs, .cons ⟨by simp, by simpa using hc⟩ hstop hsplits, ?_, ?_⟩
    · exact List.forall_mem_cons.mpr ⟨hlimit [c], hlimits⟩
    · intro here
      obtain ⟨ts, hspells, hmap⟩ := hcontents (here.after [c])
      exact ⟨ts, .blank hspells, hmap⟩
  cases hsplits with
  | nil => exact hsingle stopsAt_nil
  | @cons x xs rest hx hend hxs =>
      by_cases hblank : ∃ run, x = .blank run
      · obtain ⟨run, rfl⟩ := hblank
        have hrun : ∀ d ∈ c :: run, isBlank d = true := List.forall_mem_cons.mpr ⟨hc, hx.2⟩
        refine ⟨.blank (c :: run) :: xs, .cons ⟨by simp, hrun⟩ hend hxs, ?_, ?_⟩
        · exact List.forall_mem_cons.mpr ⟨hlimit _, (List.forall_mem_cons.mp hlimits).2⟩
        · intro here
          obtain ⟨ts, hspells, hmap⟩ := hcontents (here.past c)
          cases hspells with
          | blank hspells => exact ⟨ts, .blank hspells, hmap⟩
          | token hdenotes _ => cases hdenotes
      · have hne : ∀ run, x ≠ .blank run := fun run h => hblank ⟨run, h⟩
        exact hsingle (Lexeme.stopsAt_blank hx hne rest)

theorem LexesTo.exists_splits {s : Text} {contents : List (TokenKind × Value)}
    (h : LexesTo s contents) :
    ∃ xs, Splits xs s ∧ (∀ x ∈ xs, x.WithinDigitLimit) ∧ HasContents xs contents := by
  induction h with
  | nil => exact ⟨[], .nil, by simp, fun _ => ⟨[], .nil, rfl⟩⟩
  | blank hc _ ih =>
      obtain ⟨xs, hsplits, hlimits, hcontents⟩ := ih
      exact exists_splits_blank hc hsplits hlimits hcontents
  | @lexeme x kind value s contents hx hend hdenotes hlimit _ ih =>
      obtain ⟨xs, hsplits, hlimits, hcontents⟩ := ih
      refine ⟨x :: xs, .cons hx hend hsplits, List.forall_mem_cons.mpr ⟨hlimit, hlimits⟩, ?_⟩
      intro here
      obtain ⟨ts, hspells, hmap⟩ := hcontents (here.after x.text)
      exact ⟨_, .token hdenotes hspells, by rw [List.map_cons, hmap]; rfl⟩

theorem LexesTo.tokenize {s : Text} {contents : List (TokenKind × Value)}
    (h : LexesTo s contents) : ∃ ts, tokenize s = .ok ts ∧ ts.map Token.content = contents := by
  obtain ⟨xs, hsplits, hlimits, hcontents⟩ := h.exists_splits
  obtain ⟨ts, hspells, hmap⟩ := hcontents {}
  exact ⟨ts, tokenize_eq_ok_iff.mpr (lexFrom_of_splits hsplits hlimits {} hspells), hmap⟩

/-! ## Tokens that were lexed -/

/-- Every token of a row of lexemes is denoted by one of them. -/
theorem Spells.exists_lexeme {here : Position} {xs : List Lexeme} {ts : List Token}
    (h : Spells here xs ts) :
    ∀ t ∈ ts, ∃ x ∈ xs, x.Denotes t.kind t.value := by
  induction h with
  | nil => simp
  | blank _ ih =>
      intro t ht
      obtain ⟨x, hx, hdenotes⟩ := ih t ht
      exact ⟨x, List.mem_cons_of_mem _ hx, hdenotes⟩
  | @token here x kind value xs ts hx _ ih =>
      refine List.forall_mem_cons.mpr ⟨⟨x, List.mem_cons_self, hx⟩, ?_⟩
      intro t ht
      obtain ⟨x, hx, hdenotes⟩ := ih t ht
      exact ⟨x, List.mem_cons_of_mem _ hx, hdenotes⟩

theorem Splits.wellFormed {xs : List Lexeme} {s : Text} (h : Splits xs s) :
    ∀ x ∈ xs, x.WellFormed := by
  induction h with
  | nil => simp
  | cons hx _ _ ih => exact List.forall_mem_cons.mpr ⟨hx, ih⟩

theorem exists_lexeme_of_tokenize {s : Text} {ts : List Token} (h : tokenize s = .ok ts) :
    ∀ t ∈ ts, ∃ x : Lexeme, x.WellFormed ∧ x.Denotes t.kind t.value ∧ x.WithinDigitLimit := by
  obtain ⟨herror, rfl⟩ := tokenize_eq_ok_iff.mp h
  obtain ⟨xs, hsplits, hlimits, hspells⟩ := splits_of_lexFrom herror
  intro t ht
  obtain ⟨x, hx, hdenotes⟩ := hspells.exists_lexeme t ht
  exact ⟨x, hsplits.wellFormed x hx, hdenotes, hlimits x hx⟩

end TanSource
