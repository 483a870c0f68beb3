import TanSource.Lexer
import TanSource.Proofs.Lexer.Lexeme

/-!
# Splitting a text into lexemes

A text is a row of lexemes in one way at most, and the lexer gives the tokens of that row, each with
the stretch of text that its lexeme takes up (`tokenize_eq_ok_iff_splits`).
-/

namespace TanSource

/-- The text is the row of lexemes, each of which ends before the text behind it. -/
inductive Splits : List Lexeme → Text → Prop
  | nil : Splits [] []
  | cons {x : Lexeme} {xs : List Lexeme} {rest : Text} (hx : x.WellFormed)
      (hend : x.EndsBefore rest) (hxs : Splits xs rest) : Splits (x :: xs) (x.text ++ rest)

/-- The tokens of a row of lexemes that starts at a place: none for blanks, and for every other
lexeme the one that it denotes, from the place where the lexeme starts to the place behind it. -/
inductive Spells : Position → List Lexeme → List Token → Prop
  | nil {here : Position} : Spells here [] []
  | blank {here : Position} {s : Text} {xs : List Lexeme} {ts : List Token}
      (hxs : Spells (here.after s) xs ts) : Spells here (.blank s :: xs) ts
  | token {here : Position} {x : Lexeme} {kind : TokenKind} {value : Value} {xs : List Lexeme}
      {ts : List Token} (hx : x.Denotes kind value) (hxs : Spells (here.after x.text) xs ts) :
      Spells here (x :: xs) (⟨kind, value, ⟨here, here.after x.text⟩⟩ :: ts)

theorem Splits.flatMap_text {xs : List Lexeme} {s : Text} (h : Splits xs s) :
    xs.flatMap Lexeme.text = s := by
  induction h with
  | nil => rfl
  | cons hx hend hxs ih => rw [List.flatMap_cons, ih]

theorem lexeme_unique {x y : Lexeme} {rest rest' : Text} (hx : x.WellFormed) (hy : y.WellFormed)
    (hxend : x.EndsBefore rest) (hyend : y.EndsBefore rest')
    (h : x.text ++ rest = y.text ++ rest') : x = y ∧ rest = rest' := by
  obtain ⟨c, s, hs⟩ := List.exists_cons_of_ne_nil (Lexeme.text_ne_nil hx)
  have htext : x.text ++ rest = c :: (s ++ rest) := by rw [hs, List.cons_append]
  have hitem := firstItem_of_wellFormed hx hxend htext
  rw [firstItem_of_wellFormed hy hyend (h ▸ htext)] at hitem
  injection hitem with hlexeme _ hrest
  exact ⟨Lexeme.text_inj hx hy hlexeme.symm, hrest.symm⟩

theorem Splits.unique {xs ys : List Lexeme} {s : Text} (hxs : Splits xs s) (hys : Splits ys s) :
    xs = ys := by
  induction hxs generalizing ys with
  | nil =>
      generalize hs : ([] : Text) = s at hys
      cases hys with
      | nil => rfl
      | cons hy _ _ => exact absurd (List.append_eq_nil_iff.mp hs.symm).1 (Lexeme.text_ne_nil hy)
  | @cons x xs rest hx hend _ ih =>
      generalize hs : x.text ++ rest = s at hys
      cases hys with
      | nil => exact absurd (List.append_eq_nil_iff.mp hs).1 (Lexeme.text_ne_nil hx)
      | cons hy hyend hys =>
          obtain ⟨rfl, rfl⟩ := lexeme_unique hx hy hend hyend hs
          rw [ih hys]

/-! ## Runs of the lexer -/

theorem lexFrom_nil (mark here : Position) : lexFrom mark here [] = ⟨[], mark, here, [], none⟩ := by
  rw [lexFrom]

theorem lexFrom_of_blank {c : Char} {s lexeme rest : Text} (mark here : Position)
    (h : firstItem c s = ⟨lexeme, .blank, rest⟩) :
    lexFrom mark here (c :: s) = lexFrom here (here.after lexeme) rest := by
  rw [lexFrom, h]

theorem lexFrom_of_token {c : Char} {s lexeme rest : Text} {kind : TokenKind} {value : Value}
    (mark here : Position) (h : firstItem c s = ⟨lexeme, .token kind value, rest⟩) :
    lexFrom mark here (c :: s) =
      { lexFrom here (here.after lexeme) rest with
        tokens := ⟨kind, value, ⟨here, here.after lexeme⟩⟩ ::
          (lexFrom here (here.after lexeme) rest).tokens } := by
  rw [lexFrom, h]

theorem lexFrom_of_fault {c : Char} {s lexeme rest : Text} {f : LexFault} (mark here : Position)
    (h : firstItem c s = ⟨lexeme, .fault f, rest⟩) :
    lexFrom mark here (c :: s) = ⟨[], here, here.after lexeme, rest, some ⟨f, here⟩⟩ := by
  rw [lexFrom, h]

theorem tokenize_eq_ok_iff {s : Text} {ts : List Token} :
    tokenize s = .ok ts ↔ (lexFrom {} {} s).error? = none ∧ (lexFrom {} {} s).tokens = ts := by
  simp only [tokenize, Lexer.tokenize, Lexer.run, Lexer.ofText, Lexer.afterRun, List.nil_append]
  cases h : (lexFrom {} {} s).error? with
  | none => simp
  | some e => simp

theorem tokenize_eq_error_iff {s : Text} {e : LexError} :
    tokenize s = .error e ↔ (lexFrom {} {} s).error? = some e := by
  simp only [tokenize, Lexer.tokenize, Lexer.run, Lexer.ofText, Lexer.afterRun, List.nil_append]
  cases h : (lexFrom {} {} s).error? with
  | none => simp
  | some e => simp

theorem readWord_ne_blank (s : Text) : readWord s ≠ .blank := by
  unfold readWord
  split
  · simp
  · split
    · split <;> simp
    · simp

theorem Lexeme.eq_blank_of_reading {x : Lexeme} (h : x.reading = .blank) : ∃ s, x = .blank s := by
  cases x with
  | blank s => exact ⟨s, rfl⟩
  | word s => exact absurd h (readWord_ne_blank s)
  | _ => cases h

/-- A run takes one item after the other off the text. -/
@[elab_as_elim]
theorem lexFrom_induction {motive : Position → Position → Text → Prop}
    (nil : ∀ mark here, motive mark here [])
    (blank : ∀ mark here c s lexeme rest, firstItem c s = ⟨lexeme, .blank, rest⟩ →
      motive here (here.after lexeme) rest → motive mark here (c :: s))
    (token : ∀ mark here c s lexeme kind value rest,
      firstItem c s = ⟨lexeme, .token kind value, rest⟩ →
      motive here (here.after lexeme) rest → motive mark here (c :: s))
    (fault : ∀ mark here c s lexeme f rest, firstItem c s = ⟨lexeme, .fault f, rest⟩ →
      motive mark here (c :: s))
    (mark here : Position) (s : Text) : motive mark here s := by
  -- An item leaves a shorter text, which need not be the tail: the induction is on the length.
  induction hn : s.length using Nat.strong_induction_on generalizing mark here s with
  | _ n ih =>
      subst hn
      cases s with
      | nil => exact nil mark here
      | cons c s =>
          have hshort := length_firstItem_rest c s
          rcases hitem : firstItem c s with ⟨lexeme, reading, rest⟩
          rw [hitem] at hshort
          have hrest := ih _ hshort here (here.after lexeme) rest rfl
          cases reading with
          | blank => exact blank mark here c s lexeme rest hitem hrest
          | token kind value => exact token mark here c s lexeme kind value rest hitem hrest
          | fault f => exact fault mark here c s lexeme f rest hitem

/-- An item that is read is a lexeme with which the rest does not go on. -/
theorem exists_lexeme_of_firstItem {c : Char} {s lexeme rest : Text} {reading : Reading}
    (h : firstItem c s = ⟨lexeme, reading, rest⟩) (hread : ∀ f, reading ≠ .fault f) :
    ∃ x : Lexeme, x.WellFormed ∧ x.EndsBefore rest ∧ x.text = lexeme ∧ x.reading = reading ∧
      x.text ++ rest = c :: s := by
  have htext := firstItem_append c s
  rcases firstItem_cases c s with ⟨x, rest', hx, hend, hitem⟩ | ⟨_, _, f, hitem, -⟩
  · rw [h] at hitem htext
    injection hitem with hlexeme hreading hrest
    subst hlexeme hreading hrest
    exact ⟨x, hx, hend, rfl, rfl, htext⟩
  · rw [h] at hitem
    injection hitem with _ hreading _
    exact absurd hreading (hread f)

/-- A text that the lexer reads to its end is a row of lexemes, and the tokens are theirs. -/
theorem splits_of_lexFrom {mark here : Position} {s : Text}
    (h : (lexFrom mark here s).error? = none) :
    ∃ xs, Splits xs s ∧ (∀ x ∈ xs, x.WithinDigitLimit) ∧
      Spells here xs (lexFrom mark here s).tokens := by
  induction mark, here, s using lexFrom_induction with
  | nil mark here =>
      rw [lexFrom_nil]
      exact ⟨[], .nil, by simp, .nil⟩
  | blank mark here c s lexeme rest hitem ih =>
      obtain ⟨x, hx, hend, rfl, hreading, htext⟩ := exists_lexeme_of_firstItem hitem (by simp)
      rw [lexFrom_of_blank mark here hitem] at h ⊢
      obtain ⟨xs, hsplits, hwithin, hspells⟩ := ih h
      obtain ⟨t, rfl⟩ := Lexeme.eq_blank_of_reading hreading
      refine ⟨.blank t :: xs, htext ▸ .cons hx hend hsplits, ?_, .blank hspells⟩
      have hblank := Lexeme.withinDigitLimit_of_not_word (x := .blank t) (by simp)
      simpa [hblank] using hwithin
  | token mark here c s lexeme kind value rest hitem ih =>
      obtain ⟨x, hx, hend, rfl, hreading, htext⟩ := exists_lexeme_of_firstItem hitem (by simp)
      rw [lexFrom_of_token mark here hitem] at h ⊢
      obtain ⟨xs, hsplits, hwithin, hspells⟩ := ih h
      obtain ⟨hdenotes, hlimit⟩ := Lexeme.reading_eq_token_iff.mp hreading
      refine ⟨x :: xs, htext ▸ .cons hx hend hsplits, ?_, .token hdenotes hspells⟩
      simpa [hlimit] using hwithin
  | fault mark here c s lexeme f rest hitem =>
      rw [lexFrom_of_fault mark here hitem] at h
      cases h

theorem lexFrom_of_splits {xs : List Lexeme} {s : Text} (hsplits : Splits xs s)
    (hwithin : ∀ x ∈ xs, x.WithinDigitLimit) (mark : Position) {here : Position} {ts : List Token}
    (hspells : Spells here xs ts) :
    (lexFrom mark here s).error? = none ∧ (lexFrom mark here s).tokens = ts := by
  induction hsplits generalizing mark here ts with
  | nil =>
      cases hspells
      rw [lexFrom_nil]
      exact ⟨rfl, rfl⟩
  | @cons x xs rest hx hend _ ih =>
      obtain ⟨hlimit, hlimits⟩ := List.forall_mem_cons.mp hwithin
      obtain ⟨c, s, hs⟩ := List.exists_cons_of_ne_nil (Lexeme.text_ne_nil hx)
      have htext : x.text ++ rest = c :: (s ++ rest) := by rw [hs, List.cons_append]
      have hitem := firstItem_of_wellFormed hx hend htext
      rw [htext]
      cases hspells with
      | blank hspells =>
          rw [lexFrom_of_blank mark here hitem]
          exact ih hlimits here hspells
      | token hdenotes hspells =>
          rw [Lexeme.reading_eq_token_iff.mpr ⟨hdenotes, hlimit⟩] at hitem
          rw [lexFrom_of_token mark here hitem]
          obtain ⟨herror, htokens⟩ := ih hlimits here hspells
          exact ⟨herror, by rw [htokens]⟩

/-- The lexer accepts the texts that are rows of lexemes whose integers can be converted, and gives
the tokens of the row. A text is such a row in one way at most, the row has all of its characters,
and a lexeme denotes one token at most. -/
theorem tokenize_eq_ok_iff_splits (s : Text) :
    (∀ ts, tokenize s = .ok ts ↔
      ∃ xs, Splits xs s ∧ (∀ x ∈ xs, x.WithinDigitLimit) ∧ Spells {} xs ts) ∧
    (∀ xs ys, Splits xs s → Splits ys s → xs = ys) ∧
    (∀ xs, Splits xs s → xs.flatMap Lexeme.text = s) ∧
    (∀ (x : Lexeme) (kind kind' : TokenKind) (value value' : Value),
      x.Denotes kind value → x.Denotes kind' value' → kind = kind' ∧ value = value') := by
  refine ⟨?_, fun _ _ => Splits.unique, fun _ => Splits.flatMap_text,
    fun _ _ _ _ _ => Lexeme.denotes_unique⟩
  intro ts
  rw [tokenize_eq_ok_iff]
  constructor
  · rintro ⟨herror, rfl⟩
    exact splits_of_lexFrom herror
  · rintro ⟨xs, hsplits, hwithin, hspells⟩
    exact lexFrom_of_splits hsplits hwithin {} hspells

end TanSource
