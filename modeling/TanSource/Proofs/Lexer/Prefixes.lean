import TanSource.Proofs.Lexer.Places

/-!
# Texts that are cut off

Where an item ends is decided by its own characters and the one behind it, and an item that ends in
front of some character also ends where the text does. So the lexer reads a text that is cut off
behind a token as it read the whole, and one that is cut off in front of a fault gives the tokens
that the lexer held when it met the fault (`tokenize_take`).
-/

namespace TanSource

/-! ## Items at the end of a text -/

/-- A lexeme that ends before a text also ends before the front of that text. -/
theorem Lexeme.EndsBefore.of_append {x : Lexeme} {front back : Text}
    (h : x.EndsBefore (front ++ back)) : x.EndsBefore front := by
  cases front with
  | nil => exact x.endsBefore_nil
  | cons c front =>
      cases x with
      | annot body => exact fun hword => stopsAt_cons.mpr (stopsAt_cons.mp (h hword))
      | blank s | comment body | word s => exact stopsAt_cons.mpr (stopsAt_cons.mp h)
      | _ => trivial

section

variable {c : Char} {s lexeme front back : Text}

/-- An item that is read is the first one still when the text behind it is cut off somewhere. -/
theorem firstItem_of_front {reading : Reading}
    (h : firstItem c s = ⟨lexeme, reading, front ++ back⟩) (hread : ∀ f, reading ≠ .fault f) :
    ∃ s', lexeme ++ front = c :: s' ∧ firstItem c s' = ⟨lexeme, reading, front⟩ := by
  obtain ⟨x, hx, hend, rfl, rfl, htext⟩ := exists_lexeme_of_firstItem h hread
  obtain ⟨d, tail, hd⟩ := List.exists_cons_of_ne_nil (Lexeme.text_ne_nil hx)
  rw [hd] at htext
  obtain ⟨rfl, -⟩ := List.cons.inj htext
  have hfront : x.text ++ front = d :: (tail ++ front) := by rw [hd, List.cons_append]
  exact ⟨tail ++ front, hfront, firstItem_of_wellFormed hx hend.of_append hfront⟩

theorem lexFrom_front_of_blank (mark here : Position)
    (h : firstItem c s = ⟨lexeme, .blank, front ++ back⟩) :
    lexFrom mark here (lexeme ++ front) = lexFrom here (here.after lexeme) front := by
  obtain ⟨s', hs, hitem⟩ := firstItem_of_front h (by simp)
  rw [hs, lexFrom_of_blank mark here hitem]

theorem lexFrom_front_of_token {kind : TokenKind} {value : Value} (mark here : Position)
    (h : firstItem c s = ⟨lexeme, .token kind value, front ++ back⟩) :
    lexFrom mark here (lexeme ++ front) =
      { lexFrom here (here.after lexeme) front with
        tokens := ⟨kind, value, ⟨here, here.after lexeme⟩⟩ ::
          (lexFrom here (here.after lexeme) front).tokens } := by
  obtain ⟨s', hs, hitem⟩ := firstItem_of_front h (by simp)
  rw [hs, lexFrom_of_token mark here hitem]

end

/-! ## Reading the front of a text -/

/-- From a place on, the items in front of the rest are read, and they give the tokens. -/
inductive ReadsTo : Position → Text → List Token → Position → Text → Prop
  | here {p : Position} {s : Text} : ReadsTo p s [] p s
  | blank {p q : Position} {c : Char} {s lexeme rest back : Text} {ts : List Token}
      (hitem : firstItem c s = ⟨lexeme, .blank, rest⟩)
      (hrest : ReadsTo (p.after lexeme) rest ts q back) : ReadsTo p (c :: s) ts q back
  | token {p q : Position} {c : Char} {s lexeme rest back : Text} {kind : TokenKind}
      {value : Value} {ts : List Token} (hitem : firstItem c s = ⟨lexeme, .token kind value, rest⟩)
      (hrest : ReadsTo (p.after lexeme) rest ts q back) :
      ReadsTo p (c :: s) (⟨kind, value, ⟨p, p.after lexeme⟩⟩ :: ts) q back

/-- Items are cut off where they were when the rest behind them is missing. -/
theorem ReadsTo.exists_front {p q : Position} {s back : Text} {ts : List Token}
    (h : ReadsTo p s ts q back) : ∃ front, front ++ back = s ∧ q = p.after front ∧
      ∀ mark, (lexFrom mark p front).error? = none ∧ (lexFrom mark p front).tokens = ts := by
  induction h with
  | @here p s => exact ⟨[], rfl, rfl, fun mark => by rw [lexFrom_nil]; exact ⟨rfl, rfl⟩⟩
  | @blank p q c s lexeme rest back ts hitem _ ih =>
      obtain ⟨front, rfl, rfl, hfront⟩ := ih
      have htext := firstItem_append c s
      rw [hitem, ← List.append_assoc] at htext
      refine ⟨lexeme ++ front, htext, (p.after_append lexeme front).symm, ?_⟩
      intro mark
      rw [lexFrom_front_of_blank mark p hitem]
      exact hfront p
  | @token p q c s lexeme rest back kind value ts hitem _ ih =>
      obtain ⟨front, rfl, rfl, hfront⟩ := ih
      have htext := firstItem_append c s
      rw [hitem, ← List.append_assoc] at htext
      refine ⟨lexeme ++ front, htext, (p.after_append lexeme front).symm, ?_⟩
      intro mark
      obtain ⟨herror, htokens⟩ := hfront p
      rw [lexFrom_front_of_token mark p hitem, htokens]
      exact ⟨herror, rfl⟩

section

variable {mark here : Position} {s : Text}

/-- A run reads the items up to the end of each of its tokens. -/
theorem readsTo_of_tokens {ts us : List Token} {t : Token}
    (h : (lexFrom mark here s).tokens = ts ++ t :: us) :
    ∃ back, ReadsTo here s (ts ++ [t]) t.span.stop back := by
  have hne : ts ++ t :: us ≠ [] := by simp
  induction mark, here, s using lexFrom_induction generalizing ts with
  | nil mark here =>
      rw [lexFrom_nil] at h
      exact absurd h.symm hne
  | blank mark here c s lexeme rest hitem ih =>
      rw [lexFrom_of_blank mark here hitem] at h
      obtain ⟨back, hback⟩ := ih h hne
      exact ⟨back, .blank hitem hback⟩
  | token mark here c s lexeme kind value rest hitem ih =>
      rw [lexFrom_of_token mark here hitem] at h
      cases ts with
      | nil =>
          obtain ⟨rfl, -⟩ := List.cons.inj h
          exact ⟨rest, .token hitem .here⟩
      | cons u ts =>
          obtain ⟨rfl, htokens⟩ := List.cons.inj h
          obtain ⟨back, hback⟩ := ih htokens (by simp)
          exact ⟨back, .token hitem hback⟩
  | fault mark here c s lexeme f rest hitem =>
      rw [lexFrom_of_fault mark here hitem] at h
      exact absurd h.symm hne

/-- A run that meets a fault has read the items up to the one that is at fault. -/
theorem readsTo_of_error {e : LexError} (h : (lexFrom mark here s).error? = some e) :
    ∃ c back lexeme rest, ReadsTo here s (lexFrom mark here s).tokens e.place (c :: back) ∧
      firstItem c back = ⟨lexeme, .fault e.fault, rest⟩ := by
  induction mark, here, s using lexFrom_induction with
  | nil mark here =>
      rw [lexFrom_nil] at h
      cases h
  | blank mark here c s lexeme rest hitem ih =>
      rw [lexFrom_of_blank mark here hitem] at h ⊢
      obtain ⟨d, back, lexeme', rest', hback, hfault⟩ := ih h
      exact ⟨d, back, lexeme', rest', .blank hitem hback, hfault⟩
  | token mark here c s lexeme kind value rest hitem ih =>
      rw [lexFrom_of_token mark here hitem] at h ⊢
      obtain ⟨d, back, lexeme', rest', hback, hfault⟩ := ih h
      exact ⟨d, back, lexeme', rest', .token hitem hback, hfault⟩
  | fault mark here c s lexeme f rest hitem =>
      rw [lexFrom_of_fault mark here hitem] at h ⊢
      cases h
      exact ⟨c, s, lexeme, rest, .here, hitem⟩

end

/-! ## What a fault is about -/

/-- The text begins with what the fault is about: a double quote without one that ends the string, a
mark in front of a group without end, or a mark in front of neither a group nor a word. -/
inductive LexFault.Begins : LexFault → Text → Prop
  | unterminatedString {s : Text} (hs : ∀ body rest, StringBody body → s ≠ body ++ '"' :: rest) :
      Begins .unterminatedString ('"' :: s)
  | unterminatedAnnot {s : Text} (hs : ∀ body rest, IsGroup ('(' :: body) → s ≠ body ++ rest) :
      Begins .unterminatedAnnot ('#' :: '(' :: s)
  | emptyAnnot {s : Text} (hgroup : s.head? ≠ some '(') (hword : StopsAt isSymbolChar s) :
      Begins .emptyAnnot ('#' :: s)

theorem LexFault.Begins.head? {f : LexFault} {s : Text} (h : f.Begins s) :
    s.head? = some '"' ∨ s.head? = some '#' := by
  cases h <;> simp

theorem stopsAt_of_takeWhile_eq_nil {p : Char → Bool} {s : Text} (h : s.takeWhile p = []) :
    StopsAt p s := by
  rw [← List.takeWhile_append_dropWhile (p := p) (l := s), h, List.nil_append]
  exact stopsAt_dropWhile s

theorem exists_tooManyDigits_of_readWord {s : Text} {f : LexFault} (h : readWord s = .fault f) :
    ∃ count, f = .tooManyDigits count ∧ integerDigitLimit < count := by
  unfold readWord at h
  split at h
  · cases h
  · split at h
    · split at h
      · next hcount =>
          cases h
          exact ⟨_, rfl, hcount⟩
      · cases h
    · cases h

theorem begins_of_firstItem {c : Char} {s lexeme rest : Text} {f : LexFault}
    (h : firstItem c s = ⟨lexeme, .fault f, rest⟩) :
    f.Begins (c :: s) ∨ ∃ count, f = .tooManyDigits count ∧ integerDigitLimit < count := by
  have hreading := congrArg Item.reading h
  rcases char_cases c with hc | rfl | ⟨d, rfl⟩ | rfl | rfl | rfl | ⟨hc, hmark⟩
  · rw [firstItem_blank hc] at hreading
    cases hreading
  · rw [firstItem_comment] at hreading
    cases hreading
  · rw [firstItem_delimiter] at hreading
    cases hreading
  · cases hsplit : splitString? s with
    | some pair =>
        rw [firstItem_string_of_some hsplit] at hreading
        cases hreading
    | none =>
        rw [firstItem_string_of_none hsplit] at hreading
        cases hreading
        refine Or.inl (.unterminatedString ?_)
        rintro body rest hbody rfl
        rw [splitString?_append hbody] at hsplit
        cases hsplit
  · rw [firstItem_quote] at hreading
    cases hreading
  · by_cases hparen : s.head? = some '('
    · obtain ⟨s, rfl⟩ := List.head?_eq_some_iff.mp hparen
      cases hsplit : splitGroup? 0 s with
      | some pair =>
          rw [firstItem_group_of_some hsplit] at hreading
          cases hreading
      | none =>
          rw [firstItem_group_of_none hsplit] at hreading
          cases hreading
          refine Or.inl (.unterminatedAnnot ?_)
          intro body rest hgroup hs
          rw [splitGroup?_eq_some_iff.mpr ⟨hgroup, hs⟩] at hsplit
          cases hsplit
    · rw [firstItem_annot_of_head_ne hparen] at hreading
      dsimp only at hreading
      split at hreading
      · next hword =>
          cases hreading
          exact Or.inl (.emptyAnnot hparen (stopsAt_of_takeWhile_eq_nil hword))
      · cases hreading
  · rw [firstItem_word hc hmark] at hreading
    exact Or.inr (exists_tooManyDigits_of_readWord hreading)

/-! ## Cutting a text -/

namespace Lexer

theorem tokens_tokenize (s : Text) :
    (ofText s).tokenize.2.tokens = (lexFrom {} {} s).tokens :=
  congrArg Lexer.tokens (tokenize_snd (ofText s))

/-- A text that is cut off behind a token gives the tokens up to that one, also if the lexer met a
fault in what is cut off. A fault is reported at the double quote or the mark that begins what it is
about; the tokens that the lexer holds lie in front of that character, and they are those of the
text up to it. -/
theorem tokenize_take (s : Text) :
    let run := (ofText s).tokenize
    (∀ ts t us, run.2.tokens = ts ++ t :: us →
      TanSource.tokenize (s.take t.span.stop.index) = .ok (ts ++ [t])) ∧
    ∀ e, run.1 = .error e → e.isLocated = true →
      let i := e.place.index
      e.place.CountedIn s ∧ (s[i]? = some '"' ∨ s[i]? = some '#') ∧ e.fault.Begins (s.drop i) ∧
      (∀ t ∈ run.2.tokens, t.span.stop.index ≤ i) ∧
      TanSource.tokenize (s.take i) = .ok run.2.tokens := by
  intro run
  have hheld : run.2.tokens = (lexFrom {} {} s).tokens := tokens_tokenize s
  rw [hheld]
  constructor
  · intro ts t us htokens
    obtain ⟨back, hback⟩ := readsTo_of_tokens htokens
    obtain ⟨front, rfl, hstop, hfront⟩ := hback.exists_front
    have hindex : t.span.stop.index = front.length := by rw [hstop]; simp
    rw [hindex, List.take_left]
    exact tokenize_eq_ok_iff.mpr (hfront {})
  · intro e he hlocated i
    obtain ⟨c, back, lexeme, rest, hback, hitem⟩ := readsTo_of_error (tokenize_eq_error_iff.mp he)
    obtain ⟨front, hs, hplace, hfront⟩ := hback.exists_front
    have hi : i = front.length := by simp [i, hplace]
    have htake : s.take i = front := by rw [hi, ← hs, List.take_left]
    have hdrop : s.drop i = c :: back := by rw [hi, ← hs, List.drop_left]
    have hbegins : e.fault.Begins (c :: back) := by
      refine (begins_of_firstItem hitem).resolve_right ?_
      rintro ⟨count, hcount, -⟩
      rw [LexError.isLocated, hcount] at hlocated
      cases hlocated
    have hwithin : e.place.Within s := ⟨c :: back, front, hs, hplace⟩
    have hstart : ({} : Position).InFrontOf front front := ⟨[], rfl, rfl⟩
    have hcovers := lexFrom_covers hstart hstart.within (Nat.le_refl _)
    rw [hdrop, htake]
    refine ⟨hwithin.countedIn, ?_, hbegins, ?_, tokenize_eq_ok_iff.mpr (hfront {})⟩
    · rw [← List.head?_drop, hdrop]
      exact hbegins.head?
    · intro t ht
      rw [← (hfront {}).2] at ht
      rw [hi]
      exact (hcovers.tokens.within t ht).2.index_le

end Lexer

end TanSource
