import TanSource.Formatter
import TanSource.Proofs.Lexer.Printed
import TanSource.Proofs.Numeral.Conversion

/-!
# Numbers that are written anew

A number of a text may be written by the formatter, or again without its underscores. What the
formatter writes is lexed to the same number, unless that is infinite: there are no numerals for
infinity (`tokenize_formatExpr_number`). Without underscores a word is the same number, unless its
fraction has no digit: a bare point is no fraction (`tokenize_without_underscores`).
-/

namespace TanSource

/-! ## Words that are lexed alone -/

/-- A lexeme with nothing around it is lexed to the token that it denotes. -/
theorem Lexeme.exists_tokenize {x : Lexeme} {kind : TokenKind} {value : Value} (hx : x.WellFormed)
    (hdenotes : x.Denotes kind value) (hlimit : x.WithinDigitLimit) :
    ∃ t, tokenize x.text = .ok [t] ∧ t.content = (kind, value) := by
  have hlexes : LexesTo (x.text ++ []) [(kind, value)] :=
    .lexeme hx x.endsBefore_nil hdenotes hlimit .nil
  rw [List.append_nil] at hlexes
  obtain ⟨ts, hts, hcontents⟩ := hlexes.tokenize
  obtain ⟨t, rfl, ht⟩ := List.map_eq_singleton_iff.mp hcontents
  exact ⟨t, hts, ht⟩

theorem exists_tokenize_of_readWord {word : Text} {kind : TokenKind} {value : Value}
    (hword : (Lexeme.word word).WellFormed) (h : readWord word = .token kind value) :
    ∃ t, tokenize word = .ok [t] ∧ t.content = (kind, value) := by
  obtain ⟨hdenotes, hlimit⟩ := Lexeme.readWord_eq_token_iff.mp h
  exact Lexeme.exists_tokenize hword hdenotes hlimit

/-- A word that is lexed as one token was read as that token. -/
theorem readWord_of_tokenize {word : Text} {t : Token} (hword : (Lexeme.word word).WellFormed)
    (h : tokenize word = .ok [t]) : readWord word = .token t.kind t.value := by
  obtain ⟨herror, htokens⟩ := tokenize_eq_ok_iff.mp h
  obtain ⟨xs, hsplits, hlimits, hspells⟩ := splits_of_lexFrom herror
  have hsingle : Splits [.word word] (word ++ []) :=
    .cons hword (Lexeme.endsBefore_nil _) .nil
  rw [List.append_nil] at hsingle
  obtain rfl := hsplits.unique hsingle
  rw [htokens] at hspells
  cases hspells with
  | token hdenotes _ =>
      exact Lexeme.readWord_eq_token_iff.mpr ⟨hdenotes, hlimits _ List.mem_cons_self⟩

/-! ## Numbers that the formatter writes -/

namespace Formatter

theorem formatExpr_number {t : Token} (hnumber : t.kind = .int ∨ t.kind = .float) {printed : Text}
    (htext : t.text = .ok printed) (f : Formatter) : f.formatExpr t = (.ok printed, f) := by
  obtain ⟨kind, value, span⟩ := t
  rcases hnumber with rfl | rfl <;>
    simp [formatExpr, FormatSettings.formatToken, resume, htext, Except.mapError]

end Formatter

theorem Lexeme.Denotes.kind_of_float {x : Lexeme} {kind : TokenKind} {y : Binary64}
    (h : x.Denotes kind (.float y)) : kind = .float := by
  generalize hvalue : Value.float y = value at h
  cases h with
  | float l _ => rfl
  | _ => cases hvalue

/-- The name of infinity is a word that is no number. -/
theorem exists_tokenize_infinite (negative : Bool) :
    ∃ t, tokenize (Binary64.infinite negative).text = .ok [t] ∧
      t.content = (.symbol, .text (Binary64.infinite negative).text) := by
  have hword : (Lexeme.word (Binary64.infinite negative).text).WellFormed := by
    cases negative <;> exact ⟨⟨by decide, List.all_eq_true.mp (by decide)⟩, by decide⟩
  have hread : readWord (Binary64.infinite negative).text =
      .token .symbol (.text (Binary64.infinite negative).text) := by
    cases negative <;> decide
  exact exists_tokenize_of_readWord hword hread

/-- The text that is written for a number of a text is lexed to one token. That is the number again
unless the number is infinite, and then it is a symbol. -/
theorem tokenize_formatExpr_number {source : Text} {ts : List Token}
    (hts : tokenize source = .ok ts) {t : Token} (ht : t ∈ ts)
    (hnumber : t.kind = .int ∨ t.kind = .float) (f : Formatter) :
    ∃ printed again, f.formatExpr t = (.ok printed, f) ∧ tokenize printed = .ok [again] ∧
      (again.content = t.content ↔ ∀ negative, t.value ≠ .float (.infinite negative)) ∧
      ∀ negative, t.value = .float (.infinite negative) →
        again.content = (.symbol, .text printed) := by
  obtain ⟨x, hx, hdenotes, hlimit⟩ := exists_lexeme_of_tokenize hts t ht
  by_cases hfinite : ∀ negative, t.value ≠ .float (.infinite negative)
  · obtain ⟨y, hy⟩ := Token.exists_prints hx hdenotes hlimit hfinite
    obtain ⟨again, hagain, hcontent⟩ := Lexeme.exists_tokenize hy.wellFormed hy.denotes hy.limit
    refine ⟨y.text, again, f.formatExpr_number hnumber hy.text, hagain, ?_, ?_⟩
    · exact ⟨fun _ => hfinite, fun _ => hcontent⟩
    · exact fun negative hvalue => absurd hvalue (hfinite negative)
  · obtain ⟨negative, hvalue⟩ : ∃ negative, t.value = .float (.infinite negative) := by
      simpa only [not_forall, not_not] using hfinite
    have hkind : t.kind = .float := (hvalue ▸ hdenotes).kind_of_float
    have htext : t.text = .ok (Binary64.infinite negative).text := by
      rw [Token.text, hkind, hvalue]
      rfl
    obtain ⟨again, hagain, hcontent⟩ := exists_tokenize_infinite negative
    refine ⟨_, again, f.formatExpr_number hnumber htext, hagain, ?_, fun _ _ => hcontent⟩
    refine ⟨fun hsame => ?_, fun h => absurd hvalue (h negative)⟩
    rw [hcontent, Token.content, hkind] at hsame
    cases hsame

/-- A number that is written in another way than it was read. -/
def thousand : Token :=
  ⟨.float, .float (Decimal.toBinary64 false ⟨1, 3⟩), ⟨⟨3, 1, 4⟩, ⟨6, 1, 7⟩⟩⟩

theorem tokenize_formatExpr_number_thousand :
    tokenize "-0 1e3".toList = .ok [⟨.int, .int 0, ⟨⟨0, 1, 1⟩, ⟨2, 1, 3⟩⟩⟩, thousand] ∧
      ∃ again, ((Formatter.ofTokens {} []).formatExpr thousand).1 = .ok "1000.0".toList ∧
        tokenize "1000.0".toList = .ok [again] ∧ again.content = thousand.content := by
  have hts : tokenize "-0 1e3".toList =
      .ok [⟨.int, .int 0, ⟨⟨0, 1, 1⟩, ⟨2, 1, 3⟩⟩⟩, thousand] := by decide +kernel
  have hwritten : ((Formatter.ofTokens {} []).formatExpr thousand).1 = .ok "1000.0".toList := by
    decide +kernel
  have hfinite : ∀ negative, thousand.value ≠ .float (.infinite negative) := by
    intro negative
    cases negative <;> decide +kernel
  have hmem : thousand ∈ [⟨.int, .int 0, ⟨⟨0, 1, 1⟩, ⟨2, 1, 3⟩⟩⟩, thousand] := by simp
  obtain ⟨printed, again, hprinted, hagain, hsame, -⟩ :=
    tokenize_formatExpr_number hts hmem (Or.inr rfl) (Formatter.ofTokens {} [])
  rw [hprinted] at hwritten
  cases hwritten
  exact ⟨hts, again, congrArg Prod.fst hprinted, hagain, hsame.mpr hfinite⟩

/-- A number beyond the range is written as a word that is no number. -/
theorem tokenize_formatExpr_beyondRange :
    ∃ t again, tokenize "1e999".toList = .ok [t] ∧ t.kind = .float ∧
      ((Formatter.ofTokens {} []).formatExpr t).1 = .ok "inf".toList ∧
      tokenize "inf".toList = .ok [again] ∧ again.kind = .symbol := by
  refine ⟨⟨.float, .float (.infinite false), ⟨⟨0, 1, 1⟩, ⟨5, 1, 6⟩⟩⟩,
    ⟨.symbol, .text "inf".toList, ⟨⟨0, 1, 1⟩, ⟨3, 1, 4⟩⟩⟩, ?_, rfl, ?_, ?_, rfl⟩
  · decide +kernel
  · decide +kernel
  · decide +kernel

/-! ## Numbers without underscores -/

namespace NumberLiteral

/-- The literal has a point with nothing but underscores behind it. -/
def HasBareFraction (l : NumberLiteral) : Prop :=
  ∃ part ∈ l.fraction?, ∀ c ∈ part, c = '_'

variable (l : NumberLiteral)

theorem hasBareFraction_iff : l.HasBareFraction ↔ l.numeral.fraction? = some [] := by
  simp [HasBareFraction, numeral, Numeral.partDigits]

/-- Without its underscores a literal is a word still. -/
theorem wellFormed_partDigits : (Lexeme.word (Numeral.partDigits l.text)).WellFormed := by
  refine ⟨⟨?_, fun c hc => isSymbolChar_of_mem_text (List.mem_filter.mp hc).1⟩, ?_⟩
  · simp [l.partDigits_text, numeral]
  · rw [l.partDigits_text]
    exact head?_signText_ne l.negative l.isDigit_lead _

/-- A literal with a digit in its fraction, if it has one, is the same numeral without its
underscores. -/
theorem ofWord?_partDigits (h : ¬l.HasBareFraction) :
    Numeral.ofWord? (Numeral.partDigits l.text) = some l.numeral := by
  have hne : ∀ part ∈ l.numeral.fraction?, part ≠ [] := by
    rintro part hpart rfl
    exact h (l.hasBareFraction_iff.mpr hpart)
  rw [l.partDigits_text]
  exact Numeral.ofWord?_digits l.negative l.numeral.fraction? l.exponent? (List.cons_ne_nil _ _)
    l.isDigit_whole hne l.isDigit_fraction

/-- A point with no digit behind it makes no numeral. -/
theorem ofWord?_partDigits_of_bare (h : l.HasBareFraction) :
    Numeral.ofWord? (Numeral.partDigits l.text) = none := by
  have htail := isPartChar_of_isDigit (isDigit_of_mem_partDigits l.isPartChar_tail)
  have hpoint : StopsAt Numeral.isPartChar ('.' :: exponentText l.exponent?) :=
    stopsAt_cons.mpr (by decide)
  have hbare : (exponentText l.exponent?).takeWhile Numeral.isPartChar = [] :=
    takeWhile_run (List.forall_mem_nil _) (stopsAt_exponentText l.exponent?)
  have htext : Numeral.partDigits l.text = signText l.negative ++
      l.lead :: (Numeral.partDigits l.tail ++ '.' :: exponentText l.exponent?) := by
    rw [l.partDigits_text, trail, l.hasBareFraction_iff.mp h]
    rfl
  rw [htext, Numeral.ofWord?_signText l.negative l.isDigit_lead]
  simp [Numeral.ofUnsigned?, Numeral.splitFraction?, dropWhile_run htail hpoint, hbare]

end NumberLiteral

theorem exists_literal_of_readWord {word : Text} {kind : TokenKind} {value : Value}
    (h : readWord word = .token kind value) (hnumber : kind = .int ∨ kind = .float) :
    ∃ l : NumberLiteral, l.text = word := by
  obtain ⟨hdenotes, -⟩ := Lexeme.readWord_eq_token_iff.mp h
  cases hdenotes with
  | int l _ _ => exact ⟨l, rfl⟩
  | float l _ => exact ⟨l, rfl⟩
  | symbol _ => simp at hnumber

/-- A word that is lexed as a number is lexed as one token without its underscores. That is the
number again unless there is a point with nothing but underscores behind it, and then it is a
symbol. -/
theorem tokenize_without_underscores {word : Text} (hword : (Lexeme.word word).WellFormed)
    {t : Token} (ht : tokenize word = .ok [t]) (hnumber : t.kind = .int ∨ t.kind = .float) :
    ∃ (l : NumberLiteral) (plain : Token), l.text = word ∧
      tokenize (word.filter (· ≠ '_')) = .ok [plain] ∧
      (plain.content = t.content ↔ ¬l.HasBareFraction) ∧
      (l.HasBareFraction → plain.content = (.symbol, .text (word.filter (· ≠ '_')))) := by
  have hread := readWord_of_tokenize hword ht
  obtain ⟨l, rfl⟩ := exists_literal_of_readWord hread hnumber
  by_cases hbare : l.HasBareFraction
  · have hplain : readWord (Numeral.partDigits l.text) =
        .token .symbol (.text (Numeral.partDigits l.text)) := by
      rw [readWord, l.ofWord?_partDigits_of_bare hbare]
    obtain ⟨plain, htokenize, hcontent⟩ :=
      exists_tokenize_of_readWord l.wellFormed_partDigits hplain
    refine ⟨l, plain, rfl, htokenize, ⟨fun hsame => ?_, fun h => absurd hbare h⟩,
      fun _ => hcontent⟩
    have hkind : t.kind = .symbol := (congrArg Prod.fst (hsame.symm.trans hcontent) :)
    rw [hkind] at hnumber
    simp at hnumber
  · have hplain : readWord (Numeral.partDigits l.text) = .token t.kind t.value := by
      rw [← hread, readWord, readWord, l.ofWord?_text, l.ofWord?_partDigits hbare]
    obtain ⟨plain, htokenize, hcontent⟩ :=
      exists_tokenize_of_readWord l.wellFormed_partDigits hplain
    exact ⟨l, plain, rfl, htokenize, ⟨fun _ => hbare, fun _ => hcontent⟩,
      fun h => absurd h hbare⟩

/-- Underscores in the whole part and in the fraction. -/
theorem tokenize_without_underscores_exponent :
    ∃ t plain, tokenize "-1_0._5_e+1".toList = .ok [t] ∧ t.kind = .float ∧
      tokenize "-10.5e+1".toList = .ok [plain] ∧ plain.content = t.content := by
  have hword : (Lexeme.word "-1_0._5_e+1".toList).WellFormed :=
    ⟨⟨by decide, List.all_eq_true.mp (by decide)⟩, by decide⟩
  have ht : tokenize "-1_0._5_e+1".toList = .ok [⟨.float,
      .float (Decimal.toBinary64 true ⟨105, 0⟩), ⟨⟨0, 1, 1⟩, ⟨11, 1, 12⟩⟩⟩] := by decide +kernel
  obtain ⟨l, plain, hl, hplain, hsame, -⟩ := tokenize_without_underscores hword ht (Or.inr rfl)
  have hdigits : ¬l.HasBareFraction := by
    have hread := l.ofWord?_text
    rw [hl] at hread
    have hnumeral : Numeral.ofWord? "-1_0._5_e+1".toList =
        some ⟨true, ['1', '0'], some ['5'], some 1⟩ := by decide
    rw [l.hasBareFraction_iff, ← Option.some.inj (hnumeral.symm.trans hread)]
    decide
  exact ⟨_, plain, ht, rfl, hplain, hsame.mpr hdigits⟩

/-- A word with an underscore for its fraction is a number, and no number without it. -/
theorem tokenize_without_underscores_barePoint :
    ∃ t plain, tokenize "1._".toList = .ok [t] ∧ t.kind = .float ∧
      "1._".toList.filter (· ≠ '_') = "1.".toList ∧
      tokenize "1.".toList = .ok [plain] ∧ plain.kind = .symbol := by
  refine ⟨⟨.float, .float (Decimal.toBinary64 false ⟨1, 0⟩), ⟨⟨0, 1, 1⟩, ⟨3, 1, 4⟩⟩⟩,
    ⟨.symbol, .text "1.".toList, ⟨⟨0, 1, 1⟩, ⟨2, 1, 3⟩⟩⟩, ?_, rfl, by decide, ?_, rfl⟩
  · decide +kernel
  · decide +kernel

end TanSource
