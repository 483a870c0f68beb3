import TanSource.Formatter.Pass
import TanSource.Proofs.Binary64.ReadingBack
import TanSource.Proofs.Lexer.Contents

/-!
# The text of a token is a lexeme

The formatter writes a token that was lexed as a lexeme that denotes the token again. It need not be
the lexeme that the token was read from: a number is written in one way whatever its literal was.
-/

namespace TanSource

/-! ## Characters of literals -/

theorem isSymbolChar_of_isDigit {c : Char} (hc : c.isDigit = true) : isSymbolChar c = true := by
  rcases char_cases c with hblank | rfl | ⟨d, rfl⟩ | rfl | rfl | rfl | ⟨hsymbol, -⟩
  · have hrange : 48 ≤ c.toNat ∧ c.toNat ≤ 57 := Char.isDigit_iff_toNat.mp hc
    obtain ⟨range, hmem, hlow, hhigh⟩ := CodeRanges.holds_iff.mp hblank
    simp only [blankRanges, List.mem_cons, List.not_mem_nil, or_false] at hmem
    rcases hmem with rfl | rfl | rfl | rfl | rfl | rfl | rfl | rfl | rfl | rfl <;> omega
  · cases hc
  · rcases d with family | family <;> cases family <;> cases hc
  · cases hc
  · cases hc
  · cases hc
  · exact hsymbol

theorem isSymbolChar_of_isPartChar {c : Char} (hc : Numeral.isPartChar c = true) :
    isSymbolChar c = true := by
  rw [Numeral.isPartChar, Bool.or_eq_true, decide_eq_true_eq] at hc
  rcases hc with hdigit | rfl
  · exact isSymbolChar_of_isDigit hdigit
  · decide

theorem isSymbolChar_of_mem_exponentText {exponent? : Option ExponentPart} {c : Char}
    (hc : c ∈ exponentText exponent?) : isSymbolChar c = true := by
  cases exponent? with
  | none => cases hc
  | some e =>
      have hmem : c = e.letter ∨ c ∈ e.signPart ∨ c ∈ e.digits := by
        simpa [exponentText, ExponentPart.text] using hc
      rcases hmem with rfl | hsign | hdigit
      · rcases e.letter_eq with hletter | hletter <;> rw [hletter] <;> decide
      · unfold ExponentPart.signPart at hsign
        split at hsign
        · cases hsign
        · obtain rfl := List.mem_singleton.mp hsign
          decide
        · obtain rfl := List.mem_singleton.mp hsign
          decide
      · exact isSymbolChar_of_isDigit (e.isDigit_digits c hdigit)

theorem NumberLiteral.isSymbolChar_of_mem_text {l : NumberLiteral} {c : Char} (hc : c ∈ l.text) :
    isSymbolChar c = true := by
  simp only [text, List.mem_append, List.mem_cons] at hc
  rcases hc with hsign | rfl | htail | hfraction | hexponent
  · unfold signText at hsign
    split at hsign
    · obtain rfl := List.mem_singleton.mp hsign
      decide
    · cases hsign
  · exact isSymbolChar_of_isDigit l.isDigit_lead
  · exact isSymbolChar_of_isPartChar (l.isPartChar_tail c htail)
  · cases hpart : l.fraction? with
    | none =>
        rw [hpart] at hfraction
        cases hfraction
    | some part =>
        rw [hpart, fractionText, List.mem_cons] at hfraction
        rcases hfraction with rfl | hmem
        · decide
        · exact isSymbolChar_of_isPartChar (l.isPartChar_fraction part hpart c hmem)
  · exact isSymbolChar_of_mem_exponentText hexponent

/-- A digit with or without a sign in front begins no annotation. -/
theorem head?_signText_ne (negative : Bool) {c : Char} (hc : c.isDigit = true) (s : Text) :
    (signText negative ++ c :: s).head? ≠ some '#' := by
  intro hhead
  cases negative with
  | true => cases hhead
  | false =>
      obtain rfl : c = '#' := Option.some.inj hhead
      cases hc

theorem NumberLiteral.wellFormed_text (l : NumberLiteral) : (Lexeme.word l.text).WellFormed :=
  ⟨⟨by simp [text], fun _ => isSymbolChar_of_mem_text⟩,
    head?_signText_ne l.negative l.isDigit_lead _⟩

/-! ## Digits within the limit -/

theorem ofDigitChars_lt {s : Text} (h : ∀ c ∈ s, c.isDigit = true) :
    Nat.ofDigitChars 10 s 0 < 10 ^ s.length := by
  induction s with
  | nil => simp
  | cons c s ih =>
      obtain ⟨hc, hs⟩ := List.forall_mem_cons.mp h
      have hdigit : 48 ≤ c.toNat ∧ c.toNat ≤ 57 := Char.isDigit_iff_toNat.mp hc
      have hlt := ih hs
      rw [Nat.ofDigitChars_cons, Nat.ofDigitChars_eq_ofDigitChars_zero, List.length_cons,
        Nat.pow_succ]
      have hle : 10 ^ s.length * (10 * 0 + (c.toNat - '0'.toNat)) ≤ 10 ^ s.length * 9 := by
        apply Nat.mul_le_mul_left
        show 10 * 0 + (c.toNat - 48) ≤ 9
        omega
      omega

/-- An integer is written with no more digits than it was read from. -/
theorem length_toDigits_ofDigitChars_le {s : Text} (hne : s ≠ [])
    (h : ∀ c ∈ s, c.isDigit = true) :
    (Nat.toDigits 10 (Nat.ofDigitChars 10 s 0)).length ≤ s.length :=
  (Nat.length_toDigits_le_iff (by decide) (List.length_pos_iff.mpr hne)).mpr (ofDigitChars_lt h)

theorem Numeral.natAbs_toInt (n : Numeral) : n.toInt.natAbs = Nat.ofDigitChars 10 n.whole 0 := by
  unfold toInt
  split <;> simp

/-- The integer of a literal is written with no more digits than the literal has. -/
theorem NumberLiteral.length_toDigits_toInt_le (l : NumberLiteral) :
    (Nat.toDigits 10 l.numeral.toInt.natAbs).length ≤ l.numeral.whole.length := by
  rw [Numeral.natAbs_toInt]
  exact length_toDigits_ofDigitChars_le (List.cons_ne_nil _ _) l.isDigit_whole

/-! ## Tokens -/

/-- The formatter writes the token as the lexeme, which denotes the token. -/
structure Token.Prints (t : Token) (x : Lexeme) : Prop where
  text : t.text = .ok x.text
  wellFormed : x.WellFormed
  denotes : x.Denotes t.kind t.value
  limit : x.WithinDigitLimit

theorem wellFormed_of_ofWord? {s : Text} {n : Numeral} (h : Numeral.ofWord? s = some n) :
    (Lexeme.word s).WellFormed := by
  obtain ⟨l, rfl, -⟩ := Numeral.ofWord?_eq_some_iff.mp h
  exact l.wellFormed_text

theorem prints_int {n : Int} {span : Span} (h : FewDigits n) :
    Token.Prints ⟨.int, .int n, span⟩ (.word (decimalText n)) := by
  have hread := Numeral.ofWord?_decimalText n
  have hwritten : Message.written [.number n] = .ok (decimalText n) :=
    (Message.written_number n).trans (intText_of_fewDigits h)
  refine ⟨hwritten, wellFormed_of_ofWord? hread, ?_, ?_⟩
  · rw [Lexeme.denotes_word_iff]
    exact Or.inr ⟨_, hread, Or.inl ⟨rfl, rfl, by rw [Numeral.toInt_toDigits]⟩⟩
  · rw [Lexeme.withinDigitLimit_word_iff]
    intro m hm _
    rw [hread] at hm
    cases hm
    exact h

theorem prints_float {x : Binary64} {span : Span} (hx : x.isFinite = true) :
    Token.Prints ⟨.float, .float x, span⟩ (.word x.text) := by
  obtain ⟨n, hread, hinteger, rfl⟩ := Binary64.ofWord?_text hx
  refine ⟨rfl, wellFormed_of_ofWord? hread, ?_, ?_⟩
  · rw [Lexeme.denotes_word_iff]
    exact Or.inr ⟨n, hread, Or.inr ⟨hinteger, rfl, rfl⟩⟩
  · rw [Lexeme.withinDigitLimit_word_iff]
    intro m hm hinteger'
    rw [hread] at hm
    cases hm
    rw [hinteger] at hinteger'
    cases hinteger'

theorem Decimal.toBinary64_ne_nan (negative : Bool) (d : Decimal) :
    d.toBinary64 negative ≠ .nan := by
  unfold toBinary64 Binary64.ofMagnitude?
  split <;> simp

/-- What a lexeme denotes is written as a lexeme that denotes it, unless it is infinite. -/
theorem Token.exists_prints {t : Token} {x : Lexeme} (hx : x.WellFormed)
    (hdenotes : x.Denotes t.kind t.value) (hlimit : x.WithinDigitLimit)
    (hfinite : ∀ negative, t.value ≠ .float (.infinite negative)) : ∃ y, t.Prints y := by
  obtain ⟨kind, value, span⟩ := t
  cases hdenotes with
  | comment =>
      refine ⟨_, ?_, hx, .comment, hlimit⟩
      exact Message.written_text _
  | delimiter => exact ⟨_, rfl, hx, .delimiter, hlimit⟩
  | quote => exact ⟨_, rfl, hx, .quote, hlimit⟩
  | string =>
      refine ⟨_, ?_, hx, .string, hlimit⟩
      simp only [Token.text, Value.printed, Message.written_text]
      rfl
  | annot =>
      refine ⟨_, ?_, hx, .annot, hlimit⟩
      simp only [Token.text, Value.printed, Message.written_text]
      rfl
  | symbol hs =>
      refine ⟨_, ?_, hx, .symbol hs, hlimit⟩
      exact Message.written_text _
  | int l hfraction hexponent =>
      exact ⟨_, prints_int (Nat.le_trans l.length_toDigits_toInt_le
        (hlimit l rfl hfraction hexponent))⟩
  | float l hpart =>
      refine ⟨_, prints_float ?_⟩
      cases hvalue : l.numeral.toBinary64 with
      | finite negative magnitude => rfl
      | infinite negative => exact absurd (congrArg Value.float hvalue) (hfinite negative)
      | nan => exact absurd hvalue (Decimal.toBinary64_ne_nan _ _)

end TanSource
