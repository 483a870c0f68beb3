import Mathlib.Algebra.Group.Int.Defs
import Mathlib.Algebra.Group.Nat.Defs
import TanSource.Numeral
import TanSource.Proofs.Text.Run

/-!
# The spelling of numerals

A number literal is written down by its parts: an optional minus sign, a digit with digits and
underscores behind it, an optional fraction and an optional exponent. The reading of words as
numerals accepts exactly the texts of such literals (`Numeral.ofWord?_eq_some_iff`), and takes the
underscores out.
-/

namespace TanSource

/-- The exponent of a literal: its letter, an optional sign, which is true for a minus, and digits.
-/
structure ExponentPart where
  upper : Bool
  sign? : Option Bool
  digits : Text
  digits_ne : digits ≠ []
  isDigit_digits : ∀ c ∈ digits, c.isDigit = true

namespace ExponentPart

def letter (e : ExponentPart) : Char :=
  if e.upper then 'E' else 'e'

def signPart (e : ExponentPart) : Text :=
  match e.sign? with
  | none => []
  | some true => ['-']
  | some false => ['+']

def text (e : ExponentPart) : Text :=
  e.letter :: (e.signPart ++ e.digits)

def value (e : ExponentPart) : Int :=
  let magnitude : Int := Nat.ofDigitChars 10 e.digits 0
  if e.sign? = some true then -magnitude else magnitude

end ExponentPart

/-- A number literal by its parts as they are written, underscores included. -/
structure NumberLiteral where
  negative : Bool
  lead : Char
  tail : Text
  fraction? : Option Text
  exponent? : Option ExponentPart
  isDigit_lead : lead.isDigit = true
  isPartChar_tail : ∀ c ∈ tail, Numeral.isPartChar c = true
  fraction_ne : ∀ part ∈ fraction?, part ≠ []
  isPartChar_fraction : ∀ part ∈ fraction?, ∀ c ∈ part, Numeral.isPartChar c = true

def fractionText : Option Text → Text
  | none => []
  | some part => '.' :: part

def exponentText (exponent? : Option ExponentPart) : Text :=
  exponent?.elim [] ExponentPart.text

namespace NumberLiteral

def text (l : NumberLiteral) : Text :=
  signText l.negative ++
    l.lead :: (l.tail ++ (fractionText l.fraction? ++ exponentText l.exponent?))

def numeral (l : NumberLiteral) : Numeral where
  negative := l.negative
  whole := l.lead :: Numeral.partDigits l.tail
  fraction? := l.fraction?.map Numeral.partDigits
  exponent? := l.exponent?.map ExponentPart.value

end NumberLiteral

/-! ## Exponents -/

theorem ExponentPart.letter_eq (e : ExponentPart) : e.letter = 'e' ∨ e.letter = 'E' := by
  unfold letter
  split <;> simp

theorem isDigits_iff {s : Text} : isDigits s = true ↔ s ≠ [] ∧ ∀ c ∈ s, c.isDigit = true := by
  simp [isDigits]

theorem not_isDigit_minus : ('-').isDigit = false := by decide

theorem not_isDigit_plus : ('+').isDigit = false := by decide

theorem splitSign_of_isDigit {c : Char} {s : Text} (hc : c.isDigit = true) :
    splitSign (c :: s) = (false, c :: s) := by
  unfold splitSign
  split
  · next heq =>
      cases heq
      simp [not_isDigit_minus] at hc
  · next heq =>
      cases heq
      simp [not_isDigit_plus] at hc
  · rfl

theorem splitSign_signPart (e : ExponentPart) :
    splitSign (e.signPart ++ e.digits) = (decide (e.sign? = some true), e.digits) := by
  unfold ExponentPart.signPart
  split
  · next hs =>
      obtain ⟨c, s, hdigits⟩ := List.exists_cons_of_ne_nil e.digits_ne
      have hc := e.isDigit_digits c (by simp [hdigits])
      simp [hs, hdigits, splitSign_of_isDigit hc]
  · next hs => simp [hs, splitSign]
  · next hs => simp [hs, splitSign]

theorem signedDigits?_signPart (e : ExponentPart) :
    signedDigits? (e.signPart ++ e.digits) = some e.value := by
  have hdigits := isDigits_iff.mpr ⟨e.digits_ne, e.isDigit_digits⟩
  simp [signedDigits?, splitSign_signPart, hdigits, ExponentPart.value]

theorem readExponent?_text (e : ExponentPart) : readExponent? e.text = some e.value := by
  simp [readExponent?, ExponentPart.text, e.letter_eq, signedDigits?_signPart]

theorem endExponent?_exponentText (exponent? : Option ExponentPart) :
    Numeral.endExponent? (exponentText exponent?) = some (exponent?.map ExponentPart.value) := by
  cases exponent? with
  | none => rfl
  | some e =>
      have h := readExponent?_text e
      simp only [exponentText, Option.elim_some, ExponentPart.text] at h ⊢
      simp [Numeral.endExponent?, h]

theorem exists_exponentPart (upper : Bool) {s : Text} {n : Int} (h : signedDigits? s = some n) :
    ∃ e : ExponentPart, e.upper = upper ∧ e.signPart ++ e.digits = s ∧ e.value = n := by
  unfold signedDigits? splitSign at h
  split at h
  next negative digits heq =>
    split at h
    · next hdigits =>
        obtain ⟨hne, hall⟩ := isDigits_iff.mp hdigits
        split at heq <;> cases heq
        · exact ⟨⟨upper, some true, _, hne, hall⟩, rfl, rfl, by simpa [ExponentPart.value] using h⟩
        · exact ⟨⟨upper, some false, _, hne, hall⟩, rfl, rfl, by simpa [ExponentPart.value] using h⟩
        · exact ⟨⟨upper, none, _, hne, hall⟩, rfl, rfl, by simpa [ExponentPart.value] using h⟩
    · cases h

theorem exists_exponentText {s : Text} {exponent? : Option Int}
    (h : Numeral.endExponent? s = some exponent?) :
    ∃ e? : Option ExponentPart, exponentText e? = s ∧ e?.map ExponentPart.value = exponent? := by
  cases s with
  | nil =>
      cases h
      exact ⟨none, rfl, rfl⟩
  | cons c rest =>
      simp only [Numeral.endExponent?, readExponent?, Option.map_eq_some_iff] at h
      obtain ⟨n, hn, rfl⟩ := h
      split at hn
      · next hc =>
          obtain ⟨e, hupper, hs, hvalue⟩ := exists_exponentPart (decide (c = 'E')) hn
          refine ⟨some e, ?_, by simp [hvalue]⟩
          rcases hc with rfl | rfl
          · simp [exponentText, ExponentPart.text, ExponentPart.letter, hupper, hs]
          · simp [exponentText, ExponentPart.text, ExponentPart.letter, hupper, hs]
      · cases hn

/-! ## Fractions -/

theorem stopsAt_exponentText (exponent? : Option ExponentPart) :
    StopsAt Numeral.isPartChar (exponentText exponent?) := by
  cases exponent? with
  | none => exact stopsAt_nil
  | some e =>
      apply stopsAt_cons.mpr
      rcases e.letter_eq with h | h <;> rw [h] <;> decide

theorem exponentText_ne_point (exponent? : Option ExponentPart) (rest : Text) :
    exponentText exponent? ≠ '.' :: rest := by
  cases exponent? with
  | none => exact (List.cons_ne_nil _ _).symm
  | some e =>
      intro heq
      have hpoint : e.letter = '.' := (List.cons.inj heq).1
      rcases e.letter_eq with hletter | hletter <;> simp [hpoint] at hletter

theorem stopsAt_fractionText_append (fraction? : Option Text) (exponent? : Option ExponentPart) :
    StopsAt Numeral.isPartChar (fractionText fraction? ++ exponentText exponent?) := by
  cases fraction? with
  | none => exact stopsAt_exponentText exponent?
  | some part => exact stopsAt_cons.mpr (by decide)

theorem splitFraction?_fractionText {fraction? : Option Text} (exponent? : Option ExponentPart)
    (hne : ∀ part ∈ fraction?, part ≠ [])
    (hall : ∀ part ∈ fraction?, ∀ c ∈ part, Numeral.isPartChar c = true) :
    Numeral.splitFraction? (fractionText fraction? ++ exponentText exponent?) =
      some (fraction?.map Numeral.partDigits, exponentText exponent?) := by
  cases fraction? with
  | none =>
      simp only [fractionText, List.nil_append, Option.map_none]
      unfold Numeral.splitFraction?
      split
      · next heq => exact absurd heq (exponentText_ne_point exponent? _)
      · rfl
  | some part =>
      have hpart := hall part rfl
      have hstop := stopsAt_exponentText exponent?
      simp [fractionText, Numeral.splitFraction?, takeWhile_run hpart hstop,
        dropWhile_run hpart hstop, hne part rfl]

theorem exists_fractionText {s rest : Text} {fraction? : Option Text}
    (h : Numeral.splitFraction? s = some (fraction?, rest)) :
    ∃ part? : Option Text, fractionText part? ++ rest = s ∧
      part?.map Numeral.partDigits = fraction? ∧ (∀ part ∈ part?, part ≠ []) ∧
      ∀ part ∈ part?, ∀ c ∈ part, Numeral.isPartChar c = true := by
  unfold Numeral.splitFraction? at h
  split at h
  · next tail =>
      dsimp only at h
      split at h
      · cases h
      · next hne =>
          cases h
          refine ⟨some (tail.takeWhile Numeral.isPartChar), ?_, rfl, ?_, ?_⟩
          · simp [fractionText]
          · simpa using hne
          · simpa using forall_mem_takeWhile tail
  · cases h
    exact ⟨none, rfl, rfl, by simp, by simp⟩

/-! ## Words -/

theorem ofUnsigned?_text (l : NumberLiteral) :
    Numeral.ofUnsigned? l.negative
        (l.lead :: (l.tail ++ (fractionText l.fraction? ++ exponentText l.exponent?))) =
      some l.numeral := by
  have hstop := stopsAt_fractionText_append l.fraction? l.exponent?
  have hfraction := splitFraction?_fractionText l.exponent? l.fraction_ne l.isPartChar_fraction
  simp [Numeral.ofUnsigned?, l.isDigit_lead, takeWhile_run l.isPartChar_tail hstop,
    dropWhile_run l.isPartChar_tail hstop, hfraction, endExponent?_exponentText,
    NumberLiteral.numeral]

theorem exists_literal_of_unsigned {negative : Bool} {s : Text} {n : Numeral}
    (h : Numeral.ofUnsigned? negative s = some n) :
    ∃ l : NumberLiteral, l.text = signText negative ++ s ∧ l.numeral = n := by
  cases s with
  | nil => cases h
  | cons c rest =>
      simp only [Numeral.ofUnsigned?, Option.ite_none_right_eq_some] at h
      obtain ⟨hc, h⟩ := h
      simp only [bind, Option.bind_eq_some_iff, pure, Option.some.injEq, Prod.exists] at h
      obtain ⟨fraction?, afterFraction, hfraction, exponent?, hexponent, rfl⟩ := h
      obtain ⟨part?, hpart, rfl, hne, hall⟩ := exists_fractionText hfraction
      obtain ⟨e?, he, rfl⟩ := exists_exponentText hexponent
      refine ⟨⟨negative, c, rest.takeWhile Numeral.isPartChar, part?, e?, hc,
        forall_mem_takeWhile rest, hne, hall⟩, ?_, rfl⟩
      simp [NumberLiteral.text, he, hpart]

/-- A sign is taken off the front of digits. -/
theorem Numeral.ofWord?_signText (negative : Bool) {c : Char} (hc : c.isDigit = true) (s : Text) :
    Numeral.ofWord? (signText negative ++ c :: s) = Numeral.ofUnsigned? negative (c :: s) := by
  cases negative with
  | true => rfl
  | false =>
      have hminus : c ≠ '-' := by
        rintro rfl
        rw [not_isDigit_minus] at hc
        cases hc
      unfold ofWord?
      split
      · next heq => exact absurd (List.cons.inj heq).1 hminus
      · rfl

/-- A word is read as a numeral exactly when it is the text of a literal, and then as the numeral
that the literal is without its underscores. -/
theorem Numeral.ofWord?_eq_some_iff {word : Text} {n : Numeral} :
    Numeral.ofWord? word = some n ↔ ∃ l : NumberLiteral, l.text = word ∧ l.numeral = n := by
  constructor
  · intro h
    unfold ofWord? at h
    split at h <;> exact exists_literal_of_unsigned h
  · rintro ⟨l, rfl, rfl⟩
    rw [NumberLiteral.text, ofWord?_signText l.negative l.isDigit_lead]
    exact ofUnsigned?_text l

theorem NumberLiteral.ofWord?_text (l : NumberLiteral) : Numeral.ofWord? l.text = some l.numeral :=
  Numeral.ofWord?_eq_some_iff.mpr ⟨l, rfl, rfl⟩

theorem NumberLiteral.isInteger_numeral (l : NumberLiteral) :
    l.numeral.isInteger = true ↔ l.fraction? = none ∧ l.exponent? = none := by
  simp [numeral, Numeral.isInteger]

/-! ## Plain digits -/

theorem partDigits_of_isDigit {s : Text} (h : ∀ c ∈ s, c.isDigit = true) :
    Numeral.partDigits s = s := by
  apply List.filter_eq_self.mpr
  intro c hc
  have hne : c ≠ '_' := by
    rintro rfl
    exact absurd (h _ hc) (by decide)
  simpa using hne

theorem isPartChar_of_isDigit {s : Text} (h : ∀ c ∈ s, c.isDigit = true) :
    ∀ c ∈ s, Numeral.isPartChar c = true := by
  intro c hc
  simp [Numeral.isPartChar, h c hc]

theorem isDigit_of_mem_partDigits {part : Text}
    (h : ∀ c ∈ part, Numeral.isPartChar c = true) :
    ∀ c ∈ Numeral.partDigits part, c.isDigit = true := by
  intro c hc
  obtain ⟨hmem, hne⟩ := List.mem_filter.mp hc
  have hpart := h c hmem
  rw [Numeral.isPartChar, Bool.or_eq_true, decide_eq_true_eq] at hpart
  rcases hpart with hdigit | rfl
  · exact hdigit
  · cases hne

theorem NumberLiteral.isDigit_whole (l : NumberLiteral) :
    ∀ c ∈ l.numeral.whole, c.isDigit = true :=
  List.forall_mem_cons.mpr ⟨l.isDigit_lead, isDigit_of_mem_partDigits l.isPartChar_tail⟩

/-- A literal without underscores is read with the parts it is written with. -/
theorem Numeral.ofWord?_digits (negative : Bool) {whole : Text} (fraction? : Option Text)
    (exponent? : Option ExponentPart) (hne : whole ≠ []) (hwhole : ∀ c ∈ whole, c.isDigit = true)
    (hfraction_ne : ∀ part ∈ fraction?, part ≠ [])
    (hfraction : ∀ part ∈ fraction?, ∀ c ∈ part, c.isDigit = true) :
    Numeral.ofWord?
        (signText negative ++ (whole ++ (fractionText fraction? ++ exponentText exponent?))) =
      some ⟨negative, whole, fraction?, exponent?.map ExponentPart.value⟩ := by
  obtain ⟨c, tail, rfl⟩ := List.exists_cons_of_ne_nil hne
  have htail : ∀ d ∈ tail, d.isDigit = true := fun d hd => hwhole d (List.mem_cons_of_mem c hd)
  have hpart : fraction?.map Numeral.partDigits = fraction? := by
    cases fraction? with
    | none => rfl
    | some part => rw [Option.map_some, partDigits_of_isDigit (hfraction part rfl)]
  refine Numeral.ofWord?_eq_some_iff.mpr
    ⟨⟨negative, c, tail, fraction?, exponent?, hwhole c List.mem_cons_self,
      isPartChar_of_isDigit htail, hfraction_ne,
      fun part hp => isPartChar_of_isDigit (hfraction part hp)⟩, rfl, ?_⟩
  simp only [NumberLiteral.numeral, partDigits_of_isDigit htail, hpart]

theorem decimalText_eq (n : Int) :
    decimalText n = signText (decide (n < 0)) ++ Nat.toDigits 10 n.natAbs := by
  by_cases h : n < 0 <;> simp [decimalText, signText, h]

theorem fewDigits_iff {n : Int} : FewDigits n ↔ n.natAbs < 10 ^ integerDigitLimit :=
  Nat.length_toDigits_le_iff (by decide) (by decide)

/-- This is the first integer that has too many digits. -/
theorem not_fewDigits_pow : ¬FewDigits (10 ^ integerDigitLimit) := by
  have hten : Int.natAbs 10 = 10 := rfl
  rw [fewDigits_iff, Int.natAbs_pow, hten]
  exact Nat.lt_irrefl _

theorem isDigit_of_mem_toDigits {n : Nat} : ∀ c ∈ Nat.toDigits 10 n, c.isDigit = true :=
  fun _ hc => Nat.isDigit_of_mem_toDigits (by decide) (by decide) hc

/-- The text of an integer is read as its digits. -/
theorem Numeral.ofWord?_decimalText (n : Int) :
    Numeral.ofWord? (decimalText n) =
      some ⟨decide (n < 0), Nat.toDigits 10 n.natAbs, none, none⟩ := by
  have h := Numeral.ofWord?_digits (decide (n < 0)) none none Nat.toDigits_ne_nil
    (isDigit_of_mem_toDigits (n := n.natAbs)) (by simp) (by simp)
  simpa [decimalText_eq, fractionText, exponentText] using h

theorem Numeral.toInt_toDigits (n : Int) :
    Numeral.toInt ⟨decide (n < 0), Nat.toDigits 10 n.natAbs, none, none⟩ = n := by
  simp only [Numeral.toInt, Nat.ofDigitChars_ten_toDigits]
  by_cases h : n < 0
  · simp only [h, decide_true, if_true]
    omega
  · simp only [h, decide_false, Bool.false_eq_true, if_false]
    omega

end TanSource
