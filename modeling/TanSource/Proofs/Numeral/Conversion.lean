import TanSource.Proofs.Numeral.Literal

/-!
# Numerals as numbers in free text

A word that is a numeral can be converted by the readers of numbers in free text as well, once its
underscores are taken out. They accept every such text and give the number that the parts of the
numeral denote, but for an integer with too many digits (`convertNumber_of_numeral`).
-/

namespace TanSource

inductive ConversionFault
  | malformed
  | tooManyDigits (count : Nat)
  deriving DecidableEq

/-- Converts a text as a number in free text: to a floating point number if it has a point or the
letter of an exponent, and to an integer otherwise. -/
def convertNumber (s : Text) : Except ConversionFault (TokenKind × Value) :=
  if s.any (· ∈ ['.', 'e', 'E']) then
    match Binary64.ofText? s with
    | some x => .ok (.float, .float x)
    | none => .error .malformed
  else
    match readInt? s with
    | some n => .ok (.int, .int n)
    | none =>
        let count := (splitSign s).2.length
        .error (if integerDigitLimit < count then .tooManyDigits count else .malformed)

/-! ## Plain texts -/

/-- The readers of numbers change nothing at such a character. -/
def IsPlainChar (c : Char) : Prop :=
  isNumberMargin c = false ∧ plainDigit c = c ∧ c ≠ '_'

instance (c : Char) : Decidable (IsPlainChar c) :=
  inferInstanceAs (Decidable (_ ∧ _))

theorem isPlainChar_of_isDigit {c : Char} (hc : c.isDigit = true) : IsPlainChar c := by
  have hall : ∀ n < 58, 48 ≤ n → IsPlainChar (Char.ofNat n) := by decide +kernel
  obtain ⟨hlow, hhigh⟩ := Char.isDigit_iff_toNat.mp hc
  have hplain := hall c.toNat (Nat.lt_succ_of_le hhigh) hlow
  rwa [Char.ofNat_toNat] at hplain

section

variable {s : Text}

theorem trimNumber_of_plain (hs : ∀ c ∈ s, IsPlainChar c) : trimNumber s = s := by
  have hkept (t : Text) (ht : ∀ c ∈ t, IsPlainChar c) : t.dropWhile isNumberMargin = t := by
    cases t with
    | nil => rfl
    | cons c t => exact List.dropWhile_cons_of_neg (by simp [(ht c List.mem_cons_self).1])
  rw [trimNumber, hkept s hs, hkept s.reverse fun c hc => hs c (List.mem_reverse.mp hc),
    List.reverse_reverse]

theorem dropSeparators?_of_plain (hs : ∀ c ∈ s, IsPlainChar c) (afterDigit : Bool) :
    dropSeparators? afterDigit s = some s := by
  induction s generalizing afterDigit with
  | nil => rfl
  | cons c s ih =>
      obtain ⟨⟨-, -, hc⟩, hs⟩ := List.forall_mem_cons.mp hs
      unfold dropSeparators?
      split
      · next heq => cases heq
      · next heq => exact absurd (List.cons.inj heq).1 hc
      · next heq =>
          obtain ⟨rfl, rfl⟩ := List.cons.inj heq
          rw [ih hs]
          rfl

theorem plainNumber?_of_plain (hs : ∀ c ∈ s, IsPlainChar c) : plainNumber? s = some s := by
  have hmap : s.map plainDigit = s := (List.map_congr_left fun c hc => (hs c hc).2.1).trans s.map_id
  rw [plainNumber?, trimNumber_of_plain hs, hmap, dropSeparators?_of_plain hs]

theorem partDigits_of_plain (hs : ∀ c ∈ s, IsPlainChar c) : Numeral.partDigits s = s :=
  List.filter_eq_self.mpr fun c hc => decide_eq_true (hs c hc).2.2

theorem partDigits_append (s t : Text) :
    Numeral.partDigits (s ++ t) = Numeral.partDigits s ++ Numeral.partDigits t :=
  List.filter_append s t

end

theorem isPlainChar_of_mem_signText (negative : Bool) : ∀ c ∈ signText negative, IsPlainChar c := by
  cases negative with
  | false => exact List.forall_mem_nil _
  | true => exact List.forall_mem_singleton.mpr (by decide)

theorem ExponentPart.isPlainChar_of_mem_text (e : ExponentPart) : ∀ c ∈ e.text, IsPlainChar c := by
  have hsign : ∀ c ∈ e.signPart, IsPlainChar c := by
    unfold signPart
    split
    · exact List.forall_mem_nil _
    · exact List.forall_mem_singleton.mpr (by decide)
    · exact List.forall_mem_singleton.mpr (by decide)
  refine List.forall_mem_cons.mpr ⟨?_, List.forall_mem_append.mpr ⟨hsign, ?_⟩⟩
  · rcases e.letter_eq with hletter | hletter <;> rw [hletter] <;> decide
  · exact fun c hc => isPlainChar_of_isDigit (e.isDigit_digits c hc)

theorem isPlainChar_of_mem_exponentText (exponent? : Option ExponentPart) :
    ∀ c ∈ exponentText exponent?, IsPlainChar c := by
  cases exponent? with
  | none => simp [exponentText]
  | some e => exact e.isPlainChar_of_mem_text

/-! ## The digits of a literal -/

namespace NumberLiteral

variable (l : NumberLiteral)

theorem isDigit_fraction : ∀ part ∈ l.numeral.fraction?, ∀ c ∈ part, c.isDigit = true := by
  intro part hpart
  obtain ⟨written, hwritten, rfl⟩ := Option.map_eq_some_iff.mp hpart
  exact isDigit_of_mem_partDigits (l.isPartChar_fraction written hwritten)

/-- What stands behind the whole part of a literal without its underscores. -/
def trail : Text :=
  fractionText l.numeral.fraction? ++ exponentText l.exponent?

theorem partDigits_fractionText :
    Numeral.partDigits (fractionText l.fraction?) = fractionText l.numeral.fraction? := by
  cases hpart : l.fraction? with
  | none => simp [numeral, hpart, fractionText, Numeral.partDigits]
  | some part => simp [numeral, hpart, fractionText, Numeral.partDigits]

theorem partDigits_text :
    Numeral.partDigits l.text = signText l.negative ++ (l.numeral.whole ++ l.trail) := by
  have hlead : Numeral.partDigits [l.lead] = [l.lead] :=
    partDigits_of_isDigit (List.forall_mem_singleton.mpr l.isDigit_lead)
  rw [text, ← List.singleton_append, partDigits_append, partDigits_append, partDigits_append,
    partDigits_append, partDigits_of_plain (isPlainChar_of_mem_signText l.negative), hlead,
    partDigits_fractionText, partDigits_of_plain (isPlainChar_of_mem_exponentText l.exponent?)]
  rfl

theorem isPlainChar_partDigits : ∀ c ∈ Numeral.partDigits l.text, IsPlainChar c := by
  have hwhole : ∀ c ∈ l.numeral.whole, IsPlainChar c :=
    fun c hc => isPlainChar_of_isDigit (l.isDigit_whole c hc)
  have hfraction : ∀ c ∈ fractionText l.numeral.fraction?, IsPlainChar c := by
    cases hpart : l.numeral.fraction? with
    | none => simp [fractionText]
    | some part =>
        refine List.forall_mem_cons.mpr ⟨by decide, ?_⟩
        exact fun c hc => isPlainChar_of_isDigit (l.isDigit_fraction part hpart c hc)
  rw [partDigits_text]
  exact List.forall_mem_append.mpr ⟨isPlainChar_of_mem_signText l.negative,
    List.forall_mem_append.mpr ⟨hwhole,
      List.forall_mem_append.mpr ⟨hfraction, isPlainChar_of_mem_exponentText l.exponent?⟩⟩⟩

theorem splitSign_partDigits :
    splitSign (Numeral.partDigits l.text) = (l.negative, l.numeral.whole ++ l.trail) := by
  rw [partDigits_text]
  cases l.negative with
  | true => rfl
  | false => exact splitSign_of_isDigit l.isDigit_lead

/-! ## Integers -/

theorem trail_of_isInteger (hinteger : l.numeral.isInteger = true) : l.trail = [] := by
  obtain ⟨hfraction, hexponent⟩ := l.isInteger_numeral.mp hinteger
  simp [trail, numeral, hfraction, hexponent, fractionText, exponentText]

/-- A literal without fraction and exponent is read as an integer, unless it is too long. -/
theorem readInt?_partDigits (hinteger : l.numeral.isInteger = true) :
    readInt? (Numeral.partDigits l.text) =
      if integerDigitLimit < l.numeral.whole.length then none else some l.numeral.toInt := by
  have hsplit := l.splitSign_partDigits
  rw [l.trail_of_isInteger hinteger, List.append_nil] at hsplit
  have hdigits : isDigits l.numeral.whole = true :=
    isDigits_iff.mpr ⟨List.cons_ne_nil _ _, l.isDigit_whole⟩
  have hsigned : signedDigits? (Numeral.partDigits l.text) = some l.numeral.toInt := by
    simp only [signedDigits?, hsplit, hdigits, if_true]
    rfl
  simp only [readInt?, plainNumber?_of_plain l.isPlainChar_partDigits, bind, Option.bind_some,
    hsplit, hsigned]

/-! ## Floating point numbers -/

theorem stopsAt_exponentText_isDigit (exponent? : Option ExponentPart) :
    StopsAt Char.isDigit (exponentText exponent?) := by
  cases exponent? with
  | none => exact stopsAt_nil
  | some e =>
      apply stopsAt_cons.mpr
      rcases e.letter_eq with h | h <;> rw [h] <;> decide

theorem stopsAt_trail : StopsAt Char.isDigit l.trail := by
  unfold trail
  cases l.numeral.fraction? with
  | none => exact stopsAt_exponentText_isDigit l.exponent?
  | some part => exact stopsAt_cons.mpr (by decide)

theorem readExponent?_exponentText :
    readExponent? (exponentText l.exponent?) = some (l.numeral.exponent?.getD 0) := by
  unfold numeral
  cases l.exponent? with
  | none => rfl
  | some e => exact readExponent?_text e

theorem readDecimal?_digits : readDecimal? (l.numeral.whole ++ l.trail) =
    some (Decimal.ofDigits l.numeral.whole (l.numeral.fraction?.getD [])
      (l.numeral.exponent?.getD 0)) := by
  have hne : l.numeral.whole ≠ [] := List.cons_ne_nil _ _
  simp only [readDecimal?, takeWhile_run l.isDigit_whole l.stopsAt_trail,
    dropWhile_run l.isDigit_whole l.stopsAt_trail, hne, false_and, if_false]
  cases hpart : l.numeral.fraction? with
  | none =>
      have htrail : l.trail = exponentText l.exponent? := by
        simp [trail, hpart, fractionText]
      rw [htrail]
      split
      · next rest heq => exact absurd heq (exponentText_ne_point l.exponent? rest)
      · simp [l.readExponent?_exponentText]
  | some part =>
      have hdigits := l.isDigit_fraction part hpart
      have hstop := stopsAt_exponentText_isDigit l.exponent?
      simp [trail, hpart, fractionText, takeWhile_run hdigits hstop, dropWhile_run hdigits hstop,
        l.readExponent?_exponentText]

theorem ofText?_partDigits :
    Binary64.ofText? (Numeral.partDigits l.text) = some l.numeral.toBinary64 := by
  simp only [Binary64.ofText?, plainNumber?_of_plain l.isPlainChar_partDigits, bind,
    Option.bind_some, l.splitSign_partDigits, readMagnitude?, l.readDecimal?_digits]
  rfl

/-! ## Conversion -/

/-- The digits have a point or the letter of an exponent unless the literal is an integer. -/
theorem any_partDigits :
    (Numeral.partDigits l.text).any (· ∈ ['.', 'e', 'E']) = !l.numeral.isInteger := by
  have hdigit (c : Char) (hc : c.isDigit = true) : c ∉ ['.', 'e', 'E'] := by
    intro hmem
    simp only [List.mem_cons, List.not_mem_nil, or_false] at hmem
    rcases hmem with rfl | rfl | rfl <;> cases hc
  have hsign : (signText l.negative).any (· ∈ ['.', 'e', 'E']) = false := by
    cases l.negative <;> decide
  have hwhole : l.numeral.whole.any (· ∈ ['.', 'e', 'E']) = false :=
    List.any_eq_false.mpr fun c hc => by simpa using hdigit c (l.isDigit_whole c hc)
  have htrail : l.trail.any (· ∈ ['.', 'e', 'E']) = !l.numeral.isInteger := by
    unfold trail Numeral.isInteger
    cases l.numeral.fraction? with
    | some part => rfl
    | none =>
        unfold numeral
        cases l.exponent? with
        | none => rfl
        | some e =>
            simp only [fractionText, exponentText, List.nil_append, Option.elim_some,
              ExponentPart.text, List.any_cons]
            rcases e.letter_eq with hletter | hletter <;> rw [hletter] <;> rfl
  rw [partDigits_text, List.any_append, List.any_append, hsign, hwhole, htrail]
  rfl

end NumberLiteral

/-- A word that is a numeral is converted to the number of its parts, unless it is an integer with
too many digits. -/
theorem convertNumber_of_numeral {word : Text} {n : Numeral} (h : Numeral.ofWord? word = some n) :
    convertNumber (Numeral.partDigits word) =
      if n.isInteger then
        if integerDigitLimit < n.whole.length then .error (.tooManyDigits n.whole.length)
        else .ok (.int, .int n.toInt)
      else .ok (.float, .float n.toBinary64) := by
  obtain ⟨l, rfl, rfl⟩ := Numeral.ofWord?_eq_some_iff.mp h
  rw [convertNumber, l.any_partDigits]
  cases hinteger : l.numeral.isInteger with
  | true =>
      simp only [l.readInt?_partDigits hinteger, l.splitSign_partDigits,
        l.trail_of_isInteger hinteger, List.append_nil]
      by_cases hlimit : integerDigitLimit < l.numeral.whole.length
      · simp [hlimit]
      · simp [hlimit]
  | false => simp [l.ofText?_partDigits]

end TanSource
