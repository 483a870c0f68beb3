import TanSource.Proofs.Binary64.Rounding
import TanSource.Proofs.Numeral.Literal

/-!
# Floating point numbers read back from their text

The shortest decimal number of a magnitude reads back as the magnitude, since only candidates that
do are taken, and so do all its digits. The text of a finite number is a literal of that value with
a point or an exponent, so a reader gets the number again (`Binary64.ofWord?_text`).
-/

namespace TanSource

/-! ## The chosen decimal number -/

namespace Magnitude

theorem isReadFrom_iff {x : Magnitude} {d : Decimal} :
    x.isReadFrom d = true ↔ d.magnitude? = some x := by
  simp [isReadFrom]

theorem roundQuotient_eq_or (a b : Nat) :
    roundQuotient a b = a / b ∨ roundQuotient a b = a / b + 1 := by
  unfold roundQuotient
  dsimp only
  split
  · exact Or.inr rfl
  · exact Or.inl rfl

theorem magnitude?_of_nearestDecimal? {x : Magnitude} {e : Int} {d : Decimal}
    (h : x.nearestDecimal? e = some d) : d.magnitude? = some x := by
  unfold nearestDecimal? at h
  dsimp only at h
  split at h
  · next hbelow habove =>
      cases h
      rcases roundQuotient_eq_or (x.units * Nat.pow 10 (-e).toNat)
        (unitsInOne * Nat.pow 10 e.toNat) with hround | hround
      · rw [hround]
        exact isReadFrom_iff.mp hbelow
      · rw [hround]
        exact isReadFrom_iff.mp habove
  · next hbelow _ =>
      cases h
      exact isReadFrom_iff.mp hbelow
  · next _ habove =>
      cases h
      exact isReadFrom_iff.mp habove
  · cases h

theorem ofRatio?_pow_five (a k : Nat) :
    ofRatio? (a * Nat.pow 5 k * Nat.pow 10 0) (Nat.pow 10 k) = ofRatio? a (2 ^ k) := by
  have hfive : 0 < 5 ^ k := Nat.pow_pos (by decide)
  have hten : 10 ^ k = 2 ^ k * 5 ^ k := by rw [← Nat.mul_pow]
  simp only [Nat.pow_eq, Nat.pow_zero, Nat.mul_one, hten, ofRatio?_mul_right _ _ hfive]

theorem magnitude?_of_pow_five {x : Magnitude} (hx : x.units ≠ 0) {k : Nat}
    (hk : unitsInOne = 2 ^ k) {e : Int} (he : e = -k) :
    (⟨x.units * Nat.pow 5 k, e⟩ : Decimal).magnitude? = some x := by
  have hfive : Nat.pow 5 k ≠ 0 := Nat.ne_of_gt (Nat.pow_pos (by decide))
  have hnum : e.toNat = 0 := by omega
  have hden : (-e).toNat = k := by omega
  rw [Decimal.magnitude?_eq_ofRatio? (Nat.mul_ne_zero hx hfive)]
  dsimp only
  rw [hnum, hden, ofRatio?_pow_five, ← hk, ofRatio?_units]

theorem magnitude?_exactDecimal {x : Magnitude} (hx : x.units ≠ 0) :
    x.exactDecimal.magnitude? = some x := by
  have hk := unitsInOne_eq
  have he : (-1074 : Int) = -((1074 : Nat) : Int) := rfl
  unfold exactDecimal
  generalize (1074 : Nat) = k at hk he ⊢
  exact magnitude?_of_pow_five hx hk he

/-- Whatever digits are chosen, they read back. -/
theorem magnitude?_shortestDecimal {x : Magnitude} (hx : x.units ≠ 0) :
    x.shortestDecimal.magnitude? = some x := by
  unfold shortestDecimal
  dsimp only
  cases hfound : (List.range 17).findSome? fun (n : Nat) =>
      x.nearestDecimal? (x.leadingExponent - n) with
  | none => exact magnitude?_exactDecimal hx
  | some d =>
      obtain ⟨n, -, hn⟩ := List.exists_of_findSome?_eq_some hfound
      exact magnitude?_of_nearestDecimal? hn

end Magnitude

/-! ## Significant digits -/

namespace Decimal

theorem toDigits_eq_significantDigits (d : Decimal) :
    ∃ k, Nat.toDigits 10 d.digits = d.significantDigits ++ List.replicate k '0' := by
  let digits := (Nat.toDigits 10 d.digits).reverse
  refine ⟨(digits.takeWhile (· = '0')).length, ?_⟩
  have hzeros : digits.takeWhile (· = '0') =
      List.replicate (digits.takeWhile (· = '0')).length '0' := by
    apply List.eq_replicate_of_mem
    intro c hc
    simpa using forall_mem_takeWhile digits c hc
  have hsplit : digits.takeWhile (· = '0') ++ digits.dropWhile (· = '0') = digits :=
    List.takeWhile_append_dropWhile
  have hreverse := congrArg List.reverse hsplit
  rw [List.reverse_append, hzeros, List.reverse_replicate, List.reverse_reverse] at hreverse
  exact hreverse.symm

theorem isDigit_significantDigits (d : Decimal) : ∀ c ∈ d.significantDigits, c.isDigit = true := by
  intro c hc
  obtain ⟨k, hk⟩ := d.toDigits_eq_significantDigits
  exact isDigit_of_mem_toDigits (n := d.digits) c (by simp [hk, hc])

theorem digits_eq_mul {d : Decimal} {k : Nat}
    (hk : Nat.toDigits 10 d.digits = d.significantDigits ++ List.replicate k '0') :
    d.digits = Nat.ofDigitChars 10 d.significantDigits 0 * 10 ^ k := by
  have h := congrArg (Nat.ofDigitChars 10 · 0) hk
  simpa [Nat.ofDigitChars_append, Nat.ofDigitChars_replicate_zero, Nat.mul_comm] using h

theorem significantDigits_ne_nil {d : Decimal} (hd : d.digits ≠ 0) : d.significantDigits ≠ [] := by
  intro hnil
  obtain ⟨k, hk⟩ := d.toDigits_eq_significantDigits
  have hzero := digits_eq_mul hk
  rw [hnil, Nat.ofDigitChars_nil, Nat.zero_mul] at hzero
  exact hd hzero

/-- The significant digits, counted from the first exponent down, have the magnitude of the number.
-/
theorem magnitude?_significantDigits (d : Decimal) :
    (⟨Nat.ofDigitChars 10 d.significantDigits 0,
      d.firstExponent + 1 - d.significantDigits.length⟩ : Decimal).magnitude? = d.magnitude? := by
  obtain ⟨k, hk⟩ := d.toDigits_eq_significantDigits
  have hlength : (Nat.toDigits 10 d.digits).length = d.significantDigits.length + k := by
    simp [hk]
  have hexp : d.firstExponent + 1 - d.significantDigits.length = d.exponent + k := by
    simp only [firstExponent, hlength]
    omega
  rw [hexp, ← magnitude?_shift, ← digits_eq_mul hk]

end Decimal

/-! ## The layout of digits -/

namespace FloatLayout

theorem isDigit_replicate_zero (n : Nat) : ∀ c ∈ List.replicate n '0', c.isDigit = true := by
  intro c hc
  rw [List.eq_of_mem_replicate hc]
  decide

/-- Digits with a point in place are written as a whole part and a fraction, which denote the same
digits in front of a power of ten, perhaps with more zeros behind them. -/
theorem pointText_eq {digits : Text} (hne : digits ≠ []) (hall : ∀ c ∈ digits, c.isDigit = true)
    (count : Int) :
    ∃ whole fraction : Text, ∃ j : Nat, pointText digits count = whole ++ '.' :: fraction ∧
      whole ≠ [] ∧ fraction ≠ [] ∧ (∀ c ∈ whole, c.isDigit = true) ∧
      (∀ c ∈ fraction, c.isDigit = true) ∧
      Decimal.ofDigits whole fraction 0 =
        ⟨Nat.ofDigitChars 10 digits 0 * 10 ^ j, count - digits.length - j⟩ := by
  unfold pointText
  split
  · next hcount =>
      refine ⟨['0'], List.replicate (-count).toNat '0' ++ digits, 0, rfl, by simp, by simp [hne],
        by simp, ?_, ?_⟩
      · intro c hc
        rcases List.mem_append.mp hc with hc | hc
        · exact isDigit_replicate_zero _ c hc
        · exact hall c hc
      · simp only [Decimal.ofDigits, List.length_append, List.length_replicate, Decimal.mk.injEq]
        refine ⟨?_, by omega⟩
        simp [Nat.ofDigitChars_append, Nat.ofDigitChars_cons, Nat.ofDigitChars_replicate_zero]
  · next hcount =>
      have hpos : 0 < count.toNat := by omega
      dsimp only
      split
      · next hdrop =>
          have hle := List.drop_eq_nil_iff.mp hdrop
          refine ⟨digits ++ List.replicate (count.toNat - digits.length) '0', ['0'],
            count.toNat - digits.length + 1, by rw [List.take_of_length_le hle], by simp [hne],
            by simp, ?_, by simp, ?_⟩
          · intro c hc
            rcases List.mem_append.mp hc with hc | hc
            · exact hall c hc
            · exact isDigit_replicate_zero _ c hc
          · simp only [Decimal.ofDigits, List.length_singleton, Decimal.mk.injEq]
            refine ⟨?_, by omega⟩
            simp [Nat.ofDigitChars_append, Nat.ofDigitChars_cons, Nat.ofDigitChars_replicate_zero,
              Nat.pow_succ]
            grind
      · next hdrop =>
          have hlt : count.toNat < digits.length := by
            rw [List.drop_eq_nil_iff] at hdrop
            omega
          have hfill : count.toNat - digits.length = 0 := by omega
          refine ⟨digits.take count.toNat, digits.drop count.toNat, 0, by simp [hfill], ?_, hdrop,
            fun c hc => hall c (List.mem_of_mem_take hc),
            fun c hc => hall c (List.mem_of_mem_drop hc), ?_⟩
          · simp [hne]
            omega
          · simp only [Decimal.ofDigits, List.take_append_drop, List.length_drop, Decimal.mk.injEq]
            exact ⟨by simp, by omega⟩

theorem exists_exponentPart_text (layout : FloatLayout) (e : Int) :
    ∃ part : ExponentPart, part.text = layout.exponentText e ∧ part.value = e := by
  let digits := Nat.toDigits 10 e.natAbs
  refine ⟨⟨false, some (decide (e < 0)),
    List.replicate (layout.exponentWidth - digits.length) '0' ++ digits, ?_, ?_⟩, ?_, ?_⟩
  · simp [digits, Nat.toDigits_ne_nil]
  · intro c hc
    rcases List.mem_append.mp hc with hc | hc
    · exact isDigit_replicate_zero _ c hc
    · exact isDigit_of_mem_toDigits c hc
  · by_cases he : e < 0 <;>
      simp [ExponentPart.text, ExponentPart.letter, ExponentPart.signPart, FloatLayout.exponentText,
        he, digits]
  · simp only [ExponentPart.value, digits, Nat.ofDigitChars_append, Nat.ofDigitChars_replicate_zero,
      Nat.mul_zero, Nat.ofDigitChars_ten_toDigits, Option.some.injEq, decide_eq_true_eq]
    split <;> omega

/-- Digits that are laid out as the text of a number are read as a numeral with a fraction or an
exponent, which denotes the same digits in front of the same power of ten. -/
theorem ofWord?_digitsText (layout : FloatLayout) (negative : Bool) {digits : Text}
    (hne : digits ≠ []) (hall : ∀ c ∈ digits, c.isDigit = true) (e : Int) :
    ∃ n : Numeral, ∃ j : Nat,
      Numeral.ofWord? (signText negative ++ layout.digitsText digits e) = some n ∧
      n.isInteger = false ∧ n.negative = negative ∧
      Decimal.ofDigits n.whole (n.fraction?.getD []) (n.exponent?.getD 0) =
        ⟨Nat.ofDigitChars 10 digits 0 * 10 ^ j, e + 1 - digits.length - j⟩ := by
  unfold digitsText
  split
  · obtain ⟨whole, fraction, j, htext, hwhole, hfraction, hallWhole, hallFraction, hvalue⟩ :=
      pointText_eq hne hall (e + 1)
    have hread := Numeral.ofWord?_digits negative (some fraction) none hwhole hallWhole
      (by simp [hfraction]) (by simpa using hallFraction)
    refine ⟨⟨negative, whole, some fraction, none⟩, j, ?_, rfl, rfl, hvalue⟩
    simpa [htext, fractionText, TanSource.exponentText] using hread
  · obtain ⟨part, htext, hvalue⟩ := exists_exponentPart_text layout e
    split
    · exact absurd rfl hne
    · next d =>
        have hread := Numeral.ofWord?_digits negative none (some part) (List.cons_ne_nil d []) hall
          (by simp) (by simp)
        refine ⟨⟨negative, [d], none, some part.value⟩, 0, ?_, rfl, rfl, ?_⟩
        · simpa [← htext, fractionText, TanSource.exponentText] using hread
        · simp [Decimal.ofDigits, hvalue]
    · next d ds hds =>
        have hlead : d.isDigit = true := hall d List.mem_cons_self
        have htail : ∀ c ∈ ds, c.isDigit = true := fun c hc => hall c (List.mem_cons_of_mem d hc)
        have hread := Numeral.ofWord?_digits negative (some ds) (some part)
          (List.cons_ne_nil d []) (by simpa using hlead) (by simpa using hds) (by simpa using htail)
        refine ⟨⟨negative, [d], some ds, some part.value⟩, 0, ?_, rfl, rfl, ?_⟩
        · simpa [← htext, fractionText, TanSource.exponentText] using hread
        · simp only [Decimal.ofDigits, List.singleton_append, Option.getD_some, hvalue,
            List.length_cons, Nat.pow_zero, Nat.mul_one, Decimal.mk.injEq, true_and]
          omega

/-- The text of a magnitude is read as a numeral of that magnitude. -/
theorem ofWord?_magnitudeText (layout : FloatLayout) (negative : Bool) (x : Magnitude) :
    ∃ n : Numeral,
      Numeral.ofWord? (signText negative ++ layout.magnitudeText x) = some n ∧
      n.isInteger = false ∧ n.toBinary64 = .finite negative x := by
  unfold magnitudeText
  split
  · next hzero =>
      have hread := Numeral.ofWord?_digits negative (some ['0']) none (List.cons_ne_nil '0' [])
        (by simp) (by simp) (by simp)
      refine ⟨⟨negative, ['0'], some ['0'], none⟩,
        by simpa [fractionText, TanSource.exponentText] using hread, rfl, ?_⟩
      have hvalue : Nat.ofDigitChars 10 ['0', '0'] 0 = 0 := by decide
      have hscale : x.scale = 0 := by
        obtain ⟨-, hfull, -⟩ := x.canonical
        rcases hfull with hfull | hscale
        · rw [hzero] at hfull
          exact absurd hfull (by decide)
        · exact hscale
      have hx : x = Magnitude.zero := by
        obtain ⟨significand, scale, hcanonical⟩ := x
        cases hzero
        cases hscale
        rfl
      simp [Numeral.toBinary64, Decimal.toBinary64, Decimal.ofDigits, Decimal.magnitude?,
        Binary64.ofMagnitude?, hx, hvalue]
  · next hne =>
      have hunits : x.units ≠ 0 := Nat.mul_ne_zero hne (Nat.ne_of_gt (Magnitude.two_pow_pos _))
      let d := x.shortestDecimal
      have hd : d.magnitude? = some x := Magnitude.magnitude?_shortestDecimal hunits
      have hdigits : d.digits ≠ 0 := by
        intro hzero
        rw [Decimal.magnitude?, if_pos hzero] at hd
        cases hd
        exact hne rfl
      obtain ⟨n, j, hread, hinteger, hnegative, hvalue⟩ := ofWord?_digitsText layout negative
        (Decimal.significantDigits_ne_nil hdigits) d.isDigit_significantDigits d.firstExponent
      refine ⟨n, hread, hinteger, ?_⟩
      have hmagnitude := Decimal.magnitude?_shift (Nat.ofDigitChars 10 d.significantDigits 0) j
        (d.firstExponent + 1 - d.significantDigits.length - j)
      rw [Int.sub_add_cancel, Decimal.magnitude?_significantDigits, hd] at hmagnitude
      rw [Numeral.toBinary64, hvalue, Decimal.toBinary64, hmagnitude, hnegative]
      rfl

end FloatLayout

/-- A finite number is read back from its text, which is that of no integer. -/
theorem Binary64.ofWord?_text {x : Binary64} (hx : x.isFinite = true) :
    ∃ n : Numeral, Numeral.ofWord? x.text = some n ∧ n.isInteger = false ∧ n.toBinary64 = x := by
  cases x with
  | finite negative magnitude =>
      exact FloatLayout.source.ofWord?_magnitudeText negative magnitude
  | infinite negative => cases hx
  | nan => cases hx

end TanSource
