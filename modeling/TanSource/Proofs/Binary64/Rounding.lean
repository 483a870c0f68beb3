import Mathlib.Algebra.Group.Nat.Defs
import TanSource.Binary64.Decimal

/-!
# Rounding quotients and decimal numbers

`Magnitude.ofRatio?` depends on the value of a quotient only and gives a magnitude back from its own
units. The bounds by which `Decimal.magnitude?` decides very large and very small numbers in advance
agree with it, so the magnitude of a decimal number depends on its value only
(`Decimal.magnitude?_shift`).
-/

namespace TanSource

/-! ## Quotients -/

theorem roundQuotient_mul_right (a b : Nat) {k : Nat} (hk : 0 < k) :
    roundQuotient (a * k) (b * k) = roundQuotient a b := by
  have hlt : 2 * (a % b * k) > b * k ↔ 2 * (a % b) > b := by
    rw [← Nat.mul_assoc]
    exact Nat.mul_lt_mul_right hk
  have heq : 2 * (a % b * k) = b * k ↔ 2 * (a % b) = b := by
    rw [← Nat.mul_assoc]
    exact Nat.mul_left_inj (by omega)
  simp only [roundQuotient, Nat.mul_div_mul_right a b hk, Nat.mul_mod_mul_right, hlt, heq]

theorem roundQuotient_mul_left_self (a : Nat) {b : Nat} (hb : 0 < b) :
    roundQuotient (a * b) b = a := by
  simp [roundQuotient, Nat.mul_div_cancel a hb]
  omega

theorem roundQuotient_of_two_mul_lt {a b : Nat} (h : 2 * a < b) : roundQuotient a b = 0 := by
  have hdiv : a / b = 0 := Nat.div_eq_of_lt (by omega)
  have hmod : a % b = a := Nat.mod_eq_of_lt (by omega)
  simp only [roundQuotient, hdiv, hmod]
  rw [if_neg (by omega)]

namespace Magnitude

theorem two_pow_pos (n : Nat) : 0 < Nat.pow 2 n :=
  Nat.two_pow_pos n

theorem unitsInOne_eq : unitsInOne = 2 ^ 1074 := by
  decide +kernel

theorem unitsInOne_pos : 0 < unitsInOne := by
  decide +kernel

theorem ofRatio?_mul_right (a b : Nat) {k : Nat} (hk : 0 < k) :
    ofRatio? (a * k) (b * k) = ofRatio? a b := by
  have hunits : a * k * unitsInOne = a * unitsInOne * k := Nat.mul_right_comm ..
  have hgrid (scale : Nat) : b * k * Nat.pow 2 scale = b * Nat.pow 2 scale * k :=
    Nat.mul_right_comm ..
  simp only [ofRatio?, hunits, hgrid, Nat.mul_div_mul_right _ b hk, roundQuotient_mul_right _ _ hk]

/-- The scale of a canonical magnitude is the one that rounding its units looks for. -/
theorem log2_units_sub (x : Magnitude) : x.units.log2 - 52 = x.scale := by
  obtain ⟨hlt, hfull, -⟩ := x.canonical
  rw [Nat.pow_eq] at hlt
  rcases hfull with hfull | hscale
  · rw [Nat.pow_eq] at hfull
    have hlow : 2 ^ (52 + x.scale) ≤ x.units := by
      rw [Nat.pow_add]
      exact Nat.mul_le_mul_right _ hfull
    have hhigh : x.units < 2 ^ (52 + x.scale + 1) := by
      have hpow : 2 ^ (52 + x.scale + 1) = 2 ^ 53 * 2 ^ x.scale := by
        rw [← Nat.pow_add]
        congr 1
        omega
      rw [hpow]
      exact Nat.mul_lt_mul_of_pos_right hlt (Nat.pow_pos (by decide))
    have hne : x.units ≠ 0 := by
      have hpos : 0 < 2 ^ (52 + x.scale) := Nat.pow_pos (by decide)
      omega
    rw [(Nat.log2_eq_iff hne).mpr ⟨hlow, hhigh⟩]
    omega
  · have hunits : x.units = x.significand := by simp [units, hscale]
    rw [hunits, hscale]
    by_cases hzero : x.significand = 0
    · simp [hzero]
    · have hlog := (Nat.log2_lt hzero).mpr hlt
      omega

/-- Units of a magnitude round to the magnitude itself. -/
theorem ofRatio?_units (x : Magnitude) : ofRatio? x.units unitsInOne = some x := by
  have hgrid : unitsInOne * Nat.pow 2 x.scale = Nat.pow 2 x.scale * unitsInOne := Nat.mul_comm ..
  have hpow := two_pow_pos x.scale
  simp only [ofRatio?, Nat.mul_div_cancel x.units unitsInOne_pos, log2_units_sub, hgrid,
    roundQuotient_mul_right _ _ unitsInOne_pos]
  rw [units, roundQuotient_mul_left_self _ hpow, ofScaled?, dif_pos x.canonical]

theorem ofScaled?_of_scale_gt {significand scale : Nat} (h : 2045 < scale) :
    ofScaled? significand scale = none := by
  have hnot (s e : Nat) (he : 2045 < e) : ¬ CanonicalScale s e := fun hc => by
    have hle := hc.2.2
    omega
  rw [ofScaled?, dif_neg (hnot _ _ h), dif_neg (hnot _ _ (by omega))]

/-- No magnitude is as large as `2 ^ 1024`. -/
theorem ofRatio?_of_two_pow_le {a k : Nat} (hk : 1024 ≤ k) (h : 2 ^ k ≤ a) :
    ofRatio? a 1 = none := by
  -- The exponent is made a variable: a closed power of this size is not evaluated.
  obtain ⟨m, hm, hone⟩ : ∃ m, 1074 = m ∧ unitsInOne = 2 ^ m := ⟨1074, rfl, unitsInOne_eq⟩
  have hunits : 2 ^ (k + m) ≤ a * unitsInOne := by
    rw [Nat.pow_add, hone]
    exact Nat.mul_le_mul_right _ h
  have hne : a * unitsInOne ≠ 0 :=
    Nat.ne_of_gt (Nat.lt_of_lt_of_le (Nat.two_pow_pos _) hunits)
  have hlog := (Nat.le_log2 hne).mpr hunits
  simp only [ofRatio?, Nat.div_one]
  exact ofScaled?_of_scale_gt (by omega)

/-- A quotient below half a unit rounds to zero. -/
theorem ofRatio?_of_two_mul_lt {a b : Nat} (h : 2 * (a * unitsInOne) < b) :
    ofRatio? a b = some zero := by
  have hdiv : a * unitsInOne / b = 0 := Nat.div_eq_of_lt (by omega)
  have hround : roundQuotient (a * unitsInOne) (b * Nat.pow 2 0) = 0 :=
    roundQuotient_of_two_mul_lt (by simpa using h)
  simp only [ofRatio?, hdiv, Nat.log2_zero, Nat.zero_sub, hround]
  rfl

end Magnitude

/-! ## Decimal numbers -/

theorem two_pow_le_ten_pow (n : Nat) : 2 ^ (3 * n) ≤ 10 ^ n := by
  rw [Nat.pow_mul]
  exact Nat.pow_le_pow_left (by decide) n

theorem two_mul_two_pow_mul (a b : Nat) : 2 * (2 ^ (a + 1) * 2 ^ b) = 2 ^ (a + 2 + b) := by
  rw [← Nat.mul_assoc, ← Nat.pow_succ', ← Nat.pow_add]

namespace Decimal

/-- The bounds for very large and very small numbers only save work: what they decide is what
rounding the quotient gives. -/
theorem magnitude?_eq_ofRatio? {d : Decimal} (hd : d.digits ≠ 0) :
    d.magnitude? = Magnitude.ofRatio? (d.digits * Nat.pow 10 d.exponent.toNat)
      (Nat.pow 10 (-d.exponent).toNat) := by
  rw [magnitude?, if_neg hd]
  split
  · next hlarge =>
      have hexp : (-d.exponent).toNat = 0 := by omega
      have hten := two_pow_le_ten_pow d.exponent.toNat
      have hpow : 2 ^ (3 * d.exponent.toNat) ≤ d.digits * Nat.pow 10 d.exponent.toNat :=
        Nat.le_trans hten (Nat.le_mul_of_pos_left _ (Nat.pos_of_ne_zero hd))
      rw [hexp]
      exact (Magnitude.ofRatio?_of_two_pow_le (by omega) hpow).symm
  · split
    · next hsmall =>
        have hexp : d.exponent.toNat = 0 := by omega
        have hdigits : d.digits < 2 ^ (d.digits.log2 + 1) := Nat.lt_log2_self
        have hten := two_pow_le_ten_pow (-d.exponent).toNat
        have hpow : 2 * (d.digits * Nat.pow 10 0 * Magnitude.unitsInOne) <
            Nat.pow 10 (-d.exponent).toNat := by
          calc
            2 * (d.digits * Nat.pow 10 0 * Magnitude.unitsInOne)
                < 2 * (2 ^ (d.digits.log2 + 1) * Magnitude.unitsInOne) := by
                  have hmul := Nat.mul_lt_mul_of_pos_right hdigits Magnitude.unitsInOne_pos
                  rw [Nat.pow_eq, Nat.pow_zero, Nat.mul_one]
                  omega
            _ = 2 ^ (d.digits.log2 + 2 + 1074) := by
                  rw [← two_mul_two_pow_mul, Magnitude.unitsInOne_eq]
            _ ≤ 2 ^ (3 * (-d.exponent).toNat) := Nat.pow_le_pow_right (by decide) (by omega)
            _ ≤ Nat.pow 10 (-d.exponent).toNat := hten
        rw [hexp]
        exact (Magnitude.ofRatio?_of_two_mul_lt hpow).symm
    · rfl

/-- Moving zeros between digits and exponent changes nothing. -/
theorem magnitude?_shift (m j : Nat) (e : Int) :
    (⟨m * 10 ^ j, e⟩ : Decimal).magnitude? = (⟨m, e + j⟩ : Decimal).magnitude? := by
  by_cases hm : m = 0
  · simp [magnitude?, hm]
  have hten (n : Nat) : 0 < 10 ^ n := Nat.pow_pos (by decide)
  have hmj : m * 10 ^ j ≠ 0 := Nat.mul_ne_zero hm (Nat.ne_of_gt (hten j))
  rw [magnitude?_eq_ofRatio? (d := ⟨m * 10 ^ j, e⟩) hmj,
    magnitude?_eq_ofRatio? (d := ⟨m, e + j⟩) hm]
  simp only [Nat.pow_eq]
  rcases Int.le_total 0 e with he | he
  · have hnum : (e + j).toNat = j + e.toNat := by omega
    have hden : (-(e + j)).toNat = (-e).toNat := by omega
    rw [hnum, hden, Nat.pow_add, Nat.mul_assoc]
  rcases Int.le_total (e + j) 0 with hj | hj
  · have hnum : e.toNat = (e + j).toNat := by omega
    have hden : (-e).toNat = (-(e + j)).toNat + j := by omega
    rw [hnum, hden, Nat.pow_add, Nat.mul_right_comm, Magnitude.ofRatio?_mul_right _ _ (hten j)]
  · have hnum : j = (e + j).toNat + (-e).toNat := by omega
    have hone : (-(e + j)).toNat = 0 := by omega
    have hzero : e.toNat = 0 := by omega
    have h := Magnitude.ofRatio?_mul_right (m * 10 ^ (e + j).toNat) 1 (hten (-e).toNat)
    rw [Nat.mul_assoc, ← Nat.pow_add, ← hnum, Nat.one_mul] at h
    rw [hone, hzero, Nat.pow_zero, Nat.mul_one, h]

end Decimal

end TanSource
