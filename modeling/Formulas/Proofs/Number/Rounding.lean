import Mathlib.Algebra.Group.Nat.Defs
import Formulas.Number.Shortest

/-!
# Rounding of decimals

The nearest number to a quotient of units depends on the quotient alone, and a quotient that is a
number is rounded to itself. A decimal denotes the nearest number to its value; the two early
answers of `ofDecimal` agree with that.

## Main results

* `Number.roundUnits_mul_right`: rounding depends on the quotient alone;
* `Number.roundUnits_of_fits`: what fits is kept;
* `Number.ofDecimal_sub`: the number of a decimal, as a rounded quotient;
* `Number.ofDecimal_mul_pow`: zeros at the end of a coefficient go to the exponent.
-/

namespace Formulas.Number

/-- The units of one are a power of two. -/
theorem unitsOfOne_eq : unitsOfOne = 2 ^ 1074 := rfl

/-- There are units in one. -/
theorem unitsOfOne_pos : 0 < unitsOfOne := Nat.two_pow_pos _

/-- What fits is a multiple of the power of two in front of its leading bits. -/
theorem Fits.dvd {units : Nat} (h : Fits units) : 2 ^ (units.log2 - 52) ∣ units := h.2

/-- A quotient is rounded on the grid that its leading bit leaves. -/
theorem roundUnits_eq (num den : Nat) :
    roundUnits num den =
      roundQuotient num (den * 2 ^ ((num / den).log2 - 52)) * 2 ^ ((num / den).log2 - 52) := rfl

-- its value is too large to be computed in passing
attribute [local irreducible] unitsOfOne

/-- The nearest integer to a quotient depends on the quotient alone. -/
theorem roundQuotient_mul_right (num den : Nat) {k : Nat} (hk : 0 < k) :
    roundQuotient (num * k) (den * k) = roundQuotient num den := by
  have htwice : 2 * (num % den * k) = 2 * (num % den) * k := (Nat.mul_assoc ..).symm
  have hbelow : 2 * (num % den) * k < den * k ↔ 2 * (num % den) < den := Nat.mul_lt_mul_right hk
  have habove : den * k < 2 * (num % den) * k ↔ den < 2 * (num % den) := Nat.mul_lt_mul_right hk
  simp only [roundQuotient, Nat.mul_div_mul_right _ _ hk, Nat.mul_mod_mul_right, htwice, hbelow,
    habove]

/-- A quotient without remainder is its own nearest integer. -/
theorem roundQuotient_mul_self (n : Nat) {den : Nat} (hden : 0 < den) :
    roundQuotient (n * den) den = n := by
  have hdiv : n * den / den = n := Nat.mul_div_cancel n hden
  have hmod : n * den % den = 0 := Nat.mul_mod_left n den
  simp [roundQuotient, hdiv, hmod, hden]

/-- The nearest integer to a quotient is not below its floor. -/
theorem div_le_roundQuotient (num den : Nat) : num / den ≤ roundQuotient num den := by
  simp only [roundQuotient]
  split
  · exact Nat.le_refl _
  · split <;> omega

/-- Less than half is rounded to zero. -/
theorem roundQuotient_eq_zero {num den : Nat} (h : 2 * num < den) : roundQuotient num den = 0 := by
  have hlt : num < den := by omega
  simp [roundQuotient, Nat.div_eq_of_lt hlt, Nat.mod_eq_of_lt hlt, h]

/-- The nearest magnitude to a quotient of units depends on the quotient alone. -/
theorem roundUnits_mul_right (num den : Nat) {k : Nat} (hk : 0 < k) :
    roundUnits (num * k) (den * k) = roundUnits num den := by
  simp only [roundUnits_eq, Nat.mul_div_mul_right _ _ hk]
  rw [Nat.mul_right_comm, roundQuotient_mul_right _ _ hk]

/-- A magnitude that fits is its own nearest one. -/
theorem roundUnits_of_fits {units : Nat} (hfits : Fits units) {den : Nat} (hden : 0 < den) :
    roundUnits (units * den) den = units := by
  -- a magnitude that fits lies on the grid that is left by its leading bits
  obtain ⟨n, hn⟩ := hfits.dvd
  have hstep : 0 < den * 2 ^ (units.log2 - 52) := Nat.mul_pos hden (Nat.two_pow_pos _)
  have hnum : units * den = n * (den * 2 ^ (units.log2 - 52)) := by
    calc units * den = 2 ^ (units.log2 - 52) * n * den := by rw [← hn]
      _ = n * (den * 2 ^ (units.log2 - 52)) := by
        rw [Nat.mul_comm _ n, Nat.mul_assoc, Nat.mul_comm den]
  rw [roundUnits_eq, Nat.mul_div_cancel _ hden, hnum, roundQuotient_mul_self n hstep, Nat.mul_comm]
  exact hn.symm

/-- Less than half a unit is rounded to no units. -/
theorem roundUnits_eq_zero {num den : Nat} (h : 2 * num < den) : roundUnits num den = 0 := by
  have hdiv : num / den = 0 := Nat.div_eq_of_lt (by omega)
  have hlog : Nat.log2 0 = 0 := by decide
  simp [roundUnits_eq, hdiv, hlog, roundQuotient_eq_zero h]

/-- A count of units is not rounded below the power of two of its leading bit. -/
theorem two_pow_log2_le_roundUnits {num : Nat} (hnum : num ≠ 0) :
    2 ^ num.log2 ≤ roundUnits num 1 := by
  have hstep : 2 ^ (num.log2 - 52) ∣ 2 ^ num.log2 := Nat.pow_dvd_pow 2 (Nat.sub_le ..)
  have hfloor : 2 ^ num.log2 / 2 ^ (num.log2 - 52) ≤
      roundQuotient num (1 * 2 ^ (num.log2 - 52)) := by
    refine Nat.le_trans ?_ (div_le_roundQuotient _ _)
    rw [Nat.one_mul]
    exact Nat.div_le_div_right (Nat.log2_self_le hnum)
  calc 2 ^ num.log2 = 2 ^ num.log2 / 2 ^ (num.log2 - 52) * 2 ^ (num.log2 - 52) :=
        (Nat.div_mul_cancel hstep).symm
    _ ≤ roundUnits num 1 := by
        rw [roundUnits_eq, Nat.div_one]
        exact Nat.mul_le_mul_right _ hfloor

/-- What is too large is rounded to an infinity. -/
theorem ofUnits_roundUnits_of_le (negative : Bool) {num : Nat} (h : 2 ^ 2098 ≤ num) :
    ofUnits negative (roundUnits num 1) = .infinite negative := by
  have hpos : 0 < num := Nat.lt_of_lt_of_le (Nat.two_pow_pos _) h
  have hround := two_pow_log2_le_roundUnits (Nat.ne_of_gt hpos)
  have hlog : 2098 ≤ num.log2 := (Nat.le_log2 (Nat.ne_of_gt hpos)).2 h
  rw [ofUnits, dif_neg]
  intro hfits
  have hne : roundUnits num 1 ≠ 0 := Nat.ne_of_gt (Nat.lt_of_lt_of_le (Nat.two_pow_pos _) hround)
  have := (Nat.le_log2 hne).2 hround
  have := hfits.1
  omega

/-- Ten to the 28 is more than two to the 93. -/
theorem two_pow_le_ten_pow {a b e : Nat} (h : 28 * a + b ≤ e) : 2 ^ (93 * a + b) ≤ 10 ^ e := by
  have hblock : 2 ^ 93 ≤ 10 ^ 28 := by decide
  refine Nat.le_trans ?_ (Nat.pow_le_pow_right (by decide) h)
  rw [Nat.pow_add, Nat.pow_add, Nat.pow_mul, Nat.pow_mul]
  exact Nat.mul_le_mul (Nat.pow_le_pow_left hblock a) (Nat.pow_le_pow_left (by decide) b)

/-- A decimal whose exponent is past the bound is too large for every finite number. -/
theorem two_pow_le_mul_pow {coefficient e : Nat} (hcoefficient : coefficient ≠ 0) (he : 308 < e) :
    2 ^ 2098 ≤ coefficient * 10 ^ e * unitsOfOne := by
  -- the power is hidden behind `n`, since it is too large to be computed
  obtain ⟨n, hn, hten⟩ : ∃ n, 93 * 11 + 1 = n ∧ 2 ^ n ≤ 10 ^ e :=
    ⟨_, rfl, two_pow_le_ten_pow (a := 11) (b := 1) he⟩
  have hle : 10 ^ e ≤ coefficient * 10 ^ e :=
    Nat.le_mul_of_pos_left _ (Nat.pos_of_ne_zero hcoefficient)
  have hsum : 2098 = n + 1074 := by omega
  rw [unitsOfOne_eq, hsum, Nat.pow_add]
  exact Nat.mul_le_mul_right _ (Nat.le_trans hten hle)

/-- A decimal whose exponent is far below its coefficient is less than half of the least number. -/
theorem two_mul_lt_pow {coefficient e : Nat} (h : coefficient.log2 + 1076 < 3 * e) :
    2 * (coefficient * unitsOfOne) < 10 ^ e := by
  have hbits : ∀ b, 2 * (coefficient * 2 ^ b) < 2 ^ (coefficient.log2 + (b + 2)) := by
    intro b
    calc 2 * (coefficient * 2 ^ b) = coefficient * 2 ^ (b + 1) := by
          rw [Nat.pow_succ', Nat.mul_left_comm]
      _ < 2 ^ (coefficient.log2 + 1) * 2 ^ (b + 1) :=
          Nat.mul_lt_mul_of_pos_right Nat.lt_log2_self (Nat.two_pow_pos _)
      _ = 2 ^ (coefficient.log2 + (b + 2)) := by
          rw [← Nat.pow_add]
          congr 1
          omega
  have hfew : coefficient.log2 + (1074 + 2) ≤ 3 * e := Nat.le_of_lt h
  rw [unitsOfOne_eq]
  calc 2 * (coefficient * 2 ^ 1074) < 2 ^ (coefficient.log2 + (1074 + 2)) := hbits 1074
    _ ≤ 2 ^ (3 * e) := Nat.pow_le_pow_right (by decide) hfew
    _ = (2 ^ 3) ^ e := Nat.pow_mul ..
    _ ≤ 10 ^ e := Nat.pow_le_pow_left (by decide) e

/-- A decimal denotes the number nearest to its value, whatever powers of ten its exponent is the
difference of. -/
theorem ofDecimal_sub (negative : Bool) (coefficient m k : Nat) :
    ofDecimal negative coefficient ((m : Int) - k) =
      ofUnits negative (roundUnits (coefficient * 10 ^ m * unitsOfOne) (10 ^ k)) := by
  have hpow : ∀ j, 0 < 10 ^ j := fun j => Nat.pow_pos (by decide)
  by_cases hzero : coefficient = 0
  · subst hzero
    have hround : roundUnits (0 * 10 ^ m * unitsOfOne) (10 ^ k) = 0 := by
      rw [Nat.zero_mul, Nat.zero_mul]
      exact roundUnits_eq_zero (hpow k)
    rw [hround]
    simp [ofDecimal]
  · unfold ofDecimal
    rw [if_neg hzero]
    split
    next e he =>
      -- both powers of ten are `10 ^ k` too large
      obtain rfl : m = e + k := by
        have : (m : Int) - k = e := he
        omega
      have hscale : roundUnits (coefficient * 10 ^ (e + k) * unitsOfOne) (10 ^ k) =
          roundUnits (coefficient * 10 ^ e * unitsOfOne) 1 := by
        rw [← roundUnits_mul_right (coefficient * 10 ^ e * unitsOfOne) 1 (hpow k), Nat.one_mul,
          Nat.pow_add, ← Nat.mul_assoc, Nat.mul_right_comm _ (10 ^ k)]
      rw [hscale]
      split
      -- the early answer for what is too large is that of rounding it
      next hlarge => exact (ofUnits_roundUnits_of_le _ (two_pow_le_mul_pow hzero hlarge)).symm
      next => rfl
    next e he =>
      obtain rfl : k = e + 1 + m := by
        have : (m : Int) - k = Int.negSucc e := he
        omega
      have hscale : roundUnits (coefficient * 10 ^ m * unitsOfOne) (10 ^ (e + 1 + m)) =
          roundUnits (coefficient * unitsOfOne) (10 ^ (e + 1)) := by
        rw [← roundUnits_mul_right (coefficient * unitsOfOne) (10 ^ (e + 1)) (hpow m),
          ← Nat.pow_add, Nat.mul_right_comm]
      rw [hscale]
      split
      -- and so is the one for what is too small
      next hsmall => rw [roundUnits_eq_zero (two_mul_lt_pow hsmall)]
      next => rfl

/-- Zeros at the end of a coefficient go to the exponent. -/
theorem ofDecimal_mul_pow (negative : Bool) (coefficient j : Nat) (exponent : Int) :
    ofDecimal negative (coefficient * 10 ^ j) exponent =
      ofDecimal negative coefficient (exponent + j) := by
  obtain ⟨m, k, rfl⟩ : ∃ m k : Nat, exponent = (m : Int) - k :=
    ⟨exponent.toNat, (-exponent).toNat, by omega⟩
  have hsum : (m : Int) - k + j = ((m + j : Nat) : Int) - k := by omega
  rw [hsum, ofDecimal_sub, ofDecimal_sub, Nat.pow_add, Nat.mul_comm (10 ^ m),
    Nat.mul_assoc _ (10 ^ j)]

/-- A decimal without a sign denotes a number that is not negative. -/
theorem ofDecimal_nonneg (coefficient : Nat) (exponent : Int) :
    ofDecimal false coefficient exponent ≠ .nan ∧
      (ofDecimal false coefficient exponent).isNegative = false := by
  have hunits : ∀ units, ofUnits false units ≠ .nan ∧ (ofUnits false units).isNegative = false := by
    intro units
    unfold ofUnits
    split <;> simp [isNegative]
  unfold ofDecimal
  split
  · exact hunits 0
  · split
    · split
      · simp [isNegative]
      · exact hunits _
    · split
      · exact hunits 0
      · exact hunits _

end Formulas.Number
