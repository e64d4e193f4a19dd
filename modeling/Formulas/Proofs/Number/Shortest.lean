import Formulas.Proofs.Number.Rounding

/-!
# Shortest decimals read back

Whatever decimal the search for the shortest one ends with, it denotes the number it was searched
for. A whole number gets a decimal without places after the point, and only a whole number does.

## Main results

* `Number.ofDecimal_shortest`: the shortest decimal reads back;
* `Number.shortest_exponent_nonneg_iff`: whole numbers are those without places after the point.
-/

namespace Formulas.Number

-- its value is too large to be computed in passing
attribute [local irreducible] unitsOfOne

/-- A decimal that reads back as a magnitude denotes the number of that magnitude. -/
theorem ofDecimal_of_readsBack {units : Nat} {d : Decimal} (h : readsBack units d = true) :
    ofDecimal false d.coefficient d.exponent = ofUnits false units := by
  have hunits : (ofDecimal false d.coefficient d.exponent).units? = some units := by
    simpa [readsBack] using h
  obtain ⟨hnan, hsign⟩ := ofDecimal_nonneg d.coefficient d.exponent
  cases hx : ofDecimal false d.coefficient d.exponent with
  | finite negative units' hfits =>
    rw [hx] at hunits hsign
    obtain rfl : units' = units := Option.some.inj hunits
    obtain rfl : negative = false := hsign
    exact (ofUnits_units hfits).symm
  | infinite negative =>
    rw [hx] at hunits
    cases hunits
  | nan => exact absurd hx hnan

/-- A neighbour on a grid reads back and lies on the grid. -/
theorem of_neighbour? {tie : Tie} {units : Nat} {exponent : Int} {d : Decimal}
    (h : neighbour? tie units exponent = some d) :
    readsBack units d = true ∧ d.exponent = exponent := by
  simp only [neighbour?] at h
  -- which of the two neighbours is nearer
  split at h
  all_goals
    split at h
    · next hreads =>
      cases h
      exact ⟨hreads, rfl⟩
    · split at h
      · next hreads =>
        cases h
        exact ⟨hreads, rfl⟩
      · cases h

/-- A unit is a power of five under as many places after the point. -/
theorem exactDecimal_eq (units : Nat) : exactDecimal units = ⟨units * 5 ^ 1074, -1074⟩ := rfl

/-- The magnitude itself, as a decimal, denotes the number of that magnitude. -/
theorem ofDecimal_exactDecimal {units : Nat} (hfits : Fits units) :
    ofDecimal false (exactDecimal units).coefficient (exactDecimal units).exponent =
      ofUnits false units := by
  obtain ⟨k, hk⟩ : ∃ k, k = 1074 := ⟨_, rfl⟩
  have hdecimal : exactDecimal units = ⟨units * 5 ^ k, (0 : Nat) - (k : Int)⟩ := by
    rw [hk]
    rfl
  have hscale : units * 5 ^ k * 10 ^ 0 * unitsOfOne = units * 10 ^ k := by
    rw [unitsOfOne_eq, ← hk, Nat.pow_zero, Nat.mul_one, Nat.mul_assoc, ← Nat.mul_pow]
  rw [hdecimal, ofDecimal_sub, hscale, roundUnits_of_fits hfits (Nat.pow_pos (by decide))]

/-- Zeros at the end of a coefficient do not change what a decimal denotes. -/
theorem ofDecimal_normalize (d : Decimal) :
    ofDecimal false d.normalize.coefficient d.normalize.exponent =
      ofDecimal false d.coefficient d.exponent := by
  fun_induction Decimal.normalize d with
  | case1 d h ih =>
    have hten : d.coefficient / 10 * 10 ^ 1 = d.coefficient := by omega
    have hmove := ofDecimal_mul_pow false (d.coefficient / 10) 1 d.exponent
    rw [hten] at hmove
    exact ih.trans hmove.symm
  | case2 => rfl

/-- The shortest decimal reads back. -/
theorem ofDecimal_shortest (tie : Tie) {units : Nat} (hfits : Fits units) :
    ofDecimal false (shortest tie units).coefficient (shortest tie units).exponent =
      ofUnits false units := by
  rw [shortest, ofDecimal_normalize]
  cases hfound : (List.range 17).findSome? fun i =>
      neighbour? tie units (magnitudePlace units - (i + 1 : Nat)) with
  | none => exact ofDecimal_exactDecimal hfits
  | some d =>
    obtain ⟨i, -, hi⟩ := List.exists_of_findSome?_eq_some hfound
    exact ofDecimal_of_readsBack (of_neighbour? hi).1

/-- Rounding keeps what a count of units is a multiple of, up to a power of two. -/
theorem two_pow_dvd_roundUnits {k num : Nat} (h : 2 ^ k ∣ num) : 2 ^ k ∣ roundUnits num 1 := by
  rw [roundUnits_eq, Nat.div_one, Nat.one_mul]
  by_cases hle : num.log2 - 52 ≤ k
  · -- the grid is fine enough for the units themselves
    obtain ⟨n, hn⟩ := Nat.dvd_trans (Nat.pow_dvd_pow 2 hle) h
    have hnum : num = n * 2 ^ (num.log2 - 52) := by rw [Nat.mul_comm, ← hn]
    have hround := roundQuotient_mul_self n (Nat.two_pow_pos (num.log2 - 52))
    rw [← hnum] at hround
    rw [hround, ← hnum]
    exact h
  · exact Nat.dvd_trans (Nat.pow_dvd_pow 2 (Nat.le_of_not_le hle)) (Nat.dvd_mul_left ..)

/-- A decimal without places after the point denotes a whole number. -/
theorem unitsOfOne_dvd_of_ofDecimal {units c e : Nat} (hfits : Fits units)
    (h : ofDecimal false c e = ofUnits false units) : unitsOfOne ∣ units := by
  have hvalue := ofDecimal_sub false c e 0
  rw [show (e : Int) - (0 : Nat) = e from Int.sub_zero _, h, Nat.pow_zero] at hvalue
  have hunits : (ofUnits false (roundUnits (c * 10 ^ e * unitsOfOne) 1)).units? = some units := by
    rw [← hvalue, units?_ofUnits _ hfits]
  have hround : roundUnits (c * 10 ^ e * unitsOfOne) 1 = units := by
    unfold ofUnits at hunits
    split at hunits
    · exact Option.some.inj hunits
    · cases hunits
  have hdvd : ∀ k, 2 ^ k ∣ roundUnits (c * 10 ^ e * 2 ^ k) 1 :=
    fun k => two_pow_dvd_roundUnits (Nat.dvd_mul_left ..)
  rw [← hround, unitsOfOne_eq]
  exact hdvd 1074

/-- Removing zeros never lowers the exponent. -/
theorem le_normalize_exponent (d : Decimal) : d.exponent ≤ d.normalize.exponent := by
  fun_induction Decimal.normalize d with
  | case1 d h ih =>
    refine Int.le_trans ?_ ih
    change d.exponent ≤ d.exponent + 1
    omega
  | case2 => exact Int.le_refl _

/-- As many zeros as there are at the end of the coefficient go to the exponent. -/
theorem le_normalize_exponent_of_dvd {c : Nat} (hc : c ≠ 0) (j : Nat) (e : Int) :
    e + j ≤ (Decimal.normalize ⟨c * 10 ^ j, e⟩).exponent := by
  induction j generalizing e with
  | zero =>
    have := le_normalize_exponent ⟨c * 10 ^ 0, e⟩
    simpa only [Int.natCast_zero, Int.add_zero] using this
  | succ j ih =>
    have hne : c * 10 ^ (j + 1) ≠ 0 :=
      Nat.mul_ne_zero hc (Nat.pos_iff_ne_zero.1 (Nat.pow_pos (by decide)))
    have hsucc : c * 10 ^ (j + 1) = c * 10 ^ j * 10 := by rw [Nat.pow_succ, Nat.mul_assoc]
    have hmod : c * 10 ^ (j + 1) % 10 = 0 := by rw [hsucc, Nat.mul_mod_left]
    rw [Decimal.normalize, dif_pos ⟨hne, hmod⟩]
    simp only [hsucc, Nat.mul_div_cancel _ (by decide : 0 < 10)]
    have := ih (e + 1)
    omega

/-- On the grid of whole numbers a whole number is its own neighbour. -/
theorem neighbour?_zero (tie : Tie) {n : Nat} (hfits : Fits (n * unitsOfOne)) :
    neighbour? tie (n * unitsOfOne) 0 = some ⟨n, 0⟩ := by
  have hgrid : onGrid (n * unitsOfOne) 0 = (n * unitsOfOne, unitsOfOne) := by
    change (n * unitsOfOne, unitsOfOne * 10 ^ 0) = _
    rw [Nat.pow_zero, Nat.mul_one unitsOfOne]
  have hround : roundUnits (n * unitsOfOne) 1 = n * unitsOfOne := by
    have hself := roundUnits_of_fits hfits Nat.one_pos
    rw [Nat.mul_one (n * unitsOfOne)] at hself
    exact hself
  have hvalue : ofDecimal false n 0 = ofUnits false (n * unitsOfOne) := by
    have hround' := ofDecimal_sub false n 0 0
    rw [Nat.pow_zero, Nat.mul_one n, hround] at hround'
    exact hround'
  have hreads : readsBack (n * unitsOfOne) ⟨n, 0⟩ = true := by
    simp only [readsBack, hvalue, units?_ofUnits _ hfits, beq_self_eq_true]
  have hzero : (0 == unitsOfOne) = false := beq_false_of_ne (Nat.ne_of_lt unitsOfOne_pos)
  simp only [neighbour?, hgrid, Nat.mul_div_cancel _ unitsOfOne_pos, Nat.mul_mod_left,
    Nat.mul_zero, Nat.not_lt_zero, hzero, decide_false, Bool.false_and, Bool.or_self,
    Bool.false_eq_true, if_false, hreads, if_true]

/-- A search through the first natural numbers finds the first one that answers. -/
theorem exists_of_findSome?_range {α : Type} {f : Nat → Option α} {n : Nat} {a : α}
    (h : (List.range n).findSome? f = some a) : ∃ i, f i = some a ∧ ∀ j < i, f j = none := by
  induction n with
  | zero => cases h
  | succ n ih =>
    rw [List.range_succ, List.findSome?_append] at h
    cases hfound : (List.range n).findSome? f with
    | some b =>
      rw [hfound] at h
      exact ih (hfound.trans h)
    | none =>
      rw [hfound] at h
      refine ⟨n, by simpa using h, fun j hj => ?_⟩
      exact List.findSome?_eq_none_iff.1 hfound j (List.mem_range.2 hj)

/-- The shortest decimal of a whole number has no places after the point. -/
theorem shortest_exponent_nonneg (tie : Tie) {n : Nat} (hfits : Fits (n * unitsOfOne))
    (hn : n ≠ 0) : 0 ≤ (shortest tie (n * unitsOfOne)).exponent := by
  rw [shortest]
  cases hfound : (List.range 17).findSome? fun i =>
      neighbour? tie (n * unitsOfOne) (magnitudePlace (n * unitsOfOne) - (i + 1 : Nat)) with
  | none =>
    -- the magnitude itself has a zero for every place after its point
    obtain ⟨k, hk⟩ : ∃ k, k = 1074 := ⟨_, rfl⟩
    have hdecimal : exactDecimal (n * unitsOfOne) = ⟨n * 10 ^ k, -(k : Int)⟩ := by
      rw [exactDecimal_eq, unitsOfOne_eq, ← hk, Nat.mul_assoc, ← Nat.mul_pow, Decimal.mk.injEq]
      exact ⟨rfl, by omega⟩
    have := le_normalize_exponent_of_dvd hn k (-k)
    rw [Option.getD_none, hdecimal]
    omega
  | some d =>
    refine Int.le_trans ?_ (le_normalize_exponent d)
    obtain ⟨i, hi, hbefore⟩ := exists_of_findSome?_range hfound
    have hplace : magnitudePlace (n * unitsOfOne) = digitCount n := by
      rw [magnitudePlace, if_pos (Nat.le_mul_of_pos_left _ (Nat.pos_of_ne_zero hn)),
        Nat.mul_div_cancel _ unitsOfOne_pos]
    have hpos : 0 < digitCount n := Nat.length_toDigits_pos
    rw [(of_neighbour? hi).2, hplace]
    rw [hplace] at hbefore
    by_cases hle : i < digitCount n
    · omega
    · -- the grid of whole numbers was tried before
      have htried := hbefore (digitCount n - 1) (by omega)
      rw [show (digitCount n : Int) - ((digitCount n - 1 + 1 : Nat) : Int) = 0 by omega,
        neighbour?_zero tie hfits] at htried
      cases htried

/-- The shortest decimal has no places after the point exactly if the number is whole. -/
theorem shortest_exponent_nonneg_iff (tie : Tie) {units : Nat} (hfits : Fits units)
    (hne : units ≠ 0) : 0 ≤ (shortest tie units).exponent ↔ unitsOfOne ∣ units := by
  constructor
  · intro hexponent
    obtain ⟨e, he⟩ := Int.eq_ofNat_of_zero_le hexponent
    have hvalue := ofDecimal_shortest tie hfits
    rw [he] at hvalue
    exact unitsOfOne_dvd_of_ofDecimal hfits hvalue
  · rintro ⟨n, rfl⟩
    rw [Nat.mul_comm unitsOfOne n] at hfits hne ⊢
    exact shortest_exponent_nonneg tie hfits (fun hn => hne (by rw [hn, Nat.zero_mul]))

end Formulas.Number
