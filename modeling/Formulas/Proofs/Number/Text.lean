import Formulas.Number.Layout
import Formulas.Proofs.Number.Shortest
import Formulas.Proofs.Text.Runs

/-!
# Numbers as they are written

A finite number is written as digits, and a point with further digits behind it unless the number is
whole. Read as a numeral this text denotes the number again, also with a point behind the digits of
a whole number.

## Main definitions

* `Number.pointed`: digits behind a point, if there are any;
* `Number.WrittenAs`: the digits before and behind the point that denote a magnitude.

## Main results

* `Number.exists_writtenAs`: every finite number is written in that way;
* `Number.WrittenAs.parse?_eq`: what is written so reads back.
-/

namespace Formulas.Number

open Text

/-- The digits behind a point, if there are any. -/
def pointed (fraction : List Char) : List Char :=
  if fraction = [] then [] else '.' :: fraction

/-- The digits denote the number of that magnitude. -/
structure WrittenAs (units : Nat) (whole fraction : List Char) : Prop where
  whole_ne_nil : whole ≠ []
  isDigit_whole : ∀ c ∈ whole, c.isDigit = true
  isDigit_fraction : ∀ c ∈ fraction, c.isDigit = true
  value : ofDecimal false (ofDigits (whole ++ fraction)) (-(fraction.length : Int)) =
    ofUnits false units
  fraction_eq_nil_iff : fraction = [] ↔ unitsOfOne ∣ units

/-- Digits are read as the standard library reads them. -/
theorem ofDigits_eq (digits : List Char) : ofDigits digits = Nat.ofDigitChars 10 digits 0 := rfl

/-- The digits of a natural number denote it. -/
@[simp]
theorem ofDigits_toDigits (n : Nat) : ofDigits (Nat.toDigits 10 n) = n := by
  rw [ofDigits_eq, Nat.ofDigitChars_ten_toDigits]

/-- Zeros before digits do not count. -/
@[simp]
theorem ofDigits_zeros_append (count : Nat) (digits : List Char) :
    ofDigits (zeros count ++ digits) = ofDigits digits := by
  rw [ofDigits_eq, zeros, Nat.ofDigitChars_append, Nat.ofDigitChars_replicate_zero, Nat.mul_zero,
    ofDigits_eq]

/-- Zeros behind digits multiply by powers of ten. -/
@[simp]
theorem ofDigits_append_zeros (digits : List Char) (count : Nat) :
    ofDigits (digits ++ zeros count) = ofDigits digits * 10 ^ count := by
  rw [ofDigits_eq, zeros, Nat.ofDigitChars_append, Nat.ofDigitChars_replicate_zero, Nat.mul_comm,
    ofDigits_eq]

theorem isDigit_of_mem_zeros {count : Nat} {c : Char} (h : c ∈ zeros count) : c.isDigit = true := by
  rw [List.eq_of_mem_replicate h]
  rfl

/-- Digits laid out around a point denote what they denote with their exponent. There are digits
behind the point exactly if the exponent is negative. -/
theorem exists_positional {digits : List Char} (hdigits : ∀ c ∈ digits, c.isDigit = true)
    (hpos : 0 < digits.length) (exponent : Int) :
    ∃ whole fraction,
      positional false digits (digits.length + exponent) = whole ++ pointed fraction ∧
      whole ≠ [] ∧ (∀ c ∈ whole, c.isDigit = true) ∧ (∀ c ∈ fraction, c.isDigit = true) ∧
      ofDecimal false (ofDigits (whole ++ fraction)) (-(fraction.length : Int)) =
        ofDecimal false (ofDigits digits) exponent ∧ (fraction = [] ↔ 0 ≤ exponent) := by
  have hne : digits ≠ [] := List.length_pos_iff.1 hpos
  have hzero : ∀ c ∈ ['0'], c.isDigit = true := by simp
  rw [positional.eq_def]
  split
  next p hp =>
    have hplace : (digits.length : Int) + exponent = p := hp
    split
    next hp0 =>
      -- the point stands before all digits
      subst hp0
      refine ⟨['0'], digits, by simp [pointed, hne], by simp, hzero, hdigits, ?_, ?_⟩
      · rw [show -(digits.length : Int) = exponent by omega]
        exact congrArg (ofDecimal false · exponent) (ofDigits_zeros_append 1 digits)
      · simp only [hne, false_iff]
        omega
    next hp0 =>
      split
      next hlt =>
        -- the point stands among the digits
        have hdrop : digits.drop p ≠ [] := by
          rw [ne_eq, List.drop_eq_nil_iff]
          omega
        refine ⟨digits.take p, digits.drop p, by simp [pointed, hdrop], ?_,
          fun c hc => hdigits c (List.mem_of_mem_take hc),
          fun c hc => hdigits c (List.mem_of_mem_drop hc), ?_, ?_⟩
        · rw [ne_eq, List.take_eq_nil_iff]
          exact fun h => h.elim hp0 hne
        · rw [List.take_append_drop, List.length_drop,
            show -((digits.length - p : Nat) : Int) = exponent by omega]
        · simp only [hdrop, false_iff]
          omega
      next hlt =>
        -- no point, but zeros up to where it would stand
        refine ⟨digits ++ zeros (p - digits.length), [], by simp [pointed], by simp [hne], ?_,
          by simp, ?_, ?_⟩
        · intro c hc
          rcases List.mem_append.1 hc with hc | hc
          · exact hdigits c hc
          · exact isDigit_of_mem_zeros hc
        · rw [List.append_nil, ofDigits_append_zeros, ofDecimal_mul_pow, List.length_nil]
          congr 1
          omega
        · simp only [true_iff]
          omega
  next p hp =>
    have hplace : (digits.length : Int) + exponent = -((p + 1 : Nat) : Int) := hp
    -- zeros stand between the point and the digits
    refine ⟨['0'], zeros (p + 1) ++ digits, by simp [pointed, hne], by simp, hzero, ?_, ?_, ?_⟩
    · intro c hc
      rcases List.mem_append.1 hc with hc | hc
      · exact isDigit_of_mem_zeros hc
      · exact hdigits c hc
    · have hlength : -((zeros (p + 1) ++ digits).length : Int) = exponent := by
        rw [List.length_append, zeros, List.length_replicate]
        omega
      have hvalue : ofDigits (['0'] ++ (zeros (p + 1) ++ digits)) = ofDigits digits := by
        rw [show ['0'] = zeros 1 from rfl, ofDigits_zeros_append, ofDigits_zeros_append]
      rw [hlength, hvalue]
    · simp only [List.append_eq_nil_iff, hne, and_false, false_iff]
      omega

/-- A finite number is written as digits with a point among them, or without one if it is whole. -/
theorem exists_writtenAs {units : Nat} (hfits : Fits units) :
    ∃ whole fraction, Layout.plain.magnitude units = whole ++ pointed fraction ∧
      WrittenAs units whole fraction := by
  by_cases hzero : units = 0
  · subst hzero
    exact ⟨['0'], [], rfl, by simp, by simp, by simp, rfl, by simp⟩
  · have hdigits : ∀ c ∈ Nat.toDigits 10 (shortest .up units).coefficient, c.isDigit = true :=
      fun c hc => Nat.isDigit_of_mem_toDigits (by decide) (by decide) hc
    obtain ⟨whole, fraction, htext, hne, hwhole, hfraction, hvalue, hnil⟩ :=
      exists_positional hdigits Nat.length_toDigits_pos (shortest .up units).exponent
    refine ⟨whole, fraction, ?_, hne, hwhole, hfraction, ?_, ?_⟩
    · rw [← htext, Layout.magnitude, if_neg hzero]
      rfl
    · rw [hvalue, ofDigits_toDigits, ofDecimal_shortest .up hfits]
    · rw [hnil, shortest_exponent_nonneg_iff .up hfits hzero]

/-- Digits with a point behind them, and digits behind the point if there are any, are a numeral. -/
theorem readNumeral?_pointed {whole fraction : List Char} (hne : whole ≠ [])
    (hwhole : ∀ c ∈ whole, c.isDigit = true) (hfraction : ∀ c ∈ fraction, c.isDigit = true) :
    readNumeral? (whole ++ '.' :: fraction) = some ⟨whole, fraction, 0⟩ := by
  have hpoint : Ends Char.isDigit ('.' :: fraction) := by simp
  have htake := takeWhile_run hwhole hpoint
  have hdrop := dropWhile_run hwhole hpoint
  have htake' := takeWhile_run hfraction (ends_nil _)
  have hdrop' := dropWhile_run hfraction (ends_nil _)
  rw [List.append_nil] at htake' hdrop'
  have hempty : whole.isEmpty = false := by simpa using hne
  simp only [readNumeral?, htake, hdrop, htake', hdrop', hempty, Bool.false_and, Bool.false_eq_true,
    if_false]
  rfl

/-- Digits are a numeral. -/
theorem readNumeral?_digits {whole : List Char} (hne : whole ≠ [])
    (hwhole : ∀ c ∈ whole, c.isDigit = true) : readNumeral? whole = some ⟨whole, [], 0⟩ := by
  have htake := takeWhile_run hwhole (ends_nil _)
  have hdrop := dropWhile_run hwhole (ends_nil _)
  rw [List.append_nil] at htake hdrop
  have hempty : whole.isEmpty = false := by simpa using hne
  simp only [readNumeral?, htake, hdrop, hempty, Bool.false_and, Bool.false_eq_true, if_false]
  rfl

/-- A text that starts with a digit has no sign and is none of the words. -/
theorem parse?_of_isDigit {c : Char} {cs : List Char} (hc : c.isDigit = true) :
    parse? (String.ofList (c :: cs)) = (readNumeral? (c :: cs)).map (Numeral.value false) := by
  have hsign : splitSign (c :: cs) = (false, c :: cs) := by
    unfold splitSign
    split
    next h =>
      obtain rfl := (List.cons.inj h).1
      exact absurd hc (by decide)
    next h =>
      obtain rfl := (List.cons.inj h).1
      exact absurd hc (by decide)
    next => rfl
  -- the words are compared in lower case, where a digit stays a digit
  have hlower : c.toLower = c := by
    have hsame : digits.all (fun d => d.toLower == d) = true := by decide
    exact beq_iff_eq.1 (List.all_eq_true.1 hsame c (mem_digits_of_isDigit hc))
  have hword : ∀ (first : Char) (rest : List Char), first.isDigit = false →
      (String.ofList ((c :: cs).map Char.toLower) == String.ofList (first :: rest)) = false := by
    intro first rest hfirst
    rw [beq_eq_false_iff_ne, ne_eq, String.ofList_inj, List.map_cons, hlower, List.cons.injEq]
    rintro ⟨rfl, -⟩
    simp [hc] at hfirst
  have hinf := hword 'i' ['n', 'f'] (by decide)
  have hinfinity := hword 'i' ['n', 'f', 'i', 'n', 'i', 't', 'y'] (by decide)
  have hnan := hword 'n' ['a', 'n'] (by decide)
  simp only [parse?, String.toList_ofList, hsign]
  rw [show "inf" = String.ofList ['i', 'n', 'f'] from rfl,
    show "infinity" = String.ofList ['i', 'n', 'f', 'i', 'n', 'i', 't', 'y'] from rfl,
    show "nan" = String.ofList ['n', 'a', 'n'] from rfl, hinf, hinfinity, hnan]
  rfl

namespace WrittenAs

variable {units : Nat} {whole fraction : List Char}

/-- A text that starts with the digits before the point is read as a numeral. -/
theorem parse?_append (h : WrittenAs units whole fraction) (rest : List Char) :
    parse? (String.ofList (whole ++ rest)) =
      (readNumeral? (whole ++ rest)).map (Numeral.value false) := by
  obtain ⟨c, cs, rfl⟩ := List.exists_cons_of_ne_nil h.whole_ne_nil
  exact parse?_of_isDigit (h.isDigit_whole c (by simp))

/-- Digits with a point behind them, and digits behind the point if there are any, read back. -/
theorem parse?_pointed (h : WrittenAs units whole fraction) :
    parse? (String.ofList (whole ++ '.' :: fraction)) = some (ofUnits false units) := by
  rw [h.parse?_append, readNumeral?_pointed h.whole_ne_nil h.isDigit_whole h.isDigit_fraction,
    Option.map_some, Numeral.value, Int.zero_sub, h.value]

/-- What is written reads back. -/
theorem parse?_eq (h : WrittenAs units whole fraction) :
    parse? (String.ofList (whole ++ pointed fraction)) = some (ofUnits false units) := by
  by_cases hnil : fraction = []
  · subst hnil
    have hvalue := h.value
    rw [List.append_nil] at hvalue
    rw [pointed, if_pos rfl, h.parse?_append, List.append_nil,
      readNumeral?_digits h.whole_ne_nil h.isDigit_whole, Option.map_some, Numeral.value,
      Int.zero_sub, List.append_nil, hvalue]
  · rw [pointed, if_neg hnil]
    exact h.parse?_pointed

end WrittenAs

end Formulas.Number
