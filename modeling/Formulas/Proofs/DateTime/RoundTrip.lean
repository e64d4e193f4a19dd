import Formulas.Proofs.DateTime.Format
import Formulas.Proofs.Number.Text

/-!
# Dates and times read back

The text of a date-time has a field of fixed width for every part, so it is that of a form of the
date-time, and is read as such.

## Main definitions

* `DateTime.HasOffset`: the offset of a date-time can be written in two digits of hours and minutes;
* `DateTime.alphabet`: the characters that the text of a date-time is made of.

## Main results

* `DateTime.exists_form`: the text of a real date-time is that of a form of it;
* `DateTime.ofText?_toText`: the text of a real date-time reads back;
* `DateTime.isReal_of_ofText?`: what is read is a real date-time.
-/

namespace Formulas.DateTime

open Number Text

/-- The offset is absent or at most 14 hours and 59 minutes. -/
def HasOffset (d : DateTime) : Prop := ∀ offset ∈ d.offset, offset.natAbs ≤ 899

/-- The digits of a field. -/
theorem isDigit_of_mem_padded {width n : Nat} {c : Char} (h : c ∈ padded width n) :
    c.isDigit = true := by
  rcases List.mem_append.1 h with h | h
  · exact isDigit_of_mem_zeros h
  · exact Nat.isDigit_of_mem_toDigits (by decide) (by decide) h

/-- A field is as wide as it is meant to be, if the number fits in. -/
theorem length_padded {width n : Nat} (hwidth : 0 < width) (h : n < 10 ^ width) :
    (padded width n).length = width := by
  have hle := (Nat.length_toDigits_le_iff (by decide : 1 < 10) hwidth).2 h
  simp only [padded, List.length_append, List.length_replicate]
  omega

/-- A field denotes its number. -/
theorem ofDigits_padded (width n : Nat) : ofDigits (padded width n) = n := by
  have hzeros := ofDigits_zeros_append (width - (Nat.toDigits 10 n).length) (Nat.toDigits 10 n)
  rw [ofDigits_toDigits] at hzeros
  exact hzeros

/-- A text without blanks is left as it is. -/
theorem trim_eq_self {cs : List Char} (h : ∀ c ∈ cs, isBlank c = false) : trim cs = cs := by
  have hdrop : ∀ cs : List Char, (∀ c ∈ cs, isBlank c = false) → dropBlanks cs = cs := by
    intro cs hcs
    exact dropWhile_of_ends fun c hc => hcs c (List.mem_of_mem_head? hc)
  rw [trim, hdrop cs h, dropBlanksRight, hdrop _ fun c hc => h c (List.mem_reverse.1 hc),
    List.reverse_reverse]

/-- The characters that the text of a date-time is made of. -/
def alphabet : List Char := digits ++ ['-', '+', ':', 'T', 'Z']

theorem mem_alphabet_of_mem_padded {width n : Nat} {c : Char} (h : c ∈ padded width n) :
    c ∈ alphabet :=
  List.mem_append_left _ (mem_digits_of_isDigit (isDigit_of_mem_padded h))

/-- The text of an offset is made of these characters. -/
theorem mem_alphabet_of_mem_offsetText {offset : Int} : ∀ c ∈ offsetText offset, c ∈ alphabet := by
  unfold offsetText
  split
  · rw [List.forall_mem_singleton]
    decide
  · rw [List.forall_mem_cons, List.forall_mem_append, List.forall_mem_cons]
    refine ⟨?_, fun _ => mem_alphabet_of_mem_padded, by decide, fun _ => mem_alphabet_of_mem_padded⟩
    split <;> decide

/-- The text of a date-time is made of these characters. -/
theorem mem_alphabet_of_mem_chars {d : DateTime} : ∀ c ∈ d.chars, c ∈ alphabet := by
  have hfield : ∀ {width n : Nat}, ∀ c ∈ padded width n, c ∈ alphabet :=
    fun _ => mem_alphabet_of_mem_padded
  have hyear : ∀ c ∈ paddedInt 4 d.year, c ∈ alphabet := by
    unfold paddedInt
    split
    · rw [List.forall_mem_cons]
      exact ⟨by decide, hfield⟩
    · exact hfield
  have hoffset : ∀ c ∈ d.offset.elim [] offsetText, c ∈ alphabet := by
    cases d.offset with
    | none => simp
    | some offset => exact mem_alphabet_of_mem_offsetText
  have hmark : '-' ∈ alphabet ∧ 'T' ∈ alphabet ∧ ':' ∈ alphabet := by decide
  rw [chars]
  simp only [List.forall_mem_append, List.forall_mem_cons]
  exact ⟨⟨⟨⟨⟨⟨hyear, hmark.1, hfield⟩, hmark.1, hfield⟩, hmark.2.1, hfield⟩, hmark.2.2, hfield⟩,
    hmark.2.2, hfield⟩, hoffset⟩

theorem isBlank_of_mem_alphabet {c : Char} (h : c ∈ alphabet) : isBlank c = false := by
  have hnone : alphabet.all (fun c => !isBlank c) = true := by decide
  simpa using List.all_eq_true.1 hnone c h

/-- No month has more than 31 days. -/
theorem daysInMonth_le (year : Int) (month : Nat) : daysInMonth year month ≤ 31 := by
  unfold daysInMonth
  split
  · decide
  · split
    · split <;> decide
    · decide

/-! ### The form of a date-time -/

/-- A number with zeros up to the width of a field is a field that denotes it. -/
theorem exists_field {least width n : Nat} (hleast : least ≤ width) (hwidth : 0 < width)
    (h : n < 10 ^ width) : ∃ f : Field least width, f.digits = padded width n ∧ f.value = n := by
  have hlength := length_padded hwidth h
  exact ⟨⟨padded width n, fun _ => isDigit_of_mem_padded, by omega, by omega⟩, rfl,
    ofDigits_padded width n⟩

/-- The text of an offset of at most 14 hours and 59 minutes is that of a zone. -/
theorem exists_zone {offset : Option Int} (h : ∀ o ∈ offset, o.natAbs ≤ 899) :
    ∃ zone : Zone, zone.chars = offset.elim [] offsetText ∧ zone.InRange ∧
      zone.offset = offset := by
  rcases offset with _ | offset
  · exact ⟨.unknown, rfl, trivial, rfl⟩
  · have hle := h offset rfl
    by_cases hzero : offset = 0
    · exact ⟨.universal, by rw [Option.elim_some, offsetText, if_pos hzero]; rfl, trivial,
        by rw [hzero]; rfl⟩
    · obtain ⟨hours, hhours, hhours'⟩ : ∃ f : Field 2 2, f.digits = _ ∧ f.value = _ :=
        exists_field (Nat.le_refl 2) Nat.two_pos (n := offset.natAbs / 60) (by omega)
      obtain ⟨minutes, hminutes, hminutes'⟩ : ∃ f : Field 2 2, f.digits = _ ∧ f.value = _ :=
        exists_field (Nat.le_refl 2) Nat.two_pos (n := offset.natAbs % 60) (by omega)
      refine ⟨.signed (decide (offset < 0)) hours true minutes, ?_, ?_, ?_⟩
      · simp only [Zone.chars, hhours, hminutes, Option.elim_some, offsetText, if_neg hzero,
          decide_eq_true_eq]
        rfl
      · rw [Zone.InRange, hhours', hminutes']
        omega
      · simp only [Zone.offset, hhours', hminutes', decide_eq_true_eq]
        congr 1
        split <;> omega

/-- The text of a real date-time is that of a form of it. -/
theorem exists_form {d : DateTime} (hreal : d.IsReal) (hoffset : d.HasOffset) :
    ∃ f : Form, f.chars = d.chars ∧ f.toDateTime = d ∧ f.zone.InRange := by
  obtain ⟨year, month, day, hour, minute, second, offset⟩ := d
  obtain ⟨hyear, hyear', -, hmonth, -, hday, hhour, hminute, hsecond⟩ := hreal
  have hday' := daysInMonth_le year month
  simp only at hyear hyear' hmonth hday hhour hminute hsecond
  -- a real date has a year that is written without a sign
  obtain ⟨year, rfl⟩ := Int.eq_ofNat_of_zero_le (Int.le_trans (by decide) hyear)
  have hnonneg : ¬ (year : Int) < 0 := Int.not_lt.2 (Int.natCast_nonneg year)
  obtain ⟨years, hyears, hyears'⟩ : ∃ f : Field 4 4, f.digits = _ ∧ f.value = _ :=
    exists_field (Nat.le_refl 4) (by decide) (by omega : year < 10 ^ 4)
  have hfield {least n : Nat} (hleast : least ≤ 2) (h : n < 100) :
      ∃ f : Field least 2, f.digits = padded 2 n ∧ f.value = n :=
    exists_field hleast Nat.two_pos h
  obtain ⟨months, hmonths, hmonths'⟩ := hfield (Nat.le_succ 1) (by omega : month < 100)
  obtain ⟨days, hdays, hdays'⟩ := hfield (Nat.le_succ 1) (by omega : day < 100)
  obtain ⟨hours, hhours, hhours'⟩ := hfield (Nat.le_succ 1) (by omega : hour < 100)
  obtain ⟨minutes, hminutes, hminutes'⟩ := hfield (Nat.le_refl 2) (by omega : minute < 100)
  obtain ⟨seconds, hseconds, hseconds'⟩ := hfield (Nat.le_refl 2) (by omega : second < 100)
  obtain ⟨zone, hzone, hrange, hzone'⟩ := exists_zone hoffset
  refine ⟨⟨years, months, days, some ⟨false, hours, minutes, some (seconds, none)⟩, ⟨[], by simp⟩,
    zone⟩, ?_, ?_, hrange⟩
  · simp [Form.chars, Form.tail, Clock.chars, Clock.behindMark, Clock.secondChars, chars, paddedInt,
      hnonneg, hyears, hmonths, hdays, hhours, hminutes, hseconds, hzone]
  · simp [Form.toDateTime, Form.time, Clock.value, hyears', hmonths', hdays', hhours', hminutes',
      hseconds', hzone']

/-- The text of a real date-time reads back. -/
theorem ofText?_toText {d : DateTime} (hreal : d.IsReal) (hoffset : d.HasOffset) :
    ofText? d.toText = some d := by
  obtain ⟨f, hchars, hf, hrange⟩ := exists_form hreal hoffset
  have htrim : trim d.chars = d.chars :=
    trim_eq_self fun c hc => isBlank_of_mem_alphabet (mem_alphabet_of_mem_chars c hc)
  refine ofText?_iff_exists_form.2 ⟨f, ?_, hf, hrange, hreal⟩
  rw [toText, String.toList_ofList, htrim, hchars]

/-! ### What is read -/

/-- An offset that is not too large has at most 14 hours and 59 minutes. -/
theorem Zone.InRange.natAbs_le {zone : Zone} (h : zone.InRange) :
    ∀ o ∈ zone.offset, o.natAbs ≤ 899 := by
  rcases zone with _ | _ | ⟨negative, hours, colon, minutes⟩
  · simp [Zone.offset]
  · simp [Zone.offset]
  · rintro _ ⟨⟩
    obtain ⟨hhours, hminutes⟩ := h
    split <;> omega

/-- What is read as a date-time is a real one with an offset that can be written. -/
theorem isReal_of_ofText? {text : String} {d : DateTime} (h : ofText? text = some d) :
    d.IsReal ∧ d.HasOffset := by
  obtain ⟨f, -, rfl, hrange, hreal⟩ := ofText?_iff_exists_form.1 h
  exact ⟨hreal, hrange.natAbs_le⟩

/-- A date-time of six integers has the offset that it is given. -/
theorem offset_of_ofParts? {year month day hour minute second : Int} {offset : Option Int}
    {d : DateTime} (h : ofParts? year month day hour minute second offset = some d) :
    d.offset = offset := by
  simp only [ofParts?] at h
  split at h
  · split at h
    · cases h
      rfl
    · cases h
  · cases h

end Formulas.DateTime
