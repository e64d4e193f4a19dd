import Mathlib
import Formulas.Proofs.DateTime.RoundTrip

/-!
# Dates and times of the calendar

A real date-time is a date of the Gregorian calendar, extended to all years, and a time of the
clock. The calendar is that of the standard library, whose dates are `Std.Time.PlainDate`. With it a
text denotes a date-time exactly if it has the format of one, and its fields are a date of the
calendar, a time of the clock and an offset that is not too large.

## Main results

* `DateTime.daysInMonth_eq`: the months have as many days as in the calendar;
* `DateTime.isReal_iff_exists_plainDate`: a real date-time is a date of the calendar and a time of
  the clock;
* `DateTime.ofText?_eq_some_iff`: a text denotes a date-time exactly if it splits into a form of it.
-/

namespace Formulas.DateTime

open Text

open Std.Time in
/-- The days of the months, as the calendar has them. -/
theorem daysInMonth_eq (year : Year.Offset) (month : Month.Ordinal) :
    (month.days year.isLeap).val = daysInMonth year.toInt month.val.toNat := by
  have hleap : year.isLeap = true ↔ IsLeap year.toInt := by
    simp only [Year.Offset.isLeap, IsLeap, decide_eq_true_iff, ← Int.dvd_iff_tmod_eq_zero, ne_eq]
    omega
  -- the calendar has a table of the months, with the leap day apart
  have hdays : ∀ (leap : Bool) (m : Fin 12), (Month.Ordinal.days leap
      ⟨((m.val + 1 : Nat) : Int), by omega, by omega⟩).val =
        if m.val + 1 = 4 ∨ m.val + 1 = 6 ∨ m.val + 1 = 9 ∨ m.val + 1 = 11 then 30
        else if m.val + 1 = 2 then if leap then 29 else 28
        else 31 := by decide
  obtain ⟨month, hfirst, hlast⟩ := month
  obtain ⟨m, rfl⟩ : ∃ m : Fin 12, ((m.val + 1 : Nat) : Int) = month :=
    ⟨⟨(month - 1).toNat, by omega⟩, by simp; omega⟩
  rw [hdays, Int.toNat_natCast, daysInMonth]
  simp only [← hleap]
  split
  · rfl
  · split
    · split <;> rfl
    · rfl

open Std.Time in
/-- A date-time is real exactly if it is a date of the calendar and a time of the clock. -/
theorem isReal_iff_exists_plainDate (d : DateTime) : d.IsReal ↔
    (∃ date : PlainDate, date.year.toInt = d.year ∧ date.month.val = d.month ∧
      date.day.val = d.day) ∧
    1 ≤ d.year ∧ d.year ≤ 9999 ∧ d.hour < 24 ∧ d.minute < 60 ∧ d.second < 60 := by
  constructor
  · rintro ⟨hyear, hyear', hmonth, hmonth', hday, hday', hhour, hminute, hsecond⟩
    refine ⟨?_, hyear, hyear', hhour, hminute, hsecond⟩
    -- any date with such a day is one of the calendar
    have hday31 := Nat.le_trans hday' (daysInMonth_le d.year d.month)
    refine ⟨⟨d.year, ⟨d.month, by omega, by omega⟩, ⟨d.day, by omega, by omega⟩, ?_⟩, rfl, rfl,
      rfl⟩
    exact Int.le_trans (Int.ofNat_le.2 hday') (daysInMonth_eq _ _).ge
  · rintro ⟨⟨date, hyear, hmonth, hday⟩, hyear₁, hyear₂, hhour, hminute, hsecond⟩
    have hvalid : date.day.val ≤ (date.month.days date.year.isLeap).val := date.valid
    rw [daysInMonth_eq, hyear, hmonth, hday, Int.toNat_natCast] at hvalid
    have hmonth' := date.month.property
    have hday' := date.day.property
    refine ⟨hyear₁, hyear₂, ?_, ?_, ?_, ?_, hhour, hminute, hsecond⟩ <;> omega

/-- A text denotes a date-time exactly if it is, without the blanks around it, the text of a form
whose offset is not too large, and the date-time that the form makes is a date of the calendar in
the years from 1 to 9999 and a time of the clock. A text is that of one form at most. -/
theorem ofText?_eq_some_iff (text : String) (d : DateTime) :
    (ofText? text = some d ↔
      ∃ form : Form, form.chars = trim text.toList ∧ form.toDateTime = d ∧ form.zone.InRange ∧
        (∃ date : Std.Time.PlainDate, date.year.toInt = d.year ∧ date.month.val = d.month ∧
          date.day.val = d.day) ∧
        1 ≤ d.year ∧ d.year ≤ 9999 ∧ d.hour < 24 ∧ d.minute < 60 ∧ d.second < 60) ∧
    Function.Injective Form.chars := by
  refine ⟨?_, Form.chars_injective⟩
  rw [ofText?_iff_exists_form]
  simp only [isReal_iff_exists_plainDate]

/-- The space behind the date is a blank in front of the offset: no time of day follows. -/
example : ofText? " 2024-02-29 -00:30\n" = some ⟨2024, 2, 29, 0, 0, 0, some (-30)⟩ := by decide

end Formulas.DateTime
