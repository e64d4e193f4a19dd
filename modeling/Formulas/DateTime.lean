/-!
# Dates and times

A date-time is a calendar date with a time of day and an optional offset from universal time in
minutes. The calendar is the Gregorian one, extended to all years from 1 to 9999.
-/

namespace Formulas

/-- A calendar date and a time of day. -/
structure DateTime where
  year : Int
  month : Nat
  day : Nat
  hour : Nat
  minute : Nat
  second : Nat
  /-- The offset from universal time in minutes, if one is known. -/
  offset : Option Int
deriving DecidableEq

namespace DateTime

/-- The year has a 29th of February. -/
def IsLeap (year : Int) : Prop := (year % 4 = 0 ∧ year % 100 ≠ 0) ∨ year % 400 = 0

instance (year : Int) : Decidable (IsLeap year) := inferInstanceAs (Decidable (_ ∨ _))

/-- The number of days in a month. -/
def daysInMonth (year : Int) (month : Nat) : Nat :=
  if month = 4 ∨ month = 6 ∨ month = 9 ∨ month = 11 then 30
  else if month = 2 then if IsLeap year then 29 else 28
  else 31

/-- The date is on the calendar and the time is on the clock. -/
structure IsReal (d : DateTime) : Prop where
  year_pos : 1 ≤ d.year
  year_le : d.year ≤ 9999
  month_pos : 1 ≤ d.month
  month_le : d.month ≤ 12
  day_pos : 1 ≤ d.day
  day_le : d.day ≤ daysInMonth d.year d.month
  hour_lt : d.hour < 24
  minute_lt : d.minute < 60
  second_lt : d.second < 60

/-- The conditions on a date-time, as one conjunction. -/
theorem isReal_iff (d : DateTime) : d.IsReal ↔
    1 ≤ d.year ∧ d.year ≤ 9999 ∧ 1 ≤ d.month ∧ d.month ≤ 12 ∧ 1 ≤ d.day ∧
      d.day ≤ daysInMonth d.year d.month ∧ d.hour < 24 ∧ d.minute < 60 ∧ d.second < 60 :=
  ⟨fun ⟨a, b, c, d, e, f, g, h, i⟩ => ⟨a, b, c, d, e, f, g, h, i⟩,
    fun ⟨a, b, c, d, e, f, g, h, i⟩ => ⟨a, b, c, d, e, f, g, h, i⟩⟩

instance (d : DateTime) : Decidable d.IsReal := decidable_of_iff' _ d.isReal_iff

/-- An integer cast to 64 bits: one that is too large becomes the largest there is, and one that is
too small the smallest. -/
def saturated (n : Int) : Int := (Int64.ofIntClamp n).toInt

/-- The date-time of six integers, if it is a real one. -/
def ofParts? (year month day hour minute second : Int) (offset : Option Int) : Option DateTime :=
  if 0 ≤ month ∧ 0 ≤ day ∧ 0 ≤ hour ∧ 0 ≤ minute ∧ 0 ≤ second then
    let d : DateTime :=
      ⟨year, month.toNat, day.toNat, hour.toNat, minute.toNat, second.toNat, offset⟩
    if d.IsReal then some d else none
  else none

/-- The digits of a number, filled with zeros up to a width. -/
def padded (width n : Nat) : List Char :=
  let digits := Nat.toDigits 10 n
  List.replicate (width - digits.length) '0' ++ digits

/-- The digits of an integer, filled with zeros up to a width that counts the minus sign. -/
def paddedInt (width : Nat) (n : Int) : List Char :=
  if n < 0 then '-' :: padded (width - 1) n.natAbs else padded width n.natAbs

/-- The text of an offset: `Z` for none from universal time, else a sign, hours and minutes. -/
def offsetText (offset : Int) : List Char :=
  if offset = 0 then ['Z']
  else
    (if offset < 0 then '-' else '+') ::
      (padded 2 (offset.natAbs / 60) ++ ':' :: padded 2 (offset.natAbs % 60))

/-- The text of a date-time, as characters. -/
def chars (d : DateTime) : List Char :=
  paddedInt 4 d.year ++ '-' :: padded 2 d.month ++ '-' :: padded 2 d.day
    ++ 'T' :: padded 2 d.hour ++ ':' :: padded 2 d.minute ++ ':' :: padded 2 d.second
    ++ d.offset.elim [] offsetText

/-- The text of a date-time: date, time and offset in the extended form of ISO 8601. -/
def toText (d : DateTime) : String := String.ofList d.chars

/-- What six integers make is a real date-time. -/
theorem isReal_of_ofParts? {year month day hour minute second : Int} {offset : Option Int}
    {d : DateTime} (h : ofParts? year month day hour minute second offset = some d) :
    d.IsReal := by
  simp only [ofParts?] at h
  split at h
  · split at h
    · next real => exact Option.some.inj h ▸ real
    · simp at h
  · simp at h

end DateTime

end Formulas
