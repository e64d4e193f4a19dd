import Formulas.DateTime.Iso
import Formulas.Proofs.Text.Runs

/-!
# The format of dates and times

A text in the format of dates and times falls into fields of digits and the signs between them, in
one way only. `DateTime.Form` is that split as data: what its fields may be is part of the type, and
`Form.chars` puts them together again. A text denotes a date-time exactly if it is the text of a
form whose offset is not too large and the date-time that the form makes is a real one.

The space in front of a time of day could also be the first of the blanks behind a date. It is told
apart by what follows: a time of day goes on with a digit, and blanks never do. The same holds of
every other place where the format leaves something out.

## Main definitions

* `DateTime.Field`, `DateTime.Clock`, `DateTime.Zone`, `DateTime.Form`: the parts of a text;
* `DateTime.Form.chars` and `DateTime.Form.toDateTime`: the text of the parts, and what they denote.

## Main results

* `DateTime.readDate?_eq_some_iff`, `DateTime.readOffset?_eq_some_iff`: a date and an offset are
  what their readers take from a text;
* `DateTime.exists_readTimeOfDay` and `DateTime.readTimeOfDay_chars_append`: what is read as a time
  of day is one, and one that is given is read as a whole;
* `DateTime.Form.chars_injective`: a text splits in one way only;
* `DateTime.ofText?_iff_exists_form`: a text denotes a date-time exactly if it splits into a form of
  it.
-/

namespace Formulas

open Text

namespace DateTime

/-! ### The parts of a text -/

/-- A run of digits of bounded length. -/
@[ext]
structure Field (least most : Nat) where
  digits : List Char
  isDigit : ∀ c ∈ digits, c.isDigit = true
  least_le : least ≤ digits.length
  le_most : digits.length ≤ most

/-- The digits of a fraction of a second. -/
@[ext]
structure Fraction where
  digits : List Char
  isDigit : ∀ c ∈ digits, c.isDigit = true
  ne_nil : digits ≠ []

/-- A time of day behind its mark: hours, minutes, and at will seconds, with a fraction at will. -/
@[ext]
structure Clock where
  /-- The mark is a space, and else the letter `T`. -/
  spaced : Bool
  hour : Field 1 2
  minute : Field 2 2
  second : Option (Field 2 2 × Option Fraction)

/-- An offset from universal time. -/
inductive Zone
  /-- Nothing is said. -/
  | unknown
  /-- The letter `Z`. -/
  | universal
  /-- A sign, hours and minutes, at will with a colon between them. -/
  | signed (negative : Bool) (hours : Field 2 2) (colon : Bool) (minutes : Field 2 2)

/-- A text in the format of dates and times. -/
@[ext]
structure Form where
  year : Field 4 4
  month : Field 1 2
  day : Field 1 2
  clock : Option Clock
  /-- The blanks in front of the offset. -/
  blanks : { cs : List Char // ∀ c ∈ cs, isBlank c = true }
  zone : Zone

/-- The number that a field denotes. -/
def Field.value {least most : Nat} (f : Field least most) : Nat := Number.ofDigits f.digits

/-- The text of a fraction: a point and its digits. -/
def Fraction.chars (f : Fraction) : List Char := '.' :: f.digits

/-- The text of seconds: a colon, their digits, and the fraction if there is one. -/
def Clock.secondChars : Option (Field 2 2 × Option Fraction) → List Char
  | none => []
  | some (second, fraction) => ':' :: (second.digits ++ fraction.elim [] Fraction.chars)

/-- The text of a time of day behind its mark. -/
def Clock.behindMark (c : Clock) : List Char :=
  c.hour.digits ++ ':' :: (c.minute.digits ++ secondChars c.second)

/-- The text of a time of day. -/
def Clock.chars (c : Clock) : List Char := (if c.spaced then ' ' else 'T') :: c.behindMark

/-- The hours, minutes and seconds of a time of day. -/
def Clock.value (c : Clock) : Nat × Nat × Nat :=
  (c.hour.value, c.minute.value, c.second.elim 0 fun s => s.1.value)

/-- The text of an offset. -/
def Zone.chars : Zone → List Char
  | .unknown => []
  | .universal => ['Z']
  | .signed negative hours colon minutes =>
    (if negative then '-' else '+') ::
      (hours.digits ++ ((if colon then [':'] else []) ++ minutes.digits))

/-- The offset in minutes, if one is given. -/
def Zone.offset : Zone → Option Int
  | .unknown => none
  | .universal => some 0
  | .signed negative hours _ minutes =>
    let offset : Int := (hours.value * 60 + minutes.value : Nat)
    some (if negative then -offset else offset)

/-- The offset has at most 14 hours, and less than 60 minutes. -/
def Zone.InRange : Zone → Prop
  | .signed _ hours _ minutes => hours.value ≤ 14 ∧ minutes.value < 60
  | _ => True

namespace Form

/-- What stands behind the date and the time of day. -/
def tail (f : Form) : List Char := f.blanks.1 ++ f.zone.chars

/-- The text of a form. -/
def chars (f : Form) : List Char :=
  f.year.digits ++ '-' :: (f.month.digits ++ '-' :: (f.day.digits ++
    (f.clock.elim [] Clock.chars ++ f.tail)))

/-- The hours, minutes and seconds of a form, which are those of midnight if none are given. -/
def time (f : Form) : Nat × Nat × Nat := f.clock.elim (0, 0, 0) Clock.value

/-- What a form denotes. -/
def toDateTime (f : Form) : DateTime :=
  ⟨f.year.value, f.month.value, f.day.value, f.time.1, f.time.2.1, f.time.2.2, f.zone.offset⟩

end Form

/-! ### Fields -/

section Fields

variable {least most n : Nat} {cs rest rest' : List Char}

/-- A field is read from a text exactly if the text starts with it, and goes on with no digit that
could still belong to it. -/
theorem readField?_eq_some_iff : readField? least most cs = some (n, rest) ↔
    ∃ f : Field least most, cs = f.digits ++ rest ∧ f.value = n ∧
      (f.digits.length < most → Ends Char.isDigit rest) := by
  constructor
  · intro h
    simp only [readField?] at h
    split at h <;> cases h
    next hleast =>
      have hdigit : ∀ c ∈ (cs.take most).takeWhile Char.isDigit, c.isDigit = true :=
        List.all_eq_true.1 List.all_takeWhile
      have hstart : (cs.take most).takeWhile Char.isDigit <+: cs.take most :=
        List.takeWhile_prefix _
      have hmost : ((cs.take most).takeWhile Char.isDigit).length ≤ most :=
        Nat.le_trans hstart.length_le (List.length_take_le ..)
      refine ⟨⟨_, hdigit, hleast, hmost⟩,
        (List.prefix_iff_eq_append.1 (hstart.trans (List.take_prefix ..))).symm, rfl, ?_⟩
      -- a shorter run has ended inside of the characters that were looked at
      intro hshort
      have hbehind := (List.prefix_iff_eq_append.1 hstart).trans
        (List.takeWhile_append_dropWhile (p := Char.isDigit)).symm
      rw [← ends_take_iff (Nat.sub_pos_of_lt hshort), ← List.drop_take,
        List.append_cancel_left hbehind]
      exact ends_dropWhile _ _
  · rintro ⟨f, rfl, rfl, hends⟩
    have htake : (f.digits ++ rest).take most = f.digits ++ rest.take (most - f.digits.length) := by
      rw [List.take_append, List.take_of_length_le f.le_most]
    -- the run of digits stops behind the field, or the field is full
    have hstop : Ends Char.isDigit (rest.take (most - f.digits.length)) := by
      rcases Nat.lt_or_eq_of_le f.le_most with hlt | heq
      · exact (ends_take_iff (Nat.sub_pos_of_lt hlt)).2 (hends hlt)
      · simp [heq]
    have hdigits := takeWhile_run f.isDigit hstop
    simp only [readField?, htake, hdigits, f.least_le, if_true, List.drop_left]
    rfl

theorem Field.length_digits (f : Field n n) : f.digits.length = n :=
  Nat.le_antisymm f.le_most f.least_le

/-- A field of fixed width cannot take more digits. -/
theorem Field.ends_of_lt (f : Field n n) (hlt : f.digits.length < n) : Ends Char.isDigit rest :=
  absurd f.least_le (Nat.not_le.2 hlt)

/-- A field does not start with a colon. -/
theorem Field.ends_colon (f : Field (least + 1) most) : Ends (· == ':') (f.digits ++ rest) := by
  rcases hdigits : f.digits with _ | ⟨d, digits⟩
  · have hleast := f.least_le
    simp [hdigits] at hleast
  · have hd : d.isDigit = true := f.isDigit d (by simp [hdigits])
    rw [List.cons_append, ends_cons, beq_eq_false_iff_ne]
    rintro rfl
    exact absurd hd (by decide)

/-- A field is read, if no digit follows that could still belong to it. -/
theorem Field.readField?_append (f : Field least most) (rest : List Char)
    (hends : f.digits.length < most → Ends Char.isDigit rest) :
    readField? least most (f.digits ++ rest) = some (f.value, rest) :=
  readField?_eq_some_iff.2 ⟨f, rfl, rfl, hends⟩

/-- A field and what follows it are told apart. -/
theorem Field.append_inj {f f' : Field least most} (h : f.digits ++ rest = f'.digits ++ rest')
    (hends : f.digits.length < most → Ends Char.isDigit rest)
    (hends' : f'.digits.length < most → Ends Char.isDigit rest') : f = f' ∧ rest = rest' := by
  have hread := f.readField?_append rest hends
  rw [h, f'.readField?_append rest' hends', Option.some.injEq, Prod.mk.injEq] at hread
  obtain ⟨-, rfl⟩ := hread
  exact ⟨Field.ext (List.append_cancel_right h), rfl⟩

theorem readChar?_eq_some_iff {c : Char} : readChar? c cs = some rest ↔ cs = c :: rest := by
  unfold readChar?
  split
  next d tail =>
    rw [Option.ite_none_right_eq_some, Option.some.injEq, List.cons.injEq, beq_iff_eq]
  next => simp

@[simp]
theorem readChar?_cons (c : Char) (rest : List Char) : readChar? c (c :: rest) = some rest :=
  readChar?_eq_some_iff.2 rfl

/-- A text that goes on with another character than the one that is looked for. -/
theorem readChar?_eq_none {c : Char} (h : Ends (· == c) cs) : readChar? c cs = none := by
  rcases cs with _ | ⟨d, cs⟩
  · rfl
  · rw [ends_cons] at h
    simp only [readChar?, h, Bool.false_eq_true, if_false]

end Fields

/-! ### What stands behind a time of day -/

/-- The characters with which a date or a time of day can go on. -/
def goesOn (c : Char) : Bool := c.isDigit || c == ':' || c == '.' || c == 'T'

theorem goesOn_of_isBlank {c : Char} (h : isBlank c = true) : goesOn c = false := by
  have hnone : (members Text.blanks).all (fun c => !goesOn c) = true := by decide
  simpa using List.all_eq_true.1 hnone c (mem_members_of_inRanges h)

/-- Neither blanks nor an offset are taken for more of a date or a time of day. -/
theorem Zone.ends_goesOn {blanks : List Char} (hblanks : ∀ c ∈ blanks, isBlank c = true)
    (zone : Zone) : Ends goesOn (blanks ++ zone.chars) := by
  rcases blanks with _ | ⟨c, blanks⟩
  · rcases zone with _ | _ | ⟨_ | _⟩
    · exact ends_nil _
    all_goals exact (ends_cons ..).2 (by decide)
  · exact (ends_cons ..).2 (goesOn_of_isBlank (hblanks c List.mem_cons_self))

/-- An offset starts with no blank. -/
theorem Zone.ends_isBlank (zone : Zone) : Ends isBlank zone.chars := by
  rcases zone with _ | _ | ⟨_ | _⟩
  · exact ends_nil _
  all_goals exact (ends_cons ..).2 (by decide)

section Times

variable {cs rest : List Char}

theorem ends_isDigit (h : Ends goesOn rest) : Ends Char.isDigit rest :=
  h.mono fun c hc => by simp [goesOn, hc]

theorem ends_colon (h : Ends goesOn rest) : Ends (· == ':') rest :=
  h.mono fun c hc => by simp [goesOn, hc]

/-- What is dropped as a fraction is one. -/
theorem exists_dropFraction (cs : List Char) :
    ∃ fraction : Option Fraction, cs = fraction.elim [] Fraction.chars ++ dropFraction cs := by
  unfold dropFraction
  split
  next d rest =>
    split
    next hdigit =>
      refine ⟨some ⟨d :: rest.takeWhile Char.isDigit, ?_, by simp⟩, ?_⟩
      · exact List.forall_mem_cons.2 ⟨hdigit, List.all_eq_true.1 List.all_takeWhile⟩
      · simp [Fraction.chars]
    next => exact ⟨none, rfl⟩
  next => exact ⟨none, rfl⟩

/-- A fraction is dropped as a whole. -/
theorem dropFraction_chars_append (fraction : Option Fraction) (h : Ends goesOn rest) :
    dropFraction (fraction.elim [] Fraction.chars ++ rest) = rest := by
  rcases fraction with _ | ⟨_ | ⟨d, digits⟩, hdigits, hne⟩
  · rw [Option.elim_none, List.nil_append]
    unfold dropFraction
    split
    next d tail => simp [goesOn] at h
    next => rfl
  · exact absurd rfl hne
  · obtain ⟨hd, hdigits⟩ := List.forall_mem_cons.1 hdigits
    simp only [Option.elim_some, Fraction.chars, List.cons_append, dropFraction, hd, if_true]
    exact dropWhile_run hdigits (ends_isDigit h)

/-- What is read behind the mark of a time of day. -/
theorem exists_of_readTime? {time : Nat × Nat × Nat} (spaced : Bool)
    (h : readTime? cs = some (time, rest)) :
    ∃ clock : Clock, clock.spaced = spaced ∧ cs = clock.behindMark ++ rest ∧
      clock.value = time := by
  simp only [readTime?, Option.bind_eq_bind, Option.bind_eq_some_iff, Prod.exists,
    readField?_eq_some_iff, readChar?_eq_some_iff] at h
  obtain ⟨_, _, ⟨hour, rfl, rfl, -⟩, _, rfl, _, cs, ⟨minute, rfl, rfl, -⟩, h⟩ := h
  -- seconds are read exactly if a colon stands behind the minutes
  split at h
  next cs' hcolon =>
    obtain rfl := readChar?_eq_some_iff.1 hcolon
    simp only [Option.bind_eq_some_iff, Prod.exists, readField?_eq_some_iff] at h
    obtain ⟨_, cs'', ⟨second, rfl, rfl, -⟩, h⟩ := h
    cases h
    obtain ⟨fraction, hfraction⟩ := exists_dropFraction cs''
    refine ⟨⟨spaced, hour, minute, some (second, fraction)⟩, rfl, ?_, rfl⟩
    simp [Clock.behindMark, Clock.secondChars, ← hfraction]
  next =>
    cases h
    exact ⟨⟨spaced, hour, minute, none⟩, rfl, by simp [Clock.behindMark, Clock.secondChars], rfl⟩

/-- A time of day is read behind its mark. -/
theorem readTime?_behindMark_append (clock : Clock) (h : Ends goesOn rest) :
    readTime? (clock.behindMark ++ rest) = some (clock.value, rest) := by
  obtain ⟨spaced, hour, minute, second⟩ := clock
  have hhour (tail : List Char) := hour.readField?_append (':' :: tail)
    fun _ => (ends_cons Char.isDigit ':' tail).2 rfl
  rcases second with _ | ⟨second, fraction⟩
  · -- without seconds, what follows does not start with the colon that they need
    have hminute := minute.readField?_append rest minute.ends_of_lt
    simp only [Clock.behindMark, Clock.secondChars, List.append_nil, List.append_assoc,
      List.cons_append, readTime?, hhour, hminute, readChar?_cons, readChar?_eq_none (ends_colon h),
      Option.bind_eq_bind, Option.bind_some]
    rfl
  · have hminute (tail : List Char) := minute.readField?_append tail minute.ends_of_lt
    have hsecond (tail : List Char) := second.readField?_append tail second.ends_of_lt
    simp only [Clock.behindMark, Clock.secondChars, List.append_assoc, List.cons_append, readTime?,
      hhour, hminute, hsecond, readChar?_cons, dropFraction_chars_append fraction h,
      Option.bind_eq_bind, Option.bind_some]
    rfl

/-- No time of day is read where no digit stands. -/
theorem readTime?_eq_none (h : Ends Char.isDigit cs) : readTime? cs = none := by
  have htake : (cs.take 2).takeWhile Char.isDigit = [] :=
    takeWhile_of_ends ((ends_take_iff Nat.two_pos).2 h)
  simp only [readTime?, readField?, htake]
  rfl

/-- What is read as a time of day, with its mark, is one; or nothing is read. -/
theorem exists_readTimeOfDay (cs : List Char) : ∃ clock : Option Clock,
    cs = clock.elim [] Clock.chars ++ (readTimeOfDay cs).2 ∧
      clock.elim (0, 0, 0) Clock.value = (readTimeOfDay cs).1 := by
  rcases cs with _ | ⟨c, rest⟩
  · exact ⟨none, rfl, rfl⟩
  · simp only [readTimeOfDay]
    split
    next hmark =>
      rcases htime : readTime? rest with _ | ⟨time, behind⟩
      · exact ⟨none, rfl, rfl⟩
      · obtain ⟨clock, hspaced, rfl, rfl⟩ := exists_of_readTime? (c == ' ') htime
        refine ⟨some clock, ?_, rfl⟩
        have hc : (if clock.spaced then ' ' else 'T') = c := by
          rw [hspaced]
          rcases Bool.or_eq_true_iff.1 hmark with h | h <;> rw [eq_of_beq h] <;> rfl
        simp [Clock.chars, hc]
    next => exact ⟨none, rfl, rfl⟩

/-- A time of day is read as a whole, and none is read where none is given. -/
theorem readTimeOfDay_chars_append (clock : Option Clock) {blanks : List Char}
    (hblanks : ∀ c ∈ blanks, isBlank c = true) (zone : Zone) :
    readTimeOfDay (clock.elim [] Clock.chars ++ (blanks ++ zone.chars)) =
      (clock.elim (0, 0, 0) Clock.value, blanks ++ zone.chars) := by
  have hends := zone.ends_goesOn hblanks
  rcases clock with _ | clock
  · rcases blanks with _ | ⟨b, blanks⟩
    · -- an offset starts with neither mark
      rcases zone with _ | _ | ⟨_ | _⟩ <;> rfl
    · -- behind the blank that could be the mark stands no digit
      have hnone := readTime?_eq_none (ends_isDigit
        (zone.ends_goesOn fun c hc => hblanks c (List.mem_cons_of_mem b hc)))
      simp only [Option.elim_none, List.nil_append, List.cons_append, readTimeOfDay, hnone,
        Option.getD_none, ite_self]
  · have hmark : ((if clock.spaced then ' ' else 'T') == 'T' ||
        (if clock.spaced then ' ' else 'T') == ' ') = true := by
      split <;> rfl
    simp only [Option.elim_some, Clock.chars, List.cons_append, readTimeOfDay, hmark, if_true,
      readTime?_behindMark_append clock hends, Option.getD_some]

end Times

/-! ### The offset and the date -/

section Ends

variable {cs rest : List Char} {offset : Option Int}

/-- The minutes of an offset are read with or without a colon in front of them. -/
theorem readField?_colon_eq_some_iff {n : Nat} :
    readField? 2 2 ((readChar? ':' cs).getD cs) = some (n, rest) ↔
      ∃ (colon : Bool) (minutes : Field 2 2),
        cs = (if colon then [':'] else []) ++ (minutes.digits ++ rest) ∧ minutes.value = n := by
  constructor
  · intro h
    rcases hcolon : readChar? ':' cs with _ | behind
    · rw [hcolon, Option.getD_none] at h
      obtain ⟨minutes, rfl, rfl, -⟩ := readField?_eq_some_iff.1 h
      exact ⟨false, minutes, rfl, rfl⟩
    · rw [hcolon, Option.getD_some] at h
      obtain ⟨minutes, rfl, rfl, -⟩ := readField?_eq_some_iff.1 h
      exact ⟨true, minutes, readChar?_eq_some_iff.1 hcolon, rfl⟩
  · rintro ⟨colon, minutes, rfl, rfl⟩
    have hread := minutes.readField?_append rest minutes.ends_of_lt
    rcases colon with _ | _
    · simpa [readChar?_eq_none minutes.ends_colon] using hread
    · simpa using hread

/-- An offset is read exactly if the whole text is one that is not too large. -/
theorem readOffset?_eq_some_iff : readOffset? cs = some offset ↔
    ∃ zone : Zone, zone.chars = cs ∧ zone.InRange ∧ zone.offset = offset := by
  constructor
  · intro h
    rcases cs with _ | ⟨sign, rest⟩
    · exact ⟨.unknown, rfl, trivial, Option.some.inj h⟩
    · simp only [readOffset?] at h
      split at h
      next hzulu =>
        simp only [Bool.and_eq_true, beq_iff_eq, List.isEmpty_iff] at hzulu
        obtain ⟨rfl, rfl⟩ := hzulu
        exact ⟨.universal, rfl, trivial, Option.some.inj h⟩
      next =>
        -- what is left is a sign, hours and minutes, and nothing behind them
        simp only [Option.ite_none_right_eq_some, Option.bind_eq_bind, Option.bind_eq_some_iff,
          Prod.exists, readField?_colon_eq_some_iff] at h
        obtain ⟨hsign, _, _, hhours, _, _, ⟨colon, minutes, rfl, rfl⟩, ⟨hempty, hrange⟩, h⟩ := h
        obtain ⟨hours, rfl, rfl, -⟩ := readField?_eq_some_iff.1 hhours
        refine ⟨.signed (sign == '-') hours colon minutes, ?_, hrange, Option.some.inj h⟩
        have hsign' : (if sign == '-' then '-' else '+') = sign := by
          rcases Bool.or_eq_true_iff.1 hsign with h | h <;> rw [eq_of_beq h] <;> rfl
        rw [Zone.chars, hsign', List.isEmpty_iff.1 hempty, List.append_nil]
  · rintro ⟨_ | _ | ⟨negative, hours, colon, minutes⟩, rfl, hrange, rfl⟩
    · rfl
    · rfl
    · have hhours (tail : List Char) := hours.readField?_append tail hours.ends_of_lt
      have hminutes := readField?_colon_eq_some_iff.2
        ⟨colon, minutes, Eq.refl (_ ++ (_ ++ [])), rfl⟩
      have hrange' : ([] : List Char).isEmpty ∧ hours.value ≤ 14 ∧ minutes.value < 60 :=
        ⟨rfl, hrange⟩
      rw [List.append_nil] at hminutes
      rcases negative with _ | _ <;>
        simp only [Zone.chars, readOffset?, hhours, hminutes, Option.bind_eq_bind,
          Option.bind_some, if_pos hrange'] <;> rfl

/-- A date is read exactly if the text starts with one, and goes on with no digit that could still
belong to the day. -/
theorem readDate?_eq_some_iff {y m d : Nat} : readDate? cs = some ((y, m, d), rest) ↔
    ∃ (year : Field 4 4) (month day : Field 1 2),
      cs = year.digits ++ '-' :: (month.digits ++ '-' :: (day.digits ++ rest)) ∧
      (year.value = y ∧ month.value = m ∧ day.value = d) ∧
      (day.digits.length < 2 → Ends Char.isDigit rest) := by
  constructor
  · intro h
    simp only [readDate?, Option.bind_eq_bind, Option.bind_eq_some_iff, Prod.exists,
      readField?_eq_some_iff, readChar?_eq_some_iff] at h
    obtain ⟨_, _, ⟨year, rfl, rfl, -⟩, _, rfl, _, _, ⟨month, rfl, rfl, -⟩, _, rfl, _, _,
      ⟨day, rfl, rfl, hends⟩, h⟩ := h
    cases h
    exact ⟨year, month, day, rfl, ⟨rfl, rfl, rfl⟩, hends⟩
  · rintro ⟨year, month, day, rfl, ⟨rfl, rfl, rfl⟩, hends⟩
    have hyear (tail : List Char) := year.readField?_append tail year.ends_of_lt
    have hmonth (tail : List Char) := month.readField?_append ('-' :: tail)
      fun _ => (ends_cons Char.isDigit '-' tail).2 rfl
    simp only [readDate?, hyear, hmonth, day.readField?_append _ hends, readChar?_cons,
      Option.bind_eq_bind, Option.bind_some]
    rfl

/-- Six natural numbers make a date-time exactly if it is a real one. -/
theorem ofParts?_natCast {year month day hour minute second : Nat} {d : DateTime} :
    ofParts? year month day hour minute second offset = some d ↔
      ⟨year, month, day, hour, minute, second, offset⟩ = d ∧ d.IsReal := by
  simp only [ofParts?, Int.natCast_nonneg, and_self, if_true, Int.toNat_natCast]
  rw [Option.ite_none_right_eq_some, Option.some.injEq]
  constructor
  · rintro ⟨hreal, rfl⟩
    exact ⟨rfl, hreal⟩
  · rintro ⟨rfl, hreal⟩
    exact ⟨hreal, rfl⟩

end Ends

/-! ### The parts are unique -/

theorem Fraction.chars_ne_nil (fraction : Fraction) : fraction.chars ≠ [] := by
  simp [Fraction.chars]

theorem Clock.chars_ne_nil (clock : Clock) : clock.chars ≠ [] := by
  simp [Clock.chars]

theorem Fraction.chars_injective : Function.Injective Fraction.chars :=
  fun _ _ h => Fraction.ext (List.cons.inj h).2

/-- An optional part that is never empty is told from its absence. -/
theorem elim_injective {α : Type} {chars : α → List Char} (hne : ∀ a, chars a ≠ [])
    (h : Function.Injective chars) : Function.Injective fun part : Option α => part.elim [] chars
  | none, none, _ => rfl
  | none, some a, heq => absurd heq.symm (hne a)
  | some a, none, heq => absurd heq (hne a)
  | some _, some _, heq => congrArg some (h heq)

theorem Clock.secondChars_injective : Function.Injective Clock.secondChars := by
  have hfraction := elim_injective Fraction.chars_ne_nil Fraction.chars_injective
  intro second second' h
  rcases second with _ | ⟨second, fraction⟩ <;> rcases second' with _ | ⟨second', fraction'⟩
  · rfl
  · cases h
  · cases h
  · obtain ⟨rfl, hrest⟩ := Field.append_inj (List.cons.inj h).2 second.ends_of_lt
      second'.ends_of_lt
    rw [hfraction hrest]

theorem Clock.chars_injective : Function.Injective Clock.chars := by
  intro clock clock' h
  obtain ⟨hmark, hbehind⟩ := List.cons.inj h
  have hspaced : clock.spaced = clock'.spaced := by
    rcases hs : clock.spaced <;> rcases hs' : clock'.spaced <;> simp [hs, hs'] at hmark ⊢
  have hcolon (tail : List Char) : Ends Char.isDigit (':' :: tail) := (ends_cons ..).2 rfl
  obtain ⟨hhour, hrest⟩ := Field.append_inj hbehind (fun _ => hcolon _) fun _ => hcolon _
  obtain ⟨hminute, hsecond⟩ := Field.append_inj (List.cons.inj hrest).2 clock.minute.ends_of_lt
    clock'.minute.ends_of_lt
  exact Clock.ext hspaced hhour hminute (secondChars_injective hsecond)

theorem Zone.chars_injective : Function.Injective Zone.chars := by
  intro zone zone' h
  rcases zone with _ | _ | ⟨negative, hours, colon, minutes⟩ <;>
    rcases zone' with _ | _ | ⟨negative', hours', colon', minutes'⟩
  case signed.signed =>
    obtain ⟨hsign, hrest⟩ := List.cons.inj h
    have hnegative : negative = negative' := by
      rcases negative <;> rcases negative' <;> simp at hsign ⊢
    obtain ⟨hhours, hbehind⟩ := Field.append_inj hrest hours.ends_of_lt hours'.ends_of_lt
    -- a colon makes the text longer
    have hcolon : colon = colon' := by
      have hlength := congrArg List.length hbehind
      rcases colon <;> rcases colon' <;> simp [Field.length_digits] at hlength ⊢
    rw [hcolon] at hbehind
    rw [hnegative, hhours, hcolon, Field.ext (List.append_cancel_left hbehind)]
  -- other offsets start with different characters
  all_goals first
    | rfl
    | rcases negative with _ | _ <;> exact absurd (List.cons.inj h).1 (by decide)
    | rcases negative' with _ | _ <;> exact absurd (List.cons.inj h).1 (by decide)
    | cases h

/-- What stands behind the day of a form goes on with no digit. -/
theorem Form.ends_isDigit (f : Form) :
    Ends Char.isDigit (f.clock.elim [] Clock.chars ++ f.tail) := by
  rcases f.clock with _ | clock
  · exact DateTime.ends_isDigit (f.zone.ends_goesOn f.blanks.2)
  · refine (ends_cons ..).2 ?_
    split <;> rfl

/-- A text splits in one way only. -/
theorem Form.chars_injective : Function.Injective Form.chars := by
  intro f f' h
  have hdash (tail : List Char) : Ends Char.isDigit ('-' :: tail) := (ends_cons ..).2 rfl
  obtain ⟨hyear, h⟩ := Field.append_inj h f.year.ends_of_lt f'.year.ends_of_lt
  obtain ⟨hmonth, h⟩ := Field.append_inj (List.cons.inj h).2 (fun _ => hdash _) fun _ => hdash _
  obtain ⟨hday, h⟩ := Field.append_inj (List.cons.inj h).2 (fun _ => f.ends_isDigit)
    fun _ => f'.ends_isDigit
  -- the reader takes the same time of day from both texts
  have htime := readTimeOfDay_chars_append f.clock f.blanks.2 f.zone
  have htime' := readTimeOfDay_chars_append f'.clock f'.blanks.2 f'.zone
  rw [← tail, h, tail, htime', Prod.mk.injEq] at htime
  have htail : f.tail = f'.tail := htime.2.symm
  rw [htail] at h
  have hclock := elim_injective Clock.chars_ne_nil Clock.chars_injective
    (List.append_cancel_right h)
  obtain ⟨hblanks, hzone⟩ := append_inj_of_ends f.blanks.2 f'.blanks.2 f.zone.ends_isBlank
    f'.zone.ends_isBlank htail
  exact Form.ext hyear hmonth hday hclock (Subtype.ext hblanks) (Zone.chars_injective hzone)

/-! ### Whole texts -/

/-- A text denotes a date-time exactly if it is, without the blanks around it, the text of a form
that is the date-time. -/
theorem ofText?_iff_exists_form {text : String} {d : DateTime} : ofText? text = some d ↔
    ∃ f : Form, f.chars = trim text.toList ∧ f.toDateTime = d ∧ f.zone.InRange ∧ d.IsReal := by
  constructor
  · intro h
    simp only [ofText?, Option.bind_eq_bind, Option.bind_eq_some_iff] at h
    obtain ⟨⟨⟨_, _, _⟩, behind⟩, hdate, offset, hoffset, hparts⟩ := h
    obtain ⟨year, month, day, htext, ⟨rfl, rfl, rfl⟩, -⟩ := readDate?_eq_some_iff.1 hdate
    obtain ⟨clock, hbehind, htime⟩ := exists_readTimeOfDay behind
    obtain ⟨zone, hzone, hrange, rfl⟩ := readOffset?_eq_some_iff.1 hoffset
    obtain ⟨hd, hreal⟩ := ofParts?_natCast.1 hparts
    -- the parts that have been read make up the form, with the blanks that have been skipped
    refine ⟨⟨year, month, day, clock, ⟨(readTimeOfDay behind).2.takeWhile isBlank,
      List.all_eq_true.1 List.all_takeWhile⟩, zone⟩, ?_, ?_, hrange, hreal⟩
    · rw [Form.chars, Form.tail, hzone, dropBlanks, List.takeWhile_append_dropWhile, ← hbehind,
        htext]
    · rw [← hd]
      simp only [Form.toDateTime, Form.time, htime]
  · rintro ⟨f, hchars, rfl, hrange, hreal⟩
    have hdate := readDate?_eq_some_iff.2 ⟨f.year, f.month, f.day, hchars.symm, ⟨rfl, rfl, rfl⟩,
      fun _ => f.ends_isDigit⟩
    have htime := readTimeOfDay_chars_append f.clock f.blanks.2 f.zone
    have hblanks := dropWhile_run f.blanks.2 f.zone.ends_isBlank
    have hoffset := readOffset?_eq_some_iff.2 ⟨f.zone, rfl, hrange, rfl⟩
    have hparts := ofParts?_natCast.2 ⟨Eq.refl f.toDateTime, hreal⟩
    simp only [ofText?, hdate, Form.tail, htime, dropBlanks, hblanks, hoffset, Option.bind_eq_bind,
      Option.bind_some]
    exact hparts

end DateTime

end Formulas
