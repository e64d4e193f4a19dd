import Formulas.DateTime
import Formulas.Number.Decimal
import Formulas.Text.Blank

/-!
# Reading dates and times

The format is that of ISO 8601 with some freedom: a year of four digits, a month and a day of one
or two; then, behind `T` or one space, hours of one or two digits and minutes, with seconds and a
fraction of them at will; then blanks; then `Z` or a signed offset of hours and minutes with or
without a colon. Blanks around the whole are skipped and the fraction is dropped.
-/

namespace Formulas.DateTime

/-- A field of at least `least` and at most `most` digits, and what follows it. -/
def readField? (least most : Nat) (cs : List Char) : Option (Nat × List Char) :=
  let digits := (cs.take most).takeWhile Char.isDigit
  if least ≤ digits.length then some (Number.ofDigits digits, cs.drop digits.length) else none

/-- What follows a given character. -/
def readChar? (c : Char) : List Char → Option (List Char)
  | d :: rest => if d == c then some rest else none
  | [] => none

/-- Year, month and day. -/
def readDate? (cs : List Char) : Option ((Nat × Nat × Nat) × List Char) := do
  let (year, cs) ← readField? 4 4 cs
  let cs ← readChar? '-' cs
  let (month, cs) ← readField? 1 2 cs
  let cs ← readChar? '-' cs
  let (day, cs) ← readField? 1 2 cs
  return ((year, month, day), cs)

/-- What follows a point and the digits behind it, if there are any. -/
def dropFraction (cs : List Char) : List Char :=
  match cs with
  | '.' :: d :: rest => if d.isDigit then rest.dropWhile Char.isDigit else cs
  | _ => cs

/-- Hours and minutes, and seconds if a colon follows. -/
def readTime? (cs : List Char) : Option ((Nat × Nat × Nat) × List Char) := do
  let (hour, cs) ← readField? 1 2 cs
  let cs ← readChar? ':' cs
  let (minute, cs) ← readField? 2 2 cs
  match readChar? ':' cs with
  | some cs =>
    let (second, cs) ← readField? 2 2 cs
    return ((hour, minute, second), dropFraction cs)
  | none => return ((hour, minute, 0), cs)

/-- The time of day behind `T` or a space. Where none follows it is midnight, and nothing is
taken from the text. -/
def readTimeOfDay (cs : List Char) : (Nat × Nat × Nat) × List Char :=
  match cs with
  | c :: rest =>
    if c == 'T' || c == ' ' then (readTime? rest).getD ((0, 0, 0), cs) else ((0, 0, 0), cs)
  | [] => ((0, 0, 0), [])

/-- The offset in minutes that is the rest of a text; no text is no offset. -/
def readOffset? : List Char → Option (Option Int)
  | [] => some none
  | sign :: rest =>
    if sign == 'Z' && rest.isEmpty then some (some 0)
    else if sign == '+' || sign == '-' then do
      let (hours, cs) ← readField? 2 2 rest
      let (minutes, cs) ← readField? 2 2 ((readChar? ':' cs).getD cs)
      if cs.isEmpty ∧ hours ≤ 14 ∧ minutes < 60 then
        let offset : Int := (hours * 60 + minutes : Nat)
        return some (if sign == '-' then -offset else offset)
      else none
    else none

/-- The date-time that a text denotes, if it denotes one. -/
def ofText? (text : String) : Option DateTime := do
  let ((year, month, day), cs) ← readDate? (Text.trim text.toList)
  let ((hour, minute, second), cs) := readTimeOfDay cs
  let offset ← readOffset? (Text.dropBlanks cs)
  ofParts? year month day hour minute second offset

end Formulas.DateTime
