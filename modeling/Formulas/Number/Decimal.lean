import Formulas.Number.Basic

/-!
# Decimal numerals

The number that a decimal numeral denotes is the nearest one; of two at the same distance it is
the one whose last significant bit is zero. A numeral beyond the greatest number denotes an
infinity, and one below half of the least positive number denotes zero.
-/

namespace Formulas.Number

/-- The integer nearest to a quotient; a half goes to the even neighbour. -/
def roundQuotient (num den : Nat) : Nat :=
  let quotient := num / den
  let twice := 2 * (num % den)
  if twice < den then quotient
  else if den < twice then quotient + 1
  else quotient + quotient % 2

/-- The magnitude nearest to a quotient of units that has at most 53 significant bits. -/
def roundUnits (num den : Nat) : Nat :=
  let step := Nat.pow 2 ((num / den).log2 - 52)
  roundQuotient num (den * step) * step

/-- The number nearest to `coefficient * 10 ^ exponent` with the given sign. The two bounds on the
exponent answer at once what is past the greatest number or rounds to zero. -/
def ofDecimal (negative : Bool) (coefficient : Nat) (exponent : Int) : Number :=
  if coefficient = 0 then ofUnits negative 0
  else match exponent with
    | .ofNat e =>
      if 308 < e then .infinite negative
      else ofUnits negative (roundUnits (coefficient * Nat.pow 10 e * unitsOfOne) 1)
    | .negSucc e =>
      if coefficient.log2 + 1076 < 3 * (e + 1) then ofUnits negative 0
      else ofUnits negative (roundUnits (coefficient * unitsOfOne) (Nat.pow 10 (e + 1)))

/-- The ratio of a circle's circumference to its diameter. -/
def pi : Number := ofDecimal false 3141592653589793 (-15)

/-- The natural number written by decimal digits. -/
def ofDigits (digits : List Char) : Nat :=
  digits.foldl (fun n c => 10 * n + (c.toNat - '0'.toNat)) 0

/-- The parts of a numeral without a sign: digits before and after the point, and the exponent. -/
structure Numeral where
  /-- The digits before the point. -/
  whole : List Char
  /-- The digits after the point. -/
  fraction : List Char
  /-- The power of ten that follows. -/
  exponent : Int

/-- The number that a signed numeral denotes. -/
def Numeral.value (negative : Bool) (n : Numeral) : Number :=
  ofDecimal negative (ofDigits (n.whole ++ n.fraction)) (n.exponent - n.fraction.length)

/-- An optional sign, and what follows it. -/
def splitSign : List Char → Bool × List Char
  | '-' :: rest => (true, rest)
  | '+' :: rest => (false, rest)
  | rest => (false, rest)

/-- Reads an exponent mark with an integer up to the end of the text; no text is the exponent
zero. -/
def readExponent? : List Char → Option Int
  | [] => some 0
  | mark :: rest =>
    let (negative, digits) := splitSign rest
    if (mark == 'e' || mark == 'E') && !digits.isEmpty && digits.all Char.isDigit then
      let magnitude : Int := (ofDigits digits : Nat)
      some (if negative then -magnitude else magnitude)
    else none

/-- Reads digits with an optional point among or beside them and an optional exponent, up to the
end of the text. At least one digit is needed beside the point. -/
def readNumeral? (cs : List Char) : Option Numeral :=
  let whole := cs.takeWhile Char.isDigit
  let (fraction, rest) := match cs.dropWhile Char.isDigit with
    | '.' :: rest => (rest.takeWhile Char.isDigit, rest.dropWhile Char.isDigit)
    | rest => ([], rest)
  if whole.isEmpty && fraction.isEmpty then none
  else (readExponent? rest).map (⟨whole, fraction, ·⟩)

/-- Reads a number: an optional sign and a numeral, or one of the words for the infinities and for
the value that is not a number, in any case of letters. -/
def parse? (text : String) : Option Number :=
  let (negative, rest) := splitSign text.toList
  let word := String.ofList (rest.map Char.toLower)
  if word == "inf" || word == "infinity" then some (.infinite negative)
  else if word == "nan" then some .nan
  else (readNumeral? rest).map (·.value negative)

end Formulas.Number
