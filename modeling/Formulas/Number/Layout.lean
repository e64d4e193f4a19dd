import Formulas.Number.Shortest

/-!
# Layouts of numbers

A layout turns the shortest decimal of a number into text: which magnitudes are written with all
their places and which with an exponent, whether a whole number keeps a zero after the point, and
how an exponent is signed.
-/

namespace Formulas.Number

/-- How numbers are written. -/
structure Layout where
  /-- The least exponent of the leading digit that is written with all places; none means all. -/
  placesFrom : Option Int
  /-- The greatest exponent of the leading digit that is written with all places; none means
  all. -/
  placesTo : Option Int
  /-- A whole number written with all places keeps `.0`. -/
  keepsPoint : Bool
  /-- An exponent that is not negative has a plus sign. -/
  signsExponent : Bool
  /-- Which of two equally near decimals is written. -/
  tie : Tie

/-- The text of a number in the formula language and in messages: all places, no point in a whole
number, and of two equally near decimals the greater. -/
def Layout.plain : Layout where
  placesFrom := none
  placesTo := none
  keepsPoint := false
  signsExponent := false
  tie := .up

/-- A run of zeros. -/
def zeros (count : Nat) : List Char := List.replicate count '0'

/-- The digits with a point after the first `place` of them, filled with zeros where there are
none. -/
def positional (keepsPoint : Bool) (digits : List Char) (place : Int) : List Char :=
  match place with
  | .ofNat p =>
    if p = 0 then '0' :: '.' :: digits
    else if p < digits.length then digits.take p ++ '.' :: digits.drop p
    else digits ++ zeros (p - digits.length) ++ if keepsPoint then ['.', '0'] else []
  | .negSucc p => '0' :: '.' :: (zeros (p + 1) ++ digits)

/-- The digits with a point after the first, and the exponent of the first. -/
def scientific (signsExponent : Bool) (digits : List Char) (exponent : Int) : List Char :=
  let mantissa := match digits with
    | first :: next :: rest => first :: '.' :: next :: rest
    | _ => digits
  let sign := if exponent < 0 then ['-'] else if signsExponent then ['+'] else []
  mantissa ++ 'e' :: (sign ++ Nat.toDigits 10 exponent.natAbs)

/-- The text of a magnitude. -/
def Layout.magnitude (layout : Layout) (units : Nat) : List Char :=
  if units = 0 then positional layout.keepsPoint ['0'] 1
  else
    let decimal := shortest layout.tie units
    let digits := Nat.toDigits 10 decimal.coefficient
    let place : Int := digits.length + decimal.exponent
    let leading := place - 1
    if layout.placesFrom.all (· ≤ leading) && layout.placesTo.all (leading ≤ ·) then
      positional layout.keepsPoint digits place
    else scientific layout.signsExponent digits leading

/-- The text of a number. -/
def Layout.write (layout : Layout) : Number → String
  | .finite negative units _ =>
    String.ofList ((if negative then ['-'] else []) ++ layout.magnitude units)
  | .infinite negative => if negative then "-inf" else "inf"
  | .nan => "NaN"

/-- The text of a number in the formula language and in messages. -/
def toText (x : Number) : String := Layout.plain.write x

end Formulas.Number
