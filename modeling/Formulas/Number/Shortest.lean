import Formulas.Number.Decimal

/-!
# Shortest decimals

A number is written with the fewest decimal digits that read back as the same number. Among the
decimals of that many digits the nearest is taken; where two are equally near, the layout decides.

Any decimal with `n` digits that reads back lies on the grid of `n` digits around the number, and
then so does one of the number's two neighbours on that grid. It is enough to try those two, for
one digit, two digits and so on. Seventeen digits always suffice.
-/

namespace Formulas.Number

/-- Which of two equally near decimals is written. -/
inductive Tie
  /-- The greater one. -/
  | up
  /-- The one with an even last digit. -/
  | even
deriving DecidableEq

/-- A decimal `coefficient * 10 ^ exponent`. -/
structure Decimal where
  /-- The digits, as a natural number. -/
  coefficient : Nat
  /-- The power of ten. -/
  exponent : Int
deriving DecidableEq

/-- The count of decimal digits of a natural number. -/
def digitCount (n : Nat) : Nat := (Nat.toDigits 10 n).length

/-- The place of the decimal point: the least power of ten above the magnitude. From one up it is
the count of digits before the point; below one it is found from the reciprocal. -/
def magnitudePlace (units : Nat) : Int :=
  if unitsOfOne ≤ units then digitCount (units / unitsOfOne)
  else 1 - digitCount ((unitsOfOne - 1) / units)

/-- The magnitude over the grid `10 ^ exponent`, as a quotient. -/
def onGrid (units : Nat) (exponent : Int) : Nat × Nat :=
  match exponent with
  | .ofNat e => (units, unitsOfOne * Nat.pow 10 e)
  | .negSucc e => (units * Nat.pow 10 (e + 1), unitsOfOne)

/-- The decimal reads back as the magnitude. -/
def readsBack (units : Nat) (d : Decimal) : Bool :=
  (ofDecimal false d.coefficient d.exponent).units? == some units

/-- The nearest neighbour of the magnitude on a grid that reads back. -/
def neighbour? (tie : Tie) (units : Nat) (exponent : Int) : Option Decimal :=
  let (num, den) := onGrid units exponent
  let below : Decimal := ⟨num / den, exponent⟩
  let above : Decimal := ⟨num / den + 1, exponent⟩
  let twice := 2 * (num % den)
  let preferAbove :=
    den < twice || (twice == den && (tie == .up || below.coefficient % 2 == 1))
  let nearer := if preferAbove then above else below
  let other := if preferAbove then below else above
  if readsBack units nearer then some nearer
  else if readsBack units other then some other
  else none

/-- The magnitude itself as a decimal. -/
def exactDecimal (units : Nat) : Decimal := ⟨units * Nat.pow 5 1074, -1074⟩

/-- The decimal without zeros at the end of its coefficient. -/
def Decimal.normalize (d : Decimal) : Decimal :=
  if h : d.coefficient ≠ 0 ∧ d.coefficient % 10 = 0 then
    normalize ⟨d.coefficient / 10, d.exponent + 1⟩
  else d
termination_by d.coefficient
decreasing_by
  simp only [ne_eq] at h ⊢
  omega

/-- The shortest decimal that reads back as the magnitude, the nearest of those. -/
def shortest (tie : Tie) (units : Nat) : Decimal :=
  let place := magnitudePlace units
  let found := (List.range 17).findSome? fun i => neighbour? tie units (place - (i + 1 : Nat))
  (found.getD (exactDecimal units)).normalize

end Formulas.Number
