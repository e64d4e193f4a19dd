/-!
# Numbers

The numbers of the formula language are binary floating point numbers of double precision: 53
significant bits, the least positive number `2^-1074`, the greatest below `2^1024`, signed zeros
and infinities, and a value that is not a number.

The magnitude of a finite number is a natural number that counts units of `2^-1074`. Rounding and
printing are then arithmetic on natural numbers.
-/

namespace Formulas

/-- A count of units of `2^-1074` that a finite number can have: its leading bit is one of 2098,
so that the number stays below `2^1024`, and what stands below its 53 leading bits is zero. -/
def Number.Fits (units : Nat) : Prop :=
  units.log2 < 2098 ∧ Nat.pow 2 (units.log2 - 52) ∣ units

instance (units : Nat) : Decidable (Number.Fits units) :=
  inferInstanceAs (Decidable (_ ∧ _))

/-- A floating point number of double precision. -/
inductive Number
  /-- A sign and a magnitude in units of `2^-1074`; the zeros are among them. -/
  | finite (negative : Bool) (units : Nat) (fits : Number.Fits units)
  /-- What a magnitude of `2^1024` or more is rounded to. -/
  | infinite (negative : Bool)
  /-- The value that is not a number. -/
  | nan
deriving DecidableEq

namespace Number

/-- The number of units in one. -/
def unitsOfOne : Nat := Nat.pow 2 1074

/-- The finite number of that magnitude, or the infinity if no finite number has it. -/
def ofUnits (negative : Bool) (units : Nat) : Number :=
  if h : Fits units then .finite negative units h else .infinite negative

/-- The sign bit, clear for the value that is not a number. -/
def isNegative : Number → Bool
  | .finite negative _ _ => negative
  | .infinite negative => negative
  | .nan => false

/-- The magnitude in units of `2^-1074`, if it is finite. -/
def units? : Number → Option Nat
  | .finite _ units _ => some units
  | _ => none

/-- Equality of values: the two zeros are equal, and the value that is not a number differs from
every value. -/
def eqv : Number → Number → Bool
  | .finite m a _, .finite n b _ => a == b && (m == n || a == 0)
  | .infinite m, .infinite n => m == n
  | _, _ => false

/-- The integer that a number is, if it is one. -/
def toInt? : Number → Option Int
  | .finite negative units _ =>
    if unitsOfOne ∣ units then
      let whole : Int := (units / unitsOfOne : Nat)
      some (if negative then -whole else whole)
    else none
  | _ => none

/-- Zero units fit. -/
theorem fits_zero : Fits 0 := ⟨by decide, Nat.dvd_zero _⟩

/-- Zero. -/
def zero : Number := .finite false 0 fits_zero

/-- A count of units that fits is kept. -/
theorem units?_ofUnits {units : Nat} (negative : Bool) (h : Fits units) :
    (ofUnits negative units).units? = some units := by
  simp [ofUnits, h, units?]

/-- A finite number is rebuilt from its sign and magnitude. -/
theorem ofUnits_units {negative : Bool} {units : Nat} (h : Fits units) :
    ofUnits negative units = .finite negative units h := by
  simp [ofUnits, h]

/-- A number equals itself exactly when it is a number. -/
theorem eqv_self_iff (x : Number) : x.eqv x = true ↔ x ≠ .nan := by
  cases x <;> simp [eqv]

end Number

end Formulas
