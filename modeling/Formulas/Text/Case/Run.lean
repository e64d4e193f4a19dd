/-!
# Runs of a case mapping

Case mappings of single characters are kept as runs: characters at equal steps whose images keep
the same distance from them.
-/

namespace Formulas.Text

/-- The characters `first`, `first + step`, … up to `last`, with the images `image`,
`image + step`, …. -/
structure CaseRun where
  /-- The first character of the run. -/
  first : Nat
  /-- The last character of the run. -/
  last : Nat
  /-- The distance between neighbours of the run. -/
  step : Nat
  /-- The image of the first character. -/
  image : Nat

namespace CaseRun

/-- The code point belongs to the run. -/
def has (run : CaseRun) (code : Nat) : Bool :=
  run.first ≤ code && code ≤ run.last && (code - run.first) % run.step == 0

/-- The image of a character under the first run that has it; a character in no run is its own
image. -/
def apply (runs : List CaseRun) (c : Char) : Char :=
  match runs.find? (·.has c.toNat) with
  | some run => Char.ofNat (run.image + (c.toNat - run.first))
  | none => c

end CaseRun

end Formulas.Text
