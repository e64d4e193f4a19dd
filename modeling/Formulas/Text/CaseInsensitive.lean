/-!
# Comparison without case

Function names and a few words of the language are compared in any case of the letters of ASCII.
Other letters count as different in their two cases.
-/

namespace Formulas.Text

/-- The text with the capital letters of ASCII made small. -/
def foldCase (text : String) : String := String.ofList (text.toList.map Char.toLower)

/-- The texts differ at most in the case of ASCII letters. -/
def sameIgnoringCase (a b : String) : Bool := foldCase a == foldCase b

/-- Every text is the same as itself. -/
@[simp]
theorem sameIgnoringCase_self (a : String) : sameIgnoringCase a a = true := by
  simp [sameIgnoringCase]

/-- The order of the two texts does not matter. -/
theorem sameIgnoringCase_comm (a b : String) : sameIgnoringCase a b = sameIgnoringCase b a := by
  simp [sameIgnoringCase, Bool.beq_comm]

/-- Texts that are the same as a third are the same. -/
theorem sameIgnoringCase_trans {a b c : String} (h : sameIgnoringCase a b = true)
    (h' : sameIgnoringCase b c = true) : sameIgnoringCase a c = true := by
  simp only [sameIgnoringCase, beq_iff_eq] at *
  exact h.trans h'

end Formulas.Text
