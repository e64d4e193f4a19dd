import Formulas.Proofs.Scan.Blanks

/-!
# Names and strings in front of other texts

A name or a string that is written is read back from any text that it stands in front of, and the
rest of the text is then read as if it stood alone. Behind a name no character may follow that goes
on a name, since it would be read as a part of it if the name has no brackets. A string ends at its
own quote, whatever follows: every quote and every backslash in it has a backslash in front.

## Main results

* `Scan.ofText_written_append`: the scan of a name or a string with a text behind it.
-/

namespace Formulas.Scan

open Scanner Text

/-- A name without closing brackets is written so that it is scanned as the name, with the scan of
the text behind it, unless that text goes on a name. A string is written so that it is scanned as
the string, with the scan of any text behind it. Errors in the text behind are as far on as the name
or the string is long. -/
theorem ofText_written_append (rest : String) :
    (∀ name : String, ']' ∉ name.toList → Ends continuesName rest.toList →
        ofText (nameText name ++ rest) =
          ((ofText rest).shift (nameText name).toList.length).prepend [.identifier name]) ∧
      ∀ s : String, ofText (stringText s ++ rest) =
        ((ofText rest).shift (stringText s).toList.length).prepend [.string s] :=
  ⟨fun _ hname hrest => ofText_append_of_spells (spells_nameText hname hrest),
    fun s => ofText_append_of_spells (spells_stringText s rest.toList)⟩

/-- The word `is` needs brackets as a name, and a string may end with a backslash. -/
theorem ofText_written_append_open :
    ']' ∉ "is".toList ∧ Ends continuesName "'#".toList ∧
      ofText (nameText "is" ++ "'#") =
        ⟨[.identifier "is"], some ⟨.unterminatedString, 4⟩⟩ ∧
      ofText (stringText "\\\"\\" ++ "'#") =
        ⟨[.string "\\\"\\"], some ⟨.unterminatedString, 8⟩⟩ := by
  have hname : ']' ∉ "is".toList := by decide
  have hrest : Ends continuesName "'#".toList := (ends_cons ..).2 (by decide)
  refine ⟨hname, hrest, ?_, ?_⟩
  · rw [(ofText_written_append "'#").1 "is" hname hrest]
    decide +kernel
  · rw [(ofText_written_append "'#").2 "\\\"\\"]
    decide +kernel

end Formulas.Scan
