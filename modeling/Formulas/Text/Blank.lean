import Formulas.Text.Ranges

/-!
# Blanks

A blank is a character with the White_Space property. The information separators U+001C to
U+001F, the zero width space U+200B, the Mongolian vowel separator U+180E and the byte order
mark U+FEFF do not have it.
-/

namespace Formulas.Text

/-- The characters with the White_Space property. -/
def blanks : List CodeRange :=
  [(0x9, 0xD), (0x20, 0x20), (0x85, 0x85), (0xA0, 0xA0), (0x1680, 0x1680), (0x2000, 0x200A),
    (0x2028, 0x2029), (0x202F, 0x202F), (0x205F, 0x205F), (0x3000, 0x3000)]

/-- The character separates words. -/
def isBlank (c : Char) : Bool := inRanges blanks c

/-- The text without the blanks at its head. -/
def dropBlanks (cs : List Char) : List Char := cs.dropWhile isBlank

/-- The text without the blanks at its end. -/
def dropBlanksRight (cs : List Char) : List Char := (dropBlanks cs.reverse).reverse

/-- The text without the blanks at either end. -/
def trim (cs : List Char) : List Char := dropBlanksRight (dropBlanks cs)

end Formulas.Text
