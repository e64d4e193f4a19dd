import Formulas.Text.Blank
import Formulas.Text.Numeric
import Formulas.Token

/-!
# Scanner

The scanner reads one token at a time from the characters that are left. It skips blanks first and
then follows the first character: brackets, the comma and operators stand for themselves, a quote
opens a string, a square bracket a name with any text, a letter a bare name, a digit a number.

A scanner can be asked again after an error. A character that starts no token stays where it is
and is reported again, while an unclosed string or name has used up the text.
-/

namespace Formulas

/-- What is wrong with the text at the position of an error. -/
inductive ScanFault
  /-- The character starts no token. -/
  | unexpectedCharacter (c : Char)
  /-- A string has no closing quote. -/
  | unterminatedString
  /-- A name in square brackets has no closing bracket. -/
  | unterminatedIdentifier
  /-- A typographic quote stands where a plain one is meant. -/
  | smartQuote (c : Char)
  /-- Digits and a point form no number. -/
  | invalidNumber (text : String)
deriving DecidableEq

/-- An error of the scanner, at a position counted in characters from the start of the text. -/
structure ScanError where
  fault : ScanFault
  position : Nat
deriving DecidableEq

/-- The text of the error. -/
def ScanError.message (e : ScanError) : String :=
  let place := toString e.position
  match e.fault with
  | .unexpectedCharacter c => "Unexpected character '" ++ c.toString ++ "' at position " ++ place
  | .unterminatedString =>
    "Unterminated string starting at position " ++ place ++ ": missing closing quote"
  | .unterminatedIdentifier =>
    "Unterminated identifier starting at position " ++ place ++ ": missing closing ']'"
  | .smartQuote c =>
    "Smart quote '" ++ c.toString ++ "' at position " ++ place
      ++ ", use a plain ASCII quote (\" or ') instead"
  | .invalidNumber text => "Invalid number '" ++ text ++ "' at position " ++ place

namespace Scanner

/-- The signs that names may hold beside letters and digits. -/
def nameSigns : List Char := ['%', '$', '_', '°', '€']

/-- The character can start a bare name. -/
def startsName (c : Char) : Bool := Text.isAlphabetic c || nameSigns.contains c

/-- The character can stand in a bare name after its start. -/
def continuesName (c : Char) : Bool := Text.isAlphanumeric c || nameSigns.contains c

/-- The text up to a closing square bracket, and what follows the bracket. -/
def readBracketed? : List Char → Option (List Char × List Char)
  | [] => none
  | ']' :: rest => some ([], rest)
  | c :: rest => (readBracketed? rest).map fun (name, after) => (c :: name, after)

/-- The text up to a closing quote, and what follows the quote. A backslash before a quote of
either kind or another backslash stands for that character; any other backslash stands for
itself. -/
def readString? (quote : Char) : List Char → Option (List Char × List Char)
  | [] => none
  | '\\' :: '"' :: rest => (readString? quote rest).map fun (s, after) => ('"' :: s, after)
  | '\\' :: '\'' :: rest => (readString? quote rest).map fun (s, after) => ('\'' :: s, after)
  | '\\' :: '\\' :: rest => (readString? quote rest).map fun (s, after) => ('\\' :: s, after)
  | c :: rest =>
    if c == quote then some ([], rest)
    else (readString? quote rest).map fun (s, after) => (c :: s, after)

/-- The longest run of digits with at most one point, and what follows it. -/
def readDigits (cs : List Char) : List Char × List Char :=
  let whole := cs.takeWhile Char.isDigit
  match cs.dropWhile Char.isDigit with
  | '.' :: rest => (whole ++ '.' :: rest.takeWhile Char.isDigit, rest.dropWhile Char.isDigit)
  | rest => (whole, rest)

/-- What stands at the head of a text that does not start with a blank. -/
inductive Lexeme
  /-- The text has ended. -/
  | nothing
  /-- A token, and the text behind it. -/
  | token (t : Token) (rest : List Char)
  /-- An error, and the text that is left for the next attempt. -/
  | fault (f : ScanFault) (rest : List Char)

/-- An operator of one character. -/
def single (op : Operator) (rest : List Char) : Lexeme := .token (.operator op) rest

/-- An operator that may be written twice. -/
def doubled (c : Char) (op : Operator) : List Char → Lexeme
  | d :: rest => if d == c then single op rest else single op (d :: rest)
  | [] => single op []

/-- An operator that another one extends by an equals sign. -/
def extended (plain withEquals : Operator) : List Char → Lexeme
  | '=' :: rest => single withEquals rest
  | rest => single plain rest

/-- A bare name; the word `is` is an operator. -/
def name (cs : List Char) : Lexeme :=
  let word := String.ofList (cs.takeWhile continuesName)
  let rest := cs.dropWhile continuesName
  if word == "is" then single .is rest else .token (.identifier word) rest

/-- A number. -/
def number (cs : List Char) : Lexeme :=
  let (digits, rest) := readDigits cs
  let text := String.ofList digits
  match Number.parse? text with
  | some value => .token (.number value) rest
  | none => .fault (.invalidNumber text) rest

/-- The token that a character always is by itself. -/
def mark? : Char → Option Token
  | '(' => some .leftParen
  | ')' => some .rightParen
  | '\x7b' => some .leftBrace
  | '\x7d' => some .rightBrace
  | ',' => some .comma
  | ';' => some (.operator .semicolon)
  | '+' => some (.operator .plus)
  | '.' => some (.operator .dot)
  | '-' => some (.operator .minus)
  | '*' => some (.operator .multiply)
  | '/' => some (.operator .divide)
  | '^' => some (.operator .power)
  | '∈' => some (.operator .memberOf)
  | '∩' => some (.operator .intersection)
  | '∪' => some (.operator .union)
  | _ => none

/-- A lexeme that is more than a mark, by its first character and the text behind that. -/
def compound (c : Char) (rest : List Char) : Lexeme :=
  match c with
  | '&' => doubled '&' .and rest
  | '|' => doubled '|' .or rest
  | '=' => doubled '=' .equal rest
  | '!' => extended .not .notEqual rest
  | '<' => extended .less .lessOrEqual rest
  | '>' => extended .greater .greaterOrEqual rest
  | '"' | '\'' =>
    match readString? c rest with
    | some (value, after) => .token (.string (String.ofList value)) after
    | none => .fault .unterminatedString []
  | '[' =>
    match readBracketed? rest with
    | some (value, after) => .token (.identifier (String.ofList value)) after
    | none => .fault .unterminatedIdentifier []
  | '“' | '”' | '‘' | '’' => .fault (.smartQuote c) (c :: rest)
  | _ =>
    if startsName c then name (c :: rest)
    else if c.isDigit then number (c :: rest)
    else .fault (.unexpectedCharacter c) (c :: rest)

/-- Reads the lexeme that the first character announces. -/
def lexeme : List Char → Lexeme
  | [] => .nothing
  | c :: rest =>
    match mark? c with
    | some t => .token t rest
    | none => compound c rest

end Scanner

/-- A scanner: the characters that are left of a text of a known length. -/
structure Scanner where
  /-- The length of the whole text. -/
  size : Nat
  /-- The characters that are left. -/
  rest : List Char

namespace Scanner

/-- The scanner at the start of a text. -/
def ofText (text : String) : Scanner := ⟨text.toList.length, text.toList⟩

/-- The position in the whole text. -/
def position (s : Scanner) : Nat := s.size - s.rest.length

/-- The next token or error, none at the end of the text, and the scanner behind it. -/
def next (s : Scanner) : Option (Except ScanError Token) × Scanner :=
  let here : Scanner := ⟨s.size, Text.dropBlanks s.rest⟩
  match lexeme here.rest with
  | .nothing => (none, here)
  | .token t rest => (some (.ok t), ⟨s.size, rest⟩)
  | .fault f rest => (some (.error ⟨f, here.position⟩), ⟨s.size, rest⟩)

end Scanner

end Formulas
