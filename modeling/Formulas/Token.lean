import Formulas.Number.Layout
import Formulas.Operator

/-!
# Tokens

A formula is read as a sequence of tokens: brackets, the comma, operators, numbers, names and
strings. The words `AND` and `OR` are names here; the parser reads them as operators where it
expects one.
-/

namespace Formulas

/-- A token of a formula. -/
inductive Token
  | leftParen
  | rightParen
  | leftBrace
  | rightBrace
  | comma
  | operator (op : Operator)
  | number (value : Number)
  /-- A bare name, or any text in square brackets. -/
  | identifier (name : String)
  /-- A quoted string, without its quotes and escapes. -/
  | string (value : String)
deriving DecidableEq

/-- The text of a token in messages; a string is shown in double quotes with nothing escaped. -/
def Token.toText : Token → String
  | .leftParen => "("
  | .rightParen => ")"
  | .leftBrace => "\x7b"
  | .rightBrace => "\x7d"
  | .comma => ","
  | .operator op => op.symbol
  | .number value => value.toText
  | .identifier name => name
  | .string value => "\"" ++ value ++ "\""

end Formulas
