import Formulas.Text.Printable
import Formulas.Token

/-!
# Listing of tokens

A listing shows each token by its kind and its exact content. Names and strings are quoted with
escapes, so that every character of a listing can be seen, and a number always shows a point or an
exponent.
-/

namespace Formulas.Token

/-- Numbers in a listing keep the point, and have an exponent from `1e16` up and below `1e-4`. -/
def listedNumber : Number.Layout where
  placesFrom := some (-4)
  placesTo := some 15
  keepsPoint := true
  signsExponent := false
  tie := .up

/-- A character of a quoted text: quotes, backslashes and what is not printable are escaped. -/
def listedChar (c : Char) : List Char :=
  if c == '"' || c == '\\' then ['\\', c]
  else if c == '\t' then ['\\', 't']
  else if c == '\r' then ['\\', 'r']
  else if c == '\n' then ['\\', 'n']
  else if c.toNat == 0 then ['\\', '0']
  else if Text.isPrintable c then [c]
  else ['\\', 'u', '\x7b'] ++ Nat.toDigits 16 c.toNat ++ ['\x7d']

/-- A text in double quotes with escapes. -/
def listedText (text : String) : String :=
  String.ofList ('"' :: (text.toList.flatMap listedChar ++ ['"']))

/-- The name of an operator. The two readings of `!` and `-` before an operand are named as
such. -/
def listedOperator : Operator → String
  | .semicolon => "SemiColon"
  | .plus => "Plus"
  | .minus => "Minus"
  | .multiply => "Multiply"
  | .divide => "Divide"
  | .power => "Power"
  | .equal => "Equal"
  | .notEqual => "NotEqual"
  | .less => "Less"
  | .lessOrEqual => "LessEqual"
  | .greater => "Greater"
  | .greaterOrEqual => "GreaterEqual"
  | .is => "Is"
  | .memberOf => "MemberOf"
  | .intersection => "Intersection"
  | .union => "Union"
  | .and => "And"
  | .or => "Or"
  | .dot => "Dot"
  | .not => "UnaryNot"
  | .negate => "UnaryMinus"

/-- The entry of a token in a listing. -/
def listed : Token → String
  | .leftParen => "LParen"
  | .rightParen => "RParen"
  | .leftBrace => "LBrace"
  | .rightBrace => "RBrace"
  | .comma => "Comma"
  | .operator op => "Operator(" ++ listedOperator op ++ ")"
  | .number value => "Number(" ++ listedNumber.write value ++ ")"
  | .identifier name => "Identifier(" ++ listedText name ++ ")"
  | .string value => "QuotedString(" ++ listedText value ++ ")"

end Formulas.Token
