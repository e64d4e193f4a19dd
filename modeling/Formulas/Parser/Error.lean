import Formulas.Builtin
import Formulas.Expr.Printer
import Formulas.Scanner

/-!
# Errors of the parser

A formula is refused because its text holds no tokens at some place, because its tokens do not form
an expression, or because the stacks of the parser do not fit together.
-/

namespace Formulas

/-- Why tokens form no expression. -/
inductive GrammarFault
  /-- The formula ends where an operand must come. -/
  | operandMissing
  /-- A token stands where an operand must come. -/
  | operandExpected (found : Token)
  /-- The formula ends behind an operator. -/
  | incomplete (op : Operator)
  /-- A parenthesis is not closed where its expression ends. -/
  | unclosedGroup
  /-- An array is not closed where an item ends. -/
  | unclosedArray
  /-- A call is not closed where an argument ends. -/
  | unclosedCall
  /-- A parenthesis is closed that was not opened. -/
  | unopenedParen
  /-- A brace is closed that was not opened. -/
  | unopenedBrace
  /-- A token stands behind the whole expression. -/
  | trailing (found : Token)
  /-- A token stands where an operator must come. -/
  | operatorExpected (found : Token)
  /-- The sign `!` stands behind an operand. -/
  | misplacedNot
  /-- A method is called that no function of the dotted name provides. -/
  | unknownMethod (name object : String)
  /-- A dot stands between expressions that it cannot join. -/
  | invalidDot (left right : Expr)
  /-- A built-in function does not take its arguments. -/
  | call (e : CallError)

/-- The text of the fault. -/
def GrammarFault.message : GrammarFault → String
  | .operandMissing => "Unexpected end of expression, expected an operand"
  | .operandExpected found => "Expected an operand but found '" ++ found.toText ++ "'"
  | .incomplete op => "Incomplete expression after " ++ op.symbol ++ " ..."
  | .unclosedGroup => "Parentheses mismatch"
  | .unclosedArray => "Missing closing curly parenthesis on array"
  | .unclosedCall => "Missing closing parenthesis on function call"
  | .unopenedParen => "Parentheses mismatch, unexpected ')'"
  | .unopenedBrace => "Curly parentheses mismatch, unexpected '\x7d'"
  | .trailing found => "Unexpected '" ++ found.toText ++ "' after the end of the expression"
  | .operatorExpected found =>
    "Unexpected token '" ++ found.toText ++ "', expected an operator, comma, or end of expression"
  | .misplacedNot => "'!' can only be used before an operand, use '!=' to compare values"
  | .unknownMethod name object =>
    "Invalid expression, cannot use 'dot' operator to call '" ++ name ++ "' on '" ++ object ++ "'"
  | .invalidDot left right =>
    "Invalid expression, cannot use 'dot' operator between '" ++ left.toText ++ "' and '"
      ++ right.toText ++ "'"
  | .call e => e.message

/-- How the stacks of the parser fail to fit together. -/
inductive StackFault
  /-- More operators than operands stand on a level. -/
  | surplus (operators operands : Nat)
  /-- An operator has too few operands. -/
  | argumentMissing (op : Operator)
  /-- An operator has no meaning between two operands. -/
  | notBinary (op : Operator)
  /-- An operator stands beside the place of a prefix operator. -/
  | notApplicable (op : Operator)
  /-- No operand is left at the end. -/
  | noResult
  /-- More than an operand is left at the end. -/
  | results (count : Nat)
  /-- A unit stands behind no operand. -/
  | unitWithoutOperand
deriving DecidableEq

/-- The text of the fault. -/
def StackFault.message : StackFault → String
  | .surplus operators operands =>
    toString operators ++ " operators for " ++ toString operands ++ " operands"
  | .argumentMissing op => "Missing argument after " ++ op.symbol
  | .notBinary op => "'" ++ op.symbol ++ "' is not a binary operator"
  | .notApplicable op => "Cannot apply '" ++ op.symbol ++ "' to these operands"
  | .noResult => "Expression produced no result"
  | .results count => "Expression produced " ++ toString count ++ " results"
  | .unitWithoutOperand => "Unit of measure without an operand"

/-- Why a formula is refused. -/
inductive ParseError
  /-- The text holds no token at some place. -/
  | lexical (e : ScanError)
  /-- The tokens form no expression. -/
  | grammar (fault : GrammarFault)
  /-- The stacks of the parser do not fit together. -/
  | internal (fault : StackFault)

/-- The text of the error. -/
def ParseError.message : ParseError → String
  | .lexical e => "Lexical error: " ++ e.message
  | .grammar fault => "Syntax error: " ++ fault.message
  | .internal fault => "Internal parser error: " ++ fault.message

end Formulas
