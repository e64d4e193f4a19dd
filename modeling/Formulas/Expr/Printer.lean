import Formulas.Expr
import Formulas.Scanner
import Formulas.Text.CaseInsensitive

/-!
# Printing expressions

The canonical text of an expression: operators in their canonical spelling, units in square
brackets, and no more parentheses than precedence needs, apart from those around `&` on the left
of `|` and the reverse.
-/

namespace Formulas

/-- The words that are no names when they stand alone, in any case of ASCII letters. -/
def reservedWords : List String := ["true", "false", "null", "pi", "and", "or"]

/-- The name can be written without brackets. -/
def isPlainName (name : String) : Bool :=
  match name.toList with
  | [] => false
  | c :: rest =>
    Scanner.startsName c && rest.all Scanner.continuesName && name != "is"
      && !reservedWords.any (Text.sameIgnoringCase name)

/-- A name as it is written. -/
def nameText (name : String) : String := if isPlainName name then name else "[" ++ name ++ "]"

/-- A string as it is written: in double quotes, with double quotes and backslashes escaped. -/
def stringText (s : String) : String :=
  String.ofList
    ('"' :: (s.toList.flatMap (fun c => if c == '"' || c == '\\' then ['\\', c] else [c]) ++ ['"']))

/-- A literal as it is written. A date-time is written as a call of the function that reads it
back: the one with a default offset if it has one. -/
def Constant.toText : Constant → String
  | .boolean b => if b then "true" else "false"
  | .number x => x.toText
  | .string s => stringText s
  | .null => "null"
  | .dateTime d =>
    let function := if d.offset.isSome then "DATETIMEOFFSET" else "DATETIME"
    function ++ "(\"" ++ d.toText ++ "\")"

/-- The parts with a comma between any two. -/
def commaSeparated : List String → String
  | [] => ""
  | [part] => part
  | part :: parts => part ++ "," ++ commaSeparated parts

/-- A call as it is written. -/
def callText (name : String) (arguments : List String) : String :=
  nameText name ++ "(" ++ commaSeparated arguments ++ ")"

/-- A text in parentheses, if it needs them. -/
def parenthesized (needed : Bool) (text : String) : String :=
  if needed then "(" ++ text ++ ")" else text

namespace Expr

/-- The precedence of whatever is not an operation. -/
def atomPrecedence : Nat := Operator.dot.precedence + 1

/-- How tightly the text of a node holds together without its unit: as its operator does, as a
dot for a property, and tighter than any operator for all else. -/
def precedence (e : Expr) : Nat :=
  match e.kind with
  | .binary op _ _ => op.precedence
  | .union [_, _] => Operator.union.precedence
  | .unary op _ => op.operator.precedence
  | .property .. => Operator.dot.precedence
  | _ => atomPrecedence

/-- The node is `&` on the left of `|`, or the reverse. -/
def mixesLogic (left : Expr) (op : Operator) : Bool :=
  match left.kind, op with
  | .binary .and _ _, .or => true
  | .binary .or _ _, .and => true
  | _, _ => false

/-- The left operand needs parentheses. -/
def needsParensLeft (left : Expr) (op : Operator) : Bool :=
  left.mixesLogic op || left.precedence < op.precedence

/-- The right operand needs parentheses: operators of one precedence group to the left. -/
def needsParensRight (right : Expr) (op : Operator) : Bool := right.precedence ≤ op.precedence

end Expr

/-- Operands around an operator. -/
def infixText (op : Operator) (left right : String) : String :=
  match op with
  | .power | .dot => left ++ op.symbol ++ right
  | _ => left ++ " " ++ op.symbol ++ " " ++ right

mutual

/-- The canonical text of an expression. -/
def Expr.toText : Expr → String
  | ⟨kind, none⟩ => kind.toText
  | ⟨kind, some unit⟩ =>
    parenthesized (Expr.precedence ⟨kind, some unit⟩ < Expr.atomPrecedence) kind.toText
      ++ "[" ++ unit ++ "]"

/-- The canonical text of a node without its unit. -/
def Kind.toText : Kind → String
  | .constant c => c.toText
  | .var name _ => nameText name
  | .property base name _ =>
    parenthesized (base.precedence < Operator.dot.precedence) base.toText ++ "." ++ nameText name
  | .call name _ arguments => callText name (Expr.texts arguments)
  | .binary op left right =>
    infixText op.operator (parenthesized (left.needsParensLeft op.operator) left.toText)
      (parenthesized (right.needsParensRight op.operator) right.toText)
  | .unary op operand =>
    op.operator.symbol
      ++ parenthesized (operand.precedence < op.operator.precedence) operand.toText
  | .ternary condition positive negative =>
    callText "IF" [condition.toText, positive.toText, negative.toText]
  | .union [left, right] =>
    infixText .union (parenthesized (left.needsParensLeft .union) left.toText)
      (parenthesized (right.needsParensRight .union) right.toText)
  | .union items => callText "UNION" (Expr.texts items)
  | .array items => "\x7b" ++ commaSeparated (Expr.texts items) ++ "\x7d"
  | .tuple items => callText "TUPLE" (Expr.texts items)
  | .reduce reducer child => callText reducer.name [child.toText]
  | .temporal function child period start measure =>
    callText function.name
      (child.toText :: (Expr.textOption period ++ Expr.textOption start
        ++ Expr.textOption measure))
  | .first ⟨.array items, _⟩ => callText "FIRST" (Expr.texts items)
  | .first child => callText "FIRST" [child.toText]
  | .failed arguments => callText "FAILED" (Expr.texts arguments)
  | .timer child measure => callText "TIMER" (child.toText :: Expr.textOption measure)
  | .each collection name body => callText "EACH" [collection.toText, nameText name, body.toText]

/-- The canonical texts of a list of expressions. -/
def Expr.texts : List Expr → List String
  | [] => []
  | e :: es => e.toText :: Expr.texts es

/-- The canonical text of an optional expression, if there is one. -/
def Expr.textOption : Option Expr → List String
  | none => []
  | some e => [e.toText]

end

end Formulas
