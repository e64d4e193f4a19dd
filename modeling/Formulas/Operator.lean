/-!
# Operators

The operators of the formula language with their spelling and precedence, and the operators that
nodes of an expression carry. Most binary operators make a binary node; the dot, the union and the
two prefix operators make nodes of other shapes.
-/

namespace Formulas

/-- An operator as it is written. The two readings of `-` are told apart by the parser. -/
inductive Operator
  /-- `;`, which joins clauses as `&` does. -/
  | semicolon
  | plus
  | minus
  | multiply
  | divide
  | power
  | equal
  | notEqual
  | less
  | lessOrEqual
  | greater
  | greaterOrEqual
  /-- The word `is`. -/
  | is
  /-- `∈`. -/
  | memberOf
  /-- `∩`. -/
  | intersection
  /-- `∪`. -/
  | union
  | and
  | or
  | dot
  /-- `!` before an operand. -/
  | not
  /-- `-` before an operand. -/
  | negate
deriving DecidableEq

namespace Operator

/-- Every operator, the loosest first. -/
def all : List Operator :=
  [.and, .or, .memberOf, .intersection, .union, .semicolon, .equal, .notEqual, .less,
    .lessOrEqual, .greater, .greaterOrEqual, .is, .plus, .minus, .multiply, .divide, .power, .not,
    .negate, .dot]

/-- The precedence; an operator of higher precedence binds tighter. -/
def precedence : Operator → Nat
  | .and | .or => 1
  | .memberOf | .intersection | .union => 2
  | .semicolon | .equal | .notEqual | .less | .lessOrEqual | .greater | .greaterOrEqual | .is => 3
  | .plus | .minus => 4
  | .multiply | .divide => 5
  | .power => 6
  | .not | .negate => 7
  | .dot => 8

/-- The operator stands before its only operand. -/
def isUnary : Operator → Bool
  | .not | .negate => true
  | _ => false

/-- The canonical spelling. -/
def symbol : Operator → String
  | .semicolon => ";"
  | .plus => "+"
  | .minus | .negate => "-"
  | .multiply => "*"
  | .divide => "/"
  | .power => "^"
  | .equal => "=="
  | .notEqual => "!="
  | .less => "<"
  | .lessOrEqual => "<="
  | .greater => ">"
  | .greaterOrEqual => ">="
  | .is => "is"
  | .memberOf => "∈"
  | .intersection => "∩"
  | .union => "∪"
  | .and => "&"
  | .or => "|"
  | .dot => "."
  | .not => "!"

/-- The list of operators is complete. -/
theorem mem_all (op : Operator) : op ∈ all := by
  cases op <;> decide

/-- Every operator binds tighter than none. -/
theorem precedence_pos (op : Operator) : 0 < op.precedence := by
  cases op <;> decide

end Operator

/-- The operator of a binary node. -/
inductive BinaryOp
  | and
  | or
  | add
  | subtract
  | multiply
  | divide
  | power
  | equals
  | notEquals
  | less
  | lessOrEqual
  | greater
  | greaterOrEqual
  | is
  | memberOf
  | intersection
deriving DecidableEq

namespace BinaryOp

/-- The operator that the node is written with. -/
def operator : BinaryOp → Operator
  | .and => .and
  | .or => .or
  | .add => .plus
  | .subtract => .minus
  | .multiply => .multiply
  | .divide => .divide
  | .power => .power
  | .equals => .equal
  | .notEquals => .notEqual
  | .less => .less
  | .lessOrEqual => .lessOrEqual
  | .greater => .greater
  | .greaterOrEqual => .greaterOrEqual
  | .is => .is
  | .memberOf => .memberOf
  | .intersection => .intersection

/-- The precedence of the node's operator. -/
def precedence (op : BinaryOp) : Nat := op.operator.precedence

end BinaryOp

/-- The binary node that an operator makes, if it makes one. -/
def Operator.binary? : Operator → Option BinaryOp
  | .and | .semicolon => some .and
  | .or => some .or
  | .plus => some .add
  | .minus => some .subtract
  | .multiply => some .multiply
  | .divide => some .divide
  | .power => some .power
  | .equal => some .equals
  | .notEqual => some .notEquals
  | .less => some .less
  | .lessOrEqual => some .lessOrEqual
  | .greater => some .greater
  | .greaterOrEqual => some .greaterOrEqual
  | .is => some .is
  | .memberOf => some .memberOf
  | .intersection => some .intersection
  | .union | .dot | .not | .negate => none

/-- The operator that a binary node is written with makes that node. -/
theorem BinaryOp.binary?_operator (op : BinaryOp) : op.operator.binary? = some op := by
  cases op <;> rfl

/-- The operator of a unary node. -/
inductive UnaryOp
  | not
  | negate
deriving DecidableEq

/-- The operator that the node is written with. -/
def UnaryOp.operator : UnaryOp → Operator
  | .not => .not
  | .negate => .negate

end Formulas
