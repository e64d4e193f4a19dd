import Formulas.Expr

/-!
# Types of expressions

The type of an expression follows from its literals and from the types that its names carry.
-/

namespace Formulas

/-- The type of a literal; the null value has none of its own. -/
def Constant.valueType : Constant → ValueType
  | .boolean _ => .boolean
  | .number _ => .number
  | .string _ => .string
  | .dateTime _ => .dateTime
  | .null => .object

/-- The type of an arithmetic result: a number if both operands are. -/
def ValueType.arithmetic (left right : ValueType) : ValueType :=
  if left = .number ∧ right = .number then .number else .object

/-- The type of a binary node, from the types of its operands. A sum with a string is a string. -/
def BinaryOp.valueType (op : BinaryOp) (left right : ValueType) : ValueType :=
  match op with
  | .and | .or | .equals | .notEquals | .less | .lessOrEqual | .greater | .greaterOrEqual | .is
  | .memberOf => .boolean
  | .intersection => .array
  | .add => if left = .string ∨ right = .string then .string else .arithmetic left right
  | .subtract | .multiply | .divide | .power => .arithmetic left right

/-- The type of a prefix operation, from the type of its operand. -/
def UnaryOp.valueType (op : UnaryOp) (operand : ValueType) : ValueType :=
  match op with
  | .not => .boolean
  | .negate => if operand = .number then .number else .object

/-- The type of the value that an expression has. -/
def Expr.valueType : Expr → ValueType
  | ⟨.constant c, _⟩ => c.valueType
  | ⟨.var _ type, _⟩ => type
  | ⟨.property _ _ type, _⟩ => type
  | ⟨.call _ type _, _⟩ => type
  | ⟨.binary op left right, _⟩ => op.valueType left.valueType right.valueType
  | ⟨.unary op operand, _⟩ => op.valueType operand.valueType
  | ⟨.ternary _ positive negative, _⟩ =>
    let type := positive.valueType
    if type = negative.valueType then type else .object
  | ⟨.union _, _⟩ | ⟨.array _, _⟩ | ⟨.tuple _, _⟩ | ⟨.each .., _⟩ => .array
  | ⟨.reduce reducer _, _⟩ => if reducer.isLogical then .boolean else .number
  | ⟨.temporal function .., _⟩ => if function.isLogical then .boolean else .number
  | ⟨.first ⟨.array (e :: _), _⟩, _⟩ => e.valueType
  | ⟨.first _, _⟩ => .object
  | ⟨.failed _, _⟩ => .boolean
  | ⟨.timer .., _⟩ => .number

end Formulas
