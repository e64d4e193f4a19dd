import Formulas.Parser.Access

/-!
# Levels

A level is what stands between two brackets, or between a bracket and a comma: operands joined by
operators. The parser reads a level from left to right and keeps a stack of operands and a stack
of operators. An operator waits on its stack until an operator that binds looser, or the end of the
level, shows that its operands are complete.

A prefix operator has a marker on the operand stack in the place of a left operand, so that every
operator has two.
-/

namespace Formulas

/-- An entry of the operand stack. -/
inductive Operand
  /-- An operand. -/
  | value (e : Expr)
  /-- The place to the left of a prefix operator. -/
  | marker

/-- The two stacks of a level, the latest entries first. -/
structure Level where
  operands : List Operand
  operators : List Operator

namespace Level

/-- The level before its first operand. -/
def empty : Level := ⟨[], []⟩

/-- The level with one more operand. -/
def pushOperand (level : Level) (operand : Operand) : Level :=
  { level with operands := operand :: level.operands }

/-- The level with one more operand that is an expression. -/
def pushValue (level : Level) (e : Expr) : Level := level.pushOperand (.value e)

/-- What an operator makes of its operands. -/
def combine (ctx : Context) : Operand → Operator → Operand → Except ParseError Expr
  | .marker, .negate, .value right => .ok (Kind.unary .negate right).bare
  | .marker, .not, .value right => .ok (Kind.unary .not right).bare
  | .value left, .dot, .value right => ctx.dot left right
  | .value left, .union, .value right => .ok (Kind.union [left, right]).bare
  | .value left, op, .value right =>
    match op.binary? with
    | some binary => .ok (Kind.binary binary left right).bare
    | none => .error (.internal (.notBinary op))
  | _, op, _ => .error (.internal (.notApplicable op))

/-- The operators that are combined together with the one on top of the stack: binary operators
of one precedence group to the left, while a prefix operator is combined alone. -/
def run (top : Operator) (below : List Operator) : List Operator :=
  if top.isUnary then [top]
  else top :: below.takeWhile fun op => !op.isUnary && op.precedence == top.precedence

/-- An operand combined with the operators and right operands behind it, from left to right. -/
def combineAll (ctx : Context) (first : Operand) (others : List (Operator × Operand)) :
    Except ParseError Operand :=
  others.foldlM (fun left (op, right) => (combine ctx left op right).map .value) first

/-- The level after the operators on top of the stack are combined. -/
def reduce (ctx : Context) (level : Level) : Except ParseError Level :=
  match level.operators with
  | [] => .ok level
  | top :: below =>
    let operators := run top below
    let count := operators.length
    match level.operands.drop count with
    | [] => .error (.internal (.argumentMissing top))
    | first :: rest => do
      let others := operators.reverse.zip (level.operands.take count).reverse
      let result ← combineAll ctx first others
      return ⟨result :: rest, level.operators.drop count⟩

/-- A run has at least the operator on top. -/
theorem length_run_pos (top : Operator) (below : List Operator) : 0 < (run top below).length := by
  simp only [run]
  split <;> simp

/-- Combining leaves fewer operators. -/
theorem length_operators_of_reduce {ctx : Context} {level level' : Level} {top : Operator}
    {below : List Operator} (top_eq : level.operators = top :: below)
    (h : level.reduce ctx = .ok level') : level'.operators.length < level.operators.length := by
  have pos := length_run_pos top below
  simp only [reduce, top_eq] at h
  split at h
  · simp at h
  · simp only [bind, Except.bind, pure, Except.pure] at h
    split at h
    · simp at h
    · simp only [Except.ok.injEq] at h
      simp only [← h, List.length_drop, top_eq, List.length_cons]
      omega

/-- The level after every operator on top of the stack that binds tighter than `precedence` is
combined. -/
def reduceAbove (ctx : Context) (precedence : Nat) (level : Level) : Except ParseError Level :=
  match _top : level.operators with
  | [] => .ok level
  | top :: _ =>
    if precedence < top.precedence then
      match _reduced : level.reduce ctx with
      | .ok level' => level'.reduceAbove ctx precedence
      | .error e => .error e
    else .ok level
termination_by level.operators.length
decreasing_by exact length_operators_of_reduce _top _reduced

/-- The level with one more operator, after the operators that bind tighter are combined. Every
operator must have an operand beside it. -/
def pushOperator (ctx : Context) (op : Operator) (level : Level) : Except ParseError Level := do
  let level ← level.reduceAbove ctx op.precedence
  let operators := op :: level.operators
  if level.operands.length < operators.length then
    throw (.internal (.surplus operators.length level.operands.length))
  return { level with operators }

/-- The expression of a level at its end. -/
def close (ctx : Context) (level : Level) : Except ParseError Expr := do
  let level ← level.reduceAbove ctx 0
  match level.operands with
  | [.value e] => return e
  | [] => throw (.internal .noResult)
  | operands => throw (.internal (.results operands.length))

/-- The level with a unit behind its latest operand. -/
def attachUnit (unit : String) (level : Level) : Except ParseError Level :=
  match level.operands with
  | .value e :: rest => .ok { level with operands := .value ⟨e.kind, some unit⟩ :: rest }
  | _ => .error (.internal .unitWithoutOperand)

end Level

end Formulas
