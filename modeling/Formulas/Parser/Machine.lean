import Formulas.Parser.Level
import Formulas.UnitOfMeasure

/-!
# The parsing machine

The machine takes the tokens of a formula one after the other. It holds the level that is being
read, the levels around it with the brackets that were opened in them, and a phase that says what
the next token can be.

Some steps wait for the next token, because an error in the text behind a token, or the end of the
text, is reported before what the token itself leads to. This holds of operators, whose effect on
the stacks comes after, and of calls, whose arguments are checked after.
-/

namespace Formulas

/-- A bracket that is open. -/
inductive Opening
  /-- A parenthesis around an expression. -/
  | group
  /-- The brace of an array, with the items before the current one, the latest first. -/
  | array (items : List Expr)
  /-- The parenthesis of a call, with the arguments before the current one, the latest first. -/
  | call (name : String) (arguments : List Expr)

/-- What the machine waits for. -/
inductive Phase
  /-- An operand. -/
  | operand
  /-- The first item or argument, or the bracket that closes an empty list. -/
  | listStart
  /-- What stands behind an operand: a unit, an operator or the end of the level. -/
  | operator
  /-- An operand behind an operator that is still to be put on its stack. -/
  | afterOperator (op : Operator)
  /-- A further clause, or the end of the formula, behind a semicolon. -/
  | afterSemicolon
  /-- What stands behind a name, which tells a variable from a call. -/
  | afterName (name : String)
  /-- What stands behind a call that is still to be built. -/
  | afterCall (name : String) (arguments : List Expr)

/-- The state of the parser within a formula. -/
structure Machine where
  phase : Phase
  /-- The level that is being read. -/
  level : Level
  /-- The open brackets and the levels in which they stand, the innermost first. -/
  outer : List (Opening × Level)

namespace Machine

/-- The machine before the first token. -/
def start : Machine := ⟨.operand, .empty, []⟩

/-- The machine inside a new bracket. -/
def opened (m : Machine) (opening : Opening) (phase : Phase) : Machine :=
  ⟨phase, .empty, (opening, m.level) :: m.outer⟩

/-- The machine behind an operand. -/
def withValue (m : Machine) (e : Expr) : Machine := ⟨.operator, m.level.pushValue e, m.outer⟩

/-- A token where an operand must come. A prefix operator puts its marker in the place of a left
operand. -/
def stepOperand (m : Machine) (t : Token) : Except ParseError Machine :=
  match t with
  | .operator .minus =>
    .ok { m with phase := .afterOperator .negate, level := m.level.pushOperand .marker }
  | .operator .not =>
    .ok { m with phase := .afterOperator .not, level := m.level.pushOperand .marker }
  | .leftParen => .ok (m.opened .group .operand)
  | .leftBrace => .ok (m.opened (.array []) .listStart)
  | .number x => .ok (m.withValue (.number x))
  | .string s => .ok (m.withValue (.string s))
  | .identifier name => .ok { m with phase := .afterName name }
  | t => .error (.grammar (.operandExpected t))

/-- The end of the level with a closing bracket or a comma. -/
def stepEnd (ctx : Context) (m : Machine) (t : Token) : Except ParseError Machine := do
  let e ← m.level.close ctx
  match m.outer, t with
  | [], .rightParen => throw (.grammar .unopenedParen)
  | [], .rightBrace => throw (.grammar .unopenedBrace)
  | [], t => throw (.grammar (.trailing t))
  | (.group, level) :: outer, .rightParen => return ⟨.operator, level.pushValue e, outer⟩
  | (.group, _) :: _, _ => throw (.grammar .unclosedGroup)
  | (.array items, level) :: outer, .comma =>
    return ⟨.operand, .empty, (.array (e :: items), level) :: outer⟩
  | (.array items, level) :: outer, .rightBrace =>
    return ⟨.operator, level.pushValue (Kind.array (e :: items).reverse).bare, outer⟩
  | (.array _, _) :: _, _ => throw (.grammar .unclosedArray)
  | (.call name arguments, level) :: outer, .comma =>
    return ⟨.operand, .empty, (.call name (e :: arguments), level) :: outer⟩
  | (.call name arguments, level) :: outer, .rightParen =>
    return ⟨.afterCall name (e :: arguments).reverse, level, outer⟩
  | (.call .., _) :: _, _ => throw (.grammar .unclosedCall)

/-- The word is the operator `&` or `|`, in any case of ASCII letters. -/
def wordOperator? (word : String) : Option Operator :=
  if Text.sameIgnoringCase word "AND" then some .and
  else if Text.sameIgnoringCase word "OR" then some .or
  else none

/-- A token behind an operand. -/
def stepOperator (ctx : Context) (m : Machine) (t : Token) : Except ParseError Machine :=
  match t with
  | .rightParen | .rightBrace | .comma => m.stepEnd ctx t
  | .operator .semicolon => .ok { m with phase := .afterSemicolon }
  | .operator .not => .error (.grammar .misplacedNot)
  | .operator op => .ok { m with phase := .afterOperator op }
  | .identifier word =>
    match wordOperator? word with
    | some op => .ok { m with phase := .afterOperator op }
    | none => do
      let level ← m.level.attachUnit (UnitOfMeasure.canonical word)
      return { m with phase := .operator, level }
  | t => .error (.grammar (.operatorExpected t))

/-- The machine behind a name that is no call. -/
def finishName (ctx : Context) (m : Machine) (name : String) : Machine :=
  m.withValue (ctx.named name)

/-- The machine behind a call. -/
def finishCall (ctx : Context) (m : Machine) (name : String) (arguments : List Expr) :
    Except ParseError Machine :=
  (ctx.called name arguments).map m.withValue

/-- A token where a list has just been opened. -/
def stepListStart (m : Machine) (t : Token) : Except ParseError Machine :=
  match m.outer, t with
  | (.array _, level) :: outer, .rightBrace =>
    .ok ⟨.operator, level.pushValue (Kind.array []).bare, outer⟩
  | (.call name _, level) :: outer, .rightParen => .ok ⟨.afterCall name [], level, outer⟩
  | _, t => m.stepOperand t

/-- The machine after a token. -/
def step (ctx : Context) (m : Machine) (t : Token) : Except ParseError Machine :=
  match m.phase with
  | .operand => m.stepOperand t
  | .listStart => m.stepListStart t
  | .operator => m.stepOperator ctx t
  | .afterOperator op => do
    let level ← m.level.pushOperator ctx op
    stepOperand { m with level } t
  | .afterSemicolon => do
    let level ← m.level.pushOperator ctx .and
    stepOperand { m with level } t
  | .afterName name =>
    match t with
    | .leftParen => .ok (m.opened (.call name []) .listStart)
    | t => (m.finishName ctx name).stepOperator ctx t
  | .afterCall name arguments => do
    let m ← m.finishCall ctx name arguments
    m.stepOperator ctx t

/-- The machine after a list of tokens. -/
def run (ctx : Context) (m : Machine) (tokens : List Token) : Except ParseError Machine :=
  tokens.foldlM (step ctx) m

/-- A list of tokens is run through by its parts. -/
theorem run_append (ctx : Context) (m : Machine) (ts us : List Token) :
    m.run ctx (ts ++ us) = (m.run ctx ts).bind fun m' => m'.run ctx us :=
  List.foldlM_append ..

/-- The expression of the formula, if it ends behind an operand. -/
def finishLevel (ctx : Context) (m : Machine) : Except ParseError Expr := do
  let e ← m.level.close ctx
  match m.outer with
  | [] => return e
  | (.group, _) :: _ => throw (.grammar .unclosedGroup)
  | (.array _, _) :: _ => throw (.grammar .unclosedArray)
  | (.call .., _) :: _ => throw (.grammar .unclosedCall)

/-- The expression of the formula at the end of its tokens. -/
def finish (ctx : Context) (m : Machine) : Except ParseError Expr :=
  match m.phase with
  | .operand | .listStart => .error (.grammar .operandMissing)
  | .afterOperator op => .error (.grammar (.incomplete op))
  | .operator | .afterSemicolon => m.finishLevel ctx
  | .afterName name => (m.finishName ctx name).finishLevel ctx
  | .afterCall name arguments => do
    let m ← m.finishCall ctx name arguments
    m.finishLevel ctx

/-- An operand may come next. -/
def wantsOperand (m : Machine) : Bool :=
  match m.phase with
  | .operand | .listStart | .afterOperator _ | .afterSemicolon => true
  | .operator | .afterName _ | .afterCall .. => false

end Machine

/-- The token begins an operand, or is one. -/
def Token.startsOperand : Token → Bool
  | .leftParen | .leftBrace | .number _ | .string _ | .identifier _ => true
  | _ => false

end Formulas
