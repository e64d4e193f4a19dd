import Formulas.Builtin.Registry
import Formulas.Environment
import Formulas.Expr.Typing
import Formulas.Parser.Error

/-!
# Names, calls and the dot

What a name, a call and a dot mean depends on the environment. A dotted name that the environment
knows is one variable, otherwise it is a chain of properties; a call behind a dot is a call of the
function with the dotted name.
-/

namespace Formulas

/-- What the parser knows about names. -/
structure Context where
  /-- The types of variables and functions. -/
  environment : Environment
  /-- The built-in functions. -/
  registry : Registry

namespace Context

/-- A context with the built-in functions of the language. -/
def standard (environment : Environment) : Context := ⟨environment, .standard⟩

/-- The literal that a word stands for, in any case of letters. -/
def literal? (name : String) : Option Expr :=
  match Text.lower name with
  | "true" => some (.boolean true)
  | "false" => some (.boolean false)
  | "null" => some .null
  | "pi" => some (.number .pi)
  | _ => none

/-- What a name without arguments stands for: a literal, or a variable. -/
def named (ctx : Context) (name : String) : Expr :=
  (literal? name).getD (Kind.var name (ctx.environment.variableType name)).bare

/-- The type of a function's results, if the environment knows the function. -/
def resultType? (ctx : Context) (name : String) (arguments : List Expr) : Option ValueType :=
  ctx.environment.resultType? name arguments.length

/-- What a call stands for: the node of a built-in function, or a call whose type the environment
gives. -/
def called (ctx : Context) (name : String) (arguments : List Expr) : Except ParseError Expr :=
  match ctx.registry.get? name with
  | some function =>
    match function.build arguments with
    | .ok kind => .ok kind.bare
    | .error e => .error (.grammar (.call e))
  | none =>
    .ok (Kind.call name ((ctx.resultType? name arguments).getD .object) arguments).bare

/-- The dotted name of an expression that carries no unit. -/
def pathOf? (e : Expr) : Option String := if e.carriesUnit then none else e.dottedName

/-- A chain of properties, or the variable of its dotted name if the environment knows that
variable. A chain that carries a unit stays a chain. -/
def collapse (ctx : Context) (chain : Expr) : Expr :=
  match pathOf? chain with
  | none => chain
  | some path =>
    match ctx.environment.variableType? path with
    | some type => (Kind.var path type).bare
    | none => chain

/-- What `left.right` stands for, apart from the unit of the right side. -/
def joined (ctx : Context) (left : Expr) (right : Kind) : Except ParseError Expr :=
  match right, pathOf? left with
  | .var name _, _ => .ok (ctx.collapse (Kind.property left name .object).bare)
  | .property base name type, some _ =>
    .ok (ctx.collapse (Expr.graft left (Kind.property base name type).bare))
  | .call name _ arguments, some path =>
    let dotted := path ++ "." ++ name
    match ctx.resultType? dotted arguments with
    | some type => .ok (Kind.call dotted type arguments).bare
    | none => .error (.grammar (.unknownMethod name path))
  | _, _ => .error (.grammar (.invalidDot left right.bare))

/-- What `left.right` stands for; it has the unit of the right side. -/
def dot (ctx : Context) (left right : Expr) : Except ParseError Expr :=
  (ctx.joined left right.kind).map fun e => ⟨e.kind, right.unit.or e.unit⟩

end Context

end Formulas
