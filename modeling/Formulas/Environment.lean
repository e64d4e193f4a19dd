import Formulas.Text.CaseInsensitive
import Formulas.ValueType

/-!
# Environments

An environment gives types to names: one type to each variable, and signatures to functions. Names
of variables are compared exactly, names of functions in any case of ASCII letters. A function may
have several signatures; all of them give the same type of result.
-/

namespace Formulas

/-- A way to call a function. -/
structure Signature where
  name : String
  arguments : List ValueType
  result : ValueType
deriving DecidableEq

/-- A registration that contradicts an earlier one. -/
inductive Conflict
  /-- The variable is known with another type. -/
  | variableType (name : String) (existing requested : ValueType)
  /-- The function is known with another type of result. -/
  | functionResult (name : String) (existing requested : ValueType)
deriving DecidableEq

/-- The text of a conflict. -/
def Conflict.message : Conflict → String
  | .variableType name existing requested =>
    "Variable '" ++ name ++ "' is already defined as " ++ existing.name
      ++ ", cannot redefine it as " ++ requested.name
  | .functionResult name existing requested =>
    "Function '" ++ name ++ "' already returns " ++ existing.name
      ++ ", cannot add an overload returning " ++ requested.name

/-- The types of names. -/
structure Environment where
  /-- The variables with their types, in the order of registration. -/
  bindings : List (String × ValueType)
  /-- The signatures, in the order of registration. -/
  signatures : List Signature
deriving DecidableEq

namespace Environment

/-- The environment that knows no name. -/
def empty : Environment := ⟨[], []⟩

/-- No name is known. -/
def isEmpty (env : Environment) : Bool := env.bindings.isEmpty && env.signatures.isEmpty

/-- The type of a variable, if it is known. -/
def variableType? (env : Environment) (name : String) : Option ValueType :=
  env.bindings.lookup name

/-- The environment with a variable. A variable that is known with that type is left alone, and
one that is known with another type is a conflict. -/
def addVariable (env : Environment) (name : String) (type : ValueType) :
    Except Conflict Environment :=
  match env.variableType? name with
  | some existing =>
    if existing = type then .ok env else .error (.variableType name existing type)
  | none => .ok { env with bindings := env.bindings ++ [(name, type)] }

/-- The signatures of a function, in the order of registration. -/
def signaturesOf (env : Environment) (name : String) : List Signature :=
  env.signatures.filter (Text.sameIgnoringCase ·.name name)

/-- The environment with a signature behind the others. A signature whose result differs from that
of another signature of the function is a conflict. -/
def addSignature (env : Environment) (signature : Signature) : Except Conflict Environment :=
  match (env.signaturesOf signature.name).find? (·.result != signature.result) with
  | some existing =>
    .error (.functionResult signature.name existing.result signature.result)
  | none => .ok { env with signatures := env.signatures ++ [signature] }

/-- The result of the first signature of a function with that number of arguments. -/
def resultOfCall? (env : Environment) (name : String) (arity : Nat) : Option ValueType :=
  ((env.signaturesOf name).find? (·.arguments.length == arity)).map (·.result)

/-- The type of a function's results: of a signature with that number of arguments, or else of
any. -/
def resultType? (env : Environment) (name : String) (arity : Nat) : Option ValueType :=
  (env.resultOfCall? name arity).or ((env.signaturesOf name).head?.map (·.result))

/-- The type that the environment gives to a variable. -/
def variableType (env : Environment) (name : String) : ValueType :=
  (env.variableType? name).getD .object

end Environment

/-- A registration in an environment. -/
inductive Registration
  /-- A variable with its type. -/
  | binding (name : String) (type : ValueType)
  /-- A way to call a function. -/
  | signature (s : Signature)
deriving DecidableEq

/-- The environment after a registration. -/
def Environment.register (env : Environment) : Registration → Except Conflict Environment
  | .binding name type => env.addVariable name type
  | .signature s => env.addSignature s

end Formulas
