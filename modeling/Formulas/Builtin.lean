import Formulas.DateTime.Iso
import Formulas.Expr

/-!
# Built-in functions

A call of a built-in function makes a node of its own. Each function says which numbers of
arguments it takes and what shape they need.
-/

namespace Formulas

/-- A built-in function. -/
inductive Builtin
  /-- A reducer of one series, or its temporal form of two to four arguments. -/
  | reducer (reducer : Reducer)
  /-- A temporal function of one to four arguments. -/
  | temporal (function : TemporalFunction)
  /-- The time between changes, with an optional unit. -/
  | deltaTime
  | failed
  | each
  | first
  | ternary
  | tuple
  | union
  | timer
  /-- A date-time without an offset unless its text gives one. -/
  | dateTime
  /-- A date-time at the offset zero unless its text gives one. -/
  | dateTimeOffset
deriving DecidableEq

/-- Arguments that a built-in function does not take. -/
inductive CallError
  /-- The function does not take that number of arguments. -/
  | arity (function : String) (count : Nat)
  | eachArity
  /-- The second argument of an iteration is no bare name. -/
  | eachName
  | firstArity
  | ternaryArity
  | tupleArity
  | unionArity
  /-- The arguments are neither a text nor the right number of whole numbers. -/
  | dateTimeUsage (function : String)
  /-- The text is not in the format of dates and times. -/
  | dateTimeText (function text : String)
  /-- The numbers are no real date and time. -/
  | dateTimeParts (function : String)
deriving DecidableEq

namespace CallError

/-- How iterations are called. -/
def eachUsage : String :=
  "Each() takes three arguments: an enumeration, a variable name, and a body expression"

/-- The text of the error. -/
def message : CallError → String
  | .arity function count => function ++ "() does not take " ++ toString count ++ " arguments"
  | .eachArity => eachUsage
  | .eachName => eachUsage ++ ", The second argument must be a simple identifier."
  | .firstArity => "First() must have at least one argument"
  | .ternaryArity => "Ternary IF needs three arguments"
  | .tupleArity => "Tuple needs at least one argument"
  | .unionArity => "Union needs at least one argument"
  | .dateTimeUsage function =>
    function ++ "() takes one argument, a string like '" ++ function
      ++ "(\"2019-11-14T12:34:56\")', or three, five or six numbers"
  | .dateTimeText function text => function ++ "() could not parse '" ++ text ++ "'"
  | .dateTimeParts function => function ++ "() arguments are not a valid date and time"

end CallError

namespace Builtin

/-- The built-in functions of the language. -/
def standard : List Builtin :=
  Reducer.members.map .reducer
    ++ [TemporalFunction.countLeading, .delta, .standardDeviation, .slope, .forecast].map .temporal
    ++ [.deltaTime, .failed, .each, .first, .ternary, .tuple, .union, .timer, .dateTime,
      .dateTimeOffset]

/-- The name of a built-in function. -/
def name : Builtin → String
  | .reducer r => r.name
  | .temporal function => function.name
  | .deltaTime => "DELTA_TIME"
  | .failed => "FAILED"
  | .each => "EACH"
  | .first => "FIRST"
  | .ternary => "IF"
  | .tuple => "TUPLE"
  | .union => "UNION"
  | .timer => "TIMER"
  | .dateTime => "DATETIME"
  | .dateTimeOffset => "DATETIMEOFFSET"

/-- A temporal node: the series, then the length and the start of the window and the unit of the
result, each of which may be left out with those behind it. -/
def buildTemporal (function : TemporalFunction) (arguments : List Expr) : Except CallError Kind :=
  match arguments with
  | [child] => .ok (.temporal function child none none none)
  | [child, period] => .ok (.temporal function child (some period) none none)
  | [child, period, start] => .ok (.temporal function child (some period) (some start) none)
  | [child, period, start, measure] =>
    .ok (.temporal function child (some period) (some start) (some measure))
  | _ => .error (.arity function.name arguments.length)

/-- The integer that a literal is, cast to 64 bits. -/
def integer? (e : Expr) : Option Int :=
  match e.kind with
  | .constant (.number x) => x.toInt?.map DateTime.saturated
  | _ => none

/-- The six parts of a date-time from three, five or six integers; those that are left out are
zero. -/
def dateTimeParts? (arguments : List Expr) : Option (Int × Int × Int × Int × Int × Int) := do
  match ← arguments.mapM integer? with
  | [year, month, day] => some (year, month, day, 0, 0, 0)
  | [year, month, day, hour, minute] => some (year, month, day, hour, minute, 0)
  | [year, month, day, hour, minute, second] => some (year, month, day, hour, minute, second)
  | _ => none

/-- The text that is the only argument of a call. -/
def onlyText? (arguments : List Expr) : Option String :=
  match arguments with
  | [⟨.constant (.string text), _⟩] => some text
  | _ => none

/-- A date-time from a text or from its parts, with an offset for when the text gives none. -/
def buildDateTime (function : String) (offset : Option Int) (arguments : List Expr) :
    Except CallError Kind :=
  match onlyText? arguments with
  | some text =>
    match DateTime.ofText? text with
    | some d => .ok (.constant (.dateTime { d with offset := d.offset.or offset }))
    | none => .error (.dateTimeText function text)
  | none =>
    match dateTimeParts? arguments with
    | some (year, month, day, hour, minute, second) =>
      match DateTime.ofParts? year month day hour minute second offset with
      | some d => .ok (.constant (.dateTime d))
      | none => .error (.dateTimeParts function)
    | none => .error (.dateTimeUsage function)

/-- The node that a call with the given arguments makes. -/
def build (function : Builtin) (arguments : List Expr) : Except CallError Kind :=
  match function with
  | .reducer r =>
    match arguments with
    | [child] => .ok (.reduce r child)
    | _ => buildTemporal (.reduce r) arguments
  | .temporal function => buildTemporal function arguments
  | .deltaTime =>
    match arguments with
    | [child] => .ok (.temporal .deltaTime child none none none)
    | [child, measure] => .ok (.temporal .deltaTime child none none (some measure))
    | _ => .error (.arity "DELTA_TIME" arguments.length)
  | .failed =>
    match arguments with
    | [_] | [_, _] => .ok (.failed arguments)
    | _ => .error (.arity "Failed" arguments.length)
  | .each =>
    match arguments with
    | [collection, ⟨.var name _, _⟩, body] => .ok (.each collection name body)
    | [_, _, _] => .error .eachName
    | _ => .error .eachArity
  | .first =>
    if arguments.isEmpty then .error .firstArity
    else .ok (.first (Kind.array arguments).bare)
  | .ternary =>
    match arguments with
    | [condition, positive, negative] => .ok (.ternary condition positive negative)
    | _ => .error .ternaryArity
  | .tuple => if arguments.isEmpty then .error .tupleArity else .ok (.tuple arguments)
  | .union => if arguments.isEmpty then .error .unionArity else .ok (.union arguments)
  | .timer =>
    match arguments with
    | [child] => .ok (.timer child none)
    | [child, measure] => .ok (.timer child (some measure))
    | _ => .error (.arity "TIMER" arguments.length)
  | .dateTime => buildDateTime "DateTime" none arguments
  | .dateTimeOffset => buildDateTime "DateTimeOffset" (some 0) arguments

end Builtin

end Formulas
