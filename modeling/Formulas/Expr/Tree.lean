import Formulas.Expr.Typing
import Formulas.Json

/-!
# Expressions as JSON

The tree of an expression as a JSON document. Every node is an object with its kind and its type,
and with its unit if it has one. Optional parts that are absent are null.
-/

namespace Formulas

/-- A literal as JSON; a number that is not finite becomes null. -/
def Constant.toJson : Constant → Json
  | .boolean b => .bool b
  | .number x => .ofNumber x
  | .string s => .string s
  | .dateTime d => .string d.toText
  | .null => .null

mutual

/-- An expression as JSON. -/
def Expr.toJson : Expr → Json
  | ⟨kind, unit⟩ =>
    Json.ofMembers
      (kind.members
        ++ ("type", .string (Expr.valueType ⟨kind, unit⟩).name)
          :: (unit.map fun name => ("unit", Json.string name)).toList)

/-- The members of a node that its kind decides. -/
def Kind.members : Kind → List (String × Json)
  | .constant c => [("kind", .string "constant"), ("value", c.toJson)]
  | .var name _ => [("kind", .string "variable"), ("name", .string name)]
  | .property base name _ =>
    [("kind", .string "property"), ("name", .string name), ("base", base.toJson)]
  | .call name _ arguments =>
    [("kind", .string "call"), ("name", .string name), ("args", .array (Expr.toJsons arguments))]
  | .binary op left right =>
    [("kind", .string "binary"), ("operator", .string op.operator.symbol),
      ("left", left.toJson), ("right", right.toJson)]
  | .unary op operand =>
    [("kind", .string "unary"), ("operator", .string op.operator.symbol),
      ("operand", operand.toJson)]
  | .ternary condition positive negative =>
    [("kind", .string "if"), ("condition", condition.toJson), ("then", positive.toJson),
      ("else", negative.toJson)]
  | .union items => [("kind", .string "union"), ("items", .array (Expr.toJsons items))]
  | .array items => [("kind", .string "array"), ("items", .array (Expr.toJsons items))]
  | .tuple items => [("kind", .string "tuple"), ("items", .array (Expr.toJsons items))]
  | .reduce reducer child =>
    [("kind", .string "reduce"), ("function", .string reducer.name), ("child", child.toJson)]
  | .temporal function child period start measure =>
    [("kind", .string "temporal"), ("function", .string function.name),
      ("child", child.toJson), ("time_period", Expr.toJsonOption period),
      ("time_from", Expr.toJsonOption start), ("unit_of_measure", Expr.toJsonOption measure)]
  | .first child => [("kind", .string "first"), ("child", child.toJson)]
  | .failed arguments => [("kind", .string "failed"), ("args", .array (Expr.toJsons arguments))]
  | .timer child measure =>
    [("kind", .string "timer"), ("child", child.toJson),
      ("unit_of_measure", Expr.toJsonOption measure)]
  | .each collection name body =>
    [("kind", .string "each"), ("collection", collection.toJson), ("variable", .string name),
      ("body", body.toJson)]

/-- A list of expressions as JSON. -/
def Expr.toJsons : List Expr → List Json
  | [] => []
  | e :: es => e.toJson :: Expr.toJsons es

/-- An optional expression as JSON. -/
def Expr.toJsonOption : Option Expr → Json
  | none => .null
  | some e => e.toJson

end

end Formulas
