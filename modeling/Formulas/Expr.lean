import Formulas.Aggregation
import Formulas.DateTime
import Formulas.Number.Layout
import Formulas.Operator
import Formulas.ValueType

/-!
# Expressions

An expression is a tree of nodes, each with an optional unit of measure. Names that an environment
may know (variables, properties and calls) carry their type; the types of other nodes follow from
their parts.
-/

namespace Formulas

/-- A literal value. -/
inductive Constant
  | boolean (b : Bool)
  | number (x : Number)
  | string (s : String)
  | dateTime (d : DateTime)
  | null
deriving DecidableEq

mutual

/-- A node with its unit of measure. -/
structure Expr where
  /-- What the node is. -/
  kind : Kind
  /-- The unit behind it, by its canonical name. -/
  unit : Option String

/-- What a node is, with its parts. -/
inductive Kind
  /-- A literal. -/
  | constant (value : Constant)
  /-- A variable, also one with a dotted name that the environment knows. -/
  | var (name : String) (type : ValueType)
  /-- A property of an object. -/
  | property (base : Expr) (name : String) (type : ValueType)
  /-- A call of a function that is not built in. -/
  | call (name : String) (type : ValueType) (arguments : List Expr)
  /-- A binary operation. -/
  | binary (op : BinaryOp) (left right : Expr)
  /-- A prefix operation. -/
  | unary (op : UnaryOp) (operand : Expr)
  /-- A choice between two values. -/
  | ternary (condition positive negative : Expr)
  /-- A union of sets. -/
  | union (items : List Expr)
  /-- An array. -/
  | array (items : List Expr)
  /-- A tuple. -/
  | tuple (items : List Expr)
  /-- A reduction of a series. -/
  | reduce (reducer : Reducer) (child : Expr)
  /-- A temporal function of a series, with the length and the start of the window and the unit of
  the result. -/
  | temporal (function : TemporalFunction) (child : Expr) (period start measure : Option Expr)
  /-- The first value that is known, of an array of them. -/
  | first (child : Expr)
  /-- Whether values failed. -/
  | failed (arguments : List Expr)
  /-- How long a condition has held, with the unit of the result. -/
  | timer (child : Expr) (measure : Option Expr)
  /-- A value for each member of a collection. -/
  | each (collection : Expr) (name : String) (body : Expr)

end

/-- A node without a unit. -/
def Kind.bare (kind : Kind) : Expr := ⟨kind, none⟩

namespace Expr

/-- The truth value as an expression. -/
def boolean (b : Bool) : Expr := (Kind.constant (.boolean b)).bare

/-- The number as an expression. -/
def number (x : Number) : Expr := (Kind.constant (.number x)).bare

/-- The string as an expression. -/
def string (s : String) : Expr := (Kind.constant (.string s)).bare

/-- The date-time as an expression. -/
def dateTime (d : DateTime) : Expr := (Kind.constant (.dateTime d)).bare

/-- The null value as an expression. -/
def null : Expr := (Kind.constant .null).bare

instance : Inhabited Expr := ⟨null⟩

/-- The expression is the constant true; a unit does not matter. -/
def isTrue (e : Expr) : Bool :=
  match e.kind with
  | .constant (.boolean b) => b
  | _ => false

/-- The parts of a node from left to right. -/
def children (e : Expr) : List Expr :=
  match e.kind with
  | .constant _ | .var .. => []
  | .property base _ _ => [base]
  | .call _ _ arguments => arguments
  | .binary _ left right => [left, right]
  | .unary _ operand => [operand]
  | .ternary condition positive negative => [condition, positive, negative]
  | .union items | .array items | .tuple items | .failed items => items
  | .reduce _ child | .first child => [child]
  | .temporal _ child period start measure =>
    child :: (period.toList ++ start.toList ++ measure.toList)
  | .timer child measure => child :: measure.toList
  | .each collection _ body => [collection, body]

/-- A part of a node is smaller than the node. -/
theorem sizeOf_lt_of_mem_children {c e : Expr} (h : c ∈ e.children) : sizeOf c < sizeOf e := by
  obtain ⟨kind, unit⟩ := e
  have hlist : ∀ es : List Expr, c ∈ es → sizeOf c < sizeOf es := fun _ => List.sizeOf_lt_of_mem
  have hoption : ∀ o : Option Expr, o = some c → sizeOf c < sizeOf o := by
    rintro _ rfl
    simp
  cases kind <;>
    simp only [children, List.mem_cons, List.mem_append, Option.mem_toList, List.not_mem_nil,
      or_false] at h <;>
    simp only [Expr.mk.sizeOf_spec, Kind.property.sizeOf_spec, Kind.call.sizeOf_spec,
      Kind.binary.sizeOf_spec, Kind.unary.sizeOf_spec, Kind.ternary.sizeOf_spec,
      Kind.union.sizeOf_spec, Kind.array.sizeOf_spec, Kind.tuple.sizeOf_spec,
      Kind.reduce.sizeOf_spec, Kind.temporal.sizeOf_spec, Kind.first.sizeOf_spec,
      Kind.failed.sizeOf_spec, Kind.timer.sizeOf_spec, Kind.each.sizeOf_spec] <;>
    grind

/-- The dotted name of a variable or of a chain of properties of a variable. -/
def dottedName : Expr → Option String
  | ⟨.var name _, _⟩ => some name
  | ⟨.property base name _, _⟩ => base.dottedName.map (· ++ "." ++ name)
  | _ => none

/-- The node, or a base in its chain of properties, has a unit. -/
def carriesUnit : Expr → Bool
  | ⟨.property base _ _, unit⟩ => unit.isSome || base.carriesUnit
  | ⟨_, unit⟩ => unit.isSome

/-- The chain of properties with its variable made a property of `root`: grafting `b.c` on `a`
gives `a.b.c`. -/
def graft (root : Expr) : Expr → Expr
  | ⟨.var name _, unit⟩ => ⟨.property root name .object, unit⟩
  | ⟨.property base name type, unit⟩ => ⟨.property (graft root base) name type, unit⟩
  | e => e

end Expr

/-- Equality of literals; numbers are compared as values. -/
def Constant.same : Constant → Constant → Bool
  | .number x, .number y => x.eqv y
  | a, b => a == b

mutual

/-- Equality of trees: the same nodes with the same names, types and units, and literals of the
same value. -/
def Expr.same : Expr → Expr → Bool
  | ⟨kind, unit⟩, ⟨kind', unit'⟩ => kind.same kind' && unit == unit'

/-- Equality of nodes. -/
def Kind.same : Kind → Kind → Bool
  | .constant c, .constant c' => c.same c'
  | .var name type, .var name' type' => name == name' && type == type'
  | .property base name type, .property base' name' type' =>
    base.same base' && name == name' && type == type'
  | .call name type arguments, .call name' type' arguments' =>
    name == name' && type == type' && Expr.sameList arguments arguments'
  | .binary op left right, .binary op' left' right' =>
    op == op' && left.same left' && right.same right'
  | .unary op operand, .unary op' operand' => op == op' && operand.same operand'
  | .ternary condition positive negative, .ternary condition' positive' negative' =>
    condition.same condition' && positive.same positive' && negative.same negative'
  | .union items, .union items' => Expr.sameList items items'
  | .array items, .array items' => Expr.sameList items items'
  | .tuple items, .tuple items' => Expr.sameList items items'
  | .reduce reducer child, .reduce reducer' child' => reducer == reducer' && child.same child'
  | .temporal function child period start measure,
      .temporal function' child' period' start' measure' =>
    function == function' && child.same child' && Expr.sameOption period period'
      && Expr.sameOption start start' && Expr.sameOption measure measure'
  | .first child, .first child' => child.same child'
  | .failed arguments, .failed arguments' => Expr.sameList arguments arguments'
  | .timer child measure, .timer child' measure' =>
    child.same child' && Expr.sameOption measure measure'
  | .each collection name body, .each collection' name' body' =>
    collection.same collection' && name == name' && body.same body'
  | _, _ => false

/-- Equality of lists of trees. -/
def Expr.sameList : List Expr → List Expr → Bool
  | [], [] => true
  | e :: es, e' :: es' => e.same e' && Expr.sameList es es'
  | _, _ => false

/-- Equality of optional trees. -/
def Expr.sameOption : Option Expr → Option Expr → Bool
  | none, none => true
  | some e, some e' => e.same e'
  | _, _ => false

end

end Formulas
