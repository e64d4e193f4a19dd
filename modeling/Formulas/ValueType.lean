import Formulas.Text.Case.Lower

/-!
# Value types

Every expression, variable and function result has one of six types. `object` is the type of
whatever is not known better: unknown variables, calls of unknown functions, properties.
-/

namespace Formulas

/-- The type of a value. -/
inductive ValueType
  | boolean
  | number
  | string
  | dateTime
  | array
  | object
deriving DecidableEq

namespace ValueType

instance : Inhabited ValueType := ⟨.object⟩

/-- The name under which a type is shown. -/
def name : ValueType → String
  | .boolean => "boolean"
  | .number => "number"
  | .string => "string"
  | .dateTime => "datetime"
  | .array => "array"
  | .object => "object"

/-- The types under all the names that catalogs may use for them. -/
def names : List (String × ValueType) :=
  [("bool", .boolean), ("boolean", .boolean),
    ("number", .number), ("double", .number), ("float", .number), ("int", .number),
    ("integer", .number), ("decimal", .number),
    ("string", .string), ("text", .string),
    ("datetime", .dateTime), ("date", .dateTime), ("datetimeoffset", .dateTime),
    ("array", .array), ("list", .array),
    ("object", .object), ("any", .object)]

/-- The type with that name, in any case of letters. -/
def ofName? (text : String) : Option ValueType := names.lookup (Text.lower text)

/-- The text of the error about a name that is not the name of a type. -/
def unknownNameMessage (text : String) : String := "Unknown type name '" ++ text ++ "'"

/-- Different types are shown under different names. -/
theorem name_injective {a b : ValueType} (h : a.name = b.name) : a = b := by
  cases a <;> cases b <;> first | rfl | exact absurd h (by decide)

end ValueType

end Formulas
