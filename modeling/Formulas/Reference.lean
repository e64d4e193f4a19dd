import Formulas.Builtin.Registry
import Formulas.Operator
import Formulas.UnitOfMeasure

/-!
# Language reference

The pages that document the formula language, by category. The pages on operators, functions and
units are made from the tables that the language itself uses.
-/

namespace Formulas.Reference

/-- A category of the reference. -/
inductive Category
  /-- Literals, names, arrays and units. -/
  | literals
  | operators
  | functions
  | units
  | types
deriving DecidableEq

/-- The categories under all the names by which they can be asked for. -/
def categoryNames : List (String × Category) :=
  [("syntax", .literals), ("literals", .literals),
    ("operators", .operators), ("ops", .operators), ("precedence", .operators),
    ("functions", .functions), ("function", .functions), ("builtins", .functions),
    ("units", .units), ("unit", .units),
    ("types", .types), ("type", .types)]

/-- The category with that name, in any case of letters and with either sign between words. -/
def Category.ofName? (text : String) : Option Category :=
  categoryNames.lookup
    (String.ofList ((Text.lower text).toList.map fun c => if c == '-' then '_' else c))

/-- The text of lines, each with its end. -/
def page (lines : List String) : String :=
  lines.foldr (fun line rest => line ++ "\n" ++ rest) ""

/-- The text filled with spaces up to a width. -/
def padRight (width : Nat) (text : String) : String :=
  text ++ String.ofList (List.replicate (width - text.length) ' ')

/-- The first page, which lists the categories. -/
def overview : String :=
  page [
    "FORMULA DOCUMENTATION",
    "",
    "Formulas describe computed metrics and rules over typed entities. An",
    "expression combines variables, literals, operators and function calls, and",
    "may carry units of measure.",
    "",
    "DOCUMENTATION CATEGORIES",
    "",
    "  syntax            Literals, identifiers, arrays and units",
    "  operators         Operators and their precedence",
    "  functions         Built-in functions and their arguments",
    "  units             Known units of measure and their spellings",
    "  types             Value types used by catalogs",
    "",
    "QUICK REFERENCE",
    "",
    "  [zone.temperature] > 21°C",
    "  AVERAGE(power, 15min) * 2",
    "  IF(occupied, 21, 18)",
    "  a > 5 AND b OR !c",
    "",
    "Run 'formula docs <category>' for detailed documentation."]

/-- All spellings of an operator. -/
def spellings : Operator → String
  | .and => "& && AND"
  | .or => "| || OR"
  | .equal => "= =="
  | .semicolon => "; (as AND)"
  | .negate => "- (prefix)"
  | op => op.symbol

/-- The page on operators. -/
def operatorsPage : String :=
  page
    (["OPERATORS (loosest first)", "", "  PRECEDENCE  OPERATOR"]
      ++ Operator.all.map
        (fun op => "  " ++ padRight 10 (toString op.precedence) ++ "  " ++ spellings op)
      ++ ["",
        "Operators of equal precedence associate left to right: 1 - 2 - 3 is (1 - 2) - 3.",
        "Prefix operators associate right to left: --x is -(-x)."])

/-- The arguments of a built-in function. -/
def usage : Builtin → String
  | .reducer _ => "(x) or (x, period[, from[, unit]])"
  | .temporal _ => "(x[, period[, from[, unit]]])"
  | .deltaTime => "(x[, unit])"
  | .failed => "(x[, y])"
  | .each => "(collection, variable, body)"
  | .first => "(a, b, ...)"
  | .ternary => "(condition, then, otherwise)"
  | .tuple | .union => "(a, ...)"
  | .timer => "(condition[, unit])"
  | .dateTime | .dateTimeOffset => "(\"2019-11-14T12:34:56\") or (y, m, d[, h, min[, s]])"

/-- The page on built-in functions. -/
def functionsPage : String :=
  page
    (["BUILT-IN FUNCTIONS", ""]
      ++ Registry.standard.entries.map
        (fun (name, function) => "  " ++ padRight 16 name ++ usage function)
      ++ ["", "Any other name is a function call typed through the catalog."])

/-- The page on units. -/
def unitsPage : String :=
  page
    (["UNITS OF MEASURE", "", "  UNIT        SPELLINGS"]
      ++ UnitOfMeasure.all.map
        (fun unit => "  " ++ padRight 10 unit.name ++ "  " ++ " ".intercalate unit.aliases)
      ++ ["", "Unknown words after a value are kept as written: 3 occ"])

/-- The page on literals, names, arrays and units. -/
def literalsPage : String :=
  page [
    "SYNTAX",
    "",
    "NUMBERS",
    "  42  0.5  3.25",
    "  Decimal numbers with at most one point. Negative numbers use prefix '-'.",
    "",
    "STRINGS",
    "  \"double quoted\"  'single quoted'",
    "  Backslash escapes \\\" \\' and \\\\. Typographic quotes are rejected.",
    "",
    "IDENTIFIERS",
    "  zone_temp  °C  $cost",
    "  Start with a letter or one of % $ _ ° € and continue with letters, digits",
    "  or those characters.",
    "",
    "  [zone temperature]  [dtmi:com:example;1]",
    "  Brackets take any text up to the closing ']'.",
    "",
    "  true false null pi are literals. 'is' is an operator.",
    "",
    "DOTTED NAMES",
    "  this.supplyFan.motorPower",
    "  A dotted name known to the catalog is a single variable, otherwise it is",
    "  property access.",
    "",
    "ARRAYS",
    "  \x7b1, 2, 3\x7d  \x7b\x7d",
    "",
    "UNITS",
    "  5 m  21°C  10%  (5 + 5)h",
    "  A word directly after a value is its unit of measure.",
    "",
    "EMPTY INPUT",
    "  An empty expression is the constant true."]

/-- The page on types and catalogs. -/
def typesPage : String :=
  page [
    "TYPES",
    "",
    "  boolean    bool, boolean",
    "  number     number, double, float, int, integer, decimal",
    "  string     string, text",
    "  datetime   datetime, date, datetimeoffset",
    "  array      array, list",
    "  object     object, any",
    "",
    "Unknown variables, property access and functions missing from the catalog",
    "are typed 'object'.",
    "",
    "CATALOG FORMAT",
    "  \x7b",
    "    \"variables\": \x7b \"zone.temperature\": \"number\" \x7d,",
    "    \"functions\": [ \x7b \"name\": \"OPTION\", \"arguments\": [\"object\"], \"result\": \"boolean\" \x7d ]",
    "  \x7d"]

/-- The page of a category. -/
def Category.text : Category → String
  | .literals => literalsPage
  | .operators => operatorsPage
  | .functions => functionsPage
  | .units => unitsPage
  | .types => typesPage

/-- The reference in short: the first page, the operators and the built-in functions. -/
def summary : String := overview ++ "\n" ++ operatorsPage ++ "\n" ++ functionsPage

end Formulas.Reference
