import Formulas.Environment
import Formulas.Json.Reader

/-!
# Catalogs

A catalog is a JSON document that lists variables with their types and functions with the types of
their arguments and results. Its entries are registered one after the other: the variables in
ascending order of their names, then the functions in the order of the document. The first entry
that is wrong, or contradicts the environment, ends the loading; what was registered before it
stays.
-/

namespace Formulas

/-- A document that does not have the layout of a catalog. -/
inductive LayoutFault
  /-- The document is no object. -/
  | document
  /-- The variables are no object. -/
  | variableMap
  /-- The functions are no array. -/
  | functionList
  /-- The type of a name is no string. -/
  | typeOf (name : String)
  /-- A function has no name that is a string. -/
  | functionName
  /-- The arguments of a function are no array. -/
  | argumentsOf (name : String)
deriving DecidableEq

/-- The text of the fault. -/
def LayoutFault.message : LayoutFault → String
  | .document => "the catalog must be a JSON object"
  | .variableMap => "'variables' must map names to type names"
  | .functionList => "'functions' must be an array"
  | .typeOf name => "type of '" ++ name ++ "' must be a string"
  | .functionName => "every function needs a string 'name'"
  | .argumentsOf name => "'arguments' of '" ++ name ++ "' must be an array of type names"

/-- Why a catalog is not loaded to its end. -/
inductive CatalogError
  /-- The document is not JSON. -/
  | notJson
  /-- The document does not have the layout of a catalog. -/
  | layout (fault : LayoutFault)
  /-- A type has a name that is not known. -/
  | unknownType (name : String)
  /-- An entry contradicts an earlier registration. -/
  | conflict (cause : Conflict)
deriving DecidableEq

/-- The text of the error. -/
def CatalogError.message : CatalogError → String
  | .notJson => "Invalid catalog JSON"
  | .layout fault => "Invalid catalog: " ++ fault.message
  | .unknownType name => "Unknown type '" ++ name ++ "' in catalog"
  | .conflict c => "Catalog conflict: " ++ c.message

namespace Catalog

/-- The type that a value names, as the type of `name`. -/
def readType (name : String) (value : Json) : Except CatalogError ValueType :=
  match value.string? with
  | none => .error (.layout (.typeOf name))
  | some text =>
    match ValueType.ofName? text with
    | some type => .ok type
    | none => .error (.unknownType text)

/-- The types of arguments that a value lists, as those of the function `name`; there are none if
the value is absent. -/
def readArguments (name : String) : Option Json → Except CatalogError (List ValueType)
  | none => .ok []
  | some (.array items) => items.mapM (readType name)
  | some _ => .error (.layout (.argumentsOf name))

/-- The type of result that a value names; it is `object` if the value is absent. -/
def readResult (name : String) : Option Json → Except CatalogError ValueType
  | none => .ok .object
  | some value => readType name value

/-- The registration of a function. -/
def readFunction (value : Json) : Except CatalogError Registration :=
  match (value.member? "name").bind Json.string? with
  | none => .error (.layout .functionName)
  | some name => do
    let arguments ← readArguments name (value.member? "arguments")
    let result ← readResult name (value.member? "result")
    return .signature ⟨name, arguments, result⟩

/-- The registration of a variable. -/
def readVariable (name : String) (value : Json) : Except CatalogError Registration :=
  (readType name value).map (.binding name)

/-- An entry of a catalog: a registration, or what is wrong with it. -/
abbrev Entry := Except CatalogError Registration

/-- The entries for variables. -/
def variableEntries : Option Json → List Entry
  | none => []
  | some (.object members) => members.map fun (name, value) => readVariable name value
  | some _ => [.error (.layout .variableMap)]

/-- The entries for functions. -/
def functionEntries : Option Json → List Entry
  | none => []
  | some (.array items) => items.map readFunction
  | some _ => [.error (.layout .functionList)]

/-- The entries of a catalog in the order of their registration. -/
def entries (document : Json) : List Entry :=
  match document with
  | .object _ =>
    variableEntries (document.member? "variables")
      ++ functionEntries (document.member? "functions")
  | _ => [.error (.layout .document)]

/-- The entries of the text of a catalog. -/
def entriesOfText (text : String) : List Entry :=
  match Json.parse? text with
  | some document => entries document
  | none => [.error .notJson]

end Catalog

/-- The environment after the entries up to the first that fails, and why that one fails. -/
def Environment.extend (env : Environment) :
    List Catalog.Entry → Environment × Option CatalogError
  | [] => (env, none)
  | .error e :: _ => (env, some e)
  | .ok registration :: entries =>
    match env.register registration with
    | .ok env => env.extend entries
    | .error conflict => (env, some (.conflict conflict))

/-- The environment of a catalog's text. -/
def Environment.ofCatalog (text : String) : Except CatalogError Environment :=
  match Environment.empty.extend (Catalog.entriesOfText text) with
  | (env, none) => .ok env
  | (_, some e) => .error e

end Formulas
