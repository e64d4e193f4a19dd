import Formulas.Builtin
import Formulas.Text.Case.Upper

/-!
# Registries of built-in functions

A registry says which names call which built-in functions. Names are registered and looked up by
their upper case, so a name may be written in any case.
-/

namespace Formulas

/-- The built-in functions that names call. -/
structure Registry where
  /-- The names in upper case and their functions, in ascending order of the names. -/
  entries : List (String × Builtin)
deriving DecidableEq

namespace Registry

/-- The registry that knows no name. -/
def empty : Registry := ⟨[]⟩

/-- The entries with one more; an entry of the same name is replaced. -/
def insert (name : String) (function : Builtin) :
    List (String × Builtin) → List (String × Builtin)
  | [] => [(name, function)]
  | (n, f) :: rest =>
    if name = n then (n, function) :: rest
    else if name < n then (name, function) :: (n, f) :: rest
    else (n, f) :: insert name function rest

/-- The registry with one more name; a name that is known gets the new function. -/
def register (registry : Registry) (name : String) (function : Builtin) : Registry :=
  ⟨insert (Text.upper name) function registry.entries⟩

/-- The function that a name calls. -/
def get? (registry : Registry) (name : String) : Option Builtin :=
  registry.entries.lookup (Text.upper name)

/-- The name calls a built-in function. -/
def contains (registry : Registry) (name : String) : Bool := (registry.get? name).isSome

/-- The registered names in ascending order. -/
def names (registry : Registry) : List String := registry.entries.map Prod.fst

/-- The registry of the language. -/
def standard : Registry :=
  Builtin.standard.foldl (fun registry function => registry.register function.name function) empty

end Registry

end Formulas
