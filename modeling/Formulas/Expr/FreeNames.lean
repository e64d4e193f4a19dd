import Formulas.Expr

/-!
# Free names

The free variables of an expression are the variables that it mentions outside the body of an
iteration over a variable of that name. Its free functions are the functions it calls that are not
built in. Both are collected by one walk through the expression from left to right, which keeps the
variables of the iterations it is in on a stack and notes each name when it is first met.
-/

namespace Formulas

/-- What is kept while the names in an expression are collected. -/
structure Collected where
  /-- The variables of the iterations whose bodies are being walked through, the innermost first. -/
  bound : List String
  /-- The names noted, in the order in which they were first met. -/
  found : List String
deriving DecidableEq

namespace Collected

/-- Note a name, unless it has been noted before. -/
def note (s : Collected) (name : String) : Collected :=
  if s.found.contains name then s else { s with found := s.found ++ [name] }

/-- Enter the body of an iteration over the variable. -/
def enter (s : Collected) (name : String) : Collected := { s with bound := name :: s.bound }

/-- Leave the body of the innermost iteration. -/
def leave (s : Collected) : Collected := { s with bound := s.bound.tail }

end Collected

namespace Expr

/-- Walk through an expression and note the functions that it calls, or else the variables that it
mentions and that are not bound. -/
def collect (functions : Bool) (e : Expr) (s : Collected) : Collected :=
  match e with
  | ⟨.var name _, _⟩ => if !functions && !s.bound.contains name then s.note name else s
  | ⟨.call name _ arguments, _⟩ =>
    -- a call comes before the calls in its arguments
    let s := if functions then s.note name else s
    arguments.attach.foldl (fun s c => c.1.collect functions s) s
  | ⟨.each collection name body, _⟩ =>
    (body.collect functions ((collection.collect functions s).enter name)).leave
  | e => e.children.attach.foldl (fun s c => c.1.collect functions s) s
termination_by sizeOf e
decreasing_by
  · exact sizeOf_lt_of_mem_children c.2
  · exact sizeOf_lt_of_mem_children (by simp [children])
  · exact sizeOf_lt_of_mem_children (by simp [children])
  · exact sizeOf_lt_of_mem_children c.2

/-- The free variables, in the order of their first mention. -/
def freeVariables (e : Expr) : List String := (e.collect false ⟨[], []⟩).found

/-- The functions that are called and not built in, in the order of their first mention. -/
def freeFunctions (e : Expr) : List String := (e.collect true ⟨[], []⟩).found

end Expr

end Formulas
