import Formulas.CommandLine

/-!
# The program

The command `formula`: it reads what a request needs, answers it, and leaves with its status.
-/

open Formulas Formulas.CommandLine

/-- The fault behind an error of the system. Some calls report the number of an error negated. -/
def Formulas.FileFault.ofError : IO.Error → FileFault
  | .noFileOrDirectory .. => .missing
  | .inappropriateType _ code _ =>
    if min code (-code) == 21 then .folder else .notFolder
  | .invalidArgument _ code _ =>
    if min code (-code) == 36 then .nameTooLong else .unreadable
  | .permissionDenied .. => .denied
  | .userError _ => .notText
  | _ => .unreadable

/-- The text of the file at a path of the system. -/
def Formulas.CommandLine.readFile (path : String) : IO (Except FileFault String) := do
  try
    return .ok (← IO.FS.readFile path)
  catch e =>
    return .error (.ofError e)

/-- Answers the arguments of the program. -/
def main (arguments : List String) : IO UInt32 := do
  let request := Request.ofArguments? arguments
  let input ←
    if request.any (·.readsInput) then (← IO.getStdin).readToEnd else pure ""
  let file ← match request.bind (·.file?) with
    | some path => readFile path
    | none => pure (.error .missing)
  let response := respond arguments input fun _ => file
  IO.print response.output
  IO.eprint response.errors
  return response.status.toUInt32
