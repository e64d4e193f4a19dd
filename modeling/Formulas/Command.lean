import Formulas.Catalog
import Formulas.Expr.Tree
import Formulas.Folder
import Formulas.Json.Printer
import Formulas.Parser
import Formulas.Reference
import Formulas.Token.Listing

/-!
# Commands

What the commands do with a formula: check it against a catalog, list its tokens, or show a page
of the reference. Each either has a result or fails with one of the errors of the parts.
-/

namespace Formulas

/-- Why a command fails. -/
inductive CommandError
  | parse (e : ParseError)
  | catalog (e : CatalogError)
  /-- A file that gives no text. -/
  | file (fault : FileFault)
  /-- A category that the reference does not have. -/
  | unknownCategory (name : String)

/-- The text of the error. -/
def CommandError.message : CommandError → String
  | .parse e => e.message
  | .catalog e => e.message
  | .file fault => "IO error: " ++ fault.message
  | .unknownCategory name =>
    "Unknown category: '" ++ name ++ "'\nRun 'formula docs' to see available categories."

namespace Command

/-- The expression of a formula whose names are typed by the text of a catalog, if there is one. -/
def check (catalog : Option String) (formula : String) : Except CommandError Expr := do
  let environment ← match catalog with
    | some text => (Environment.ofCatalog text).mapError .catalog
    | none => pure .empty
  (Expr.parse (.standard environment) formula).mapError .parse

/-- The tokens of a formula. -/
def tokens (formula : String) : Except CommandError (List Token) :=
  match Scan.ofText formula with
  | ⟨tokens, none⟩ => .ok tokens
  | ⟨_, some e⟩ => .error (.parse (.lexical e))

/-- A category of the reference by its name. -/
def category (name : String) : Except CommandError Reference.Category :=
  match Reference.Category.ofName? name with
  | some c => .ok c
  | none => .error (.unknownCategory name)

/-- How a checked expression is shown. -/
inductive Style
  /-- The canonical text. -/
  | canonical
  /-- The tree as JSON on one line. -/
  | compact
  /-- The tree as JSON over several lines. -/
  | pretty
deriving DecidableEq

/-- An expression as it is shown. -/
def Style.render : Style → Expr → String
  | .canonical, e => e.toText
  | .compact, e => e.toJson.compact
  | .pretty, e => e.toJson.pretty 0

end Command

end Formulas
