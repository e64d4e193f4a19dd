import Formulas.Command
import Formulas.Text.Blank

/-!
# Command line

The command `formula` with its subcommands `check`, `tokens` and `docs`. Arguments are read into a
request first; a request is then answered from the standard input and the files it names.

Options stand within their subcommand. Short flags combine behind one dash, the option with a file
takes the rest of its word or the next word, and a word of two dashes ends the options. A word that
starts with a dash is an option, apart from the single dash.
-/

namespace Formulas.CommandLine

/-- What the arguments ask for. -/
inductive Request
  /-- The version of the program. -/
  | version
  /-- A check of a formula, by default the standard input, with the path of a catalog file. -/
  | check (formula : Option String) (catalog : Option String) (style : Command.Style)
  /-- The tokens of a formula, by default the standard input. -/
  | tokens (formula : Option String)
  /-- The reference in short, or a category of it. -/
  | docs (category : Option String)

/-- What the program leaves behind. -/
structure Response where
  /-- The exit status: 0 for success, 1 for a failure, 2 for arguments that are not understood. -/
  status : Nat
  output : String
  errors : String
deriving DecidableEq

/-- The options and the positional argument of a subcommand. -/
structure Arguments where
  positional : Option String
  file : Option String
  json : Bool
  pretty : Bool

namespace Arguments

/-- No arguments. -/
def empty : Arguments := ⟨none, none, false, false⟩

/-- The arguments with a positional one, of which there is at most one. -/
def addPositional? (a : Arguments) (word : String) : Option Arguments :=
  if a.positional.isSome then none else some { a with positional := some word }

/-- The arguments with a file, of which there is at most one, with a name. -/
def addFile? (a : Arguments) (name : String) : Option Arguments :=
  if a.file.isSome || name.isEmpty then none else some { a with file := some name }

/-- The arguments with the flag for a JSON tree, given at most once. -/
def addJson? (a : Arguments) : Option Arguments :=
  if a.json then none else some { a with json := true }

/-- The arguments with the flag for a tree over several lines, given at most once. -/
def addPretty? (a : Arguments) : Option Arguments :=
  if a.pretty then none else some { a with pretty := true }

/-- The positional arguments behind the end of the options. -/
def addAll? (a : Arguments) (words : List String) : Option Arguments :=
  words.foldlM addPositional? a

/-- The arguments with the flags of one word. The letter of the option with a file ends the word:
what follows, perhaps behind an equals sign, is the file, and the answer `true` says that nothing
follows and that the next word is the file. -/
def addShort? (a : Arguments) : List Char → Option (Arguments × Bool)
  | [] => some (a, false)
  | 'j' :: rest => a.addJson?.bind (·.addShort? rest)
  | 'p' :: rest => a.addPretty?.bind (·.addShort? rest)
  | ['e'] => some (a, true)
  | 'e' :: '=' :: name => (a.addFile? (String.ofList name)).map (·, false)
  | 'e' :: name => (a.addFile? (String.ofList name)).map (·, false)
  | _ => none

/-- The word is an option or a group of flags. -/
def isOption (word : String) : Bool := word.startsWith "-" && word != "-"

/-- The arguments of a subcommand, with the options of `check` or without any. -/
def read? (options : Bool) : Arguments → List String → Option Arguments
  | a, [] => some a
  | a, "--" :: words => a.addAll? words
  | a, word :: words =>
    if !isOption word then (a.addPositional? word).bind (read? options · words)
    else if !options then none
    else if word == "--json" then a.addJson?.bind (read? options · words)
    else if word == "--pretty" then a.addPretty?.bind (read? options · words)
    else if word == "--env" then
      match words with
      | name :: words =>
        if isOption name then none else (a.addFile? name).bind (read? options · words)
      | [] => none
    else
      match word.toList with
      | '-' :: '-' :: 'e' :: 'n' :: 'v' :: '=' :: name =>
        (a.addFile? (String.ofList name)).bind (read? options · words)
      | '-' :: '-' :: _ => none
      | _ :: flags =>
        match a.addShort? flags, words with
        | some (a, false), words => read? options a words
        | some (a, true), name :: words =>
          if isOption name then none else (a.addFile? name).bind (read? options · words)
        | some (_, true), [] | none, _ => none
      | [] => none

/-- How the expression of a check is shown. -/
def style (a : Arguments) : Command.Style :=
  if a.pretty then .pretty else if a.json then .compact else .canonical

end Arguments

/-- The request of the arguments, if they are understood. -/
def Request.ofArguments? : List String → Option Request
  | "check" :: words =>
    (Arguments.empty.read? true words).map fun a => .check a.positional a.file a.style
  | "tokens" :: words => (Arguments.empty.read? false words).map fun a => .tokens a.positional
  | "docs" :: words => (Arguments.empty.read? false words).map fun a => .docs a.positional
  | word :: _ => if word == "--version" || word.startsWith "-V" then some .version else none
  | [] => none

/-- The formula of a request: its argument, or the standard input without the blanks at its end. -/
def formulaOf (input : String) (argument : Option String) : String :=
  argument.getD (String.ofList (Text.dropBlanksRight input.toList))

/-- The text of the catalog that a request names. -/
def catalogOf (files : String → Except FileFault String) :
    Option String → Except CommandError (Option String)
  | none => .ok none
  | some path => ((files path).map some).mapError .file

/-- The output of a request. -/
def Request.output (input : String) (files : String → Except FileFault String) :
    Request → Except CommandError String
  | .version => .ok "formula 0.1.0\n"
  | .check formula catalog style => do
    let catalog ← catalogOf files catalog
    let e ← Command.check catalog (formulaOf input formula)
    return style.render e ++ "\n"
  | .tokens formula => do
    let tokens ← Command.tokens (formulaOf input formula)
    return Reference.page (tokens.map Token.listed)
  | .docs none => .ok Reference.summary
  | .docs (some name) => (Command.category name).map Reference.Category.text

/-- The answer to the arguments, given the standard input and the files. -/
def respond (arguments : List String) (input : String)
    (files : String → Except FileFault String) : Response :=
  match Request.ofArguments? arguments with
  | none => ⟨2, "", ""⟩
  | some request =>
    match request.output input files with
    | .ok output => ⟨0, output, ""⟩
    | .error e => ⟨1, "", e.message ++ "\n"⟩

/-- The path of the file that a request needs. -/
def Request.file? : Request → Option String
  | .check _ file _ => file
  | _ => none

/-- The request reads the standard input. -/
def Request.readsInput : Request → Bool
  | .check formula _ _ => formula.isNone
  | .tokens formula => formula.isNone
  | .version | .docs _ => false

end Formulas.CommandLine
