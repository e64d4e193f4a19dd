/-!
# Folders

A folder of files held in memory, and how a path leads to the text of one of them.

A path is read component by component between its slashes. An empty component and a single dot stay
where they are, two dots go to the folder around, and every other component is the name of a file
or of a folder. Of what lies outside, only the folders around are known to be there. A path that
leads to no text says why, with the number and the words of the system for that reason.
-/

namespace Formulas

/-- Why a file gives no text. -/
inductive FileFault
  /-- Nothing has the name. -/
  | missing
  /-- The name is that of a folder. -/
  | folder
  /-- A file stands where the path needs a folder. -/
  | notFolder
  /-- A component or the whole path is longer than the system takes. -/
  | nameTooLong
  /-- The file may not be read. -/
  | denied
  /-- The file cannot be read. -/
  | unreadable
  /-- The bytes of the file are no text. -/
  | notText
deriving DecidableEq

/-- The words for a fault. -/
def FileFault.message : FileFault → String
  | .missing => "No such file or directory (os error 2)"
  | .folder => "Is a directory (os error 21)"
  | .notFolder => "Not a directory (os error 20)"
  | .nameTooLong => "File name too long (os error 36)"
  | .denied => "Permission denied (os error 13)"
  | .unreadable => "Input/output error (os error 5)"
  | .notText => "stream did not contain valid UTF-8"

/-- The files in a folder and in the folders within it. A file is listed with its place: its own
name, then the folders that it is in, the innermost first. -/
structure Folder where
  files : List (List String × String)

namespace Folder

/-- The parts of a path between its slashes. -/
def parts : List Char → List (List Char)
  | [] => [[]]
  | c :: rest =>
    if c = '/' then [] :: parts rest
    else match parts rest with
      | [] => [[c]]
      | part :: others => (c :: part) :: others

/-- The components of a path. -/
def components (path : String) : List String := (parts path.toList).map String.ofList

/-- The component stays in the same folder. -/
def isHere (component : String) : Bool := component.isEmpty || component == "."

/-- The folder of some files, each with the path from the folder to it. -/
def ofFiles (files : List (String × String)) : Folder :=
  ⟨files.map fun (path, text) =>
    (((components path).filter fun component => !isHere component).reverse, text)⟩

/-- The text of the file at a place. -/
def text? (folder : Folder) (place : List String) : Option String := folder.files.lookup place

/-- Some file lies within the folder at a place. -/
def holds (folder : Folder) (place : List String) : Bool :=
  folder.files.any fun file => place.isSuffixOf file.1

/-- The longest component, in bytes. -/
def longestName : Nat := 255

/-- The longest path, in bytes. -/
def longestPath : Nat := 4095

/-- What the rest of a path meets outside of the folder. -/
def outside : List String → FileFault
  | [] => .folder
  | name :: rest =>
    if isHere name || name == ".." then outside rest
    else if name.utf8ByteSize > longestName then .nameTooLong
    else .missing

/-- The text that the rest of a path leads to from a place. -/
def follow (folder : Folder) (place : List String) : List String → Except FileFault String
  | [] => .error .folder
  | name :: rest =>
    if isHere name then folder.follow place rest
    else if name == ".." then
      match place with
      | [] => .error (outside rest)
      | _ :: around => folder.follow around rest
    else if name.utf8ByteSize > longestName then .error .nameTooLong
    else
      match folder.text? (name :: place) with
      | some text => if rest.isEmpty then .ok text else .error .notFolder
      | none =>
        if folder.holds (name :: place) then folder.follow (name :: place) rest
        else .error .missing

/-- The text of the file that a path leads to. A path that starts with a slash leads outside. -/
def read (folder : Folder) (path : String) : Except FileFault String :=
  if path.utf8ByteSize > longestPath then .error .nameTooLong
  else if path.isEmpty then .error .missing
  else if path.startsWith "/" then .error (outside (components path))
  else folder.follow [] (components path)

end Folder

end Formulas
