import Stencil.Data.Fault
import Stencil.File.Path

/-!
# File trees

The files and directories that a render can see.  Every operation names a
place; it fails for the reasons a file system gives.
-/

namespace Stencil

/-- Files with their content, and directories; the root is always one. -/
structure FileTree where
  files : List (Location × Bytes)
  directories : List Location
  deriving DecidableEq

namespace FileTree

/-- The most bytes a name may have. -/
def maxName : Nat := 255

/-- The most bytes the text of a location may have. -/
def maxLocation : Nat := 4095

def empty : FileTree := ⟨[], []⟩

def isTooLong (name : Text) : Bool :=
  maxName < (Utf8.encode name).length

/-- Whether the text of a location has too many bytes. -/
def isTooDeep (location : Location) : Bool :=
  maxLocation < (Utf8.encode (Location.text location)).length

def isDirectory (tree : FileTree) (location : Location) : Bool :=
  location = [] || tree.directories.contains location

def content? (tree : FileTree) (location : Location) : Option Bytes :=
  tree.files.lookup location

/-- What is at the place that names lead to from a directory.  A name is only
looked at if the directory before it exists. -/
def find? (tree : FileTree) (directory : Location) : List Text → Except Fault (Option Bytes)
  | [] => .ok none
  | name :: names =>
      if !tree.isDirectory directory then .ok none
      else if isTooLong name then
        .error (.file (.nameTooLong (Location.text (directory ++ [name]))))
      else if names = [] then .ok (tree.content? (directory ++ [name]))
      else tree.find? (directory ++ [name]) names

/-- The content of the file at a place, if there is one. -/
def read? (tree : FileTree) (location : Location) : Except Fault (Option Bytes) :=
  if isTooDeep location then .error (.file (.nameTooLong (Location.text location)))
  else tree.find? [] location

/-- The text of a file, its line ends as line feeds. -/
def textOf (bytes : Bytes) : Except Fault Text :=
  match Utf8.decode bytes with
  | .ok text => .ok text.withLineFeeds
  | .error fault => .error (.encoding fault)

/-- The place that the parts of a path lead to, if something is there.  Every
part is looked at from a directory, also one that leads to that directory
again. -/
def walk? (tree : FileTree) : Location → List Text → Option Location
  | here, [] => some here
  | here, part :: parts =>
      if !tree.isDirectory here || isTooLong part then none
      else if part = [] ∨ part = ['.'] then tree.walk? here parts
      else if part = ['.', '.'] then tree.walk? here.dropLast parts
      else
        let next := here ++ [part]
        if tree.isDirectory next || (tree.content? next).isSome then tree.walk? next parts
        else none

/-- The place that a text leads to as a path from a directory, if something is
there. -/
def place? (tree : FileTree) (directory : Location) (text : Text) : Option Location :=
  if text = [] ∨ maxLocation < (Utf8.encode text).length then none
  else tree.walk? (if text.head? = some '/' then [] else directory) (Text.split '/' text)

/-- The tree with the directories that the parts of a path lead through from a
directory.  A file among them is in the way; if directories were added before
it, it is found when one is to be added in its place. -/
def addDirectories (hasGrown : Bool) (here : Location) :
    List Text → FileTree → Except Fault FileTree
  | [], tree => .ok tree
  | part :: parts, tree =>
      let next := here ++ [part]
      if part = ['.', '.'] then addDirectories hasGrown here.dropLast parts tree
      else if isTooLong part then .error (.file (.nameTooLong (Location.text next)))
      else if (tree.content? next).isSome then
        if parts = [] || hasGrown then .error (.file (.alreadyThere (Location.text next)))
        else .error (.file (.notADirectory (Location.text next)))
      else if tree.isDirectory next then addDirectories hasGrown next parts tree
      else addDirectories true next parts { tree with directories := tree.directories ++ [next] }

/-- The tree with a directory at a place, and those that lead to it. -/
def makeDirectory (location : Location) (tree : FileTree) : Except Fault FileTree :=
  addDirectories false [] location tree

/-- The tree with the directories that a path leads through, relative paths
starting from `base`. -/
def makePath (base : Location) (path : Path) (tree : FileTree) : Except Fault FileTree :=
  addDirectories false (if path.isAbsolute then [] else base) path.parts tree

/-- Files with the content of one file replaced or added. -/
def assign (location : Location) (content : Bytes) :
    List (Location × Bytes) → List (Location × Bytes)
  | [] => [(location, content)]
  | (found, old) :: files =>
      if found = location then (location, content) :: files
      else (found, old) :: assign location content files

/-- The tree with a file at a place, and the directories that lead to it. -/
def write (location : Location) (content : Bytes) (tree : FileTree) :
    Except Fault FileTree := do
  let tree ← tree.makeDirectory location.dropLast
  if tree.isDirectory location then
    .error (.file (.isDirectory (Location.text location)))
  else if (location.getLast?.map isTooLong).getD false then
    .error (.file (.nameTooLong (Location.text location)))
  else return { tree with files := assign location content tree.files }

def delete (location : Location) (tree : FileTree) : Except Fault FileTree :=
  if tree.isDirectory location then
    .error (.file (.isDirectory (Location.text location)))
  else if (tree.content? location).isSome then
    .ok { tree with files := tree.files.filter fun (found, _) => found ≠ location }
  else .error (.file (.missing (Location.text location)))

end FileTree

end Stencil
