import Stencil.Template.Log
import Stencil.Template.Tag
import Stencil.View.Location

/-!
# Includes

Include tags are replaced by the files they name before any data is looked at.
A file that is missing, cannot be read, or is being expanded already becomes a
comment.  Only so many files can be inside each other.
-/

namespace Stencil.Views

/-- The comment that stands for an include. -/
def comment (reason : Text) (name : Text) : Text :=
  "<!-- ".toList ++ reason ++ ": ".toList ++ name ++ " -->".toList

/-- What becomes of an include of a file that is not there. -/
def includeMissing (target name : Text) : Logged Text := do
  Logged.note (.includeMissing target)
  return comment "Include file not found".toList name

/-- What becomes of an include of a file that is being expanded, or of one file
too many inside each other. -/
def includeRecursive (target name : Text) : Logged Text := do
  Logged.note (.includeRecursive target)
  return comment "Recursive include skipped".toList name

/-- What becomes of an include of a file that is no text. -/
def includeFailed (fault : Fault) (name : Text) : Logged Text := do
  Logged.note (.includeFailed name fault)
  return comment "Error processing include".toList name

/-- What an include of a file becomes, unless the file is being expanded:
`expand` expands the text of the file, which is in the directory given. -/
def includeFile (tree : FileTree) (expand : Location → Text → Logged Text) (name : Text)
    (location : Location) : Logged Text := do
  match ← Logged.lift (tree.read? location) with
  | none => includeMissing (Location.text location) name
  | some bytes =>
      match FileTree.textOf bytes with
      | .ok text => expand location.dropLast text
      | .error fault => includeFailed fault name

/-- What an include becomes in a file of `directory`; `stack` holds the places
of the files being expanded.  Without `expand` there is no room for another
file. -/
def inline (views : Views) (tree : FileTree)
    (expand : Option (List Text → Location → Text → Logged Text))
    (stack : List Text) (directory : Location) (name : Text) : Logged Text :=
  match views.findInclude name directory with
  | .error (.viewNotFound _) => includeMissing name name
  | .error fault => Logged.fail fault
  | .ok location =>
      let key := Location.text location
      match expand with
      | none => includeRecursive key name
      | some expand =>
          if stack.contains key then includeRecursive key name
          else includeFile tree (expand (stack ++ [key])) name location

/-- The text with the pieces that are include tags replaced. -/
def expandPieces (inline : Text → Logged Text) (content : Text) : Logged Text :=
  Logged.concat
    (fun
      | .plain char => return [char]
      | .token _ header => inline (Text.trim header))
    (Tag.includeTag.pieces content)

/-- The text with all includes replaced, where `room` more files may be inside
each other. -/
def expandWithin (views : Views) (tree : FileTree) :
    Nat → List Text → Location → Text → Logged Text
  | 0, stack, directory, content =>
      expandPieces (views.inline tree none stack directory) content
  | room + 1, stack, directory, content =>
      expandPieces (views.inline tree (some (views.expandWithin tree room)) stack directory)
        content

/-- The text with all includes replaced, in a file of `directory`, while the
files at `stack` are being expanded. -/
def expand (views : Views) (tree : FileTree) (maxDepth : Nat) (stack : List Text)
    (directory : Location) (content : Text) : Logged Text :=
  views.expandWithin tree (maxDepth - stack.length) stack directory content

end Stencil.Views
