import Stencil.File.Tree
import Stencil.Text.Blank

/-!
# Where views are

A view is named by the directories that lead to it from the views directory,
with dots between them, and the extension of view files may be added.  A name
never leads out of the views directory.  An include may also name a file
relative to the file it stands in.
-/

namespace Stencil

/-- The directory of the views and the extension of their files. -/
structure Views where
  root : Location
  extension : Text
  deriving DecidableEq, Repr

namespace Views

/-- The place that a path leads to; a file name cannot hold a NUL. -/
def locate (base : Location) (path : Path) : Except Fault Location :=
  if path.parts.any fun part => part.contains '\x00' then .error .nulInPath
  else .ok (Location.ofPath base path)

def segments (views : Views) (name : Text) : List Text :=
  let name := Text.trim name
  let name :=
    if Text.endsWith name views.extension then Text.dropEnd views.extension.length name
    else name
  (Text.split '.' name).filter fun segment => segment ≠ []

/-- The path of a file below a directory, the extension added to the last
segment. -/
def pathOf (extension : Text) (base : Path) : List Text → Path
  | [] => base
  | [segment] => base.join (Path.ofText (segment ++ extension))
  | segment :: next :: later =>
      pathOf extension (base.join (Path.ofText segment)) (next :: later)

def find (views : Views) (name : Text) : Except Fault Location := do
  let segments := views.segments name
  if segments = [] then .error (.viewNotFound name)
  else
    let location ← locate [] (pathOf views.extension ⟨['/'], views.root⟩ segments)
    match Location.within? views.root location with
    | some _ => return location
    | none => .error (.viewNotFound name)

/-- Whether a name is relative to the file it stands in. -/
def isRelative (name : Text) : Bool :=
  Text.startsWith name ['.', '/'] || Text.startsWith name ['.', '.', '/']

/-- Whether a text is one name of a file, and not a path. -/
def isFileName (text : Text) : Bool :=
  Path.splitRoot text = ([], text) && (Path.partsOf text).length = 1
    && text.getLast? != some '/'

/-- A place with the extension added to its last name, unless that has a
suffix. -/
def withExtension (views : Views) (location : Location) : Except Fault Location :=
  match location.getLast? with
  | none => .error (.nameNotUsable [])
  | some name =>
      if Path.suffixOf name ≠ [] then .ok location
      else if isFileName (name ++ views.extension) then
        .ok (location.dropLast ++ [name ++ views.extension])
      else .error (.nameNotUsable (name ++ views.extension))

/-- The place that an include in a file of a directory names. -/
def findInclude (views : Views) (name : Text) (directory : Location) :
    Except Fault Location :=
  if isRelative name then do
    views.withExtension (← locate directory (Path.ofText name))
  else views.find name

end Views

end Stencil
