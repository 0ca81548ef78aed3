import Stencil.Data.Json.Read
import Stencil.File.Tree
import Stencil.Settings.Library
import Stencil.Text.Case

/-!
# Configuration and data files

Files that hold the configuration of an engine or the data of a render.  A file
with the suffix of JSON holds JSON, any other YAML.
-/

namespace Stencil.Settings

def isJson (path : Path) : Bool :=
  Text.lower path.suffix = ".json".toList

def readJson (path : Path) (text : Text) : Except Fault Value :=
  match Json.read text with
  | .ok value => .ok value
  | .error .malformed => .error (.settings (.invalidJson path.text))
  | .error .tooManyDigits => .error .tooManyDigits

def readYaml (library : Library) (path : Path) (text : Text) : Except Fault Value :=
  (library.yaml text).mapError
    (Stop.fault fun reason => .settings (.invalidYaml path.text reason))

def readContent (library : Library) (path : Path) (content : Bytes) : Except Fault Value := do
  let text ← FileTree.textOf content
  if isJson path then readJson path text else readYaml library path text

/-- The value that a file holds.  A relative path starts from `base`. -/
def read (library : Library) (tree : FileTree) (base : Location) (path : Path) :
    Except Fault Value := do
  let location := Location.ofPath base path
  match ← tree.read? location with
  | some content => readContent library path content
  | none =>
      if tree.isDirectory location then .error (.file (.isDirectory path.text))
      else .error (.file (.missing path.text))

/-- The configuration that a file holds.  A relative path to the views starts
from the directory of the file. -/
def readConfig (library : Library) (tree : FileTree) (base : Location) (path : Path) :
    Except Fault Config := do
  Config.ofValue library path.parent (← read library tree base path)

/-- Whether a file holds a configuration; other faults than in its form are
passed on. -/
def isConfig (library : Library) (tree : FileTree) (base : Location) (path : Path) :
    Except Fault Bool :=
  match readConfig library tree base path with
  | .ok _ => .ok true
  | .error (.settings _) | .error (.file (.missing _)) => .ok false
  | .error fault => .error fault

/-- The data for a render that a file holds. -/
def readData (library : Library) (tree : FileTree) (base : Location) (path : Path) :
    Except Fault Entries := do
  match ← read library tree base path with
  | .null => return []
  | .map _ _ entries => return entries
  | _ => .error (.settings (.dataNotAMapping path.text))

end Stencil.Settings
