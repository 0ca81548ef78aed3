import Stencil.Text.Basic

/-!
# Paths

A path is a root, which relative paths do not have, and the parts between
slashes; empty parts and single dots are left out.  A location is where a path
leads to: the names from the root of the file system on.
-/

namespace Stencil

/-- A path as it is written. -/
structure Path where
  /-- Nothing, one slash or two slashes. -/
  root : Text
  parts : List Text
  deriving DecidableEq, Repr

/-- The names that lead from the root of the file system to a file. -/
abbrev Location := List Text

namespace Path

/-- The root of a text and the rest.  Exactly two slashes are a root of their
own. -/
def splitRoot (text : Text) : Text × Text :=
  let slashes := (text.takeWhile (· = '/')).length
  (if slashes = 0 then [] else if slashes = 2 then ['/', '/'] else ['/'], text.drop slashes)

/-- The parts of a text that say something. -/
def partsOf (text : Text) : List Text :=
  (Text.split '/' text).filter fun part => part ≠ [] ∧ part ≠ ['.']

def ofText (text : Text) : Path :=
  let (root, rest) := splitRoot text
  ⟨root, partsOf rest⟩

def isAbsolute (path : Path) : Bool :=
  path.root ≠ []

/-- The text of a path; a path without parts is a dot. -/
def text (path : Path) : Text :=
  if path.root = [] ∧ path.parts = [] then ['.']
  else path.root ++ Text.join ['/'] path.parts

/-- One path after another; an absolute path stands for itself. -/
def join (base path : Path) : Path :=
  if path.isAbsolute then path else ⟨base.root, base.parts ++ path.parts⟩

/-- The path without its last part. -/
def parent (path : Path) : Path :=
  { path with parts := path.parts.dropLast }

/-- The last part of a path. -/
def name (path : Path) : Text :=
  path.parts.getLast?.getD []

/-- The end of a name from its last dot on; a dot at either end of the name
begins no suffix. -/
def suffixOf (name : Text) : Text :=
  match Text.cut? ['.'] name.reverse with
  | some (after, before) =>
      if after = [] ∨ before = [] then [] else '.' :: after.reverse
  | none => []

def suffix (path : Path) : Text :=
  suffixOf path.name

end Path

namespace Location

/-- The place that some parts lead to from a location; two dots lead one level
up. -/
def follow : Location → List Text → Location
  | location, [] => location
  | location, part :: parts =>
      if part = ['.', '.'] then follow location.dropLast parts
      else follow (location ++ [part]) parts

/-- The place that a path leads to, relative paths starting from `base`. -/
def ofPath (base : Location) (path : Path) : Location :=
  follow (if path.isAbsolute then [] else base) path.parts

def text (location : Location) : Text :=
  '/' :: Text.join ['/'] location

/-- The names that lead from a directory to a place below it. -/
def within? : Location → Location → Option (List Text)
  | [], location => some location
  | name :: directory, found :: location =>
      if name = found then within? directory location else none
  | _ :: _, [] => none

theorem within?_eq_some_iff {directory location rest : Location} :
    within? directory location = some rest ↔ location = directory ++ rest := by
  induction directory generalizing location with
  | nil => simp [within?]
  | cons name directory ih =>
      cases location with
      | nil => simp [within?]
      | cons found location =>
          by_cases same : name = found
          · simp [within?, same, ih]
          · simp [within?, same, Ne.symm same]

end Location

end Stencil
