import Stencil.View.Location

/-!
# Listing views

The views of a tree: the files below the views directory whose name ends with
the extension.  An extension may hold wildcards, and slashes; then each of its
parts is a pattern for one name on the way to the file, or for any number of
directories, or leads one directory up.
-/

namespace Stencil

/-- A pattern for one character, or for a stretch of characters. -/
inductive Wildcard where
  | exactly (char : Char)
  | anyChar
  | anyStretch
  | oneOf (negated : Bool) (ranges : List (Char × Char))
  deriving DecidableEq, Repr

namespace Wildcard

/-- The ranges that the inside of brackets stands for. -/
def ranges : Text → List (Char × Char)
  | first :: '-' :: last :: rest => (first, last) :: ranges rest
  | char :: rest => (char, char) :: ranges rest
  | [] => []

/-- The inside of brackets and what follows them.  A closing bracket that
comes first is one of the characters inside. -/
def bracketed? (text : Text) : Option (Bool × Text × Text) :=
  let (negated, body) := match text with
    | '!' :: rest => (true, rest)
    | _ => (false, text)
  match body with
  | ']' :: rest =>
      (Text.cut? [']'] rest).map fun (inside, after) => (negated, ']' :: inside, after)
  | _ => (Text.cut? [']'] body).map fun (inside, after) => (negated, inside, after)

/-- The pattern that a text stands for; `fuel` bounds its length. -/
def ofTextWithin : Nat → Text → List Wildcard
  | 0, _ => []
  | _ + 1, [] => []
  | fuel + 1, '*' :: text => anyStretch :: ofTextWithin fuel text
  | fuel + 1, '?' :: text => anyChar :: ofTextWithin fuel text
  | fuel + 1, '[' :: text =>
      match bracketed? text with
      | some (negated, inside, after) =>
          oneOf negated (ranges inside) :: ofTextWithin fuel after
      | none => exactly '[' :: ofTextWithin fuel text
  | fuel + 1, char :: text => exactly char :: ofTextWithin fuel text

def ofText (text : Text) : List Wildcard :=
  ofTextWithin text.length text

/-- Whether a character fits a pattern for one character. -/
def fits (char : Char) : Wildcard → Bool
  | exactly expected => char = expected
  | anyChar | anyStretch => true
  | oneOf negated ranges =>
      (ranges.any fun (first, last) => first ≤ char && char ≤ last) != negated

/-- Whether a text matches a pattern, given which of its ends match what
follows a stretch. -/
def matchesStretch (rest : Text → Bool) : Text → Bool
  | [] => rest []
  | char :: text => rest (char :: text) || matchesStretch rest text

/-- Whether a whole text matches a pattern. -/
def isMatch : List Wildcard → Text → Bool
  | [], text => text = []
  | anyStretch :: pattern, text => matchesStretch (isMatch pattern) text
  | _ :: _, [] => false
  | wildcard :: pattern, char :: text => wildcard.fits char && isMatch pattern text

end Wildcard

/-- The names of what is in a directory. -/
def FileTree.entries (tree : FileTree) (directory : Location) : List Text :=
  (tree.files.map Prod.fst ++ tree.directories).filterMap fun location =>
    match Location.within? directory location with
    | some [name] => some name
    | _ => none

/-- The names that lead from a directory to the directories below it, and to
itself. -/
def FileTree.directoriesBelow (tree : FileTree) (directory : Location) : List (List Text) :=
  [] :: tree.directories.filterMap fun location =>
    match Location.within? directory location with
    | some (name :: names) => some (name :: names)
    | _ => none

namespace Views

/-- The pattern that stands for any number of directories. -/
def anyDepth : Text := ['*', '*']

/-- The patterns for the names on the way to a view: the last one is that of the
file, unless the extension ends with a slash. -/
def patterns (views : Views) : List Text :=
  let pattern := '*' :: views.extension
  anyDepth :: Path.partsOf pattern ++ (if pattern.getLast? = some '/' then [[]] else [])

/-- Whether a pattern cannot be used: two asterisks stand alone. -/
def isMisplaced (pattern : Text) : Bool :=
  pattern ≠ anyDepth && Text.has pattern anyDepth

/-- The ways that go on from some names below a directory and follow patterns,
each as the names on it. -/
def ways (tree : FileTree) (directory : Location) : List Text → List Text → List (List Text)
  | [], names => [names]
  | pattern :: patterns, names =>
      let here := Location.follow directory names
      if !tree.isDirectory here then []
      else if pattern = anyDepth then
        (tree.directoriesBelow here).flatMap fun below =>
          ways tree directory patterns (names ++ below)
      else if pattern = ['.', '.'] then ways tree directory patterns (names ++ [pattern])
      else
        ((tree.entries here).filter (Wildcard.isMatch (Wildcard.ofText pattern))).flatMap
          fun name => ways tree directory patterns (names ++ [name])

/-- The ways to the files of all views. -/
def files (views : Views) (tree : FileTree) : List (List Text) :=
  ((ways tree views.root views.patterns []).filter fun names =>
    (tree.content? (Location.follow views.root names)).isSome).eraseDups

/-- The name of the view at the end of a way from the views directory. -/
def nameOf (views : Views) (names : List Text) : Text :=
  (Text.dropEnd views.extension.length (Text.join ['/'] names)).map fun char =>
    if char = '/' then '.' else char

def list (views : Views) (tree : FileTree) : Except Fault (List Text) :=
  if views.patterns.any isMisplaced then .error .patternNotUsable
  else .ok (Text.sort ((views.files tree).map views.nameOf))

end Views

end Stencil
