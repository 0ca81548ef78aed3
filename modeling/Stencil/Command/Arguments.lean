import Stencil.Data.Entries

/-!
# Command line arguments

What commands declare of their arguments, and the arguments they are given: options with
values, options without, and the other arguments.  The values of some options are paths
that have to lead somewhere.
-/

namespace Stencil.Command

/-- What the value of an option has to be. -/
inductive Demand where
  | anything
  /-- A path that leads to a file. -/
  | file
  /-- A path that does not lead to a file. -/
  | noFile
  /-- A path that does not lead to a directory. -/
  | noDirectory
  deriving DecidableEq, Repr

/-- The options that a command knows. -/
structure OptionNames where
  valued : List (Text × Demand)
  bare : List Text
  /-- Whether options may follow other arguments. -/
  isInterspersed : Bool

/-- Arguments taken apart. -/
structure Given where
  values : List (Text × Text)
  bare : List Text
  positional : List Text
  deriving DecidableEq, Repr

namespace Given

/-- The values of an option, in order. -/
def all (name : Text) (given : Given) : List Text :=
  given.values.filterMap fun (found, value) => if found = name then some value else none

def last? (name : Text) (given : Given) : Option Text :=
  (given.all name).getLast?

def has (name : Text) (given : Given) : Bool :=
  given.bare.contains name

end Given

end Stencil.Command
