import Stencil.Command.Arguments
import Stencil.File.Tree

/-!
# Command lines

How a command line is taken apart here.  The value of an option follows an equals sign,
or is the next argument whatever it looks like.  After two hyphens nothing is an option.
Paths that an option demands are looked for in the tree of files.
-/

namespace Stencil.Host.Arguments

open Command (Demand Given OptionNames)

/-- One more option with a value, before the others. -/
def withValue (name value : Text) (given : Given) : Given :=
  { given with values := (name, value) :: given.values }

def withBare (name : Text) (given : Given) : Given :=
  { given with bare := name :: given.bare }

def withPositional (argument : Text) (given : Given) : Given :=
  { given with positional := argument :: given.positional }

/-- The name of an option and the value after its equals sign. -/
def splitOption (argument : Text) : Text × Option Text :=
  match Text.cut? ['='] argument with
  | some (name, value) => (name, some value)
  | none => (argument, none)

def isOption (argument : Text) : Bool :=
  argument.head? = some '-' && 1 < argument.length

/-- The arguments taken apart; none if an option is unknown, lacks its value or
has one it does not take. -/
def parse (names : OptionNames) : List Text → Option Given
  | [] => some ⟨[], [], []⟩
  | argument :: rest =>
      if argument = ['-', '-'] then some ⟨[], [], rest⟩
      else if isOption argument then
        let (name, value) := splitOption argument
        if (names.valued.lookup name).isSome then
          match value, rest with
          | some value, rest => (parse names rest).map (withValue name value)
          | none, value :: rest => (parse names rest).map (withValue name value)
          | none, [] => none
        else if names.bare.contains name && value.isNone then
          (parse names rest).map (withBare name)
        else none
      else if names.isInterspersed then (parse names rest).map (withPositional argument)
      else some ⟨[], [], argument :: rest⟩

/-- Whether the value of an option is what it has to be. -/
def accepts (tree : FileTree) (base : Location) (value : Text) : Demand → Except Fault Bool
  | .anything => .ok true
  | demand =>
      if value.contains '\x00' then .error .nulInPath
      else
        let place := tree.place? base value
        let isFile := (place.bind tree.content?).isSome
        .ok <| match demand with
          | .anything => true
          | .file => isFile
          | .noFile => !isFile
          | .noDirectory => isFile || place.isNone

/-- Whether the last values of all options are what they have to be.  They are
looked at in the order of the options, up to the first that is not. -/
def areAccepted (tree : FileTree) (base : Location) (names : OptionNames) (given : Given) :
    Except Fault Bool :=
  given.values.allM fun (name, value) =>
    accepts tree base ((given.last? name).getD value)
      ((names.valued.lookup name).getD .anything)

end Stencil.Host.Arguments
