import Stencil.Data.Fault
import Stencil.Settings.Options

/-!
# What settings are read with

The reader of YAML and the checks of settings are not part of this library:
they are parameters of everything that reads a file or takes settings by name.
Each of them gives a result or stops, with an error of its own kind or with
another one.
-/

namespace Stencil

/-- How something from outside ends without a result. -/
inductive Stop (ε : Type) where
  | own (error : ε)
  | other (fault : Fault)

namespace Stop

/-- The fault that a stop is told as. -/
def fault (told : ε → Fault) : Stop ε → Fault
  | own error => told error
  | other fault => fault

end Stop

/-- Whether the names of all entries are texts. -/
def Entries.areNamed (entries : Entries) : Bool :=
  entries.all fun (name, _) => match name with
    | .text _ => true
    | _ => false

namespace Settings

/-- A check of entries as the settings of an `α`, which tells all refusals
together. -/
abbrev Check (α : Type) := Entries → Except (Stop (List Refusal)) α

/-- What settings are read with: a reader of YAML, whose own errors are texts,
and the checks of what is declared for engines and for renders. -/
structure Library where
  yaml : Text → Except (Stop Text) Value
  config : Check Config
  options : Check Options

/-- A check of settings that are passed by name.  A name that is no text cannot
be passed at all. -/
def byName (check : Check α) (entries : Entries) : Except (Stop (List Refusal)) α :=
  if entries.areNamed then check entries else .error (.other .keywordNotText)

end Settings

def Options.ofEntries (library : Settings.Library) (entries : Entries) :
    Except Fault Options :=
  (Settings.byName library.options entries).mapError (Stop.fault .fieldsRejected)

/-- The configuration that a value from a file describes.  A relative path to
the views starts from `base`. -/
def Config.ofValue (library : Settings.Library) (base : Path) (value : Value) :
    Except Fault Config := do
  let entries ← match value with
    | .null => .ok []
    | .map _ false entries => .ok entries
    | _ => .error (.settings .notAMapping)
  let config ← (Settings.byName library.config (settingsOf entries)).mapError
    (Stop.fault fun refusals => .settings (.invalidFields refusals))
  return { config with viewsPath := base.join config.viewsPath }

end Stencil
