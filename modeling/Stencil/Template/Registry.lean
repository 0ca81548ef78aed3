import Stencil.Data.Entries
import Stencil.Template.Log

/-!
# Registries

Filters and helpers are functions on values, known by name.  A name keeps the
place of its first registration.  A policy says what becomes of a name that is
not registered.
-/

namespace Stencil

/-- A function that a template can call: on the filtered value and arguments,
or on arguments alone. -/
abbrev Function := List Value → Except Fault Value

/-- What to do about a name that is not registered. -/
inductive Policy where
  | silent
  | warn
  | strict
  deriving DecidableEq, Repr

/-- Functions of one kind by name, in the order of their registration. -/
structure Registry where
  kind : Callable
  functions : List (Text × Function)

namespace Registry

def get? (name : Text) (registry : Registry) : Option Function :=
  registry.functions.lookup name

/-- Named functions with a function for one name. -/
def assign (name : Text) (function : Function) : List (Text × Function) → List (Text × Function)
  | [] => [(name, function)]
  | (found, old) :: later =>
      if found = name then (name, function) :: later
      else (found, old) :: assign name function later

/-- The registry with a function for a name; only a function is accepted. -/
def register (name : Text) (candidate : Option Function) (registry : Registry) :
    Except Fault Registry :=
  match candidate with
  | some function => .ok { registry with functions := assign name function registry.functions }
  | none => .error (.notCallable registry.kind name)

def names (registry : Registry) : List Text :=
  registry.functions.map Prod.fst

/-- The function of a name, or what the policy says if there is none. -/
def lookup (name : Text) (policy : Policy) (registry : Registry) :
    Logged (Option Function) :=
  match registry.get? name, policy with
  | some function, _ => return some function
  | none, .strict => Logged.fail (.unknownName registry.kind name)
  | none, .warn => do
      Logged.note (.unknownName registry.kind name)
      return none
  | none, .silent => return none

end Registry

end Stencil
