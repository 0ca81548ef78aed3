/-!
# Faults in a YAML text

Why a text has no value.  Most faults break a rule of the format; the others
are scalars that have the form of something that does not exist.
-/

namespace Stencil.Host.Yaml

/-- Why a text has no value. -/
inductive ReadFault where
  | malformed
  /-- The form of an integer, without a digit. -/
  | noDigits
  | tooManyDigits
  | dateNotReal
  /-- A place of a base-60 number counts more than any floating-point number. -/
  | placeTooLarge
  /-- The code of an escape is the one of no character. -/
  | noCharacter
  /-- The code of an escape has more than 31 bits. -/
  | codeTooLarge
  deriving DecidableEq, Repr

end Stencil.Host.Yaml
