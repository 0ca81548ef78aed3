import Stencil.Data.Entries

/-!
# Resolving names

A name in a template is a path of segments with dots between them.  Each
segment is looked up in the mapping that the segments before it lead to; a
path never leads through anything that is not a mapping.
-/

namespace Stencil.Entries

/-- What a list of segments leads to from a value. -/
def walk : List Text → Value → Value
  | [], value => value
  | segment :: segments, .map _ _ entries => walk segments (lookup segment entries)
  | _ :: _, _ => .undefined

/-- What a name stands for in a context.  A name without a dot is looked up
as it is. -/
def resolve (path : Text) (context : Entries) : Value :=
  if '.' ∈ path then walk (Text.split '.' path) (.map 0 false context)
  else lookup path context

end Stencil.Entries
