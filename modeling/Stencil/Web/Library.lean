import Stencil.Data.Entries
import Stencil.Data.Fault

/-!
# What requests are answered with

Building an answer and taking a query apart are not part of this library: they are
parameters of everything that answers a request, and so is what an answer is.
-/

namespace Stencil.Web

inductive ContentType where
  | html
  | plain
  deriving DecidableEq, Repr

/-- What requests are answered with. -/
structure Library (Reply : Type) where
  /-- An answer with a status and content. -/
  content : Int → ContentType → Text → Reply
  /-- An answer with a status and a value as JSON. -/
  json : Int → Value → Except Fault Reply
  /-- An answer with a status and the place to go to instead. -/
  located : Int → Text → Reply
  /-- The names and values of a query as a mapping. -/
  query : List (Text × Text) → Entries

end Stencil.Web
