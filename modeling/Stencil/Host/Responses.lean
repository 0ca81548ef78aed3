import Stencil.Data.Json.Write
import Stencil.Web.Library

/-!
# Responses

What a request is answered with here: content of some type, or the place to go to
instead.  Of a name that a query gives twice the first value counts.
-/

namespace Stencil.Host

/-- An answer to a request. -/
inductive Response where
  | content (status : Int) (type text : Text)
  | located (status : Int) (location : Text)
  deriving DecidableEq, Repr

namespace Response

def typeName : Web.ContentType → Text
  | .html => "text/html".toList
  | .plain => "text/plain".toList

def json (status : Int) (value : Value) : Except Fault Response :=
  (Json.write Json.spaced value).map (content status "application/json".toList)

def queryData (query : List (Text × Text)) : Entries :=
  query.foldl
    (fun entries (name, value) =>
      if entries.hasKey name then entries else entries.set name (.text value))
    []

end Response

end Stencil.Host
