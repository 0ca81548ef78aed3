import Stencil.Data.Json.Read
import Stencil.Engine
import Stencil.Web.Library

/-!
# Previews

Views over HTTP: a view is rendered with the values of a query or with a JSON
object as its data.  What goes wrong is answered with a status and the reason.
-/

namespace Stencil.Preview

variable {Reply : Type} (library : Web.Library Reply)

/-- A mapping from one name to a value. -/
def entry (name : Text) (value : Value) : Value :=
  .map 0 false [(.text name, value)]

/-- The answer with a reason instead of a view. -/
def refusal (status : Int) (reason : Text) : Except Fault Reply :=
  library.json status (entry "error".toList (.text reason))

/-- The answer with a view, and the engine afterwards. -/
def render (engine : Engine) (tree : FileTree) (data : Entries) (name : Text) :
    Engine × Logged Reply :=
  let (engine, rendered) := engine.render tree Options.default data name
  let reply := match rendered.outcome with
    | .ok text => .ok (library.content 200 .html text)
    | .error (.viewNotFound view) => refusal library 404 (Fault.viewNotFound view).message
    | .error fault => refusal library 500 fault.message
  (engine, ⟨rendered.log, reply⟩)

def get (engine : Engine) (tree : FileTree) (query : List (Text × Text)) (name : Text) :
    Engine × Logged Reply :=
  render library engine tree (library.query query) name

def post (engine : Engine) (tree : FileTree) (body : Text) (name : Text) :
    Engine × Logged Reply :=
  match Json.read body with
  | .error .malformed => (engine, Logged.lift (refusal library 400 "Invalid JSON".toList))
  | .error .tooManyDigits => (engine, Logged.fail .tooManyDigits)
  | .ok value =>
      match (value.identify Value.firstIdentity).1 with
      | .map _ _ data => render library engine tree data name
      | _ =>
          let reason := "Render data must be a JSON object".toList
          (engine, Logged.lift (refusal library 400 reason))

def views (engine : Engine) (tree : FileTree) : Except Fault Reply := do
  let names ← engine.listViews tree
  library.json 200 (entry "views".toList (.list 0 (names.map .text)))

def clear (engine : Engine) : Engine × Except Fault Reply :=
  (engine.clearCache, library.json 200 (entry "status".toList (.text "cleared".toList)))

def health (engine : Engine) : Except Fault Reply :=
  library.json 200 (.map 0 false
    [(.text "status".toList, .text "healthy".toList),
     (.text "views_path".toList, .text (Location.text engine.viewsRoot)),
     (.text "cached_views".toList, .int engine.cache.length)])

end Stencil.Preview
