import Stencil.Engine
import Stencil.Settings.Library
import Stencil.Web.Library

/-!
# Controllers

A controller renders views with data of its own.  What is given to a single
render comes on top of that and is not kept.
-/

namespace Stencil

/-- The data that all views of a controller share. -/
structure Controller where
  data : Entries

namespace Controller

def empty : Controller := ⟨[]⟩

/-- Sets the value of one name. -/
def set (name : Text) (value : Value) (controller : Controller) : Controller :=
  ⟨controller.data.set name value⟩

/-- Sets the values of all names of a mapping. -/
def merge (entries : Entries) (controller : Controller) : Controller :=
  ⟨controller.data.update entries⟩

/-- The text of a view, and the engine afterwards. -/
def view (library : Settings.Library) (controller : Controller) (engine : Engine)
    (tree : FileTree) (options : Entries) (extra : Entries) (name : Text) :
    Engine × Logged Text :=
  match Options.ofEntries library options with
  | .ok options => engine.render tree options (controller.data.update extra) name
  | .error fault => (engine, Logged.fail fault)

section Answers

variable {Reply : Type} (library : Web.Library Reply)

/-- The answer with a view; whatever goes wrong, the answer is that something
went wrong. -/
def respond (settings : Settings.Library) (controller : Controller) (engine : Engine)
    (tree : FileTree) (options : Entries) (extra : Entries) (name : Text) :
    Engine × Logged Reply :=
  let (engine, rendered) := controller.view settings engine tree options extra name
  let reply := match rendered.outcome with
    | .ok text => library.content 200 .html text
    | .error _ => library.content 500 .plain "Internal Server Error".toList
  (engine, ⟨rendered.log, .ok reply⟩)

def json (status : Int) (value : Value) : Except Fault Reply :=
  library.json status value

def redirect (location : Text) : Reply :=
  library.located 302 location

end Answers

end Controller

end Stencil
