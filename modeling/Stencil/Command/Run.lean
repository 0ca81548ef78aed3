import Stencil.Command.Library
import Stencil.Engine
import Stencil.Settings.File

/-!
# Commands

Rendering, checking and listing views from a command line.  A command reads a
tree of files and may change it.  What the user did wrong is reported with an
exit code; any other fault is passed on.
-/

namespace Stencil.Command

/-- How a command ends. -/
inductive Ending where
  /-- The command line is not understood. -/
  | misused
  | finished (code : Nat) (output errors : Text)
  | listed (table : Table)
  deriving DecidableEq, Repr

def success (output : Text) : Ending :=
  .finished 0 output []

def failure (errors : Text) : Ending :=
  .finished 1 [] errors

namespace Library

/-- The line of a message in one colour. -/
def coloured (library : Library) (colour message : Text) : Except Fault Text :=
  library.line ('[' :: colour ++ ']' :: message ++ '[' :: '/' :: colour ++ [']'])

def errorLine (library : Library) (message : Text) : Except Fault Text :=
  library.coloured "red".toList ("✗ ".toList ++ message)

end Library

def commonNames : OptionNames where
  valued := [("--config".toList, .file), ("--views-path".toList, .noFile)]
  bare := []
  isInterspersed := false

def renderNames : OptionNames where
  valued :=
    [("--data".toList, .file), ("--input".toList, .anything), ("--output".toList, .noDirectory)]
  bare := ["--no-cache".toList, "--drop-undefined".toList]
  isInterspersed := true

/-- The options of the other commands. -/
def plainNames : OptionNames where
  valued := []
  bare := []
  isInterspersed := true

/-- What a command works with. -/
structure Session where
  engine : Engine
  tree : FileTree
  base : Location

/-- The entry that an input stands for; its value is JSON if it can be read as
that, and a text otherwise. -/
def inputEntry (key value : Text) : Except Fault (Text × Value) :=
  match Json.read value with
  | .ok value => .ok (key, value)
  | .error .malformed => .ok (key, .text value)
  | .error .tooManyDigits => .error .tooManyDigits

/-- The data with inputs set in order; the first input that is none ends the
command. -/
def withInputs (library : Library) : List Text → Entries → Except Fault (Entries ⊕ Ending)
  | [], data => .ok (.inl data)
  | input :: inputs, data =>
      match Text.cut? ['='] input with
      | some (key, value) => do
          let (key, value) ← inputEntry key value
          withInputs library inputs (data.set key value)
      | none => do
          let complaint ← library.coloured "red".toList ("Invalid input format: ".toList ++ input)
          let advice ← library.line "Use format: --input key=value".toList
          return .inr (failure (complaint ++ advice))

def renderData (library : Library) (session : Session) (given : Given) :
    Except Fault (Entries ⊕ Ending) := do
  let loaded := match given.last? "--data".toList with
    | some path =>
        Settings.readData library.settings session.tree session.base (Path.ofText path)
    | none => .ok []
  match loaded with
  | .ok data => withInputs library (given.all "--input".toList) data
  | .error (.settings fault) => return .inr (failure (← library.errorLine fault.message))
  | .error fault => .error fault

def renderOptions (given : Given) : Options :=
  { Options.default with
    cacheEnabled := if given.has "--no-cache".toList then some false else none
    preserveUndefined := !given.has "--drop-undefined".toList }

/-- Writes the text of a view to a file, or to the output. -/
def deliver (library : Library) (session : Session) (target : Option Text) (text : Text) :
    Except Fault (Ending × FileTree) :=
  match target with
  | none => .ok (success (library.echo text), session.tree)
  | some path => do
      let path := Path.ofText path
      let tree ← session.tree.makePath session.base path.parent
      let tree ← tree.write (Location.ofPath session.base path) (Utf8.encode text)
      let report ← library.coloured "green".toList ("✓ Wrote ".toList ++ path.text)
      return (.finished 0 [] report, tree)

def render (library : Library) (session : Session) (given : Given) (view : Text) :
    Except Fault (Ending × FileTree) := do
  match ← renderData library session given with
  | .inr ending => return (ending, session.tree)
  | .inl data =>
      let data := (Value.identifyEntries Value.firstIdentity data).1
      let (_, rendered) := session.engine.render session.tree (renderOptions given) data view
      match rendered.outcome with
      | .ok text => deliver library session (given.last? "--output".toList) text
      | .error (.viewNotFound name) =>
          return (failure (← library.errorLine (Fault.viewNotFound name).message), session.tree)
      | .error fault => .error fault

def problems (session : Session) (view : Text) : Except Fault (List Text) := do
  let (_, bytes) ← session.engine.open? session.tree view
  return Check.messages (← FileTree.textOf bytes)

def validate (library : Library) (session : Session) (view : Text) : Except Fault Ending :=
  match problems session view with
  | .ok [] => do
      return success
        (← library.coloured "green".toList ("✓ ".toList ++ view ++ " is valid".toList))
  | .ok found => do
      let heading ← library.errorLine
        (view ++ " has ".toList ++ Text.ofNat found.length ++ " problem(s):".toList)
      let lines ← found.mapM fun problem =>
        library.line ("  [yellow]•[/yellow] ".toList ++ problem)
      return .finished 1 (heading ++ lines.flatten) []
  | .error (.viewNotFound name) => do
      return .finished 1 (← library.errorLine (Fault.viewNotFound name).message) []
  | .error fault => .error fault

/-- What a list says of a view with a number of problems. -/
def verdict (problems : Nat) : Text :=
  if problems = 0 then "Yes".toList
  else "No (".toList ++ Text.ofNat problems ++ [')']

/-- What a list says of a view: its name, its file, and whether it is valid. -/
def row (session : Session) (view : Text) : Except Fault (List Text) := do
  let location ← session.engine.views.find view
  let shown := Location.text location
  match ← session.tree.read? location with
  | some bytes =>
      let names := (Location.within? session.engine.viewsRoot location).getD location
      let found := Check.messages (← FileTree.textOf bytes)
      return [view, Text.join ['/'] names, verdict found.length]
  | none =>
      if session.tree.isDirectory location then .error (.file (.isDirectory shown))
      else .error (.file (.missing shown))

def listing (library : Library) (rows : List (List Text)) : Except Fault Table := do
  return {
    title := "Views".toList
    headings := ["View".toList, "File".toList, "Valid".toList]
    rows := ← rows.mapM fun cells => cells.mapM library.cell }

def listViews (library : Library) (session : Session) : Except Fault Ending := do
  match ← session.engine.listViews session.tree with
  | [] =>
      return success (← library.coloured "yellow".toList
        ("No views found in ".toList ++ Location.text session.engine.viewsRoot))
  | names => return .listed (← listing library (← names.mapM (row session)))

inductive Verb where
  | render
  | validate
  | list
  deriving DecidableEq, Repr

namespace Verb

def names : List (Text × Verb) :=
  [("render".toList, render), ("validate".toList, validate), ("list-views".toList, list)]

end Verb

def Verb.optionNames : Verb → OptionNames
  | render => renderNames
  | validate | list => plainNames

/-- Runs a command with its own arguments. -/
def perform (library : Library) (session : Session) (verb : Verb) (arguments : List Text) :
    Except Fault (Ending × FileTree) := do
  match library.arguments verb.optionNames arguments with
  | none => return (.misused, session.tree)
  | some given =>
      if ← library.areAccepted session.tree session.base verb.optionNames given then
        match verb, given.positional with
        | .render, [view] => render library session given view
        | .validate, [view] => return (← validate library session view, session.tree)
        | .list, [] => return (← listViews library session, session.tree)
        | _, _ => return (.misused, session.tree)
      else return (.misused, session.tree)

/-- The configuration that the common options ask for. -/
def configuration (library : Settings.Library) (tree : FileTree) (base : Location)
    (given : Given) : Except Fault Config := do
  let config ← match given.last? "--config".toList with
    | some path => Settings.readConfig library tree base (Path.ofText path)
    | none => .ok Config.default
  return match given.last? "--views-path".toList with
    | some path => { config with viewsPath := Path.ofText path }
    | none => config

/-- Where the views of a command line are. -/
def viewsRoot? (library : Library) (tree : FileTree) (base : Location)
    (arguments : List Text) : Option Location := do
  let given ← library.arguments commonNames arguments
  let config ← (configuration library.settings tree base given).toOption
  (Views.locate base config.viewsPath).toOption

/-- Runs a command with the configuration that the common options ask for. -/
def runVerb (library : Library) (tree : FileTree) (base : Location) (given : Given)
    (verb : Verb) (arguments : List Text) : Except Fault (Ending × FileTree) :=
  match configuration library.settings tree base given with
  | .ok config => do
      let (engine, tree) ← Engine.create config none base tree
      perform library ⟨engine, tree, base⟩ verb arguments
  | .error (.settings fault) => do return (failure (← library.errorLine fault.message), tree)
  | .error fault => .error fault

/-- Runs a command line in a directory.  The configuration is read before the
arguments of the command are looked at. -/
def run (library : Library) (tree : FileTree) (base : Location) (arguments : List Text) :
    Except Fault (Ending × FileTree) := do
  match library.arguments commonNames arguments with
  | none => return (.misused, tree)
  | some given =>
      if ← library.areAccepted tree base commonNames given then
        match given.positional with
        | [] => return (.misused, tree)
        | name :: arguments =>
            match Verb.names.lookup name with
            | some verb => runVerb library tree base given verb arguments
            | none => return (.misused, tree)
      else return (.misused, tree)

end Stencil.Command
