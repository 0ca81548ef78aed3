import Stencil.Settings.Config
import Stencil.Settings.Options
import Stencil.Template.Check
import Stencil.Template.Render
import Stencil.View.Include
import Stencil.View.Listing

/-!
# The engine

An engine renders the views of a directory.  It keeps the body of a view, its
includes expanded, from the first render that uses the cache; a body in the
cache does not depend on data or options.
-/

namespace Stencil

/-- Bodies of views by the place of their file, in the order in which they
were first kept. -/
abbrev Cache := List (Text × Text)

namespace Cache

def get? (key : Text) (cache : Cache) : Option Text :=
  List.lookup key cache

def keep (key body : Text) : Cache → Cache
  | [] => [(key, body)]
  | (found, old) :: cache =>
      if found = key then (key, body) :: cache else (found, old) :: keep key body cache

theorem get?_keep_self (key body : Text) (cache : Cache) :
    get? key (keep key body cache) = some body := by
  induction cache with
  | nil => simp [keep, get?]
  | cons entry cache ih =>
      obtain ⟨found, old⟩ := entry
      by_cases same : found = key
      · simp [keep, get?, same]
      · have differs : (key == found) = false := by simpa using Ne.symm same
        simpa [keep, get?, same, List.lookup_cons, differs] using ih

theorem get?_keep_of_ne {key other : Text} (distinct : other ≠ key) (body : Text)
    (cache : Cache) : get? other (keep key body cache) = get? other cache := by
  have differs : (other == key) = false := by simpa using distinct
  induction cache with
  | nil => simp [keep, get?, List.lookup_cons, differs]
  | cons entry cache ih =>
      obtain ⟨found, old⟩ := entry
      by_cases same : found = key
      · simp [keep, get?, same, List.lookup_cons, differs]
      · simp only [get?] at ih
        simp [keep, get?, same, List.lookup_cons, ih]

end Cache

/-- An engine: its configuration, what it can call, and its cache. -/
structure Engine where
  config : Config
  viewsRoot : Location
  cache : Cache
  filters : Registry
  helpers : Registry
  hooks : Option Hooks

namespace Engine

/-- An engine for the views of a configuration, and the tree in which their
directory exists.  A relative path starts from `base`. -/
def create (config : Config) (hooks : Option Hooks) (base : Location) (tree : FileTree) :
    Except Fault (Engine × FileTree) := do
  let root ← Views.locate base config.viewsPath
  let tree ← tree.makeDirectory root
  return (⟨config, root, [], Filter.builtin, Helper.builtin, hooks⟩, tree)

def views (engine : Engine) : Views :=
  ⟨engine.viewsRoot, engine.config.defaultExtension⟩

def addFilter (name : Text) (filter : Option Function) (engine : Engine) :
    Except Fault Engine := do
  return { engine with filters := ← engine.filters.register name filter }

def addHelper (name : Text) (helper : Option Function) (engine : Engine) :
    Except Fault Engine := do
  return { engine with helpers := ← engine.helpers.register name helper }

/-- The value of a filter on its own; a filter that is not registered leaves
the value as it is, unless the policy is strict. -/
def applyFilter (engine : Engine) (name : Text) (value : Value) (arguments : List Value) :
    Logged Value := do
  match ← engine.filters.lookup name engine.config.filterPolicy with
  | some filter => Logged.lift (filter (value :: arguments))
  | none => return value

/-- The value of a helper on its own; a helper that is not registered gives
the empty text, unless the policy is strict. -/
def callHelper (engine : Engine) (name : Text) (arguments : List Value) : Logged Value := do
  match ← engine.helpers.lookup name engine.config.helperPolicy with
  | some helper => Logged.lift (helper arguments)
  | none => return .text []

def interpolation (engine : Engine) (options : Options) : Interpolation where
  filters := engine.filters
  helpers := engine.helpers
  filterPolicy := engine.config.filterPolicy
  helperPolicy := engine.config.helperPolicy
  showWarnings := options.showWarnings
  preserveUndefined := options.preserveUndefined

def rendering (engine : Engine) (options : Options) : Rendering where
  loops := ⟨engine.interpolation options, engine.config.loopMaxPasses,
    engine.config.literalFallback⟩
  maxPasses := engine.config.maxPasses
  hooks := engine.hooks

def process (engine : Engine) (options : Options) (data : Entries) (template : Text) :
    Logged Text :=
  (engine.rendering options).process data template

def reportProblems (view template : Text) : Logged Unit :=
  match Check.messages template with
  | [] => return ()
  | problems => Logged.note (.syntaxErrors view problems)

/-- The text that a template renders to, its includes left as they are. -/
def renderText (engine : Engine) (options : Options) (data : Entries) (template : Text) :
    Logged Text := do
  if options.validateSyntax then reportProblems "<string>".toList template
  engine.process options data template

/-- The body of a view with its includes expanded. -/
def load (engine : Engine) (tree : FileTree) (options : Options) (view : Text)
    (location : Location) (bytes : Bytes) : Logged Text := do
  let content ← Logged.lift (FileTree.textOf bytes)
  if options.validateSyntax then reportProblems view content
  engine.views.expand tree engine.config.maxIncludeDepth [Location.text location]
    location.dropLast content

/-- Whether a render under some options uses the cache. -/
def usesCache (engine : Engine) (options : Options) : Bool :=
  options.cacheEnabled.getD engine.config.cacheEnabled

/-- The place and the content of the file of a view. -/
def open? (engine : Engine) (tree : FileTree) (view : Text) :
    Except Fault (Location × Bytes) := do
  let location ← engine.views.find view
  match ← tree.read? location with
  | some bytes => return (location, bytes)
  | none => .error (.viewNotFound (Location.text location))

/-- The text that a view renders to, and the engine afterwards.  A body that
was loaded is kept even if the render fails later on. -/
def render (engine : Engine) (tree : FileTree) (options : Options) (data : Entries)
    (view : Text) : Engine × Logged Text :=
  match engine.open? tree view with
  | .error fault => (engine, Logged.fail fault)
  | .ok (location, bytes) =>
      let key := Location.text location
      match if engine.usesCache options then engine.cache.get? key else none with
      | some body =>
          (engine, do
            Logged.note (.cached key)
            engine.process options data body)
      | none =>
          let loaded := engine.load tree options view location bytes
          let rendered := do engine.process options data (← loaded)
          match loaded.outcome with
          | .ok body =>
              if engine.usesCache options then
                ({ engine with cache := engine.cache.keep key body }, rendered)
              else (engine, rendered)
          | .error _ => (engine, rendered)

def viewExists (engine : Engine) (tree : FileTree) (view : Text) : Except Fault Bool :=
  match engine.views.find view with
  | .error (.viewNotFound _) => .ok false
  | .error fault => .error fault
  | .ok location => do return (← tree.read? location).isSome

def listViews (engine : Engine) (tree : FileTree) : Except Fault (List Text) :=
  engine.views.list tree

def clearCache (engine : Engine) : Engine :=
  { engine with cache := [] }

end Engine

end Stencil
