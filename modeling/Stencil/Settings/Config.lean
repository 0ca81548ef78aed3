import Stencil.Data.Entries
import Stencil.File.Path
import Stencil.Template.Log
import Stencil.Template.Registry

/-!
# The configuration of an engine

Where the views are, how far a render may go, and what becomes of unknown
names.  Every setting is declared with its default, the values it may be given
and what is made of one: counts are at least one, and the extension of view
files begins with a dot unless it is empty.
-/

namespace Stencil

structure Config where
  viewsPath : Path
  defaultExtension : Text
  cacheEnabled : Bool
  maxPasses : Nat
  loopMaxPasses : Nat
  maxIncludeDepth : Nat
  filterPolicy : Policy
  helperPolicy : Policy
  literalFallback : Bool
  logLevel : Level
  deriving DecidableEq, Repr

/-- The declaration of a setting.  The default is neither checked nor prepared. -/
structure Declaration (α : Type) where
  name : Text
  default : α
  allows : α → Bool
  prepare : α → α

namespace Declaration

/-- A setting that is taken as it is given. -/
def plain (name : Text) (default : α) : Declaration α :=
  ⟨name, default, fun _ => true, id⟩

def count (name : Text) (default : Int) : Declaration Int :=
  ⟨name, default, fun given => 1 ≤ given, id⟩

end Declaration

namespace Config

def policies : List (Text × Policy) :=
  [("silent".toList, .silent), ("warn".toList, .warn), ("strict".toList, .strict)]

def levels : List (Text × Level) :=
  [Level.debug, Level.info, Level.warning, Level.error].map fun level => (level.word, level)

/-- An extension with its dot. -/
def dotted (text : Text) : Text :=
  match Text.trim text with
  | [] => []
  | '.' :: rest => '.' :: rest
  | extension => '.' :: extension

namespace Setting

def viewsPath : Declaration Path :=
  .plain "views_path".toList ⟨[], ["views".toList]⟩

def defaultExtension : Declaration Text :=
  { Declaration.plain "default_extension".toList ".html".toList with prepare := dotted }

def cacheEnabled : Declaration Bool :=
  .plain "cache_enabled".toList true

def maxPasses : Declaration Int :=
  .count "max_passes".toList 10

def loopMaxPasses : Declaration Int :=
  .count "loop_max_passes".toList 5

def maxIncludeDepth : Declaration Int :=
  .count "max_include_depth".toList 32

def filterPolicy : Declaration Policy :=
  .plain "unknown_filter_policy".toList .silent

def helperPolicy : Declaration Policy :=
  .plain "unknown_helper_policy".toList .silent

def literalFallback : Declaration Bool :=
  .plain "literal_fallback".toList true

def logLevel : Declaration Level :=
  .plain "log_level".toList .info

end Setting

def default : Config where
  viewsPath := Setting.viewsPath.default
  defaultExtension := Setting.defaultExtension.default
  cacheEnabled := Setting.cacheEnabled.default
  maxPasses := Setting.maxPasses.default.toNat
  loopMaxPasses := Setting.loopMaxPasses.default.toNat
  maxIncludeDepth := Setting.maxIncludeDepth.default.toNat
  filterPolicy := Setting.filterPolicy.default
  helperPolicy := Setting.helperPolicy.default
  literalFallback := Setting.literalFallback.default
  logLevel := Setting.logLevel.default

/-- The entries among which the settings stand: those of the section for the
engine if there is one, or else all. -/
def settingsOf (entries : Entries) : Entries :=
  match entries.lookup "view_engine".toList with
  | .map _ false inner => inner
  | _ => entries

end Config

end Stencil
