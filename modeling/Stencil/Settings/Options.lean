import Stencil.Settings.Config

/-!
# Options of a render

What a single render may be told, apart from its data.
-/

namespace Stencil

structure Options where
  /-- Whether the cache is used; nothing leaves that to the engine. -/
  cacheEnabled : Option Bool
  validateSyntax : Bool
  showWarnings : Bool
  preserveUndefined : Bool
  deriving DecidableEq, Repr

namespace Options

namespace Setting

def cacheEnabled : Declaration (Option Bool) :=
  .plain "cache_enabled".toList none

def validateSyntax : Declaration Bool :=
  .plain "validate_syntax".toList true

def showWarnings : Declaration Bool :=
  .plain "show_warnings".toList true

def preserveUndefined : Declaration Bool :=
  .plain "preserve_undefined".toList true

end Setting

def default : Options where
  cacheEnabled := Setting.cacheEnabled.default
  validateSyntax := Setting.validateSyntax.default
  showWarnings := Setting.showWarnings.default
  preserveUndefined := Setting.preserveUndefined.default

end Options

end Stencil
