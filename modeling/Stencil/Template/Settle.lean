import Stencil.Template.Log

/-!
# Settling

Repeating a pass over a text until it changes nothing, at most a given number
of times.
-/

namespace Stencil

/-- The text that repeated passes lead to, and after how many passes it was
found to stay the same; `none` if the last pass allowed still changed it. -/
def settle (pass : Text → Logged Text) : Nat → Text → Logged (Text × Option Nat)
  | 0, text => return (text, none)
  | cap + 1, text => do
      let next ← pass text
      if next = text then return (next, some 1)
      else do
        let (final, passes) ← settle pass cap next
        return (final, passes.map (· + 1))

end Stencil
