import Stencil.Template.Loop

/-!
# Rendering

A render repeats three passes over the text of a template, for loops, for
conditions and for expressions, until the text stays the same or the passes
allowed are used up.  Hooks may change the text before and after.
-/

namespace Stencil

/-- Functions that change the text around the passes. -/
structure Hooks where
  beforePasses : Text → Entries → Logged Text
  afterPasses : Text → Entries → Logged Text

/-- What a render depends on besides the data. -/
structure Rendering where
  loops : Loop.Setting
  maxPasses : Nat
  hooks : Option Hooks

namespace Rendering

def cycle (rendering : Rendering) (data : Entries) (text : Text) : Logged Text := do
  let text ← rendering.loops.pass text data
  let text ← Logged.lift (Condition.pass rendering.loops.literalFallback data text)
  rendering.loops.interpolation.pass data text

/-- The cycles of a render, with a notice of how they ended. -/
def cycles (rendering : Rendering) (data : Entries) (text : Text) : Logged Text := do
  let (text, passes) ← settle (rendering.cycle data) rendering.maxPasses text
  Logged.note <| match passes with
    | some passes => .stable passes
    | none => .changing rendering.maxPasses
  return text

def process (rendering : Rendering) (data : Entries) (template : Text) : Logged Text :=
  match rendering.hooks with
  | none => rendering.cycles data template
  | some hooks => do
      let text ← hooks.beforePasses template data
      let text ← rendering.cycles data text
      hooks.afterPasses text data

end Rendering

end Stencil
