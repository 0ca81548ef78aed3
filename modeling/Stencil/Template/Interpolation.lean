import Stencil.Template.Helper
import Stencil.Template.Tag

/-!
# Interpolation

The pass that fills in expressions.  An expression is a head and a pipeline of
filters; the head is the call of a helper or a name.  Block tags and include
tags are left as they are, and so is a name that stands for nothing, if such
names are to be preserved.
-/

namespace Stencil

/-- What interpolation depends on besides the context. -/
structure Interpolation where
  filters : Registry
  helpers : Registry
  filterPolicy : Policy
  helperPolicy : Policy
  /-- Whether a name that stands for nothing is written to the log. -/
  showWarnings : Bool
  /-- Whether the tag of a name that stands for nothing stays in the text. -/
  preserveUndefined : Bool

namespace Interpolation

/-- The words that are block tags on their own. -/
def blockWords : List Text :=
  ["else".toList, "endif".toList, "endforeach".toList]

/-- The beginnings of the other block tags and of include tags. -/
def blockHeads : List Text :=
  ["foreach:".toList, "include:".toList]

/-- Whether an expression belongs to a block tag or to an include tag. -/
def isReserved (expression : Text) : Bool :=
  blockWords.contains expression
    || (blockHeads.any fun head => Text.startsWith expression head)
    || match Text.after? ['i', 'f'] expression with
      | some (char :: _) => Text.isBlank char
      | _ => false

/-- The head of an expression and the segments of its pipeline. -/
def split (expression : Text) : Text × List Text :=
  match Arguments.split ['|'] expression with
  | head :: segments => (head, segments)
  | [] => (expression, [])

/-- The text of a value after a pipeline. -/
def finish (interpolation : Interpolation) (segments : List Text) (value : Value) :
    Logged Text := do
  let value ← Filter.pipeline interpolation.filters interpolation.filterPolicy segments value
  Logged.lift value.display

/-- What a name that stands for nothing becomes. -/
def fillUndefined (interpolation : Interpolation) (raw name : Text) : Logged Text := do
  if interpolation.showWarnings then
    Logged.note (.undefinedVariable name)
  return if interpolation.preserveUndefined then raw else []

/-- What the tag of an expression becomes. -/
def fill (interpolation : Interpolation) (context : Entries) (raw expression : Text) :
    Logged Text :=
  if isReserved expression then return raw
  else
    let (head, segments) := split expression
    match Helper.Call.ofText? head with
    | some call => do
        let value ← call.evaluate interpolation.helpers interpolation.helperPolicy context
        interpolation.finish segments value
    | none =>
        match Entries.resolve head context with
        | .undefined => interpolation.fillUndefined raw head
        | value => interpolation.finish segments value

def fillPiece (interpolation : Interpolation) (context : Entries) : Piece Text → Logged Text
  | .plain char => return [char]
  | .token raw expression => interpolation.fill context raw expression

/-- One pass over the expressions of a text. -/
def pass (interpolation : Interpolation) (context : Entries) (text : Text) : Logged Text :=
  Logged.concat (interpolation.fillPiece context) (Tag.expressionTag.pieces text)

end Interpolation

end Stencil
