import Stencil.Template.Condition
import Stencil.Template.Interpolation
import Stencil.Template.Settle
import Stencil.Text.Word

/-!
# Loops

The pass that expands `foreach` blocks.  Each entry of the target gives one
iteration: the loop's names are bound in the context, the placeholders of all
bound names are filled in outside nested loops, and the passes of the iteration
are repeated until its text stays the same.
-/

namespace Stencil.Loop

/-- What the header of a loop names: the target, and the names for the key and
the value of an entry. -/
structure Spec where
  target : Text
  keyName : Text
  valueName : Text
  deriving DecidableEq, Repr

namespace Spec

/-- The rest of a text that begins with blank characters. -/
def blanks? (text : Text) : Option Text :=
  match text with
  | char :: rest => if Text.isBlank char then some (Text.trimLeft rest) else none
  | [] => none

/-- A word at the beginning of a text, made of the characters allowed. -/
def word? (allowed : Char → Bool) (text : Text) : Option (Text × Text) :=
  if text.takeWhile allowed = [] then none
  else some (text.takeWhile allowed, text.dropWhile allowed)

/-- A target with names for key and value. -/
def named? (text : Text) : Option Spec := do
  let (target, rest) ← word? (fun char => Text.isWord char || char = '.') text
  let rest ← Text.after? ['a', 's'] (← blanks? rest)
  let (keyName, rest) ← word? Text.isWord (← blanks? rest)
  let rest ← Text.after? ['=', '>'] (Text.trimLeft rest)
  let (valueName, rest) ← word? Text.isWord (Text.trimLeft rest)
  if rest = [] then some ⟨target, keyName, valueName⟩ else none

/-- What a header says; without names for them, key and value are called
`index` and `item`. -/
def ofText (header : Text) : Spec :=
  let text := Text.trim header
  (named? text).getD ⟨text, "index".toList, "item".toList⟩

end Spec

/-- The entries that a loop over a value goes through; the items of a list are
counted from zero. -/
def targetEntries? : Value → Option Entries
  | .map _ _ entries => some entries
  | value =>
      value.items?.map fun items =>
        items.zipIdx.map fun (item, position) => (.int position, item)

def scope (spec : Spec) (context : Entries) (key value : Value) : Entries :=
  (context.set spec.keyName key).set spec.valueName value

/-- The names and texts of the parts of a value, if it is a mapping. -/
def partBindings (valueName : Text) (value : Value) : Except Fault (List (Text × Text)) :=
  (value.entries?.getD []).mapM fun (key, part) => do
    let content ← part.display
    return (valueName ++ '.' :: (← key.name), content)

/-- The names and texts of a context, mappings left out. -/
def nameBindings (context : Entries) : Except Fault (List (Text × Text)) :=
  (context.filter fun (_, value) => !value.isMapping).mapM fun (key, value) => do
    return (← key.name, ← value.display)

/-- The text with the placeholders of some names filled in, one name after the
other. -/
def bind (bindings : List (Text × Text)) (text : Text) : Text :=
  bindings.foldl (fun text (name, content) => (Tag.placeholder name).replaceAll content text)
    text

/-- The body of an iteration with placeholders filled in outside nested
loops. -/
def bindOutside (bindings : List (Text × Text)) (body : Text) : Text :=
  (Layout.ofText Tag.foreachMarks body).mapGaps (bind bindings)

/-- What the passes of a loop depend on besides the context. -/
structure Setting where
  interpolation : Interpolation
  /-- How often the passes of an iteration are repeated at most. -/
  passes : Nat
  literalFallback : Bool

namespace Setting

/-- One pass over an iteration: conditions, then the loops inside it, then
expressions. -/
def cycle (setting : Setting) (inner : Text → Entries → Logged Text) (scope : Entries)
    (text : Text) : Logged Text := do
  let text ← Logged.lift (Condition.pass setting.literalFallback scope text)
  let text ← inner text scope
  setting.interpolation.pass scope text

def iteration (setting : Setting) (inner : Text → Entries → Logged Text) (block : Block)
    (spec : Spec) (context : Entries) (entry : Value × Value) : Logged Text := do
  let scope := scope spec context entry.1 entry.2
  let parts ← Logged.lift (partBindings spec.valueName entry.2)
  let names ← Logged.lift (nameBindings scope)
  let body := bindOutside (parts ++ names) block.body
  let (text, _) ← settle (setting.cycle inner scope) setting.passes body
  return text

/-- The text that a loop expands to.  A target that has no entries to go
through gives no text, and a warning. -/
def expand (setting : Setting) (inner : Text → Entries → Logged Text) (context : Entries)
    (block : Block) : Logged Text :=
  let spec := Spec.ofText block.header
  match targetEntries? (Entries.resolve spec.target context) with
  | some entries => Logged.concat (setting.iteration inner block spec context) entries
  | none => do
      Logged.note (.notIterable spec.target)
      return []

/-- One pass over the loops of a text, in which loops may be nested `depth`
deep. -/
def passWithin (setting : Setting) : Nat → Text → Entries → Logged Text
  | 0, text, _ =>
      (Layout.ofText Tag.foreachMarks text).replace fun _ => Logged.fail .nestingTooDeep
  | depth + 1, text, context =>
      (Layout.ofText Tag.foreachMarks text).replace
        (setting.expand (setting.passWithin depth) context)

end Setting

/-- How deep the loops of a text may be nested: as deep as they are written,
and deeper, since the text of a value can hold loops as well. -/
def room (text : Text) : Nat :=
  200 + text.count '\x7b'

def Setting.pass (setting : Setting) (text : Text) (context : Entries) : Logged Text :=
  setting.passWithin (room text) text context

end Stencil.Loop
