import Stencil.Template.Tag
import Stencil.Text.Numeral

/-!
# Checking templates

Static checks that count the tags of blocks and look for a tag that is never
closed.  Each kind of tag is counted on its own; the header of an opening tag
has to stand on one line to be counted.
-/

namespace Stencil.Check

/-- The opening tags of `if` blocks with their header on one line. -/
def ifTag : Matcher Text := Tag.headed Tag.ifOpening Tag.ifOpening_ne_nil true Tag.isOneLine

def foreachTag : Matcher Text :=
  Tag.headed Tag.foreachOpening Tag.foreachOpening_ne_nil false Tag.isOneLine

def endifTag : Matcher Unit := Matcher.literal Tag.endifTag Tag.endifTag_ne_nil ()

def endforeachTag : Matcher Unit := Matcher.literal Tag.endforeachTag Tag.endforeachTag_ne_nil ()

/-- A problem of a template. -/
inductive Problem where
  | unbalancedIf (opened closed : Nat)
  | unbalancedForeach (opened closed : Nat)
  | unterminated (text : Text)
  deriving DecidableEq, Repr

namespace Problem

/-- How many tags there are of two kinds. -/
def counts (opened closed : Nat) : Text :=
  Text.ofNat opened ++ " opened, ".toList ++ Text.ofNat closed ++ " closed".toList

def message : Problem → Text
  | unbalancedIf opened closed =>
      "Unbalanced \x7b\x7bif\x7d\x7d/\x7b\x7bendif\x7d\x7d blocks: ".toList
        ++ counts opened closed
  | unbalancedForeach opened closed =>
      "Unbalanced \x7b\x7bforeach\x7d\x7d/\x7b\x7bendforeach\x7d\x7d blocks: ".toList
        ++ counts opened closed
  | unterminated text => "Malformed variables: ".toList ++ text

end Problem

/-- The end of a text from the first opening braces on that no closing brace
follows. -/
def unterminated? (text : Text) : Option Text :=
  let rest := (text.reverse.takeWhile (· != '\x7d')).reverse
  (Text.cut? Tag.opening rest).map fun (_, after) => Tag.opening ++ after

def problems (template : Text) : List Problem :=
  let ifs := (ifTag.tokens template).length
  let endifs := (endifTag.tokens template).length
  let loops := (foreachTag.tokens template).length
  let endloops := (endforeachTag.tokens template).length
  (if ifs = endifs then [] else [.unbalancedIf ifs endifs])
    ++ (if loops = endloops then [] else [.unbalancedForeach loops endloops])
    ++ ((unterminated? template).map .unterminated).toList

def messages (template : Text) : List Text :=
  (problems template).map Problem.message

end Stencil.Check
