import Stencil.Host.Console.EmojiNames
import Stencil.Text.Blank
import Stencil.Text.Case
import Stencil.Text.Numeral

/-!
# Emoji in messages

A name between two colons stands for an emoji.  Before the second colon the
name may ask for the emoji to be shown as a text or as a picture.  What is no
name stays as it is, with both of its colons.
-/

namespace Stencil.Host.Console.Emoji

/-- The character with a code in hexadecimal. -/
def charOf (code : String) : Char :=
  Char.ofNat (Text.ofDigits 16 (code.toList.filterMap Text.hexValue?))

/-- A name and its emoji, on both sides of an equals sign. -/
def entry? (source : String) : Option (Text × Text) :=
  match source.splitOn "=" with
  | [name, codes] => some (name.toList, (codes.splitOn ",").map charOf)
  | _ => none

def table : List (Text × Text) :=
  (emojiNames.splitOn " ").filterMap fun source => entry? source.trimAscii.toString

/-- How an emoji is to be shown: what its name ends in, and the mark that
follows the emoji. -/
def presentations : List (Text × Char) :=
  [("-text".toList, '\uFE0E'), ("-emoji".toList, '\uFE0F')]

/-- The emoji that stands for what is between two colons. -/
def named? (name : Text) : Option Text :=
  match presentations.find? fun (ending, _) => Text.endsWith name ending with
  | some (ending, mark) =>
      (table.lookup (Text.lower (Text.dropEnd ending.length name))).map (· ++ [mark])
  | none => table.lookup (Text.lower name)

/-- What is between a colon that was passed and the next one, without a blank,
and what follows that. -/
def name? (text : Text) : Option (Text × Text) :=
  let name := text.takeWhile fun char => char ≠ ':' && !Text.isBlank char
  match text.drop name.length with
  | ':' :: rest => some (name, rest)
  | _ => none

/-- A text with emoji in place of their names; no more characters are looked at
than the number given. -/
def showWithin : Nat → Text → Text
  | 0, text => text
  | _ + 1, [] => []
  | fuel + 1, char :: text =>
      if char = ':' then
        match name? text with
        | some (name, rest) => (named? name).getD (':' :: name ++ [':']) ++ showWithin fuel rest
        | none => ':' :: showWithin fuel text
      else char :: showWithin fuel text

def inText (text : Text) : Text :=
  showWithin text.length text

end Stencil.Host.Console.Emoji
