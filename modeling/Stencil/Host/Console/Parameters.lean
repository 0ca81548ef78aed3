import Stencil.Number.Reading
import Stencil.Text.Numeral
import Stencil.Text.Word

/-!
# Parameters of tags

A tag that stands for an action has parameters: the name of a handler, perhaps
with arguments, or a literal.  Literals are numbers, quoted texts, the words
for truth values and for nothing, and groups of them between brackets.
-/

namespace Stencil.Host.Console.Parameters

/-- What matters of a literal for what it may be a part of. -/
inductive Kind where
  /-- A number without a sign. -/
  | number (isImaginary : Bool)
  /-- A number with a sign. -/
  | signed (isImaginary : Bool)
  /-- What else may be a key. -/
  | fixed
  /-- A set or a dictionary, or a tuple with one inside. -/
  | changeable
  deriving DecidableEq, Repr

/-- A literal at the beginning of a text: its kind, and what follows it. -/
abbrev Found := Option (Kind × Text)

/-- A text without the blanks at its beginning. -/
def skip (text : Text) : Text :=
  text.dropWhile fun char => char = ' ' || char = '\t' || char = '\n' || char = '\x0c'

def words : List Text :=
  ["True".toList, "False".toList, "None".toList, "...".toList]

/-- Whether the digits of a base follow a zero and the letter of the base. -/
def isBased (text : Text) : Bool :=
  match text.map Char.toLower with
  | '0' :: mark :: digits =>
      let isDigit (char : Char) : Bool := match mark with
        | 'x' => (Text.hexValue? char).isSome
        | 'o' => '0' ≤ char && char ≤ '7'
        | _ => char = '0' || char = '1'
      (mark = 'x' || mark = 'o' || mark = 'b') && digits ≠ [] && digits.all isDigit
  | _ => false

/-- Whether a text is a decimal number without a sign.  An integer has no zeros
before its other digits. -/
def isDecimal (text : Text) : Bool :=
  let isWhole := text.all fun char => Text.isDigit char || char = '_'
  text.all (fun char => char.toNat < 128)
    && (text.head?.map fun char => Text.isDigit char || char = '.').getD false
    && (Text.toReading? text).isSome
    && !(isWhole && text.head? = some '0' && text.any fun char => char ≠ '0' && char ≠ '_')
    && !(isWhole && maxDigits < (text.filter Text.isDigit).length)

/-- Whether a text is an imaginary number without a sign. -/
def isImaginary (text : Text) : Bool :=
  match text.getLast? with
  | some mark =>
      mark.toLower = 'j'
        && (isDecimal text.dropLast || (text.length > 1 && text.dropLast.all Text.isDigit))
  | none => false

/-- The kind of a word or a number. -/
def wordKind? (word : Text) : Option Kind :=
  if isBased word || isDecimal word then some (.number false)
  else if isImaginary word then some (.number true)
  else if words.contains word then some .fixed
  else none

/-- The characters of a number at the beginning of a text, one of which is
before it. -/
def numeral (before : Char) : Text → Text × Text
  | [] => ([], [])
  | char :: text =>
      if char.isAlphanum || char = '.' || char = '_'
          || ((char = '-' || char = '+') && before.toLower = 'e') then
        let (numeral, rest) := numeral char text
        (char :: numeral, rest)
      else ([], char :: text)

/-- A number or a word at the beginning of a text. -/
def afterWord? (text : Text) : Found :=
  let (word, rest) := numeral ' ' text
  (wordKind? word).map fun kind => (kind, rest)

/-- How a quoted text is read: whether a backslash is no escape, and whether it
holds bytes. -/
structure Quoting where
  isRaw : Bool
  isBytes : Bool
  deriving DecidableEq

/-- The quoting that the letters before a quote ask for. -/
def quoting? (letters : Text) : Option Quoting :=
  let letters := letters.map Char.toLower
  if letters = [] || letters = ['u'] then some ⟨false, false⟩
  else if letters = ['r'] then some ⟨true, false⟩
  else if letters = ['b'] then some ⟨false, true⟩
  else if letters = ['r', 'b'] || letters = ['b', 'r'] then some ⟨true, true⟩
  else none

/-- Whether a number of hexadecimal digits begins a text and is the code of a
character. -/
def hasCode (count : Nat) (text : Text) : Bool :=
  let digits := text.take count
  digits.length = count && digits.all (fun char => (Text.hexValue? char).isSome)
    && Text.ofDigits 16 (digits.filterMap Text.hexValue?) ≤ 0x10FFFF

/-- Whether what follows a backslash is an escape. -/
def isEscape (isBytes : Bool) : Text → Bool
  | 'x' :: text => hasCode 2 text
  | 'u' :: text => isBytes || hasCode 4 text
  | 'U' :: text => isBytes || hasCode 8 text
  | 'N' :: _ => isBytes
  | _ => true

/-- What follows the quotes that end a text; between single ones a line
does not end. -/
def afterQuote? (how : Quoting) (closing : Text) : Text → Option Text
  | [] => none
  | '\\' :: char :: text =>
      if (how.isRaw || isEscape how.isBytes (char :: text))
          && !(how.isBytes && 128 ≤ char.toNat) then
        afterQuote? how closing text
      else none
  | char :: text =>
      match Text.after? closing (char :: text) with
      | some rest => some rest
      | none =>
          if (char = '\n' && closing.length = 1) || (how.isBytes && 128 ≤ char.toNat) then none
          else afterQuote? how closing text

/-- Whether a character stands at both ends of a text in a literal. -/
def isQuote (char : Char) : Bool :=
  char = '"' || char = '\''

/-- The quoting of a quoted text at the beginning of a text, and what follows
it. -/
def afterQuoted? (text : Text) : Option (Quoting × Text) := do
  let letters := text.takeWhile Char.isAlpha
  let how ← quoting? letters
  match text.drop letters.length with
  | [] => none
  | quote :: rest =>
      if isQuote quote then
        let rest ← match Text.after? [quote, quote] rest with
          | some rest => afterQuote? how [quote, quote, quote] rest
          | none => afterQuote? how [quote] rest
        return (how, rest)
      else none

/-- What follows one or more quoted texts, which are all bytes or all
characters. -/
def afterQuotedTexts? : Nat → Text → Option Text
  | 0, _ => none
  | fuel + 1, text => do
      let (how, rest) ← afterQuoted? text
      match afterQuoted? (skip rest) with
      | some (next, _) =>
          if how.isBytes = next.isBytes then afterQuotedTexts? fuel (skip rest) else none
      | none => return rest

/-- What follows the set without members at the beginning of a text. -/
def afterEmptySet? (text : Text) : Option Text := do
  match skip (← Text.after? "set".toList text) with
  | '(' :: rest => Text.after? [')'] (skip rest)
  | _ => none

mutual

/-- A literal without an operator. -/
def afterAtom? : Nat → Text → Found
  | 0, _ => none
  | fuel + 1, text =>
      match skip text with
      | '(' :: rest => afterGroup? true fuel rest
      | '\x7b' :: rest => (afterMembers? fuel rest).map fun rest => (.changeable, rest)
      | text =>
          match afterEmptySet? text with
          | some rest => some (.changeable, rest)
          | none =>
              match afterQuotedTexts? (text.length + 1) text with
              | some rest => some (.fixed, rest)
              | none => afterWord? text

/-- A literal: an atom, a number with a sign, or the sum or difference of a real
and an imaginary number. -/
def afterLiteral? : Nat → Text → Found
  | 0, _ => none
  | fuel + 1, text => do
      let isSign (char : Char) : Bool := char = '-' || char = '+'
      let (kind, rest) ← match skip text with
        | [] => none
        | char :: rest =>
            if isSign char then
              match afterAtom? fuel rest with
              | some (.number isImaginary, rest) => some (.signed isImaginary, rest)
              | _ => none
            else afterAtom? fuel (char :: rest)
      match skip rest with
      | char :: next =>
          if isSign char && (kind = .number false || kind = .signed false) then
            match afterAtom? fuel next with
            | some (.number true, rest) => some (.fixed, rest)
            | _ => none
          else some (kind, rest)
      | [] => some (kind, rest)

/-- What is between parentheses: a single literal without a comma, or a tuple. -/
def afterGroup? (isFirst : Bool) : Nat → Text → Found
  | 0, _ => none
  | fuel + 1, text =>
      match skip text with
      | ')' :: rest => some (.fixed, rest)
      | text => do
          let (kind, rest) ← afterLiteral? fuel text
          match skip rest with
          | ')' :: rest =>
              if isFirst || kind = .changeable then some (kind, rest) else some (.fixed, rest)
          | ',' :: rest => do
              let (others, rest) ← afterGroup? false fuel rest
              return (if kind = .changeable then kind else others, rest)
          | _ => none

/-- What follows the members of a set, or the entries of a dictionary. -/
def afterMembers? : Nat → Text → Option Text
  | 0, _ => none
  | fuel + 1, text =>
      match skip text with
      | '\x7d' :: rest => some rest
      | text => do
          let (kind, rest) ← afterLiteral? fuel text
          if kind = .changeable then none
          else match skip rest with
            | '\x7d' :: rest => some rest
            | ',' :: rest => afterMoreMembers? false fuel rest
            | ':' :: rest => do
                let (_, rest) ← afterLiteral? fuel rest
                match skip rest with
                | '\x7d' :: rest => some rest
                | ',' :: rest => afterMoreMembers? true fuel rest
                | _ => none
            | _ => none

/-- What follows further members of a set, or further entries of a
dictionary. -/
def afterMoreMembers? (isDictionary : Bool) : Nat → Text → Option Text
  | 0, _ => none
  | fuel + 1, text =>
      match skip text with
      | '\x7d' :: rest => some rest
      | text => do
          let (kind, rest) ← afterLiteral? fuel text
          let rest ← if isDictionary then
              match skip rest with
              | ':' :: rest => (afterLiteral? fuel rest).map Prod.snd
              | _ => none
            else some rest
          if kind = .changeable then none
          else match skip rest with
            | '\x7d' :: rest => some rest
            | ',' :: rest => afterMoreMembers? isDictionary fuel rest
            | _ => none

end

/-- Whether a text is a literal.  A tuple need not be between parentheses, so
they are put around the text. -/
def isLiteral (text : Text) : Bool :=
  match afterGroup? true (2 * text.length + 3) (text ++ [')']) with
  | some (_, rest) => skip text ≠ [] && rest = []
  | none => false

/-- The arguments of a handler, if a text is a handler with arguments or
without them. -/
def arguments? (text : Text) : Option Text :=
  let rest := text.dropWhile fun char => Text.isWord char || char = '.'
  match rest with
  | [] => some ['(', ')']
  | char :: inside =>
      if char = '(' && inside.getLast? = some ')' && !rest.contains '\n' then some rest else none

/-- Whether the parameters of an action can be understood. -/
def areValid (text : Text) : Bool :=
  let text := Text.trim text
  isLiteral ((arguments? text).getD text)

end Stencil.Host.Console.Parameters
