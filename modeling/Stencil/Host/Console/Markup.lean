import Stencil.Host.Console.Emoji
import Stencil.Host.Console.Parameters
import Stencil.Host.Console.Style

/-!
# Tags in messages

A tag in square brackets styles what stands up to the tag that closes it, or up
to the end, and is not written itself.  A backslash before a tag makes it plain
text; two of them stand for one.
-/

namespace Stencil.Host.Console

/-- A part of a message: text that is written, or a tag, whose name may have
parameters. -/
inductive Piece where
  | plain (text : Text)
  | tag (name : Text) (parameters : Option Text)
  deriving DecidableEq, Repr

namespace Piece

def beginsTag (char : Char) : Bool :=
  ('a' ≤ char && char ≤ 'z') || char = '#' || char = '/' || char = '@'

/-- The inside of a tag whose opening bracket was passed, and what follows
it. -/
def inside? (text : Text) : Option (Text × Text) :=
  if (text.head?.map beginsTag).getD false then
    match Text.cut? [']'] text with
    | some (inside, rest) => if inside.contains '[' then none else some (inside, rest)
    | none => none
  else none

/-- The tag with an inside. -/
def ofInside (inside : Text) : Piece :=
  match Text.cut? ['='] inside with
  | some (name, parameters) => tag name (some parameters)
  | none => tag inside none

/-- Plain text, if there is any. -/
def ofText (text : Text) : List Piece :=
  if text = [] then [] else [plain text]

/-- The parts of a message, of which some plain text was passed, the last
character first. -/
def splitAfter (before : Text) : Nat → Text → List Piece
  | 0, text => ofText (before.reverse ++ text)
  | _ + 1, [] => ofText before.reverse
  | fuel + 1, char :: text =>
      let slashes := (char :: text).takeWhile (· = '\\')
      match (char :: text).drop slashes.length with
      | '[' :: rest =>
          match inside? rest with
          | some (inside, after) =>
              ofText before.reverse ++ ofText (slashes.take (slashes.length / 2))
                ++ (if slashes.length % 2 = 1 then plain ('[' :: inside ++ [']'])
                  else ofInside inside)
                :: splitAfter [] fuel after
          | none => splitAfter ('[' :: slashes ++ before) fuel rest
      | _ => splitAfter (char :: before) fuel text

def split (message : Text) : List Piece :=
  splitAfter [] message.length message

end Piece

/-- A tag that is open: the text of its style, its parameters, and how many
characters were written before it. -/
structure Opened where
  name : Text
  parameters : Option Text
  start : Nat
  deriving DecidableEq, Repr

/-- A style and the part of a text that is shown in it. -/
structure Span where
  style : Text
  start : Nat
  stop : Nat
  deriving DecidableEq, Repr

/-- The text of a message without its tags, and the styles they ask for. -/
structure Marked where
  text : Text
  spans : List Span
  deriving DecidableEq, Repr

/-- What an open tag asks for if nothing is written after it but what was
written so far. -/
def Opened.span (opened : Opened) (stop : Nat) : Span :=
  ⟨opened.name ++ (opened.parameters.map (' ' :: ·)).getD [], opened.start, stop⟩

/-- Whether a tag stands for an action and not for a style. -/
def Opened.isAction (opened : Opened) : Bool :=
  opened.name.head? = some '@'

/-- The last one of the open tags with a name, and the others. -/
def find? (name : Text) : List Opened → Option (Opened × List Opened)
  | [] => none
  | found :: opened =>
      if found.name = name then some (found, opened)
      else (find? name opened).map fun (closed, others) => (closed, found :: others)

/-- The open tag that a name closes, and the others; no name closes the last
one. -/
def close? (name : Text) (opened : List Opened) :
    Except Fault (Option (Opened × List Opened)) := do
  if name = [] then
    match opened with
    | last :: others => return some (last, others)
    | [] => return none
  else return find? (← Style.normal name) opened

/-- Whether a tag may be closed: the parameters of one that stands for an
action have to be understood. -/
def Opened.isValid (opened : Opened) : Bool :=
  !opened.isAction || (opened.parameters.getD []).isEmpty
    || Parameters.areValid (opened.parameters.getD [])

/-- The open tags, the last one first, after another tag that stands at some
position, and the styles that end there. -/
def follow (opened : List Opened) (position : Nat) (name : Text) (parameters : Option Text) :
    Except Fault (List Opened × List Span) := do
  match name with
  | '/' :: rest =>
      match ← close? (Text.trim rest) opened with
      | some (closed, others) =>
          if closed.isValid then
            return (others, if closed.isAction then [] else [closed.span position])
          else .error (.markup closed.name)
      | none => .error (.markup name)
  | _ => return (⟨← Style.normal name, parameters, position⟩ :: opened, [])

/-- A text in which no bracket has a backslash before it that marks it as
plain. -/
def unescape : Text → Text
  | '\\' :: '[' :: text => '[' :: unescape text
  | char :: text => char :: unescape text
  | [] => []

/-- Whether a console leaves a character out. -/
def isSilent (char : Char) : Bool :=
  ['\x07', '\x08', '\x0b', '\x0c', '\r'].contains char

/-- What is written of a message, where some tags are open at the position
given. -/
def written (opened : List Opened) (position : Nat) : List Piece → Except Fault Marked
  | [] => .ok ⟨[], opened.map fun tag => tag.span position⟩
  | .plain text :: pieces => do
      let text := (Emoji.inText (unescape text)).filter fun char => !isSilent char
      let rest ← written opened (position + text.length) pieces
      return { rest with text := text ++ rest.text }
  | .tag name parameters :: pieces => do
      let (opened, ended) ← follow opened position name parameters
      let rest ← written opened position pieces
      return { rest with spans := ended ++ rest.spans }

/-- What is written of a message, and in which styles. -/
def Marked.ofMessage (message : Text) : Except Fault Marked :=
  written [] 0 (Piece.split message)

namespace Marked

/-- Whether a style is shown.  In a text of one line it is even if nothing is
shown in it, unless there are tabs in the line. -/
def shows (marked : Marked) (span : Span) : Bool :=
  marked.text.all (fun char => char ≠ '\n' && char ≠ '\t')
    || ((marked.text.take span.stop).drop span.start).any (· ≠ '\n')

/-- The text, if it can be shown in its styles. -/
def shown (marked : Marked) : Except Fault Text := do
  (marked.spans.filter marked.shows).forM fun span => discard (Style.normal span.style)
  return marked.text

end Marked

end Stencil.Host.Console
