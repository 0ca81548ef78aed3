import Stencil.Host.Yaml.Scalar

/-!
# Tokens of a YAML text

The marks and scalars of a text, with the beginnings and ends of collections
that only indentation shows.  Whether a scalar is the key of a mapping is known
when the colon after it is seen; the tokens that say so are put in before it
then, and what may still be a key is no token yet.
-/

namespace Stencil.Host.Yaml

/-- A mark, a scalar, or the beginning or end of a collection; or the place
from which on a text has no tokens. -/
inductive Token where
  | documentStart
  | documentEnd
  | blockSequence
  | blockMapping
  | blockEnd
  | flowSequence
  | flowSequenceEnd
  | flowMapping
  | flowMappingEnd
  | entry
  | comma
  | key
  | colon
  | scalar (isPlain : Bool) (content : Text)
  | broken (fault : ReadFault)
  deriving DecidableEq, Repr

/-- A place at which a key may have begun. -/
structure Candidate where
  /-- The brackets that are open there. -/
  depth : Nat
  /-- The tokens before it. -/
  count : Nat
  /-- Whether it stands where only a key can stand. -/
  isRequired : Bool
  place : Cursor

/-- The tokens of the text before a cursor, and what the ones after it depend
on. -/
structure Scan where
  cursor : Cursor
  tokens : Array Token
  /-- The column of the innermost block collection, or -1. -/
  indent : Int
  outerIndents : List Int
  depth : Nat
  mayBeginKey : Bool
  candidates : List Candidate

namespace Scan

def start (text : Text) : Scan :=
  let cursor := Cursor.start text
  ⟨if cursor.head? = some '\uFEFF' then cursor.step else cursor, #[], -1, [], 0, true, []⟩

def emit (token : Token) (scan : Scan) : Scan :=
  { scan with tokens := scan.tokens.push token }

def skip (count : Nat) (scan : Scan) : Scan :=
  { scan with cursor := scan.cursor.advance count }

def column (scan : Scan) : Int :=
  scan.cursor.column

/-- Passes blanks, comments and line ends.  After a line end outside brackets a
key may begin. -/
def skipGap : Nat → Scan → Scan
  | 0, scan => scan
  | fuel + 1, scan =>
      let cursor := (scan.cursor.skipWhile (· = ' ')).skipComment
      if cursor.isAtBreak then
        skipGap fuel
          { scan with cursor := cursor.step, mayBeginKey := scan.mayBeginKey || scan.depth = 0 }
      else { scan with cursor }

/-- How far a key may reach. -/
def maxKey : Nat := 1024

/-- Whether a colon at the cursor can still belong to a candidate. -/
def isFresh (cursor : Cursor) (candidate : Candidate) : Bool :=
  candidate.place.line = cursor.line && cursor.index - candidate.place.index ≤ maxKey

/-- Gives up candidates that are too far away; one that is required may not
be given up. -/
def dropStale (scan : Scan) : Except ReadFault Scan :=
  let (fresh, stale) := scan.candidates.partition (isFresh scan.cursor)
  if stale.any Candidate.isRequired then .error .malformed
  else .ok { scan with candidates := fresh }

/-- Gives up the candidate inside the innermost brackets. -/
def dropCandidate (scan : Scan) : Except ReadFault Scan :=
  let (here, others) := scan.candidates.partition fun found => found.depth = scan.depth
  if here.any Candidate.isRequired then .error .malformed
  else .ok { scan with candidates := others }

/-- Notes that a key may begin at the cursor. -/
def noteCandidate (scan : Scan) : Except ReadFault Scan :=
  if scan.mayBeginKey then do
    let isRequired := scan.depth = 0 && scan.indent = scan.column
    let scan ← scan.dropCandidate
    let candidate := ⟨scan.depth, scan.tokens.size, isRequired, scan.cursor⟩
    return { scan with candidates := candidate :: scan.candidates }
  else .ok scan

/-- Ends the block collections that are indented further than a column. -/
def unwind (column : Int) (scan : Scan) : Scan :=
  if scan.depth ≠ 0 then scan
  else
    let deeper := (scan.indent :: scan.outerIndents).takeWhile (column < ·)
    match (scan.indent :: scan.outerIndents).drop deeper.length with
    | indent :: outerIndents =>
        { scan with
          tokens := scan.tokens ++ Array.replicate deeper.length .blockEnd
          indent, outerIndents }
    | [] => scan

/-- Begins a block collection at a column, its token before the one with the
number given, unless one has begun there already. -/
def indentTo (column : Int) (token : Token) (number : Nat) (scan : Scan) : Scan :=
  if scan.depth = 0 && scan.indent < column then
    { scan with
      tokens := scan.tokens.insertIdxIfInBounds number token
      indent := column
      outerIndents := scan.indent :: scan.outerIndents }
  else scan

def scanDocument (token : Token) (scan : Scan) : Except ReadFault Scan := do
  let scan ← (scan.unwind (-1)).dropCandidate
  return ({ scan with mayBeginKey := false }.emit token |>.skip 3)

def scanOpening (token : Token) (scan : Scan) : Except ReadFault Scan := do
  let scan ← scan.noteCandidate
  return ({ scan with depth := scan.depth + 1, mayBeginKey := true }.emit token |>.skip 1)

def scanClosing (token : Token) (scan : Scan) : Except ReadFault Scan := do
  let scan ← scan.dropCandidate
  if scan.depth = 0 then .error .malformed
  else return ({ scan with depth := scan.depth - 1, mayBeginKey := false }.emit token |>.skip 1)

def scanComma (scan : Scan) : Except ReadFault Scan := do
  let scan ← { scan with mayBeginKey := true }.dropCandidate
  return (scan.emit .comma |>.skip 1)

def scanEntry (scan : Scan) : Except ReadFault Scan := do
  if scan.depth = 0 && !scan.mayBeginKey then .error .malformed
  else
    let scan := scan.indentTo scan.column .blockSequence scan.tokens.size
    let scan ← { scan with mayBeginKey := true }.dropCandidate
    return (scan.emit .entry |>.skip 1)

def scanKey (scan : Scan) : Except ReadFault Scan := do
  if scan.depth = 0 && !scan.mayBeginKey then .error .malformed
  else
    let scan := scan.indentTo scan.column .blockMapping scan.tokens.size
    let scan ← { scan with mayBeginKey := scan.depth = 0 }.dropCandidate
    return (scan.emit .key |>.skip 1)

/-- The colon before a value.  A candidate inside the same brackets is its
key. -/
def scanColon (scan : Scan) : Except ReadFault Scan := do
  match scan.candidates.find? fun found => found.depth = scan.depth with
  | some candidate =>
      let scan := { scan with
        tokens := scan.tokens.insertIdxIfInBounds candidate.count .key
        candidates := scan.candidates.filter fun found => found.depth ≠ scan.depth
        mayBeginKey := false }
      let scan := scan.indentTo candidate.place.column .blockMapping candidate.count
      return (scan.emit .colon |>.skip 1)
  | none =>
      if scan.depth = 0 && !scan.mayBeginKey then .error .malformed
      else
        let scan := scan.indentTo scan.column .blockMapping scan.tokens.size
        let scan := { scan with mayBeginKey := scan.depth = 0 }
        return (scan.emit .colon |>.skip 1)

def scanBlock (folds : Bool) (scan : Scan) : Except ReadFault Scan := do
  let scan ← { scan with mayBeginKey := true }.dropCandidate
  let (content, cursor) ← Lines.readBlock folds scan.indent scan.cursor.step
  return ({ scan with cursor }.emit (.scalar false content))

def scanQuoted (read : Nat → Cursor → Except ReadFault (Text × Cursor)) (scan : Scan) :
    Except ReadFault Scan := do
  let scan ← scan.noteCandidate
  let (content, cursor) ← read (scan.cursor.rest.length + 1) scan.cursor.step
  return ({ scan with cursor, mayBeginKey := false }.emit (.scalar false content))

def scanPlain (scan : Scan) : Except ReadFault Scan := do
  let scan ← scan.noteCandidate
  let (content, mayBeginKey, cursor) :=
    Plain.read (scan.depth ≠ 0) (scan.indent + 1) (scan.cursor.rest.length + 1) [] false
      scan.cursor
  return ({ scan with cursor, mayBeginKey }.emit (.scalar true content))

/-- The characters that cannot begin a plain scalar, or only under a
condition. -/
def indicators : Text :=
  "-?:,[]\x7b\x7d#&*!|>'\"%@\x60".toList

def isAtPlain (scan : Scan) : Bool :=
  match scan.cursor.head? with
  | none => false
  | some char =>
      (!isGap (some char) && !indicators.contains char)
        || (!isGap scan.cursor.second?
          && (char = '-' || (scan.depth = 0 && (char = '?' || char = ':'))))

/-- Adds the next token, which begins with the character given. -/
def scanToken (char : Char) (scan : Scan) : Except ReadFault Scan :=
  let inFlow := scan.depth ≠ 0
  let endsMark := isGap scan.cursor.second?
  if scan.cursor.column = 0 && scan.cursor.isAtLine '-' then scan.scanDocument .documentStart
  else if scan.cursor.column = 0 && scan.cursor.isAtLine '.' then
    scan.scanDocument .documentEnd
  else if char = '[' then scan.scanOpening .flowSequence
  else if char = '\x7b' then scan.scanOpening .flowMapping
  else if char = ']' then scan.scanClosing .flowSequenceEnd
  else if char = '\x7d' then scan.scanClosing .flowMappingEnd
  else if char = ',' then scan.scanComma
  else if char = '-' && endsMark then scan.scanEntry
  else if char = '?' && (inFlow || endsMark) then scan.scanKey
  else if char = ':' && (inFlow || endsMark) then scan.scanColon
  else if char = '|' && !inFlow then scan.scanBlock false
  else if char = '>' && !inFlow then scan.scanBlock true
  else if char = '\'' then scan.scanQuoted Quoted.readSingle
  else if char = '"' then scan.scanQuoted Quoted.readDouble
  else if scan.isAtPlain then scan.scanPlain
  else .error .malformed

/-- Adds what follows up to the next token and that token itself; none if the
text ends before it. -/
def advance (scan : Scan) : Except ReadFault (Option Scan) := do
  let scan ← (scan.skipGap (scan.cursor.rest.length + 1)).dropStale
  let scan := scan.unwind scan.column
  match scan.cursor.head? with
  | none => return none
  | some char => return some (← scan.scanToken char)

/-- The tokens up to the first one that may still turn out to be a key. -/
def settled (scan : Scan) : List Token :=
  let pending := (scan.candidates.filter (isFresh scan.cursor)).map Candidate.count
  scan.tokens.toList.take (pending.foldl min scan.tokens.size)

/-- The tokens of a text that ends after those of a scan. -/
def finish (scan : Scan) : List Token :=
  match (scan.unwind (-1)).dropCandidate with
  | .ok scan => scan.tokens.toList
  | .error fault => scan.settled ++ [.broken fault]

/-- The tokens of a scan and all that follow, up to the first fault. -/
def run : Nat → Scan → List Token
  | 0, scan => scan.settled ++ [.broken .malformed]
  | fuel + 1, scan =>
      match scan.advance with
      | .ok (some scan) => run fuel scan
      | .ok none => scan.finish
      | .error fault => scan.settled ++ [.broken fault]

end Scan

/-- The tokens of a text.  Directives, anchors, aliases and tags are not part
of the format. -/
def tokens (text : Text) : List Token :=
  if text.all isPrintable then (Scan.start text).run (text.length + 1)
  else [.broken .malformed]

end Stencil.Host.Yaml
