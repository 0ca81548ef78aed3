import Stencil.Host.Yaml.Token

/-!
# The tree of a YAML text

Scalars, sequences and mappings as the tokens of a text nest them.  What is
left out, as the value of a key without one, is an empty plain scalar.
-/

namespace Stencil.Host.Yaml

/-- A part of a document. -/
inductive Node where
  | scalar (isPlain : Bool) (content : Text)
  | sequence (items : List Node)
  | mapping (entries : List (Node × Node))

namespace Node

/-- What stands for a part that is left out. -/
def empty : Node := scalar true []

/-- The fault of tokens that are not the ones expected. -/
def refuse (tokens : List Token) : Except ReadFault α :=
  match tokens with
  | .broken fault :: _ => .error fault
  | _ => .error .malformed

/-- Where a part may be left out, since one of these tokens follows. -/
def isNextIn (ends : List Token) : List Token → Bool
  | [] => false
  | token :: _ => ends.contains token

/-- The tokens after a comma, which the first part between brackets does not
have before it. -/
def afterComma (isFirst : Bool) (tokens : List Token) : Except ReadFault (List Token) :=
  match isFirst, tokens with
  | true, _ => .ok tokens
  | false, .comma :: rest => .ok rest
  | false, _ => refuse tokens

mutual

/-- A part.  Between brackets there are no block collections; after a key a
sequence needs no indentation of its own. -/
def read (inBlock afterKey : Bool) : Nat → List Token → Except ReadFault (Node × List Token)
  | 0, _ => .error .malformed
  | fuel + 1, tokens =>
      match tokens with
      | .entry :: _ =>
          if afterKey then do
            let (items, rest) ← readItems fuel tokens
            return (sequence items, rest)
          else refuse tokens
      | .scalar isPlain content :: rest => .ok (scalar isPlain content, rest)
      | .flowSequence :: rest => do
          let (items, rest) ← readFlowItems true fuel rest
          return (sequence items, rest)
      | .flowMapping :: rest => do
          let (entries, rest) ← readFlowEntries true fuel rest
          return (mapping entries, rest)
      | .blockSequence :: rest =>
          if inBlock then do
            match ← readItems fuel rest with
            | (items, .blockEnd :: rest) => return (sequence items, rest)
            | (_, rest) => refuse rest
          else refuse tokens
      | .blockMapping :: rest =>
          if inBlock then do
            let (entries, rest) ← readEntries fuel rest
            return (mapping entries, rest)
          else refuse tokens
      | _ => refuse tokens

/-- A part that may be left out before some tokens. -/
def readBefore (inBlock afterKey : Bool) (ends : List Token) :
    Nat → List Token → Except ReadFault (Node × List Token)
  | 0, _ => .error .malformed
  | fuel + 1, tokens =>
      if isNextIn ends tokens then .ok (empty, tokens)
      else read inBlock afterKey fuel tokens

def readItems : Nat → List Token → Except ReadFault (List Node × List Token)
  | 0, _ => .error .malformed
  | fuel + 1, tokens =>
      match tokens with
      | .entry :: rest => do
          let (item, rest) ←
            readBefore true false [.entry, .key, .colon, .blockEnd] fuel rest
          let (items, rest) ← readItems fuel rest
          return (item :: items, rest)
      | _ => .ok ([], tokens)

def readEntries : Nat → List Token → Except ReadFault (List (Node × Node) × List Token)
  | 0, _ => .error .malformed
  | fuel + 1, tokens =>
      match tokens with
      | .blockEnd :: rest => .ok ([], rest)
      | .key :: rest => do
          let (key, rest) ← readBefore true true [.key, .colon, .blockEnd] fuel rest
          let (value, rest) ← readValue fuel rest
          let (entries, rest) ← readEntries fuel rest
          return ((key, value) :: entries, rest)
      | _ => refuse tokens

/-- The value of a key in a block mapping, if it has one. -/
def readValue : Nat → List Token → Except ReadFault (Node × List Token)
  | 0, _ => .error .malformed
  | fuel + 1, tokens =>
      match tokens with
      | .colon :: rest => readBefore true true [.key, .colon, .blockEnd] fuel rest
      | _ => .ok (empty, tokens)

/-- The items of a sequence between brackets, up to its end. -/
def readFlowItems (isFirst : Bool) :
    Nat → List Token → Except ReadFault (List Node × List Token)
  | 0, _ => .error .malformed
  | fuel + 1, tokens =>
      match tokens with
      | .flowSequenceEnd :: rest => .ok ([], rest)
      | _ => do
          match ← afterComma isFirst tokens with
          | .flowSequenceEnd :: rest => .ok ([], rest)
          | .key :: rest => do
              let (key, rest) ←
                readBefore false false [.colon, .comma, .flowSequenceEnd] fuel rest
              let (value, rest) ← readFlowValue .flowSequenceEnd fuel rest
              let (items, rest) ← readFlowItems false fuel rest
              return (mapping [(key, value)] :: items, rest)
          | rest => do
              let (item, rest) ← read false false fuel rest
              let (items, rest) ← readFlowItems false fuel rest
              return (item :: items, rest)

/-- The entries of a mapping between braces, up to its end. -/
def readFlowEntries (isFirst : Bool) :
    Nat → List Token → Except ReadFault (List (Node × Node) × List Token)
  | 0, _ => .error .malformed
  | fuel + 1, tokens =>
      match tokens with
      | .flowMappingEnd :: rest => .ok ([], rest)
      | _ => do
          match ← afterComma isFirst tokens with
          | .flowMappingEnd :: rest => .ok ([], rest)
          | .key :: rest => do
              let (key, rest) ←
                readBefore false false [.colon, .comma, .flowMappingEnd] fuel rest
              let (value, rest) ← readFlowValue .flowMappingEnd fuel rest
              let (entries, rest) ← readFlowEntries false fuel rest
              return ((key, value) :: entries, rest)
          | rest => do
              let (key, rest) ← read false false fuel rest
              let (entries, rest) ← readFlowEntries false fuel rest
              return ((key, empty) :: entries, rest)

/-- The value of a key between brackets, if it has one. -/
def readFlowValue (last : Token) : Nat → List Token → Except ReadFault (Node × List Token)
  | 0, _ => .error .malformed
  | fuel + 1, tokens =>
      match tokens with
      | .colon :: rest => readBefore false false [.comma, last] fuel rest
      | _ => .ok (empty, tokens)

end

/-- A document, if nothing but its end follows it. -/
def only (document : Option Node) (tokens : List Token) :
    Except ReadFault (Option Node) :=
  match tokens.dropWhile fun token => token = .documentEnd with
  | [] => .ok document
  | rest => refuse rest

/-- The only document of a text; none if there is none. -/
def ofTokens (tokens : List Token) : Except ReadFault (Option Node) :=
  let fuel := 3 * tokens.length + 3
  match tokens with
  | [] => .ok none
  | .documentStart :: rest =>
      if rest = [] || isNextIn [.documentStart, .documentEnd] rest then only (some empty) rest
      else do
        let (node, rest) ← read true false fuel rest
        only (some node) rest
  | _ => do
      let (node, rest) ← read true false fuel tokens
      only (some node) rest

def ofText (text : Text) : Except ReadFault (Option Node) :=
  ofTokens (tokens text)

end Node

end Stencil.Host.Yaml
