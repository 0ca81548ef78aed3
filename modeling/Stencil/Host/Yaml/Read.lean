import Stencil.Data.Entries
import Stencil.Host.Yaml.Meaning
import Stencil.Host.Yaml.Node

/-!
# Reading YAML

The value that the only document of a text denotes.  Of a key that is given
twice the last value counts.  The key of two less-than signs merges the entries
of its value, which those of the mapping itself override.

The contents of a collection are looked at after everything that stands beside
it.  So of several faults the one inside the fewest collections counts, and of
those the first.
-/

namespace Stencil.Host.Yaml

/-- A fault and how many collections it is inside of. -/
structure Nested where
  depth : Nat
  fault : ReadFault

/-- A part of a document that may have no value. -/
abbrev Partial := Except Nested

namespace Partial

/-- What is wrong with a part itself. -/
def fail (fault : ReadFault) : Partial α :=
  .error ⟨0, fault⟩

/-- A part that stands by itself. -/
def ofOutcome : Except ReadFault α → Partial α
  | .ok value => .ok value
  | .error fault => fail fault

/-- The contents of a collection, as seen from outside of it. -/
def inside : Partial α → Partial α
  | .ok value => .ok value
  | .error nested => .error { nested with depth := nested.depth + 1 }

/-- Two parts, the first of them before the second. -/
def both (combine : α → β → γ) : Partial α → Partial β → Partial γ
  | .ok first, .ok second => .ok (combine first second)
  | .ok _, .error nested => .error nested
  | .error nested, .ok _ => .error nested
  | .error first, .error second => .error (if second.depth < first.depth then second else first)

end Partial

/-- The plain scalar that stands for merging. -/
def mergeKey : Text := ['<', '<']

/-- The plain scalar that is a text as a key, and nothing elsewhere. -/
def defaultKey : Text := ['=']

/-- The value of a plain scalar. -/
def plainValue (content : Text) : Partial Value :=
  if content = mergeKey ∨ content = defaultKey then .fail .malformed
  else .ofOutcome (Meaning.ofPlain content)

/-- The value of a key, which is no collection. -/
def keyOf : Node → Partial Value
  | .scalar true content =>
      if content = defaultKey then .ok (.text content) else plainValue content
  | .scalar false content => .ok (.text content)
  | .sequence _ | .mapping _ => .fail .malformed

/-- Whether a key merges the entries of its value. -/
def isMergeKey : Node → Bool
  | .scalar isPlain content => isPlain && content = mergeKey
  | .sequence _ | .mapping _ => false

/-- The entries of a mapping: those it merges, and its own. -/
structure Merged where
  merged : Partial Entries
  own : Partial Entries

namespace Merged

def empty : Merged := ⟨.ok [], .ok []⟩

/-- One more group of merged entries, before the others. -/
def merge (entries : Partial Entries) (others : Merged) : Merged :=
  { others with merged := .both (· ++ ·) entries others.merged }

/-- One more entry of the mapping itself, before the others. -/
def add (key value : Partial Value) (others : Merged) : Merged :=
  { others with own := .both (· :: ·) (.both Prod.mk key value) others.own }

/-- All entries, the merged ones first. -/
def entries (found : Merged) : Partial Entries :=
  .both (· ++ ·) found.merged found.own

end Merged

mutual

def toValue : Node → Partial Value
  | .scalar isPlain content => if isPlain then plainValue content else .ok (.text content)
  | .sequence items => .inside ((toItems items).map (.list 0))
  | .mapping entries =>
      match toMerged entries with
      | .ok found =>
          .inside (found.entries.map fun entries => .map 0 false (Entries.ofList entries))
      | .error fault => .inside (.fail fault)
termination_by structural node => node

def toItems : List Node → Partial (List Value)
  | [] => .ok []
  | item :: items => .both (· :: ·) (toValue item) (toItems items)
termination_by structural items => items

/-- The entries of a mapping.  What it merges has to be mappings, which is
looked at before any entry. -/
def toMerged : List (Node × Node) → Except ReadFault Merged
  | [] => .ok .empty
  | (key, value) :: entries => do
      if isMergeKey key then return (← toMerged entries).merge (← mergedEntries value)
      else return (← toMerged entries).add (keyOf key) (toValue value)
termination_by structural entries => entries

/-- The entries that a part merges into a mapping. -/
def mergedEntries : Node → Except ReadFault (Partial Entries)
  | .mapping entries => return (← toMerged entries).entries
  | .sequence items => mergedItems items
  | .scalar .. => .error .malformed
termination_by structural node => node

/-- The entries that the items of a sequence merge, those of the last one
first. -/
def mergedItems : List Node → Except ReadFault (Partial Entries)
  | [] => .ok (.ok [])
  | .mapping entries :: items => do
      let first ← toMerged entries
      return .both (· ++ ·) (← mergedItems items) first.entries
  | _ => .error .malformed
termination_by structural items => items

end

/-- The value that a text denotes; a text without a document denotes
nothing. -/
def read (text : Text) : Except ReadFault Value := do
  match ← Node.ofText text with
  | none => return .null
  | some node =>
      match toValue node with
      | .ok value => return value
      | .error nested => .error nested.fault

end Stencil.Host.Yaml
