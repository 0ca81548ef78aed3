import Stencil.Data.Equality

/-!
# Identities

Giving identities to the parts of a value leaves no two of them with the same one, the
empty tuple apart, which is one object wherever it stands.  So the strict equality of
containers and dates, which compares them as a whole, compares their identities.
-/

namespace Stencil

namespace Value

/-- The identity of a container or a date. -/
def identity? : Value → Option Nat
  | list identity _ | tuple identity _ | range identity .. | map identity .. => some identity
  | date identity _ | timestamp identity _ => some identity
  | _ => none

end Value

mutual

/-- A value and all that it holds at any depth, the keys of mappings included. -/
def Value.parts : Value → List Value
  | .list identity items => .list identity items :: Value.itemParts items
  | .tuple identity items => .tuple identity items :: Value.itemParts items
  | .map identity readOnly entries => .map identity readOnly entries :: Value.entryParts entries
  | value => [value]
termination_by structural value => value

def Value.itemParts : List Value → List Value
  | [] => []
  | item :: items => Value.parts item ++ Value.itemParts items
termination_by structural items => items

def Value.entryParts : List (Value × Value) → List Value
  | [] => []
  | (key, value) :: entries => Value.parts key ++ Value.parts value ++ Value.entryParts entries
termination_by structural entries => entries

end

namespace Value

/-- Parts with the identities from `first` on and below `next`: each identity but that
of the empty tuple is one of these, and no two parts share one. -/
structure Labelled (first next : Nat) (parts : List Value) : Prop where
  le : first ≤ next
  within : ∀ part ∈ parts, ∀ label, part.identity? = some label →
    part = .tuple 0 [] ∨ (first ≤ label ∧ label < next)
  distinct : ∀ left ∈ parts, ∀ right ∈ parts, ∀ label,
    left.identity? = some label → right.identity? = some label → left = right

namespace Labelled

variable {first middle next : Nat} {part : Value} {parts later : List Value}

theorem nil (first : Nat) : Labelled first first [] where
  le := Nat.le_refl _
  within := fun _ member => absurd member List.not_mem_nil
  distinct := fun _ member => absurd member List.not_mem_nil

theorem ne_of_append (positive : 0 < first) (before : Labelled first middle parts)
    (behind : Labelled middle next later) {left right : Value} (leftPart : left ∈ parts)
    (rightPart : right ∈ later) {label : Nat} (ofLeft : left.identity? = some label)
    (ofRight : right.identity? = some label) : left = right := by
  have empty : (tuple 0 []).identity? = some 0 := rfl
  have grown := before.le
  rcases before.within left leftPart label ofLeft with rfl | ⟨low, high⟩
  · rcases behind.within right rightPart label ofRight with rfl | ⟨low', high'⟩
    · rfl
    · rw [empty, Option.some.injEq] at ofLeft
      omega
  · rcases behind.within right rightPart label ofRight with rfl | ⟨low', high'⟩
    · rw [empty, Option.some.injEq] at ofRight
      omega
    · omega

theorem append (positive : 0 < first) (before : Labelled first middle parts)
    (behind : Labelled middle next later) : Labelled first next (parts ++ later) where
  le := Nat.le_trans before.le behind.le
  within := by
    intro part member label has
    have grown := before.le
    have more := behind.le
    rcases List.mem_append.mp member with earlier | later
    · exact (before.within part earlier label has).imp_right fun ⟨low, high⟩ => ⟨low, by omega⟩
    · exact (behind.within part later label has).imp_right fun ⟨low, high⟩ => ⟨by omega, high⟩
  distinct := by
    intro left leftPart right rightPart label ofLeft ofRight
    rcases List.mem_append.mp leftPart with inFirst | inLater
    · rcases List.mem_append.mp rightPart with inFirst' | inLater'
      · exact before.distinct left inFirst right inFirst' label ofLeft ofRight
      · exact ne_of_append positive before behind inFirst inLater' ofLeft ofRight
    · rcases List.mem_append.mp rightPart with inFirst' | inLater'
      · exact (ne_of_append positive before behind inFirst' inLater ofRight ofLeft).symm
      · exact behind.distinct left inLater right inLater' label ofLeft ofRight

theorem single (has : part.identity? = some first) : Labelled first (first + 1) [part] where
  le := Nat.le_succ first
  within := by
    intro other member label hasLabel
    rw [List.mem_singleton.mp member, has, Option.some.injEq] at hasLabel
    exact .inr ⟨by omega, by omega⟩
  distinct := by
    intro left leftPart right rightPart _ _ _
    rw [List.mem_singleton.mp leftPart, List.mem_singleton.mp rightPart]

/-- A part alone that got no identity of its own: it has none, or it is the empty
tuple. -/
theorem unlabelled (le : first ≤ next) (none : part.identity? = none ∨ part = .tuple 0 []) :
    Labelled first next [part] where
  le := le
  within := by
    intro other member label has
    rw [List.mem_singleton.mp member] at has ⊢
    rcases none with none | empty
    · rw [none] at has
      cases has
    · exact .inl empty
  distinct := by
    intro left leftPart right rightPart _ _ _
    rw [List.mem_singleton.mp leftPart, List.mem_singleton.mp rightPart]

end Labelled

end Value

mutual

theorem Value.labelled_identify : ∀ (value : Value) {next : Nat}, 0 < next →
    Value.Labelled next (value.identify next).2 (value.identify next).1.parts
  | .undefined, next, _ => Value.Labelled.unlabelled (Nat.le_refl next) (.inl rfl)
  | .null, next, _ => Value.Labelled.unlabelled (Nat.le_refl next) (.inl rfl)
  | .bool _, next, _ => Value.Labelled.unlabelled (Nat.le_refl next) (.inl rfl)
  | .int _, next, _ => Value.Labelled.unlabelled (Nat.le_refl next) (.inl rfl)
  | .float _, next, _ => Value.Labelled.unlabelled (Nat.le_refl next) (.inl rfl)
  | .text _, next, _ => Value.Labelled.unlabelled (Nat.le_refl next) (.inl rfl)
  | .nan identity, next, _ => by
      rw [Value.identify]
      split
      · exact Value.Labelled.unlabelled (Nat.le_refl next) (.inl rfl)
      · exact Value.Labelled.unlabelled (Nat.le_succ next) (.inl rfl)
  | .list _ items, next, positive =>
      (Value.Labelled.single rfl).append positive
        (Value.labelled_identifyItems items (Nat.succ_pos next))
  | .tuple _ [], next, _ => Value.Labelled.unlabelled (Nat.le_refl next) (.inr rfl)
  | .tuple _ (item :: items), next, positive => by
      have here := Value.labelled_identify item (Nat.succ_pos next)
      have later := Value.labelled_identifyItems items (Nat.lt_of_lt_of_le (Nat.succ_pos next) here.le)
      exact (Value.Labelled.single rfl).append positive (here.append (Nat.succ_pos next) later)
  | .range .., _, _ => Value.Labelled.single rfl
  | .map _ _ entries, next, positive =>
      (Value.Labelled.single rfl).append positive
        (Value.labelled_identifyEntries entries (Nat.succ_pos next))
  | .date .., _, _ => Value.Labelled.single rfl
  | .timestamp .., _, _ => Value.Labelled.single rfl
termination_by structural value => value

theorem Value.labelled_identifyItems : ∀ (items : List Value) {next : Nat}, 0 < next →
    Value.Labelled next (Value.identifyItems next items).2
      (Value.itemParts (Value.identifyItems next items).1)
  | [], next, _ => Value.Labelled.nil next
  | item :: items, _, positive => by
      have here := Value.labelled_identify item positive
      have later := Value.labelled_identifyItems items (Nat.lt_of_lt_of_le positive here.le)
      exact here.append positive later
termination_by structural items => items

theorem Value.labelled_identifyEntries : ∀ (entries : List (Value × Value)) {next : Nat}, 0 < next →
    Value.Labelled next (Value.identifyEntries next entries).2
      (Value.entryParts (Value.identifyEntries next entries).1)
  | [], next, _ => Value.Labelled.nil next
  | (key, value) :: entries, _, positive => by
      have ofKey := Value.labelled_identify key positive
      have ofValue := Value.labelled_identify value (Nat.lt_of_lt_of_le positive ofKey.le)
      have both := ofKey.append positive ofValue
      have later := Value.labelled_identifyEntries entries (Nat.lt_of_lt_of_le positive both.le)
      exact both.append positive later
termination_by structural entries => entries

end

namespace Value

theorem strictEquals_iff_of_identity {left : Value} (object : left.identity?.isSome)
    (right : Value) : left.strictEquals right = true ↔ left = right := by
  cases left <;> cases right <;> simp_all [strictEquals, identity?]

/-- Among the parts of a value that was given identities, the strict equality of a
container or a date with any part is that of their identities. -/
theorem strictEquals_iff_identity (root : Value) {next : Nat} (unshared : firstIdentity ≤ next)
    {left right : Value} (leftPart : left ∈ (root.identify next).1.parts)
    (rightPart : right ∈ (root.identify next).1.parts) (object : left.identity?.isSome) :
    left.strictEquals right = true ↔ left.identity? = right.identity? := by
  have positive : 0 < next := Nat.lt_of_lt_of_le (by decide) unshared
  have labelled := root.labelled_identify positive
  obtain ⟨label, has⟩ := Option.isSome_iff_exists.mp object
  rw [strictEquals_iff_of_identity object]
  constructor
  · exact congrArg identity?
  · intro same
    exact labelled.distinct left leftPart right rightPart label has (same ▸ has)

end Value

end Stencil
