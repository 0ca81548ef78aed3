/-!
# Texts

A text is a list of characters, so that every function on it is a recursion a
proof can follow.  This module holds the cutting and joining that the rest of
the library is made of; each cut gives back parts whose concatenation is the
text that was cut.
-/

namespace Stencil

/-- A text is its characters in order. -/
abbrev Text := List Char

namespace Text

/-- What follows `head`, if the text begins with it. -/
def after? : Text → Text → Option Text
  | [], text => some text
  | _ :: _, [] => none
  | expected :: head, char :: text =>
      if expected = char then after? head text else none

theorem after?_eq_some_iff {head text rest : Text} :
    after? head text = some rest ↔ text = head ++ rest := by
  induction head generalizing text with
  | nil =>
      simp only [after?, Option.some.injEq, List.nil_append]
  | cons expected head ih =>
      cases text with
      | nil => simp [after?]
      | cons char text =>
          by_cases same : expected = char
          · simp [after?, same, ih]
          · simp [after?, same, Ne.symm same]

def startsWith (text head : Text) : Bool :=
  (after? head text).isSome

def endsWith (text tail : Text) : Bool :=
  startsWith text.reverse tail.reverse

/-- The text before and after the first occurrence of `needle`. -/
def cut? (needle : Text) : Text → Option (Text × Text)
  | [] => (after? needle []).map fun rest => ([], rest)
  | char :: text =>
      match after? needle (char :: text) with
      | some rest => some ([], rest)
      | none => (cut? needle text).map fun (before, rest) => (char :: before, rest)

theorem eq_append_of_cut? {needle text before rest : Text}
    (found : cut? needle text = some (before, rest)) :
    text = before ++ needle ++ rest := by
  induction text generalizing before with
  | nil =>
      simp only [cut?, Option.map_eq_some_iff, Prod.mk.injEq] at found
      obtain ⟨tail, here, rfl, rfl⟩ := found
      simpa using after?_eq_some_iff.mp here
  | cons char text ih =>
      simp only [cut?] at found
      split at found
      · rename_i tail here
        simp only [Option.some.injEq, Prod.mk.injEq] at found
        obtain ⟨rfl, rfl⟩ := found
        simpa using after?_eq_some_iff.mp here
      · simp only [Option.map_eq_some_iff, Prod.mk.injEq, Prod.exists] at found
        obtain ⟨earlier, tail, later, rfl, rfl⟩ := found
        simp [ih later]

def has (text needle : Text) : Bool :=
  (cut? needle text).isSome

/-- The text with the first occurrence of `needle`, if any, replaced. -/
def replaceFirst (needle replacement text : Text) : Text :=
  match cut? needle text with
  | some (before, rest) => before ++ replacement ++ rest
  | none => text

/-- The stretches between the occurrences of one character; one stretch more
than there are occurrences. -/
def split (delimiter : Char) : Text → List Text
  | [] => [[]]
  | char :: text =>
      if char = delimiter then [] :: split delimiter text
      else match split delimiter text with
        | [] => [[char]]
        | stretch :: later => (char :: stretch) :: later

theorem split_ne_nil (delimiter : Char) (text : Text) :
    split delimiter text ≠ [] := by
  cases text with
  | nil => simp [split]
  | cons char text =>
      simp only [split]
      split
      · simp
      · split <;> simp

/-- The parts in order with `separator` between each two. -/
def join (separator : Text) : List Text → Text
  | [] => []
  | [part] => part
  | part :: next :: later => part ++ separator ++ join separator (next :: later)

theorem join_split (delimiter : Char) (text : Text) :
    join [delimiter] (split delimiter text) = text := by
  induction text with
  | nil => rfl
  | cons char text ih =>
      have nonempty := split_ne_nil delimiter text
      simp only [split]
      split
      · rename_i same
        cases stretches : split delimiter text with
        | nil => exact absurd stretches nonempty
        | cons stretch later =>
            rw [stretches] at ih
            simp [join, ih, same]
      · cases stretches : split delimiter text with
        | nil => exact absurd stretches nonempty
        | cons stretch later =>
            rw [stretches] at ih
            cases later with
            | nil => simpa [join] using ih
            | cons next later => simpa [join] using ih

/-- The text without its last `count` characters. -/
def dropEnd (count : Nat) (text : Text) : Text :=
  text.take (text.length - count)

/-- The order of texts by code points. -/
def before : Text → Text → Bool
  | _, [] => false
  | [], _ :: _ => true
  | left :: lefts, right :: rights =>
      if left.toNat < right.toNat then true
      else if right.toNat < left.toNat then false
      else before lefts rights

def sort (texts : List Text) : List Text :=
  texts.mergeSort fun left right => !before right left

/-- An ASCII letter, digit or underscore: what names of filters and helpers
are made of. -/
def isNameChar (char : Char) : Bool :=
  char.isAlphanum || char = '_'

def isDigit (char : Char) : Bool :=
  '0' ≤ char ∧ char ≤ '9'

/-- Whether a character is in one of the runs given by their first and last code
points. -/
def inRanges (ranges : List (Nat × Nat)) (char : Char) : Bool :=
  ranges.any fun (first, last) => first ≤ char.toNat && char.toNat ≤ last

/-- The letters of a text with the ASCII capitals made small. -/
def lowerAscii (text : Text) : Text :=
  text.map Char.toLower

end Text

end Stencil
