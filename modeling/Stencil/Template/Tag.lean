import Stencil.Template.Matcher

/-!
# Tags

The tokens of the template language.  A tag stands between two braces on
either side.  Block tags open, divide and close `if` and `foreach` blocks; an
include tag names another view; any other tag without braces inside is an
expression; and a placeholder is a tag for one given name.
-/

namespace Stencil.Tag

def opening : Text := ['\x7b', '\x7b']

def closing : Text := ['\x7d', '\x7d']

/-- What a tag says in a block structure. -/
inductive Mark where
  | opens (header : Text)
  | closes
  | separates
  deriving DecidableEq, Repr

def ifOpening : Text := opening ++ ['i', 'f']

def foreachOpening : Text := opening ++ ['f', 'o', 'r', 'e', 'a', 'c', 'h', ':']

def includeOpening : Text := opening ++ ['i', 'n', 'c', 'l', 'u', 'd', 'e', ':']

def elseTag : Text := opening ++ ['e', 'l', 's', 'e'] ++ closing

def endifTag : Text := opening ++ ['e', 'n', 'd', 'i', 'f'] ++ closing

def endforeachTag : Text :=
  opening ++ ['e', 'n', 'd', 'f', 'o', 'r', 'e', 'a', 'c', 'h'] ++ closing

theorem ifOpening_ne_nil : ifOpening ≠ [] := by decide

theorem foreachOpening_ne_nil : foreachOpening ≠ [] := by decide

theorem includeOpening_ne_nil : includeOpening ≠ [] := by decide

theorem elseTag_ne_nil : elseTag ≠ [] := by decide

theorem endifTag_ne_nil : endifTag ≠ [] := by decide

theorem endforeachTag_ne_nil : endforeachTag ≠ [] := by decide

/-- A tag with a beginning of its own: what follows that, up to the first pair
of closing braces, is its header.  Blank characters before the header may be
demanded; they are no part of it. -/
def headed (start : Text) (nonempty : start ≠ []) (spaced : Bool) (accepts : Text → Bool) :
    Matcher Text where
  read text := do
    let rest ← Text.after? start text
    let blanks := if spaced then rest.takeWhile Text.isBlank else []
    let rest := if spaced then rest.dropWhile Text.isBlank else rest
    if spaced && blanks.isEmpty then none
    else
      let (header, rest) ← Text.cut? closing rest
      if accepts header then some (start ++ blanks ++ header ++ closing, header, rest)
      else none
  sound := by
    intro text raw header rest read
    simp only [Option.bind_eq_bind, Option.bind_eq_some_iff] at read
    obtain ⟨body, after, read⟩ := read
    rw [Text.after?_eq_some_iff] at after
    have parts : body = (if spaced then body.takeWhile Text.isBlank else [])
        ++ (if spaced then body.dropWhile Text.isBlank else body) := by
      cases spaced <;> simp
    generalize (if spaced then body.takeWhile Text.isBlank else []) = blanks at read parts
    generalize (if spaced then body.dropWhile Text.isBlank else body) = tail at read parts
    split at read
    · exact absurd read (by simp)
    · rw [Option.bind_eq_some_iff] at read
      obtain ⟨⟨found, later⟩, cut, read⟩ := read
      split at read
      · simp only [Option.some.injEq, Prod.mk.injEq] at read
        obtain ⟨rfl, rfl, rfl⟩ := read
        refine ⟨by simp [nonempty], ?_⟩
        rw [after, parts, Text.eq_append_of_cut? cut]
        simp
      · exact absurd read (by simp)

/-- What the header of a block says. -/
def Mark.ofHeader (matcher : Matcher Text) : Matcher Mark where
  read text := (matcher.read text).map fun (raw, header, rest) => (raw, .opens header, rest)
  sound := by
    intro text raw token rest read
    simp only [Option.map_eq_some_iff, Prod.mk.injEq, Prod.exists] at read
    obtain ⟨_, _, _, found, rfl, rfl, rfl⟩ := read
    exact matcher.sound found

def ifTag : Matcher Text := headed ifOpening ifOpening_ne_nil true fun _ => true

def foreachTag : Matcher Text := headed foreachOpening foreachOpening_ne_nil false fun _ => true

def ifMarks : Matcher Mark :=
  (Mark.ofHeader ifTag).orElse
    ((Matcher.literal endifTag endifTag_ne_nil .closes).orElse
      (Matcher.literal elseTag elseTag_ne_nil .separates))

def foreachMarks : Matcher Mark :=
  (Mark.ofHeader foreachTag).orElse (Matcher.literal endforeachTag endforeachTag_ne_nil .closes)

/-- Whether a text stays on one line. -/
def isOneLine (text : Text) : Bool :=
  '\n' ∉ text

/-- An include tag, which stands on one line; it says the name of a view. -/
def includeTag : Matcher Text := headed includeOpening includeOpening_ne_nil false isOneLine

/-- Whether a character is neither brace. -/
def isInner (char : Char) : Bool :=
  char != '\x7b' && char != '\x7d'

/-- The expression inside a tag: the interior without blank characters around
it, or the last character if all are blank. -/
def expression (interior : Text) : Text :=
  let inner := Text.trim interior
  if inner = [] then interior.drop (interior.length - 1) else inner

/-- Any tag that has something inside, but no brace; it says its expression. -/
def expressionTag : Matcher Text where
  read text := do
    let rest ← Text.after? opening text
    let interior := rest.takeWhile isInner
    if interior.isEmpty then none
    else
      let rest ← Text.after? closing (rest.dropWhile isInner)
      some (opening ++ interior ++ closing, expression interior, rest)
  sound := by
    intro text raw token rest read
    simp only [Option.bind_eq_bind, Option.bind_eq_some_iff] at read
    obtain ⟨body, after, read⟩ := read
    rw [Text.after?_eq_some_iff] at after
    split at read
    · exact absurd read (by simp)
    · rw [Option.bind_eq_some_iff] at read
      obtain ⟨tail, close, read⟩ := read
      rw [Text.after?_eq_some_iff] at close
      simp only [Option.some.injEq, Prod.mk.injEq] at read
      obtain ⟨rfl, rfl, rfl⟩ := read
      refine ⟨by simp [opening], ?_⟩
      conv => lhs; rw [after, ← List.takeWhile_append_dropWhile (p := isInner) (l := body), close]
      simp

/-- A name with blank characters after it and the end of a tag, of which
`blanks` characters were taken before it. -/
def nameAt? (name text : Text) (blanks : Nat) : Option (Text × Unit × Text) := do
  let rest ← Text.after? name (text.drop blanks)
  let tail ← Text.after? closing (rest.dropWhile Text.isBlank)
  some (opening ++ text.take blanks ++ name ++ rest.takeWhile Text.isBlank ++ closing, (), tail)

theorem eq_append_of_nameAt? {name text : Text} {blanks : Nat} {raw : Text} {token : Unit}
    {rest : Text} (read : nameAt? name text blanks = some (raw, token, rest)) :
    opening ++ text = raw ++ rest := by
  simp only [nameAt?, Option.bind_eq_bind, Option.bind_eq_some_iff] at read
  obtain ⟨body, after, tail, close, read⟩ := read
  rw [Text.after?_eq_some_iff] at after close
  simp only [Option.some.injEq, Prod.mk.injEq, true_and] at read
  obtain ⟨rfl, rfl⟩ := read
  conv => lhs; rw [← List.take_append_drop blanks text, after,
    ← List.takeWhile_append_dropWhile (p := Text.isBlank) (l := body), close]
  simp

/-- The placeholder of a name, which may stand between blank characters.  As
many blank characters as possible are taken before the name. -/
def placeholder (name : Text) : Matcher Unit where
  read text := do
    let rest ← Text.after? opening text
    let blanks := (rest.takeWhile Text.isBlank).length
    (List.range (blanks + 1)).reverse.findSome? (nameAt? name rest)
  sound := by
    intro text raw token rest read
    simp only [Option.bind_eq_bind, Option.bind_eq_some_iff] at read
    obtain ⟨body, after, read⟩ := read
    rw [Text.after?_eq_some_iff] at after
    obtain ⟨blanks, _, found⟩ := List.exists_of_findSome?_eq_some read
    have whole := eq_append_of_nameAt? found
    refine ⟨?_, by rw [after, whole]⟩
    simp only [nameAt?, Option.bind_eq_bind, Option.bind_eq_some_iff] at found
    obtain ⟨_, _, _, _, found⟩ := found
    simp only [Option.some.injEq, Prod.mk.injEq] at found
    obtain ⟨rfl, _⟩ := found
    simp [opening]

end Stencil.Tag
